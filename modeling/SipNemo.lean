import SipNemo.Lib.FirstMatch
import SipNemo.Lib.Runs
import SipNemo.Net.Packet
import SipNemo.Sip.Agent
import SipNemo.Sip.Select
import SipNemo.Sip.Bindings
import SipNemo.Sip.Selection
import SipNemo.Sip.RoundRobin
import SipNemo.Sip.Default
import SipNemo.Mip6.Agent
import SipNemo.Mip6.Signalling
import SipNemo.Mip6.Tunneling
import SipNemo.Lib.Registry
import SipNemo.Mip6.HomeAgent
import SipNemo.Mip6.Router
import SipNemo.Lib.Network
import SipNemo.Mip6.Nested
import SipNemo.Mip6.NestedData
import SipNemo.Mip6.Rehoming
import SipNemo.Sip.MobileNode
import SipNemo.Sip.Redirect
import SipNemo.Sip.Reassembly
import SipNemo.Lib.RequestTable
import SipNemo.Lib.Subscribers
import SipNemo.Lib.EventQueue
import SipNemo.Mih.Interface
import SipNemo.Mih.Agent
import SipNemo.Mih.Delivery
import SipNemo.Mih.Deregistration
import SipNemo.Mih.Indications
import SipNemo.Mih.Frames
import SipNemo.Mih.Peers
import SipNemo.Mih.ScanRequests
import SipNemo.Mih.ScanConfirm
import SipNemo.Mih.RemoteEvents
import SipNemo.Mih.Requests
import SipNemo.Mih.Sessions
import SipNemo.Mih.Timers
import SipNemo.Mih.Transactions
import SipNemo.Nd.Agent
import SipNemo.Nd.PrefixTimers
import SipNemo.Nd.Neighbors
import SipNemo.Nd.Relay
import SipNemo.Net.TimerHandler
import SipNemo.Mip6.FlowRequests
import SipNemo.Mac.Station
import SipNemo.Mac.Scan
import SipNemo.Mac.ScanResult
import SipNemo.Lib.Alternation
import SipNemo.Lib.Outcome
import SipNemo.Lib.Monitor
import SipNemo.Mac.FullScan
import SipNemo.Mac.Attachment
import SipNemo.Mac.Supervision
import SipNemo.Mac.Transmit
import SipNemo.Mac.ClientSide
import SipNemo.Mac.Packets
import SipNemo.Mac.Discipline
import SipNemo.Mac.Exchange
import SipNemo.Mac.ClientList
import SipNemo.Mac.ClientLinks
import SipNemo.Mac.Consumption
import SipNemo.Mac.Retries
import SipNemo.Mac.Threshold
import SipNemo.Mac.GoingDown
import SipNemo.Mac.Handover
import SipNemo.Mac.ScanChannels
import SipNemo.Mih.LinkStatus
import SipNemo.Net.InterfaceQueue
import SipNemo.Net.QueueBytes
import SipNemo.Nd.Pacing
import SipNemo.Nd.Solicitation
import SipNemo.Sip.Rehome
import SipNemo.Sip.SelectionTotal
import SipNemo.Sip.Rebalance
import SipNemo.Sip.Fairness
import SipNemo.Sip.Correspondents
import SipNemo.Mip6.HomeAddresses
import SipNemo.Mip6.FlowAdmission
import SipNemo.Sip.LossAccounting
import SipNemo.Handover.Agent
import SipNemo.Handover.LinkDown
import SipNemo.Handover.ScanConfirm
import SipNemo.Handover.Connecting
import SipNemo.Lib.Nesting
import SipNemo.Net.TunnelStack
import SipNemo.Mih.SubscriptionLists
import SipNemo.Lib.Sweep
import SipNemo.Handover.NewPrefix
import SipNemo.Lib.Spans
import SipNemo.Lib.Reception
import SipNemo.Mac.MacTimers
import SipNemo.Mac.Medium
import SipNemo.Mac.Listening
import SipNemo.Mac.Reception
import SipNemo.Mac.CarrierSense
import SipNemo.Mac.Backoff
import SipNemo.Lib.Stutter
import SipNemo.Mac.Duplicates
import SipNemo.Mac.LeftAlone
import SipNemo.Lib.LastWrite
import SipNemo.Handover.Redirection
import SipNemo.Lib.Conservation
import SipNemo.Sip.Relaying
import SipNemo.Sip.Application
import SipNemo.Sip.Calls
import SipNemo.Lib.Dwell
import SipNemo.Mac.StatWatch
import SipNemo.Mac.Overload
import SipNemo.Mac.LinkParameters
import SipNemo.Mac.Reservation
import SipNemo.Mac.Handshake
