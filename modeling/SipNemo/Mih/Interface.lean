import SipNemo.Lib.Subscribers
import SipNemo.Mih.Types

/-!
# The interfaces of an MIH agent

`MIHInterfaceInfo` of `mih-iface.cc`: a MAC with its status and, for each event, the local users
and the remote sessions that have subscribed to it.
-/

namespace SipNemo.Mih

/-- `MIHInterfaceInfo`; `mac` is set for the interfaces of the agent's own node.
`subscribedEventList` is the field of that MAC which `link_event_subscribe` writes. -/
structure MIHInterfaceInfo where
  mac : Option Mac
  type : BitVec 32
  macAddr : MacAddr
  macPoA : MacAddr
  status : InterfaceStatus
  localSub : MihEvent → Subscribers UserId
  remoteSub : MihEvent → Subscribers SessionRef
  subscribedEventList : BitVec 32

namespace MIHInterfaceInfo

/-- `MIHInterfaceInfo(mac)`. -/
def ofMac (mac : Mac) : MIHInterfaceInfo where
  mac := some mac
  type := mac.type
  macAddr := mac.addr
  macPoA := -1
  status := .down
  localSub := fun _ => .empty
  remoteSub := fun _ => .empty
  subscribedEventList := 0

/-- `isLocal`. -/
def isLocal (info : MIHInterfaceInfo) : Bool := info.mac.isSome

/-- `setStatus`. -/
def setStatus (info : MIHInterfaceInfo) (status : InterfaceStatus) : MIHInterfaceInfo :=
  { info with status := status }

/-- `event_subscribe`. -/
def eventSubscribe (info : MIHInterfaceInfo) (upper : UserId) (events : BitVec 32) :
    MIHInterfaceInfo :=
  { info with
    localSub := fun i =>
      if inEventList events i then (info.localSub i).add upper else info.localSub i }

/-- `event_unsubscribe`. -/
def eventUnsubscribe (info : MIHInterfaceInfo) (upper : UserId) (events : BitVec 32) :
    MIHInterfaceInfo :=
  { info with
    localSub := fun i =>
      if inEventList events i then (info.localSub i).remove upper else info.localSub i }

/-- `remote_event_subscribe`. -/
def remoteEventSubscribe (info : MIHInterfaceInfo) (remote : SessionRef) (events : BitVec 32) :
    MIHInterfaceInfo :=
  { info with
    remoteSub := fun i =>
      if inEventList events i then (info.remoteSub i).add remote else info.remoteSub i }

/-- `remote_event_unsubscribe`. -/
def remoteEventUnsubscribe (info : MIHInterfaceInfo) (remote : SessionRef)
    (events : BitVec 32) : MIHInterfaceInfo :=
  { info with
    remoteSub := fun i =>
      if inEventList events i then (info.remoteSub i).remove remote else info.remoteSub i }

/-- `getRegisteredLocalUser`. -/
def getRegisteredLocalUser (info : MIHInterfaceInfo) (event : MihEvent) : List UserId :=
  (info.localSub event).list

/-- `getRegisteredRemoteUser`. -/
def getRegisteredRemoteUser (info : MIHInterfaceInfo) (event : MihEvent) : List SessionRef :=
  (info.remoteSub event).list

/-- `mac->link_event_subscribe(events)`: the events the MAC can report are switched on and
returned. -/
def linkEventSubscribe (info : MIHInterfaceInfo) (mac : Mac) (events : BitVec 32) :
    MIHInterfaceInfo × BitVec 32 :=
  let status := events &&& mac.eventList
  ({ info with subscribedEventList := info.subscribedEventList ||| status }, status)

variable {info : MIHInterfaceInfo} {remote r : SessionRef} {events : BitVec 32} {e : MihEvent}

/-- Every event is in the list `0xFFFFFFFF`. -/
theorem inEventList_all (e : MihEvent) : inEventList 0xFFFFFFFF e = true := by
  cases e <;> decide

theorem mem_remoteEventSubscribe (h : r ∈ (info.remoteEventSubscribe remote events).remoteSub e) :
    r ∈ info.remoteSub e ∨ r = remote := by
  unfold remoteEventSubscribe at h
  by_cases he : inEventList events e = true
  · simp only [he, if_true] at h
    exact Subscribers.mem_add.1 h
  · simp only [he] at h
    exact Or.inl h

theorem mem_remoteEventUnsubscribe
    (h : r ∈ (info.remoteEventUnsubscribe remote events).remoteSub e) :
    r ∈ info.remoteSub e := by
  unfold remoteEventUnsubscribe at h
  by_cases he : inEventList events e = true
  · simp only [he, if_true] at h
    exact (Subscribers.mem_remove.1 h).2
  · simp only [he] at h
    exact h

/-- Unsubscribing from every event leaves no subscription. -/
theorem not_mem_remoteEventUnsubscribe_all :
    remote ∉ (info.remoteEventUnsubscribe remote 0xFFFFFFFF).remoteSub e := by
  intro h
  simp only [remoteEventUnsubscribe, inEventList_all, if_true] at h
  exact (Subscribers.mem_remove.1 h).1 rfl

end MIHInterfaceInfo

end SipNemo.Mih
