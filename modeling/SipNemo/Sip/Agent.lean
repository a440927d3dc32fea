import SipNemo.Lib.FirstMatch
import SipNemo.Lib.Runs
import SipNemo.Net.Packet

/-!
# The SIP agent: binding list and lookups

`UdpmysipAgent` keeps its bindings in one linked list, `siplist_head_`, which holds entries of
every kind: the configured home agents of a mobile router (`SIP_MR_HA`, one for each external
interface), the mobile nodes registered behind it (`SIP_MN`), correspondents (`SIP_CN`), and so
on.  New entries go to the head, none is ever removed, and every lookup returns the first entry
that matches.
-/

namespace SipNemo.Sip

open FirstMatch

/-- `SipNodeType`. -/
inductive SipNodeType
  | sipMn | sipMnHa | sipMr | sipMrHa | sipCn | sipMrBs
  deriving DecidableEq, Repr

/-- `SIPEntry`; the defaults are those of its constructor. -/
structure SIPEntry where
  type : SipNodeType
  addrId : ℤ := -1
  addr : Addr := noAddr
  urlId : ℤ := -1
  url : Addr := noAddr
  conId : ℤ := -1
  con : Addr := noAddr
  nemoPrefix : Addr := noAddr
  eface : Option NEMOAgent := none
  iface : Option NEMOAgent := none
  deriving DecidableEq, Repr

/-- `update_entry(url_id, url, contact_id, contact)`. -/
def SIPEntry.updateEntry (e : SIPEntry) (urlId : ℤ) (url : Addr) (conId : ℤ) (con : Addr) :
    SIPEntry :=
  { e with urlId := urlId, url := url, conId := conId, con := con }

/-- `con() = c`. -/
def SIPEntry.setCon (e : SIPEntry) (c : Addr) : SIPEntry := { e with con := c }

section SetCon

variable (e : SIPEntry) (c : Addr)

@[simp] theorem SIPEntry.setCon_con : (e.setCon c).con = c := rfl
@[simp] theorem SIPEntry.setCon_type : (e.setCon c).type = e.type := rfl
@[simp] theorem SIPEntry.setCon_urlId : (e.setCon c).urlId = e.urlId := rfl
@[simp] theorem SIPEntry.setCon_eface : (e.setCon c).eface = e.eface := rfl
@[simp] theorem SIPEntry.setCon_nemoPrefix : (e.setCon c).nemoPrefix = e.nemoPrefix := rfl
@[simp] theorem SIPEntry.setCon_setCon (d : Addr) : (e.setCon c).setCon d = e.setCon d := rfl

end SetCon

/-- The counters and the random numbers that the selection policies consume.  `roundCount` is an
`int` kept modulo `2 ^ 32`; `draws k` is what the `k`-th next `Random::random()` returns. -/
structure Selector where
  roundCount : ℕ := 0
  weightCount : ℕ := 0
  weightCount2 : ℕ := 0
  draws : ℕ → ℕ := fun _ => 0

/-- `UdpmysipAgent`: configuration, binding list and selection state.  `mipv6Port` is the port of
`mipv6_`, if that is set, and `address` gives the current address of every interface node. -/
structure UdpmysipAgent where
  nodeType : SipNodeType := .sipCn
  addr : Addr := noAddr
  port : ℤ := -1
  select : ℤ := 0
  expMr : ℤ := 0
  mrBsDaddr : Addr := noAddr
  mipv6Port : Option ℤ := none
  siplist : List SIPEntry := []
  sel : Selector := {}
  address : NodeId → Addr := fun _ => noAddr

/-! ### The tests of the lookups -/

/-- `type() == SIP_MR_HA && con() != -1`. -/
def isLive (e : SIPEntry) : Bool := e.type == .sipMrHa && e.con != noAddr

/-- `eface() != NULL && eface()->get_iface() == iface`. -/
def onIface (iface : NodeId) (e : SIPEntry) : Bool :=
  match e.eface with
  | some f => f.iface == iface
  | none => false

/-- `eface() != NULL && eface()->get_iface() != iface`. -/
def offIface (iface : NodeId) (e : SIPEntry) : Bool :=
  match e.eface with
  | some f => f.iface != iface
  | none => false

def hasUrlId (urlId : ℤ) (e : SIPEntry) : Bool := e.urlId == urlId

def hasType (t : SipNodeType) (e : SIPEntry) : Bool := e.type == t

def isCnWithUrlId (urlId : ℤ) (e : SIPEntry) : Bool := e.type == .sipCn && e.urlId == urlId

/-! ### The lookups -/

section Lookup

variable (l : List SIPEntry)

def getEntryByUrlId (urlId : ℤ) : Option SIPEntry := l.find? (hasUrlId urlId)

def getEntryByIface (iface : NodeId) : Option SIPEntry := l.find? (onIface iface)

def getEntryWithoutIface (iface : NodeId) : Option SIPEntry := l.find? (offIface iface)

def getEntryByType (t : SipNodeType) : Option SIPEntry := l.find? (hasType t)

def getIfaceAgentByPrefix (pre : Addr) : Option NEMOAgent :=
  (l.find? fun e => e.nemoPrefix == pre).bind (·.iface)

def getMrHaEntryByCaddr (caddr : Addr) : Option SIPEntry :=
  l.find? fun e => e.type == .sipMrHa && e.con == caddr

def getMnEntryByUrlId (urlId : ℤ) : Option SIPEntry :=
  l.find? fun e => e.type == .sipMn && e.urlId == urlId

def getCnEntryByUrlId (urlId : ℤ) : Option SIPEntry := l.find? (isCnWithUrlId urlId)

def getMrHaEntryByPrefix (pre : Addr) : Option SIPEntry :=
  l.find? fun e => e.type == .sipMrHa && e.nemoPrefix == pre

def getMrEntryByPrefix (pre : Addr) : Option SIPEntry :=
  l.find? fun e => e.type == .sipMr && e.nemoPrefix == pre

/-- `get_mr_entry`, and in the same way `get_entry_by_type(SIP_MR)`. -/
def getMrEntry : Option SIPEntry := getEntryByType l .sipMr

def getMrHaEntryActive : Option SIPEntry := l.find? isLive

/-- The vector `mr_ha` that every selection policy collects. -/
def liveMrHa : List SIPEntry := l.filter isLive

/-- The vector `mn` that the renewals collect. -/
def mobileNodes : List SIPEntry := l.filter (hasType .sipMn)

end Lookup

/-! ### Registration -/

/-- A new entry of type `t` under the `From` id of a message, with its contact. -/
def SIPEntry.ofHeader (t : SipNodeType) (mh : HdrMysip) : SIPEntry :=
  ({ type := t : SIPEntry }).updateEntry mh.fromId mh.fromURL mh.contactId mh.contact

/-- A new mobile node, which also records the contact as its own address. -/
def SIPEntry.newMn (mh : HdrMysip) : SIPEntry :=
  { SIPEntry.ofHeader .sipMn mh with addrId := mh.contactId, addr := mh.contact }

@[simp] theorem SIPEntry.newMn_type (mh : HdrMysip) : (SIPEntry.newMn mh).type = .sipMn := rfl
@[simp] theorem SIPEntry.newMn_eface (mh : HdrMysip) : (SIPEntry.newMn mh).eface = none := rfl

/-- `registration(p, type)`.  The entry of a mobile router or a mobile node is looked up by the
contact id, that of a correspondent by the `From` id; in each case the `From` id names a new
entry. -/
def registration (l : List SIPEntry) (mh : HdrMysip) : SipNodeType → List SIPEntry
  | .sipMr =>
    match getEntryByUrlId l mh.contactId with
    | none => SIPEntry.ofHeader .sipMr mh :: l
    | some _ => updateFirst (hasUrlId mh.contactId) (·.setCon mh.contact) l
  | .sipMn =>
    match getEntryByUrlId l mh.contactId with
    | none => SIPEntry.newMn mh :: l
    | some _ => updateFirst (hasUrlId mh.contactId) (·.setCon mh.contact) l
  | .sipCn =>
    match getEntryByUrlId l mh.fromId with
    | none => SIPEntry.ofHeader .sipCn mh :: l
    | some _ => updateFirst (hasUrlId mh.fromId) (·.setCon mh.contact) l
  | _ => l

end SipNemo.Sip
