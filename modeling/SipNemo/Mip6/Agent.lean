import SipNemo.Lib.FirstMatch
import SipNemo.Lib.Runs
import SipNemo.Net.Packet

/-!
# The MIPv6 agent: binding list and lookups

One class, `MIPV6Agent`, plays every part of nested mobility: mobile node, its home agent,
mobile router, the router's home agent, correspondent and mobile base station.  Its bindings are
in one linked list, `bulist_head_`, searched from the head by whatever field the caller has in
hand; new entries go to the head and none is removed.
-/

namespace SipNemo.Mip6

open FirstMatch

/-- `Mipv6NodeType`. -/
inductive Mipv6NodeType
  | mn | mnHa | mr | mrHa | cn | mrBs
  deriving DecidableEq, Repr

/-- `BUEntry`, less the binding id, which nothing reads; the defaults are those of its
constructor. -/
structure BUEntry where
  type : Mipv6NodeType
  addr : Addr := noAddr
  haddr : Addr := noAddr
  caddr : Addr := noAddr
  nemoPrefix : Addr := noAddr
  eface : Option NEMOAgent := none
  iface : Option NEMOAgent := none
  deriving DecidableEq, Repr

/-- `caddr() = c`. -/
def BUEntry.setCaddr (e : BUEntry) (c : Addr) : BUEntry := { e with caddr := c }

/-- `addr() = a`. -/
def BUEntry.setAddr (e : BUEntry) (a : Addr) : BUEntry := { e with addr := a }

/-- A node's entry at a mobile router follows an external interface: care-of address and
interface of the home agent entry `ha`. -/
def BUEntry.follow (ha e : BUEntry) : BUEntry := { e with caddr := ha.caddr, eface := ha.eface }

section Fields

variable (e ha : BUEntry) (c : Addr)

@[simp] theorem BUEntry.setCaddr_caddr : (e.setCaddr c).caddr = c := rfl
@[simp] theorem BUEntry.setCaddr_type : (e.setCaddr c).type = e.type := rfl
@[simp] theorem BUEntry.setCaddr_addr : (e.setCaddr c).addr = e.addr := rfl
@[simp] theorem BUEntry.setCaddr_haddr : (e.setCaddr c).haddr = e.haddr := rfl
@[simp] theorem BUEntry.setCaddr_nemoPrefix : (e.setCaddr c).nemoPrefix = e.nemoPrefix := rfl
@[simp] theorem BUEntry.follow_caddr : (ha.follow e).caddr = ha.caddr := rfl
@[simp] theorem BUEntry.follow_eface : (ha.follow e).eface = ha.eface := rfl
@[simp] theorem BUEntry.follow_type : (ha.follow e).type = e.type := rfl
@[simp] theorem BUEntry.follow_addr : (ha.follow e).addr = e.addr := rfl
@[simp] theorem BUEntry.follow_haddr : (ha.follow e).haddr = e.haddr := rfl
@[simp] theorem BUEntry.follow_nemoPrefix : (ha.follow e).nemoPrefix = e.nemoPrefix := rfl

end Fields

/-- `MIPV6Agent`: configuration, binding list, the prefixes a base station serves, and the current
address of every interface node. -/
structure MIPV6Agent where
  nodeType : Mipv6NodeType
  addr : Addr := noAddr
  port : ℤ := -1
  exp : ℤ := 0
  expMr : ℤ := 0
  mrBsDaddr : Addr := noAddr
  mnFlag : ℤ := 0
  bulist : List BUEntry := []
  bslist : List Addr := []
  address : NodeId → Addr := fun _ => noAddr

/-! ### The tests of the lookups -/

def hasAddr (a : Addr) (e : BUEntry) : Bool := e.addr == a

def hasHaddr (h : Addr) (e : BUEntry) : Bool := e.haddr == h

def hasCaddr (c : Addr) (e : BUEntry) : Bool := e.caddr == c

def hasPrefix (pre : Addr) (e : BUEntry) : Bool := e.nemoPrefix == pre

def hasType (t : Mipv6NodeType) (e : BUEntry) : Bool := e.type == t

/-- `eface() != NULL && eface()->get_iface() == iface`. -/
def onIface (iface : NodeId) (e : BUEntry) : Bool :=
  match e.eface with
  | some f => f.iface == iface
  | none => false

/-- `eface() != NULL && eface()->get_iface() != iface`. -/
def offIface (iface : NodeId) (e : BUEntry) : Bool :=
  match e.eface with
  | some f => f.iface != iface
  | none => false

def isMrHaWithCaddr (c : Addr) (e : BUEntry) : Bool := hasType .mrHa e && hasCaddr c e

def isMrHaWithPrefix (pre : Addr) (e : BUEntry) : Bool := hasType .mrHa e && hasPrefix pre e

def isMrWithPrefix (pre : Addr) (e : BUEntry) : Bool := hasType .mr e && hasPrefix pre e

def isMrHaOnIface (iface : NodeId) (e : BUEntry) : Bool := hasType .mrHa e && onIface iface e

def isMrHaOffIface (iface : NodeId) (e : BUEntry) : Bool := hasType .mrHa e && offIface iface e

/-- `type() == MR && addr() != 0`. -/
def isNeighbourMr (e : BUEntry) : Bool := hasType .mr e && e.addr != 0

/-- `type() == MR_HA && caddr() != -1`. -/
def isMrHaOn (e : BUEntry) : Bool := hasType .mrHa e && e.caddr != noAddr

/-- `type() == MR_HA && caddr() == -1`. -/
def isMrHaOff (e : BUEntry) : Bool := hasType .mrHa e && e.caddr == noAddr

/-- The test of `get_mr_bs_entry_by_mface`. -/
def isMrBsOnIface (iface : NodeId) (e : BUEntry) : Bool := hasType .mrBs e && onIface iface e

/-! ### The lookups -/

section Lookup

variable (l : List BUEntry)

def getEntryByIface (iface : NodeId) : Option BUEntry := l.find? (onIface iface)

def getEntryByPrefix (pre : Addr) : Option BUEntry := l.find? (hasPrefix pre)

def getIfaceAgentByPrefix (pre : Addr) : Option NEMOAgent :=
  (getEntryByPrefix l pre).bind (·.iface)

def getEntryByHaddr (h : Addr) : Option BUEntry := l.find? (hasHaddr h)

def getEntryByCaddr (c : Addr) : Option BUEntry := l.find? (hasCaddr c)

def getEntryByAddr (a : Addr) : Option BUEntry := l.find? (hasAddr a)

def getEntryByType (t : Mipv6NodeType) : Option BUEntry := l.find? (hasType t)

def getMrHaEntryByCaddr (c : Addr) : Option BUEntry := l.find? (isMrHaWithCaddr c)

def getMrHaEntryByIface (iface : NodeId) : Option BUEntry := l.find? (isMrHaOnIface iface)

def getMrHaEntryWithoutIface (iface : NodeId) : Option BUEntry := l.find? (isMrHaOffIface iface)

def getMrEntryByPrefix (pre : Addr) : Option BUEntry := l.find? (isMrWithPrefix pre)

def getMrHaEntryByPrefix (pre : Addr) : Option BUEntry := l.find? (isMrHaWithPrefix pre)

def getMrEntry : Option BUEntry := l.find? isNeighbourMr

def getMrHaEntryOn : Option BUEntry := l.find? isMrHaOn

def getMrHaEntryOff : Option BUEntry := l.find? isMrHaOff

def getMrBsEntry : Option BUEntry := getEntryByType l .mrBs

def getMrBsEntryByMface (mface : NodeId) : Option BUEntry := l.find? (isMrBsOnIface mface)

end Lookup

/-- `is_daddr_mr_bs_prefix_`. -/
def isDaddrMrBsPrefix (a : MIPV6Agent) (daddr : Addr) : Bool := a.bslist.contains daddr

/-! ### Registration -/

/-- A new entry for a mobile router that announces a nemo prefix. -/
def BUEntry.newMr (nh : HdrNemo) : BUEntry :=
  { type := .mr, haddr := nh.haddr, caddr := nh.coa, nemoPrefix := nh.nemoPrefix }

/-- A new entry for a mobile node; the source of the message is where it can be reached. -/
def BUEntry.newMn (p : Packet) : BUEntry :=
  { type := .mn, addr := p.iph.saddr, haddr := p.nh.haddr, caddr := p.nh.coa }

/-- `registration(p, type)`: a known home address only gets the new care-of address. -/
def registration (l : List BUEntry) (p : Packet) : Mipv6NodeType → List BUEntry
  | .mr =>
    match getEntryByHaddr l p.nh.haddr with
    | none => BUEntry.newMr p.nh :: l
    | some _ => updateFirst (hasHaddr p.nh.haddr) (·.setCaddr p.nh.coa) l
  | .mn =>
    match getEntryByHaddr l p.nh.haddr with
    | none => BUEntry.newMn p :: l
    | some _ => updateFirst (hasHaddr p.nh.haddr) (·.setCaddr p.nh.coa) l
  | _ => l

end SipNemo.Mip6
