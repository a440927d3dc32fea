import Mathlib.Tactic

/-!
# Addresses, interfaces and packets

The data both agents of the repository work on.  Addresses are `int`s of 32 bits with `-1`
for "none"; under the three-level hierarchical format of the simulation scripts (10, 11 and 11
bits) the mask `0xFFFFF800` cuts the node part off, which leaves the prefix.

A packet carries the headers that `UdpmysipAgent` and `MIPV6Agent` read and write: common, IP,
SIP, NEMO and the tunnel stack.  `Packet::alloc` zeroes every header, and `Agent::allocpkt`
then fills in source, destination, type and size.

`Abort` lists the ways in which the C++ leaves its defined behaviour: a failed `assert`, a
null pointer dereferenced, an index outside a vector, a remainder by zero, the end of a map
dereferenced, a shift by the width of the type or more; a call of `exit`; and calls that nest
without end.
-/

namespace SipNemo

/-- A 32-bit node address (`nsaddr_t`). -/
abbrev Addr := BitVec 32

/-- The address `-1`: no address. -/
def noAddr : Addr := -1

/-- `a & 0xFFFFF800`. -/
def prefixOf (a : Addr) : Addr := a &&& 0xFFFFF800#32

/-- `Address::str2addr("d.c.n")` in the hierarchical format with 10, 11 and 11 bits. -/
def str2addr (d c n : ℕ) : Addr := BitVec.ofNat 32 (d <<< 22 ||| c <<< 11 ||| n)

/-- A prefix has a zero node part, so it is never `-1`. -/
theorem prefixOf_ne_noAddr (a : Addr) : prefixOf a ≠ noAddr := by
  intro h
  have h0 : (prefixOf a).getLsbD 0 = noAddr.getLsbD 0 := by rw [h]
  simp [prefixOf, noAddr] at h0

/-- The ways to leave defined behaviour. -/
inductive Abort
  | assertion
  | nullPointer
  | outOfRange
  | divisionByZero
  | endOfMap
  | shiftCount
  | exit
  | recursion
  deriving DecidableEq, Repr

/-- A computation of the simulator that may abort. -/
abbrev Act (α : Type) := Except Abort α

/-- Dereference a pointer. -/
def deref {α : Type} : Option α → Act α
  | some a => .ok a
  | none => .error .nullPointer

/-- `assert(p != NULL)`, and the pointer. -/
def assertNonNull {α : Type} : Option α → Act α
  | some a => .ok a
  | none => .error .assertion

/-- `v[i]`. -/
def index {α : Type} (v : List α) (i : ℕ) : Act α :=
  match v[i]? with
  | some a => .ok a
  | none => .error .outOfRange

/-- `a % n`. -/
def remainder (a n : ℕ) : Act ℕ :=
  if n = 0 then .error .divisionByZero else .ok (a % n)

@[simp] theorem deref_eq_ok {α : Type} {o : Option α} {a : α} : deref o = .ok a ↔ o = some a := by
  cases o <;> simp [deref]

@[simp] theorem assertNonNull_eq_ok {α : Type} {o : Option α} {a : α} :
    assertNonNull o = .ok a ↔ o = some a := by
  cases o <;> simp [assertNonNull]

@[simp] theorem deref_some {α : Type} (a : α) : deref (some a) = .ok a := rfl

@[simp] theorem assertNonNull_some {α : Type} (a : α) : assertNonNull (some a) = .ok a := rfl

theorem index_eq_ok {α : Type} {v : List α} {i : ℕ} {a : α} :
    index v i = .ok a ↔ v[i]? = some a := by
  unfold index
  cases v[i]? <;> simp

theorem lt_length_of_index {α : Type} {v : List α} {i : ℕ} {a : α} (h : index v i = .ok a) :
    i < v.length :=
  (List.getElem?_eq_some_iff.1 (index_eq_ok.1 h)).1

/-- An interface node, as a pointer. -/
abbrev NodeId := ℕ

/-- An `Agent/NEMO` connected to the interface `iface`. -/
structure NEMOAgent where
  iface : NodeId
  addr : Addr
  port : ℤ
  deriving DecidableEq, Repr

/-- The packet types the agents tell apart. -/
inductive PacketType
  | udp
  | nemo
  deriving DecidableEq, Repr

/-- `hdr_cmn`. -/
structure HdrCmn where
  ptype : PacketType := .udp
  size : ℤ := 0
  deriving DecidableEq, Repr

/-- `hdr_ip`. -/
structure HdrIp where
  saddr : Addr := 0
  sport : ℤ := 0
  daddr : Addr := 0
  dport : ℤ := 0
  prio : ℤ := 0
  deriving DecidableEq, Repr

/-- `hdr_mysip`, less the fields only the application reads. -/
structure HdrMysip where
  ack : ℤ := 0
  seq : ℤ := 0
  nbytes : ℤ := 0
  method : ℤ := 0
  requestURLId : ℤ := 0
  requestURL : Addr := 0
  fromId : ℤ := 0
  fromURL : Addr := 0
  toId : ℤ := 0
  toURL : Addr := 0
  contactId : ℤ := 0
  contact : Addr := 0
  refer : Addr := 0
  cip : Addr := 0
  cport : ℤ := 0
  deriving DecidableEq, Repr

/-- `Mipv6RegType`. -/
inductive RegType
  | breq | bu | back | rehome | buHa | buBs | buCn | buRp | buMn
  | bsAds | bsSol | buMr | rehomeMrHa | buMrHa
  deriving DecidableEq, Repr

/-- `hdr_nemo`, less the lifetime and the `R` flag, which no code reads. -/
structure HdrNemo where
  type : RegType := .breq
  A : ℤ := 0
  H : ℤ := 0
  seqno : ℤ := 0
  nemoPrefix : Addr := 0
  haddr : Addr := 0
  coa : Addr := 0
  deriving DecidableEq, Repr

/-- `ON`, the value of a set flag. -/
def ON : ℤ := 1

/-- One record of the tunnel stack. -/
structure Tunnel where
  saddr : Addr
  sport : ℤ
  daddr : Addr
  dport : ℤ
  deriving DecidableEq, Repr

/-- A packet.  `tunnels` has the record pushed last (`tunnels().end()-1`) at its head. -/
structure Packet where
  cmn : HdrCmn := {}
  iph : HdrIp := {}
  mh : HdrMysip := {}
  nh : HdrNemo := {}
  tunnels : List Tunnel := []
  deriving DecidableEq, Repr

/-- `Agent::allocpkt` of an agent at `addr`, `port` that is connected to no destination. -/
def allocpkt (addr : Addr) (port : ℤ) : Packet :=
  { iph := { saddr := addr, sport := port, daddr := noAddr, dport := -1 } }

/-- `IPv6_HEADER_SIZE`. -/
def ipv6HeaderSize : ℤ := 2 * 16 + 8

/-- `BU_SIZE`: destination header, binding update and home address options. -/
def buSize : ℤ := 2 + 10 + 18

/-- `BACK_SIZE`. -/
def backSize : ℤ := 2 + 13

/-- `MIPV6Agent::add_tunnel`. -/
def addTunnel (p : Packet) : Packet :=
  { p with
    cmn.size := p.cmn.size + ipv6HeaderSize
    tunnels :=
      { saddr := p.iph.saddr, sport := p.iph.sport, daddr := p.iph.daddr, dport := p.iph.dport }
        :: p.tunnels }

/-- `p` with the addresses of the tunnel record `t`, when `ts` remains on the stack. -/
def Packet.closed (p : Packet) (t : Tunnel) (ts : List Tunnel) : Packet :=
  { p with
    cmn.size := p.cmn.size - ipv6HeaderSize
    iph.saddr := t.saddr
    iph.sport := t.sport
    iph.daddr := t.daddr
    iph.dport := t.dport
    tunnels := ts }

/-- `MIPV6Agent::delete_tunnel`, which asserts that the stack is not empty. -/
def deleteTunnel (p : Packet) : Act Packet :=
  match p.tunnels with
  | [] => .error .assertion
  | t :: ts => .ok (p.closed t ts)

/-- `MIPV6Agent::size_tunnel`. -/
def sizeTunnel (p : Packet) : ℕ := p.tunnels.length

/-- `iph->daddr() = a`. -/
def Packet.setDaddr (p : Packet) (a : Addr) : Packet := { p with iph.daddr := a }

/-- `iph->dport() = n`. -/
def Packet.setDport (p : Packet) (n : ℤ) : Packet := { p with iph.dport := n }

/-- `iph->saddr() = a`. -/
def Packet.setSaddr (p : Packet) (a : Addr) : Packet := { p with iph.saddr := a }

theorem deleteTunnel_of_cons {p : Packet} {t : Tunnel} {ts : List Tunnel}
    (h : p.tunnels = t :: ts) : deleteTunnel p = .ok (p.closed t ts) := by
  rw [deleteTunnel, h]

theorem deleteTunnel_ok {p q : Packet} (h : deleteTunnel p = .ok q) :
    ∃ t ts, p.tunnels = t :: ts ∧ q = p.closed t ts := by
  unfold deleteTunnel at h
  split at h
  · cases h
  · rename_i t ts hts
    exact ⟨t, ts, hts, (Except.ok.inj h).symm⟩

/-- Closing a tunnel returns to what the opening saw, whatever was rewritten in the headers
between them. -/
theorem deleteTunnel_addTunnel (p : Packet) (iph : HdrIp) :
    deleteTunnel { addTunnel p with iph := iph } =
      .ok { p with iph := { p.iph with prio := iph.prio } } := by
  simp [deleteTunnel, addTunnel, Packet.closed]

/-- The addresses of the outer header do not matter when the tunnel is closed. -/
@[simp] theorem deleteTunnel_setDaddr (p : Packet) (d : Addr) :
    deleteTunnel ((addTunnel p).setDaddr d) = .ok p :=
  deleteTunnel_addTunnel p { p.iph with daddr := d }

/-- What an agent hands to the network: through a NEMO agent's interface, by its own `send`, or
scheduled at a node's entry point. -/
inductive Out
  | via (agent : NEMOAgent) (p : Packet)
  | send (p : Packet)
  | entry (node : NodeId) (p : Packet)
  deriving DecidableEq, Repr

/-- The packet of an output. -/
def Out.packet : Out → Packet
  | .via _ p => p
  | .send p => p
  | .entry _ p => p

/-- The hand-over to a mobile base station: with `mr_bs_daddr` set the packet is tunnelled to
it, to the given port if there is one. -/
def toMrBs (mrBsDaddr : Addr) (dport : Option ℤ) (p : Packet) : Packet :=
  if mrBsDaddr = noAddr then p
  else
    let p := (addTunnel p).setDaddr mrBsDaddr
    match dport with
    | none => p
    | some n => p.setDport n

@[simp] theorem toMrBs_noAddr (dport : Option ℤ) (p : Packet) : toMrBs noAddr dport p = p := rfl

end SipNemo
