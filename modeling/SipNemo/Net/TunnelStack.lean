import SipNemo.Lib.Nesting
import SipNemo.Net.Packet

/-!
# The tunnel stack of a packet

`add_tunnel` pushes the addresses and the ports of the IP header, and `delete_tunnel` takes the
last ones back.  Between the calls the agents write others into the header.  The calls are brackets
(`stackStep`): whatever is written between them, a well-nested sequence leaves the stack and the
size of the packet as they were, and each `delete_tunnel` gives back what the `add_tunnel` it
matches saw (`tunnels_bracket`).
-/

namespace SipNemo

open Nesting Runs

/-- The record `add_tunnel` makes of the IP header. -/
def Packet.record (p : Packet) : Tunnel where
  saddr := p.iph.saddr
  sport := p.iph.sport
  daddr := p.iph.daddr
  dport := p.iph.dport

/-- `saddr()`, `sport()`, `daddr()` and `dport()` are assigned. -/
def Packet.rewrite (p : Packet) (t : Tunnel) : Packet :=
  { p with
    iph.saddr := t.saddr
    iph.sport := t.sport
    iph.daddr := t.daddr
    iph.dport := t.dport }

/-- What an agent does to a packet. -/
inductive TunnelCall
  | addTunnel
  | deleteTunnel
  | rewrite (header : Tunnel)
  deriving DecidableEq, Repr

namespace TunnelCall

/-- The bracket of a call. -/
def bracket : TunnelCall → Option DyckStep
  | .addTunnel => some .U
  | .deleteTunnel => some .D
  | .rewrite _ => none

/-- One call. -/
def perform (p : Packet) : TunnelCall → Act Packet
  | .addTunnel => .ok (SipNemo.addTunnel p)
  | .deleteTunnel => SipNemo.deleteTunnel p
  | .rewrite header => .ok (p.rewrite header)

end TunnelCall

open TunnelCall

variable {p q : Packet} {calls : List TunnelCall}

/-- The calls are brackets on the stack of tunnels, which shows the record of the header. -/
theorem stackStep : StackStep bracket perform Packet.tunnels Packet.record where
  opening := by
    intro p i hi
    cases i with
    | addTunnel => exact ⟨addTunnel p, rfl, rfl⟩
    | deleteTunnel => cases hi
    | rewrite header => cases hi
  closing := by
    intro p i t ts hi hp
    cases i with
    | addTunnel => cases hi
    | deleteTunnel => exact ⟨p.closed t ts, deleteTunnel_of_cons hp, rfl, rfl⟩
    | rewrite header => cases hi
  closing_nil := by
    intro p i hi hp
    cases i with
    | addTunnel => cases hi
    | deleteTunnel => exact ⟨.assertion, by rw [perform, deleteTunnel, hp]⟩
    | rewrite header => cases hi
  other := by
    intro p i hi
    cases i with
    | addTunnel => cases hi
    | deleteTunnel => cases hi
    | rewrite header => exact ⟨p.rewrite header, rfl, rfl⟩

/-- `delete_tunnel` fails in one way. -/
theorem deleteTunnel_eq_error {e : Abort} :
    deleteTunnel p = .error e ↔ e = .assertion ∧ p.tunnels = [] := by
  unfold deleteTunnel
  split
  · rename_i hp
    exact ⟨fun h => ⟨(Except.error.inj h).symm, hp⟩, fun h => congrArg _ h.1.symm⟩
  · rename_i t ts hp
    refine iff_of_false nofun fun h => ?_
    rw [h.2] at hp
    cases hp

/-- The size of a packet without its tunnels. -/
def Packet.innerSize (p : Packet) : ℤ := p.cmn.size - ipv6HeaderSize * sizeTunnel p

/-- Each call changes the size of the packet with the height of the stack. -/
theorem innerSize_perform {i : TunnelCall} (h : perform p i = .ok q) :
    q.innerSize = p.innerSize := by
  cases i with
  | addTunnel =>
    cases h
    simp only [Packet.innerSize, sizeTunnel, addTunnel, List.length_cons]
    push_cast
    ring
  | deleteTunnel =>
    obtain ⟨t, ts, hp, rfl⟩ := deleteTunnel_ok h
    simp only [Packet.innerSize, sizeTunnel, Packet.closed, hp, List.length_cons]
    push_cast
    ring
  | rewrite header =>
    cases h
    rfl

theorem innerSize_run (h : runSteps perform p calls = .ok q) : q.innerSize = p.innerSize := by
  refine runSteps_invariant_of_any (I := fun q : Packet => q.innerSize = p.innerSize) ?_ rfl h
  intro s i s' hs hstep
  rw [innerSize_perform hstep, hs]

/-- So packets with the same number of tunnels have the same size. -/
theorem size_run (h : runSteps perform p calls = .ok q) (htunnels : q.tunnels = p.tunnels) :
    q.cmn.size = p.cmn.size := by
  have hinner := innerSize_run h
  unfold Packet.innerSize sizeTunnel at hinner
  rw [htunnels] at hinner
  exact sub_left_injective hinner

/-- Two packets have the same addresses and ports. -/
structure Packet.SameEnds (p q : Packet) : Prop where
  saddr : p.iph.saddr = q.iph.saddr
  sport : p.iph.sport = q.iph.sport
  daddr : p.iph.daddr = q.iph.daddr
  dport : p.iph.dport = q.iph.dport

/-- A `delete_tunnel` after `before` gives the packet `q` the addresses and the ports that the
`add_tunnel` it matches saw, and the tunnels; nothing else of its header changes. -/
def Restores (p : Packet) (before : List TunnelCall) : Prop :=
  ∃ start inside seen q q', IsMatching bracket before start .addTunnel inside ∧
    runSteps perform p start = .ok seen ∧ runSteps perform p before = .ok q ∧
    deleteTunnel q = .ok q' ∧ q'.SameEnds seen ∧ q' = q.closed seen.record seen.tunnels

theorem restores_of_covered {before : List TunnelCall} (hcov : Covered bracket before)
    (hopen : closings bracket before < openings bracket before) (p : Packet) :
    Restores p before := by
  obtain ⟨start, o, inside, hmatch⟩ := exists_isMatching hcov hopen
  obtain rfl : o = .addTunnel := by
    cases o with
    | addTunnel => rfl
    | deleteTunnel => cases hmatch.opening
    | rewrite header => cases hmatch.opening
  obtain ⟨seen, q, hseen, hq, hstack⟩ := stackStep.stack_of_isMatching hmatch hcov p
  exact ⟨start, inside, seen, q, _, hmatch, hseen, hq, deleteTunnel_of_cons hstack,
    ⟨rfl, rfl, rfl, rfl⟩, rfl⟩

/-- The calls in a row bracket the packet: well-nested ones give it its stack and its size back, and
each closing one its header of the matching time; one that closes more than was opened, before the
calls or by them, fails. -/
theorem tunnels_bracket (p : Packet) :
    (∀ calls, WellNested bracket calls →
      (∃ q, runSteps perform p calls = .ok q ∧ q.tunnels = p.tunnels ∧ q.cmn.size = p.cmn.size) ∧
        ∀ before after, calls = before ++ .deleteTunnel :: after → Restores p before) ∧
    ∀ calls q, runSteps perform p calls = .ok q →
      (deleteTunnel q = .error .assertion ↔
        sizeTunnel p + openings bracket (calls ++ [.deleteTunnel]) <
          closings bracket (calls ++ [.deleteTunnel])) := by
  refine ⟨fun calls hnested => ⟨?_, ?_⟩, fun calls q hrun => ?_⟩
  · obtain ⟨q, hrun, htunnels⟩ := stackStep.run_of_wellNested hnested p
    exact ⟨q, hrun, htunnels, size_run hrun htunnels⟩
  · rintro before after rfl
    have hcov : Covered bracket (before ++ [.deleteTunnel]) := by
      have hall := hnested.covered
      rw [List.append_cons] at hall
      exact hall.of_append
    have hle := hcov _ List.prefix_rfl
    rw [openings_append, closings_append] at hle
    exact restores_of_covered hcov.of_append (by simpa [openings, closings, bracket] using hle) p
  · have hfails := stackStep.closing_fails_iff (i := .deleteTunnel) rfl hrun
    refine Iff.trans ⟨fun h => ⟨.assertion, h⟩, ?_⟩ hfails
    rintro ⟨e, he⟩
    obtain ⟨rfl, -⟩ := deleteTunnel_eq_error.1 he
    exact he

/-- A packet goes through a tunnel in a tunnel. -/
def twoTunnels : List TunnelCall :=
  [.addTunnel, .rewrite ⟨1, 2, 3, 4⟩, .addTunnel, .rewrite ⟨5, 6, 7, 8⟩, .deleteTunnel,
    .deleteTunnel]

theorem wellNested_twoTunnels : WellNested bracket twoTunnels := by
  have hinner : WellNested bracket [.addTunnel, .rewrite ⟨5, 6, 7, 8⟩, .deleteTunnel] :=
    (wellNested_of_other rfl).nest rfl rfl
  have hrewrite : WellNested bracket [.rewrite ⟨1, 2, 3, 4⟩] := wellNested_of_other rfl
  exact (hrewrite.append hinner).nest rfl rfl

/-- Each end of a tunnel restores the header that its beginning saw. -/
theorem tunnels_bracket_twoTunnels :
    (∃ q, runSteps perform (allocpkt 9 100) twoTunnels = .ok q ∧ q.tunnels = [] ∧
      q.cmn.size = 0) ∧
      Restores (allocpkt 9 100) (twoTunnels.take 4) ∧
      Restores (allocpkt 9 100) (twoTunnels.take 5) := by
  obtain ⟨hends, hrestores⟩ := (tunnels_bracket (allocpkt 9 100)).1 _ wellNested_twoTunnels
  exact ⟨hends, hrestores _ _ rfl, hrestores _ _ rfl⟩

end SipNemo
