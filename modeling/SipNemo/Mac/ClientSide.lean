import SipNemo.Mac.Transmit

/-!
# The clients of an access point

Of what the MAC does its clients see the entries in `list_client_head_`, the management frames and
the link events (`ClientSide`).  `tx_resume` and the timers leave most of the state alone (`kept`,
`lasting`), so each step is one of a few operations on what the clients see (`step_clientSide`).
-/

namespace SipNemo.Mac

open FirstMatch Outcome Runs
open Mih (MacAddr)

/-- An access point as its clients see it: the entries, the management frames and the link
events. -/
structure ClientSide where
  ap : Bool
  mib : Mib
  pktManagement : Option MgmtFrame
  managementQueue : List MgmtFrame
  clients : List Client
  links : List TxOutput

namespace ClientSide

variable (c : ClientSide)

/-- Another management frame. -/
def enque (m : MgmtFrame) : ClientSide :=
  if c.pktManagement = none then { c with pktManagement := some m }
  else { c with managementQueue := c.managementQueue ++ [m] }

/-- The next management frame. -/
def deque : ClientSide :=
  { c with pktManagement := c.managementQueue.head?, managementQueue := c.managementQueue.tail }

/-- A frame was sent too often. -/
def giveUp (m : MgmtFrame) : ClientSide :=
  let c := { c with clients := c.clients.eraseP (·.pkt = m.ptr) }
  let c :=
    if m.subtype = .assocReq then { c with pktManagement := none, managementQueue := [] } else c
  c.deque

/-- A management frame was not answered, after `ssrc` frames that were not. -/
def unanswered (ssrc : ℕ) : ClientSide :=
  match c.pktManagement with
  | none => c
  | some m =>
    if m.ra = macBroadcast then c.deque
    else if c.mib.shortRetryLimit ≤ countUp ssrc then c.giveUp m
    else c

/-- The response to a client was acknowledged. -/
def associate (m : MgmtFrame) (cl : Client) : ClientSide :=
  let c := if cl.status ≠ .associated then { c with links := c.links ++ [.linkUp m.ra] } else c
  let clients := updateFirst (·.pkt = m.ptr) (fun cl => { cl with status := .associated }) c.clients
  { c with
    clients := clients.map fun cl => if cl.id = m.ra then { cl with joined := true } else cl }

/-- A management frame was acknowledged. -/
def acknowledged : ClientSide :=
  match c.pktManagement with
  | none => c
  | some m =>
    if m.subtype = .assocRes then
      match c.clients.find? (·.pkt = m.ptr) with
      | none => c
      | some cl => (c.associate m cl).deque
    else c.deque

/-- A station asks for an association. -/
def admitClient (src : MacAddr) (ptr : ℕ) : ClientSide :=
  let m : MgmtFrame := { ptr := ptr, subtype := .assocRes, ra := src, size := c.mib.assocResplen }
  match c.clients.find? (·.id = src) with
  | none =>
    { c.enque m with clients := { id := src, pkt := ptr, status := .pending } :: c.clients }
  | some cl =>
    if cl.status = .associated then
      { c.enque m with
        clients := updateFirst (·.id = src) (fun cl => { cl with pkt := ptr, status := .pending })
          c.clients }
    else c

/-- A station sends a probe request. -/
def probe (src : MacAddr) (ptr : ℕ) : ClientSide :=
  c.enque { ptr := ptr, subtype := .probeRes, ra := src, size := c.mib.probeReqlen }

/-- The timer of a client expires. -/
def timeout (d : MacAddr) : ClientSide :=
  match c.clients.find? (·.id = d) with
  | none => c
  | some _ =>
    { c with links := c.links ++ [.linkDown d], clients := c.clients.eraseP (·.id = d) }

/-! ### What does not change -/

/-- Whether the MAC is an access point, and its parameters. -/
def fixed (c : ClientSide) : Bool × Mib := (c.ap, c.mib)

theorem enque_fixed (m : MgmtFrame) : (c.enque m).fixed = c.fixed := by
  unfold enque
  split_ifs
  · rfl
  · rfl

theorem giveUp_fixed (m : MgmtFrame) : (c.giveUp m).fixed = c.fixed := by
  unfold giveUp
  dsimp only
  split_ifs
  · rfl
  · rfl

theorem unanswered_fixed (ssrc : ℕ) : (c.unanswered ssrc).fixed = c.fixed := by
  unfold unanswered
  split
  · rfl
  · split_ifs
    · rfl
    · exact c.giveUp_fixed _
    · rfl

theorem associate_fixed (m : MgmtFrame) (cl : Client) : (c.associate m cl).fixed = c.fixed := by
  unfold associate
  dsimp only
  split_ifs
  · rfl
  · rfl

theorem acknowledged_fixed : c.acknowledged.fixed = c.fixed := by
  unfold acknowledged
  split
  · rfl
  · split_ifs
    · split
      · rfl
      · exact c.associate_fixed _ _
    · rfl

theorem admitClient_fixed (src : MacAddr) (ptr : ℕ) : (c.admitClient src ptr).fixed = c.fixed := by
  unfold admitClient
  dsimp only
  split
  · exact c.enque_fixed _
  · split_ifs
    · exact c.enque_fixed _
    · rfl

theorem timeout_fixed (d : MacAddr) : (c.timeout d).fixed = c.fixed := by
  unfold timeout
  split
  · rfl
  · rfl

end ClientSide

namespace Transmitter

variable {s t : Transmitter} {n : ℕ}

/-! ### What `tx_resume` leaves alone -/

/-- Whether the output is a link event. -/
def isLinkEvent : TxOutput → Bool
  | .linkUp _ => true
  | .linkDown _ => true
  | _ => false

/-- The state without what `tx_resume` may change. -/
def kept (s : Transmitter) : Transmitter :=
  { s with
    txState := .idle, mhDefer := false, deferFor := .difs, mhBackoff := .idle, pktRTS := false
    pktTx := none, tmpPacket := none, callback := false, ifq := [], blocked := false
    log := s.log.filter isLinkEvent }

theorem setTxState_kept (s : Transmitter) (x : MacState) : (s.setTxState x).kept = s.kept := by
  obtain ⟨b, hb, -⟩ := s.setTxState_eq x
  rw [hb]
  rfl

theorem emit_kept (s : Transmitter) {o : TxOutput} (ho : isLinkEvent o = false) :
    (s.emit o).kept = s.kept := by
  simp [kept, emit, ho]

theorem startDefer_keeps (s : Transmitter) (ifs : Ifs) : Keeps kept (s.startDefer ifs) s :=
  keeps_assertThat rfl

theorem deferUnlessBackoff_keeps (s : Transmitter) (ifs : Ifs) :
    Keeps kept (s.deferUnlessBackoff ifs) s := by
  unfold deferUnlessBackoff
  split_ifs
  · exact s.startDefer_keeps _
  · exact rfl

theorem awaitMedium_keeps (s : Transmitter) : Keeps kept s.awaitMedium s := by
  rcases s.awaitMedium_cases with ⟨h, -⟩ | ⟨h, -⟩ | ⟨h, -⟩
  · rw [h]
    exact rfl
  · rw [h]
    exact rfl
  · rw [h]
    exact rfl

theorem sendRTS_keeps (s : Transmitter) (dst : MacAddr) : Keeps kept (s.sendRTS dst) s := by
  refine keeps_assertNonNull fun p _ => keeps_assertThat ?_
  split_ifs
  · exact rfl
  · exact rfl

theorem takePacket_keeps (s : Transmitter) (p : DataFrame) : Keeps kept (s.takePacket p) s := by
  unfold takePacket sendDATA
  refine Keeps.bind (keeps_assertThat ?_) fun t => (t.sendRTS_keeps _).bind awaitMedium_keeps
  exact s.emit_kept rfl

theorem send_keeps (s : Transmitter) {resume : Transmitter → Act Transmitter}
    (hresume : ∀ t, Keeps kept (resume t) t) (p : DataFrame) : Keeps kept (s.send resume p) s := by
  have hpassed : (s.emit (.passed p s.clients)).kept = s.kept := s.emit_kept rfl
  have hdrop : ((s.emit (.passed p s.clients)).discardPacket p).kept = s.kept :=
    (emit_kept _ rfl).trans hpassed
  unfold Transmitter.send
  dsimp only
  split_ifs
  · exact (hresume _).of_eq hdrop
  · exact hdrop
  · exact (emit_kept _ rfl).trans hpassed
  · exact (takePacket_keeps _ p).of_eq hpassed

theorem resumeQueue_keeps (s : Transmitter) {resume : Transmitter → Act Transmitter}
    (hresume : ∀ t, Keeps kept (resume t) t) : Keeps kept (s.resumeQueue resume) s := by
  unfold resumeQueue
  split
  · exact rfl
  · rename_i p q hq
    exact (send_keeps _ hresume p).of_eq (emit_kept { s with ifq := q } rfl)

theorem txResume_keeps (n : ℕ) (s : Transmitter) : Keeps kept (s.txResume n) s := by
  induction n generalizing s with
  | zero => trivial
  | succ n ih =>
    unfold txResume
    refine keeps_assertThat (keeps_assertThat (Keeps.bind ?_ fun t => t.setTxState_kept .idle))
    split_ifs
    · exact s.startDefer_keeps _
    · exact s.deferUnlessBackoff_keeps _
    · exact s.deferUnlessBackoff_keeps _
    · exact rfl
    · exact s.deferUnlessBackoff_keeps _
    · exact s.deferUnlessBackoff_keeps _
    · split
      · exact (s.send_keeps ih _).bind fun t => rfl
      · exact (resumeQueue_keeps _ ih).of_eq (s.emit_kept rfl)
    · exact rfl

/-! ### What the timers leave alone -/

/-- The state without what changes while frames wait for the medium and are on the air. -/
def lasting (s : Transmitter) : Transmitter :=
  { s.kept with
    rxState := .idle, nav := false, txActive := false, rxError := false, mhSend := false
    pktCTRL := none, pktBeacon := false, lastTx := none, pktRetransmit := none }

theorem lasting_of_kept (h : t.kept = s.kept) : t.lasting = s.lasting := by
  unfold lasting
  rw [h]

theorem txResume_lasting (n : ℕ) (s : Transmitter) : Keeps lasting (s.txResume n) s :=
  (txResume_keeps n s).comp fun _ => lasting_of_kept

theorem emit_lasting (s : Transmitter) {o : TxOutput} (ho : isLinkEvent o = false) :
    (s.emit o).lasting = s.lasting :=
  lasting_of_kept (s.emit_kept ho)

theorem arrive_lasting (s : Transmitter) (p : DataFrame) :
    Keeps lasting (s.arrive n p) s := by
  unfold arrive
  dsimp only
  split_ifs
  · exact rfl
  split
  · exact rfl
  · rename_i q ps hps
    have hsend := send_keeps ({ s with ifq := ps, blocked := true }.emit (.handed q))
      (txResume_keeps n) q
    exact (hsend.comp fun _ => lasting_of_kept).of_eq (emit_lasting _ rfl)

theorem startDefer_lasting (s : Transmitter) (ifs : Ifs) : Keeps lasting (s.startDefer ifs) s :=
  keeps_assertThat rfl

theorem startBackoff_lasting (s : Transmitter) : Keeps lasting s.startBackoff s :=
  keeps_assertThat rfl

theorem sendRTS_lasting (s : Transmitter) (dst : MacAddr) :
    Keeps lasting (s.sendRTS dst) s :=
  (s.sendRTS_keeps dst).comp fun _ => lasting_of_kept

theorem transmit_lasting (s : Transmitter) (x : MacState) (f : FramePtr) :
    Keeps lasting ((s.setTxState x).transmit f) s := by
  obtain ⟨b, hb, -⟩ := s.setTxState_eq x
  rw [hb]
  exact keeps_assertThat rfl

/-- A check that does something leaves the rest alone. -/
def CheckKeeps (check : Act (Option Transmitter)) (s : Transmitter) : Prop :=
  Meets check (fun _ => True) fun r => ∀ t, r = some t → t.lasting = s.lasting

theorem checkKeeps_map {x : Act Transmitter} (h : Keeps lasting x s) :
    CheckKeeps (x.map some) s := by
  cases x with
  | ok t => exact fun u hu => Option.some.inj hu ▸ h
  | error e => trivial

theorem checkKeeps_assertThat {p : Prop} [Decidable p] {f : Unit → Act (Option Transmitter)}
    (hf : CheckKeeps (f ()) s) : CheckKeeps (assertThat p >>= f) s :=
  meets_assertThat_of (fun _ => trivial) fun _ => hf

theorem unlessDone_lasting {check : Act (Option Transmitter)} {rest : Act Transmitter}
    (hcheck : CheckKeeps check s) (hrest : Keeps lasting rest s) :
    Keeps lasting (unlessDone check rest) s := by
  refine Meets.bind hcheck fun r hr => ?_
  cases r with
  | none => exact hrest
  | some t => exact hr t rfl

theorem checkPktCTRL_keeps (s : Transmitter) : CheckKeeps s.checkPktCTRL s := by
  unfold checkPktCTRL
  split
  · exact fun _ h => nomatch h
  rename_i subtype _
  cases subtype with
  | cts =>
    dsimp only
    split_ifs
    · exact fun _ h => nomatch h
    · exact checkKeeps_map (s.transmit_lasting .cts .ctrl)
    · exact fun u hu => Option.some.inj hu ▸ rfl
  | ack =>
    dsimp only
    split_ifs
    · exact fun _ h => nomatch h
    · exact checkKeeps_map (s.transmit_lasting .ack .ctrl)

theorem checkPktBeacon_keeps (s : Transmitter) : CheckKeeps s.checkPktBeacon s := by
  refine checkKeeps_assertThat ?_
  split_ifs
  · exact fun _ h => nomatch h
  · exact checkKeeps_map (s.transmit_lasting .send .beacon)
  · exact checkKeeps_map (s.startDefer_lasting _)

theorem checkPktManagement_keeps (s : Transmitter) : CheckKeeps s.checkPktManagement s := by
  refine checkKeeps_assertThat ?_
  split_ifs
  · exact fun _ h => nomatch h
  · exact checkKeeps_map (s.transmit_lasting .send .management)
  · exact checkKeeps_map s.startBackoff_lasting

theorem checkPktRTS_keeps (s : Transmitter) : CheckKeeps s.checkPktRTS s := by
  refine checkKeeps_assertThat ?_
  split_ifs
  · exact fun _ h => nomatch h
  · exact checkKeeps_map (s.transmit_lasting .rts .rts)
  · exact checkKeeps_map s.startBackoff_lasting

theorem checkPktTx_keeps (s : Transmitter) : CheckKeeps s.checkPktTx s := by
  refine checkKeeps_assertThat ?_
  split
  · exact fun _ h => nomatch h
  split_ifs
  · exact checkKeeps_map (s.transmit_lasting .send .tx)
  · refine Meets.bind (s.sendRTS_lasting _) fun t ht => ?_
    exact checkKeeps_map (t.startBackoff_lasting.of_eq ht)

theorem backoffHandler_lasting (s : Transmitter) : Keeps lasting s.backoffHandler s := by
  unfold backoffHandler
  split_ifs
  · exact keeps_assertThat rfl
  · refine unlessDone_lasting s.checkPktBeacon_keeps ?_
    refine unlessDone_lasting s.checkPktManagement_keeps ?_
    refine unlessDone_lasting s.checkPktRTS_keeps ?_
    exact unlessDone_lasting s.checkPktTx_keeps rfl

theorem checkAfterSIFS_keeps (s : Transmitter) : CheckKeeps s.checkAfterSIFS s := by
  unfold checkAfterSIFS
  split_ifs
  · cases s.pktTx with
    | none => trivial
    | some p =>
      rw [deref_some, ok_bind]
      split_ifs
      · exact s.checkPktTx_keeps
      · exact fun _ h => nomatch h
  · exact fun _ h => nomatch h

theorem deferHandler_lasting (s : Transmitter) : Keeps lasting s.deferHandler s := by
  refine keeps_assertThat (unlessDone_lasting s.checkPktCTRL_keeps ?_)
  refine unlessDone_lasting s.checkPktBeacon_keeps (keeps_assertThat ?_)
  exact unlessDone_lasting s.checkAfterSIFS_keeps s.startBackoff_lasting

theorem navHandler_lasting (s : Transmitter) : s.navHandler.lasting = s.lasting := by
  unfold navHandler
  split_ifs
  · rfl
  · rfl

theorem setRxState_lasting (s : Transmitter) (x : MacState) :
    (s.setRxState x).lasting = s.lasting := by
  obtain ⟨b, hb, -⟩ := s.setRxState_eq x
  rw [hb]
  rfl

theorem recv_lasting (s : Transmitter) (b : FirstBit) :
    (s.recv b).lasting = s.lasting := by
  cases b with
  | received error => exact setRxState_lasting _ .recv
  | captured sets => rfl
  | collided => exact s.setRxState_lasting .coll

theorem sendBeacon_lasting (s : Transmitter) : Keeps lasting (s.sendBeacon n) s := by
  refine keeps_assertThat ?_
  dsimp only
  split_ifs
  · exact rfl
  · exact txResume_lasting n _
  · exact txResume_lasting n _
  · exact rfl

theorem freeCTRL_lasting (s : Transmitter) : Keeps lasting s.freeCTRL s :=
  keeps_assertNonNull fun _ _ => rfl

theorem resumeUnlessSending_lasting (s : Transmitter) :
    Keeps lasting (s.resumeUnlessSending n) s := by
  unfold resumeUnlessSending
  split_ifs
  · exact txResume_lasting n s
  · exact rfl

theorem recvRTS_lasting (s : Transmitter) : Keeps lasting (s.recvRTS n) s := by
  unfold recvRTS
  split_ifs
  · exact rfl
  · exact rfl
  · have hsend : Keeps lasting s.sendCTS s := keeps_assertThat rfl
    exact hsend.bind fun t => (txResume_lasting n { t with mhDefer := false }).of_eq rfl

theorem stopSend_lasting (s : Transmitter) : Keeps lasting s.stopSend s :=
  keeps_assertThat rfl

theorem sendACK_lasting (s : Transmitter) : Keeps lasting s.sendACK s :=
  keeps_assertThat rfl

theorem recvDATA_lasting (s : Transmitter) (size : ℕ) :
    Keeps lasting (s.recvDATA n size) s := by
  unfold recvDATA
  split_ifs
  · refine s.freeCTRL_lasting.bind fun t => ?_
    exact t.stopSend_lasting.bind fun u => u.sendACK_lasting.bind (txResume_lasting n)
  · exact rfl
  · exact rfl
  · refine s.sendACK_lasting.bind fun t => ?_
    split_ifs
    · exact (txResume_lasting n _).of_eq rfl
    · exact rfl

/-! ### The client side of an access point -/

def clientSide (s : Transmitter) : ClientSide :=
  { ap := s.ap
    mib := s.mib
    pktManagement := s.pktManagement
    managementQueue := s.managementQueue
    clients := s.clients
    links := s.log.filter isLinkEvent }

theorem clientSide_of_lasting (h : t.lasting = s.lasting) : t.clientSide = s.clientSide := by
  have hside := congrArg (fun u : Transmitter => ClientSide.mk u.ap u.mib u.pktManagement
    u.managementQueue u.clients u.log) h
  exact hside

theorem keeps_clientSide {x : Act Transmitter} (h : Keeps lasting x s) : Keeps clientSide x s :=
  h.comp fun _ => clientSide_of_lasting

/-! ### Frames that were not answered, and frames that arrive -/

theorem enque_clientSide (s : Transmitter) (m : MgmtFrame) :
    (s.enque m).clientSide = s.clientSide.enque m := by
  unfold enque ClientSide.enque
  split_ifs with h h' h'
  · rfl
  · exact (h' h).elim
  · exact (h h').elim
  · rfl

theorem giveUp_clientSide (s : Transmitter) (m : MgmtFrame) :
    (s.giveUp m).clientSide = s.clientSide.giveUp m := by
  unfold giveUp ClientSide.giveUp
  dsimp only
  split_ifs
  · rfl
  · rfl

theorem retransmitManagement_clientSide (s : Transmitter) :
    Meets s.retransmitManagement (fun _ => True) fun t =>
      t.clientSide = s.clientSide.unanswered s.ssrc := by
  refine meets_assertThat_of (fun _ => trivial) fun _ => ?_
  refine meets_assertNonNull_of (fun _ => trivial) fun m hm => ?_
  have hunanswered : s.clientSide.unanswered s.ssrc =
      if m.ra = macBroadcast then s.clientSide.deque
      else if s.mib.shortRetryLimit ≤ countUp s.ssrc then s.clientSide.giveUp m
      else s.clientSide := by
    unfold ClientSide.unanswered
    have hm' : s.clientSide.pktManagement = some m := hm
    rw [hm']
    rfl
  rw [hunanswered]
  dsimp only
  split_ifs
  · exact keeps_clientSide s.deque.startBackoff_lasting
  · exact giveUp_clientSide { s with ssrc := countUp s.ssrc } m
  · exact (keeps_clientSide (startBackoff_lasting { s with ssrc := countUp s.ssrc })).of_eq rfl

theorem retransmitRTS_clientSide (s : Transmitter) : Keeps clientSide s.retransmitRTS s := by
  refine keeps_assertNonNull fun _ _ => keeps_assertThat (keeps_assertThat ?_)
  dsimp only
  split_ifs
  · exact rfl
  · exact (keeps_clientSide (startBackoff_lasting _)).of_eq rfl

theorem retransmitDATA_clientSide (s : Transmitter) : Keeps clientSide s.retransmitDATA s := by
  refine keeps_assertThat (keeps_assertNonNull fun p _ => keeps_assertThat ?_)
  split_ifs
  · exact (keeps_clientSide (startBackoff_lasting { s with pktTx := none })).of_eq rfl
  · dsimp only
    split_ifs
    · exact rfl
    · have hrts := sendRTS_lasting { s with ssrc := countUp s.ssrc } p.ra
      exact (keeps_clientSide (hrts.bind startBackoff_lasting)).of_eq rfl
  · dsimp only
    split_ifs
    · exact rfl
    · have hrts := sendRTS_lasting { s with slrc := countUp s.slrc } p.ra
      exact (keeps_clientSide (hrts.bind startBackoff_lasting)).of_eq rfl

/-- `send_timer` calls `RetransmitManagement`. -/
def ManagementExpires (s : Transmitter) : Prop :=
  s.txState = .send ∧
    (s.lastTx = some .beacon ∧ s.pktBeacon = true ∧ s.pktRetransmit = some .management ∨
      s.lastTx = some .management ∧ s.pktBeacon = false)

instance (s : Transmitter) : Decidable s.ManagementExpires := inferInstanceAs (Decidable (_ ∧ _))

/-- What `send_timer` comes to for the clients. -/
def expired (s : Transmitter) : ClientSide :=
  if s.ManagementExpires then s.clientSide.unanswered s.ssrc else s.clientSide

theorem expired_of_due (h : s.ManagementExpires) : s.expired = s.clientSide.unanswered s.ssrc :=
  if_pos h

theorem expired_of_not_due (h : ¬ s.ManagementExpires) : s.expired = s.clientSide := if_neg h

theorem unanswered_of_none (h : s.pktManagement = none) (k : ℕ) :
    s.clientSide.unanswered k = s.clientSide := by
  have h' : s.clientSide.pktManagement = none := h
  unfold ClientSide.unanswered
  rw [h']

theorem pointer_eq_some {f g : FramePtr} (h : s.pointer f = some g) : g = f := by
  cases f <;> simp only [pointer] at h <;> split_ifs at h <;> exact (Option.some.inj h).symm

theorem pointer_management (s : Transmitter) :
    s.pktManagement.isSome ∧ s.pointer .management = some .management ∨
      s.pktManagement = none ∧ s.pointer .management = none := by
  by_cases h : s.pktManagement.isSome
  · exact Or.inl ⟨h, by simp [pointer, h]⟩
  · exact Or.inr ⟨Option.not_isSome_iff_eq_none.1 h, by simp [pointer, h]⟩

theorem retransmit_clientSide (s : Transmitter) :
    Meets s.retransmit (fun _ => True) fun t =>
      t.clientSide =
        if s.lastTx = some .management ∧ s.pktBeacon = false then s.clientSide.unanswered s.ssrc
        else s.clientSide := by
  unfold retransmit
  by_cases hptr : s.pointer .management = s.lastTx
  · rw [if_pos hptr]
    by_cases hbeacon : s.pktBeacon = true
    · rw [if_pos hbeacon, if_neg (by simp [hbeacon])]
      exact rfl
    · rw [if_neg hbeacon]
      refine s.retransmitManagement_clientSide.mono (fun _ _ => trivial) fun t ht => ht.trans ?_
      split_ifs with hdue
      · rfl
      · -- nothing is pending, and nothing has been sent
        rcases s.pointer_management with ⟨-, hsome⟩ | ⟨hnone, -⟩
        · exact (hdue ⟨hptr ▸ hsome, by simpa using hbeacon⟩).elim
        · exact unanswered_of_none hnone _
  · have hsame : (if s.lastTx = some .management ∧ s.pktBeacon = false then
        s.clientSide.unanswered s.ssrc else s.clientSide) = s.clientSide := by
      split_ifs with hdue
      · rcases s.pointer_management with ⟨-, hsome⟩ | ⟨hnone, -⟩
        · exact (hptr (hsome.trans hdue.1.symm)).elim
        · exact unanswered_of_none hnone _
      · rfl
    rw [if_neg hptr, hsame]
    split_ifs
    · exact rfl
    · exact s.retransmitDATA_clientSide
    · exact rfl

theorem sendExpired_clientSide (s : Transmitter) (htx : s.txState = .send) :
    Meets s.sendExpired (fun _ => True) fun t => t.clientSide = s.expired := by
  unfold sendExpired
  by_cases hptr : s.pointer .beacon = s.lastTx
  · rw [if_pos hptr]
    by_cases hbeacon : s.pktBeacon = false
    · rw [if_pos hbeacon]
      trivial
    have hbeacon' : s.pktBeacon = true := by simpa using hbeacon
    have hlast : s.lastTx = some .beacon := by simpa [pointer, hbeacon'] using hptr.symm
    rw [if_neg hbeacon]
    dsimp only
    split
    · rename_i f hf
      have hagain := retransmit_clientSide
        { s with pktBeacon := false, lastTx := some f, pktRetransmit := none }
      refine hagain.mono (fun _ _ => trivial) fun t ht => ht.trans ?_
      by_cases hmgmt : f = .management
      · rw [expired_of_due ⟨htx, Or.inl ⟨hlast, hbeacon', by rw [hf, hmgmt]⟩⟩,
          if_pos ⟨by rw [hmgmt], rfl⟩]
        rfl
      · rw [expired_of_not_due (by simp [ManagementExpires, hlast, hf, hmgmt]),
          if_neg (by simp [hmgmt])]
        rfl
    · rename_i hnone
      rw [expired_of_not_due (by simp [ManagementExpires, hlast, hnone])]
      exact rfl
  · rw [if_neg hptr]
    refine s.retransmit_clientSide.mono (fun _ _ => trivial) fun t ht => ht.trans ?_
    have hno : ¬ (s.lastTx = some .beacon ∧ s.pktBeacon = true) := by
      rintro ⟨hlast, hbeacon⟩
      exact hptr (by simp [pointer, hbeacon, hlast])
    split_ifs with hdue
    · rw [expired_of_due ⟨htx, Or.inr hdue⟩]
    · rw [expired_of_not_due fun h => ?_]
      exact h.2.elim (fun hsent => hno ⟨hsent.1, hsent.2.1⟩) hdue

theorem unansweredFrame_clientSide (s : Transmitter) :
    Meets s.unansweredFrame (fun _ => True) fun t => t.clientSide = s.expired := by
  have hfree := keeps_clientSide s.freeCTRL_lasting
  have hother : s.txState ≠ .send → s.expired = s.clientSide :=
    fun hne => expired_of_not_due fun h => hne h.1
  unfold unansweredFrame
  split
  · rename_i htx
    rw [hother (by simp [htx])]
    exact s.retransmitRTS_clientSide
  · rename_i htx
    rw [hother (by simp [htx])]
    exact hfree
  · rename_i htx
    exact s.sendExpired_clientSide htx
  · rename_i htx
    rw [hother (by simp [htx])]
    exact hfree
  · rename_i htx
    rw [hother (by simp [htx])]
    exact rfl
  · trivial
  · trivial

/-- `send_timer`. -/
theorem sendTimer_clientSide (s : Transmitter) :
    Meets (s.sendTimer n) (fun _ => True) fun t => t.clientSide = s.expired :=
  s.unansweredFrame_clientSide.bind fun t ht =>
    (keeps_clientSide (txResume_lasting n t)).mono (fun _ _ => trivial) fun _ hu => hu.trans ht

theorem recvCTS_clientSide (s : Transmitter) : Keeps clientSide (s.recvCTS n) s := by
  unfold recvCTS
  split_ifs
  · exact rfl
  · refine keeps_assertThat (keeps_assertNonNull fun _ _ => ?_)
    have hstop := keeps_clientSide (stopSend_lasting { s with pktRTS := false })
    refine Keeps.of_eq (hstop.bind fun t => ?_) rfl
    exact (keeps_clientSide (txResume_lasting n { t with ssrc := 0 })).of_eq rfl

/-- `recvACK` is for the frame in `pktManagement_`. -/
def ManagementAnswered (s : Transmitter) : Prop :=
  s.txState = .send ∧ s.lastTx = some .management

instance (s : Transmitter) : Decidable s.ManagementAnswered := inferInstanceAs (Decidable (_ ∧ _))

/-- What `recvACK` comes to for the clients. -/
def answered (s : Transmitter) : ClientSide :=
  if s.ManagementAnswered then s.clientSide.acknowledged else s.clientSide

theorem dataAcknowledged_clientSide (s : Transmitter) : Keeps clientSide s.dataAcknowledged s := by
  refine meets_deref_of (fun _ => trivial) fun p _ => ?_
  dsimp only
  split_ifs
  · exact rfl
  · exact rfl

theorem associate_clientSide (s : Transmitter) (m : MgmtFrame) (c : Client) :
    (s.associate m c).clientSide = s.clientSide.associate m c := by
  unfold associate ClientSide.associate
  dsimp only
  split_ifs
  · simp [clientSide, emit, isLinkEvent]
  · rfl

theorem managementAcknowledged_clientSide (s : Transmitter) :
    Meets s.managementAcknowledged (fun _ => True) fun t =>
      s.lastTx = some .management ∧ t.clientSide = s.clientSide.acknowledged := by
  refine meets_deref_of (fun _ => trivial) fun m hm => ?_
  refine meets_assertThat_of (fun _ => trivial) fun hlast => ?_
  have hlast' : s.lastTx = some .management := by simpa [pointer, hm] using hlast.symm
  have hack : s.clientSide.acknowledged =
      if m.subtype = .assocRes then
        match s.clients.find? (·.pkt = m.ptr) with
        | none => s.clientSide
        | some cl => (s.clientSide.associate m cl).deque
      else s.clientSide.deque := by
    have hm' : s.clientSide.pktManagement = some m := hm
    unfold ClientSide.acknowledged
    rw [hm']
    rfl
  rw [hack]
  by_cases hres : m.subtype = .assocRes
  · rw [if_pos hres, if_pos hres]
    unfold responseAcknowledged
    cases s.clients.find? (·.pkt = m.ptr) with
    | none => trivial
    | some c =>
      rw [assertNonNull_some, ok_bind, ok_bind]
      have hside := congrArg ClientSide.deque (s.associate_clientSide m c)
      split_ifs
      · exact ⟨hlast', hside⟩
      · exact ⟨hlast', hside⟩
  · rw [if_neg hres, if_neg hres, ok_bind]
    split_ifs
    · exact ⟨hlast', rfl⟩
    · exact ⟨hlast', rfl⟩

theorem recvACK_clientSide (s : Transmitter) :
    Meets (s.recvACK n) (fun _ => True) fun t => t.clientSide = s.answered := by
  unfold recvACK
  split_ifs with htx
  · have hno : ¬ s.ManagementAnswered := fun h => htx h.1
    rw [answered, if_neg hno]
    exact rfl
  have htx' := not_not.1 htx
  have hstop : Meets s.stopSend (fun _ => True) fun t => t = { s with mhSend := false } :=
    meets_assertThat_of (fun _ => trivial) fun _ => rfl
  refine meets_assertThat_of (fun _ => trivial) fun _ => hstop.bind ?_
  rintro _ rfl
  refine Meets.bind (R := fun t => t.clientSide = s.answered) ?_ fun t ht => ?_
  · split_ifs with hptr
    · have hno : ¬ s.ManagementAnswered := by
        rintro ⟨-, hlast⟩
        cases pointer_eq_some (hptr.trans hlast)
      rw [answered, if_neg hno]
      exact (dataAcknowledged_clientSide { s with mhSend := false }).of_eq rfl
    · refine (managementAcknowledged_clientSide { s with mhSend := false }).mono
        (fun _ _ => trivial) fun t ht => ?_
      rw [answered, if_pos ⟨htx', ht.1⟩]
      exact ht.2
  · refine meets_assertThat_of (fun _ => trivial) fun _ => ?_
    have hresume : Keeps clientSide ((if t.pktBeacon = false then t.startBackoff else .ok t) >>=
        txResume n) t := by
      refine keeps_clientSide (Keeps.bind ?_ (txResume_lasting n))
      split_ifs
      · exact t.startBackoff_lasting
      · exact rfl
    exact hresume.mono (fun _ _ => trivial) fun u hu => hu.trans ht

theorem admitClient_clientSide (s : Transmitter) (src : MacAddr) (ptr : ℕ) :
    (s.admitClient src ptr).clientSide = s.clientSide.admitClient src ptr := by
  have hresponse : (s.sendAssocResponse src ptr).clientSide = s.clientSide.enque
      { ptr := ptr, subtype := .assocRes, ra := src, size := s.mib.assocResplen } :=
    s.enque_clientSide _
  unfold admitClient ClientSide.admitClient
  dsimp only [clientSide] at hresponse ⊢
  cases s.clients.find? (·.id = src) with
  | none => rw [← hresponse]
  | some c =>
    dsimp only
    split_ifs
    · rw [← hresponse]
    · rfl

/-- What `recvAssocRequest` comes to for the clients. -/
def requested (s : Transmitter) (src : MacAddr) (ptr : ℕ) : ClientSide :=
  if s.pktCTRL.isSome then s.clientSide else s.clientSide.admitClient src ptr

theorem recvAssocRequest_clientSide (s : Transmitter) (src : MacAddr) (ptr : ℕ) :
    Meets (s.recvAssocRequest n src ptr) (fun _ => True) fun t =>
      t.clientSide = s.requested src ptr := by
  refine meets_assertThat_of (fun _ => trivial) fun _ => ?_
  unfold requested
  split_ifs
  · exact rfl
  · refine Meets.bind s.sendACK_lasting fun t ht => ?_
    have hresume : Keeps lasting ({ t with mhDefer := false }.resumeUnlessSending n) s :=
      (resumeUnlessSending_lasting _).of_eq ht
    refine Meets.bind (keeps_clientSide hresume) fun u hu => ?_
    rw [← hu]
    exact u.admitClient_clientSide src ptr

theorem recvProbeRequest_clientSide (s : Transmitter) (hap : s.ap = true) (src : MacAddr)
    (ptr : ℕ) : Meets (s.recvProbeRequest n src ptr) (fun _ => True) fun t =>
      t.clientSide = s.clientSide.probe src ptr := by
  unfold recvProbeRequest
  rw [if_neg (by simp [hap])]
  refine (keeps_clientSide (resumeUnlessSending_lasting _)).mono (fun _ _ => trivial) fun t ht => ?_
  exact ht.trans (s.enque_clientSide _)

theorem recvBeacon_clientSide (s : Transmitter) (hap : s.ap = true)
    (connects : Option (MacAddr × ℕ)) : Keeps clientSide (s.recvBeacon connects) s := by
  unfold recvBeacon
  split
  · rw [if_neg (by simp [hap])]
    exact rfl
  · exact rfl

theorem processClientTimeout_clientSide (s : Transmitter) (d : MacAddr) :
    (s.processClientTimeout d).clientSide = s.clientSide.timeout d := by
  unfold processClientTimeout ClientSide.timeout
  dsimp only [clientSide]
  cases s.clients.find? (·.id = d) with
  | none => rfl
  | some c => simp [emit, isLinkEvent]

/-! ### Every step of an access point -/

/-- What a frame comes to for the clients. -/
def handled (s : Transmitter) : RxFrame → ClientSide
  | .ack => s.answered
  | .assocRequest src ptr => s.requested src ptr
  | .probeRequest src ptr => s.clientSide.probe src ptr
  | _ => s.clientSide

/-- What a step of an access point comes to for the clients. -/
def after (s : Transmitter) : Event → ClientSide
  | .sendExpires => s.expired
  | .recvEnd f _ => if s.Handles then s.handled f else s.clientSide
  | .clientExpires d => s.clientSide.timeout d
  | _ => s.clientSide

/-- No access point is sent the response to a request of a station. -/
theorem handle_clientSide (hap : s.ap = true) {f : RxFrame}
    (hf : ∀ refused, f ≠ .assocResponse refused) (hf' : f ≠ .probeResponse) :
    Meets (s.handle n f) (fun _ => True) fun t => t.clientSide = s.handled f := by
  cases f with
  | rts => exact keeps_clientSide s.recvRTS_lasting
  | cts => exact s.recvCTS_clientSide
  | ack => exact s.recvACK_clientSide
  | data size => exact keeps_clientSide (s.recvDATA_lasting size)
  | broadcast => exact rfl
  | assocRequest src ptr => exact s.recvAssocRequest_clientSide src ptr
  | assocResponse refused => exact (hf refused rfl).elim
  | probeRequest src ptr => exact s.recvProbeRequest_clientSide hap src ptr
  | probeResponse => exact (hf' rfl).elim
  | beacon connects => exact s.recvBeacon_clientSide hap connects
  | dropped => exact rfl

theorem recvTimer_clientSide (hap : s.ap = true) {f : RxFrame} (sets : Bool)
    (hf : ∀ refused, f ≠ .assocResponse refused) (hf' : f ≠ .probeResponse) :
    Meets (s.recvTimer n f sets) (fun _ => True) fun t =>
      t.clientSide = s.after (.recvEnd f sets) := by
  refine meets_assertThat_of (fun _ => trivial) fun _ => ?_
  refine Meets.bind (R := fun t => t.clientSide = s.after (.recvEnd f sets)) ?_ fun t ht =>
    (clientSide_of_lasting (t.setRxState_lasting .idle)).trans ht
  have hdropped : ¬ s.Handles → s.after (.recvEnd f sets) = s.clientSide := fun hno => if_neg hno
  split_ifs with hactive hcoll herror
  · rw [hdropped fun h => by simp [h.1] at hactive]
    exact rfl
  · rw [hdropped fun h => h.2.1 hcoll]
    exact rfl
  · rw [hdropped fun h => by simp [h.2.2] at herror]
    exact rfl
  · have hhandles : s.Handles := ⟨by simpa using hactive, hcoll, by simpa using herror⟩
    have hafter : s.after (.recvEnd f sets) = s.handled f := if_pos hhandles
    rw [hafter]
    exact (handle_clientSide (s := { s with nav := s.nav || sets }) hap hf hf').mono
      (fun _ _ => trivial) fun t ht => ht.trans (by cases f <;> rfl)

/-- Each step is a step of the client side. -/
theorem step_clientSide {e : Event} (hap : s.ap = true) (he : s.Occurs e) :
    Meets (s.step n e) (fun _ => True) fun t => t.clientSide = s.after e := by
  cases e with
  | arrive p => exact keeps_clientSide (s.arrive_lasting p)
  | deferExpires => exact (keeps_clientSide (deferHandler_lasting _)).of_eq rfl
  | backoffExpires => exact (keeps_clientSide (backoffHandler_lasting _)).of_eq rfl
  | sendExpires => exact sendTimer_clientSide { s with mhSend := false }
  | ifExpires => exact rfl
  | navExpires => exact clientSide_of_lasting (navHandler_lasting { s with nav := false })
  | navLapses => exact rfl
  | recvStart b => exact clientSide_of_lasting (s.recv_lasting b)
  | recvEnd f sets =>
    refine recvTimer_clientSide hap sets ?_ ?_
    · rintro refused rfl
      cases hap.symm.trans he.2
    · rintro rfl
      cases hap.symm.trans he.2
  | linkConnect macPoA ptr => cases hap.symm.trans he
  | linkDisconnect => cases hap.symm.trans he
  | linkScan clears => cases hap.symm.trans he
  | nextScan branch => cases hap.symm.trans he.1
  | probeExpires dst ptr => cases hap.symm.trans he
  | beaconExpires => exact keeps_clientSide s.sendBeacon_lasting
  | clientExpires d => exact s.processClientTimeout_clientSide d

/-! ### What does not change -/

def fixed (s : Transmitter) : Bool × Mib := (s.ap, s.mib)

theorem fixed_of_lasting (h : t.lasting = s.lasting) : t.fixed = s.fixed := by
  have hfixed := congrArg fixed h
  exact hfixed

theorem fixed_of_clientSide {x : Act Transmitter} {c : ClientSide}
    (hx : Meets x (fun _ => True) fun t => t.clientSide = c) (hc : c.fixed = s.fixed) :
    Keeps fixed x s :=
  hx.mono (fun _ _ => trivial) fun _ ht => (congrArg ClientSide.fixed ht).trans hc

theorem keeps_fixed {x : Act Transmitter} (h : Keeps lasting x s) : Keeps fixed x s :=
  h.comp fun _ => fixed_of_lasting

theorem expired_fixed (s : Transmitter) : s.expired.fixed = s.fixed := by
  unfold expired
  split_ifs
  · exact s.clientSide.unanswered_fixed s.ssrc
  · rfl

theorem answered_fixed (s : Transmitter) : s.answered.fixed = s.fixed := by
  unfold answered
  split_ifs
  · exact s.clientSide.acknowledged_fixed
  · rfl

theorem requested_fixed (s : Transmitter) (src : MacAddr) (ptr : ℕ) :
    (s.requested src ptr).fixed = s.fixed := by
  unfold requested
  split_ifs
  · rfl
  · exact s.clientSide.admitClient_fixed src ptr

theorem awaitMedium_fixed (s : Transmitter) : Keeps fixed s.awaitMedium s :=
  s.awaitMedium_keeps.comp fun _ hkept => fixed_of_lasting (lasting_of_kept hkept)

theorem linkConnect_fixed (s : Transmitter) (macPoA : MacAddr) (ptr : ℕ) :
    Keeps fixed (s.linkConnect macPoA ptr) s :=
  keeps_assertThat ((awaitMedium_fixed _).of_eq rfl)

theorem handle_fixed (s : Transmitter) (f : RxFrame) : Keeps fixed (s.handle n f) s := by
  have hack : Keeps fixed s.sendACK s := keeps_fixed s.sendACK_lasting
  have hresume : ∀ t : Transmitter, Keeps fixed (t.resumeUnlessSending n) t :=
    fun t => keeps_fixed t.resumeUnlessSending_lasting
  cases f with
  | rts => exact keeps_fixed s.recvRTS_lasting
  | cts => exact fixed_of_clientSide s.recvCTS_clientSide rfl
  | ack => exact fixed_of_clientSide s.recvACK_clientSide s.answered_fixed
  | data size => exact keeps_fixed (s.recvDATA_lasting size)
  | broadcast => exact rfl
  | assocRequest src ptr =>
    exact fixed_of_clientSide (s.recvAssocRequest_clientSide src ptr) (s.requested_fixed src ptr)
  | assocResponse refused =>
    unfold handle recvAssocResponse
    dsimp only
    by_cases hctrl : s.pktCTRL.isSome
    · rw [if_pos hctrl]
      exact rfl
    · rw [if_neg hctrl]
      refine hack.bind fun t => (hresume t).bind fun u => ?_
      cases refused with
      | true => exact rfl
      | false => exact rfl
  | probeRequest src ptr =>
    unfold handle recvProbeRequest
    split_ifs
    · exact rfl
    · refine (hresume _).of_eq ?_
      exact (congrArg ClientSide.fixed (s.enque_clientSide _)).trans (ClientSide.enque_fixed _ _)
  | probeResponse =>
    unfold handle recvProbeResponse
    split_ifs
    · exact rfl
    · exact hack.bind hresume
  | beacon connects =>
    unfold handle recvBeacon
    dsimp only
    split
    · split_ifs
      · exact s.linkConnect_fixed _ _
      · exact rfl
    · exact rfl
  | dropped => exact rfl

theorem recvTimer_fixed (s : Transmitter) (f : RxFrame) (sets : Bool) :
    Keeps fixed (s.recvTimer n f sets) s := by
  refine keeps_assertThat (Keeps.bind ?_ fun t => fixed_of_lasting (t.setRxState_lasting .idle))
  split_ifs
  · exact rfl
  · exact rfl
  · exact rfl
  · exact (handle_fixed _ f).of_eq rfl

theorem step_fixed (s : Transmitter) (e : Event) : Keeps fixed (s.step n e) s := by
  cases e with
  | arrive p => exact keeps_fixed (s.arrive_lasting p)
  | deferExpires => exact (keeps_fixed (deferHandler_lasting _)).of_eq rfl
  | backoffExpires => exact (keeps_fixed (backoffHandler_lasting _)).of_eq rfl
  | sendExpires => exact fixed_of_clientSide (sendTimer_clientSide _) (expired_fixed _)
  | ifExpires => exact rfl
  | navExpires => exact fixed_of_lasting (navHandler_lasting { s with nav := false })
  | navLapses => exact rfl
  | recvStart b => exact fixed_of_lasting (s.recv_lasting b)
  | recvEnd f sets => exact s.recvTimer_fixed f sets
  | linkConnect macPoA ptr => exact s.linkConnect_fixed macPoA ptr
  | linkDisconnect => exact rfl
  | linkScan clears =>
    unfold step linkScan
    dsimp only
    split_ifs
    · exact rfl
    · exact rfl
    · exact rfl
  | nextScan branch =>
    cases branch with
    | stop => exact rfl
    | channel => exact rfl
    | finish => exact rfl
  | probeExpires dst ptr =>
    unfold step sendProbeRequest
    split_ifs
    · exact rfl
    · exact (awaitMedium_fixed _).of_eq rfl
  | beaconExpires => exact keeps_fixed s.sendBeacon_lasting
  | clientExpires d =>
    have hside := s.processClientTimeout_clientSide d
    exact (congrArg ClientSide.fixed hside).trans (s.clientSide.timeout_fixed d)

/-- An access point stays one. -/
theorem step_ap (s : Transmitter) (e : Event) : Keeps ap (s.step n e) s :=
  (s.step_fixed e).comp fun _ h => congrArg Prod.fst h

theorem step_mib (s : Transmitter) (e : Event) : Keeps mib (s.step n e) s :=
  (s.step_fixed e).comp fun _ h => congrArg Prod.snd h

end Transmitter

end SipNemo.Mac
