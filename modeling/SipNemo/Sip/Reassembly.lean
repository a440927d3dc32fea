import SipNemo.Sip.Redirect

/-!
# Fragmentation and reassembly of application messages

`sendmsg` cuts a message into packets of at most `size_` bytes, which all carry the header of the
message, and the receiver adds up their sizes in one record, `asm_info`, until the announced
number of bytes is there.  Signalling messages (`ack` 1, sequence number `-2`) pass through the
same record: they leave its sequence number alone but overwrite both byte counts.

A signalling message that arrives between two fragments of a data message therefore makes the
receiver forget what it has of that message.  `reassembly_iff` says that this is the only way to
lose one: in every interleaving, each data message reaches the application exactly once, at its
last fragment, if and only if no signalling message arrives inside a data message.
-/

namespace SipNemo.Sip

/-! ### `sendmsg` -/

/-- The loop of `sendmsg`: the sizes of the `n` packets to come, when `remain` bytes do not fill
one. -/
def fragmentLoop (size remain : ℕ) : ℕ → List ℕ
  | 0 => []
  | n + 1 => (if n = 0 ∧ 0 < remain then remain else size) :: fragmentLoop size remain n

/-- The sizes of the packets of a message of `nbytes` bytes. -/
def fragmentSizes (size nbytes : ℕ) : List ℕ :=
  fragmentLoop size (nbytes % size) (nbytes / size + if nbytes % size = 0 then 0 else 1)

/-- A packet of `sendmsg` with multimedia support, before it is routed. -/
def mmPacket (a : UdpmysipAgent) (cport : ℤ) (mh : HdrMysip) (size : ℕ) : Packet :=
  { allocpkt a.addr a.port with
    cmn := { ptype := .udp, size := size }
    iph := {
      saddr := a.addr, sport := a.port, daddr := mh.requestURL
      dport := if mh.ack = 0 then cport else mh.cport, prio := 15 }
    mh := mh }

/-- One turn of the loop: a mobile node sends through its router, any other node by itself. -/
def sendFragment (a : UdpmysipAgent) (cport : ℤ) (mh : HdrMysip) (size : ℕ) : Act Out :=
  let p := mmPacket a cport mh size
  if a.nodeType = .sipMn then do
    let p ← throughMrBs a ((p.setDaddr (prefixOf p.iph.saddr)).setDport a.port)
    let bu ← assertNonNull (getMnHaEntry a.siplist)
    let f ← deref bu.eface
    pure (.via f p)
  else .ok (.send p)

/-- `sendmsg(nbytes, flags)` with fragment size `size_ > 0`; `flags` is the header `mh`. -/
def sendmsg (a : UdpmysipAgent) (cport : ℤ) (size nbytes : ℕ) (mh : HdrMysip) : Act (List Out) :=
  (fragmentSizes size nbytes).mapM (sendFragment a cport mh)

/-! ### The end of `recv` -/

/-- `asm_mm`.  Only `seq` is initialised, by the constructor of the agent. -/
structure AsmMm where
  seq : ℤ := -1
  rbytes : ℤ
  tbytes : ℤ
  deriving DecidableEq, Repr

/-- What the end of `recv` reads and writes. -/
structure MmState where
  app : Bool
  asm : AsmMm
  cip : Addr := 0
  cport : ℤ := 0
  sessionRun : ℤ := 0
  deriving DecidableEq, Repr

/-- The calls of the application. -/
inductive AppCall
  | recvMsg (nbytes : ℤ) (mh : HdrMysip)
  | recv (bytes : ℤ)
  deriving DecidableEq, Repr

/-- The three branches that update `asm_info`. -/
def AsmMm.add (m : AsmMm) (p : Packet) : AsmMm :=
  if p.mh.seq = m.seq then { m with rbytes := m.rbytes + p.cmn.size }
  else if p.mh.ack ≠ 0 then { m with tbytes := p.mh.nbytes, rbytes := p.cmn.size }
  else { seq := p.mh.seq, tbytes := p.mh.nbytes, rbytes := p.cmn.size }

/-- An answer of the peer says where it takes the call. -/
def MmState.learnPeer (s : MmState) (mh : HdrMysip) : MmState :=
  if mh.ack ≠ 0 ∧ (mh.method = 0 ∨ mh.method = 1) then { s with cip := mh.cip, cport := mh.cport }
  else s

/-- The end of `recv`, for a packet that arrived with `bytes` bytes and that the handlers have
left as `p`. -/
def recvApp (s : MmState) (bytes : ℤ) (p : Packet) : MmState × Option AppCall :=
  if p.iph.prio = 15 then
    let s := { s with sessionRun := 1 }
    if s.app then
      let s := s.learnPeer p.mh
      let s := { s with asm := s.asm.add p }
      (s, if s.asm.tbytes = s.asm.rbytes then some (.recvMsg p.mh.nbytes p.mh) else none)
    else (s, none)
  else (s, if s.app then some (.recv bytes) else none)

/-- `recv`: the handlers of the node type, then the application. -/
def recv (a : UdpmysipAgent) (s : MmState) (p : Packet) :
    Act (UdpmysipAgent × MmState × List Out × Option AppCall) := do
  let (a, outs, q) ← recvSip a p
  let r := recvApp s p.cmn.size q
  pure (a, r.1, outs, r.2)

/-! ### Streams of messages -/

/-- A data message as the application hands it to `sendmsg`. -/
structure DataMsg where
  mh : HdrMysip
  nbytes : ℕ
  data : mh.ack = 0
  numbered : 0 ≤ mh.seq
  announced : mh.nbytes = nbytes
  nonempty : 0 < nbytes

/-- The test for packets of data messages. -/
def isData (p : Packet) : Bool := p.mh.ack == 0

/-- A signalling message, all of it in one packet. -/
structure Signalling (p : Packet) : Prop where
  ack : p.mh.ack = 1
  seq : p.mh.seq = -2
  whole : p.mh.nbytes ≤ p.cmn.size

/-- The fragments of a message, with the header they carry. -/
def fragments (size : ℕ) (m : DataMsg) : List (HdrMysip × ℤ) :=
  (fragmentSizes size m.nbytes).map fun k : ℕ => (m.mh, (k : ℤ))

/-- The data packets among `ps`, in order of arrival. -/
def dataOf (ps : List Packet) : List (HdrMysip × ℤ) :=
  (ps.filter isData).map fun p => (p.mh, p.cmn.size)

/-- `ps` is an interleaving of the fragments of `msgs`, in order and none lost or duplicated, with
signalling messages. -/
structure Interleaving (size : ℕ) (msgs : List DataMsg) (ps : List Packet) : Prop where
  multimedia : ∀ p ∈ ps, p.iph.prio = 15
  signalling : ∀ p ∈ ps, isData p = false → Signalling p
  data : dataOf ps = msgs.flatMap (fragments size)

/-- How the application is called at each data packet of `ps`. -/
def dataCalls : MmState → List Packet → List (Option AppCall)
  | _, [] => []
  | s, p :: ps =>
    let r := recvApp s p.cmn.size p
    if isData p then r.2 :: dataCalls r.1 ps else dataCalls r.1 ps

/-- The calls of a message of `n` packets: one, at the last packet. -/
def callsOnce (m : DataMsg) (n : ℕ) : List (Option AppCall) :=
  List.replicate (n - 1) none ++ [some (.recvMsg m.nbytes m.mh)]

/-- The calls that the messages should make, each one once and at its last packet. -/
def callsExpected (size : ℕ) (msgs : List DataMsg) : List (Option AppCall) :=
  msgs.flatMap fun m => callsOnce m (fragmentSizes size m.nbytes).length

/-- The sequence number of the next data packet. -/
def nextSeq (ps : List Packet) : Option ℤ := (dataOf ps).head?.map fun d => d.1.seq

/-- No signalling message of `ps` arrives between two packets of one data message; `last` is the
sequence number of the last data packet before `ps`. -/
def Undisturbed : Option ℤ → List Packet → Prop
  | _, [] => True
  | last, p :: ps =>
    if isData p then Undisturbed (some p.mh.seq) ps
    else (last = none ∨ nextSeq ps ≠ last) ∧ Undisturbed last ps

/-! ### The sizes of the fragments -/

theorem fragmentLoop_pos {size remain : ℕ} (hsize : 0 < size) (n : ℕ) :
    ∀ k ∈ fragmentLoop size remain n, 0 < k := by
  induction n with
  | zero => simp [fragmentLoop]
  | succ n ih =>
    intro k hk
    rcases List.mem_cons.1 hk with rfl | hk
    · split_ifs with h
      · exact h.2
      · exact hsize
    · exact ih k hk

theorem fragmentLoop_sum (size remain n : ℕ) :
    (fragmentLoop size remain (n + 1)).sum = n * size + if 0 < remain then remain else size := by
  induction n with
  | zero => simp [fragmentLoop]
  | succ n ih =>
    rw [fragmentLoop, List.sum_cons, ih, if_neg (by simp)]
    ring

/-- The fragments are as long as the message. -/
theorem fragmentSizes_sum {size nbytes : ℕ} (hn : 0 < nbytes) :
    (fragmentSizes size nbytes).sum = nbytes := by
  have hdiv : nbytes / size * size + nbytes % size = nbytes := Nat.div_add_mod' nbytes size
  unfold fragmentSizes
  by_cases hmod : nbytes % size = 0
  · -- the last fragment is a full one
    obtain ⟨q, hq⟩ : ∃ q, nbytes / size = q + 1 := by
      refine Nat.exists_eq_succ_of_ne_zero ?_
      rintro hzero
      rw [hzero, hmod] at hdiv
      omega
    rw [if_pos hmod, hq, Nat.add_zero, fragmentLoop_sum, hmod, if_neg (by omega)]
    rw [hq, hmod, Nat.succ_mul] at hdiv
    omega
  · rw [if_neg hmod, fragmentLoop_sum, if_pos (Nat.pos_of_ne_zero hmod)]
    exact hdiv

theorem fragmentSizes_pos {size : ℕ} (hsize : 0 < size) (nbytes : ℕ) :
    ∀ k ∈ fragmentSizes size nbytes, 0 < k :=
  fragmentLoop_pos hsize _

theorem fragmentSizes_ne_nil {size nbytes : ℕ} (hn : 0 < nbytes) :
    fragmentSizes size nbytes ≠ [] := by
  intro hnil
  have hsum : (fragmentSizes size nbytes).sum = nbytes := fragmentSizes_sum hn
  rw [hnil, List.sum_nil] at hsum
  omega

/-! ### One packet at the receiver -/

@[simp] theorem MmState.learnPeer_app (s : MmState) (mh : HdrMysip) :
    (s.learnPeer mh).app = s.app := by
  unfold MmState.learnPeer
  split_ifs <;> rfl

@[simp] theorem MmState.learnPeer_asm (s : MmState) (mh : HdrMysip) :
    (s.learnPeer mh).asm = s.asm := by
  unfold MmState.learnPeer
  split_ifs <;> rfl

/-- A multimedia packet at a receiver with an application goes through `asm_info`. -/
theorem recvApp_mm {s : MmState} {p : Packet} (happ : s.app = true) (hp : p.iph.prio = 15)
    (bytes : ℤ) :
    (recvApp s bytes p).1.app = true ∧ (recvApp s bytes p).1.asm = s.asm.add p ∧
      (recvApp s bytes p).2 =
        if (s.asm.add p).tbytes = (s.asm.add p).rbytes then some (.recvMsg p.mh.nbytes p.mh)
        else none := by
  simp [recvApp, hp, happ]

theorem dataOf_cons_data {p : Packet} (hp : isData p = true) (ps : List Packet) :
    dataOf (p :: ps) = (p.mh, p.cmn.size) :: dataOf ps := by
  simp [dataOf, hp]

theorem dataOf_cons_signalling {p : Packet} (hp : isData p = false) (ps : List Packet) :
    dataOf (p :: ps) = dataOf ps := by
  simp [dataOf, hp]

/-- A signalling message overwrites the byte counts. -/
theorem AsmMm.add_signalling {m : AsmMm} {p : Packet} (hp : Signalling p) (hm : m.seq ≠ -2) :
    m.add p = { m with tbytes := p.mh.nbytes, rbytes := p.cmn.size } := by
  have hseq : p.mh.seq ≠ m.seq := by
    rw [hp.seq]
    exact hm.symm
  have hack : p.mh.ack ≠ 0 := by
    rw [hp.ack]
    decide
  rw [AsmMm.add, if_neg hseq, if_pos hack]

theorem callsOnce_succ (m : DataMsg) {n : ℕ} (hn : 0 < n) :
    callsOnce m (n + 1) = none :: callsOnce m n := by
  obtain ⟨n, rfl⟩ := Nat.exists_eq_succ_of_ne_zero (Nat.pos_iff_ne_zero.1 hn)
  simp [callsOnce, List.replicate_succ]

/-- The packets of the message `m` that are of the sizes `ks`. -/
def fragmentsLeft (m : DataMsg) (ks : List ℕ) : List (HdrMysip × ℤ) :=
  ks.map fun k : ℕ => (m.mh, (k : ℤ))

/-- The calls that the rest of a message should make. -/
def callsLeft (m : DataMsg) (ks : List ℕ) : List (Option AppCall) :=
  if ks = [] then [] else callsOnce m ks.length

@[simp] theorem callsLeft_nil (m : DataMsg) : callsLeft m [] = [] := rfl

theorem callsLeft_of_ne_nil (m : DataMsg) {ks : List ℕ} (hks : ks ≠ []) :
    callsLeft m ks = callsOnce m ks.length := if_neg hks

/-- The call at the next packet, and those at the packets after it. -/
theorem callsLeft_cons (m : DataMsg) (k : ℕ) (ks : List ℕ) :
    callsLeft m (k :: ks) =
      (if ks = [] then some (.recvMsg m.nbytes m.mh) else none) :: callsLeft m ks := by
  by_cases hnil : ks = []
  · subst hnil
    rfl
  · have hlen : 0 < ks.length := List.length_pos_of_ne_nil hnil
    rw [callsLeft, if_neg (List.cons_ne_nil k ks), callsLeft, if_neg hnil, if_neg hnil,
      List.length_cons]
    exact callsOnce_succ m hlen

/-- A message whose byte counts have been overwritten is not delivered at its last packet. -/
theorem dataCalls_lost {m : DataMsg} {ps : List Packet} {more : List (HdrMysip × ℤ)}
    {calls : List (Option AppCall)} (hmm : ∀ p ∈ ps, p.iph.prio = 15)
    (hsig : ∀ p ∈ ps, isData p = false → Signalling p) {s : MmState} {ks : List ℕ}
    (happ : s.app = true) (hks : ks ≠ []) (hpos : ∀ k ∈ ks, 0 < k)
    (hdata : dataOf ps = fragmentsLeft m ks ++ more) (hseq : s.asm.seq = m.mh.seq)
    (hle : s.asm.tbytes ≤ s.asm.rbytes) : dataCalls s ps ≠ callsLeft m ks ++ calls := by
  induction ps generalizing s ks with
  | nil =>
    obtain ⟨k, ks, rfl⟩ := List.exists_cons_of_ne_nil hks
    simp [dataOf, fragmentsLeft] at hdata
  | cons p ps ih =>
    have hp : p.iph.prio = 15 := hmm p List.mem_cons_self
    obtain ⟨happ', hasm, hcall⟩ := recvApp_mm happ hp p.cmn.size
    have hmm' : ∀ q ∈ ps, q.iph.prio = 15 := fun q hq => hmm q (List.mem_cons_of_mem _ hq)
    have hsig' : ∀ q ∈ ps, isData q = false → Signalling q :=
      fun q hq => hsig q (List.mem_cons_of_mem _ hq)
    cases hd : isData p with
    | false =>
      have hsp : Signalling p := hsig p List.mem_cons_self hd
      have hnum := m.numbered
      rw [AsmMm.add_signalling hsp (by omega)] at hasm
      rw [dataOf_cons_signalling hd] at hdata
      simp only [dataCalls, hd, Bool.false_eq_true, if_false]
      refine ih hmm' hsig' happ' hks hpos hdata ?_ ?_
      · rw [hasm]
        exact hseq
      · rw [hasm]
        exact hsp.whole
    | true =>
      obtain ⟨k, ks, rfl⟩ := List.exists_cons_of_ne_nil hks
      rw [dataOf_cons_data hd] at hdata
      obtain ⟨hhead, hdata⟩ := List.cons.inj hdata
      obtain ⟨hmh, hsize⟩ := Prod.mk.inj hhead
      have hk : 0 < k := hpos k List.mem_cons_self
      -- the fragment makes the sum larger still
      have hadd : s.asm.add p = { s.asm with rbytes := s.asm.rbytes + k } := by
        rw [AsmMm.add, if_pos (by rw [hmh, hseq]), hsize]
      rw [hadd, if_neg (by simp only; omega)] at hcall
      rw [hadd] at hasm
      simp only [dataCalls, hd, if_true, hcall]
      rw [callsLeft_cons, List.cons_append]
      by_cases hnil : ks = []
      · rw [if_pos hnil]
        intro heq
        cases (List.cons.inj heq).1
      · intro heq
        refine ih hmm' hsig' happ' hnil (fun j hj => hpos j (List.mem_cons_of_mem _ hj)) hdata ?_ ?_
          (List.cons.inj heq).2
        · rw [hasm]
          exact hseq
        · rw [hasm]
          simp only
          omega

/-! ### A whole interleaving -/

/-- The receiver has everything of the message `m` but the packets of the sizes `ks`, and `ps` is
what is still to arrive: the rest of `m`, the messages `msgs` and signalling. -/
structure Receiving (size : ℕ) (s : MmState) (last : Option ℤ) (m : DataMsg) (ks : List ℕ)
    (msgs : List DataMsg) (ps : List Packet) : Prop where
  app : s.app = true
  multimedia : ∀ p ∈ ps, p.iph.prio = 15
  signalling : ∀ p ∈ ps, isData p = false → Signalling p
  data : dataOf ps = fragmentsLeft m ks ++ msgs.flatMap (fragments size)
  seq : s.asm.seq ≠ -2
  last_seq : last = none ∧ ks = [] ∨ last = some s.asm.seq
  current : ks ≠ [] → s.asm.seq = m.mh.seq ∧ s.asm.tbytes = s.asm.rbytes + (ks.sum : ℕ)
  pos : ∀ k ∈ ks, 0 < k
  next : ∀ m' ∈ msgs.head?, m'.mh.seq ≠ s.asm.seq
  distinct : msgs.IsChain fun m m' => m.mh.seq ≠ m'.mh.seq

section Step

variable {size : ℕ} {s : MmState} {last : Option ℤ} {m : DataMsg} {k : ℕ} {ks : List ℕ}
  {msgs : List DataMsg} {p : Packet} {ps : List Packet}

theorem sum_eq_zero_iff (hpos : ∀ k ∈ ks, 0 < k) : ks.sum = 0 ↔ ks = [] := by
  constructor
  · intro hsum
    cases ks with
    | nil => rfl
    | cons k ks =>
      have hk := hpos k List.mem_cons_self
      rw [List.sum_cons] at hsum
      omega
  · rintro rfl
    rfl

/-- The byte counts of a message are equal exactly when no packet of it is left. -/
theorem complete_iff (hpos : ∀ k ∈ ks, 0 < k) {tbytes rbytes : ℤ}
    (hbytes : tbytes = rbytes + (ks.sum : ℕ)) : tbytes = rbytes ↔ ks = [] := by
  rw [← sum_eq_zero_iff hpos]
  omega

/-- Between two messages a signalling message does no harm. -/
theorem Receiving.signal (h : Receiving size s last m [] msgs (p :: ps)) (hp : isData p = false) :
    Receiving size (recvApp s p.cmn.size p).1 last m [] msgs ps := by
  obtain ⟨happ, hasm, -⟩ := recvApp_mm h.app (h.multimedia p List.mem_cons_self) p.cmn.size
  have hseq : (recvApp s p.cmn.size p).1.asm.seq = s.asm.seq := by
    rw [hasm, AsmMm.add_signalling (h.signalling p List.mem_cons_self hp) h.seq]
  have hdata := h.data
  rw [dataOf_cons_signalling hp] at hdata
  exact
    { app := happ
      multimedia := fun q hq => h.multimedia q (List.mem_cons_of_mem _ hq)
      signalling := fun q hq => h.signalling q (List.mem_cons_of_mem _ hq)
      data := hdata
      seq := by rw [hseq]; exact h.seq
      last_seq := by rw [hseq]; exact h.last_seq
      current := fun hne => absurd rfl hne
      pos := h.pos
      next := by rw [hseq]; exact h.next
      distinct := h.distinct }

/-- The next packet of the message: the application is called if it is the last one. -/
theorem Receiving.fragment (h : Receiving size s last m (k :: ks) msgs (p :: ps))
    (hp : isData p = true) :
    Receiving size (recvApp s p.cmn.size p).1 (some p.mh.seq) m ks msgs ps ∧
      (recvApp s p.cmn.size p).2 = if ks = [] then some (.recvMsg m.nbytes m.mh) else none := by
  obtain ⟨happ, hasm, hcall⟩ := recvApp_mm h.app (h.multimedia p List.mem_cons_self) p.cmn.size
  have hdata := h.data
  rw [dataOf_cons_data hp] at hdata
  obtain ⟨hhead, hdata⟩ := List.cons.inj hdata
  obtain ⟨hmh, hsize⟩ := Prod.mk.inj hhead
  obtain ⟨hseq, hbytes⟩ := h.current (List.cons_ne_nil k ks)
  have hadd : s.asm.add p = { s.asm with rbytes := s.asm.rbytes + k } := by
    rw [AsmMm.add, if_pos (by rw [hmh, hseq]), hsize]
  rw [List.sum_cons, Nat.cast_add] at hbytes
  have hpos : ∀ j ∈ ks, 0 < j := fun j hj => h.pos j (List.mem_cons_of_mem _ hj)
  have hleft : s.asm.tbytes = s.asm.rbytes + k + (ks.sum : ℕ) := by omega
  rw [hadd] at hasm hcall
  refine ⟨?_, ?_⟩
  · exact
      { app := happ
        multimedia := fun q hq => h.multimedia q (List.mem_cons_of_mem _ hq)
        signalling := fun q hq => h.signalling q (List.mem_cons_of_mem _ hq)
        data := hdata
        seq := by rw [hasm]; exact h.seq
        last_seq := Or.inr (by rw [hasm, hmh]; exact congrArg some hseq.symm)
        current := by
          rw [hasm]
          exact fun _ => ⟨hseq, hleft⟩
        pos := hpos
        next := by rw [hasm]; exact h.next
        distinct := h.distinct }
  · rw [hcall, hmh, m.announced, if_congr (complete_iff hpos hleft) rfl rfl]

/-- The first packet of the next message. -/
theorem Receiving.first {m' : DataMsg} (hsize : 0 < size)
    (h : Receiving size s last m [] (m' :: msgs) (p :: ps)) (hp : isData p = true)
    (hks : fragmentSizes size m'.nbytes = k :: ks) :
    Receiving size (recvApp s p.cmn.size p).1 (some p.mh.seq) m' ks msgs ps ∧
      (recvApp s p.cmn.size p).2 = if ks = [] then some (.recvMsg m'.nbytes m'.mh) else none := by
  obtain ⟨happ, hasm, hcall⟩ := recvApp_mm h.app (h.multimedia p List.mem_cons_self) p.cmn.size
  have hdata := h.data
  rw [dataOf_cons_data hp, List.flatMap_cons, fragments, hks] at hdata
  obtain ⟨hhead, hdata⟩ := List.cons.inj hdata
  obtain ⟨hmh, hpsize⟩ := Prod.mk.inj hhead
  have hne : m'.mh.seq ≠ s.asm.seq := h.next m' rfl
  have hadd : s.asm.add p = { seq := m'.mh.seq, tbytes := m'.nbytes, rbytes := k } := by
    rw [AsmMm.add, hmh, if_neg hne, if_neg (by simp [m'.data]), hpsize, m'.announced]
  have hsum : k + ks.sum = m'.nbytes := by
    have hsum : (fragmentSizes size m'.nbytes).sum = m'.nbytes := fragmentSizes_sum m'.nonempty
    rwa [hks, List.sum_cons] at hsum
  have hpos : ∀ j ∈ ks, 0 < j := fun j hj =>
    fragmentSizes_pos hsize m'.nbytes j (by rw [hks]; exact List.mem_cons_of_mem _ hj)
  have hleft : (m'.nbytes : ℤ) = k + (ks.sum : ℕ) := by omega
  rw [hadd] at hasm hcall
  refine ⟨?_, ?_⟩
  · exact
      { app := happ
        multimedia := fun q hq => h.multimedia q (List.mem_cons_of_mem _ hq)
        signalling := fun q hq => h.signalling q (List.mem_cons_of_mem _ hq)
        data := hdata
        seq := by
          have hnum := m'.numbered
          rw [hasm]
          simp only
          omega
        last_seq := Or.inr (by rw [hasm, hmh])
        current := by
          rw [hasm]
          exact fun _ => ⟨rfl, hleft⟩
        pos := hpos
        next := by
          rw [hasm]
          intro m'' hm''
          have hdist := h.distinct
          cases msgs with
          | nil => cases hm''
          | cons m₁ msgs =>
            cases hm''
            exact (List.isChain_cons_cons.1 hdist).1.symm
        distinct := h.distinct.tail }
  · rw [hcall, hmh, m'.announced, if_congr (complete_iff hpos hleft) rfl rfl]

end Step

theorem fragments_ne_nil (size : ℕ) (m : DataMsg) : fragments size m ≠ [] := by
  intro hnil
  exact fragmentSizes_ne_nil m.nonempty (List.map_eq_nil_iff.1 hnil)

/-- What is left of the data when nothing arrives any more. -/
theorem Receiving.nil {size : ℕ} {s : MmState} {last : Option ℤ} {m : DataMsg} {ks : List ℕ}
    {msgs : List DataMsg} (h : Receiving size s last m ks msgs []) : ks = [] ∧ msgs = [] := by
  obtain ⟨hks, hmsgs⟩ := List.append_eq_nil_iff.1 h.data.symm
  refine ⟨List.map_eq_nil_iff.1 hks, ?_⟩
  cases msgs with
  | nil => rfl
  | cons m' msgs =>
    rw [List.flatMap_cons] at hmsgs
    exact absurd (List.append_eq_nil_iff.1 hmsgs).1 (fragments_ne_nil size m')

/-- The next data packet is of another message when the receiver has all of the last one. -/
theorem Receiving.nextSeq_ne {size : ℕ} {s : MmState} {last : Option ℤ} {m : DataMsg}
    {msgs : List DataMsg} {ps : List Packet} (h : Receiving size s last m [] msgs ps) :
    last = none ∨ nextSeq ps ≠ last := by
  rcases h.last_seq with ⟨hnone, -⟩ | hlast
  · exact Or.inl hnone
  · right
    rw [nextSeq, h.data, hlast]
    cases msgs with
    | nil => simp [fragmentsLeft]
    | cons m' msgs =>
      obtain ⟨k, ks, hks⟩ := List.exists_cons_of_ne_nil
        (fragmentSizes_ne_nil m'.nonempty : fragmentSizes size m'.nbytes ≠ [])
      simpa [fragmentsLeft, fragments, hks] using h.next m' rfl

/-- Signalling while a message is under way: its byte counts are lost. -/
theorem Receiving.signal_disturbs {size : ℕ} {s : MmState} {last : Option ℤ} {m : DataMsg}
    {ks : List ℕ} {msgs : List DataMsg} {p : Packet} {ps : List Packet}
    (h : Receiving size s last m ks msgs (p :: ps)) (hd : isData p = false) (hks : ks ≠ []) :
    dataCalls (recvApp s p.cmn.size p).1 ps ≠ callsLeft m ks ++ callsExpected size msgs ∧
      ¬ (last = none ∨ nextSeq ps ≠ last) := by
  obtain ⟨happ, hasm, -⟩ := recvApp_mm h.app (h.multimedia p List.mem_cons_self) p.cmn.size
  have hsp := h.signalling p List.mem_cons_self hd
  rw [AsmMm.add_signalling hsp h.seq] at hasm
  have hseq := (h.current hks).1
  have hdata := h.data
  rw [dataOf_cons_signalling hd] at hdata
  constructor
  · exact dataCalls_lost (fun q hq => h.multimedia q (List.mem_cons_of_mem _ hq))
      (fun q hq => h.signalling q (List.mem_cons_of_mem _ hq)) happ hks h.pos hdata
      (by rw [hasm]; exact hseq) (by rw [hasm]; exact hsp.whole)
  · obtain ⟨k, ks, rfl⟩ := List.exists_cons_of_ne_nil hks
    rcases h.last_seq with ⟨-, hnil⟩ | hlast
    · cases hnil
    · simp [hlast, nextSeq, hdata, fragmentsLeft, hseq]

/-- The data messages are delivered as they should be exactly when signalling stays out of
them. -/
theorem Receiving.calls_iff {size : ℕ} (hsize : 0 < size) {s : MmState} {last : Option ℤ}
    {m : DataMsg} {ks : List ℕ} {msgs : List DataMsg} {ps : List Packet}
    (h : Receiving size s last m ks msgs ps) :
    dataCalls s ps = callsLeft m ks ++ callsExpected size msgs ↔ Undisturbed last ps := by
  induction ps generalizing s last m ks msgs with
  | nil =>
    obtain ⟨rfl, rfl⟩ := h.nil
    simp [dataCalls, callsExpected, Undisturbed]
  | cons p ps ih =>
    cases hd : isData p with
    | false =>
      simp only [dataCalls, Undisturbed, hd, Bool.false_eq_true, if_false]
      by_cases hks : ks = []
      · -- between two messages it does no harm
        subst hks
        have h' := h.signal hd
        rw [ih h', and_iff_right h'.nextSeq_ne]
      · -- a message is under way
        obtain ⟨hlost, hnext⟩ := h.signal_disturbs hd hks
        constructor
        · intro hcalls
          exact absurd hcalls hlost
        · intro hun
          exact absurd hun.1 hnext
    | true =>
      simp only [dataCalls, Undisturbed, hd, if_true]
      cases ks with
      | cons k ks =>
        -- the next packet of the message that is under way
        obtain ⟨h', hcall⟩ := h.fragment hd
        rw [hcall, callsLeft_cons, List.cons_append, ← ih h']
        simp
      | nil =>
        cases msgs with
        | nil =>
          have hdata := h.data
          rw [dataOf_cons_data hd] at hdata
          cases hdata
        | cons m' msgs =>
          -- the first packet of the next message
          obtain ⟨k, ks, hks⟩ := List.exists_cons_of_ne_nil
            (fragmentSizes_ne_nil m'.nonempty : fragmentSizes size m'.nbytes ≠ [])
          obtain ⟨h', hcall⟩ := h.first hsize hd hks
          have hexpected : callsExpected size (m' :: msgs) =
              callsLeft m' (k :: ks) ++ callsExpected size msgs := by
            rw [callsLeft_of_ne_nil m' (List.cons_ne_nil k ks), ← hks]
            rfl
          rw [hcall, callsLeft_nil, List.nil_append, hexpected, callsLeft_cons, List.cons_append,
            ← ih h']
          simp

/-- **Reassembly under interleaving.**  At a new receiver, the application is called exactly once
for each data message, with its number of bytes and at its last packet, if and only if no
signalling message arrives between two packets of one data message. -/
theorem reassembly_iff {size : ℕ} (hsize : 0 < size) {msgs : List DataMsg} {ps : List Packet}
    (hps : Interleaving size msgs ps) (hmsgs : msgs.IsChain fun m m' => m.mh.seq ≠ m'.mh.seq)
    {s : MmState} (happ : s.app = true) (hseq : s.asm.seq = -1) :
    dataCalls s ps = callsExpected size msgs ↔ Undisturbed none ps := by
  -- no message is under way yet, so any message will do for the current one
  let m : DataMsg := ⟨{ nbytes := 1 }, 1, rfl, le_rfl, rfl, Nat.one_pos⟩
  have h : Receiving size s none m [] msgs ps :=
    { app := happ
      multimedia := hps.multimedia
      signalling := hps.signalling
      data := hps.data
      seq := by rw [hseq]; decide
      last_seq := Or.inl ⟨rfl, rfl⟩
      current := fun hne => absurd rfl hne
      pos := by simp
      next := by
        intro m' _
        have hnum := m'.numbered
        omega
      distinct := hmsgs }
  simpa using h.calls_iff hsize

/-! ### A signalling message inside a data message -/

/-- A message of 2000 bytes. -/
def message2000 : DataMsg :=
  ⟨{ ack := 0, seq := 0, nbytes := 2000, method := 7 }, 2000, rfl, le_rfl, rfl, by decide⟩

/-- Its packets of 1000 bytes, and a signalling message of 200 bytes. -/
def fragmentOf2000 : Packet :=
  { cmn := { size := 1000 }, iph := { prio := 15 }, mh := message2000.mh }

def signalling200 : Packet :=
  { cmn := { size := 200 }
    iph := { prio := 15 }
    mh := { ack := 1, seq := -2, nbytes := 200, method := 1 } }

/-- A receiver at its start. -/
def newReceiver : MmState := { app := true, asm := { rbytes := 0, tbytes := 0 } }

theorem signalling200_signalling : Signalling signalling200 := ⟨rfl, rfl, le_rfl⟩

/-- The signalling message before the data message, and inside it. -/
theorem interleaving_outside :
    Interleaving 1000 [message2000] [signalling200, fragmentOf2000, fragmentOf2000] where
  multimedia := by decide
  signalling := by
    intro p hp hd
    simp only [List.mem_cons, List.not_mem_nil, or_false] at hp
    rcases hp with rfl | rfl | rfl
    · exact signalling200_signalling
    · cases hd
    · cases hd
  data := by decide

theorem interleaving_inside :
    Interleaving 1000 [message2000] [fragmentOf2000, signalling200, fragmentOf2000] where
  multimedia := by decide
  signalling := by
    intro p hp hd
    simp only [List.mem_cons, List.not_mem_nil, or_false] at hp
    rcases hp with rfl | rfl | rfl
    · cases hd
    · exact signalling200_signalling
    · cases hd
  data := by decide

theorem reassembly_iff_sample :
    dataCalls newReceiver [signalling200, fragmentOf2000, fragmentOf2000] =
        callsExpected 1000 [message2000] ↔
      Undisturbed none [signalling200, fragmentOf2000, fragmentOf2000] :=
  reassembly_iff (by decide) interleaving_outside (List.isChain_singleton _) rfl rfl

/-- A 200 OK between the two packets of a message: the application never gets the message. -/
theorem reassembly_loses_message :
    Interleaving 1000 [message2000] [fragmentOf2000, signalling200, fragmentOf2000] ∧
      dataCalls newReceiver [fragmentOf2000, signalling200, fragmentOf2000] = [none, none] ∧
      dataCalls newReceiver [fragmentOf2000, signalling200, fragmentOf2000] ≠
        callsExpected 1000 [message2000] :=
  ⟨interleaving_inside, by decide, by decide⟩

end SipNemo.Sip
