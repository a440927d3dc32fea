import SipNemo.Lib.Conservation
import SipNemo.Sip.Application

/-!
# Calls and their answers

Applications on a network that delays, overtakes, readdresses and loses their packets, with agents
of all types in between.  Nothing is sent again, and no agent makes a message of a call; so each
INVITE that is heard is answered once at most, with 200 OK or with "temporarily moved", each 200 OK
is acknowledged once, and each repetition of an INVITE is for an answer of a server.  There are
never more 200 OKs than calls that were started, and only one who has heard a 200 OK sends data
(`calls_accounted`).
-/

namespace SipNemo.Sip

open Runs HdrMysip Network

/-! ### The network -/

/-- A packet under a new IP header, with another size. -/
def carried (p : Packet) (iph : HdrIp) (size : ℤ) : Packet :=
  { p with iph := { iph with prio := p.iph.prio }, cmn := { p.cmn with size := size } }

/-- What happens: something at a node, or a packet comes to a node or is lost. -/
inductive CallEvent (ι : Type)
  | act (i : ι) (op : Endpoint.Op)
  | arrive (k : ℕ) (i : ι) (iph : HdrIp) (size : ℤ)
  | lose (k : ℕ)

/-- One event. -/
def callStep {ι : Type} [DecidableEq ι] (junk : HdrMysip) (n : Net ι Endpoint Packet) :
    CallEvent ι → Act (Net ι Endpoint Packet)
  | .act i op => operate (fun s : Endpoint => s.operate junk op) i n
  | .arrive k i iph size =>
    match n.flight[k]? with
    | none => .ok n
    | some p =>
      operate (fun s : Endpoint => s.receive junk (carried p iph size)) i
        { n with flight := n.flight.eraseIdx k }
  | .lose k => .ok { n with flight := n.flight.eraseIdx k }

/-! ### Counting -/

section Counting

variable (P : ℤ × ℤ → Bool) (m : ℤ)

/-- A message of an application, of the calls in question. -/
def isOf (mh : HdrMysip) : Bool := decide (mh.ack = 1 ∧ mh.method = m) && P mh.call

/-- A message of such a call on its way. -/
def isFor (mh : HdrMysip) : Bool := decide (mh.ack = 1 ∧ mh.kind = m) && P mh.call

/-- The weight of a packet. -/
def weight (p : Packet) : ℕ := if isFor P m p.mh then 1 else 0

/-- How many such messages an application has sent. -/
def sentOf (s : Endpoint) : ℕ := s.sent.countP (isOf P m)

/-- How many it has heard. -/
def heardOf (s : Endpoint) : ℕ := s.heard.countP fun x => isOf P m x.2

/-- How many such calls it was told to start. -/
def startedOf (s : Endpoint) : ℕ := s.started.countP P

/-- How often it was redirected while such a call was its own. -/
def redirectedOf (s : Endpoint) : ℕ :=
  s.heard.countP fun x => decide (x.2.ack = 1 ∧ x.2.method = 4) && P x.1

end Counting

variable {P : ℤ × ℤ → Bool} {m : ℤ} {junk : HdrMysip} {s s' : Endpoint} {p : Packet}

theorem kind_of_method {mh : HdrMysip} (h : mh.method ≠ 6) : mh.kind = mh.method := if_neg h

theorem isFor_of_isOf {mh : HdrMysip} (hm : m ≠ 6) (h : isOf P m mh = true) :
    isFor P m mh = true := by
  unfold isOf at h
  unfold isFor
  simp only [Bool.and_eq_true, decide_eq_true_eq] at h ⊢
  obtain ⟨⟨hack, rfl⟩, hP⟩ := h
  exact ⟨⟨hack, kind_of_method hm⟩, hP⟩

/-! ### The agents -/

/-- The kinds that are counted. -/
def Counted (m : ℤ) : Prop := m = 0 ∨ m = 1 ∨ m = 2 ∨ m = 4

instance (m : ℤ) : Decidable (Counted m) := inferInstanceAs (Decidable (_ ∨ _))

theorem Counted.ne_six (hm : Counted m) : m ≠ 6 := by
  rintro rfl
  revert hm
  decide

theorem isFor_congr {mh mh' : HdrMysip} (hack : mh.ack = mh'.ack) (hkind : mh.kind = mh'.kind)
    (hcall : mh.call = mh'.call) : isFor P m mh = isFor P m mh' := by
  unfold isFor
  rw [hack, hkind, hcall]

/-- Other messages do not count. -/
theorem isFor_eq_false (hm : Counted m) {mh : HdrMysip} (h : ¬ mh.IsCall) :
    isFor P m mh = false := by
  rw [Bool.eq_false_iff]
  intro hfor
  obtain ⟨hboth, -⟩ := (Bool.and_eq_true _ _).mp hfor
  obtain ⟨-, hkind⟩ := of_decide_eq_true hboth
  refine h ?_
  unfold HdrMysip.kind at hkind
  unfold HdrMysip.IsCall
  split_ifs at hkind with h6
  · simp [h6]
  · rw [hkind]
    rcases hm with rfl | rfl | rfl | rfl <;> decide

theorem weight_eq_zero (hm : Counted m) (h : ¬ p.mh.IsCall) : weight P m p = 0 := by
  unfold weight
  rw [isFor_eq_false hm h]
  rfl

theorem weight_of_isOf (hm : Counted m) (h : isOf P m p.mh = true) : weight P m p = 1 :=
  if_pos (isFor_of_isOf hm.ne_six h)

/-- What the application of a node hears of a packet. -/
def heardBy (P : ℤ × ℤ → Bool) (m : ℤ) : Option AppCall → ℕ
  | some (.recvMsg _ mh) => if isOf P m mh then 1 else 0
  | _ => 0

/-- An application hears what its agent leaves to it. -/
theorem heardBy_recvApp (hm : Counted m) (mm : MmState) (bytes : ℤ) (q : Packet) :
    heardBy P m (recvApp mm bytes q).2 ≤ weight P m q := by
  have hone : (if isOf P m q.mh then 1 else 0) ≤ weight P m q := by
    split_ifs with hof
    · rw [weight_of_isOf hm hof]
    · exact Nat.zero_le _
  unfold recvApp
  dsimp only
  split_ifs
  · exact hone
  all_goals exact Nat.zero_le _

/-- With priority 14 a packet is no message to the application. -/
theorem heardBy_recvApp_of_prio {q : Packet} (h : q.iph.prio = 14) (mm : MmState) (bytes : ℤ) :
    heardBy P m (recvApp mm bytes q).2 = 0 := by
  unfold recvApp
  rw [if_neg (by omega)]
  dsimp only
  split_ifs <;> rfl

/-- An agent sends on, or lets its application hear, no more than it has received. -/
theorem recv_conserves (hm : Counted m) {a a' : UdpmysipAgent} {mm mm' : MmState} {outs : List Out}
    {call : Option AppCall} (h : recv a mm p = .ok (a', mm', outs, call)) :
    weigh (weight P m) (outs.map Out.packet) + heardBy P m call ≤ weight P m p := by
  obtain ⟨⟨a₁, outs₁, q⟩, hrecv, h⟩ := bind_ok_iff.1 h
  cases h
  have hheard := heardBy_recvApp (P := P) hm mm p.cmn.size q
  cases passes_recvSip hrecv with
  | kept hmh =>
    have hsame : weight P m q = weight P m p :=
      congrArg (fun mh => if isFor P m mh then 1 else 0) hmh
    rw [List.map_nil, weigh_nil]
    omega
  | @relayed o _ hprio hack hkind hcall =>
    have hsame : weight P m o.packet = weight P m p := by
      unfold weight
      rw [isFor_congr hack hkind hcall]
    rw [heardBy_recvApp_of_prio hprio, List.map_singleton, weigh_cons, weigh_nil]
    omega
  | other hp hq houts =>
    have hsent : weigh (weight P m) (outs.map Out.packet) = 0 := by
      refine weigh_eq_zero _ fun x hx => ?_
      obtain ⟨o, ho, rfl⟩ := List.mem_map.1 hx
      exact weight_eq_zero hm (houts o ho)
    rw [weight_eq_zero hm hq] at hheard
    omega

/-! ### The messages of an application -/

/-- What `sendmsg` sends carries the header of the message. -/
theorem sendFragment_mh {a : UdpmysipAgent} {cport : ℤ} {mh : HdrMysip} {size : ℕ} {o : Out}
    (h : sendFragment a cport mh size = .ok o) : o.packet.mh = mh := by
  unfold sendFragment at h
  dsimp only at h
  split_ifs at h
  · obtain ⟨q, hq, h⟩ := bind_ok_iff.1 h
    obtain ⟨bu, -, h⟩ := bind_ok_iff.1 h
    obtain ⟨f, -, h⟩ := bind_ok_iff.1 h
    cases h
    exact throughMrBs_mh hq
  · cases h
    rfl

theorem sendmsg_mh {a : UdpmysipAgent} {cport : ℤ} {size nbytes : ℕ} {mh : HdrMysip}
    {outs : List Out} (h : sendmsg a cport size nbytes mh = .ok outs) :
    outs.map (fun o => o.packet.mh) = List.replicate (fragmentSizes size nbytes).length mh := by
  unfold sendmsg at h
  generalize fragmentSizes size nbytes = sizes at h
  induction sizes generalizing outs with
  | nil =>
    cases h
    rfl
  | cons k sizes ih =>
    rw [List.mapM_cons] at h
    obtain ⟨o, ho, h⟩ := bind_ok_iff.1 h
    obtain ⟨rest, hrest, h⟩ := bind_ok_iff.1 h
    cases h
    rw [List.map_cons, ih hrest, sendFragment_mh ho, List.length_cons, List.replicate_succ]

/-- A message that fits is one packet. -/
theorem length_fragmentSizes {size nbytes : ℕ} (hn : 0 < nbytes) (hfit : nbytes ≤ size) :
    (fragmentSizes size nbytes).length = 1 := by
  rcases hfit.lt_or_eq with hlt | rfl
  · simp [fragmentSizes, Nat.div_eq_of_lt hlt, Nat.mod_eq_of_lt hlt, hn.ne', fragmentLoop]
  · simp [fragmentSizes, Nat.div_self hn, fragmentLoop]

/-- A message of an application: data, or a message of the application's methods that fits into 300
bytes. -/
def Wellformed (mh : HdrMysip) : Prop :=
  mh.ack = 0 ∨ mh.ack = 1 ∧ mh.method ≠ 6 ∧ 0 < mh.nbytes ∧ mh.nbytes ≤ 300

/-- What goes out for a message. -/
theorem weigh_sendmsg {a : UdpmysipAgent} {cport : ℤ} {size : ℕ} {mh : HdrMysip}
    {outs : List Out} (hsize : 300 ≤ size) (hmh : Wellformed mh)
    (h : sendmsg a cport size mh.nbytes.toNat mh = .ok outs) :
    weigh (weight P m) (outs.map Out.packet) = if isOf P m mh then 1 else 0 := by
  have hsum : weigh (weight P m) (outs.map Out.packet) =
      (fragmentSizes size mh.nbytes.toNat).length * if isFor P m mh then 1 else 0 := by
    have hmap := congrArg (fun l : List HdrMysip =>
      (l.map fun mh => if isFor P m mh then 1 else 0).sum) (sendmsg_mh h)
    simp only [List.map_replicate, List.sum_replicate, smul_eq_mul] at hmap
    rw [← hmap, weigh, List.map_map, List.map_map]
    rfl
  rw [hsum]
  rcases hmh with hack | ⟨-, hmethod, hpos, hle⟩
  · have hdata : isFor P m mh = false ∧ isOf P m mh = false := by simp [isFor, isOf, hack]
    rw [hdata.1, hdata.2]
    rfl
  · have hsame : isFor P m mh = isOf P m mh := by
      unfold isFor isOf
      rw [kind_of_method hmethod]
    rw [length_fragmentSizes (by omega) (by omega), hsame, one_mul]

/-- The endpoint with the messages of its application. -/
def sentMore (s : Endpoint) (r : CallApp × List HdrMysip) : Endpoint :=
  { s with app := r.1, sent := r.2 ++ s.sent }

/-- What goes out for several. -/
theorem transmit_ok {r : CallApp × List HdrMysip} {out : List Packet} (hsize : 300 ≤ s.size)
    (hr : ∀ mh ∈ r.2, Wellformed mh) (h : s.transmit r = .ok (s', out)) :
    s' = sentMore s r ∧ ∀ m, weigh (weight P m) out = r.2.countP (isOf P m) := by
  obtain ⟨outs, houts, h⟩ := bind_ok_iff.1 h
  cases h
  refine ⟨rfl, fun m => ?_⟩
  clear h
  obtain ⟨app, msgs⟩ := r
  dsimp only at houts hr ⊢
  induction msgs generalizing outs with
  | nil =>
    cases houts
    rfl
  | cons mh msgs ih =>
    rw [List.mapM_cons] at houts
    obtain ⟨first, hfirst, houts⟩ := bind_ok_iff.1 houts
    obtain ⟨rest, hrest, houts⟩ := bind_ok_iff.1 houts
    cases houts
    have hhead := weigh_sendmsg (P := P) (m := m) hsize (hr mh List.mem_cons_self) hfirst
    have htail := ih rest (fun mh' hmh' => hr mh' (List.mem_cons_of_mem mh hmh')) hrest
    rw [List.flatten_cons, List.map_append, weigh_append, hhead, htail, List.countP_cons]
    omega

/-- A message of the method `m` that belongs to the call `c`. -/
structure IsSignal (m : ℤ) (c : ℤ × ℤ) (a : HdrMysip) : Prop where
  ack : a.ack = 1
  method : a.method = m
  call : a.call = c
  pos : 0 < a.nbytes
  le : a.nbytes ≤ 300

theorem isSignal_of {m k : ℤ} {c : ℤ × ℤ} {a : HdrMysip} (hack : a.ack = 1) (hmethod : a.method = m)
    (hcall : a.call = c) (hk : a.nbytes = k) (hfits : 0 < k ∧ k ≤ 300) : IsSignal m c a :=
  ⟨hack, hmethod, hcall, hk ▸ hfits.1, hk ▸ hfits.2⟩

theorem isOf_of_method {m m' : ℤ} {mh : HdrMysip} (hack : mh.ack = 1) (hmethod : mh.method = m') :
    isOf P m mh = (decide (m' = m) && P mh.call) := by
  unfold isOf
  rw [hack, hmethod]
  simp

theorem isOf_of_ack {mh : HdrMysip} (hack : mh.ack = 0) : isOf P m mh = false := by
  simp [isOf, hack]

theorem IsSignal.isOf {m m' : ℤ} {c : ℤ × ℤ} {a : HdrMysip} (h : IsSignal m' c a) :
    isOf P m a = (decide (m' = m) && P c) := by
  rw [isOf_of_method h.ack h.method, h.call]

theorem IsSignal.wellformed {m : ℤ} {c : ℤ × ℤ} {a : HdrMysip} (h : IsSignal m c a) (hm : m ≠ 6) :
    Wellformed a :=
  Or.inr ⟨h.ack, h.method ▸ hm, h.pos, h.le⟩

/-- The messages that an application, whose own call is `own`, sends for a message. -/
inductive Responds (own : ℤ × ℤ) (mh : HdrMysip) : List HdrMysip → Prop
  | answered {m : ℤ} {a : HdrMysip} (hack : mh.ack = 1) (hmethod : mh.method = 0)
      (hm : m = 1 ∨ m = 4) (ha : IsSignal m mh.call a) : Responds own mh [a]
  | acknowledged {media : List HdrMysip} {a : HdrMysip} (hack : mh.ack = 1)
      (hmethod : mh.method = 1) (hmedia : ∀ d ∈ media, d.ack = 0) (ha : IsSignal 2 mh.call a) :
      Responds own mh (media ++ [a])
  | repeated {a : HdrMysip} (hack : mh.ack = 1) (hmethod : mh.method = 4) (ha : IsSignal 0 own a) :
      Responds own mh [a]
  | silent (h : ¬ (mh.ack = 1 ∧ (mh.method = 1 ∨ mh.method = 4))) : Responds own mh []

theorem Responds.wellformed {own : ℤ × ℤ} {mh : HdrMysip} {msgs : List HdrMysip}
    (h : Responds own mh msgs) : ∀ a ∈ msgs, Wellformed a := by
  intro a hmem
  cases h with
  | answered _ _ hm ha =>
    rw [List.mem_singleton.1 hmem]
    exact ha.wellformed (by omega)
  | acknowledged _ _ hmedia ha =>
    rcases List.mem_append.1 hmem with hmem | hmem
    · exact Or.inl (hmedia a hmem)
    · rw [List.mem_singleton.1 hmem]
      exact ha.wellformed (by decide)
  | repeated _ _ ha =>
    rw [List.mem_singleton.1 hmem]
    exact ha.wellformed (by decide)
  | silent => cases hmem

theorem sendMysipData_ack {app : CallApp} {addr : Addr} :
    ∀ d ∈ (app.sendMysipData junk addr).2, d.ack = 0 := by
  unfold CallApp.sendMysipData
  split_ifs
  · intro d hd
    rw [List.mem_singleton.1 hd]
  · intro d hd
    cases hd

theorem isSignal_invite (junk : HdrMysip) (app : CallApp) (addr : Addr) :
    ∃ a, (app.sendInvitePkt junk addr).2 = [a] ∧ IsSignal 0 (app.myID, app.toID) a := by
  have hsame : (app.learnAddr addr).myID = app.myID ∧ (app.learnAddr addr).toID = app.toID := by
    unfold CallApp.learnAddr
    split_ifs <;> exact ⟨rfl, rfl⟩
  refine ⟨_, rfl, isSignal_of (k := 120) rfl rfl ?_ rfl (by decide)⟩
  exact Prod.ext hsame.1 hsame.2

/-- What `recv_msg` sends. -/
theorem responds_recvMsg (junk : HdrMysip) (app : CallApp) (addr : Addr) (mh : HdrMysip) :
    Responds (app.myID, app.toID) mh (app.recvMsg junk addr mh).2 := by
  unfold CallApp.recvMsg
  split_ifs with hack h0 h88 h1 h2 h3 h4 h9
  · unfold CallApp.sendTempMovePkt
    dsimp only
    split
    · exact .silent (by omega)
    · exact .answered hack h0 (Or.inr rfl) (isSignal_of (k := 300) rfl rfl rfl rfl (by decide))
  · exact .answered hack h0 (Or.inl rfl) (isSignal_of (k := 80) rfl rfl rfl rfl (by decide))
  · exact .acknowledged hack h1 sendMysipData_ack
      (isSignal_of (k := 40) rfl rfl rfl rfl (by decide))
  · exact .silent (by omega)
  · exact .silent (by omega)
  · obtain ⟨a, ha, hsignal⟩ := isSignal_invite junk (app.setContact mh) addr
    rw [ha]
    exact .repeated hack h4 hsignal
  · exact .silent (by omega)
  · exact .silent (by omega)
  · exact .silent (by omega)

/-! ### One endpoint -/

/-- What holds at every endpoint: each answer is for a message it has heard, and data are only sent
after a 200 OK. -/
structure Fair (P : ℤ × ℤ → Bool) (s : Endpoint) : Prop where
  acks : sentOf P 2 s = heardOf P 1 s
  answers : sentOf P 1 s + sentOf P 4 s ≤ heardOf P 0 s
  invites : sentOf P 0 s = startedOf P s + redirectedOf P s
  media : (s.app.sndTimer = true ∨ ∃ mh ∈ s.sent, mh.ack = 0) →
    ∃ x ∈ s.heard, x.2.ack = 1 ∧ x.2.method = 1

/-- The endpoint that has heard one message more. -/
def hears (s : Endpoint) (mh : HdrMysip) : Endpoint := { s with heard := (s.call, mh) :: s.heard }

section Counts

variable (P) (m) (s)

theorem sentOf_sentMore (r : CallApp × List HdrMysip) :
    sentOf P m (sentMore s r) = r.2.countP (isOf P m) + sentOf P m s := List.countP_append

theorem heardOf_hears (mh : HdrMysip) :
    heardOf P m (hears s mh) = heardOf P m s + if isOf P m mh then 1 else 0 := List.countP_cons

theorem redirectedOf_hears (mh : HdrMysip) :
    redirectedOf P (hears s mh) = redirectedOf P s +
      if (decide (mh.ack = 1 ∧ mh.method = 4) && P s.call) = true then 1 else 0 := List.countP_cons

end Counts

/-- The messages of a response, by method. -/
theorem Responds.count {own : ℤ × ℤ} {mh : HdrMysip} {msgs : List HdrMysip}
    (h : Responds own mh msgs) :
    msgs.countP (isOf P 2) = (if isOf P 1 mh then 1 else 0) ∧
      msgs.countP (isOf P 1) + msgs.countP (isOf P 4) ≤ (if isOf P 0 mh then 1 else 0) ∧
      msgs.countP (isOf P 0) =
        if (decide (mh.ack = 1 ∧ mh.method = 4) && P own) = true then 1 else 0 := by
  cases h with
  | answered hack hmethod hm ha =>
    rcases hm with rfl | rfl <;> simp [ha.isOf, isOf_of_method hack hmethod, hmethod]
  | @acknowledged media a hack hmethod hmedia ha =>
    have hnone : ∀ m, media.countP (isOf P m) = 0 := fun m =>
      List.countP_eq_zero.2 fun d hd => by simp [isOf_of_ack (hmedia d hd)]
    simp [ha.isOf, isOf_of_method hack hmethod, hmethod, hnone]
  | repeated hack hmethod ha => simp [ha.isOf, isOf_of_method hack hmethod, hack, hmethod]
  | silent h =>
    have hone : isOf P 1 mh = false := by
      unfold isOf
      rw [decide_eq_false fun hboth => h ⟨hboth.1, Or.inl hboth.2⟩]
      rfl
    have hmoved : decide (mh.ack = 1 ∧ mh.method = 4) = false :=
      decide_eq_false fun hboth => h ⟨hboth.1, Or.inr hboth.2⟩
    rw [hone, hmoved]
    exact ⟨rfl, Nat.zero_le _, rfl⟩

/-- Data are sent for a 200 OK only. -/
theorem Responds.data {own : ℤ × ℤ} {mh d : HdrMysip} {msgs : List HdrMysip}
    (h : Responds own mh msgs) (hd : d ∈ msgs) (hack : d.ack = 0) :
    mh.ack = 1 ∧ mh.method = 1 := by
  cases h with
  | answered _ _ _ ha =>
    rw [List.mem_singleton.1 hd, ha.ack] at hack
    cases hack
  | acknowledged hack hmethod => exact ⟨hack, hmethod⟩
  | repeated _ _ ha =>
    rw [List.mem_singleton.1 hd, ha.ack] at hack
    cases hack
  | silent => cases hd

/-- An endpoint that hears a message and responds stays fair. -/
theorem Fair.respond {mh : HdrMysip} {r : CallApp × List HdrMysip} (hs : Fair P s)
    (hr : Responds s.call mh r.2)
    (htimer : r.1.sndTimer = true → s.app.sndTimer = true ∨ mh.ack = 1 ∧ mh.method = 1) :
    Fair P (sentMore (hears s mh) r) := by
  obtain ⟨hacks, hanswers, hinvites⟩ := hr.count (P := P)
  constructor
  · have h := hs.acks
    rw [sentOf_sentMore, hacks]
    show _ + sentOf P 2 s = heardOf P 1 (hears s mh)
    rw [heardOf_hears]
    omega
  · have h := hs.answers
    rw [sentOf_sentMore, sentOf_sentMore]
    show _ + sentOf P 1 s + (_ + sentOf P 4 s) ≤ heardOf P 0 (hears s mh)
    rw [heardOf_hears]
    omega
  · have h := hs.invites
    rw [sentOf_sentMore, hinvites]
    show _ + sentOf P 0 s = startedOf P s + redirectedOf P (hears s mh)
    rw [redirectedOf_hears]
    omega
  · intro hmedia
    have hok : (s.app.sndTimer = true ∨ ∃ d ∈ s.sent, d.ack = 0) ∨ mh.ack = 1 ∧ mh.method = 1 := by
      rcases hmedia with htrue | ⟨d, hd, hack⟩
      · exact (htimer htrue).imp_left Or.inl
      · rcases List.mem_append.1 hd with hd | hd
        · exact Or.inr (hr.data hd hack)
        · exact Or.inl (Or.inr ⟨d, hd, hack⟩)
    rcases hok with hbefore | hnow
    · obtain ⟨x, hx, hx'⟩ := hs.media hbefore
      exact ⟨x, List.mem_cons_of_mem _ hx, hx'⟩
    · exact ⟨(s.call, mh), List.mem_cons_self, hnow⟩

/-- Neither a part of the agent nor the parts of the application that a command sets matter. -/
theorem Fair.of_eq (hs : Fair P s) (hsent : s'.sent = s.sent) (hheard : s'.heard = s.heard)
    (hstarted : s'.started = s.started)
    (htimer : s'.app.sndTimer = true → s.app.sndTimer = true) : Fair P s' := by
  obtain ⟨agent, size, mm, app, started, heard, sent⟩ := s
  obtain ⟨agent', size', mm', app', started', heard', sent'⟩ := s'
  dsimp only at hsent hheard hstarted
  subst hsent hheard hstarted
  exact ⟨hs.acks, hs.answers, hs.invites, fun h => hs.media (h.imp_left htimer)⟩

/-- Messages that do not count, and data when the timer was set. -/
theorem Fair.send {r : CallApp × List HdrMysip} (hs : Fair P s)
    (hr : ∀ mh ∈ r.2, mh.ack = 0 ∧ s.app.sndTimer = true ∨ mh.ack = 1 ∧ mh.method = 3)
    (htimer : r.1.sndTimer = true → s.app.sndTimer = true) : Fair P (sentMore s r) := by
  have hnone : ∀ {m}, Counted m → r.2.countP (isOf P m) = 0 := by
    intro m hm
    refine List.countP_eq_zero.2 fun mh hmh => ?_
    rcases hr mh hmh with ⟨hack, -⟩ | ⟨hack, hmethod⟩
    · simp [isOf_of_ack hack]
    · have hno : ¬ (3 : ℤ) = m := by
        rintro rfl
        revert hm
        decide
      rw [isOf_of_method hack hmethod, decide_eq_false hno]
      simp
  constructor
  · have h := hs.acks
    rw [sentOf_sentMore, hnone (by decide), Nat.zero_add]
    exact h
  · have h := hs.answers
    rw [sentOf_sentMore, sentOf_sentMore, hnone (by decide), hnone (by decide), Nat.zero_add,
      Nat.zero_add]
    exact h
  · have h := hs.invites
    rw [sentOf_sentMore, hnone (by decide), Nat.zero_add]
    exact h
  · rintro (htrue | ⟨mh, hmh, hack⟩)
    · exact hs.media (Or.inl (htimer htrue))
    · rcases List.mem_append.1 hmh with hmh | hmh
      · rcases hr mh hmh with ⟨-, hset⟩ | ⟨hack', -⟩
        · exact hs.media (Or.inl hset)
        · rw [hack'] at hack
          cases hack
      · exact hs.media (Or.inr ⟨mh, hmh, hack⟩)

/-- A call is started. -/
theorem Fair.start {c : ℤ × ℤ} {r : CallApp × List HdrMysip} {a : HdrMysip} (hs : Fair P s)
    (hr : r.2 = [a]) (ha : IsSignal 0 c a) (htimer : r.1.sndTimer = true → s.app.sndTimer = true) :
    Fair P (sentMore { s with started := c :: s.started } r) := by
  have hcount : ∀ m, r.2.countP (isOf P m) = if (decide (0 = m) && P c) = true then 1 else 0 := by
    intro m
    rw [hr, List.countP_cons, List.countP_nil, ha.isOf, Nat.zero_add]
  constructor
  · rw [sentOf_sentMore, hcount]
    exact (Nat.zero_add _).trans hs.acks
  · rw [sentOf_sentMore, sentOf_sentMore, hcount, hcount]
    have h := hs.answers
    show 0 + sentOf P 1 s + (0 + sentOf P 4 s) ≤ heardOf P 0 s
    omega
  · have h := hs.invites
    have hstarted : startedOf P { s with started := c :: s.started } =
        startedOf P s + if P c = true then 1 else 0 := List.countP_cons
    rw [sentOf_sentMore, hcount]
    show _ + sentOf P 0 s = startedOf P { s with started := c :: s.started } + redirectedOf P s
    rw [hstarted]
    simp only [decide_true, Bool.true_and]
    omega
  · rintro (htrue | ⟨mh, hmh, hack⟩)
    · exact hs.media (Or.inl (htimer htrue))
    · have hmh' : mh ∈ r.2 ++ s.sent := hmh
      rw [hr, List.singleton_append, List.mem_cons] at hmh'
      rcases hmh' with rfl | hmh'
      · rw [ha.ack] at hack
        cases hack
      · exact hs.media (Or.inr ⟨mh, hmh', hack⟩)

/-! ### The events at a node -/

theorem sndTimer_learnAddr (app : CallApp) (addr : Addr) :
    (app.learnAddr addr).sndTimer = app.sndTimer := by
  unfold CallApp.learnAddr
  split_ifs <;> rfl

theorem sndTimer_sendInvitePkt (app : CallApp) (addr : Addr) :
    (app.sendInvitePkt junk addr).1.sndTimer = app.sndTimer :=
  sndTimer_learnAddr app addr

theorem sndTimer_sendRegisterPkt (app : CallApp) (addr : Addr) :
    (app.sendRegisterPkt junk addr).1.sndTimer = app.sndTimer :=
  sndTimer_learnAddr app addr

/-- The INVITE of a start. -/
theorem start_ok (junk : HdrMysip) (app : CallApp) (addr : Addr) (toID : ℤ) (toURL : Addr) :
    ∃ a, (app.start junk addr toID toURL).2 = [a] ∧ IsSignal 0 (app.myID, toID) a ∧
      (app.start junk addr toID toURL).1.sndTimer = app.sndTimer := by
  obtain ⟨a, ha, hsignal⟩ := isSignal_invite junk
    { app with
      toID := toID, toURL := toURL, seq := 0, newAddr := addr, running := true
      contactDstAddr := toURL } addr
  exact ⟨a, ha, hsignal, sndTimer_sendInvitePkt _ addr⟩

/-- The timer is set for a 200 OK only. -/
theorem sndTimer_recvMsg {app : CallApp} {addr : Addr} {mh : HdrMysip}
    (h : (app.recvMsg junk addr mh).1.sndTimer = true) :
    app.sndTimer = true ∨ mh.ack = 1 ∧ mh.method = 1 := by
  unfold CallApp.recvMsg at h
  split_ifs at h with hack h0 h88 h1 h2 h3 h4 h9
  · exact Or.inl h
  · exact Or.inl ((sndTimer_learnAddr (app.setContact mh) addr).symm.trans h)
  · exact Or.inr ⟨hack, h1⟩
  · exact Or.inl h
  · exact Or.inl h
  · rw [sndTimer_sendInvitePkt] at h
    exact Or.inl h
  · exact Or.inl h
  · exact Or.inl h
  · exact Or.inl h

/-- What an event at a node keeps when messages of the weight `x m` arrive with it. -/
structure Keeps (P : ℤ × ℤ → Bool) (x : ℤ → ℕ) (s s' : Endpoint) (out : List Packet) : Prop where
  size : s'.size = s.size
  fair : Fair P s → Fair P s'
  conserves : ∀ m, Counted m →
    heardOf P m s' + weigh (weight P m) out + sentOf P m s ≤ heardOf P m s + x m + sentOf P m s'

/-- What arrives is sent on or heard, and what is heard is answered. -/
theorem keeps_receive {out : List Packet} (hsize : 300 ≤ s.size)
    (h : s.receive junk p = .ok (s', out)) : Keeps P (fun m => weight P m p) s s' out := by
  obtain ⟨⟨a, mm, outs, call⟩, hrecv, h⟩ := bind_ok_iff.1 h
  dsimp only at h
  split at h
  · rename_i nb mh
    obtain ⟨⟨s₁, sent⟩, hsent, h⟩ := bind_ok_iff.1 h
    cases h
    have hresp := responds_recvMsg junk s.app a.addr mh
    obtain ⟨rfl, hweigh⟩ := transmit_ok (P := P) (by exact hsize) hresp.wellformed hsent
    set s₀ : Endpoint := { s with agent := a, mm := mm }
    refine ⟨rfl, fun hs => ?_, fun m hm => ?_⟩
    · have hs₀ : Fair P s₀ := hs.of_eq rfl rfl rfl id
      exact hs₀.respond hresp sndTimer_recvMsg
    · have hkept := recv_conserves (P := P) hm hrecv
      have hone := hweigh m
      have hheard : heardOf P m (hears s₀ mh) =
          heardOf P m s + heardBy P m (some (.recvMsg nb mh)) :=
        heardOf_hears P m s₀ mh
      show heardOf P m (hears s₀ mh) + weigh (weight P m) (outs.map Out.packet ++ sent) +
        sentOf P m s ≤ heardOf P m s + weight P m p +
          sentOf P m (sentMore (hears s₀ mh) (s.app.recvMsg junk a.addr mh))
      rw [weigh_append, sentOf_sentMore, hheard]
      show _ ≤ _ + (_ + sentOf P m s)
      omega
  · cases h
    refine ⟨rfl, fun hs => hs.of_eq rfl rfl rfl id, fun m hm => ?_⟩
    have hkept := recv_conserves (P := P) hm hrecv
    show heardOf P m s + weigh (weight P m) (outs.map Out.packet) + sentOf P m s ≤
      heardOf P m s + weight P m p + sentOf P m s
    omega

/-- The application sends nothing, and the agent no packet of a call. -/
theorem keeps_of_quiet {out : List Packet} (hsize : s'.size = s.size) (hheard : s'.heard = s.heard)
    (hsent : s'.sent = s.sent) (hstarted : s'.started = s.started)
    (htimer : s'.app.sndTimer = true → s.app.sndTimer = true)
    (hout : ∀ q ∈ out, ¬ q.mh.IsCall) : Keeps P (fun _ => 0) s s' out := by
  refine ⟨hsize, fun hs => hs.of_eq hsent hheard hstarted htimer, fun m hm => ?_⟩
  unfold heardOf sentOf
  rw [hheard, hsent, weigh_eq_zero _ fun q hq => weight_eq_zero hm (hout q hq)]

/-- The messages of an application go out, and are counted as sent. -/
theorem conserves_of_transmit {s₀ : Endpoint} {r : CallApp × List HdrMysip} {out : List Packet}
    (h : s₀.transmit r = .ok (s', out)) (hsize : 300 ≤ s₀.size) (hheard : s₀.heard = s.heard)
    (hsent : s₀.sent = s.sent) (hr : ∀ mh ∈ r.2, Wellformed mh) :
    s' = sentMore s₀ r ∧ ∀ m,
      heardOf P m s' + weigh (weight P m) out + sentOf P m s ≤
        heardOf P m s + 0 + sentOf P m s' := by
  obtain ⟨rfl, hweigh⟩ := transmit_ok (P := P) hsize hr h
  refine ⟨rfl, fun m => ?_⟩
  have hone := hweigh m
  rw [sentOf_sentMore]
  unfold heardOf sentOf
  rw [← hheard, ← hsent]
  show s₀.heard.countP _ + _ + _ ≤ _
  omega

/-- What a node does by itself. -/
theorem keeps_operate {op : Endpoint.Op} {out : List Packet} (hsize : 300 ≤ s.size)
    (h : s.operate junk op = .ok (s', out)) : Keeps P (fun _ => 0) s s' out := by
  cases op with
  | myIdUrl _ url =>
    cases h
    exact keeps_of_quiet rfl rfl rfl rfl id (List.forall_mem_nil _)
  | addUrlRecord _ url ip =>
    cases h
    exact keeps_of_quiet rfl rfl rfl rfl id (List.forall_mem_nil _)
  | stop =>
    cases h
    exact keeps_of_quiet rfl rfl rfl rfl id (List.forall_mem_nil _)
  | setAddr addr =>
    cases h
    exact keeps_of_quiet rfl rfl rfl rfl id (List.forall_mem_nil _)
  | newPrefix pre iface bsAddr =>
    obtain ⟨⟨a, outs⟩, hnew, h⟩ := bind_ok_iff.1 h
    cases h
    exact keeps_of_quiet rfl rfl rfl rfl id (List.forall_mem_map.2 (mnProcessNewPrefix_other hnew))
  | reHoming iface =>
    obtain ⟨⟨a, outs⟩, hhome, h⟩ := bind_ok_iff.1 h
    cases h
    exact keeps_of_quiet rfl rfl rfl rfl id (List.forall_mem_map.2 (reHoming_other hhome))
  | sendInvite toID toURL =>
    obtain ⟨a, ha, hsignal, htimer⟩ := start_ok junk s.app s.agent.addr toID toURL
    have hsend : ({ s with started := (s.app.myID, toID) :: s.started } : Endpoint).transmit
        (s.app.start junk s.agent.addr toID toURL) = .ok (s', out) := h
    have hwell : ∀ mh ∈ (s.app.start junk s.agent.addr toID toURL).2, Wellformed mh := by
      intro mh hmh
      rw [ha] at hmh
      rw [List.mem_singleton.1 hmh]
      exact hsignal.wellformed (by decide)
    obtain ⟨rfl, hconserves⟩ := conserves_of_transmit (P := P) (s := s) hsend hsize rfl rfl hwell
    exact ⟨rfl, fun hs => hs.start ha hsignal htimer.le, fun m _ => hconserves m⟩
  | registration addr =>
    have hsend : ({ s with agent := { s.agent with addr := addr } } : Endpoint).transmit
        (({ s.app with newAddr := addr } : CallApp).sendRegisterPkt junk addr) = .ok (s', out) := h
    have hregister :
        ∀ mh ∈ (({ s.app with newAddr := addr } : CallApp).sendRegisterPkt junk addr).2,
        IsSignal 3 mh.call mh := by
      intro mh hmh
      rw [List.mem_singleton.1 hmh]
      exact isSignal_of (k := 200) rfl rfl rfl rfl (by decide)
    obtain ⟨rfl, hconserves⟩ := conserves_of_transmit (P := P) (s := s) hsend hsize rfl rfl
      fun mh hmh => (hregister mh hmh).wellformed (by decide)
    refine ⟨rfl, fun hs => ?_, fun m _ => hconserves m⟩
    have hs₀ : Fair P { s with agent := { s.agent with addr := addr } } := hs.of_eq rfl rfl rfl id
    refine hs₀.send (fun mh hmh => Or.inr ⟨(hregister mh hmh).ack, (hregister mh hmh).method⟩) ?_
    intro htimer
    rwa [sndTimer_sendRegisterPkt] at htimer
  | expireSend =>
    have hcases : (if s.app.sndTimer then s.transmit (s.app.expireSend junk s.agent.addr)
        else .ok (s, [])) = .ok (s', out) := h
    split_ifs at hcases with hset
    · obtain ⟨rfl, hconserves⟩ := conserves_of_transmit (P := P) (s := s) hcases hsize rfl rfl
        fun mh hmh => Or.inl (sendMysipData_ack mh hmh)
      refine ⟨rfl, fun hs => ?_, fun m _ => hconserves m⟩
      exact hs.send (fun mh hmh => Or.inl ⟨sendMysipData_ack mh hmh, hset⟩) fun _ => hset
    · cases hcases
      exact keeps_of_quiet rfl rfl rfl rfl id (List.forall_mem_nil _)

/-! ### Runs -/

section Runs

variable {ι : Type} [DecidableEq ι] [Fintype ι] {n n' : Net ι Endpoint Packet} {c : ℤ × ℤ}

/-- Nothing has happened.  Messages of 300 bytes go out in one packet. -/
structure Fresh (n : Net ι Endpoint Packet) : Prop where
  flight : n.flight = []
  size : ∀ i, 300 ≤ (n.node i).size
  idle : ∀ i, (n.node i).app.sndTimer = false
  started : ∀ i, (n.node i).started = []
  heard : ∀ i, (n.node i).heard = []
  sent : ∀ i, (n.node i).sent = []

/-- The invariant: every endpoint is fair, and no message of a call is made on the way. -/
structure Accounts (P : ℤ × ℤ → Bool) (n : Net ι Endpoint Packet) : Prop where
  size : ∀ i, 300 ≤ (n.node i).size
  fair : ∀ i, Fair P (n.node i)
  conserved : ∀ m, Counted m → Conserved (weight P m) (heardOf P m) (sentOf P m) n

omit [DecidableEq ι] in
theorem Fresh.accounts (h : Fresh n) (P : ℤ × ℤ → Bool) : Accounts P n := by
  have hheard : ∀ i m, heardOf P m (n.node i) = 0 := by
    intro i m
    unfold heardOf
    rw [h.heard]
    rfl
  have hsent : ∀ i m, sentOf P m (n.node i) = 0 := by
    intro i m
    unfold sentOf
    rw [h.sent]
    rfl
  refine ⟨h.size, fun i => ⟨?_, ?_, ?_, ?_⟩, fun m _ => ?_⟩
  · rw [hsent, hheard]
  · rw [hsent, hsent, hheard]
  · rw [hsent, startedOf, redirectedOf, h.started, h.heard]
    rfl
  · rintro (htrue | ⟨mh, hmh, -⟩)
    · rw [h.idle] at htrue
      cases htrue
    · rw [h.sent] at hmh
      cases hmh
  · unfold Conserved
    rw [h.flight, weigh_nil, Nat.add_zero,
      total_congr fun i => (hheard i m).trans (hsent i m).symm]

/-- A node acts, when packets of the weight `x m` were taken from those under way. -/
theorem Accounts.act (op : Endpoint → Act (Endpoint × List Packet)) {i : ι} {flight : List Packet}
    {x : ℤ → ℕ} (h : Accounts P n) (hflight : ∀ m, weigh (weight P m) flight + x m ≤
      weigh (weight P m) n.flight)
    (hop : ∀ s out, op (n.node i) = .ok (s, out) → Keeps P x (n.node i) s out)
    (hn : operate op i { n with flight := flight } = .ok n') : Accounts P n' := by
  refine ⟨fun j => ?_, fun j => ?_, fun m hm => ?_⟩
  · obtain ⟨s, out, hr, rfl⟩ := node_operate hn
    dsimp only
    by_cases hj : j = i
    · subst hj
      rw [Function.update_self, (hop s out hr).size]
      exact h.size j
    · rw [Function.update_of_ne hj]
      exact h.size j
  · obtain ⟨s, out, hr, rfl⟩ := node_operate hn
    dsimp only
    by_cases hj : j = i
    · subst hj
      rw [Function.update_self]
      exact (hop s out hr).fair (h.fair j)
    · rw [Function.update_of_ne hj]
      exact h.fair j
  · exact (h.conserved m hm).act (hflight m) (fun s out hr => (hop s out hr).conserves m hm) hn

/-- One event. -/
theorem Accounts.step {e : CallEvent ι} (h : Accounts P n) (hstep : callStep junk n e = .ok n') :
    Accounts P n' := by
  cases e with
  | act i op =>
    exact h.act (fun s => s.operate junk op) (fun m => le_refl (weigh (weight P m) n.flight + 0))
      (fun s out hr => keeps_operate (h.size i) hr) hstep
  | arrive k i iph size =>
    cases hk : n.flight[k]? with
    | none =>
      simp only [callStep, hk] at hstep
      cases hstep
      exact h
    | some p =>
      simp only [callStep, hk] at hstep
      have hflight : ∀ m, weigh (weight P m) (n.flight.eraseIdx k) +
          weight P m (carried p iph size) ≤ weigh (weight P m) n.flight := by
        intro m
        rw [← weigh_eraseIdx _ hk]
        exact (Nat.add_comm _ _).le
      exact h.act (fun s => s.receive junk (carried p iph size)) hflight
        (fun s out hr => keeps_receive (h.size i) hr) hstep
  | lose k =>
    cases hstep
    exact ⟨h.size, h.fair, fun m hm => (h.conserved m hm).lose k⟩

theorem Accounts.run {es : List (CallEvent ι)} (h : Accounts P n)
    (hrun : runSteps (callStep junk) n es = .ok n') : Accounts P n' :=
  runSteps_invariant_of_any (fun _ _ _ hs hstep => hs.step hstep) h hrun

/-! ### Calls and answers -/

/-- The call in question. -/
def ofCall (c c' : ℤ × ℤ) : Bool := decide (c' = c)

/-- Any call. -/
def ofAny (_ : ℤ × ℤ) : Bool := true

/-- For a call: the ACKs that are heard were sent, one for each 200 OK that was heard; those were
sent for an INVITE that was heard, which has no other answer; and the INVITEs were sent. -/
structure Answered (c : ℤ × ℤ) (node : ι → Endpoint) : Prop where
  acksHeard : total (heardOf (ofCall c) 2) node ≤ total (sentOf (ofCall c) 2) node
  acks : total (sentOf (ofCall c) 2) node = total (heardOf (ofCall c) 1) node
  oksHeard : total (heardOf (ofCall c) 1) node ≤ total (sentOf (ofCall c) 1) node
  answers : total (sentOf (ofCall c) 1) node + total (sentOf (ofCall c) 4) node ≤
    total (heardOf (ofCall c) 0) node
  invitesHeard : total (heardOf (ofCall c) 0) node ≤ total (sentOf (ofCall c) 0) node

omit [DecidableEq ι] in
theorem Accounts.answered (h : Accounts (ofCall c) n) : Answered c n.node := by
  refine ⟨(h.conserved 2 (by decide)).le, total_congr fun i => (h.fair i).acks,
    (h.conserved 1 (by decide)).le, ?_, (h.conserved 0 (by decide)).le⟩
  rw [← total_add]
  exact total_mono fun i => (h.fair i).answers

omit [DecidableEq ι] in
/-- There are no more 200 OKs than calls that were started. -/
theorem Accounts.oks_le (h : Accounts ofAny n) :
    total (sentOf ofAny 1) n.node ≤ total (startedOf ofAny) n.node := by
  have hanswers : total (sentOf ofAny 1) n.node + total (sentOf ofAny 4) n.node ≤
      total (heardOf ofAny 0) n.node := by
    rw [← total_add]
    exact total_mono fun i => (h.fair i).answers
  have hinvites : total (sentOf ofAny 0) n.node =
      total (startedOf ofAny) n.node + total (redirectedOf ofAny) n.node := by
    rw [← total_add]
    exact total_congr fun i => (h.fair i).invites
  -- a redirection is an answer of a server that was heard
  have hredirected : total (redirectedOf ofAny) n.node = total (heardOf ofAny 4) n.node := rfl
  have hheard := (h.conserved 0 (by decide)).le
  have hmoved := (h.conserved 4 (by decide)).le
  omega

/-- In every run from the start each call is answered as often as it can be, at most; there are no
more 200 OKs than calls that were started; and one who has sent data has heard a 200 OK. -/
theorem calls_accounted (h0 : Fresh n) {es : List (CallEvent ι)}
    (hrun : runSteps (callStep junk) n es = .ok n') :
    (∀ c, Answered c n'.node) ∧
      total (sentOf ofAny 1) n'.node ≤ total (startedOf ofAny) n'.node ∧
      ∀ i, (∃ mh ∈ (n'.node i).sent, mh.ack = 0) →
        ∃ x ∈ (n'.node i).heard, x.2.ack = 1 ∧ x.2.method = 1 := by
  have hany := (h0.accounts ofAny).run hrun
  refine ⟨fun c => ((h0.accounts (ofCall c)).run hrun).answered, hany.oks_le, fun i hdata => ?_⟩
  exact (hany.fair i).media (Or.inr hdata)

end Runs

/-- Two correspondents. -/
def twoParties : Net Bool Endpoint Packet where
  node i :=
    { agent := { addr := if i then 2 else 1 }
      mm := { app := true, asm := { rbytes := 0, tbytes := 0 } }
      app := { myID := if i then 20 else 10, myURL := if i then 2 else 1 } }
  flight := []

/-- One calls the other, who answers; then its first data arrive. -/
def callUp : List (CallEvent Bool) :=
  [.act false (.sendInvite 20 2), .arrive 0 true {} 140, .arrive 0 false {} 100,
    .arrive 0 true {} 1020]

theorem callUp_ok : (runSteps (callStep {}) twoParties callUp).map (fun n =>
    (n.node false).sent.map fun mh => (mh.ack, mh.method)) = .ok [(0, 7), (1, 2), (1, 0)] := by
  decide +kernel

theorem calls_accounted_callUp :
    ∃ n, runSteps (callStep {}) twoParties callUp = .ok n ∧ Answered (10, 20) n.node ∧
      (n.node false).sent.map (fun mh => (mh.ack, mh.method)) = [(0, 7), (1, 2), (1, 0)] ∧
      ∃ x ∈ (n.node false).heard, x.2.ack = 1 ∧ x.2.method = 1 := by
  have hfresh : Fresh twoParties :=
    ⟨rfl, by decide, by decide, fun _ => rfl, fun _ => rfl, fun _ => rfl⟩
  obtain ⟨n, hrun, hn⟩ := map_ok_iff.1 callUp_ok
  obtain ⟨hanswered, -, hmedia⟩ := calls_accounted hfresh hrun
  refine ⟨n, hrun, hanswered (10, 20), hn, hmedia false ?_⟩
  -- the first of the three messages is data
  have hdata : (0, 7) ∈ (n.node false).sent.map fun mh => (mh.ack, mh.method) := by
    rw [hn]
    exact List.mem_cons_self
  obtain ⟨mh, hmem, hmh⟩ := List.mem_map.1 hdata
  exact ⟨mh, hmem, congrArg Prod.fst hmh⟩

end SipNemo.Sip
