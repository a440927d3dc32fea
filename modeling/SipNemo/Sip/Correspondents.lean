import SipNemo.Sip.Selection

/-!
# The correspondents of a mobile router

A router keeps a `SIP_CN` entry for every correspondent, under its url id.  Methods 9, 11 and 12
and the 200 OK carry a new contact of one.  Method 12 looks the entry up by type and id; the others
take the first entry with the id, of whatever type; and method 14 inserts a new entry without
looking for an old one.

So a correspondent has one entry, with its latest contact, as long as method 14 comes for ids that
have none and the first entry with an id that is written to is of the expected type
(`oneEntryPerCn_run`).
-/

namespace SipNemo.Sip

open FirstMatch Runs

/-- The correspondent whose contact the message carries: the sender of methods 9 and 11, the
callee of methods 12 and 1; for a 200 OK only if the callee is a correspondent or unknown. -/
def updatedCn (l : List SIPEntry) (mh : HdrMysip) : Option ℤ :=
  if mh.method = 9 ∨ mh.method = 11 then some mh.fromId
  else if mh.method = 12 then some mh.toId
  else if mh.method = 1 ∧
      (getCnEntryByUrlId l mh.toId ≠ none ∨ getEntryByUrlId l mh.toId = none) then some mh.toId
  else none

/-- The latest contacts after the message. -/
def noteContact (l : List SIPEntry) (latest : ℤ → Option Addr) (mh : HdrMysip) :
    ℤ → Option Addr :=
  match updatedCn l mh with
  | some u => Function.update latest u (some mh.contact)
  | none => latest

/-- A router, and the latest contact each correspondent has sent it. -/
structure Correspondence where
  agent : UdpmysipAgent
  latest : ℤ → Option Addr := fun _ => none

/-- `recv`, with the contact noted. -/
def correspondStep (w : Correspondence) (p : Packet) : Act Correspondence :=
  (recvMr w.agent p).map fun r =>
    { agent := r.1, latest := noteContact w.agent.siplist w.latest p.mh }

/-- No two `SIP_CN` entries have the same url id, and each correspondent that has sent a contact
is found with it. -/
structure OneEntryPerCn (l : List SIPEntry) (latest : ℤ → Option Addr) : Prop where
  unique : l.Pairwise fun e e' => e.type = .sipCn → e'.type = .sipCn → e.urlId ≠ e'.urlId
  current : ∀ u c, latest u = some c → ∃ e, getCnEntryByUrlId l u = some e ∧ e.con = c

/-- Where a message writes to or inserts the right entry. -/
def ReachesCn (l : List SIPEntry) (mh : HdrMysip) : Prop :=
  if mh.method = 14 then getCnEntryByUrlId l mh.toId = none
  else if mh.method = 9 ∨ mh.method = 11 then
    ∀ e ∈ getEntryByUrlId l mh.fromId, e.type = .sipCn
  else if mh.method = 1 then
    ∀ e ∈ getEntryByUrlId l mh.toId, e.type = .sipCn ∨ getCnEntryByUrlId l mh.toId = none
  else if mh.method = 5 ∨ mh.method = 13 then
    ∀ e ∈ getEntryByUrlId l mh.contactId, e.type ≠ .sipCn
  else True

/-! ### One edit of the list -/

section Edit

variable {l : List SIPEntry} {latest : ℤ → Option Addr} {e : SIPEntry} {u : ℤ} {c : Addr}
  {p : SIPEntry → Bool} {f : SIPEntry → SIPEntry}

theorem isCn_iff : isCnWithUrlId u e = true ↔ e.type = .sipCn ∧ e.urlId = u := by
  simp [isCnWithUrlId]

/-- The first entry with an id, if it is a correspondent, is the one found by type as well. -/
theorem getCn_of_getEntry (h : getEntryByUrlId l u = some e) (ht : e.type = .sipCn) :
    getCnEntryByUrlId l u = some e := by
  have hid : e.urlId = u := by simpa [hasUrlId] using List.find?_some h
  rw [getEntryByUrlId, List.find?_eq_some_iff_append] at h
  obtain ⟨-, as, bs, rfl, hbefore⟩ := h
  rw [getCnEntryByUrlId, List.find?_eq_some_iff_append]
  refine ⟨isCn_iff.2 ⟨ht, hid⟩, as, bs, rfl, fun a ha => ?_⟩
  have hne := hbefore a ha
  simp only [hasUrlId, Bool.not_eq_true', beq_eq_false_iff_ne] at hne
  simp [isCnWithUrlId, hne]

theorem OneEntryPerCn.start (h : (l.map (·.urlId)).Nodup) : OneEntryPerCn l fun _ => none where
  unique := by
    refine (List.pairwise_map.1 h).imp fun hne _ _ => hne
  current := fun u c hc => by cases hc

/-- An entry of another type in front. -/
theorem OneEntryPerCn.cons_other (h : OneEntryPerCn l latest) (ht : e.type ≠ .sipCn) :
    OneEntryPerCn (e :: l) latest where
  unique := List.pairwise_cons.2 ⟨fun _ _ hcn => absurd hcn ht, h.unique⟩
  current := fun u c hc => by
    have hskip : isCnWithUrlId u e = false := by simp [isCnWithUrlId, ht]
    rw [getCnEntryByUrlId, List.find?_cons, hskip]
    exact h.current u c hc

/-- A new correspondent in front, which had no entry and now has a contact, or none is noted. -/
theorem OneEntryPerCn.cons_cn (h : OneEntryPerCn l latest)
    (hnone : getCnEntryByUrlId l e.urlId = none) : OneEntryPerCn (e :: l) latest where
  unique := by
    refine List.pairwise_cons.2 ⟨fun e' he' _ ht' heq => ?_, h.unique⟩
    have hno := List.find?_eq_none.1 hnone e' he'
    exact hno (isCn_iff.2 ⟨ht', heq.symm⟩)
  current := fun u c hc => by
    obtain ⟨e', he', hcon⟩ := h.current u c hc
    have hskip : isCnWithUrlId u e = false := by
      by_contra hne
      obtain ⟨-, rfl⟩ := isCn_iff.1 (Bool.eq_true_of_not_eq_false hne)
      rw [hnone] at he'
      cases he'
    rw [getCnEntryByUrlId, List.find?_cons, hskip]
    exact ⟨e', he', hcon⟩

theorem unique_updateFirst (hf : ∀ e, (f e).type = e.type ∧ (f e).urlId = e.urlId)
    (h : OneEntryPerCn l latest) :
    (updateFirst p f l).Pairwise
      fun e e' => e.type = .sipCn → e'.type = .sipCn → e.urlId ≠ e'.urlId := by
  have hmap : (updateFirst p f l).map (fun e => (e.type, e.urlId)) =
      l.map fun e => (e.type, e.urlId) :=
    map_updateFirst (fun e => Prod.ext (hf e).1 (hf e).2) l
  have hpairs := fun l : List SIPEntry => List.pairwise_map (l := l)
    (f := fun e => (e.type, e.urlId))
    (R := fun a b => a.1 = .sipCn → b.1 = .sipCn → a.2 ≠ b.2)
  exact (hpairs _).1 (hmap ▸ (hpairs l).2 h.unique)

/-- A write to an entry of another type, or to none. -/
theorem OneEntryPerCn.write_other (h : OneEntryPerCn l latest)
    (hne : ∀ e ∈ l.find? p, e.type ≠ .sipCn) :
    OneEntryPerCn (updateFirst p (·.setCon c) l) latest where
  unique := unique_updateFirst (fun _ => ⟨rfl, rfl⟩) h
  current := fun u d hd => by
    have hsame : (updateFirst p (·.setCon c) l).find? (isCnWithUrlId u) =
        l.find? (isCnWithUrlId u) := by
      cases hfind : l.find? p with
      | none =>
        refine find?_updateFirst_of_disjoint fun a ha hpa => ?_
        exact absurd hpa (List.find?_eq_none.1 hfind a ha)
      | some a =>
        have ht : a.type ≠ .sipCn := hne a hfind
        exact find?_updateFirst_of_unmatched hfind (by simp [isCnWithUrlId, ht])
          (by simp [isCnWithUrlId, ht])
    rw [getCnEntryByUrlId, hsame]
    exact h.current u d hd

/-- A correspondent's contact is written to its entry. -/
theorem OneEntryPerCn.write_cn (h : OneEntryPerCn l latest)
    (hp : ∀ e, p e = true → e.urlId = u) (hfind : l.find? p = some e)
    (hcn : getCnEntryByUrlId l u = some e)
    (hf : ∀ e, (f e).type = e.type ∧ (f e).urlId = e.urlId) (hc : (f e).con = c) :
    OneEntryPerCn (updateFirst p f l) (Function.update latest u (some c)) where
  unique := unique_updateFirst hf h
  current := fun v d hd => by
    have hcnf : ∀ a, isCnWithUrlId v (f a) = isCnWithUrlId v a := fun a => by
      rw [isCnWithUrlId, isCnWithUrlId, (hf a).1, (hf a).2]
    by_cases hv : v = u
    · subst hv
      obtain rfl : c = d := by simpa using hd
      exact ⟨f e, find?_updateFirst_of_same hcnf hfind hcn, hc⟩
    · rw [Function.update_of_ne hv] at hd
      have hskip : ∀ a, p a = true → isCnWithUrlId v a = false := fun a ha => by
        simp [isCnWithUrlId, hp a ha, Ne.symm hv]
      rw [getCnEntryByUrlId, find?_updateFirst_of_disjoint fun a _ ha =>
        ⟨hskip a ha, (hcnf a).trans (hskip a ha)⟩]
      exact h.current v d hd

/-- The latest contact of an id that was unknown comes with its new entry. -/
theorem OneEntryPerCn.cons_noted (h : OneEntryPerCn l latest) (ht : e.type = .sipCn)
    (hnone : getCnEntryByUrlId l e.urlId = none) :
    OneEntryPerCn (e :: l) (Function.update latest e.urlId (some e.con)) where
  unique := (h.cons_cn hnone).unique
  current := fun u c hc => by
    by_cases hu : u = e.urlId
    · subst hu
      rw [Function.update_self] at hc
      have hself : isCnWithUrlId e.urlId e = true := isCn_iff.2 ⟨ht, rfl⟩
      exact ⟨e, by rw [getCnEntryByUrlId, List.find?_cons, hself], Option.some_injective _ hc⟩
    · rw [Function.update_of_ne hu] at hc
      exact (h.cons_cn hnone).current u c hc

end Edit

/-! ### One message -/

section Message

variable {l : List SIPEntry} {latest : ℤ → Option Addr} {mh : HdrMysip} {c : Addr} {u : ℤ}
  {a : UdpmysipAgent} {p : Packet} {r : Received}

theorem getCn_eq_none (h : getEntryByUrlId l u = none) : getCnEntryByUrlId l u = none := by
  refine List.find?_eq_none.2 fun e he hcn => ?_
  have hno := List.find?_eq_none.1 h e he
  exact hno (beq_iff_eq.2 (isCn_iff.1 hcn).2)

/-- Methods 5 and 13 write to the entry of the contact, which they may have to insert. -/
theorem OneEntryPerCn.write_mn (h : OneEntryPerCn l latest)
    (hne : ∀ e ∈ getEntryByUrlId l mh.contactId, e.type ≠ .sipCn) :
    OneEntryPerCn (updateFirst (hasUrlId mh.contactId) (·.setCon c) (ensureMn l mh)) latest := by
  rcases ensureMn_cases l mh with ⟨e, -, heq⟩ | ⟨hnone, heq⟩
  · rw [heq]
    exact h.write_other hne
  · rw [heq]
    have hmn : (SIPEntry.newMn mh).type ≠ .sipCn := by
      rw [SIPEntry.newMn_type]
      decide
    refine (h.cons_other hmn).write_other fun e he => ?_
    have hcase : e = SIPEntry.newMn mh ∨ l.find? (hasUrlId mh.contactId) = some e := by
      cases hid : hasUrlId mh.contactId (SIPEntry.newMn mh) with
      | true => exact Or.inl (by simpa [hid] using he.symm)
      | false => exact Or.inr (by simpa [hid] using he)
    rcases hcase with rfl | hold
    · exact hmn
    · rw [show l.find? (hasUrlId mh.contactId) = none from hnone] at hold
      cases hold

/-- Methods 9 and 11 register the sender. -/
theorem OneEntryPerCn.register_cn (h : OneEntryPerCn l latest)
    (hcn : ∀ e ∈ getEntryByUrlId l mh.fromId, e.type = .sipCn) :
    OneEntryPerCn (registration l mh .sipCn)
      (Function.update latest mh.fromId (some mh.contact)) := by
  unfold registration
  cases hfind : getEntryByUrlId l mh.fromId with
  | none => exact h.cons_noted (e := SIPEntry.ofHeader .sipCn mh) rfl (getCn_eq_none hfind)
  | some e =>
    refine h.write_cn (f := (·.setCon mh.contact)) (fun e he => beq_iff_eq.1 he) hfind ?_
      (fun _ => ⟨rfl, rfl⟩) rfl
    exact getCn_of_getEntry hfind (hcn e hfind)

theorem recvInvite_siplist (h : recvInvite a p = .ok r) :
    r.1.siplist = a.siplist ∨ (getEntryByUrlId a.siplist p.mh.fromId = none ∧
      r.1.siplist = SIPEntry.ofHeader .sipCn p.mh :: a.siplist) := by
  unfold recvInvite at h
  cases hmn : getMnEntryByUrlId a.siplist p.mh.fromId with
  | none =>
    rw [hmn] at h
    obtain ⟨bu, -, h⟩ := bind_ok_iff.1 h
    obtain ⟨⟨outs, q⟩, -, hpure⟩ := bind_ok_iff.1 h
    cases hpure
    cases hfind : getEntryByUrlId a.siplist p.mh.fromId with
    | none => exact Or.inr ⟨rfl, by simp [registration, hfind]⟩
    | some e => exact Or.inl rfl
  | some mn =>
    rw [hmn] at h
    obtain ⟨bu, -, h⟩ := bind_ok_iff.1 h
    obtain ⟨f, -, hpure⟩ := bind_ok_iff.1 h
    cases hpure
    exact Or.inl rfl

/-- The list after a 200 OK. -/
def okList (l : List SIPEntry) (mh : HdrMysip) : List SIPEntry :=
  updateFirst (hasUrlId mh.toId) (fun e => if e.type = .sipCn then e.setCon mh.contact else e)
    (match getEntryByUrlId l mh.toId with
    | none =>
      ({ type := .sipCn : SIPEntry }).updateEntry mh.toId mh.toURL mh.contactId mh.contact :: l
    | some _ => l)

theorem recvOk_siplist (h : recvOk a p = .ok r) : r.1.siplist = okList a.siplist p.mh := by
  change (match getMnEntryByUrlId (okList a.siplist p.mh) p.mh.fromId with
    | none => _
    | some mn => _) = _ at h
  cases hmn : getMnEntryByUrlId (okList a.siplist p.mh) p.mh.fromId with
  | none =>
    rw [hmn] at h
    obtain ⟨cn, -, h⟩ := bind_ok_iff.1 h
    obtain ⟨mn, -, h⟩ := bind_ok_iff.1 h
    obtain ⟨bu, -, h⟩ := bind_ok_iff.1 h
    obtain ⟨f, -, hpure⟩ := bind_ok_iff.1 h
    cases hpure
    rfl
  | some mn =>
    rw [hmn] at h
    obtain ⟨⟨outs, q⟩, -, hpure⟩ := bind_ok_iff.1 h
    cases hpure
    rfl

/-- A 200 OK writes to the callee's entry, which it may have to insert. -/
theorem OneEntryPerCn.ok (h : OneEntryPerCn l latest) (hmethod : mh.method = 1)
    (hcn : ∀ e ∈ getEntryByUrlId l mh.toId,
      e.type = .sipCn ∨ getCnEntryByUrlId l mh.toId = none) :
    OneEntryPerCn (okList l mh) (noteContact l latest mh) := by
  have hp : ∀ e, hasUrlId mh.toId e = true → e.urlId = mh.toId := fun e he => beq_iff_eq.1 he
  have hf : ∀ e : SIPEntry,
      (if e.type = .sipCn then e.setCon mh.contact else e).type = e.type ∧
        (if e.type = .sipCn then e.setCon mh.contact else e).urlId = e.urlId := fun e => by
    split_ifs <;> exact ⟨rfl, rfl⟩
  unfold okList
  cases hfind : getEntryByUrlId l mh.toId with
  | none =>
    -- the entry is new, and the write finds it
    have hnote : noteContact l latest mh =
        Function.update latest mh.toId (some mh.contact) := by
      simp [noteContact, updatedCn, hmethod, hfind]
    set cn : SIPEntry :=
      ({ type := .sipCn : SIPEntry }).updateEntry mh.toId mh.toURL mh.contactId mh.contact
    have hself : hasUrlId mh.toId cn = true := beq_self_eq_true _
    have hcons : OneEntryPerCn (cn :: l) latest := h.cons_cn (getCn_eq_none hfind)
    have hfirst : (cn :: l).find? (hasUrlId mh.toId) = some cn := by
      rw [List.find?_cons, hself]
    rw [hnote]
    exact hcons.write_cn hp hfirst (getCn_of_getEntry hfirst rfl) hf rfl
  | some e =>
    by_cases ht : e.type = .sipCn
    · have hget := getCn_of_getEntry hfind ht
      have hnote : noteContact l latest mh =
          Function.update latest mh.toId (some mh.contact) := by
        simp [noteContact, updatedCn, hmethod, hget]
      rw [hnote]
      refine h.write_cn hp hfind hget hf ?_
      rw [if_pos ht, SIPEntry.setCon_con]
    · have hno : getCnEntryByUrlId l mh.toId = none :=
        (hcn e hfind).resolve_left ht
      have hnote : noteContact l latest mh = latest := by
        simp [noteContact, updatedCn, hmethod, hno, hfind]
      rw [hnote]
      have hfixed := updateFirst_of_fixed
        (f := fun e : SIPEntry => if e.type = .sipCn then e.setCon mh.contact else e) hfind
        (if_neg ht)
      show OneEntryPerCn (updateFirst _ _ l) latest
      rw [hfixed]
      exact h

theorem recvReinvite_siplist (h : recvReinvite a p = .ok r) :
    (∃ e, getCnEntryByUrlId a.siplist p.mh.toId = some e) ∧
      r.1.siplist = updateFirst (isCnWithUrlId p.mh.toId) (·.setCon p.mh.contact) a.siplist := by
  obtain ⟨cn, hcn, h⟩ := bind_ok_iff.1 h
  obtain ⟨mn, -, h⟩ := bind_ok_iff.1 h
  obtain ⟨⟨outs, q⟩, -, hpure⟩ := bind_ok_iff.1 h
  cases hpure
  exact ⟨⟨cn, assertNonNull_eq_ok.1 hcn⟩, rfl⟩

theorem recvRehome_siplist (h : recvRehome a p = .ok r) :
    r.1.siplist = registration a.siplist p.mh .sipCn := by
  obtain ⟨mn, -, h⟩ := bind_ok_iff.1 h
  obtain ⟨f, -, hpure⟩ := bind_ok_iff.1 h
  cases hpure
  rfl

theorem recvRefer_siplist (h : recvRefer a p = .ok r) :
    r.1.siplist = registration a.siplist p.mh .sipCn := by
  obtain ⟨outs, -, hpure⟩ := bind_ok_iff.1 h
  cases hpure
  rfl

theorem recvTempMove_siplist (h : recvTempMove a p = .ok r) : r.1.siplist = a.siplist := by
  obtain ⟨mn, -, h⟩ := bind_ok_iff.1 h
  obtain ⟨bu, -, h⟩ := bind_ok_iff.1 h
  obtain ⟨f, -, hpure⟩ := bind_ok_iff.1 h
  cases hpure
  rfl

theorem recvBuMn_siplist (h : recvBuMn a p = .ok r) :
    ∃ c, r.1.siplist =
      updateFirst (hasUrlId p.mh.contactId) (·.setCon c) (ensureMn a.siplist p.mh) := by
  obtain ⟨bu, -, h⟩ := bind_ok_iff.1 h
  obtain ⟨mn, -, h⟩ := bind_ok_iff.1 h
  obtain ⟨f, -, hpure⟩ := bind_ok_iff.1 h
  cases hpure
  exact ⟨bu.con, rfl⟩

theorem recvEfaceRefer_siplist (h : recvEfaceRefer a p = .ok r) :
    r.1.siplist = ({ type := .sipCn : SIPEntry }).updateEntry p.mh.toId p.mh.toURL
      p.mh.requestURLId p.mh.requestURL :: a.siplist := by
  obtain ⟨outs, -, hpure⟩ := bind_ok_iff.1 h
  cases hpure
  rfl

/-- The messages that carry the contact of their sender. -/
theorem noteContact_of_sender {l : List SIPEntry} {mh : HdrMysip}
    (h : mh.method = 9 ∨ mh.method = 11) :
    noteContact l latest mh = Function.update latest mh.fromId (some mh.contact) := by
  rw [noteContact, updatedCn, if_pos h]

/-- The messages that carry no contact of a correspondent. -/
theorem noteContact_of_quiet {l : List SIPEntry} {mh : HdrMysip}
    (h : mh.method ∉ ({9, 11, 12, 1} : Finset ℤ)) : noteContact l latest mh = latest := by
  simp only [Finset.mem_insert, Finset.mem_singleton, not_or] at h
  obtain ⟨h9, h11, h12, h1⟩ := h
  rw [noteContact, updatedCn, if_neg (not_or.2 ⟨h9, h11⟩), if_neg h12,
    if_neg fun h => h1 h.1]

theorem ReachesCn.of_sender {l : List SIPEntry} {mh : HdrMysip} (h : ReachesCn l mh)
    (hmethod : mh.method = 9 ∨ mh.method = 11) :
    ∀ e ∈ getEntryByUrlId l mh.fromId, e.type = .sipCn := by
  have h14 : mh.method ≠ 14 := by
    rcases hmethod with hm | hm <;> rw [hm] <;> decide
  rwa [ReachesCn, if_neg h14, if_pos hmethod] at h

theorem ReachesCn.of_ok {l : List SIPEntry} {mh : HdrMysip} (h : ReachesCn l mh)
    (hmethod : mh.method = 1) : ∀ e ∈ getEntryByUrlId l mh.toId,
      e.type = .sipCn ∨ getCnEntryByUrlId l mh.toId = none := by
  have hne : mh.method ≠ 14 ∧ ¬ (mh.method = 9 ∨ mh.method = 11) := by
    rw [hmethod]
    decide
  rwa [ReachesCn, if_neg hne.1, if_neg hne.2, if_pos hmethod] at h

theorem ReachesCn.of_contact {l : List SIPEntry} {mh : HdrMysip} (h : ReachesCn l mh)
    (hmethod : mh.method = 5 ∨ mh.method = 13) :
    ∀ e ∈ getEntryByUrlId l mh.contactId, e.type ≠ .sipCn := by
  have hne : mh.method ≠ 14 ∧ ¬ (mh.method = 9 ∨ mh.method = 11) ∧ mh.method ≠ 1 := by
    rcases hmethod with hm | hm <;> rw [hm] <;> decide
  rwa [ReachesCn, if_neg hne.1, if_neg hne.2.1, if_neg hne.2.2, if_pos hmethod] at h

/-- A message that reaches the right entry keeps one entry for each correspondent. -/
theorem OneEntryPerCn.recv (h : OneEntryPerCn a.siplist latest)
    (hreach : ReachesCn a.siplist p.mh) (hrecv : recvMr a p = .ok r) :
    OneEntryPerCn r.1.siplist (noteContact a.siplist latest p.mh) := by
  unfold recvMr at hrecv
  by_cases h5 : p.mh.method = 5
  · -- REGISTER
    rw [if_pos h5] at hrecv
    obtain ⟨bu, sel, -, -, ha⟩ := recvRegister_ok hrecv
    rw [noteContact_of_quiet (by rw [h5]; decide), ha]
    exact h.write_mn (hreach.of_contact (Or.inl h5))
  rw [if_neg h5] at hrecv
  by_cases h0 : p.mh.method = 0 ∨ p.mh.method = 7
  · -- INVITE and data
    rw [if_pos h0] at hrecv
    have hno : p.mh.method ∉ ({9, 11, 12, 1} : Finset ℤ) := by
      rcases h0 with h0 | h0 <;> rw [h0] <;> decide
    rw [noteContact_of_quiet hno]
    rcases recvInvite_siplist hrecv with hl | ⟨hnone, hl⟩
    · rw [hl]
      exact h
    · rw [hl]
      exact h.cons_cn (getCn_eq_none hnone)
  rw [if_neg h0] at hrecv
  by_cases h1 : p.mh.method = 1
  · rw [if_pos h1] at hrecv
    rw [recvOk_siplist hrecv]
    exact h.ok h1 (hreach.of_ok h1)
  rw [if_neg h1] at hrecv
  by_cases h9 : p.mh.method = 9
  · rw [if_pos h9] at hrecv
    rw [recvRehome_siplist hrecv, noteContact_of_sender (Or.inl h9)]
    exact h.register_cn (hreach.of_sender (Or.inl h9))
  rw [if_neg h9] at hrecv
  by_cases h10 : p.mh.method = 10
  · rw [if_pos h10] at hrecv
    cases hrecv
    rw [noteContact_of_quiet (by rw [h10]; decide)]
    exact h
  rw [if_neg h10] at hrecv
  by_cases h11 : p.mh.method = 11
  · rw [if_pos h11] at hrecv
    rw [recvRefer_siplist hrecv, noteContact_of_sender (Or.inr h11)]
    exact h.register_cn (hreach.of_sender (Or.inr h11))
  rw [if_neg h11] at hrecv
  by_cases h6 : p.mh.method = 6
  · rw [if_pos h6] at hrecv
    rw [recvTempMove_siplist hrecv, noteContact_of_quiet (by rw [h6]; decide)]
    exact h
  rw [if_neg h6] at hrecv
  by_cases h12 : p.mh.method = 12
  · -- the only message that looks its correspondent up by type
    rw [if_pos h12] at hrecv
    obtain ⟨⟨e, he⟩, hl⟩ := recvReinvite_siplist hrecv
    have hnot : ¬ (p.mh.method = 9 ∨ p.mh.method = 11) := by
      rw [h12]
      decide
    rw [hl, noteContact, updatedCn, if_neg hnot, if_pos h12]
    exact h.write_cn (fun e he => (isCn_iff.1 he).2) he he (fun _ => ⟨rfl, rfl⟩) rfl
  rw [if_neg h12] at hrecv
  by_cases h13 : p.mh.method = 13
  · rw [if_pos h13] at hrecv
    obtain ⟨c, hl⟩ := recvBuMn_siplist hrecv
    rw [hl, noteContact_of_quiet (by rw [h13]; decide)]
    exact h.write_mn (hreach.of_contact (Or.inr h13))
  rw [if_neg h13] at hrecv
  by_cases h14 : p.mh.method = 14
  · rw [if_pos h14] at hrecv
    rw [recvEfaceRefer_siplist hrecv, noteContact_of_quiet (by rw [h14]; decide)]
    rw [ReachesCn, if_pos h14] at hreach
    exact h.cons_cn hreach
  rw [if_neg h14] at hrecv
  cases hrecv
  have hno : p.mh.method ∉ ({9, 11, 12, 1} : Finset ℤ) := by
    simp only [Finset.mem_insert, Finset.mem_singleton, not_or]
    exact ⟨h9, h11, h12, h1⟩
  rw [noteContact_of_quiet hno]
  exact h

end Message

/-! ### Runs -/

theorem correspondStep_keeps {w w' : Correspondence} {p : Packet}
    (h : OneEntryPerCn w.agent.siplist w.latest) (hreach : ReachesCn w.agent.siplist p.mh)
    (hstep : correspondStep w p = .ok w') : OneEntryPerCn w'.agent.siplist w'.latest := by
  obtain ⟨r, hr, rfl⟩ := map_ok_iff.1 hstep
  exact h.recv hreach hr

/-- In every run from entries with pairwise distinct url ids whose messages reach the right entry,
each correspondent has at most one entry, and the latest contact it has sent is found. -/
theorem oneEntryPerCn_run {a : UdpmysipAgent} {ps : List Packet}
    (hstart : (a.siplist.map (·.urlId)).Nodup)
    (hreach : StepsMeet correspondStep (fun w p => ReachesCn w.agent.siplist p.mh)
      { agent := a } ps) :
    Throughout correspondStep (fun w => OneEntryPerCn w.agent.siplist w.latest) { agent := a } ps :=
  throughout_of_invariant (fun _ _ _ h hr hs => correspondStep_keeps h hr hs) (fun _ h => h)
    (OneEntryPerCn.start hstart) hreach

/-- The first external interface of `sampleRouter` is up. -/
def referredRouter : UdpmysipAgent :=
  { sampleRouter 0 with siplist := [{ sampleMrHa 9999 6 1 with con := str2addr 2 0 1 }] }

/-- A REFER to the interface of another router, for the correspondent `u` at `5.0.k`. -/
def efaceRefer (u : ℤ) (k : ℕ) : Packet :=
  { mh := { method := 14, fromId := 8888, contactId := 8888, toId := u, toURL := str2addr 5 0 k
            requestURLId := u, requestURL := str2addr 5 0 k } }

/-- The correspondent `u` re-homes to `5.0.k`. -/
def cnRefer (u : ℤ) (k : ℕ) : Packet :=
  { mh := { method := 11, fromId := u, toId := 8888, contactId := u, contact := str2addr 5 0 k } }

theorem oneEntryPerCn_run_sample :
    Throughout correspondStep (fun w => OneEntryPerCn w.agent.siplist w.latest)
      { agent := referredRouter } [efaceRefer 7777 1, cnRefer 7777 2, cnRefer 7778 3] := by
  refine oneEntryPerCn_run (by decide) ?_
  refine .cons rfl rfl ?_
  refine .cons ?_ rfl ?_
  · rintro e ⟨⟩
    rfl
  refine .cons ?_ rfl trivial
  rintro e ⟨⟩

/-- The methods of the protocol, with url ids that are set. -/
def MrPacket (mh : HdrMysip) : Prop :=
  mh.method ∈ [0, 1, 5, 6, 7, 9, 11, 12, 13, 14] ∧ mh.fromId ≠ -1 ∧ mh.toId ≠ -1 ∧
    mh.contactId ≠ -1

/-- A second REFER for the same correspondent inserts a second entry. -/
theorem secondRefer_duplicates :
    ¬ ∀ (a : UdpmysipAgent) (ps : List Packet), (a.siplist.map (·.urlId)).Nodup →
      (∀ p ∈ ps, MrPacket p.mh) →
        Throughout correspondStep (fun w => OneEntryPerCn w.agent.siplist w.latest)
          { agent := a } ps := by
  intro h
  have hrun := h referredRouter [efaceRefer 7777 1, efaceRefer 7777 2] (by decide) (by
    intro p hp
    simp only [List.mem_cons, List.not_mem_nil, or_false] at hp
    rcases hp with rfl | rfl <;> exact ⟨by decide, by decide, by decide, by decide⟩)
  obtain ⟨w, hw, hdup⟩ : ∃ w, runSteps correspondStep { agent := referredRouter }
      [efaceRefer 7777 1, efaceRefer 7777 2] = .ok w ∧ ¬ w.agent.siplist.Pairwise
        fun e e' => e.type = .sipCn → e'.type = .sipCn → e.urlId ≠ e'.urlId :=
    ⟨_, rfl, by decide⟩
  exact hdup (hrun.last hw).unique

end SipNemo.Sip
