import SipNemo.Mih.Interface

/-!
# The subscriptions of an interface as vectors

`local_sub_` and `remote_sub_` hold a vector for each event.  A call goes through the events of its
mask; in the vector of each it looks for the subscriber, stopping at the first place that has it,
and appends it or erases that place.  Started on the lists of an interface, the calls compute the
lists `MIHInterfaceInfo` has after them (`perform_lists`), which have nobody twice and stand for a
set for each event (`subscribers_perform`): a subscriber is in a list when the last call about it
was a subscription (`subscriptionLists_run`).
-/

namespace SipNemo.Mih

/-! ### The loops -/

/-- The values of `mih_event_t` below `LINK_LAST_EVENT`, in order. -/
def mihEvents : List MihEvent :=
  [.linkUp, .linkDown, .linkGoingDown, .linkDetected, .linkParametersReport, .linkEventRollback,
    .linkSduTransmitStatus, .linkHandoverImminent, .linkHandoverComplete]

theorem nodup_mihEvents : mihEvents.Nodup := by decide

theorem mem_mihEvents (e : MihEvent) : e ∈ mihEvents := by cases e <;> decide

section Loops

variable {α : Type}

/-- The loop over the events, which goes into the vectors of those in the mask. -/
def overMask (events : BitVec 32) (edit : List α → List α) (subs : MihEvent → List α) :
    MihEvent → List α :=
  mihEvents.foldl
    (fun subs i =>
      if (events >>> i.index) &&& 0x1#32 ≠ 0 then Function.update subs i (edit (subs i)) else subs)
    subs

theorem mask_iff (events : BitVec 32) (e : MihEvent) :
    (events >>> e.index) &&& 0x1#32 ≠ 0 ↔ inEventList events e = true := by
  rw [BitVec.and_one_eq_setWidth_ofBool_getLsbD, BitVec.getLsbD_ushiftRight]
  unfold inEventList
  cases events.getLsbD (e.index + 0) <;> decide

theorem overMask_apply (events : BitVec 32) (edit : List α → List α) (subs : MihEvent → List α)
    (e : MihEvent) :
    overMask events edit subs e = if inEventList events e then edit (subs e) else subs e := by
  have hloop : overMask events edit subs = mihEvents.foldl
      (fun subs i =>
        if inEventList events i then Function.update subs i (edit (subs i)) else subs) subs := by
    unfold overMask
    congr 1
    funext subs i
    exact if_congr (mask_iff events i) rfl rfl
  rw [hloop, Subscribers.foldl_update_apply edit subs nodup_mihEvents]
  simp only [mem_mihEvents, true_and]

theorem overMask_of_notMem {events : BitVec 32} {edit : List α → List α}
    {subs : MihEvent → List α} {e : MihEvent} (h : inEventList events e = false) :
    overMask events edit subs e = subs e := by
  rw [overMask_apply, h]
  rfl

/-- The loop over lists that stand for sets, on which it does `f`. -/
theorem overMask_list {edit : List α → List α} (subs : MihEvent → Subscribers α)
    (f : Subscribers α → Subscribers α) (hedit : ∀ s : Subscribers α, edit s.list = (f s).list)
    (events : BitVec 32) : overMask events edit (fun i => (subs i).list) =
      fun i => (if inEventList events i then f (subs i) else subs i).list := by
  funext i
  rw [overMask_apply, apply_ite Subscribers.list, hedit]

variable [DecidableEq α]

/-- Append a subscriber, if the loop over the vector has not found a duplicate. -/
def pushNew (v : List α) (u : α) : List α :=
  match v.idxOf? u with
  | some _ => v
  | none => v ++ [u]

/-- Erase the first place that has the subscriber. -/
def eraseFound (v : List α) (u : α) : List α :=
  match v.idxOf? u with
  | some j => v.eraseIdx j
  | none => v

/-- The vectors of subscribers are edited as their lists are. -/
theorem pushNew_list (s : Subscribers α) (u : α) : pushNew s.list u = (s.add u).list := by
  unfold pushNew Subscribers.add
  cases hfind : s.list.idxOf? u with
  | none => rw [dif_neg (List.idxOf?_eq_none_iff.1 hfind)]
  | some j =>
    rw [dif_pos]
    by_contra hu
    rw [List.idxOf?_eq_none_iff.2 hu] at hfind
    cases hfind

theorem eraseFound_list (s : Subscribers α) (u : α) :
    eraseFound s.list u = (s.remove u).list := by
  have herase : (s.remove u).list = s.list.erase u := rfl
  rw [herase, List.erase_eq_eraseIdx]
  unfold eraseFound
  cases s.list.idxOf? u <;> rfl

/-- Who is in a list after a call whose mask may have its event. -/
theorem mem_edit_under (s : Subscribers α) (x v : α) (subscribes mask : Bool) :
    v ∈ (if mask then (if subscribes then s.add x else s.remove x) else s) ↔
      if subscribes then v ∈ s ∨ x = v ∧ mask = true else v ∈ s ∧ ¬ (x = v ∧ mask = true) := by
  cases mask with
  | true => cases subscribes <;> simp [eq_comm, and_comm]
  | false => cases subscribes <;> simp

end Loops

/-! ### The calls -/

/-- `local_sub_` and `remote_sub_`, which a new interface has empty. -/
structure SubscriptionLists where
  localSub : MihEvent → List UserId := fun _ => []
  remoteSub : MihEvent → List SessionRef := fun _ => []

namespace SubscriptionLists

/-- `event_subscribe`. -/
def eventSubscribe (s : SubscriptionLists) (upper : UserId) (events : BitVec 32) :
    SubscriptionLists :=
  { s with localSub := overMask events (pushNew · upper) s.localSub }

/-- `event_unsubscribe`. -/
def eventUnsubscribe (s : SubscriptionLists) (upper : UserId) (events : BitVec 32) :
    SubscriptionLists :=
  { s with localSub := overMask events (eraseFound · upper) s.localSub }

/-- `remote_event_subscribe`. -/
def remoteEventSubscribe (s : SubscriptionLists) (remote : SessionRef) (events : BitVec 32) :
    SubscriptionLists :=
  { s with remoteSub := overMask events (pushNew · remote) s.remoteSub }

/-- `remote_event_unsubscribe`. -/
def remoteEventUnsubscribe (s : SubscriptionLists) (remote : SessionRef) (events : BitVec 32) :
    SubscriptionLists :=
  { s with remoteSub := overMask events (eraseFound · remote) s.remoteSub }

end SubscriptionLists

/-- A user, or a remote session. -/
abbrev Subscriber := UserId ⊕ SessionRef

/-- A call of one of the four functions: the two for users, or the two for sessions. -/
structure SubscriptionCall where
  subscribes : Bool
  subscriber : Subscriber
  events : BitVec 32
  deriving DecidableEq, Repr

/-- The call is about the subscriber, and its mask has the bit of the event. -/
def SubscriptionCall.isAbout (e : MihEvent) (u : Subscriber) (c : SubscriptionCall) : Bool :=
  c.subscriber = u ∧ inEventList c.events e

/-- The last call about a subscriber whose mask has the bit of the event. -/
def lastAbout (calls : List SubscriptionCall) (e : MihEvent) (u : Subscriber) :
    Option SubscriptionCall :=
  calls.reverse.find? (SubscriptionCall.isAbout e u)

namespace SubscriptionLists

/-- One call. -/
def perform (s : SubscriptionLists) : SubscriptionCall → SubscriptionLists
  | ⟨true, .inl upper, events⟩ => s.eventSubscribe upper events
  | ⟨false, .inl upper, events⟩ => s.eventUnsubscribe upper events
  | ⟨true, .inr remote, events⟩ => s.remoteEventSubscribe remote events
  | ⟨false, .inr remote, events⟩ => s.remoteEventUnsubscribe remote events

/-- The calls in a row. -/
def run (s : SubscriptionLists) (calls : List SubscriptionCall) : SubscriptionLists :=
  calls.foldl perform s

/-- How often a subscriber is in its list for the event. -/
def count (s : SubscriptionLists) (e : MihEvent) : Subscriber → ℕ
  | .inl u => (s.localSub e).count u
  | .inr r => (s.remoteSub e).count r

/-- A subscriber is in its list for the event. -/
def Has (s : SubscriptionLists) (e : MihEvent) : Subscriber → Prop
  | .inl u => u ∈ s.localSub e
  | .inr r => r ∈ s.remoteSub e

instance (s : SubscriptionLists) (e : MihEvent) (u : Subscriber) : Decidable (s.Has e u) :=
  match u with
  | .inl u => inferInstanceAs (Decidable (u ∈ s.localSub e))
  | .inr r => inferInstanceAs (Decidable (r ∈ s.remoteSub e))

variable {s : SubscriptionLists} {c : SubscriptionCall} {e : MihEvent}

/-- A call leaves the lists of the other events alone. -/
theorem perform_of_notMem (h : inEventList c.events e = false) :
    (s.perform c).localSub e = s.localSub e ∧ (s.perform c).remoteSub e = s.remoteSub e := by
  obtain ⟨_ | _, u | r, events⟩ := c <;>
    simp only [perform, eventSubscribe, eventUnsubscribe, remoteEventSubscribe,
      remoteEventUnsubscribe, overMask_of_notMem h, and_self]

/-- A call about a user leaves the lists of sessions alone, and the other way round. -/
theorem perform_of_isLeft (h : c.subscriber.isLeft = true) :
    (s.perform c).remoteSub = s.remoteSub := by
  obtain ⟨_ | _, u | r, events⟩ := c
  · rfl
  · cases h
  · rfl
  · cases h

theorem perform_of_isRight (h : c.subscriber.isRight = true) :
    (s.perform c).localSub = s.localSub := by
  obtain ⟨_ | _, u | r, events⟩ := c
  · cases h
  · rfl
  · cases h
  · rfl

end SubscriptionLists

/-! ### What the vectors stand for -/

/-- What the calls are for: each event has a set of subscribers. -/
abbrev SubscriberSets := MihEvent → Set Subscriber

namespace SubscriberSets

/-- One call. -/
def perform (S : SubscriberSets) (c : SubscriptionCall) : SubscriberSets := fun e =>
  if inEventList c.events e then
    if c.subscribes then insert c.subscriber (S e) else S e \ {c.subscriber}
  else S e

variable {S : SubscriberSets} {c : SubscriptionCall} {e : MihEvent} {u : Subscriber}

/-- A subscription puts the one it is about into the set, the other calls take it out. -/
theorem mem_perform_iff : u ∈ perform S c e ↔
    if c.subscribes then u ∈ S e ∨ c.isAbout e u = true else u ∈ S e ∧ ¬ c.isAbout e u = true := by
  unfold perform SubscriptionCall.isAbout
  by_cases hmask : inEventList c.events e = true
  · split_ifs <;> simp [hmask, eq_comm, or_comm]
  · split_ifs <;> simp [hmask]

theorem mem_perform_of_about (h : c.isAbout e u = true) :
    u ∈ perform S c e ↔ c.subscribes = true := by
  rw [mem_perform_iff]
  split_ifs with hs <;> simp [h, hs]

theorem mem_perform_of_other (h : c.isAbout e u = false) : u ∈ perform S c e ↔ u ∈ S e := by
  rw [mem_perform_iff]
  split_ifs <;> simp [h]

/-- The calls in a row. -/
def run (S : SubscriberSets) (calls : List SubscriptionCall) : SubscriberSets :=
  calls.foldl perform S

/-- A subscriber is in the set when the last call about it was a subscription. -/
theorem mem_run_iff (S : SubscriberSets) (calls : List SubscriptionCall) (e : MihEvent)
    (u : Subscriber) :
    u ∈ run S calls e ↔
      (∃ c, lastAbout calls e u = some c ∧ c.subscribes = true) ∨
        lastAbout calls e u = none ∧ u ∈ S e :=
  Subscribers.foldl_iff_last (P := fun S : SubscriberSets => u ∈ S e)
    (fun _ _ => mem_perform_of_about) (fun _ _ => mem_perform_of_other) S calls

end SubscriberSets

namespace MIHInterfaceInfo

variable {info : MIHInterfaceInfo} {c : SubscriptionCall} {e : MihEvent} {u : Subscriber}

/-- One call. -/
def perform (info : MIHInterfaceInfo) : SubscriptionCall → MIHInterfaceInfo
  | ⟨true, .inl upper, events⟩ => info.eventSubscribe upper events
  | ⟨false, .inl upper, events⟩ => info.eventUnsubscribe upper events
  | ⟨true, .inr remote, events⟩ => info.remoteEventSubscribe remote events
  | ⟨false, .inr remote, events⟩ => info.remoteEventUnsubscribe remote events

/-- The lists of an interface. -/
def lists (info : MIHInterfaceInfo) : SubscriptionLists where
  localSub := info.getRegisteredLocalUser
  remoteSub := info.getRegisteredRemoteUser

/-- The four functions compute on the vectors what they do to the lists of the interface. -/
theorem perform_lists (info : MIHInterfaceInfo) (c : SubscriptionCall) :
    info.lists.perform c = (info.perform c).lists := by
  obtain ⟨_ | _, u | r, events⟩ := c
  · exact congrArg (SubscriptionLists.mk · _)
      (overMask_list info.localSub (·.remove u) (eraseFound_list · u) events)
  · exact congrArg (SubscriptionLists.mk _)
      (overMask_list info.remoteSub (·.remove r) (eraseFound_list · r) events)
  · exact congrArg (SubscriptionLists.mk · _)
      (overMask_list info.localSub (·.add u) (pushNew_list · u) events)
  · exact congrArg (SubscriptionLists.mk _)
      (overMask_list info.remoteSub (·.add r) (pushNew_list · r) events)

theorem run_lists (info : MIHInterfaceInfo) (calls : List SubscriptionCall) :
    info.lists.run calls = (calls.foldl perform info).lists :=
  List.foldl_hom lists perform_lists

/-- A list has each subscriber once at most. -/
theorem count_lists_le (info : MIHInterfaceInfo) (e : MihEvent) (u : Subscriber) :
    info.lists.count e u ≤ 1 := by
  cases u with
  | inl u => exact List.nodup_iff_count_le_one.1 (info.localSub e).nodup u
  | inr r => exact List.nodup_iff_count_le_one.1 (info.remoteSub e).nodup r

/-- The sets the lists stand for. -/
def subscribers (info : MIHInterfaceInfo) : SubscriberSets := fun e => {u | info.lists.Has e u}

@[simp] theorem has_lists_inl {v : UserId} :
    info.lists.Has e (.inl v) ↔ v ∈ info.localSub e := Iff.rfl

@[simp] theorem has_lists_inr {v : SessionRef} :
    info.lists.Has e (.inr v) ↔ v ∈ info.remoteSub e := Iff.rfl

theorem localSub_perform (subscribes : Bool) (x : UserId) (events : BitVec 32) :
    (info.perform ⟨subscribes, .inl x, events⟩).localSub e =
      if inEventList events e then
        if subscribes then (info.localSub e).add x else (info.localSub e).remove x
      else info.localSub e := by
  cases subscribes <;> rfl

theorem remoteSub_perform (subscribes : Bool) (x : SessionRef) (events : BitVec 32) :
    (info.perform ⟨subscribes, .inr x, events⟩).remoteSub e =
      if inEventList events e then
        if subscribes then (info.remoteSub e).add x else (info.remoteSub e).remove x
      else info.remoteSub e := by
  cases subscribes <;> rfl

theorem has_perform_iff : (info.perform c).lists.Has e u ↔
    if c.subscribes then info.lists.Has e u ∨ c.isAbout e u = true
    else info.lists.Has e u ∧ ¬ c.isAbout e u = true := by
  obtain ⟨subscribes, x | x, events⟩ := c <;> rcases u with v | v
  · rw [has_lists_inl, localSub_perform, mem_edit_under]
    simp [SubscriptionCall.isAbout]
  · have hsame : (info.perform ⟨subscribes, .inl x, events⟩).remoteSub = info.remoteSub := by
      cases subscribes <;> rfl
    rw [has_lists_inr, hsame]
    simp [SubscriptionCall.isAbout]
  · have hsame : (info.perform ⟨subscribes, .inr x, events⟩).localSub = info.localSub := by
      cases subscribes <;> rfl
    rw [has_lists_inl, hsame]
    simp [SubscriptionCall.isAbout]
  · rw [has_lists_inr, remoteSub_perform, mem_edit_under]
    simp [SubscriptionCall.isAbout]

/-- A call does to the lists what it is for. -/
theorem subscribers_perform (info : MIHInterfaceInfo) (c : SubscriptionCall) :
    info.subscribers.perform c = (info.perform c).subscribers := by
  funext e
  ext u
  exact SubscriberSets.mem_perform_iff.trans has_perform_iff.symm

/-- So the vectors of an interface implement a set for each event. -/
theorem has_run_iff_mem (info : MIHInterfaceInfo) (calls : List SubscriptionCall) (e : MihEvent)
    (u : Subscriber) :
    (info.lists.run calls).Has e u ↔ u ∈ info.subscribers.run calls e := by
  have hsets : (calls.foldl perform info).subscribers = info.subscribers.run calls :=
    (List.foldl_hom subscribers subscribers_perform).symm
  rw [run_lists, ← hsets]
  exact Iff.rfl

/-- Nobody has subscribed to a new interface. -/
theorem has_run_ofMac (mac : Mac) (calls : List SubscriptionCall) (e : MihEvent) (u : Subscriber) :
    ((ofMac mac).lists.run calls).Has e u ↔
      ∃ c, lastAbout calls e u = some c ∧ c.subscribes = true := by
  rw [has_run_iff_mem, SubscriberSets.mem_run_iff]
  refine or_iff_left fun h => ?_
  cases u with
  | inl u => exact Subscribers.not_mem_empty u h.2
  | inr r => exact Subscribers.not_mem_empty r h.2

end MIHInterfaceInfo

/-- After any calls, the list of an event has each subscriber once at most, and has it exactly when
the last call about it was a subscription, or there was none and it was there before, which for a
new interface nobody was.  One call more leaves the lists of the events outside its mask alone, and
those of the other kind of subscriber. -/
theorem subscriptionLists_run (calls : List SubscriptionCall) (e : MihEvent) :
    (∀ mac u, ((MIHInterfaceInfo.ofMac mac).lists.run calls).Has e u ↔
      ∃ c, lastAbout calls e u = some c ∧ c.subscribes = true) ∧
    ∀ info : MIHInterfaceInfo,
      (∀ u, (info.lists.run calls).count e u ≤ 1 ∧
        ((info.lists.run calls).Has e u ↔
          (∃ c, lastAbout calls e u = some c ∧ c.subscribes = true) ∨
            lastAbout calls e u = none ∧ info.lists.Has e u)) ∧
      ∀ c, (inEventList c.events e = false →
          ((info.lists.run calls).perform c).localSub e = (info.lists.run calls).localSub e ∧
            ((info.lists.run calls).perform c).remoteSub e = (info.lists.run calls).remoteSub e) ∧
        (c.subscriber.isLeft = true →
          ((info.lists.run calls).perform c).remoteSub = (info.lists.run calls).remoteSub) ∧
        (c.subscriber.isRight = true →
          ((info.lists.run calls).perform c).localSub = (info.lists.run calls).localSub) := by
  refine ⟨fun mac u => ?_, fun info => ⟨fun u => ⟨?_, ?_⟩, fun c => ⟨?_, ?_, ?_⟩⟩⟩
  · exact MIHInterfaceInfo.has_run_ofMac mac calls e u
  · rw [MIHInterfaceInfo.run_lists]
    exact MIHInterfaceInfo.count_lists_le _ e u
  · rw [MIHInterfaceInfo.has_run_iff_mem, SubscriberSets.mem_run_iff]
    exact Iff.rfl
  · exact SubscriptionLists.perform_of_notMem
  · exact SubscriptionLists.perform_of_isLeft
  · exact SubscriptionLists.perform_of_isRight

end SipNemo.Mih
