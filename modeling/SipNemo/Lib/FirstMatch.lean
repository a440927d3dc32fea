import Mathlib.Tactic

/-!
# Lists searched and edited at their first match

A linked list whose lookups scan from the head and whose callers write through the pointer
they get back is, functionally, a list with two operations: `List.find?`, and `updateFirst`,
which rewrites the first element satisfying a test and nothing else.

* `mem_updateFirst` and `mem_or_find?_of_mem` say which elements an update keeps;
* `find?_updateFirst_self` and `find?_updateFirst_map` say what a lookup sees after an
  update that does not change the tested fields, `find?_updateFirst_of_disjoint` after one of an
  element it never matches, and `find?_updateFirst_of_unmatched` after one of this element;
* where the keys are unique, `mem_updateFirst_iff` and `mem_eraseP_of_find?` say exactly which
  elements there are afterwards;
* `map_updateFirst` is the frame rule for the fields an update does not touch, and
  `getElem?_updateFirst` and `forall₂_updateFirst` are those for the positions;
* `countP_updateFirst_of_unmatched` counts the matches that are left;
* `find?_eraseP_of_disjoint` lets a lookup be made in the list without another entry, and
  `find?_eraseP_of_ne` and `find?_updateFirst_of_ne` keep what it found;
* `foldl_update_of_mem` is for a map that is filled from the list;
* `upsert` replaces the first element with a key, or appends one: `find?_upsert` is its lookup rule
  and `nodup_map_upsert` keeps the keys unique.
-/

namespace FirstMatch

variable {α β : Type*}

/-- Rewrite the first element satisfying `p` by `f`. -/
def updateFirst (p : α → Bool) (f : α → α) : List α → List α
  | [] => []
  | a :: l => if p a then f a :: l else a :: updateFirst p f l

@[simp] theorem updateFirst_nil (p : α → Bool) (f : α → α) : updateFirst p f [] = [] := rfl

theorem updateFirst_cons_pos {p : α → Bool} {a : α} (h : p a = true) (f : α → α) (l : List α) :
    updateFirst p f (a :: l) = f a :: l := by
  simp [updateFirst, h]

theorem updateFirst_cons_neg {p : α → Bool} {a : α} (h : p a = false) (f : α → α) (l : List α) :
    updateFirst p f (a :: l) = a :: updateFirst p f l := by
  simp [updateFirst, h]

/-- An element of the updated list is an old one or the rewritten first match. -/
theorem mem_updateFirst {p : α → Bool} {f : α → α} {l : List α} {b : α}
    (h : b ∈ updateFirst p f l) : b ∈ l ∨ ∃ a, l.find? p = some a ∧ b = f a := by
  induction l with
  | nil => simp at h
  | cons a l ih =>
    cases hp : p a with
    | true =>
      rw [updateFirst_cons_pos hp] at h
      rcases List.mem_cons.1 h with rfl | h
      · exact Or.inr ⟨a, by simp [hp], rfl⟩
      · exact Or.inl (List.mem_cons_of_mem _ h)
    | false =>
      rw [updateFirst_cons_neg hp] at h
      rcases List.mem_cons.1 h with rfl | h
      · exact Or.inl List.mem_cons_self
      · rcases ih h with h | ⟨c, hc, rfl⟩
        · exact Or.inl (List.mem_cons_of_mem _ h)
        · exact Or.inr ⟨c, by simp [hp, hc], rfl⟩

/-- An old element survives the update unless it is the first match. -/
theorem mem_or_find?_of_mem (p : α → Bool) (f : α → α) {l : List α} {b : α} (h : b ∈ l) :
    b ∈ updateFirst p f l ∨ l.find? p = some b := by
  induction l with
  | nil => simp at h
  | cons a l ih =>
    cases hp : p a with
    | true =>
      rw [updateFirst_cons_pos hp]
      rcases List.mem_cons.1 h with rfl | h
      · exact Or.inr (by simp [hp])
      · exact Or.inl (List.mem_cons_of_mem _ h)
    | false =>
      rw [updateFirst_cons_neg hp]
      rcases List.mem_cons.1 h with rfl | h
      · exact Or.inl List.mem_cons_self
      · rcases ih h with h | h
        · exact Or.inl (List.mem_cons_of_mem _ h)
        · exact Or.inr (by simp [hp, h])

/-- The rewritten first match is in the updated list. -/
theorem mem_updateFirst_of_find? {p : α → Bool} (f : α → α) {l : List α} {a : α}
    (h : l.find? p = some a) : f a ∈ updateFirst p f l := by
  induction l with
  | nil => simp at h
  | cons b l ih =>
    cases hp : p b with
    | true =>
      obtain rfl : b = a := by simpa [hp] using h
      rw [updateFirst_cons_pos hp]
      exact List.mem_cons_self
    | false =>
      rw [updateFirst_cons_neg hp]
      exact List.mem_cons_of_mem _ (ih (by simpa [hp] using h))

/-- Looking up the updated test finds the rewritten element. -/
theorem find?_updateFirst_self {p : α → Bool} {f : α → α} (hf : ∀ a, p (f a) = p a)
    (l : List α) : (updateFirst p f l).find? p = (l.find? p).map f := by
  induction l with
  | nil => rfl
  | cons a l ih =>
    cases hp : p a with
    | true => simp [updateFirst_cons_pos hp, hf, hp]
    | false => simp [updateFirst_cons_neg hp, hp, ih]

/-- A lookup does not see an update of an element that it never matches. -/
theorem find?_updateFirst_of_disjoint {p q : α → Bool} {f : α → α} {l : List α}
    (h : ∀ a ∈ l, p a = true → q a = false ∧ q (f a) = false) :
    (updateFirst p f l).find? q = l.find? q := by
  induction l with
  | nil => rfl
  | cons a l ih =>
    have ih' := ih fun b hb => h b (List.mem_cons_of_mem _ hb)
    cases hp : p a with
    | true =>
      obtain ⟨hq, hqf⟩ := h a List.mem_cons_self hp
      simp [updateFirst_cons_pos hp, hq, hqf]
    | false =>
      cases hq : q a with
      | true => simp [updateFirst_cons_neg hp, hq]
      | false => simpa [updateFirst_cons_neg hp, hq] using ih'

/-- A lookup that matches the element neither before nor after its update does not see it. -/
theorem find?_updateFirst_of_unmatched {p q : α → Bool} {f : α → α} {l : List α} {a : α}
    (h : l.find? p = some a) (hq : q a = false) (hqf : q (f a) = false) :
    (updateFirst p f l).find? q = l.find? q := by
  induction l with
  | nil => rfl
  | cons b l ih =>
    cases hp : p b with
    | true =>
      obtain rfl : b = a := by simpa [hp] using h
      simp [updateFirst_cons_pos hp, hq, hqf]
    | false =>
      rw [updateFirst_cons_neg hp, List.find?_cons, List.find?_cons,
        ih (by simpa [hp] using h)]

/-- A lookup that finds the element the update is for finds it rewritten. -/
theorem find?_updateFirst_of_same {p q : α → Bool} {f : α → α} (hq : ∀ a, q (f a) = q a)
    {l : List α} {a : α} (hp : l.find? p = some a) (hqa : l.find? q = some a) :
    (updateFirst p f l).find? q = some (f a) := by
  induction l with
  | nil => simp at hp
  | cons b l ih =>
    have hpa : p a = true := List.find?_some hp
    have hqa' : q a = true := List.find?_some hqa
    cases hpb : p b with
    | true =>
      obtain rfl : b = a := by simpa [hpb] using hp
      simp [updateFirst_cons_pos hpb, hq, hqa']
    | false =>
      -- the element does not match `p`, so it is not `a`, so it does not match `q` either
      have hqb : q b = false := by
        by_contra hne
        obtain rfl : b = a := by simpa [Bool.eq_true_of_not_eq_false hne] using hqa
        rw [hpa] at hpb
        cases hpb
      simp only [updateFirst_cons_neg hpb, List.find?_cons, hqb]
      exact ih (by simpa [hpb] using hp) (by simpa [hqb] using hqa)

/-- A lookup by fields the update leaves alone finds an entry with the same untouched part. -/
theorem find?_updateFirst_map {p q : α → Bool} {f : α → α} {g : α → β}
    (hq : ∀ a, q (f a) = q a) (hg : ∀ a, g (f a) = g a) (l : List α) :
    ((updateFirst p f l).find? q).map g = (l.find? q).map g := by
  induction l with
  | nil => rfl
  | cons a l ih =>
    cases hp : p a with
    | true =>
      rw [updateFirst_cons_pos hp]
      cases hqa : q a with
      | true => simp [hq, hqa, hg]
      | false => simp [hq, hqa]
    | false =>
      rw [updateFirst_cons_neg hp]
      cases hqa : q a with
      | true => simp [hqa]
      | false => simpa [hqa] using ih

/-- Whether a lookup by fields the update leaves alone finds anything does not change. -/
theorem find?_updateFirst_eq_none {p q : α → Bool} {f : α → α} (hq : ∀ a, q (f a) = q a)
    (l : List α) : (updateFirst p f l).find? q = none ↔ l.find? q = none := by
  have hmap := find?_updateFirst_map (p := p) hq (g := fun _ => ()) (fun _ => rfl) l
  rw [← Option.map_eq_none_iff, hmap, Option.map_eq_none_iff]

/-- A projection that the update of a match leaves alone is unchanged along the whole list. -/
theorem map_updateFirst_of_match {p : α → Bool} {f : α → α} {g : α → β}
    (hg : ∀ a, p a = true → g (f a) = g a) (l : List α) :
    (updateFirst p f l).map g = l.map g := by
  induction l with
  | nil => rfl
  | cons a l ih =>
    cases hp : p a with
    | true => simp [updateFirst_cons_pos hp, hg a hp]
    | false => simp [updateFirst_cons_neg hp, ih]

theorem map_updateFirst {p : α → Bool} {f : α → α} {g : α → β} (hg : ∀ a, g (f a) = g a)
    (l : List α) : (updateFirst p f l).map g = l.map g :=
  map_updateFirst_of_match (fun a _ => hg a) l

/-- It is enough that the update of the first match leaves the projection alone. -/
theorem map_updateFirst_of_find? {p : α → Bool} {f : α → α} {g : α → β} {l : List α} {a : α}
    (h : l.find? p = some a) (hg : g (f a) = g a) : (updateFirst p f l).map g = l.map g := by
  induction l with
  | nil => rfl
  | cons b l ih =>
    cases hp : p b with
    | true =>
      obtain rfl : b = a := by simpa [hp] using h
      simp [updateFirst_cons_pos hp, hg]
    | false => simp [updateFirst_cons_neg hp, ih (by simpa [hp] using h)]

theorem getElem?_findIdx {p : α → Bool} {l : List α} {a : α} (h : l.find? p = some a) :
    l[l.findIdx p]? = some a := by
  rw [← List.find?_eq_getElem?_findIdx]
  exact h

/-- An update rewrites the position of the first match and no other. -/
theorem getElem?_updateFirst (p : α → Bool) (f : α → α) (l : List α) (i : ℕ) :
    (updateFirst p f l)[i]? = if i = l.findIdx p then l[i]?.map f else l[i]? := by
  induction l generalizing i with
  | nil => simp
  | cons a l ih =>
    cases hp : p a with
    | true =>
      rw [updateFirst_cons_pos hp]
      cases i <;> simp [List.findIdx_cons, hp]
    | false =>
      rw [updateFirst_cons_neg hp]
      cases i <;> simp [List.findIdx_cons, hp, ih]

/-- An update to something that does not match takes one from the count. -/
theorem countP_updateFirst_of_unmatched {p : α → Bool} {f : α → α} (hf : ∀ a, p (f a) = false)
    (l : List α) : (updateFirst p f l).countP p = l.countP p - 1 := by
  induction l with
  | nil => rfl
  | cons a l ih =>
    cases hp : p a with
    | true => simp [updateFirst_cons_pos hp, hf, hp]
    | false => simp [updateFirst_cons_neg hp, hp, ih]

/-- An update to something that matches leaves the count. -/
theorem countP_updateFirst_of_match {p : α → Bool} {f : α → α} (hf : ∀ a, p (f a) = true)
    (l : List α) : (updateFirst p f l).countP p = l.countP p := by
  induction l with
  | nil => rfl
  | cons a l ih =>
    cases hp : p a with
    | true => simp [updateFirst_cons_pos hp, hf, hp]
    | false => simp [updateFirst_cons_neg hp, hp, ih]

/-- Position by position, an update does nothing or rewrites a match. -/
theorem forall₂_updateFirst {p : α → Bool} {f : α → α} {R : α → α → Prop} (hrefl : ∀ a, R a a)
    (hf : ∀ a, p a = true → R a (f a)) (l : List α) : List.Forall₂ R l (updateFirst p f l) := by
  induction l with
  | nil => exact .nil
  | cons a l ih =>
    cases hp : p a with
    | true =>
      rw [updateFirst_cons_pos hp]
      exact .cons (hf a hp) (List.forall₂_same.2 fun b _ => hrefl b)
    | false =>
      rw [updateFirst_cons_neg hp]
      exact .cons (hrefl a) ih

/-- Two changes made position by position. -/
theorem forall₂_trans {R : α → α → Prop} (htrans : ∀ a b c, R a b → R b c → R a c)
    {l₁ l₂ l₃ : List α} (h₁ : List.Forall₂ R l₁ l₂) (h₂ : List.Forall₂ R l₂ l₃) :
    List.Forall₂ R l₁ l₃ := by
  induction h₁ generalizing l₃ with
  | nil => exact h₂
  | cons hab _ ih =>
    cases h₂ with
    | cons hbc hrest => exact .cons (htrans _ _ _ hab hbc) (ih hrest)

/-- An update that rewrites its element to itself does nothing. -/
theorem updateFirst_of_fixed {p : α → Bool} {f : α → α} {l : List α} {a : α}
    (h : l.find? p = some a) (hf : f a = a) : updateFirst p f l = l := by
  induction l with
  | nil => rfl
  | cons b l ih =>
    cases hp : p b with
    | true =>
      obtain rfl : b = a := by simpa [hp] using h
      rw [updateFirst_cons_pos hp, hf]
    | false => rw [updateFirst_cons_neg hp, ih (by simpa [hp] using h)]

/-- A lookup does not miss a removed element that it never matches. -/
theorem find?_eraseP_of_disjoint {p q : α → Bool} (h : ∀ a, p a = true → q a = false)
    (l : List α) : (l.eraseP p).find? q = l.find? q := by
  induction l with
  | nil => rfl
  | cons a l ih =>
    cases hp : p a with
    | true => simp [hp, h a hp]
    | false => simp [hp, List.find?_cons, ih]

/-- A lookup still finds its element where another one is removed. -/
theorem find?_eraseP_of_ne {p q : α → Bool} {l : List α} {a : α} (h : l.find? q = some a)
    (hp : p a = false) : (l.eraseP p).find? q = some a := by
  induction l with
  | nil => simp at h
  | cons b l ih =>
    cases hq : q b with
    | true =>
      obtain rfl : b = a := by simpa [hq] using h
      simp [hp, hq]
    | false =>
      have h' : l.find? q = some a := by simpa [hq] using h
      cases hb : p b with
      | true => simpa [hb] using h'
      | false => simpa [hb, hq] using ih h'

/-- A lookup still finds its element where another one is rewritten to something it does not
match. -/
theorem find?_updateFirst_of_ne {p q : α → Bool} {f : α → α} {l : List α} {a : α}
    (h : l.find? q = some a) (hp : p a = false) (hq : ∀ b, q (f b) = false) :
    (updateFirst p f l).find? q = some a := by
  induction l with
  | nil => simp at h
  | cons b l ih =>
    cases hb : p b with
    | true =>
      have hqb : q b = false := by
        by_contra hne
        obtain rfl : b = a := by simpa [Bool.eq_true_of_not_eq_false hne] using h
        rw [hp] at hb
        cases hb
      rw [updateFirst_cons_pos hb]
      simpa [hq, hqb] using h
    | false =>
      rw [updateFirst_cons_neg hb]
      cases hqb : q b with
      | true => simpa [hqb] using h
      | false => simpa [hqb] using ih (by simpa [hqb] using h)

/-- A lookup finds the rewritten element unless it matches one before it. -/
theorem find?_updateFirst_of_before {p q : α → Bool} {f : α → α} {l : List α} {a : α}
    (h : l.find? p = some a) (hq : q (f a) = true)
    (hbefore : ∀ b ∈ l.takeWhile fun b => !p b, q b = false) :
    (updateFirst p f l).find? q = some (f a) := by
  induction l with
  | nil => simp at h
  | cons b l ih =>
    cases hb : p b with
    | true =>
      obtain rfl : b = a := by simpa [hb] using h
      simp [updateFirst_cons_pos hb, hq]
    | false =>
      rw [List.takeWhile_cons_of_pos (by simp [hb])] at hbefore
      have hqb : q b = false := hbefore b List.mem_cons_self
      rw [updateFirst_cons_neg hb, List.find?_cons, hqb]
      exact ih (by simpa [hb] using h) fun c hc => hbefore c (List.mem_cons_of_mem _ hc)

/-- Where the keys are unique, an element is the only one with its key. -/
theorem filter_key_eq_singleton {κ : Type*} [DecidableEq κ] {key : α → κ} {l : List α} {a : α}
    (h : (l.map key).Nodup) (ha : a ∈ l) : l.filter (fun b => key b = key a) = [a] := by
  induction l with
  | nil => cases ha
  | cons b l ih =>
    obtain ⟨hb, hl⟩ := List.nodup_cons.1 h
    rcases List.mem_cons.1 ha with rfl | ha
    · have hrest : l.filter (fun c => key c = key a) = [] := by
        refine List.filter_eq_nil_iff.2 fun c hc hkey => hb ?_
        exact List.mem_map.2 ⟨c, hc, of_decide_eq_true hkey⟩
      simp [hrest]
    · have hne : key b ≠ key a := fun heq => hb (heq ▸ List.mem_map_of_mem ha)
      simpa [hne] using ih hl ha

/-- Where the keys are unique, what remains without an element are those with other keys. -/
theorem mem_eraseP_of_find? {κ : Type*} {key : α → κ} {p : α → Bool} {l : List α} {a b : α}
    (h : (l.map key).Nodup) (hfind : l.find? p = some a) :
    b ∈ l.eraseP p ↔ b ∈ l ∧ key b ≠ key a := by
  induction l with
  | nil => simp at hfind
  | cons c l ih =>
    obtain ⟨hc, hl⟩ := List.nodup_cons.1 h
    have hnot : ∀ b ∈ l, key b ≠ key c := fun b hb heq => hc (heq ▸ List.mem_map_of_mem hb)
    cases hp : p c with
    | true =>
      obtain rfl : c = a := by simpa [hp] using hfind
      rw [List.eraseP_cons_of_pos hp, List.mem_cons]
      constructor
      · exact fun hb => ⟨Or.inr hb, hnot b hb⟩
      · rintro ⟨rfl | hb, hne⟩
        · exact (hne rfl).elim
        · exact hb
    | false =>
      have hfind' : l.find? p = some a := by simpa [hp] using hfind
      rw [List.eraseP_cons_of_neg (by simp [hp]), List.mem_cons, List.mem_cons, ih hl hfind']
      constructor
      · rintro (rfl | hb)
        · exact ⟨Or.inl rfl, (hnot a (List.mem_of_find?_eq_some hfind')).symm⟩
        · exact ⟨Or.inr hb.1, hb.2⟩
      · rintro ⟨rfl | hb, hne⟩
        · exact Or.inl rfl
        · exact Or.inr ⟨hb, hne⟩

/-- Where the keys are unique, an update leaves the elements with other keys. -/
theorem mem_updateFirst_iff {κ : Type*} {key : α → κ} {p : α → Bool} {f : α → α} {l : List α}
    {a b : α} (h : (l.map key).Nodup) (hfind : l.find? p = some a) :
    b ∈ updateFirst p f l ↔ b = f a ∨ b ∈ l ∧ key b ≠ key a := by
  induction l with
  | nil => simp at hfind
  | cons c l ih =>
    obtain ⟨hc, hl⟩ := List.nodup_cons.1 h
    have hnot : ∀ b ∈ l, key b ≠ key c := fun b hb heq => hc (heq ▸ List.mem_map_of_mem hb)
    cases hp : p c with
    | true =>
      obtain rfl : c = a := by simpa [hp] using hfind
      rw [updateFirst_cons_pos hp, List.mem_cons, List.mem_cons]
      constructor
      · exact fun hb => hb.imp_right fun hb => ⟨Or.inr hb, hnot b hb⟩
      · rintro (hb | ⟨rfl | hb, hne⟩)
        · exact Or.inl hb
        · exact (hne rfl).elim
        · exact Or.inr hb
    | false =>
      have hfind' : l.find? p = some a := by simpa [hp] using hfind
      have hca : key c ≠ key a := (hnot a (List.mem_of_find?_eq_some hfind')).symm
      rw [updateFirst_cons_neg hp, List.mem_cons, List.mem_cons, ih hl hfind']
      constructor
      · rintro (rfl | hb | hb)
        · exact Or.inr ⟨Or.inl rfl, hca⟩
        · exact Or.inl hb
        · exact Or.inr ⟨Or.inr hb.1, hb.2⟩
      · rintro (hb | ⟨rfl | hb, hne⟩)
        · exact Or.inr (Or.inl hb)
        · exact Or.inl rfl
        · exact Or.inr (Or.inr ⟨hb, hne⟩)

/-! ### A map filled from a list -/

section Update

variable {κ : Type*} [DecidableEq κ] {key : α → κ} {val : α → β} {l : List α} {f : κ → β}

theorem foldl_update_of_notMem {k : κ} (h : k ∉ l.map key) :
    l.foldl (fun f a => Function.update f (key a) (val a)) f k = f k := by
  induction l generalizing f with
  | nil => rfl
  | cons a l ih =>
    rw [List.map_cons, List.mem_cons, not_or] at h
    rw [List.foldl_cons, ih h.2, Function.update_of_ne h.1]

/-- Where the keys are unique, the map has the value of each element under its key. -/
theorem foldl_update_of_mem (h : (l.map key).Nodup) {a : α} (ha : a ∈ l) :
    l.foldl (fun f a => Function.update f (key a) (val a)) f (key a) = val a := by
  induction l generalizing f with
  | nil => cases ha
  | cons b l ih =>
    rw [List.map_cons, List.nodup_cons] at h
    rw [List.foldl_cons]
    rcases List.mem_cons.1 ha with rfl | ha
    · rw [foldl_update_of_notMem h.1, Function.update_self]
    · exact ih h.2 ha

end Update

/-! ### Replace or append -/

section Upsert

variable {κ : Type*} [DecidableEq κ] {key : α → κ} {a : α} {l : List α} {k : κ}

/-- Replace the first element with the key of `a` by `a`, or append `a`. -/
def upsert (key : α → κ) (a : α) : List α → List α
  | [] => [a]
  | b :: l => if key b = key a then a :: l else b :: upsert key a l

theorem upsert_of_forall_ne (h : ∀ b ∈ l, key b ≠ key a) : upsert key a l = l ++ [a] := by
  induction l with
  | nil => rfl
  | cons b l ih =>
    have hb : key b ≠ key a := h b List.mem_cons_self
    simp [upsert, hb, ih fun c hc => h c (List.mem_cons_of_mem _ hc)]

/-- A lookup finds the new element under its key, and what it found before under any other. -/
theorem find?_upsert (key : α → κ) (a : α) (l : List α) (k : κ) :
    (upsert key a l).find? (fun b => key b = k) =
      if key a = k then some a else l.find? (fun b => key b = k) := by
  induction l with
  | nil => by_cases hk : key a = k <;> simp [upsert, hk]
  | cons b l ih =>
    by_cases hb : key b = key a
    · by_cases hk : key a = k <;> simp [upsert, hb, hk]
    · by_cases hk : key a = k
      · subst hk
        simp [upsert, hb, ih]
      · by_cases hbk : key b = k
        · rw [upsert, if_neg hb]
          simp [hbk, hk]
        · simp [upsert, hb, hk, hbk, ih]

theorem key_mem_upsert (h : k ∈ (upsert key a l).map key) : k = key a ∨ k ∈ l.map key := by
  induction l with
  | nil => exact Or.inl (by simpa [upsert] using h)
  | cons b l ih =>
    by_cases hb : key b = key a
    · right
      simpa [upsert, hb] using h
    · simp only [upsert, if_neg hb, List.map_cons, List.mem_cons] at h ⊢
      rcases h with rfl | h
      · exact Or.inr (Or.inl rfl)
      · exact (ih h).imp_right Or.inr

theorem nodup_map_upsert (h : (l.map key).Nodup) : ((upsert key a l).map key).Nodup := by
  induction l with
  | nil => simp [upsert]
  | cons b l ih =>
    obtain ⟨hb, hl⟩ := List.nodup_cons.1 h
    by_cases hba : key b = key a
    · simpa [upsert, hba] using h
    · rw [upsert, if_neg hba, List.map_cons, List.nodup_cons]
      exact ⟨fun hmem => (key_mem_upsert hmem).elim hba hb, ih hl⟩

/-- A write through the reference under which the key is found replaces its element. -/
theorem map_update_eq_upsert {ρ : Type*} [DecidableEq ρ] {f : ρ → α} {refs : List ρ} {r : ρ}
    (h : (refs.map fun m => key (f m)).Nodup) (hr : r ∈ refs) (hkey : key (f r) = key a) :
    refs.map (Function.update f r a) = upsert key a (refs.map f) := by
  induction refs with
  | nil => cases hr
  | cons m refs ih =>
    obtain ⟨hm, hrefs⟩ := List.nodup_cons.1 h
    rcases List.mem_cons.1 hr with rfl | hr
    · have hrest : refs.map (Function.update f r a) = refs.map f := by
        refine List.map_congr_left fun x hx => Function.update_of_ne ?_ _ _
        rintro rfl
        exact hm (List.mem_map_of_mem hx)
      simp [upsert, hkey, hrest]
    · have hne : key (f m) ≠ key a := by
        intro heq
        exact hm (List.mem_map.2 ⟨r, hr, hkey.trans heq.symm⟩)
      have hmr : m ≠ r := by
        rintro rfl
        exact hne hkey
      simp [upsert, hne, hmr, ih hrefs hr]

end Upsert

end FirstMatch
