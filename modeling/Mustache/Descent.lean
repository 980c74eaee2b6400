/-!
# The replacement order on lists

One step of replacement takes an element out of a list and puts any number of smaller elements in
its place. If the order on the elements is well founded then so is replacement: a list can be worked
off by splitting elements into smaller ones for as long as one likes, and there will be an end.

* `Replaces r l' l`: a step of replacement leads from `l` to `l'`.
* `Replacement r`: one or more steps.
* `wellFounded_replacement`: replacement is well founded if `r` is.

The proof follows the shape of a list. A list that is put together from two others can only change
where one of them changes, so it is accessible if both are (`acc_append`). A single element turns
into smaller ones, each of which is accessible by induction (`acc_singleton`).

On multisets, where the places of the elements do not count, replacement is `Relation.CutExpand`
(`Replaces.cutExpand`), and Mathlib's `WellFounded.cutExpand` says the same of it. The definition of
a render rests on the fact already, and the modules of the program import nothing but core, so here
is a proof for lists.
-/

namespace Mustache.Descent

variable {α : Type} {r : α → α → Prop}

/-- A step of replacement: an element of `l` gives way to elements below it. -/
def Replaces (r : α → α → Prop) (l' l : List α) : Prop :=
  ∃ left x right xs, l = left ++ x :: right ∧ l' = left ++ xs ++ right ∧ ∀ y ∈ xs, r y x

/-- One or more steps of replacement. -/
def Replacement (r : α → α → Prop) : List α → List α → Prop :=
  Relation.TransGen (Replaces r)

/-- A step inside a longer list. -/
theorem Replaces.append {l' l : List α} (h : Replaces r l' l) (a b : List α) :
    Replaces r (a ++ l' ++ b) (a ++ l ++ b) := by
  obtain ⟨left, x, right, xs, rfl, rfl, hxs⟩ := h
  exact ⟨a ++ left, x, right ++ b, xs, by simp, by simp, hxs⟩

/-- An element goes and nothing takes its place. -/
theorem replaces_of_erase (x : α) (l : List α) : Replaces r l (x :: l) :=
  ⟨[], x, l, [], rfl, rfl, by simp⟩

/-- Where a step on a list put together from two takes place. -/
theorem replaces_append_cases {l' a b : List α} (h : Replaces r l' (a ++ b)) :
    (∃ a', Replaces r a' a ∧ l' = a' ++ b) ∨ ∃ b', Replaces r b' b ∧ l' = a ++ b' := by
  obtain ⟨left, x, right, xs, hl, rfl, hxs⟩ := h
  rcases List.append_eq_append_iff.mp hl with ⟨c, rfl, hb⟩ | ⟨c, rfl, hb⟩
  · refine .inr ⟨c ++ xs ++ right, ⟨c, x, right, xs, hb, rfl, hxs⟩, by simp⟩
  · cases c with
    | nil =>
      simp only [List.nil_append] at hb
      exact .inr ⟨xs ++ right, ⟨[], x, right, xs, hb.symm, rfl, hxs⟩, by simp⟩
    | cons y c =>
      simp only [List.cons_append, List.cons.injEq] at hb
      obtain ⟨rfl, rfl⟩ := hb
      exact .inl ⟨left ++ xs ++ c, ⟨left, x, c, xs, rfl, rfl, hxs⟩, by simp⟩

theorem acc_nil : Acc (Replaces r) ([] : List α) :=
  .intro _ fun _ ⟨_, _, _, _, h, _⟩ => by simp at h

theorem acc_append {a b : List α} (ha : Acc (Replaces r) a) (hb : Acc (Replaces r) b) :
    Acc (Replaces r) (a ++ b) := by
  induction ha generalizing b with
  | intro a ha iha =>
    induction hb with
    | intro b hb ihb =>
      refine .intro _ fun l' h => ?_
      rcases replaces_append_cases h with ⟨a', h', rfl⟩ | ⟨b', h', rfl⟩
      · exact iha a' h' (.intro b hb)
      · exact ihb b' h'

theorem acc_singleton {x : α} (hx : Acc r x) : Acc (Replaces r) [x] := by
  induction hx with
  | intro x _ ih =>
    have acc_of_below : ∀ xs : List α, (∀ y ∈ xs, r y x) → Acc (Replaces r) xs := by
      intro xs hxs
      induction xs with
      | nil => exact acc_nil
      | cons y ys ihy =>
        simp only [List.mem_cons, forall_eq_or_imp] at hxs
        exact acc_append (ih y hxs.1) (ihy hxs.2)
    refine .intro _ fun l' ⟨left, y, right, xs, hl, hl', hxs⟩ => ?_
    cases left with
    | nil =>
      simp only [List.nil_append, List.cons.injEq] at hl
      obtain ⟨rfl, rfl⟩ := hl
      simp only [List.nil_append, List.append_nil] at hl'
      exact hl' ▸ acc_of_below xs hxs
    | cons z left => simp at hl

theorem wellFounded_replaces (h : WellFounded r) : WellFounded (Replaces r) := by
  refine ⟨fun l => ?_⟩
  induction l with
  | nil => exact acc_nil
  | cons x l ih => exact acc_append (acc_singleton (h.apply x)) ih

/-- Replacement is well founded if the order on the elements is. -/
theorem wellFounded_replacement (h : WellFounded r) : WellFounded (Replacement r) :=
  (wellFounded_replaces h).transGen

/-! ### Building up replacements -/

theorem Replacement.trans {a b c : List α} (h : Replacement r a b) (h' : Replacement r b c) :
    Replacement r a c :=
  Relation.TransGen.trans h h'

/-- Replacement inside a longer list. -/
theorem Replacement.append {l' l : List α} (h : Replacement r l' l) (a b : List α) :
    Replacement r (a ++ l' ++ b) (a ++ l ++ b) := by
  induction h with
  | single h => exact .single (h.append a b)
  | tail _ h ih => exact .tail ih (h.append a b)

theorem Replacement.append_left {l' l : List α} (h : Replacement r l' l) (a : List α) :
    Replacement r (a ++ l') (a ++ l) := by
  simpa using h.append a []

theorem Replacement.append_right {l' l : List α} (h : Replacement r l' l) (b : List α) :
    Replacement r (l' ++ b) (l ++ b) := by
  simpa using h.append [] b

/-- Taking elements off the front. -/
theorem replacement_of_append {a : List α} (h : a ≠ []) (l : List α) : Replacement r l (a ++ l) := by
  induction a with
  | nil => exact absurd rfl h
  | cons x a ih =>
    cases a with
    | nil => exact .single (replaces_of_erase x l)
    | cons y a => exact (ih (by simp)).trans (.single (replaces_of_erase x _))

/-- The first element gives way to smaller ones. -/
theorem replacement_head {x : α} (xs : List α) (h : ∀ y ∈ xs, r y x) (l : List α) :
    Replacement r (xs ++ l) (x :: l) :=
  .single ⟨[], x, l, xs, rfl, rfl, h⟩

/-- The first element gives way to a smaller one. -/
theorem replacement_cons {x y : α} (h : r y x) (l : List α) : Replacement r (y :: l) (x :: l) :=
  replacement_head [y] (by simpa using h) l

end Mustache.Descent
