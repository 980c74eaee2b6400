import Mathlib.Logic.Relation
import Mustache.Render
/-!
# Runs of a walk

`Walk.run` takes a walk to its end and keeps only what was written. This file is about the way
there.

* `Walk.Next r w w'` is one step, and `Walk.Reaches r w w'` is any number of them, so that the
  walks a render comes to are those that `Walk.start template context` reaches.
* `Walk.after r n w` is the walk after `n` steps, which can be evaluated.
* `Walk.finish r w` is the last walk of a run, with the tokens it has passed; `Walk.run` is what it
  has written (`run_eq_finish`).

A property of all walks that a render comes to is proved from the first walk and from one step
(`Reaches.preserves`). Facts about a whole run go by `Walk.run_of_step` and its like, which take one
step off a run, together with the induction that comes with the definition of `Walk.run`.
-/

namespace Mustache

/-! ### Computations that may fail -/

section Except

variable {ε α β : Type}

@[simp] theorem ok_bind (a : α) (f : α → Except ε β) : (Except.ok a >>= f) = f a := rfl

@[simp] theorem error_bind (e : ε) (f : α → Except ε β) :
    ((Except.error e : Except ε α) >>= f) = .error e := rfl

@[simp] theorem pure_eq_ok (a : α) : (pure a : Except ε α) = .ok a := rfl

@[simp] theorem map_ok (f : α → β) (a : α) : f <$> (Except.ok a : Except ε α) = .ok (f a) := rfl

@[simp] theorem map_error (f : α → β) (e : ε) :
    f <$> (Except.error e : Except ε α) = .error e := rfl

@[simp] theorem mapError_ok {ε' : Type} (f : ε → ε') (a : α) :
    (Except.ok a : Except ε α).mapError f = .ok a := rfl

@[simp] theorem mapError_error {ε' : Type} (f : ε → ε') (e : ε) :
    (Except.error e : Except ε α).mapError f = .error (f e) := rfl

end Except

/-- The failure with more text written before it. -/
def RenderFailure.after (f : RenderFailure) (text : String) : RenderFailure :=
  ⟨text ++ f.output, f.error⟩

namespace Walk

variable {r : Renderer} {w w' : Walk}

/-- The start of a walk over some tokens in one frame, from an index on. -/
def along (nodes : List Node) (frame : Value) (index : Nat) : Walk where
  tape := ⟨[], nodes⟩
  scopes := ⟨frame, [], index⟩
  visible := true
  output := ""
  opened := []

/-! ### Steps and runs -/

/-- One step that does not end the walk. -/
def Next (r : Renderer) (w w' : Walk) : Prop := w.step r = .ok (some w')

/-- Any number of steps. -/
def Reaches (r : Renderer) : Walk → Walk → Prop := Relation.ReflTransGen (Next r)

theorem Reaches.refl (w : Walk) : Reaches r w w := Relation.ReflTransGen.refl

/-- **What a step keeps, a run keeps.** -/
theorem Reaches.preserves {P : Walk → Prop} (h : Reaches r w w') (first : P w)
    (step : ∀ {u u' : Walk}, P u → Next r u u' → P u') : P w' := by
  induction h with
  | refl => exact first
  | tail _ hnext ih => exact step ih hnext

theorem run_of_next (h : w.step r = .ok (some w')) : w.run r = w'.run r := by
  rw [run]
  split
  · rename_i next hnext
    rw [h] at hnext
    obtain rfl : w' = next := by simpa using hnext
    rfl
  · rename_i hnext
    simp [h] at hnext
  · rename_i hnext
    simp [h] at hnext

theorem run_of_end (h : w.step r = .ok none) : w.run r = .ok w.output := by
  rw [run]
  split <;> simp_all

theorem run_of_failure {f : RenderFailure} (h : w.step r = .error f) : w.run r = .error f := by
  rw [run]
  split <;> simp_all

/-- **One step off a run.** -/
theorem run_of_step {c : Except RenderFailure Walk} (h : w.step r = some <$> c) :
    w.run r = c >>= run r := by
  cases c with
  | ok next => exact run_of_next h
  | error f => exact run_of_failure h

theorem Reaches.run_eq (h : Reaches r w w') : w.run r = w'.run r := by
  induction h with
  | refl => rfl
  | tail _ hnext ih => rw [ih, run_of_next hnext]

/-! ### So many steps -/

/-- The walk after so many steps, if it comes so far. -/
def after (r : Renderer) : (steps : Nat) → Walk → Option Walk
  | 0, w => some w
  | n + 1, w =>
    match w.step r with
    | .ok (some next) => next.after r n
    | _ => none

theorem reaches_of_after {n : Nat} (h : w.after r n = some w') : Reaches r w w' := by
  -- `after` takes its first step first, so the start varies in the induction.
  induction n generalizing w with
  | zero =>
    obtain rfl : w = w' := by simpa [after] using h
    exact .refl w
  | succ n ih =>
    rw [after] at h
    split at h
    · rename_i next hnext
      exact .head hnext (ih h)
    · simp at h

/-- The failure of the next step, if it fails. -/
def halted? (r : Renderer) (w : Walk) : Option RenderFailure :=
  match w.step r with
  | .error f => some f
  | .ok _ => none

theorem halted?_eq_some_iff {f : RenderFailure} : w.halted? r = some f ↔ w.step r = .error f := by
  unfold halted?
  split <;> simp_all

/-- What a run comes to that has been followed to its failure. -/
theorem run_eq_error_of_after {n : Nat} {f : RenderFailure}
    (h : (w.after r n).bind (halted? r) = some f) : w.run r = .error f := by
  obtain ⟨u, hu, hf⟩ := Option.bind_eq_some_iff.mp h
  rw [(reaches_of_after hu).run_eq, run_of_failure (halted?_eq_some_iff.mp hf)]

/-! ### The last walk of a run -/

/-- Walks on to the end of the template, and gives the walk as it is there. -/
def finish (r : Renderer) (w : Walk) : Except RenderFailure Walk :=
  match _h : w.step r with
  | .ok (some next) => next.finish r
  | .ok none => .ok w
  | .error failure => .error failure
termination_by w.workload r.options.maxPartialDepth
decreasing_by exact step_decreases _h

theorem finish_of_next (h : w.step r = .ok (some w')) : w.finish r = w'.finish r := by
  rw [finish]
  split
  · rename_i next hnext
    rw [h] at hnext
    obtain rfl : w' = next := by simpa using hnext
    rfl
  · rename_i hnext
    simp [h] at hnext
  · rename_i hnext
    simp [h] at hnext

theorem finish_of_end (h : w.step r = .ok none) : w.finish r = .ok w := by
  rw [finish]
  split <;> simp_all

theorem finish_of_failure {f : RenderFailure} (h : w.step r = .error f) :
    w.finish r = .error f := by
  rw [finish]
  split <;> simp_all

theorem run_eq_finish (r : Renderer) (w : Walk) : w.run r = output <$> w.finish r := by
  induction w using run.induct r with
  | case1 w next hnext ih => rw [run_of_next hnext, finish_of_next hnext, ih]
  | case2 w hend => rw [run_of_end hend, finish_of_end hend, map_ok]
  | case3 w f hf => rw [run_of_failure hf, finish_of_failure hf, map_error]

/-- A run that comes to an end reaches the last walk, and the last walk takes no step. -/
theorem finish_eq_ok {last : Walk} (h : w.finish r = .ok last) :
    Reaches r w last ∧ last.step r = .ok none := by
  induction w using run.induct r with
  | case1 w next hnext ih =>
    rw [finish_of_next hnext] at h
    exact ⟨.head hnext (ih h).1, (ih h).2⟩
  -- A walk that ends is its own last walk.
  | case2 w hend =>
    rw [finish_of_end hend] at h
    obtain rfl : w = last := by simpa using h
    exact ⟨.refl w, hend⟩
  | case3 w f hf =>
    rw [finish_of_failure hf] at h
    simp at h

end Walk

end Mustache
