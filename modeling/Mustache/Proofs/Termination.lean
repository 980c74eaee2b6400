import Mathlib.Logic.Hydra
import Mathlib.Order.WellFounded
import Mathlib.Tactic.Abel
import Mustache.Proofs.Halt
/-!
# Every render comes to an end

A partial may include itself, and a loop takes the walk back to where it has been. The walk comes to
an end all the same: each step makes the work ahead smaller (`Walk.step_decreases`), whatever the
files hold and from whatever walk the step is taken.

* `Descent.Replaces.cutExpand`: a replacement on lists cuts an element out of a multiset and puts
  smaller ones in, which cannot go on for ever (`Relation.CutExpand`).
* `Walk.wellFounded_next`: so steps cannot go on for ever either.
* `Walk.isSome_after_iff`: a run that has come to a walk which takes no further step has just so
  many steps.
* `render_terminates`: a render takes a certain number of steps, and what the walk is after them is
  the outcome of the render.

How many steps there are depends on the files that a render comes to load, which it only learns on
its way; there is no bound on them that the template and the limit alone would give.
-/

namespace Mustache

namespace Descent

variable {α : Type} {q : α → α → Prop} {l l' : List α}

theorem Replaces.cutExpand (h : Replaces q l' l) :
    Relation.CutExpand q (l' : Multiset α) (l : Multiset α) := by
  obtain ⟨left, x, right, xs, rfl, rfl, hxs⟩ := h
  refine ⟨xs, x, hxs, ?_⟩
  simp only [← Multiset.coe_add, ← Multiset.cons_coe, ← Multiset.singleton_add]
  abel

/-- **Replacement is well founded**, as it is so on multisets. -/
theorem wellFounded_of_cutExpand (hq : WellFounded q) : WellFounded (Replacement q) :=
  (Subrelation.wf Replaces.cutExpand (InvImage.wf Multiset.ofList hq.cutExpand)).transGen

end Descent

namespace Walk

variable {r : Renderer} {w w' last : Walk}

/-- **Steps cannot go on for ever**, as each of them makes the work ahead smaller. -/
theorem wellFounded_next (r : Renderer) : WellFounded fun w' w => Next r w w' := by
  have hless : WellFounded LessWork :=
    Descent.wellFounded_of_cutExpand (Descent.wellFounded_of_cutExpand Nat.lt_wfRel.wf)
  have hwork : WellFounded fun w' w : Walk =>
      LessWork (workAhead r.options.maxPartialDepth w'.tape w'.opened)
        (workAhead r.options.maxPartialDepth w.tape w.opened) :=
    InvImage.wf (fun w : Walk => workAhead r.options.maxPartialDepth w.tape w.opened) hless
  exact Subrelation.wf step_decreases hwork

/-- Of walks in a row, there is one that takes no step to the next. -/
theorem exists_not_next (r : Renderer) (walks : Nat → Walk) :
    ∃ n, ¬ Next r (walks n) (walks (n + 1)) := by
  by_contra hall
  have hchain := wellFounded_iff_isEmpty_descending_chain.mp (wellFounded_next r)
  exact hchain.false ⟨walks, not_exists_not.mp hall⟩

/-! ### Counting steps -/

theorem after_succ_of_next (h : Next r w w') (n : Nat) : w.after r (n + 1) = w'.after r n := by
  rw [after, h]

theorem exists_next_of_after_succ {n : Nat} (h : w.after r (n + 1) = some last) :
    ∃ w', Next r w w' ∧ w'.after r n = some last := by
  rw [after] at h
  split at h
  · rename_i w' hnext
    exact ⟨w', hnext, h⟩
  · simp at h

/-- A run is so many steps. -/
theorem exists_after_of_reaches (h : Reaches r w w') : ∃ n, w.after r n = some w' := by
  induction h using Relation.ReflTransGen.head_induction_on with
  | refl => exact ⟨0, rfl⟩
  | head hnext _ ih =>
    obtain ⟨n, hn⟩ := ih
    exact ⟨n + 1, (after_succ_of_next hnext n).trans hn⟩

/-- So many steps are more than a run has taken so far, if it does not come through them. -/
theorem lt_of_after_eq_none {n steps : Nat} (h : w.after r n = some w')
    (hnone : w.after r steps = none) : n < steps := by
  induction steps generalizing w n with
  | zero => simp [after] at hnone
  | succ steps ih =>
    cases n with
    | zero => exact Nat.succ_pos steps
    | succ n =>
      obtain ⟨u, hnext, hu⟩ := exists_next_of_after_succ h
      rw [after_succ_of_next hnext] at hnone
      exact Nat.succ_lt_succ (ih hu hnone)

/-- **How many steps a run has**, once it has come to a walk that takes no step. -/
theorem isSome_after_iff {steps : Nat} (h : w.after r steps = some last)
    (hlast : ∀ w', ¬ Next r last w') (n : Nat) : (w.after r n).isSome ↔ n ≤ steps := by
  -- Both counts go down together, step by step.
  induction steps generalizing w n with
  | zero =>
    obtain rfl : w = last := by simpa [after] using h
    cases n with
    | zero => simp [after]
    | succ n =>
      have hnone : w.after r (n + 1) = none := by
        rw [after]
        split
        · rename_i w' hnext
          exact absurd hnext (hlast w')
        · rfl
      simp [hnone]
  | succ steps ih =>
    obtain ⟨w', hnext, h'⟩ := exists_next_of_after_succ h
    cases n with
    | zero => simp [after]
    | succ n =>
      rw [after_succ_of_next hnext, ih h']
      exact Nat.succ_le_succ_iff.symm

end Walk

/-- **Every render comes to an end.** No steps go on for ever, wherever they start. A render takes a
certain number of steps and no more, and the walk after them is at its end or fails, as the render
does. -/
theorem render_terminates (r : Renderer) (template : String) (context : Value) :
    (∀ walks : Nat → Walk, ∃ n, ¬ Walk.Next r (walks n) (walks (n + 1))) ∧
      ∃ steps last, (Walk.start template context).after r steps = some last ∧
        (∀ n, ((Walk.start template context).after r n).isSome ↔ n ≤ steps) ∧
        (last.step r = .ok none ∧ r.render template context = .ok last.output ∨
          ∃ f, last.step r = .error f ∧ r.render template context = .error f) := by
  refine ⟨Walk.exists_not_next r, ?_⟩
  obtain ⟨last, hreaches, hlast⟩ := Walk.exists_last r (Walk.start template context)
  obtain ⟨steps, hsteps⟩ := Walk.exists_after_of_reaches hreaches
  refine ⟨steps, last, hsteps, Walk.isSome_after_iff hsteps fun w' hnext => ?_, hlast⟩
  -- The last walk is at its end or fails, so it takes no step.
  obtain ⟨hend, -⟩ | ⟨f, hf, -⟩ := hlast
  · simp [Walk.Next, hend] at hnext
  · simp [Walk.Next, hf] at hnext

end Mustache
