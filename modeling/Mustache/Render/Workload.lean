import Mustache.Descent
import Mustache.Render.Walk
/-!
# Why a walk comes to an end

A partial makes the tokens ahead more, and a loop takes the walk back, so no number goes down with
every step. What does go down is a `Workload`: one list for the tokens ahead, and one for each pass
that an open loop still has to make, which holds the tokens that this pass would meet as they stand
now. A token counts with the levels of partials that may still come in at its place.

* Walking past tokens makes the first list shorter and leaves the others alone, since what a later
  pass meets does not depend on where the walk is (`pendingPasses_consume`).
* A new loop replaces the first list by several shorter ones.
* The next pass of a loop drops the first list.
* A partial puts tokens of a lower level in place of the tag, in every list that holds the tag.

Each of these is a replacement of lists by smaller ones, where smaller means that numbers have been
replaced by smaller ones. Both orders are replacement orders, so they are well founded, whatever the
partials hold.

* `step_decreases`: each step of a walk makes the workload smaller.
-/

namespace Mustache

open Descent

/-- The levels of partials that may still come in at the place of each token. -/
def levels (limit : Nat) (nodes : List Node) : List Nat :=
  nodes.map fun node => limit - node.depth

@[simp] theorem levels_nil (limit : Nat) : levels limit [] = [] := rfl

@[simp] theorem levels_cons (limit : Nat) (node : Node) (nodes : List Node) :
    levels limit (node :: nodes) = (limit - node.depth) :: levels limit nodes := rfl

@[simp] theorem levels_append (limit : Nat) (a b : List Node) :
    levels limit (a ++ b) = levels limit a ++ levels limit b := by
  simp [levels]

/-- What the passes that open loops still have to make would meet. `rest` are the tokens ahead and
`passed` the tokens passed since the innermost loop began its pass. -/
def pendingPasses (rest passed : List Node) : List OpenSection → List (List Node)
  | [] => []
  | ⟨_, .once _ _⟩ :: outer => pendingPasses rest passed outer
  | ⟨_, .loop outerPassed _ remaining⟩ :: outer =>
    List.replicate remaining.length (passed.reverse ++ rest) ++
      pendingPasses rest (passed ++ outerPassed) outer

/-- The work that is left in a walk. -/
structure Workload where
  /-- The levels of the tokens ahead, and of the tokens of each pass to come. -/
  passes : List (List Nat)

/-- Lists of numbers become smaller when numbers are replaced by smaller ones. -/
def LessWork : List (List Nat) → List (List Nat) → Prop :=
  Replacement (Replacement (· < ·))

instance : WellFoundedRelation Workload where
  rel a b := LessWork a.passes b.passes
  wf := InvImage.wf Workload.passes (wellFounded_replacement (wellFounded_replacement Nat.lt_wfRel.wf))

/-- The work ahead of a tape inside open sections. -/
def workAhead (limit : Nat) (t : Tape) (opened : List OpenSection) : List (List Nat) :=
  (t.rest :: pendingPasses t.rest t.passed opened).map (levels limit)

/-- The work that is left in a walk. -/
def Walk.workload (limit : Nat) (w : Walk) : Workload :=
  ⟨workAhead limit w.tape w.opened⟩

/-! ### Walking past tokens -/

/-- The tape `t'` is the tape `t` after one or more tokens. -/
def Tape.Passes (t t' : Tape) : Prop :=
  ∃ nodes, nodes ≠ [] ∧ t.rest = nodes ++ t'.rest ∧ t'.passed = nodes.reverse ++ t.passed

theorem Tape.Passes.trans {a b c : Tape} (h : a.Passes b) (h' : b.Passes c) : a.Passes c := by
  obtain ⟨xs, hx, hr, hp⟩ := h
  obtain ⟨ys, _, hr', hp'⟩ := h'
  exact ⟨xs ++ ys, by simp [hx], by simp [hr, hr'], by simp [hp, hp']⟩

theorem Tape.passes_advance {t : Tape} (h : t.rest ≠ []) : t.Passes t.advance := by
  obtain ⟨passed, rest⟩ := t
  cases rest with
  | nil => exact absurd rfl h
  | cons node rest => exact ⟨[node], by simp, rfl, rfl⟩

theorem Tape.passes_of_takeName {t t' : Tape} {m : Marker} {name : String}
    (h : t.takeName m = .ok (name, t')) : t.Passes t' := by
  simp only [takeName] at h
  split at h
  · simp at h
  · rename_i hr
    simp only [Except.ok.injEq, Prod.mk.injEq] at h
    exact h.2 ▸ passes_advance (by simp [hr])
  · simp at h

theorem Tape.passes_of_takeMarker {t t' : Tape} {m : Marker} (h : t.takeMarker m = .ok t') :
    t.Passes t' := by
  simp only [takeMarker] at h
  split at h
  · rename_i hr
    split at h
    · simp only [Except.ok.injEq] at h
      exact h ▸ passes_advance (by simp [hr])
    · simp at h
  · simp at h

/-- What a later pass meets does not depend on where the walk is. -/
theorem pendingPasses_consume (nodes rest passed : List Node) (opened : List OpenSection) :
    pendingPasses rest (nodes.reverse ++ passed) opened =
      pendingPasses (nodes ++ rest) passed opened := by
  induction opened generalizing passed with
  | nil => rfl
  | cons s outer ih =>
    obtain ⟨name, region⟩ := s
    cases region with
    | once => simpa only [pendingPasses] using ih passed
    | loop outerPassed pass remaining =>
      simp only [pendingPasses]
      rw [List.append_assoc, ih]
      simp

theorem pendingPasses_of_passes {t t' : Tape} (h : t.Passes t') (opened : List OpenSection) :
    pendingPasses t'.rest t'.passed opened = pendingPasses t.rest t.passed opened := by
  obtain ⟨nodes, _, hr, hp⟩ := h
  rw [hp, hr, pendingPasses_consume]

theorem replacement_levels_of_passes {t t' : Tape} (limit : Nat) (h : t.Passes t') :
    Replacement (· < ·) (levels limit t'.rest) (levels limit t.rest) := by
  obtain ⟨nodes, hne, hr, _⟩ := h
  rw [hr, levels_append]
  exact replacement_of_append (by simpa [levels] using hne) _

theorem lessWork_of_passes {t t' : Tape} (limit : Nat) (h : t.Passes t')
    (opened : List OpenSection) : LessWork (workAhead limit t' opened) (workAhead limit t opened) := by
  simp only [workAhead, pendingPasses_of_passes h, List.map_cons]
  exact replacement_cons (replacement_levels_of_passes limit h) _

/-! ### Loops -/

/-- A loop that begins after some tokens. -/
theorem lessWork_loop {t t' : Tape} (limit : Nat) (h : t.Passes t') (name : String)
    (remaining : List Value) (outer : List OpenSection) :
    LessWork (workAhead limit ⟨[], t'.rest⟩ (⟨name, .loop t'.passed 0 remaining⟩ :: outer))
      (workAhead limit t outer) := by
  have hp := pendingPasses_of_passes h outer
  simp only [workAhead, pendingPasses, List.reverse_nil, List.nil_append, hp, List.map_cons,
    List.map_append, List.map_replicate]
  refine replacement_head
    (levels limit t'.rest :: List.replicate remaining.length (levels limit t'.rest)) ?_ _
  intro y hy
  have : y = levels limit t'.rest := by
    simp only [List.mem_cons, List.mem_replicate] at hy
    rcases hy with hy | hy
    · exact hy
    · exact hy.2
  exact this ▸ replacement_levels_of_passes limit h

/-- The next pass of a loop. -/
theorem lessWork_nextPass (limit : Nat) (t : Tape) (name : String) (outerPassed : List Node)
    (pass next : Nat) (v : Value) (remaining : List Value) (outer : List OpenSection) :
    LessWork
      (workAhead limit ⟨[], t.passed.reverse ++ t.rest⟩
        (⟨name, .loop outerPassed next remaining⟩ :: outer))
      (workAhead limit t (⟨name, .loop outerPassed pass (v :: remaining)⟩ :: outer)) := by
  have hp := pendingPasses_consume t.passed.reverse t.rest outerPassed outer
  rw [List.reverse_reverse] at hp
  simp only [workAhead, pendingPasses, List.reverse_nil, List.nil_append, ← hp, List.length_cons,
    List.replicate_succ, List.cons_append, List.map_cons]
  exact .single (replaces_of_erase _ _)

/-- The end of a loop moves no token. -/
theorem workAhead_leave (limit : Nat) (w : Walk) (name : String) (region : Region)
    (outer : List OpenSection)
    (h : ∀ outerPassed pass v remaining, region ≠ .loop outerPassed pass (v :: remaining)) :
    workAhead limit (w.leave region outer).tape (w.leave region outer).opened =
      workAhead limit w.tape (⟨name, region⟩ :: outer) := by
  cases region with
  | once outerVisible framed => rfl
  | loop outerPassed pass remaining =>
    cases remaining with
    | nil => simp [workAhead, Walk.leave, pendingPasses]
    | cons v remaining => exact absurd rfl (h outerPassed pass v remaining)

/-! ### Partials -/

/-- Numbers below the first one take the place of a run. -/
theorem replacement_of_below {x : Nat} {ys : List Nat} (h : ∀ y ∈ ys, y < x) (xs rest : List Nat) :
    Replacement (· < ·) (ys ++ rest) (x :: xs ++ rest) := by
  cases xs with
  | nil => exact replacement_head ys h rest
  | cons z zs =>
    have hrest : Replacement (· < ·) rest (z :: zs ++ rest) := replacement_of_append (by simp) rest
    exact (hrest.append_left ys).trans (replacement_head ys h _)

/-- If the tokens ahead become less, so does each pass that meets them. -/
theorem lessWork_append_pendingPasses {limit : Nat} {before after : List Node}
    (h : Replacement (· < ·) (levels limit after) (levels limit before))
    {work' work : List (List Nat)} (hwork : LessWork work' work) (passed : List Node)
    (opened : List OpenSection) :
    LessWork (work' ++ (pendingPasses after passed opened).map (levels limit))
      (work ++ (pendingPasses before passed opened).map (levels limit)) := by
  induction opened generalizing passed work' work with
  | nil => simpa [pendingPasses] using hwork
  | cons s outer ih =>
    obtain ⟨name, region⟩ := s
    cases region with
    | once => exact ih hwork passed
    | loop outerPassed pass remaining =>
      simp only [pendingPasses, List.map_append, ← List.append_assoc]
      refine ih ?_ _
      -- Every pass of this loop ends with the tokens ahead.
      have hpass := h.append_left (levels limit passed.reverse)
      induction remaining with
      | nil => simpa using hwork
      | cons v remaining ihr =>
        simp only [List.length_cons, List.replicate_succ', List.map_append, List.map_cons,
          List.map_nil, ← List.append_assoc, levels_append]
        refine Replacement.trans ?_ (ihr.append_right _)
        exact Replacement.append_left (replacement_cons hpass []) _

/-- Tokens of a lower level take the place of a tag. -/
theorem lessWork_splice {limit depth : Nat} {t t' : Tape} {token : Token} {tail : List Node}
    (hrest : t.rest = ⟨token, depth⟩ :: tail) (h : t.Passes t') (hdepth : depth + 1 ≤ limit)
    (tokens : List Token) (opened : List OpenSection) :
    LessWork (workAhead limit ⟨t.passed, Node.ofTokens (depth + 1) tokens ++ t'.rest⟩ opened)
      (workAhead limit t opened) := by
  obtain ⟨nodes, hne, hr, _⟩ := h
  have hlevels : Replacement (· < ·)
      (levels limit (Node.ofTokens (depth + 1) tokens ++ t'.rest)) (levels limit t.rest) := by
    cases nodes with
    | nil => exact absurd rfl hne
    | cons node nodes =>
      have hnode : node = ⟨token, depth⟩ := by
        rw [hr] at hrest
        exact (List.cons.inj hrest).1
      rw [hr, levels_append, levels_append, hnode, levels_cons]
      refine replacement_of_below ?_ _ _
      intro y hy
      simp only [levels, Node.ofTokens, List.map_map, List.mem_map, Function.comp_apply] at hy
      obtain ⟨_, _, rfl⟩ := hy
      show limit - (depth + 1) < limit - depth
      omega
  exact lessWork_append_pendingPasses hlevels (replacement_cons hlevels []) _ _

/-! ### Steps -/

theorem Renderer.checkDepth_eq_ok_iff {r : Renderer} {file : String} {depth : Nat} :
    r.checkDepth file depth = .ok () ↔ depth ≤ r.options.maxPartialDepth := by
  simp only [checkDepth]
  split <;> simp_all

namespace Walk

@[simp] theorem attempt_ok {α : Type} (w : Walk) (a : α) : w.attempt (.ok a) = .ok a := rfl

@[simp] theorem attempt_error {α : Type} (w : Walk) (e : RenderError) :
    w.attempt (.error e : Except RenderError α) = .error (w.failure e) := rfl

theorem attempt_eq_ok_iff {α : Type} {w : Walk} {result : Except RenderError α} {a : α} :
    w.attempt result = .ok a ↔ result = .ok a := by
  cases result <;> simp

/-- What it means that a computation with a first part succeeds. -/
theorem bind_eq_ok_iff {ε α β : Type} {x : Except ε α} {f : α → Except ε β} {b : β} :
    (x >>= f) = .ok b ↔ ∃ a, x = .ok a ∧ f a = .ok b := by
  cases x <;> simp [bind, Except.bind]

theorem map_some_eq_ok_iff {ε α : Type} {x : Except ε α} {a : α} :
    (some <$> x) = .ok (some a) ↔ x = .ok a := by
  cases x <;> simp [Functor.map, Except.map]

@[simp] theorem tape_emit (w : Walk) (text : String) : (w.emit text).tape = w.tape := by
  simp only [emit]
  split <;> rfl

@[simp] theorem opened_emit (w : Walk) (text : String) : (w.emit text).opened = w.opened := by
  simp only [emit]
  split <;> rfl

variable {answers : Answers}

theorem passes_of_walkVariableBy {w w' : Walk} {m : Marker}
    (h : w.walkVariableBy answers m = .ok w') :
    w.tape.Passes w'.tape ∧ w'.opened = w.opened := by
  simp only [walkVariableBy, bind_eq_ok_iff, attempt_eq_ok_iff] at h
  obtain ⟨⟨name, tape⟩, hname, _, _, text, _, tape', hclose, h⟩ := h
  simp only [tape_emit] at hclose
  simp only [pure, Except.pure, Except.ok.injEq] at h
  subst h
  exact ⟨(Tape.passes_of_takeName hname).trans (Tape.passes_of_takeMarker hclose), by simp⟩

theorem passes_of_walkComment {w w' : Walk} (h : w.walkComment = .ok w') :
    w.tape.Passes w'.tape ∧ w'.opened = w.opened := by
  simp only [walkComment, bind_eq_ok_iff, attempt_eq_ok_iff] at h
  obtain ⟨⟨name, tape⟩, hname, tape', hclose, h⟩ := h
  simp only [pure, Except.pure, Except.ok.injEq] at h
  subst h
  exact ⟨(Tape.passes_of_takeName hname).trans (Tape.passes_of_takeMarker hclose), rfl⟩

theorem passes_of_walkEnd {w w' : Walk} {name : String} (h : w.walkEnd name = .ok w') :
    w.tape.Passes w'.tape ∧ w'.opened = w.opened := by
  simp only [walkEnd, bind_eq_ok_iff, attempt_eq_ok_iff] at h
  obtain ⟨tape, hopen, ⟨found, tape'⟩, hname, _, _, tape'', hclose, h⟩ := h
  simp only [pure, Except.pure, Except.ok.injEq] at h
  subst h
  exact ⟨((Tape.passes_of_takeMarker hopen).trans (Tape.passes_of_takeName hname)).trans
    (Tape.passes_of_takeMarker hclose), rfl⟩

theorem lessWork_of_walkSectionBy {w w' : Walk} {m : Marker} (limit : Nat)
    (h : w.walkSectionBy answers m = .ok w') :
    LessWork (workAhead limit w'.tape w'.opened) (workAhead limit w.tape w.opened) := by
  simp only [walkSectionBy, bind_eq_ok_iff, attempt_eq_ok_iff] at h
  obtain ⟨⟨name, tape⟩, hname, _, _, lookup, _, tape', hclose, h⟩ := h
  simp only [pure, Except.pure, Except.ok.injEq] at h
  have hp := (Tape.passes_of_takeName hname).trans (Tape.passes_of_takeMarker hclose)
  subst h
  simp only [enter]
  split
  · exact lessWork_loop limit hp name _ w.opened
  · exact lessWork_of_passes limit hp w.opened
  · exact lessWork_of_passes limit hp w.opened

theorem lessWork_of_endMessage {w w' : Walk} (limit : Nat) (h : w.endMessage = .ok (some w')) :
    LessWork (workAhead limit w'.tape w'.opened) (workAhead limit w.tape w.opened) := by
  simp only [endMessage] at h
  split at h
  · split at h <;> simp at h
  · rename_i ho
    simp only [Except.ok.injEq, Option.some.injEq] at h
    subst h
    rw [ho]
    exact lessWork_nextPass limit w.tape _ _ _ _ _ _ _
  · rename_i hloop ho
    rw [map_some_eq_ok_iff] at h
    obtain ⟨hp, hopened⟩ := passes_of_walkEnd h
    rw [ho, ← workAhead_leave limit w _ _ _ fun _ _ _ _ => hloop _ _ _ _, hopened]
    exact lessWork_of_passes limit hp _

theorem lessWork_of_walkPartialBy {r : Renderer} {w w' : Walk} {tag : Tape} {m : Marker}
    {depth : Nat} {token : Token} {tail : List Node} (hrest : tag.rest = ⟨token, depth⟩ :: tail)
    (hw : tag.Passes w.tape) (h : w.walkPartialBy answers r tag m depth = .ok w') :
    LessWork (workAhead r.options.maxPartialDepth w'.tape w'.opened)
      (workAhead r.options.maxPartialDepth tag w.opened) := by
  simp only [walkPartialBy, bind_eq_ok_iff, attempt_eq_ok_iff] at h
  obtain ⟨⟨reference, tape⟩, hname, _, _, tape', hclose, nodes, hnodes, h⟩ := h
  simp only [pure, Except.pure, Except.ok.injEq] at h
  subst h
  simp only [includedBy, bind_eq_ok_iff] at hnodes
  obtain ⟨file, _, _, hdepth, tokens, _, hnodes⟩ := hnodes
  simp only [pure, Except.pure, Except.ok.injEq] at hnodes
  subst hnodes
  exact lessWork_splice hrest
    ((hw.trans (Tape.passes_of_takeName hname)).trans (Tape.passes_of_takeMarker hclose))
    (Renderer.checkDepth_eq_ok_iff.mp hdepth) tokens w.opened

/-- Each step of a walk makes the workload smaller. -/
theorem step_decreases {r : Renderer} {w w' : Walk} (h : w.step r = .ok (some w')) :
    LessWork (workAhead r.options.maxPartialDepth w'.tape w'.opened)
      (workAhead r.options.maxPartialDepth w.tape w.opened) := by
  simp only [step, stepBy] at h
  split at h
  · exact lessWork_of_endMessage _ h
  · rename_i hrest
    simp only [Except.ok.injEq, Option.some.injEq] at h
    subst h
    have hp : w.tape.Passes (w.tape.advance) := Tape.passes_advance (by simp [hrest])
    simpa [advance] using lessWork_of_passes _ hp w.opened
  · rename_i m depth tail hrest
    have hp : w.tape.Passes w.advance.tape := Tape.passes_advance (by simp [hrest])
    split at h
    · exact lessWork_of_endMessage _ h
    · simp at h
    · simp at h
    all_goals rw [map_some_eq_ok_iff] at h
    · obtain ⟨hp', hopened⟩ := passes_of_walkVariableBy h
      exact hopened.symm ▸ lessWork_of_passes _ (hp.trans hp') w.opened
    · obtain ⟨hp', hopened⟩ := passes_of_walkVariableBy h
      exact hopened.symm ▸ lessWork_of_passes _ (hp.trans hp') w.opened
    · obtain ⟨hp', hopened⟩ := passes_of_walkComment h
      exact hopened.symm ▸ lessWork_of_passes _ (hp.trans hp') w.opened
    · exact lessWork_of_walkPartialBy (w := w.advance) hrest hp h
    · exact lessWork_of_walkPartialBy (w := w.advance) hrest hp h
    all_goals exact (lessWork_of_walkSectionBy _ h).trans (lessWork_of_passes _ hp w.opened)

end Walk

end Mustache
