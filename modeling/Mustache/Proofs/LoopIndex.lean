import Mustache.Proofs.Tag
/-!
# The index in a loop

One index serves all loops. A loop sets it to the number of each pass when the pass begins, and to
zero when the loop ends. It is therefore the number of the running pass up to the first loop that
ends inside this pass, and zero from then on.

* `Walk.passes w`: the numbers of the passes that are running, the innermost first.
* `Walk.History r first w marks`: a run from `first` to `w`, with a mark for each running pass that
  says whether a loop inside this pass has ended.
* `index_in_pass`: the index is the number of the innermost running pass if and only if this number
  is zero or no loop has ended inside the pass.

The marks say more than the walk does, since a loop that has ended leaves no trace in it.
-/

namespace Mustache

/-- The number of the running pass, in a loop. -/
def Region.pass? : Region → Option Nat
  | .once _ _ => none
  | .loop _ pass _ => some pass

namespace Walk

variable {r : Renderer} {w w' first : Walk}

/-- The numbers of the running passes, the innermost first. -/
def passes (w : Walk) : List Nat := w.opened.filterMap fun s => s.region.pass?

/-- The marks after a step: a pass begins without a mark, and the end of a loop marks the pass
around it. -/
def marksAfter (before after : List Nat) (marks : List Bool) : List Bool :=
  if before.length < after.length then false :: marks
  else if after.length < before.length then
    match marks with
    | _ :: _ :: outer => true :: outer
    | _ => []
  else if after = before then marks
  else false :: marks.tail

/-- A run, with a mark for each running pass: whether a loop inside the pass has ended. -/
inductive History (r : Renderer) (first : Walk) : Walk → List Bool → Prop where
  /-- No step has been taken. -/
  | refl : History r first first []
  /-- One step more. -/
  | step {w w' : Walk} {marks : List Bool} (h : History r first w marks) (hnext : Next r w w') :
    History r first w' (marksAfter w.passes w'.passes marks)

theorem History.reaches {marks : List Bool} (h : History r first w marks) : Reaches r first w := by
  induction h with
  | refl => exact .refl first
  | step _ hnext ih => exact ih.tail hnext

theorem exists_history (h : Reaches r first w) : ∃ marks, History r first w marks := by
  induction h with
  | refl => exact ⟨[], .refl⟩
  | tail _ hnext ih =>
    obtain ⟨marks, h⟩ := ih
    exact ⟨_, h.step hnext⟩

/-! ### One step -/

/-- What a step does to the running passes and to the index. -/
inductive PassMove : List Nat → Nat → List Nat → Nat → Prop where
  /-- No loop is touched. -/
  | stay (passes : List Nat) (index : Nat) : PassMove passes index passes index
  /-- A loop begins. -/
  | begins (passes : List Nat) (index : Nat) : PassMove passes index (0 :: passes) 0
  /-- The innermost loop goes on to its next pass. -/
  | next (pass : Nat) (outer : List Nat) (index : Nat) :
    PassMove (pass :: outer) index ((pass + 1) :: outer) (pass + 1)
  /-- The innermost loop ends. -/
  | ends (pass : Nat) (outer : List Nat) (index : Nat) : PassMove (pass :: outer) index outer 0

theorem passes_emit (w : Walk) (text : String) : (w.emit text).passes = w.passes := by
  rw [passes, opened_emit]
  rfl

theorem passMove_enter (w : Walk) (m : Marker) (name : String) (lookup : Lookup) :
    PassMove w.passes w.scopes.index (w.enter m name lookup).passes
      (w.enter m name lookup).scopes.index := by
  unfold enter
  split
  · exact .begins w.passes w.scopes.index
  · exact .stay w.passes w.scopes.index
  · exact .stay w.passes w.scopes.index

theorem passMove_leave {name : String} {region : Region} {outer : List OpenSection}
    (ho : w.opened = ⟨name, region⟩ :: outer) :
    PassMove w.passes w.scopes.index (w.leave region outer).passes
      (w.leave region outer).scopes.index := by
  cases region with
  -- A section that is no loop takes its frame off, if it has one, and leaves the index.
  | once outerVisible framed =>
    have hpasses : (w.leave (.once outerVisible framed) outer).passes = w.passes := by
      rw [passes, passes, ho]
      rfl
    have hindex : (w.leave (.once outerVisible framed) outer).scopes.index = w.scopes.index := by
      cases framed with
      | false => rfl
      | true => exact w.scopes.index_drop
    rw [hpasses, hindex]
    exact .stay w.passes w.scopes.index
  | loop outerPassed pass remaining =>
    rw [passes, ho]
    exact .ends pass _ w.scopes.index

theorem passMove_of_next (h : Next r w w') :
    PassMove w.passes w.scopes.index w'.passes w'.scopes.index := by
  cases move_of_next h with
  | @text s =>
    have hpasses : (w.emit s).advance.passes = w.passes := passes_emit w s
    have hscopes : (w.emit s).advance.scopes = w.scopes := scopes_emit w s
    rw [hpasses, hscopes]
    exact .stay w.passes w.scopes.index
  | @print m name text =>
    rw [passes_emit, scopes_emit]
    exact .stay w.passes w.scopes.index
  | comment htag => exact .stay w.passes w.scopes.index
  | enter hm htag hname hlookup => exact passMove_enter w.skipTag _ _ _
  | splice hm htag hreference hnodes => exact .stay w.passes w.scopes.index
  | @nextPass name outerPassed pass v remaining outer hend ho =>
    rw [passes, ho]
    exact .next pass _ w.scopes.index
  | close htag ho hr => exact passMove_leave ho

/-! ### All steps -/

/-- The index that goes with the running passes and their marks. -/
def indexBy : List Nat → List Bool → Nat
  | pass :: _, false :: _ => pass
  | _, _ => 0

/-- There is a mark for each running pass, and the index goes with passes and marks. -/
structure Marked (passes : List Nat) (index : Nat) (marks : List Bool) : Prop where
  /-- A mark for each running pass. -/
  length : marks.length = passes.length
  /-- The index goes with them. -/
  index : index = indexBy passes marks

/-- **A step moves index and marks alike.** -/
theorem Marked.move {before after : List Nat} {i j : Nat} {marks : List Bool}
    (h : Marked before i marks) (hmove : PassMove before i after j) :
    Marked after j (marksAfter before after marks) := by
  have hlength := h.length
  cases hmove with
  | stay =>
    have hmarks : marksAfter before before marks = marks := by simp [marksAfter]
    rw [hmarks]
    exact h
  | begins =>
    have hmarks : marksAfter before (0 :: before) marks = false :: marks := by simp [marksAfter]
    rw [hmarks]
    exact ⟨by simp [hlength], rfl⟩
  | next pass outer =>
    have hmarks : marksAfter (pass :: outer) ((pass + 1) :: outer) marks = false :: marks.tail := by
      simp [marksAfter]
    rw [hmarks]
    exact ⟨by simp [hlength], rfl⟩
  | ends pass =>
    -- The pass around the loop that ends gets its mark, if there is such a pass.
    match marks, after, hlength with
    | [_], [], _ => exact ⟨rfl, rfl⟩
    | inner :: mark :: others, outerPass :: outer, hlength =>
      have hmarks : marksAfter (pass :: outerPass :: outer) (outerPass :: outer)
          (inner :: mark :: others) = true :: others := by
        simp [marksAfter]
      rw [hmarks]
      exact ⟨by simpa using hlength, rfl⟩

theorem History.marked {template : String} {context : Value} {marks : List Bool}
    (h : History r (start template context) w marks) : Marked w.passes w.scopes.index marks := by
  induction h with
  | refl => exact ⟨rfl, rfl⟩
  | step _ hnext ih => exact ih.move (passMove_of_next hnext)

/-- **The index in a loop.** In a running pass, the index is the number of the pass, unless a loop
has ended inside the pass; from then on it is zero. The names of the index and of the test for the
first position follow it. -/
theorem index_in_pass {template : String} {context : Value} {pass : Nat} {outer : List Nat}
    (h : Reaches r (start template context) w) (hpass : w.passes = pass :: outer) :
    (∃ marks, History r (start template context) w marks) ∧
      ∀ marks, History r (start template context) w marks →
        ∃ ended others, marks = ended :: others ∧
          w.scopes.index = (if ended then 0 else pass) ∧
          w.scopes.resolve indexName = .ok (.found (.number (.int w.scopes.index))) ∧
          w.scopes.resolve firstName = .ok (.found (.bool (ended || pass == 0))) ∧
          (w.scopes.index = pass ↔ pass = 0 ∨ ended = false) := by
  refine ⟨exists_history h, fun marks hmarks => ?_⟩
  obtain ⟨hlength, hindex⟩ := hmarks.marked
  rw [hpass] at hlength hindex
  match marks, hlength with
  | ended :: others, hlength =>
    have hif : w.scopes.index = if ended then 0 else pass := by
      cases ended <;> exact hindex
    have hfirst : w.scopes.resolve firstName = .ok (.found (.bool (w.scopes.index == 0))) := rfl
    refine ⟨ended, others, rfl, hif, rfl, ?_, ?_⟩
    · rw [hfirst, hif]
      cases ended <;> rfl
    · rw [hif]
      cases ended <;> simp [eq_comm]

/-- Two loops, one inside the other, and a tag behind the inner one that prints the index. -/
def indexBehindLoop : String :=
  "\x7b\x7b#a\x7d\x7d\x7b\x7b#b\x7d\x7d\x7b\x7b/b\x7d\x7d\x7b\x7b@index\x7d\x7d\x7b\x7b/a\x7d\x7d"

/-- Two elements with an array of one element each. -/
def pairOfArrays : Value :=
  .object [("a", .array [.object [("b", .array [.number (.int 0)])],
    .object [("b", .array [.number (.int 0)])]])]

/-- Behind the inner loop, in the second pass of the outer one. -/
theorem exists_behindLoop : ∃ w, Reaches ⟨(∅ : Store).loader, {}⟩
    (start indexBehindLoop pairOfArrays) w ∧ w.passes = [1] ∧ w.scopes.index = 0 := by
  have hwalk : ((start indexBehindLoop pairOfArrays).after ⟨(∅ : Store).loader, {}⟩ 14).map
      (fun w => (w.passes, w.scopes.index)) = some ([1], 0) := by decide +kernel
  obtain ⟨w, hw, heq⟩ := Option.map_eq_some_iff.mp hwalk
  obtain ⟨hpasses, hindex⟩ := Prod.mk.inj heq
  exact ⟨w, reaches_of_after hw, hpasses, hindex⟩

/-- A loop has ended there. -/
theorem marked_behindLoop : ∃ w, Reaches ⟨(∅ : Store).loader, {}⟩
    (start indexBehindLoop pairOfArrays) w ∧ w.passes = [1] ∧
      ∀ marks, History ⟨(∅ : Store).loader, {}⟩ (start indexBehindLoop pairOfArrays) w marks →
        ∃ others, marks = true :: others := by
  obtain ⟨w, hw, hpasses, hindex⟩ := exists_behindLoop
  refine ⟨w, hw, hpasses, fun marks hmarks => ?_⟩
  obtain ⟨ended, others, rfl, hif, -⟩ := (index_in_pass hw hpasses).2 marks hmarks
  rw [hindex] at hif
  cases ended with
  | true => exact ⟨others, rfl⟩
  | false => exact absurd hif (by decide)

/-- The index is not the number of the running pass in every walk. -/
theorem not_index_eq_pass :
    ¬ ∀ (r : Renderer) (template : String) (context : Value) (w : Walk) (pass : Nat)
      (outer : List Nat), Reaches r (start template context) w → w.passes = pass :: outer →
        w.scopes.index = pass := by
  intro h
  obtain ⟨w, hw, hpasses, hindex⟩ := exists_behindLoop
  have hone := h _ _ _ w 1 [] hw hpasses
  rw [hindex] at hone
  exact absurd hone (by decide)

end Walk

end Mustache
