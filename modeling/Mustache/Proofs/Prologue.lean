import Mustache.Proofs.Spacing
/-!
# What lies behind a walk

Tokens that have been passed outside of all loops are never walked over again, and what has been
written is never read. So a walk goes on in the same way whatever it has passed and written before.

* `p.place w` is the walk `w` with the prologue `p` behind it: the tokens of `p` passed before all
  others, and its text in front of what `w` has written.
* `step_place`: a step with the prologue is a step without it. The tokens need not read as a message;
  a failure with the prologue is the failure without it, with the text in front.
* `run_place`: a run with the prologue writes its text and then what the run without it writes.

Where the tokens of the prologue are kept depends on the open sections. If there is a loop among
them, the outermost one has put them aside; otherwise they are the last of the tokens passed.
-/

namespace Mustache

/-- What a walk has behind it. -/
structure Prologue where
  /-- The tokens passed, the nearest first. -/
  passed : List Node
  /-- What has been written. -/
  output : String

namespace Prologue

open Walk

variable (p : Prologue)

/-- The tokens passed in the innermost running pass or, outside of all loops, all tokens passed. Only
the latter have the prologue behind them. -/
def passedWith (passed : List Node) : List OpenSection → List Node
  | [] => passed ++ p.passed
  | ⟨_, .once _ _⟩ :: outer => passedWith passed outer
  | ⟨_, .loop _ _ _⟩ :: _ => passed

/-- A section inside of others, with the prologue behind the tokens that it has put aside. -/
def regionWith (region : Region) (outer : List OpenSection) : Region :=
  match region with
  | .once outerVisible framed => .once outerVisible framed
  | .loop outerPassed pass remaining => .loop (p.passedWith outerPassed outer) pass remaining

/-- The open sections, with the prologue behind what they have put aside. -/
def openedWith : List OpenSection → List OpenSection
  | [] => []
  | ⟨name, region⟩ :: outer => ⟨name, p.regionWith region outer⟩ :: openedWith outer

/-- A tape inside open sections, with the prologue behind it. -/
def extend (opened : List OpenSection) (t : Tape) : Tape := ⟨p.passedWith t.passed opened, t.rest⟩

/-- The walk with the prologue behind it. -/
def place (w : Walk) : Walk where
  tape := p.extend w.opened w.tape
  scopes := w.scopes
  visible := w.visible
  output := p.output ++ w.output
  opened := p.openedWith w.opened

/-- What comes out behind the prologue. -/
def lift {α : Type} (x : Except RenderFailure α) : Except RenderFailure α :=
  x.mapError (·.after p.output)

variable {r : Renderer} {w : Walk} {m : Marker} {name : String} {d : Nat} {tail : List Node}

@[simp] theorem lift_ok {α : Type} (a : α) : p.lift (.ok a) = .ok a := rfl

@[simp] theorem lift_error {α : Type} (f : RenderFailure) :
    p.lift (.error f : Except RenderFailure α) = .error (f.after p.output) := rfl

theorem passedWith_append (a b : List Node) (opened : List OpenSection) :
    p.passedWith (a ++ b) opened = a ++ p.passedWith b opened := by
  induction opened with
  | nil => exact List.append_assoc a b p.passed
  | cons s outer ih =>
    obtain ⟨name, region⟩ := s
    cases region with
    | once outerVisible framed => exact ih
    | loop outerPassed pass remaining => rfl

theorem isDone_regionWith {region : Region} (h : region.IsDone) (outer : List OpenSection) :
    (p.regionWith region outer).IsDone := by
  cases region with
  | once outerVisible framed => trivial
  | loop outerPassed pass remaining => exact h

theorem opened_place {region : Region} {outer : List OpenSection}
    (ho : w.opened = ⟨name, region⟩ :: outer) :
    (p.place w).opened = ⟨name, p.regionWith region outer⟩ :: p.openedWith outer := by
  rw [place, ho]
  rfl

/-! ### Parts of a step -/

theorem attempt_place {α : Type} (w : Walk) (x : Except RenderError α) :
    (p.place w).attempt x = p.lift (w.attempt x) := by
  cases x <;> rfl

theorem emit_place (w : Walk) (text : String) :
    (p.place w).emit text = p.place (w.emit text) := by
  by_cases h : w.visible <;> simp [Walk.emit, place, h, String.append_assoc]

theorem variableText_place (w : Walk) (m : Marker) (name : String) :
    (p.place w).variableText m name = w.variableText m name := rfl

theorem included_place (w : Walk) (m : Marker) (d : Nat) (reference : String) :
    (p.place w).included r m d reference = w.included r m d reference := rfl

theorem advance_extend (t : Tape) (opened : List OpenSection) :
    (p.extend opened t).advance = p.extend opened t.advance := by
  obtain ⟨passed, rest⟩ := t
  cases rest with
  | nil => rfl
  | cons node rest =>
    have hpassed := p.passedWith_append [node] passed opened
    simp only [List.singleton_append] at hpassed
    simp [Tape.advance, extend, hpassed]

theorem advance_place (w : Walk) : (p.place w).advance = p.place w.advance := by
  have htape := p.advance_extend w.tape w.opened
  simp only [Walk.advance, place, htape]

theorem skipName_place (w : Walk) : (p.place w).skipName = p.place w.skipName := by
  rw [skipName, advance_place, advance_place]
  rfl

theorem takeMarker_extend (t : Tape) (opened : List OpenSection) (m : Marker) :
    (p.extend opened t).takeMarker m = p.extend opened <$> t.takeMarker m := by
  obtain ⟨passed, rest⟩ := t
  match rest with
  | [] => rfl
  | ⟨.text _, _⟩ :: _ => rfl
  | ⟨.marker found, d⟩ :: rest =>
    simp only [Tape.takeMarker, extend]
    split
    · exact congrArg Except.ok (p.advance_extend ⟨passed, _⟩ opened)
    · rfl

theorem close_place (w : Walk) (m : Marker) :
    (p.place w).close m = p.place <$> p.lift (w.close m) := by
  have htake : (p.place w).tape.takeMarker m = p.extend w.opened <$> w.tape.takeMarker m :=
    p.takeMarker_extend w.tape w.opened m
  rw [close, close, htake, attempt_place]
  cases w.tape.takeMarker m <;> rfl

theorem enter_place (w : Walk) (m : Marker) (name : String) (lookup : Lookup) :
    (p.place w).enter m name lookup = p.place (w.enter m name lookup) := by
  unfold Walk.enter
  split
  · rfl
  · rfl
  · rfl

theorem leave_place {region : Region} {outer : List OpenSection}
    (ho : w.opened = ⟨name, region⟩ :: outer) :
    (p.place w).leave (p.regionWith region outer) (p.openedWith outer) =
      p.place (w.leave region outer) := by
  cases region with
  | once outerVisible framed =>
    simp only [Walk.leave, place, regionWith, extend, ho, passedWith]
  | loop outerPassed pass remaining =>
    simp only [Walk.leave, place, regionWith, extend, ho, passedWith, passedWith_append]

/-! ### Steps -/

theorem step_place_of_opensVariable (h : w.AtName m name d tail) (hm : m.opensVariable) :
    (p.place w).step r = Option.map p.place <$> p.lift (w.step r) := by
  -- What is ahead is the same on both sides, so one equation opens both steps.
  have hplaced : (p.place w).AtName m name d tail := h
  rw [hplaced.step_variable hm, h.step_variable hm]
  simp only [attempt_place, variableText_place, skipName_place, emit_place, close_place]
  cases checkTagName name with
  | error e => rfl
  | ok u =>
    cases w.variableText m name with
    | error e => rfl
    | ok text =>
      simp only [attempt_ok, lift_ok, ok_bind]
      cases (w.skipName.emit text).close m.closing <;> rfl

theorem step_place_of_comment (h : w.AtName .comment name d tail) :
    (p.place w).step r = Option.map p.place <$> p.lift (w.step r) := by
  have hplaced : (p.place w).AtName .comment name d tail := h
  rw [hplaced.step_comment, h.step_comment, skipName_place, close_place]
  cases w.skipName.close .close <;> rfl

theorem step_place_of_opensSection (h : w.AtName m name d tail) (hm : m.opensSection) :
    (p.place w).step r = Option.map p.place <$> p.lift (w.step r) := by
  have hplaced : (p.place w).AtName m name d tail := h
  -- The prologue has no frames, so the value is looked up where it was.
  have hscopes : (p.place w).scopes = w.scopes := rfl
  rw [hplaced.step_section hm, h.step_section hm]
  simp only [attempt_place, skipName_place, close_place, hscopes]
  cases checkTagName name with
  | error e => rfl
  | ok u =>
    cases w.scopes.resolve name with
    | error e => rfl
    | ok lookup =>
      simp only [attempt_ok, lift_ok, ok_bind]
      cases w.skipName.close .close with
      | error f => rfl
      | ok closed => simp [enter_place]

theorem step_place_of_opensPartial (h : w.AtName m name d tail) (hm : m.opensPartial) :
    (p.place w).step r = Option.map p.place <$> p.lift (w.step r) := by
  have hplaced : (p.place w).AtName m name d tail := h
  rw [hplaced.step_partial hm, h.step_partial hm]
  simp only [attempt_place, skipName_place, close_place, included_place]
  cases checkReference name with
  | error e => rfl
  | ok u =>
    simp only [attempt_ok, lift_ok, ok_bind]
    cases w.skipName.close .close with
    | error f => rfl
    | ok closed =>
      -- The tag goes, and what has been passed in front of it stays.
      cases w.included r m d name with
      | error e => rfl
      | ok nodes => rfl

theorem step_place_of_atEnd (hspaced : Spaced (Node.tokens w.tape.rest)) (h : w.AtEnd) :
    (p.place w).step r = Option.map p.place <$> p.lift (w.step r) := by
  have hplaced : (p.place w).AtEnd := h
  match ho : w.opened with
  | [] =>
    have hopened : (p.place w).opened = [] := by
      rw [place, ho]
      rfl
    obtain hrest | ⟨d, tail, hrest⟩ := h
    · rw [step_end hrest ho, step_end (w := p.place w) hrest hopened]
      rfl
    · rw [step_unopened hrest ho, step_unopened (w := p.place w) hrest hopened]
      rfl
  | ⟨name, region⟩ :: outer =>
    have hopened := p.opened_place ho
    obtain hdone | ⟨outerPassed, pass, v, remaining, rfl⟩ := region.isDone_or
    · have hdone' := p.isDone_regionWith hdone outer
      obtain hrest | ⟨d, tail, hrest⟩ := h
      · rw [step_unclosed hrest ho hdone, step_unclosed (w := p.place w) hrest hopened hdone']
        rfl
      -- The section is left first; what it has put aside comes back with the prologue behind it.
      · obtain ⟨found, tail', hname⟩ := atName_of_spaced hspaced hrest
        have hname' : (p.place w).AtName .sectionClose found d tail' := hname
        rw [hname.step_close ho hdone, hname'.step_close hopened hdone', p.leave_place ho]
        simp only [attempt_place, skipName_place, close_place]
        cases checkEndName name found with
        | error e => rfl
        | ok u =>
          simp only [attempt_ok, lift_ok, ok_bind]
          cases (w.leave region outer).skipName.close .close <;> rfl
    -- The tokens of this pass are ahead once more; those of the prologue are not among them.
    · rw [step_nextPass h ho, step_nextPass hplaced hopened]
      simp only [nextPass, place, extend, ho, passedWith]
      rfl

/-- **A step with the prologue is a step without it.** -/
theorem step_place (hspaced : Spaced (Node.tokens w.tape.rest)) :
    (p.place w).step r = Option.map p.place <$> p.lift (w.step r) := by
  match hrest : w.tape.rest with
  | [] => exact p.step_place_of_atEnd hspaced (.inl hrest)
  | ⟨.text s, d⟩ :: tail =>
    have hplaced : (p.place w).tape.rest = ⟨.text s, d⟩ :: tail := hrest
    rw [step_text hrest, step_text hplaced, emit_place, advance_place]
    rfl
  | ⟨.marker m, d⟩ :: tail =>
    have hplaced : (p.place w).tape.rest = ⟨.marker m, d⟩ :: tail := hrest
    obtain ⟨name, tail', hname⟩ := atName_of_spaced hspaced hrest
    have hclose (hm : m.isClose) :
        (p.place w).step r = Option.map p.place <$> p.lift (w.step r) := by
      rw [step_unexpected hm hrest, step_unexpected hm hplaced]
      rfl
    cases m with
    | sectionClose => exact p.step_place_of_atEnd hspaced (.inr ⟨d, tail, hrest⟩)
    | close | closeUnescaped => exact hclose rfl
    | escaped | unescaped => exact p.step_place_of_opensVariable hname rfl
    | comment => exact p.step_place_of_comment hname
    | sectionOpen | shownIf | shownUnless | shownIfFound =>
      exact p.step_place_of_opensSection hname rfl
    | partialTag | partialByVariable => exact p.step_place_of_opensPartial hname rfl

/-! ### Runs -/

/-- **A run with the prologue writes its text first.** -/
theorem run_place (hspaced : Spaced (Node.tokens w.stream)) :
    (p.place w).run r = (p.output ++ ·) <$> p.lift (w.run r) := by
  induction w using run.induct r with
  | case1 w next hnext ih =>
    rw [run_of_next hnext, ← ih (spaced_stream_next hspaced hnext)]
    refine run_of_next ?_
    rw [p.step_place (spaced_rest hspaced), hnext]
    rfl
  | case2 w hend =>
    rw [run_of_end hend]
    refine run_of_end ?_
    rw [p.step_place (spaced_rest hspaced), hend]
    rfl
  | case3 w f hf =>
    rw [run_of_failure hf]
    refine run_of_failure ?_
    rw [p.step_place (spaced_rest hspaced), hf]
    rfl

end Prologue

end Mustache
