import Mustache.Proofs.Run
/-!
# Steps over whole tags

A tag is whole if its marker is followed by a text and then by the marker that closes it
(`Walk.AtTag`). This file says what one step does in front of a text, a whole tag and the end of a
message, so that no other file has to open the definition of a step.

* Forwards, one equation for each kind of tag: `step_text`, `step_variable`, `step_comment`,
  `step_section`, `step_partial`, `step_nextPass`, `step_close`, `step_end`. They give the errors as
  well. Where the closing marker may be missing (`Walk.AtName`), there are equations of the same
  names below `AtName`.
* Backwards, `Walk.Move` lists what a step that goes on can have been, and `move_of_next` says that
  there is nothing else. In particular a walk only goes on over whole tags.

The tags come in families (`Marker.opensVariable`, `Marker.opensSection`, `Marker.opensPartial`),
and each family has one equation.
-/

namespace Mustache

/-! ### Families of tags -/

namespace Marker

/-- Whether the marker opens a variable tag. -/
def opensVariable : Marker → Bool
  | escaped | unescaped => true
  | _ => false

/-- Whether the marker opens the first tag of a section. -/
def opensSection : Marker → Bool
  | sectionOpen | shownIf | shownUnless | shownIfFound => true
  | _ => false

/-- Whether the marker opens a tag that includes a partial. -/
def opensPartial : Marker → Bool
  | partialTag | partialByVariable => true
  | _ => false

/-- The tokens of a whole tag. -/
def tag (m : Marker) (text : String) : List Token :=
  [.marker m, .text text, .marker m.closing]

theorem opensPartial_of_opensVariable {m : Marker} (hm : m.opensVariable) :
    m.opensPartial = false := by
  cases m <;> simp_all [opensVariable, opensPartial]

theorem opensPartial_of_opensSection {m : Marker} (hm : m.opensSection) :
    m.opensPartial = false := by
  cases m <;> simp_all [opensSection, opensPartial]

theorem closing_of_opensSection {m : Marker} (hm : m.opensSection) : m.closing = .close := by
  cases m <;> simp_all [opensSection, closing]

theorem closing_of_opensPartial {m : Marker} (hm : m.opensPartial) : m.closing = .close := by
  cases m <;> simp_all [opensPartial, closing]

end Marker

namespace Scopes

/-- Taking the top frame off does not touch the index. -/
theorem index_drop (s : Scopes) : s.drop.index = s.index := by
  obtain ⟨top, below, index⟩ := s
  cases below <;> rfl

@[simp] theorem drop_setIndex (s : Scopes) (index : Nat) :
    (s.setIndex index).drop = s.drop.setIndex index := by
  obtain ⟨top, below, _⟩ := s
  cases below <;> rfl

@[simp] theorem setIndex_setIndex (s : Scopes) (index index' : Nat) :
    (s.setIndex index).setIndex index' = s.setIndex index' := rfl

@[simp] theorem setIndex_self (s : Scopes) : s.setIndex s.index = s := rfl

end Scopes

/-- The body of the section has been walked for the last time, once its end is reached. -/
def Region.IsDone : Region → Prop
  | .once _ _ => True
  | .loop _ _ remaining => remaining = []

/-- At the end of its body a section is walked once more, or left. -/
theorem Region.isDone_or (region : Region) : region.IsDone ∨
    ∃ outerPassed pass v remaining, region = .loop outerPassed pass (v :: remaining) := by
  match region with
  | .once _ _ => exact .inl trivial
  | .loop _ _ [] => exact .inl rfl
  | .loop _ _ (_ :: _) => exact .inr ⟨_, _, _, _, rfl⟩

/-! ### Taking names and markers -/

namespace Node

@[simp] theorem ofTokens_nil (d : Nat) : ofTokens d [] = [] := rfl

@[simp] theorem ofTokens_cons (d : Nat) (t : Token) (ts : List Token) :
    ofTokens d (t :: ts) = ⟨t, d⟩ :: ofTokens d ts := rfl

@[simp] theorem ofTokens_append (d : Nat) (ts us : List Token) :
    ofTokens d (ts ++ us) = ofTokens d ts ++ ofTokens d us := List.map_append

end Node

namespace Tape

variable {t t' : Tape} {m : Marker} {name : String} {node : Node} {d : Nat} {tail : List Node}

theorem rest_advance (h : t.rest = node :: tail) : t.advance.rest = tail := by
  simp only [advance, h]

theorem takeName_of_text (h : t.rest = ⟨.text name, d⟩ :: tail) :
    t.takeName m = .ok (name, t.advance) := by
  simp only [takeName, h]

theorem takeMarker_of_marker (h : t.rest = ⟨.marker m, d⟩ :: tail) :
    t.takeMarker m = .ok t.advance := by
  simp only [takeMarker, h, if_pos]

theorem takeName_eq_ok_iff :
    t.takeName m = .ok (name, t') ↔
      (∃ d tail, t.rest = ⟨.text name, d⟩ :: tail) ∧ t' = t.advance := by
  constructor
  · intro h
    simp only [takeName] at h
    split at h
    · simp at h
    · rename_i hrest
      simp only [Except.ok.injEq, Prod.mk.injEq] at h
      obtain ⟨rfl, rfl⟩ := h
      exact ⟨⟨_, _, hrest⟩, rfl⟩
    · simp at h
  · rintro ⟨⟨d, tail, hrest⟩, rfl⟩
    exact takeName_of_text hrest

theorem takeMarker_eq_ok_iff :
    t.takeMarker m = .ok t' ↔ (∃ d tail, t.rest = ⟨.marker m, d⟩ :: tail) ∧ t' = t.advance := by
  constructor
  · intro h
    simp only [takeMarker] at h
    split at h
    · rename_i found d tail hrest
      split at h
      · rename_i hfound
        simp only [Except.ok.injEq] at h
        exact ⟨⟨d, tail, hfound ▸ hrest⟩, h.symm⟩
      · simp at h
    · simp at h
  · rintro ⟨⟨d, tail, hrest⟩, rfl⟩
    exact takeMarker_of_marker hrest

end Tape

namespace Walk

variable {r : Renderer} {w w' : Walk} {m : Marker} {name : String} {d : Nat} {tail : List Node}
  {region : Region} {outer : List OpenSection} {answers : Answers}

/-- The walk stands in front of the marker `m` with a text behind it, as at the start of a tag. -/
def AtName (w : Walk) (m : Marker) (name : String) (depth : Nat) (tail : List Node) : Prop :=
  ∃ d₂, w.tape.rest = ⟨.marker m, depth⟩ :: ⟨.text name, d₂⟩ :: tail

/-- The walk stands in front of a whole tag: its marker `m`, a text and the closing marker. -/
def AtTag (w : Walk) (m : Marker) (name : String) (depth : Nat) (tail : List Node) : Prop :=
  ∃ d₂ d₃, w.tape.rest =
    ⟨.marker m, depth⟩ :: ⟨.text name, d₂⟩ :: ⟨.marker m.closing, d₃⟩ :: tail

/-- The walk stands where a message ends: at the end of the tokens, or at the end tag of a
section. -/
def AtEnd (w : Walk) : Prop :=
  w.tape.rest = [] ∨ ∃ d tail, w.tape.rest = ⟨.marker .sectionClose, d⟩ :: tail

/-- The walk past the marker and the name of a tag. -/
def skipName (w : Walk) : Walk := w.advance.advance

/-- The walk past a whole tag. -/
def skipTag (w : Walk) : Walk := w.advance.advance.advance

/-- Walks past marker `m`, which has to come next. -/
def close (w : Walk) (m : Marker) : Except RenderFailure Walk := do
  let tape ← w.attempt (w.tape.takeMarker m)
  return { w with tape }

theorem AtTag.atEnd (h : w.AtTag .sectionClose name d tail) : w.AtEnd := by
  obtain ⟨d₂, d₃, h⟩ := h
  exact .inr ⟨d, _, h⟩

theorem AtTag.atName (h : w.AtTag m name d tail) :
    ∃ d₃, w.AtName m name d (⟨.marker m.closing, d₃⟩ :: tail) := by
  obtain ⟨d₂, d₃, h⟩ := h
  exact ⟨d₃, d₂, h⟩

theorem AtName.rest_skipName (h : w.AtName m name d tail) : w.skipName.tape.rest = tail := by
  obtain ⟨d₂, h⟩ := h
  exact Tape.rest_advance (Tape.rest_advance h)

theorem close_of_marker (h : w.tape.rest = ⟨.marker m, d⟩ :: tail) : w.close m = .ok w.advance := by
  rw [close, Tape.takeMarker_of_marker h]
  rfl

theorem close_of_ne (h : ∀ d tail, w.tape.rest ≠ ⟨.marker m, d⟩ :: tail) :
    w.close m = .error (w.failure (.missing m)) := by
  have htake : w.tape.takeMarker m = .error (.missing m) := by
    rw [Tape.takeMarker]
    split
    · rename_i found d tail hrest
      refine if_neg ?_
      rintro rfl
      exact h d tail hrest
    · rfl
  rw [close, htake]
  rfl

/-- Behind the name of a whole tag there is the marker that closes it. -/
theorem AtTag.close_skipName (h : w.AtTag m name d tail) :
    w.skipName.close m.closing = .ok w.skipTag := by
  obtain ⟨d₃, h⟩ := h.atName
  exact close_of_marker h.rest_skipName

/-! ### Steps from the name of a tag on -/

@[simp] theorem attempt_advance {α : Type} (w : Walk) (x : Except RenderError α) :
    w.advance.attempt x = w.attempt x := rfl

@[simp] theorem scopes_emit (w : Walk) (text : String) : (w.emit text).scopes = w.scopes := by
  unfold emit
  split <;> rfl

@[simp] theorem visible_emit (w : Walk) (text : String) : (w.emit text).visible = w.visible := by
  unfold emit
  split <;> rfl

theorem emit_empty (w : Walk) : w.emit "" = w := by
  unfold emit
  split
  · rw [String.append_empty]
  · rfl

theorem emit_tape (w : Walk) (t : Tape) (text : String) :
    { w.emit text with tape := t } = ({ w with tape := t } : Walk).emit text := by
  simp only [emit]
  split <;> rfl

theorem advance_emit (w : Walk) (text : String) : (w.emit text).advance = w.advance.emit text := by
  rw [advance, tape_emit, emit_tape]
  rfl

theorem step_text {s : String} (h : w.tape.rest = ⟨.text s, d⟩ :: tail) :
    w.step r = .ok (some (w.emit s).advance) := by
  simp only [step, stepBy, h]

theorem AtName.stepBy_variable (hm : m.opensVariable) (h : w.AtName m name d tail) :
    w.stepBy answers r = some <$> (do
      w.attempt (checkTagName name)
      let text ← w.attempt (w.variableTextBy answers m name)
      (w.skipName.emit text).close m.closing) := by
  obtain ⟨d₂, h⟩ := h
  -- Both markers of the family are handed to the same production.
  have hstep : w.stepBy answers r = some <$> w.advance.walkVariableBy answers m := by
    cases m <;> simp_all [Marker.opensVariable, stepBy]
  have hname := Tape.rest_advance h
  rw [hstep, walkVariableBy]
  simp only [advance, Tape.takeName_of_text hname, attempt_ok, ok_bind]
  rfl

theorem AtName.step_variable (hm : m.opensVariable) (h : w.AtName m name d tail) :
    w.step r = some <$> (do
      w.attempt (checkTagName name)
      let text ← w.attempt (w.variableText m name)
      (w.skipName.emit text).close m.closing) :=
  h.stepBy_variable hm

theorem AtName.step_comment (h : w.AtName .comment name d tail) :
    w.step r = some <$> w.skipName.close .close := by
  obtain ⟨d₂, h⟩ := h
  have hstep : w.step r = some <$> w.advance.walkComment := by
    simp only [step, stepBy, h]
  have hname := Tape.rest_advance h
  rw [hstep, walkComment]
  simp only [advance, Tape.takeName_of_text hname, attempt_ok, ok_bind]
  rfl

theorem AtName.stepBy_section (hm : m.opensSection) (h : w.AtName m name d tail) :
    w.stepBy answers r = some <$> (do
      w.attempt (checkTagName name)
      let lookup ← w.attempt (answers w.scopes name)
      return (← w.skipName.close .close).enter m name lookup) := by
  obtain ⟨d₂, h⟩ := h
  have hstep : w.stepBy answers r = some <$> w.advance.walkSectionBy answers m := by
    cases m <;> simp_all [Marker.opensSection, stepBy]
  have hname := Tape.rest_advance h
  rw [hstep, walkSectionBy]
  simp only [advance, Tape.takeName_of_text hname, attempt_ok, ok_bind, close, bind_assoc]
  rfl

theorem AtName.step_section (hm : m.opensSection) (h : w.AtName m name d tail) :
    w.step r = some <$> (do
      w.attempt (checkTagName name)
      let lookup ← w.attempt (w.scopes.resolve name)
      return (← w.skipName.close .close).enter m name lookup) :=
  h.stepBy_section hm

theorem AtName.stepBy_partial (hm : m.opensPartial) (h : w.AtName m name d tail) :
    w.stepBy answers r = some <$> (do
      w.attempt (checkReference name)
      let closed ← w.skipName.close .close
      let nodes ← w.attempt (w.includedBy answers r m d name)
      return { w with tape := ⟨w.tape.passed, nodes ++ closed.tape.rest⟩ }) := by
  obtain ⟨d₂, h⟩ := h
  have hstep : w.stepBy answers r = some <$> w.advance.walkPartialBy answers r w.tape m d := by
    cases m <;> simp_all [Marker.opensPartial, stepBy]
  have hname := Tape.rest_advance h
  rw [hstep, walkPartialBy]
  simp only [advance, Tape.takeName_of_text hname, attempt_ok, ok_bind, close, bind_assoc]
  rfl

theorem AtName.step_partial (hm : m.opensPartial) (h : w.AtName m name d tail) :
    w.step r = some <$> (do
      w.attempt (checkReference name)
      let closed ← w.skipName.close .close
      let nodes ← w.attempt (w.included r m d name)
      return { w with tape := ⟨w.tape.passed, nodes ++ closed.tape.rest⟩ }) :=
  h.stepBy_partial hm

/-! ### Steps where a message ends -/

theorem step_of_atEnd (h : w.AtEnd) : w.step r = w.endMessage := by
  obtain h | ⟨d, tail, h⟩ := h <;> simp only [step, stepBy, h]

theorem step_end (h : w.tape.rest = []) (ho : w.opened = []) : w.step r = .ok none := by
  simp [step_of_atEnd (.inl h), endMessage, h, ho]

theorem endMessage_of_isDone (ho : w.opened = ⟨name, region⟩ :: outer) (hr : region.IsDone) :
    w.endMessage = some <$> (w.leave region outer).walkEnd name := by
  rw [endMessage, ho]
  cases region with
  | once outerVisible framed => rfl
  | loop outerPassed pass remaining =>
    obtain rfl : remaining = [] := hr
    rfl

theorem rest_leave (w : Walk) (region : Region) (outer : List OpenSection) :
    (w.leave region outer).tape.rest = w.tape.rest := by
  cases region <;> rfl

theorem attempt_leave {α : Type} (w : Walk) (region : Region) (outer : List OpenSection)
    (x : Except RenderError α) : (w.leave region outer).attempt x = w.attempt x := by
  cases region <;> rfl

/-- An end tag without a section. -/
theorem step_unopened (h : w.tape.rest = ⟨.marker .sectionClose, d⟩ :: tail) (ho : w.opened = []) :
    w.step r = .error (w.failure (.unexpected .sectionClose)) := by
  simp [step_of_atEnd (.inr ⟨d, tail, h⟩), endMessage, h, ho]

/-- A tag that starts with the marker that closes one. -/
theorem step_unexpected (hm : m.isClose) (h : w.tape.rest = ⟨.marker m, d⟩ :: tail) :
    w.step r = .error (w.failure (.unexpected m)) := by
  cases m <;> simp_all [Marker.isClose, step, stepBy]

/-- A section that the template does not close. -/
theorem step_unclosed (h : w.tape.rest = []) (ho : w.opened = ⟨name, region⟩ :: outer)
    (hr : region.IsDone) : w.step r = .error (w.failure (.missing .sectionClose)) := by
  -- The section is left before its end tag turns out to be missing.
  have htake : (w.leave region outer).tape.takeMarker .sectionClose =
      .error (.missing .sectionClose) := by
    rw [Tape.takeMarker, rest_leave, h]
  rw [step_of_atEnd (.inl h), endMessage_of_isDone ho hr, walkEnd, htake, attempt_leave]
  rfl

theorem step_nextPass {outerPassed : List Node} {pass : Nat} {v : Value} {remaining : List Value}
    (h : w.AtEnd) (ho : w.opened = ⟨name, .loop outerPassed pass (v :: remaining)⟩ :: outer) :
    w.step r = .ok (some (w.nextPass name outerPassed (pass + 1) v remaining outer)) := by
  rw [step_of_atEnd h, endMessage, ho]

theorem AtName.leave (h : w.AtName m name d tail) (region : Region) (outer : List OpenSection) :
    (w.leave region outer).AtName m name d tail := by
  rw [AtName, rest_leave]
  exact h

theorem AtTag.leave (h : w.AtTag m name d tail) (region : Region) (outer : List OpenSection) :
    (w.leave region outer).AtTag m name d tail := by
  rw [AtTag, rest_leave]
  exact h

theorem AtName.step_close {found : String} (h : w.AtName .sectionClose found d tail)
    (ho : w.opened = ⟨name, region⟩ :: outer) (hr : region.IsDone) :
    w.step r = some <$> (do
      w.attempt (checkEndName name found)
      (w.leave region outer).skipName.close .close) := by
  obtain ⟨d₂, hopen⟩ := h.leave region outer
  obtain ⟨d₂, h⟩ := h
  rw [step_of_atEnd (.inr ⟨d, _, h⟩), endMessage_of_isDone ho hr, walkEnd]
  have hname := Tape.rest_advance hopen
  simp only [Tape.takeMarker_of_marker hopen, Tape.takeName_of_text hname, attempt_ok, ok_bind,
    attempt_leave]
  -- An error bears the text written so far, which leaving the section does not change.
  simp only [close, skipName, advance, ← attempt_leave w region outer]
  rfl

/-! ### Steps over whole tags -/

theorem step_variable (hm : m.opensVariable) (h : w.AtTag m name d tail) :
    w.step r = some <$> (do
      w.attempt (checkTagName name)
      let text ← w.attempt (w.variableText m name)
      return w.skipTag.emit text) := by
  -- The value is written before the closing marker is passed.
  have hclose (text : String) : (w.skipName.emit text).close m.closing =
      .ok (w.skipTag.emit text) := by
    obtain ⟨d₃, h⟩ := h.atName
    have hrest : (w.skipName.emit text).tape.rest = ⟨.marker m.closing, d₃⟩ :: tail := by
      rw [tape_emit, h.rest_skipName]
    rw [close_of_marker hrest, advance_emit]
    rfl
  obtain ⟨d₃, hname⟩ := h.atName
  rw [hname.step_variable hm]
  simp only [hclose]
  rfl

theorem step_comment (h : w.AtTag .comment name d tail) : w.step r = .ok (some w.skipTag) := by
  have hclose := h.close_skipName
  obtain ⟨d₃, h⟩ := h.atName
  rw [h.step_comment, ← map_ok]
  exact congrArg (some <$> ·) hclose

theorem step_section (hm : m.opensSection) (h : w.AtTag m name d tail) :
    w.step r = some <$> (do
      w.attempt (checkTagName name)
      let lookup ← w.attempt (w.scopes.resolve name)
      return w.skipTag.enter m name lookup) := by
  have hclose := h.close_skipName
  obtain ⟨d₃, h⟩ := h.atName
  rw [Marker.closing_of_opensSection hm] at hclose
  simp only [h.step_section hm, hclose, ok_bind]

theorem step_partial (hm : m.opensPartial) (h : w.AtTag m name d tail) :
    w.step r = some <$> (do
      w.attempt (checkReference name)
      let nodes ← w.attempt (w.included r m d name)
      return { w with tape := ⟨w.tape.passed, nodes ++ tail⟩ }) := by
  have hclose := h.close_skipName
  obtain ⟨d₃, h⟩ := h.atName
  rw [Marker.closing_of_opensPartial hm] at hclose
  have htail : w.skipTag.tape.rest = tail := Tape.rest_advance h.rest_skipName
  simp only [h.step_partial hm, hclose, ok_bind, htail]

theorem step_close {found : String} (h : w.AtTag .sectionClose found d tail)
    (ho : w.opened = ⟨name, region⟩ :: outer) (hr : region.IsDone) :
    w.step r = some <$> (do
      w.attempt (checkEndName name found)
      return (w.leave region outer).skipTag) := by
  have hclose := (h.leave region outer).close_skipName
  obtain ⟨d₃, h⟩ := h.atName
  rw [h.step_close ho hr]
  exact congrArg (fun c => some <$> (w.attempt (checkEndName name found) >>= fun _ => c)) hclose

/-! ### What a step can have been -/

/-- The steps that go on. -/
inductive Move (r : Renderer) (w : Walk) : Walk → Prop where
  /-- Over a text. -/
  | text {s : String} {d : Nat} {tail : List Node} (h : w.tape.rest = ⟨.text s, d⟩ :: tail) :
    Move r w (w.emit s).advance
  /-- Over a variable tag. -/
  | print {m : Marker} {name text : String} {d : Nat} {tail : List Node}
    (hm : m.opensVariable) (h : w.AtTag m name d tail) (hname : checkTagName name = .ok ())
    (htext : w.variableText m name = .ok text) : Move r w (w.skipTag.emit text)
  /-- Over a comment. -/
  | comment {text : String} {d : Nat} {tail : List Node} (h : w.AtTag .comment text d tail) :
    Move r w w.skipTag
  /-- Into a section. -/
  | enter {m : Marker} {name : String} {lookup : Lookup} {d : Nat} {tail : List Node}
    (hm : m.opensSection) (h : w.AtTag m name d tail) (hname : checkTagName name = .ok ())
    (hlookup : w.scopes.resolve name = .ok lookup) : Move r w (w.skipTag.enter m name lookup)
  /-- A partial takes the place of its tag. -/
  | splice {m : Marker} {reference : String} {d : Nat} {tail nodes : List Node}
    (hm : m.opensPartial) (h : w.AtTag m reference d tail)
    (hreference : checkReference reference = .ok ())
    (hnodes : w.included r m d reference = .ok nodes) :
    Move r w { w with tape := ⟨w.tape.passed, nodes ++ tail⟩ }
  /-- Back to where the body of a loop began. -/
  | nextPass {name : String} {outerPassed : List Node} {pass : Nat} {v : Value}
    {remaining : List Value} {outer : List OpenSection} (h : w.AtEnd)
    (ho : w.opened = ⟨name, .loop outerPassed pass (v :: remaining)⟩ :: outer) :
    Move r w (w.nextPass name outerPassed (pass + 1) v remaining outer)
  /-- Out of a section. -/
  | close {name : String} {region : Region} {outer : List OpenSection} {d : Nat} {tail : List Node}
    (h : w.AtTag .sectionClose name d tail) (ho : w.opened = ⟨name, region⟩ :: outer)
    (hr : region.IsDone) : Move r w (w.leave region outer).skipTag

theorem checkEndName_self (name : String) : checkEndName name name = .ok () := if_pos rfl

theorem eq_of_checkEndName {found : String} (h : checkEndName name found = .ok ()) :
    found = name := by
  simp only [checkEndName] at h
  split at h
  · assumption
  · simp at h

theorem atTag_of_rest {d₁ d₂ d₃ : Nat} {tail₁ tail₂ tail₃ : List Node}
    (h₁ : w.tape.rest = ⟨.marker m, d₁⟩ :: tail₁)
    (h₂ : w.tape.advance.rest = ⟨.text name, d₂⟩ :: tail₂)
    (h₃ : w.tape.advance.advance.rest = ⟨.marker m.closing, d₃⟩ :: tail₃) :
    w.AtTag m name d₁ tail₃ := by
  rw [Tape.rest_advance h₁] at h₂
  rw [Tape.rest_advance ((Tape.rest_advance h₁).trans h₂)] at h₃
  exact ⟨d₂, d₃, by rw [h₁, h₂, h₃]⟩

theorem move_of_walkVariable (hm : m.opensVariable) (hrest : w.tape.rest = ⟨.marker m, d⟩ :: tail)
    (h : w.advance.walkVariableBy Scopes.resolve m = .ok w') : Move r w w' := by
  simp only [walkVariableBy, bind_eq_ok_iff, attempt_eq_ok_iff] at h
  obtain ⟨⟨name, t⟩, htake, _, hcheck, text, htext, t', hend, h⟩ := h
  obtain ⟨⟨d₂, tail₂, hname⟩, rfl⟩ := Tape.takeName_eq_ok_iff.mp htake
  rw [tape_emit] at hend
  obtain ⟨⟨d₃, tail₃, hclose⟩, rfl⟩ := Tape.takeMarker_eq_ok_iff.mp hend
  rw [pure_eq_ok, Except.ok.injEq, emit_tape] at h
  subst h
  exact .print hm (atTag_of_rest hrest hname hclose) hcheck htext

theorem move_of_walkComment (hrest : w.tape.rest = ⟨.marker .comment, d⟩ :: tail)
    (h : w.advance.walkComment = .ok w') : Move r w w' := by
  simp only [walkComment, bind_eq_ok_iff, attempt_eq_ok_iff] at h
  obtain ⟨⟨name, t⟩, htake, t', hend, h⟩ := h
  obtain ⟨⟨d₂, tail₂, hname⟩, rfl⟩ := Tape.takeName_eq_ok_iff.mp htake
  obtain ⟨⟨d₃, tail₃, hclose⟩, rfl⟩ := Tape.takeMarker_eq_ok_iff.mp hend
  rw [pure_eq_ok, Except.ok.injEq] at h
  subst h
  exact .comment (atTag_of_rest hrest hname hclose)

theorem move_of_walkSection (hm : m.opensSection) (hrest : w.tape.rest = ⟨.marker m, d⟩ :: tail)
    (h : w.advance.walkSectionBy Scopes.resolve m = .ok w') : Move r w w' := by
  have hclosing := Marker.closing_of_opensSection hm
  simp only [walkSectionBy, bind_eq_ok_iff, attempt_eq_ok_iff] at h
  obtain ⟨⟨name, t⟩, htake, _, hcheck, lookup, hlookup, t', hend, h⟩ := h
  obtain ⟨⟨d₂, tail₂, hname⟩, rfl⟩ := Tape.takeName_eq_ok_iff.mp htake
  obtain ⟨⟨d₃, tail₃, hclose⟩, rfl⟩ := Tape.takeMarker_eq_ok_iff.mp hend
  rw [pure_eq_ok, Except.ok.injEq] at h
  subst h
  exact .enter hm (atTag_of_rest hrest hname (hclosing ▸ hclose)) hcheck hlookup

theorem move_of_walkPartial (hm : m.opensPartial) (hrest : w.tape.rest = ⟨.marker m, d⟩ :: tail)
    (h : w.advance.walkPartialBy Scopes.resolve r w.tape m d = .ok w') : Move r w w' := by
  have hclosing := Marker.closing_of_opensPartial hm
  simp only [walkPartialBy, bind_eq_ok_iff, attempt_eq_ok_iff] at h
  obtain ⟨⟨reference, t⟩, htake, _, hcheck, t', hend, nodes, hnodes, h⟩ := h
  obtain ⟨⟨d₂, tail₂, hname⟩, rfl⟩ := Tape.takeName_eq_ok_iff.mp htake
  obtain ⟨⟨d₃, tail₃, hclose⟩, rfl⟩ := Tape.takeMarker_eq_ok_iff.mp hend
  rw [pure_eq_ok, Except.ok.injEq] at h
  subst h
  have htail := Tape.rest_advance hclose
  rw [htail]
  exact .splice hm (atTag_of_rest hrest hname (hclosing ▸ hclose)) hcheck hnodes

theorem move_of_walkEnd (ho : w.opened = ⟨name, region⟩ :: outer) (hr : region.IsDone)
    (h : w.endMessage = .ok (some w')) : Move r w w' := by
  rw [endMessage_of_isDone ho hr, map_some_eq_ok_iff] at h
  simp only [walkEnd, bind_eq_ok_iff, attempt_eq_ok_iff] at h
  obtain ⟨t, hstart, ⟨found, t'⟩, htake, _, hcheck, t'', hend, h⟩ := h
  -- The section is left first, and its end tag is read from there.
  obtain ⟨⟨d₁, tail₁, hopen⟩, rfl⟩ := Tape.takeMarker_eq_ok_iff.mp hstart
  obtain ⟨⟨d₂, tail₂, hname⟩, rfl⟩ := Tape.takeName_eq_ok_iff.mp htake
  obtain ⟨⟨d₃, tail₃, hclose⟩, rfl⟩ := Tape.takeMarker_eq_ok_iff.mp hend
  obtain rfl := eq_of_checkEndName hcheck
  rw [pure_eq_ok, Except.ok.injEq] at h
  subst h
  have htag := atTag_of_rest (w := w.leave region outer) hopen hname hclose
  rw [AtTag, rest_leave] at htag
  exact .close htag ho hr

theorem move_of_endMessage (hend : w.AtEnd) (h : w.endMessage = .ok (some w')) : Move r w w' := by
  match ho : w.opened with
  -- In no open section the walk ends or fails.
  | [] =>
    simp only [endMessage, ho] at h
    split at h <;> simp at h
  | ⟨name, .loop outerPassed pass (v :: remaining)⟩ :: outer =>
    rw [endMessage, ho, Except.ok.injEq, Option.some.injEq] at h
    subst h
    exact .nextPass hend ho
  | ⟨name, .once outerVisible framed⟩ :: outer => exact move_of_walkEnd ho trivial h
  | ⟨name, .loop outerPassed pass []⟩ :: outer => exact move_of_walkEnd ho rfl h

/-- **There are no other steps.** -/
theorem move_of_next (h : Next r w w') : Move r w w' := by
  rw [Next, step, stepBy] at h
  split at h
  -- Nothing ahead, a text ahead, and a marker ahead.
  · rename_i hrest
    exact move_of_endMessage (.inl hrest) h
  · rename_i s d tail hrest
    rw [Except.ok.injEq, Option.some.injEq] at h
    subst h
    exact .text hrest
  · rename_i m d tail hrest
    split at h
    · exact move_of_endMessage (.inr ⟨d, tail, hrest⟩) h
    -- No tag starts with a marker that closes one.
    · simp at h
    · simp at h
    all_goals rw [map_some_eq_ok_iff] at h
    · exact move_of_walkVariable rfl hrest h
    · exact move_of_walkVariable rfl hrest h
    · exact move_of_walkComment hrest h
    · exact move_of_walkPartial rfl hrest h
    · exact move_of_walkPartial rfl hrest h
    all_goals exact move_of_walkSection rfl hrest h

/-! ### The end of a walk -/

theorem map_some_ne_none {ε α : Type} (c : Except ε α) : some <$> c ≠ .ok none := by
  cases c <;> simp

theorem of_endMessage (h : w.endMessage = .ok none) : w.tape.rest = [] ∧ w.opened = [] := by
  rw [endMessage] at h
  split at h
  · rename_i ho
    split at h
    · rename_i hrest
      exact ⟨List.isEmpty_iff.mp hrest, ho⟩
    · simp at h
  -- At the end of a section there is another step.
  · simp at h
  · exact absurd h (map_some_ne_none _)

/-- What a run comes to that has been followed to its end. -/
theorem run_eq_of_after {n : Nat} {text : String}
    (h : (w.after r n).map (fun u => (u.tape.rest, u.opened.length, u.output)) =
      some ([], 0, text)) : w.run r = .ok text := by
  obtain ⟨u, hu, heq⟩ := Option.map_eq_some_iff.mp h
  simp only [Prod.mk.injEq] at heq
  obtain ⟨hrest, hopened, rfl⟩ := heq
  rw [(reaches_of_after hu).run_eq,
    run_of_end (step_end hrest (List.length_eq_zero_iff.mp hopened))]

/-- **A walk ends behind all tokens and in no section.** -/
theorem of_step_end (h : w.step r = .ok none) : w.tape.rest = [] ∧ w.opened = [] := by
  rw [step, stepBy] at h
  split at h
  · exact of_endMessage h
  · simp at h
  · split at h
    · exact of_endMessage h
    · simp at h
    · simp at h
    all_goals exact absurd h (map_some_ne_none _)

end Walk

end Mustache
