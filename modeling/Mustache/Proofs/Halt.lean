import Mustache.Proofs.Spacing
/-!
# What stops a walk

`Walk.Move` lists the steps that go on. This file lists the steps that fail, and says what a whole
run comes to.

* `Walk.Halt r w f` lists everything that can stop a walk, with the failure that it gives, and
  `halt_of_failure` says that there is nothing else where a text stands behind every marker.
* `Walk.step_congr`: only at a partial tag does a step ask the renderer for something.
* `Walk.exists_last`: each run comes to a last walk, which either is at its end or fails; from it
  come `exists_of_run_eq_ok` and `exists_of_run_eq_error`.
* `Walk.Adds w text`: what a step can have written by the time it is over, be it that it goes on
  (`adds_of_next`) or that it fails (`adds_of_failure`).

Only a variable tag writes something before it fails: its value is written before its end is
checked.
-/

namespace Mustache

/-! ### Computations that fail -/

section Except

variable {ε α β : Type}

/-- What it means that a computation with a first part fails. -/
theorem bind_eq_error_iff {x : Except ε α} {f : α → Except ε β} {e : ε} :
    (x >>= f) = .error e ↔ x = .error e ∨ ∃ a, x = .ok a ∧ f a = .error e := by
  cases x <;> simp

theorem map_some_eq_error_iff {x : Except ε α} {e : ε} :
    some <$> x = .error e ↔ x = .error e := by
  cases x <;> simp

end Except

/-- What a render has written, complete or up to its error. -/
def written : Except RenderFailure String → String
  | .ok output => output
  | .error f => f.output

/-- How a render has ended, without what it has written. -/
def ending : Except RenderFailure String → Except RenderError Unit
  | .ok _ => .ok ()
  | .error f => .error f.error

theorem ending_eq_ok_iff {result : Except RenderFailure String} :
    ending result = .ok () ↔ ∃ output, result = .ok output := by
  cases result <;> simp [ending]

namespace Walk

variable {r : Renderer} {w w' : Walk} {f : RenderFailure} {m : Marker} {name : String} {d : Nat}
  {tail : List Node}

theorem attempt_eq_error_iff {α : Type} {x : Except RenderError α} :
    w.attempt x = .error f ↔ ∃ e, x = .error e ∧ f = w.failure e := by
  cases x <;> simp [eq_comm]

/-- A marker that has to come next and does not. -/
theorem close_eq_error (h : w.close m = .error f) :
    (∀ d tail, w.tape.rest ≠ ⟨.marker m, d⟩ :: tail) ∧ f = w.failure (.missing m) := by
  by_cases hrest : ∃ d tail, w.tape.rest = ⟨.marker m, d⟩ :: tail
  · obtain ⟨d, tail, hrest⟩ := hrest
    simp [close_of_marker hrest] at h
  · have hne : ∀ d tail, w.tape.rest ≠ ⟨.marker m, d⟩ :: tail := fun d tail hnode =>
      hrest ⟨d, tail, hnode⟩
    rw [close_of_ne hne, Except.error.injEq] at h
    exact ⟨hne, h.symm⟩

/-- Behind its name a tag is closed, or asks for its closing marker in vain. -/
theorem AtName.whole_or_unclosed (h : w.AtName m name d tail) :
    (∃ tail', w.AtTag m name d tail') ∨
      w.skipName.close m.closing = .error (w.skipName.failure (.missing m.closing)) := by
  by_cases hwhole : ∃ d₃ tail', tail = ⟨.marker m.closing, d₃⟩ :: tail'
  · obtain ⟨d₃, tail', rfl⟩ := hwhole
    obtain ⟨d₂, h⟩ := h
    exact .inl ⟨tail', d₂, d₃, h⟩
  · refine .inr (close_of_ne fun d₃ tail' htail => hwhole ⟨d₃, tail', ?_⟩)
    rwa [h.rest_skipName] at htail

/-! ### What a step can fail of -/

/-- The walk accepts the name of a tag and writes a text. What it still asks for is the marker that
closes the tag. -/
inductive Accepts (w : Walk) : Marker → String → String → Prop where
  /-- A variable with an allowed name that can be looked up. -/
  | printing {m : Marker} {name text : String} (hm : m.opensVariable)
    (hname : checkTagName name = .ok ()) (htext : w.variableText m name = .ok text) :
    Accepts w m name text
  /-- Any comment. -/
  | comment (text : String) : Accepts w .comment text ""
  /-- A section with an allowed name that can be looked up. -/
  | opening {m : Marker} {name : String} {lookup : Lookup} (hm : m.opensSection)
    (hname : checkTagName name = .ok ()) (hlookup : w.scopes.resolve name = .ok lookup) :
    Accepts w m name ""
  /-- The end of a section that has the name of its start. -/
  | ending {name : String} {region : Region} {outer : List OpenSection}
    (ho : w.opened = ⟨name, region⟩ :: outer) (hr : region.IsDone) :
    Accepts w .sectionClose name ""
  /-- A partial with an allowed reference. -/
  | reference {m : Marker} {reference : String} (hm : m.opensPartial)
    (hreference : checkReference reference = .ok ()) : Accepts w m reference ""

/-- The steps that fail, with their failures. -/
inductive Halt (r : Renderer) (w : Walk) : RenderFailure → Prop where
  /-- A tag starts with a marker that closes one. -/
  | unexpected {m : Marker} {d : Nat} {tail : List Node} (hm : m.isClose)
    (h : w.tape.rest = ⟨.marker m, d⟩ :: tail) : Halt r w (w.failure (.unexpected m))
  /-- An end tag comes in no section. -/
  | unopened {d : Nat} {tail : List Node} (h : w.tape.rest = ⟨.marker .sectionClose, d⟩ :: tail)
    (ho : w.opened = []) : Halt r w (w.failure (.unexpected .sectionClose))
  /-- The tokens end in a section. -/
  | unclosed {name : String} {region : Region} {outer : List OpenSection} (h : w.tape.rest = [])
    (ho : w.opened = ⟨name, region⟩ :: outer) (hr : region.IsDone) :
    Halt r w (w.failure (.missing .sectionClose))
  /-- A section is closed under another name. -/
  | mismatched {name found : String} {region : Region} {outer : List OpenSection} {d : Nat}
    {tail : List Node} {e : RenderError} (h : w.AtName .sectionClose found d tail)
    (ho : w.opened = ⟨name, region⟩ :: outer) (hr : region.IsDone)
    (hname : checkEndName name found = .error e) : Halt r w (w.failure e)
  /-- A variable or section has a name that is not allowed. -/
  | name {m : Marker} {name : String} {d : Nat} {tail : List Node} {e : RenderError}
    (hm : m.opensVariable ∨ m.opensSection) (h : w.AtName m name d tail)
    (hname : checkTagName name = .error e) : Halt r w (w.failure e)
  /-- A variable that is to be printed cannot be looked up. -/
  | print {m : Marker} {name : String} {d : Nat} {tail : List Node} {e : RenderError}
    (hm : m.opensVariable) (h : w.AtName m name d tail) (hname : checkTagName name = .ok ())
    (htext : w.variableText m name = .error e) : Halt r w (w.failure e)
  /-- The value of a section cannot be looked up. -/
  | enter {m : Marker} {name : String} {d : Nat} {tail : List Node} {e : RenderError}
    (hm : m.opensSection) (h : w.AtName m name d tail) (hname : checkTagName name = .ok ())
    (hlookup : w.scopes.resolve name = .error e) : Halt r w (w.failure e)
  /-- A partial has a reference that is not allowed. -/
  | reference {m : Marker} {reference : String} {d : Nat} {tail : List Node} {e : RenderError}
    (hm : m.opensPartial) (h : w.AtName m reference d tail)
    (hreference : checkReference reference = .error e) : Halt r w (w.failure e)
  /-- A partial does not come in. -/
  | splice {m : Marker} {reference : String} {d : Nat} {tail : List Node} {e : RenderError}
    (hm : m.opensPartial) (h : w.AtTag m reference d tail)
    (hreference : checkReference reference = .ok ())
    (hnodes : w.included r m d reference = .error e) : Halt r w (w.failure e)
  /-- A tag is not closed behind its name. -/
  | unfinished {m : Marker} {name text : String} {d : Nat} {tail : List Node}
    (h : w.AtName m name d tail) (haccepts : w.Accepts m name text)
    (hclose : ∀ d tail', tail ≠ ⟨.marker m.closing, d⟩ :: tail') :
    Halt r w ((w.emit text).failure (.missing m.closing))

/-- A tag that is not closed, once a text has been written. -/
theorem halt_of_close (h : w.AtName m name d tail) {text : String} (haccepts : w.Accepts m name text)
    (hclose : (w.skipName.emit text).close m.closing = .error f) : Halt r w f := by
  obtain ⟨hne, rfl⟩ := close_eq_error hclose
  rw [tape_emit, h.rest_skipName] at hne
  -- What is written does not depend on where the walk stands.
  have houtput : (w.skipName.emit text).failure (.missing m.closing) =
      (w.emit text).failure (.missing m.closing) := by
    rw [skipName, ← advance_emit, ← advance_emit]
    rfl
  rw [houtput]
  exact .unfinished h haccepts hne

theorem halt_of_variable (hm : m.opensVariable) (h : w.AtName m name d tail)
    (hf : w.step r = .error f) : Halt r w f := by
  rw [h.step_variable hm, map_some_eq_error_iff] at hf
  simp only [bind_eq_error_iff, attempt_eq_error_iff, attempt_eq_ok_iff] at hf
  -- The text has been written by the time that the end of the tag is asked for.
  obtain ⟨e, hname, rfl⟩ | ⟨u, hname, ⟨e, htext, rfl⟩ | ⟨text, htext, hclose⟩⟩ := hf
  · exact .name (.inl hm) h hname
  · exact .print hm h hname htext
  · exact halt_of_close h (.printing hm hname htext) hclose

theorem halt_of_comment (h : w.AtName .comment name d tail) (hf : w.step r = .error f) :
    Halt r w f := by
  rw [h.step_comment, map_some_eq_error_iff] at hf
  refine halt_of_close h (.comment name) ?_
  rw [emit_empty]
  exact hf

theorem halt_of_section (hm : m.opensSection) (h : w.AtName m name d tail)
    (hf : w.step r = .error f) : Halt r w f := by
  rw [h.step_section hm, map_some_eq_error_iff] at hf
  simp only [bind_eq_error_iff, attempt_eq_error_iff, attempt_eq_ok_iff, pure_eq_ok, reduceCtorEq,
    and_false, exists_false, or_false] at hf
  -- The value is looked up before the tag is known to be whole.
  obtain ⟨e, hname, rfl⟩ | ⟨u, hname, ⟨e, hlookup, rfl⟩ | ⟨lookup, hlookup, hclose⟩⟩ := hf
  · exact .name (.inr hm) h hname
  · exact .enter hm h hname hlookup
  · refine halt_of_close h (.opening hm hname hlookup) ?_
    rw [emit_empty, Marker.closing_of_opensSection hm]
    exact hclose

theorem halt_of_partial (hm : m.opensPartial) (h : w.AtName m name d tail)
    (hf : w.step r = .error f) : Halt r w f := by
  have hclosing := Marker.closing_of_opensPartial hm
  rw [h.step_partial hm, map_some_eq_error_iff] at hf
  simp only [bind_eq_error_iff, attempt_eq_error_iff, attempt_eq_ok_iff, pure_eq_ok, reduceCtorEq,
    and_false, exists_false, or_false] at hf
  -- Here it is the other way round: the file is asked for behind the closing marker.
  obtain ⟨e, hreference, rfl⟩ | ⟨u, hreference, hclose | ⟨closed, hclose, e, hnodes, rfl⟩⟩ := hf
  · exact .reference hm h hreference
  · refine halt_of_close h (.reference hm hreference) ?_
    rw [emit_empty, hclosing]
    exact hclose
  · -- With its closing marker there, the tag is whole.
    obtain ⟨tail', htag⟩ | hunclosed := h.whole_or_unclosed
    · exact .splice hm htag hreference hnodes
    · rw [hclosing, hclose] at hunclosed
      simp at hunclosed

theorem halt_of_atEnd (hspaced : Spaced (Node.tokens w.tape.rest)) (h : w.AtEnd)
    (hf : w.step r = .error f) : Halt r w f := by
  match ho : w.opened with
  -- In no section the walk ends with the tokens, and fails at an end tag.
  | [] =>
    obtain h | ⟨d, tail, h⟩ := h
    · simp [step_end h ho] at hf
    · rw [step_unopened h ho, Except.error.injEq] at hf
      exact hf ▸ .unopened h ho
  | ⟨name, region⟩ :: outer =>
    obtain hdone | ⟨outerPassed, pass, v, remaining, rfl⟩ := region.isDone_or
    · obtain hrest | ⟨d, tail, hrest⟩ := h
      · rw [step_unclosed hrest ho hdone, Except.error.injEq] at hf
        exact hf ▸ .unclosed hrest ho hdone
      -- The end tag is there, but it may be that of another section, or not be whole.
      · obtain ⟨found, tail', hname⟩ := atName_of_spaced hspaced hrest
        rw [hname.step_close ho hdone, map_some_eq_error_iff] at hf
        simp only [bind_eq_error_iff, attempt_eq_error_iff, attempt_eq_ok_iff] at hf
        obtain ⟨e, hmismatch, rfl⟩ | ⟨u, hmatch, hclose⟩ := hf
        · exact .mismatched hname ho hdone hmismatch
        · obtain rfl := eq_of_checkEndName hmatch
          obtain ⟨hne, rfl⟩ := close_eq_error hclose
          rw [(hname.leave region outer).rest_skipName] at hne
          -- Leaving the section writes nothing.
          have houtput : (w.leave region outer).skipName.failure (.missing .close) =
              (w.emit "").failure (.missing .close) := by
            rw [emit_empty]
            cases region <;> rfl
          rw [houtput]
          exact .unfinished hname (.ending ho hdone) hne
    -- A loop with elements to come goes on to its next pass.
    · simp [step_nextPass h ho] at hf

/-- **There is no other way to fail.** -/
theorem halt_of_failure (hspaced : Spaced (Node.tokens w.tape.rest)) (hf : w.step r = .error f) :
    Halt r w f := by
  match hrest : w.tape.rest with
  | [] => exact halt_of_atEnd hspaced (.inl hrest) hf
  -- A step over a text always goes on.
  | ⟨.text s, d⟩ :: tail => simp [step_text hrest] at hf
  | ⟨.marker m, d⟩ :: tail =>
    obtain ⟨name, tail', hname⟩ := atName_of_spaced hspaced hrest
    have hclose (hm : m.isClose) : Halt r w f := by
      rw [step_unexpected hm hrest, Except.error.injEq] at hf
      exact hf ▸ .unexpected hm hrest
    cases m with
    | sectionClose => exact halt_of_atEnd hspaced (.inr ⟨d, tail, hrest⟩) hf
    | close | closeUnescaped => exact hclose rfl
    | escaped | unescaped => exact halt_of_variable rfl hname hf
    | comment => exact halt_of_comment hname hf
    | sectionOpen | shownIf | shownUnless | shownIfFound => exact halt_of_section rfl hname hf
    | partialTag | partialByVariable => exact halt_of_partial rfl hname hf

/-! ### What a step asks the renderer for -/

theorem AtName.step_partial_congr {r' : Renderer} (hm : m.opensPartial) (h : w.AtName m name d tail)
    (heq : ∀ tail', w.AtTag m name d tail' → checkReference name = .ok () →
      w.included r m d name = w.included r' m d name) : w.step r = w.step r' := by
  rw [h.step_partial hm, h.step_partial hm]
  cases hreference : checkReference name with
  | error e => rfl
  | ok u =>
    obtain ⟨tail', htag⟩ | hunclosed := h.whole_or_unclosed
    · rw [heq tail' htag hreference]
    · rw [Marker.closing_of_opensPartial hm] at hunclosed
      rw [hunclosed]
      rfl

/-- **A step asks the renderer for nothing but what comes in at a whole partial tag** with an allowed
reference. -/
theorem step_congr {r' : Renderer} (hspaced : Spaced (Node.tokens w.tape.rest))
    (heq : ∀ {m reference d tail}, m.opensPartial → w.AtTag m reference d tail →
      checkReference reference = .ok () →
      w.included r m d reference = w.included r' m d reference) : w.step r = w.step r' := by
  match hrest : w.tape.rest with
  | [] => rw [step_of_atEnd (.inl hrest), step_of_atEnd (.inl hrest)]
  | ⟨.text s, d⟩ :: tail => rw [step_text hrest, step_text hrest]
  | ⟨.marker m, d⟩ :: tail =>
    obtain ⟨name, tail', hname⟩ := atName_of_spaced hspaced hrest
    cases m with
    | partialTag | partialByVariable =>
      exact AtName.step_partial_congr rfl hname fun tail htag => heq rfl htag
    | sectionClose =>
      have hend : w.AtEnd := .inr ⟨d, tail, hrest⟩
      rw [step_of_atEnd hend, step_of_atEnd hend]
    | close | closeUnescaped => rw [step_unexpected rfl hrest, step_unexpected rfl hrest]
    | escaped | unescaped => rw [hname.step_variable rfl, hname.step_variable rfl]
    | comment => rw [hname.step_comment, hname.step_comment]
    | sectionOpen | shownIf | shownUnless | shownIfFound =>
      rw [hname.step_section rfl, hname.step_section rfl]

/-! ### The end of a run -/

/-- **Each run comes to a last walk**, which is at its end or fails, and the run comes to the
same. -/
theorem exists_last (r : Renderer) (w : Walk) : ∃ last, Reaches r w last ∧
    (last.step r = .ok none ∧ w.run r = .ok last.output ∨
      ∃ f, last.step r = .error f ∧ w.run r = .error f) := by
  induction w using run.induct r with
  | case1 w next hnext ih =>
    obtain ⟨last, hreaches, hlast⟩ := ih
    rw [run_of_next hnext]
    exact ⟨last, .head hnext hreaches, hlast⟩
  | case2 w hend => exact ⟨w, .refl w, .inl ⟨hend, run_of_end hend⟩⟩
  | case3 w f hf => exact ⟨w, .refl w, .inr ⟨f, hf, run_of_failure hf⟩⟩

/-- A run that succeeds reaches a walk that is at its end. -/
theorem exists_of_run_eq_ok {output : String} (h : w.run r = .ok output) :
    ∃ last, Reaches r w last ∧ last.step r = .ok none := by
  obtain ⟨last, hreaches, ⟨hend, -⟩ | ⟨f, -, hrun⟩⟩ := exists_last r w
  · exact ⟨last, hreaches, hend⟩
  · simp [hrun] at h

/-- A run that fails reaches a walk whose next step fails in this way. -/
theorem exists_of_run_eq_error (h : w.run r = .error f) :
    ∃ last, Reaches r w last ∧ last.step r = .error f := by
  obtain ⟨last, hreaches, ⟨-, hrun⟩ | ⟨f', hf, hrun⟩⟩ := exists_last r w
  · simp [hrun] at h
  · rw [hrun, Except.error.injEq] at h
    exact ⟨last, hreaches, h ▸ hf⟩

/-- All walks that a render comes to have a text behind each marker ahead. -/
theorem spaced_rest_of_reaches {template : String} {context : Value}
    (h : Reaches r (start template context) w) : Spaced (Node.tokens w.tape.rest) :=
  spaced_rest (spaced_of_reaches h)

/-! ### What a step writes -/

/-- What has been written when the next step is over. -/
inductive Adds (w : Walk) : String → Prop where
  /-- The step writes nothing. -/
  | nothing : Adds w w.output
  /-- It writes a text of the template. -/
  | text {s : String} (h : .text s ∈ Node.tokens w.tape.rest) : Adds w (w.output ++ s)
  /-- It writes what a variable tag prints for a value. -/
  | value {m : Marker} (v : Value) (hm : m.opensVariable)
    (h : .marker m ∈ Node.tokens w.tape.rest) : Adds w (w.output ++ printedBy m v)

theorem output_emit (w : Walk) (text : String) :
    (w.emit text).output = w.output ∨ (w.emit text).output = w.output ++ text := by
  unfold emit
  split
  · exact .inr rfl
  · exact .inl rfl

theorem AtName.marker_mem (h : w.AtName m name d tail) :
    .marker m ∈ Node.tokens w.tape.rest := by
  obtain ⟨d₂, h⟩ := h
  simp [h]

/-- A variable tag writes what it prints for a value, or nothing. -/
theorem adds_of_variableText (hm : m.opensVariable) (h : w.AtName m name d tail) {text : String}
    (htext : w.variableText m name = .ok text) : Adds w (w.emit text).output := by
  rw [variableText_eq] at htext
  split at htext
  · simp only [bind_eq_ok_iff, pure_eq_ok, Except.ok.injEq] at htext
    obtain ⟨lookup, -, rfl⟩ := htext
    obtain heq | heq := w.output_emit (printedBy m lookup.valueOrNull)
    · exact heq ▸ .nothing
    · exact heq ▸ .value _ hm h.marker_mem
  · rename_i hvisible
    obtain rfl := Except.ok.inj htext
    rw [emit_empty]
    exact .nothing

theorem output_enter (w : Walk) (m : Marker) (name : String) (lookup : Lookup) :
    (w.enter m name lookup).output = w.output := by
  simp only [enter]
  split <;> rfl

theorem output_leave (w : Walk) (region : Region) (outer : List OpenSection) :
    (w.leave region outer).output = w.output := by
  cases region <;> rfl

/-- **What a step that goes on has written.** -/
theorem adds_of_next (h : Next r w w') : Adds w w'.output := by
  cases move_of_next h with
  | @text s d tail hrest =>
    obtain heq | heq := w.output_emit s
    · exact (show (w.emit s).advance.output = w.output from heq) ▸ .nothing
    · exact (show (w.emit s).advance.output = w.output ++ s from heq) ▸ .text (by simp [hrest])
  | @print m name text d tail hm htag hname htext =>
    obtain ⟨d₃, hat⟩ := htag.atName
    have hskip : (w.skipTag.emit text).output = (w.emit text).output := by
      simp only [skipTag, ← advance_emit]
      rfl
    exact hskip ▸ adds_of_variableText hm hat htext
  | comment htag => exact .nothing
  | @enter m name lookup =>
    rw [output_enter]
    exact .nothing
  | splice hm htag hreference hnodes => exact .nothing
  | nextPass hend ho => exact .nothing
  | @close name region outer =>
    have hskip : (w.leave region outer).skipTag.output = w.output := w.output_leave region outer
    exact hskip ▸ .nothing

/-- **What a step that fails has written.** -/
theorem adds_of_failure (hspaced : Spaced (Node.tokens w.tape.rest)) (hf : w.step r = .error f) :
    Adds w f.output := by
  cases halt_of_failure hspaced hf with
  | unfinished h haccepts hclose =>
    cases haccepts with
    | printing hm hname htext => exact adds_of_variableText hm h htext
    | comment | opening | ending | reference =>
      rw [emit_empty]
      exact .nothing
  | unexpected | unopened | unclosed | mismatched | name | print | enter | reference | splice =>
    exact .nothing

end Walk

end Mustache
