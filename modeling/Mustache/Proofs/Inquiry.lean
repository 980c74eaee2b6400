import Mustache.Proofs.Halt
/-!
# Which names are looked up

A name is checked before it is looked up, but the check depends on the tag. A variable or section has
its own list of allowed characters. The tag that names a partial through a variable has the longer
list of the references to partials, and the name of its variable is the first piece of the reference.

To say which names a step hands to the lookup, the step is taken with other answers than those of a
render (`Walk.stepBy`).

* `Walk.Consults r w name`: the next step depends on the answer for `name`.
* `Walk.Asks w name`: the walk stands at a tag that looks `name` up, after a check.
* `consults_iff`: these are the same, and so no other name is ever handed to the lookup.
* `lookups_are_checked`: what this means for a render, with what happens to the other names.
-/

namespace Mustache

/-! ### Names and references -/

/-- Whether a variable or section may have the name. -/
def IsTagName (name : String) : Prop :=
  name = wholeFrame ∨ ∀ c ∈ name.toList, isAllowed tagSigns c = true

/-- Whether a partial tag may have the reference. -/
def IsReference (reference : String) : Prop :=
  ∀ c ∈ reference.toList, isAllowed referenceSigns c = true

instance (name : String) : Decidable (IsTagName name) :=
  decidable_of_iff (name = wholeFrame ∨ name.toList.all (isAllowed tagSigns) = true)
    (or_congr_right List.all_eq_true)

instance (reference : String) : Decidable (IsReference reference) :=
  decidable_of_iff (reference.toList.all (isAllowed referenceSigns) = true) List.all_eq_true

theorem checkTagName_eq_ok_iff {name : String} : checkTagName name = .ok () ↔ IsTagName name := by
  unfold checkTagName IsTagName
  split
  · simp [*]
  · simp [*, checkCharacters_eq_ok_iff]

theorem checkReference_eq_ok_iff {reference : String} :
    checkReference reference = .ok () ↔ IsReference reference :=
  checkCharacters_eq_ok_iff

/-- The first character that is not allowed stops a check. -/
theorem exists_of_not_allowed {signs : List Char} {name : String}
    (h : ¬ ∀ c ∈ name.toList, isAllowed signs c = true) :
    ∃ c offset, firstBad? signs 0 name.toList = some (c, offset) ∧
      checkCharacters signs name = .error (.badCharacter name c offset) := by
  have hbad : firstBad? signs 0 name.toList ≠ none := fun hnone =>
    h (firstBad?_eq_none_iff.mp hnone)
  obtain ⟨⟨c, offset⟩, hbad⟩ := Option.ne_none_iff_exists'.mp hbad
  exact ⟨c, offset, hbad, by rw [checkCharacters, hbad]⟩

/-! ### Answers that matter -/

namespace Walk

variable {r : Renderer} {w : Walk} {answers answers' : Answers} {m : Marker} {name : String}
  {d : Nat} {tail : List Node}

/-- The next step depends on the answer for the name. -/
def Consults (r : Renderer) (w : Walk) (name : String) : Prop :=
  ∃ answers answers' : Answers, (∀ s other, other ≠ name → answers s other = answers' s other) ∧
    w.stepBy answers r ≠ w.stepBy answers' r

/-- The walk stands at a tag that looks the name up. -/
inductive Asks (w : Walk) : String → Prop where
  /-- A variable that is printed. -/
  | print {m : Marker} {name : String} {d : Nat} {tail : List Node} (hm : m.opensVariable)
    (hvisible : w.visible = true) (h : w.AtName m name d tail) (hname : IsTagName name) :
    Asks w name
  /-- A section, hidden or not. -/
  | enter {m : Marker} {name : String} {d : Nat} {tail : List Node} (hm : m.opensSection)
    (h : w.AtName m name d tail) (hname : IsTagName name) : Asks w name
  /-- A partial that is named by a variable, hidden or not. -/
  | file {reference : String} {d : Nat} {tail : List Node}
    (h : w.AtTag .partialByVariable reference d tail) (hreference : IsReference reference) :
    Asks w (PartialReference.parse reference).file

/-! ### Names that are not allowed -/

/-- Whatever the answers are, the walk fails of the first character of the name that is not allowed
together with these signs. -/
def Refuses (r : Renderer) (w : Walk) (signs : List Char) (name : String) : Prop :=
  ∃ c offset, firstBad? signs 0 name.toList = some (c, offset) ∧
    ∀ answers, w.stepBy answers r = .error (w.failure (.badCharacter name c offset))

/-- A variable or a section with another name stops the walk before the name is looked up. -/
theorem AtName.refuses_name (hm : m.opensVariable ∨ m.opensSection) (h : w.AtName m name d tail)
    (hname : ¬ IsTagName name) : w.Refuses r tagSigns name := by
  obtain ⟨hwhole, hsigns⟩ := not_or.mp hname
  obtain ⟨c, offset, hbad, hcheck⟩ := exists_of_not_allowed hsigns
  have hcheck : checkTagName name = .error (.badCharacter name c offset) :=
    (if_neg hwhole).trans hcheck
  refine ⟨c, offset, hbad, fun answers => ?_⟩
  obtain hm | hm := hm
  · rw [h.stepBy_variable hm, hcheck]
    rfl
  · rw [h.stepBy_section hm, hcheck]
    rfl

/-- So does a partial tag with another reference. -/
theorem AtName.refuses_reference (hm : m.opensPartial) (h : w.AtName m name d tail)
    (hreference : ¬ IsReference name) : w.Refuses r referenceSigns name := by
  obtain ⟨c, offset, hbad, hcheck⟩ := exists_of_not_allowed hreference
  refine ⟨c, offset, hbad, fun answers => ?_⟩
  rw [h.stepBy_partial hm, checkReference, hcheck]
  rfl

theorem Refuses.stepBy_eq {signs : List Char} (h : w.Refuses r signs name) :
    w.stepBy answers r = w.stepBy answers' r := by
  obtain ⟨c, offset, -, hstep⟩ := h
  rw [hstep, hstep]

theorem Refuses.not_consults {signs : List Char} (h : w.Refuses r signs name) (other : String) :
    ¬ w.Consults r other := by
  rintro ⟨answers, answers', -, hne⟩
  exact hne h.stepBy_eq

/-- **A render that comes to such a name fails of it.** -/
theorem Refuses.render_eq {signs : List Char} {template : String} {context : Value}
    (h : w.Refuses r signs name) (hw : Reaches r (start template context) w) :
    ∃ c offset, firstBad? signs 0 name.toList = some (c, offset) ∧
      r.render template context = .error (w.failure (.badCharacter name c offset)) := by
  obtain ⟨c, offset, hbad, hstep⟩ := h
  exact ⟨c, offset, hbad, hw.run_eq.trans (run_of_failure (hstep Scopes.resolve))⟩

/-! ### What the answers matter for -/

theorem AtName.stepBy_variable_congr (hm : m.opensVariable) (h : w.AtName m name d tail)
    (heq : ∀ name, w.Asks name → answers w.scopes name = answers' w.scopes name) :
    w.stepBy answers r = w.stepBy answers' r := by
  by_cases hname : IsTagName name
  · have htext : w.variableTextBy answers m name = w.variableTextBy answers' m name := by
      unfold variableTextBy
      split
      · rename_i hvisible
        rw [heq name (.print hm hvisible h hname)]
      · rfl
    rw [h.stepBy_variable hm, h.stepBy_variable hm, htext]
  · exact (h.refuses_name (.inl hm) hname).stepBy_eq

theorem AtName.stepBy_section_congr (hm : m.opensSection) (h : w.AtName m name d tail)
    (heq : ∀ name, w.Asks name → answers w.scopes name = answers' w.scopes name) :
    w.stepBy answers r = w.stepBy answers' r := by
  by_cases hname : IsTagName name
  · rw [h.stepBy_section hm, h.stepBy_section hm, heq name (.enter hm h hname)]
  · exact (h.refuses_name (.inr hm) hname).stepBy_eq

theorem AtTag.includedBy_congr (h : w.AtTag m name d tail)
    (hreference : IsReference name)
    (heq : ∀ name, w.Asks name → answers w.scopes name = answers' w.scopes name) :
    w.includedBy answers r m d name = w.includedBy answers' r m d name := by
  have hfile : w.partialFileBy answers m (PartialReference.parse name).file =
      w.partialFileBy answers' m (PartialReference.parse name).file := by
    unfold partialFileBy
    split
    · rename_i hvariable
      subst hvariable
      rw [heq _ (.file h hreference)]
    · rfl
  simp only [includedBy, hfile]

theorem AtName.stepBy_partial_congr (hm : m.opensPartial) (h : w.AtName m name d tail)
    (heq : ∀ name, w.Asks name → answers w.scopes name = answers' w.scopes name) :
    w.stepBy answers r = w.stepBy answers' r := by
  by_cases hreference : IsReference name
  · rw [h.stepBy_partial hm, h.stepBy_partial hm]
    -- The variable is looked up behind the closing marker, so the tag is whole.
    obtain ⟨tail', htag⟩ | hunclosed := h.whole_or_unclosed
    · rw [htag.includedBy_congr hreference heq]
    · rw [Marker.closing_of_opensPartial hm] at hunclosed
      rw [hunclosed]
      cases checkReference name <;> rfl
  · exact (h.refuses_reference hm hreference).stepBy_eq

/-- **A step looks up no other names than those of `Asks`.** -/
theorem stepBy_congr (hspaced : Spaced (Node.tokens w.tape.rest))
    (heq : ∀ name, w.Asks name → answers w.scopes name = answers' w.scopes name) :
    w.stepBy answers r = w.stepBy answers' r := by
  match hrest : w.tape.rest with
  | [] | ⟨.text s, d⟩ :: tail => simp only [stepBy, hrest]
  | ⟨.marker m, d⟩ :: tail =>
    -- Behind every marker there is a text, so the tag has a name.
    obtain ⟨name, tail', hname⟩ := atName_of_spaced hspaced hrest
    cases m with
    -- These look up nothing.
    | sectionClose | close | closeUnescaped | comment => simp only [stepBy, hrest]
    | escaped | unescaped => exact AtName.stepBy_variable_congr rfl hname heq
    | sectionOpen | shownIf | shownUnless | shownIfFound =>
      exact AtName.stepBy_section_congr rfl hname heq
    | partialTag | partialByVariable => exact AtName.stepBy_partial_congr rfl hname heq

/-- **A step looks up each of these names**: if there is no answer for it, the step fails. -/
theorem Asks.stepBy_eq_error {e : RenderError} (h : w.Asks name)
    (he : answers w.scopes name = .error e) : w.stepBy answers r = .error (w.failure e) := by
  cases h with
  | @print m name d tail hm hvisible h hname =>
    have htext : w.variableTextBy answers m name = .error e := by
      rw [variableTextBy, if_pos hvisible, he]
      rfl
    rw [h.stepBy_variable hm, checkTagName_eq_ok_iff.mpr hname, htext]
    rfl
  | enter hm h hname =>
    rw [h.stepBy_section hm, checkTagName_eq_ok_iff.mpr hname, he]
    rfl
  | @file reference d tail h hreference =>
    have hincluded : w.includedBy answers r .partialByVariable d reference = .error e := by
      rw [includedBy, partialFileBy, if_pos rfl, he]
      rfl
    have hclose : w.skipName.close .close = .ok w.skipTag := h.close_skipName
    obtain ⟨d₃, h⟩ := h.atName
    rw [h.stepBy_partial rfl, checkReference_eq_ok_iff.mpr hreference, hclose]
    simp only [attempt_ok, ok_bind, hincluded, attempt_error, error_bind, map_error]

/-- **A name is looked up at a tag that asks for it, and nowhere else.** -/
theorem consults_iff (hspaced : Spaced (Node.tokens w.tape.rest)) :
    w.Consults r name ↔ w.Asks name := by
  constructor
  · rintro ⟨answers, answers', hother, hne⟩
    by_cases hasks : w.Asks name
    · exact hasks
    · refine absurd (stepBy_congr hspaced fun other hother' => hother w.scopes other ?_) hne
      rintro rfl
      exact hasks hother'
  -- With the name refused for one reason or another, the step fails for this reason.
  · intro h
    let refusing (e : RenderError) : Answers := fun _ other =>
      if other = name then .error e else .ok .missing
    have hrefusing (e : RenderError) : w.stepBy (refusing e) r = .error (w.failure e) :=
      h.stepBy_eq_error (if_pos rfl)
    refine ⟨refusing .endOfTemplate, refusing (.missingBracket name), ?_, ?_⟩
    · intro s other hne
      simp only [refusing, if_neg hne]
    · rw [hrefusing, hrefusing]
      simp [failure]

/-! ### Lookups of a render -/

end Walk

theorem isAllowed_referenceSigns {c : Char} (h : isAllowed tagSigns c = true) :
    isAllowed referenceSigns c = true := by
  have hsigns : tagSigns ⊆ referenceSigns := by decide
  unfold isAllowed at h ⊢
  rw [Bool.or_eq_true, List.contains_iff_mem] at h ⊢
  exact h.imp_right fun hc => hsigns hc

theorem not_isBlank_of_isAllowed {c : Char} (h : isAllowed tagSigns c = true) :
    Text.isBlank c = false := by
  unfold isAllowed at h
  rw [Bool.or_eq_true, List.contains_iff_mem] at h
  obtain h | h := h
  · exact Text.isBlank_of_isAlphanum h
  · have hsigns : tagSigns.any Text.isBlank = false := by decide
    exact Bool.eq_false_iff.mpr (List.any_eq_false.mp hsigns c h)

theorem IsTagName.isReference {name : String} (h : IsTagName name) : IsReference name := by
  obtain rfl | h := h
  · decide
  · exact fun c hc => isAllowed_referenceSigns (h c hc)

/-- A tag name is a reference without parameters. -/
theorem IsTagName.file_parse {name : String} (h : IsTagName name) :
    (PartialReference.parse name).file = name := by
  obtain rfl | h := h
  · decide
  · have hbar : '|' ∉ name.toList := fun hc => absurd (h '|' hc) (by decide)
    have htrim : Text.trimBlanks name.toList = name.toList :=
      Text.trimBlanks_eq_self fun c hc => not_isBlank_of_isAllowed (h c hc)
    rw [PartialReference.parse, List.splitOn_eq_singleton hbar]
    simp only [List.map_cons, List.headD_cons, htrim, String.ofList_toList]

namespace Walk

variable {r : Renderer} {w : Walk}

/-- **Lookups are checked.** In every walk that a render comes to

* a name that is looked up is the name of a variable or of a section and is allowed there, or it is
  the first piece of an allowed reference in a tag that names a partial through a variable;
* a variable that is printed looks its name up exactly if the name is allowed there, and so does a
  section; with another name the render fails before any lookup, and so it does at a hidden variable;
* a tag that names a partial through a variable looks the variable up exactly if the reference is
  allowed; with another reference the render fails before any lookup, and so it does at every tag that
  includes a partial;
* the names that are allowed in variables and sections are among these references. -/
theorem lookups_are_checked {template : String} {context : Value}
    (h : Reaches r (start template context) w) :
    (∀ name, w.Consults r name →
      (∃ m d tail, (m.opensVariable ∨ m.opensSection) ∧ w.AtName m name d tail ∧
        IsTagName name) ∨
      ∃ reference d tail, w.AtTag .partialByVariable reference d tail ∧ IsReference reference ∧
        (PartialReference.parse reference).file = name) ∧
      (∀ m name d tail, m.opensVariable ∧ w.visible = true ∨ m.opensSection →
        w.AtName m name d tail → (w.Consults r name ↔ IsTagName name)) ∧
      (∀ m name d tail, m.opensVariable ∨ m.opensSection → w.AtName m name d tail →
        ¬ IsTagName name → w.Refuses r tagSigns name ∧
          ∃ c offset, firstBad? tagSigns 0 name.toList = some (c, offset) ∧
            r.render template context = .error (w.failure (.badCharacter name c offset))) ∧
      (∀ reference d tail, w.AtTag .partialByVariable reference d tail →
        (w.Consults r (PartialReference.parse reference).file ↔ IsReference reference)) ∧
      (∀ m reference d tail, m.opensPartial → w.AtName m reference d tail →
        ¬ IsReference reference → w.Refuses r referenceSigns reference ∧
          ∃ c offset, firstBad? referenceSigns 0 reference.toList = some (c, offset) ∧
            r.render template context = .error (w.failure (.badCharacter reference c offset))) ∧
      ∀ name d tail, w.AtTag .partialByVariable name d tail → IsTagName name →
        w.Consults r name := by
  have hconsults {name : String} : w.Consults r name ↔ w.Asks name :=
    consults_iff (spaced_rest_of_reaches h)
  have hfile {reference : String} {d : Nat} {tail : List Node}
      (htag : w.AtTag .partialByVariable reference d tail) (hreference : IsReference reference) :
      w.Consults r (PartialReference.parse reference).file :=
    hconsults.mpr (.file htag hreference)
  refine ⟨fun name hname => ?_, fun m name d tail hm hat => ⟨fun hname => ?_, fun hname => ?_⟩,
    fun m name d tail hm hat hname => ?_, fun reference d tail htag => ⟨fun hname => ?_, hfile htag⟩,
    fun m reference d tail hm hat hreference => ?_, fun name d tail htag hname => ?_⟩
  · cases hconsults.mp hname with
    | @print m name d tail hm hvisible hat hname =>
      exact .inl ⟨m, d, tail, .inl hm, hat, hname⟩
    | @enter m name d tail hm hat hname => exact .inl ⟨m, d, tail, .inr hm, hat, hname⟩
    | @file reference d tail htag hreference =>
      exact .inr ⟨reference, d, tail, htag, hreference, rfl⟩
  · refine Decidable.byContradiction fun hnot => ?_
    exact (hat.refuses_name (r := r) (hm.imp_left And.left) hnot).not_consults name hname
  · obtain ⟨hm, hvisible⟩ | hm := hm
    · exact hconsults.mpr (.print hm hvisible hat hname)
    · exact hconsults.mpr (.enter hm hat hname)
  · have hrefuses : w.Refuses r tagSigns name := hat.refuses_name hm hname
    exact ⟨hrefuses, hrefuses.render_eq h⟩
  · refine Decidable.byContradiction fun hnot => ?_
    obtain ⟨d₃, hat⟩ := htag.atName
    exact (hat.refuses_reference (r := r) rfl hnot).not_consults _ hname
  · have hrefuses : w.Refuses r referenceSigns reference := hat.refuses_reference hm hreference
    exact ⟨hrefuses, hrefuses.render_eq h⟩
  · have hname' := hfile htag hname.isReference
    rwa [hname.file_parse] at hname'

/-- A partial whose variable could not be printed, since its name holds a point. -/
def pointInName : String := "\x7b\x7b< a.b \x7d\x7d"

/-- A context that has this name for a key. -/
def pointInKey : Value := .object [("a.b", .string "p")]

/-- The partial that the variable names. -/
def fileBehindPoint : Renderer := ⟨(Store.mk [("p.mustache", "P")]).loader, {}⟩

/-- At the tag. -/
theorem exists_pointInName : ∃ w d tail, Reaches fileBehindPoint (start pointInName pointInKey) w ∧
    w.AtTag .partialByVariable "a.b" d tail := by
  have hwalk : ((start pointInName pointInKey).after fileBehindPoint 1).map (fun w => w.tape.rest) =
      some (Node.ofTokens 0 (Marker.partialByVariable.tag "a.b" ++ [.text ""])) := by
    decide +kernel
  obtain ⟨w, hw, hrest⟩ := Option.map_eq_some_iff.mp hwalk
  exact ⟨w, 0, _, reaches_of_after hw, 0, 0, hrest⟩

/-- The variable is looked up there. -/
theorem consults_pointInName : ∃ w, Reaches fileBehindPoint (start pointInName pointInKey) w ∧
    w.Consults fileBehindPoint "a.b" := by
  obtain ⟨w, d, tail, hw, htag⟩ := exists_pointInName
  exact ⟨w, hw, ((lookups_are_checked hw).2.2.2.1 "a.b" d tail htag).mpr (by decide)⟩

/-- So not every name that is looked up is allowed in a variable. -/
theorem not_isTagName_of_consults :
    ¬ ∀ w name, Reaches fileBehindPoint (start pointInName pointInKey) w →
      w.Consults fileBehindPoint name → IsTagName name := by
  intro h
  obtain ⟨w, d, tail, hw, htag⟩ := exists_pointInName
  have hasks : w.Asks "a.b" := .file htag (by decide)
  have hconsults := (consults_iff (r := fileBehindPoint) (spaced_rest_of_reaches hw)).mpr hasks
  exact absurd (h w "a.b" hw hconsults) (by decide)

end Walk

end Mustache
