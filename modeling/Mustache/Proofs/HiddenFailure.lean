import Mustache.Proofs.ErrorClass
import Mustache.Proofs.HiddenRegion
/-!
# Failures in hidden regions

A hidden region writes nothing, but it is walked all the same, and the context has a part in the way:
the start of a section is looked up, and so is the variable that names a file. Only a variable tag that
is not to be printed asks for nothing. A region that is hidden because a value is missing can
therefore stop a render for the very lack of that value.

* `render_of_hidden_failure`: what the context can stop a render with in a hidden region is exactly a
  section whose value cannot be looked up, or a tag whose variable names no file. A variable tag never
  does.
* `not_hidden_without_context`: a section shown if a variable is there does not guard a tag that
  includes the file named by the variable.
-/

namespace Mustache

namespace Walk

variable {r : Renderer} {template : String} {context : Value} {w : Walk} {f : RenderFailure}

/-- **How a context can stop a render in a hidden region.** -/
theorem render_of_hidden_failure (hw : InHidden r (start template context) w)
    (hf : w.step r = .error f) :
    r.render template context = .error f ∧
      (f.error.kind = .valueType ∨ f.error.kind = .context ↔
        (∃ m name d tail, m.opensSection ∧ w.AtName m name d tail ∧ checkTagName name = .ok () ∧
          w.scopes.resolve name = .error f.error) ∨
        ∃ reference d tail, w.AtTag .partialByVariable reference d tail ∧
          checkReference reference = .ok () ∧
          w.partialFile .partialByVariable (PartialReference.parse reference).file =
            .error f.error) := by
  have hvisible : w.visible = false := (visible_eq_false_iff hw.reaches).mpr hw
  have hspaced := spaced_rest_of_reaches hw.reaches
  constructor
  · rw [Renderer.render, hw.reaches.run_eq, run_of_failure hf]
  · rw [kind_iff_byContext hspaced hf]
    constructor
    · intro h
      cases h with
      -- A hidden variable tag does not look its name up.
      | print hshown => exact absurd (hvisible.symm.trans hshown) Bool.false_ne_true
      | @enter m name d tail e hm hat hname hlookup =>
        exact .inl ⟨m, name, d, tail, hm, hat, hname, hlookup⟩
      | @file reference d tail e htag hreference hfile =>
        exact .inr ⟨reference, d, tail, htag, hreference, hfile⟩
    · rintro (⟨m, name, d, tail, hm, hat, hname, hlookup⟩ |
        ⟨reference, d, tail, htag, hreference, hfile⟩)
      · exact .enter hm hat hname hlookup
      · exact .file htag hreference hfile

/-- A section shown if a variable is there, with a tag in it that includes the file named by the
variable. -/
def guardedFile : String := "\x7b\x7b=t\x7d\x7d\x7b\x7b< t \x7d\x7d\x7b\x7b/t\x7d\x7d"

/-- Without the variable, the walk stands in front of the tag in a hidden region, and fails there. -/
theorem exists_hidden_guardedFile :
    ∃ w, InHidden ⟨(∅ : Store).loader, {}⟩ (start guardedFile (.object [])) w ∧
      w.step ⟨(∅ : Store).loader, {}⟩ = .error ⟨"", .missingPartialVariable "t"⟩ := by
  have hwalk : ((start guardedFile (.object [])).after ⟨(∅ : Store).loader, {}⟩ 3).map
      (fun w => (w.visible, w.halted? ⟨(∅ : Store).loader, {}⟩)) =
      some (false, some ⟨"", .missingPartialVariable "t"⟩) := by
    decide +kernel
  obtain ⟨w, hw, heq⟩ := Option.map_eq_some_iff.mp hwalk
  obtain ⟨hvisible, hfailure⟩ := Prod.mk.inj heq
  exact ⟨w, (visible_eq_false_iff (reaches_of_after hw)).mp hvisible,
    halted?_eq_some_iff.mp hfailure⟩

theorem render_guardedFile :
    (⟨(∅ : Store).loader, {}⟩ : Renderer).render guardedFile (.object []) =
        .error ⟨"", .missingPartialVariable "t"⟩ ∧
      ∃ w reference d tail, InHidden ⟨(∅ : Store).loader, {}⟩ (start guardedFile (.object [])) w ∧
        w.AtTag .partialByVariable reference d tail := by
  obtain ⟨w, hw, hf⟩ := exists_hidden_guardedFile
  obtain ⟨hrender, hiff⟩ := render_of_hidden_failure hw hf
  refine ⟨hrender, ?_⟩
  obtain ⟨m, name, d, tail, hm, hat, hname, hlookup⟩ | ⟨reference, d, tail, htag, -⟩ :=
    hiff.mp (.inl rfl)
  -- The lookup of a section fails with an error of the other class.
  · exact absurd (Scopes.kind_of_resolve hlookup) (by decide)
  · exact ⟨w, reference, d, tail, hw, htag⟩

/-- A hidden region can fail because of what the context holds. -/
theorem not_hidden_without_context :
    ¬ ∀ (r : Renderer) (template : String) (context : Value) (w : Walk) (f : RenderFailure),
      InHidden r (start template context) w → w.step r = .error f →
        f.error.kind ≠ .valueType ∧ f.error.kind ≠ .context := by
  intro h
  obtain ⟨w, hw, hf⟩ := exists_hidden_guardedFile
  exact (h _ _ _ w _ hw hf).1 rfl

end Walk

end Mustache
