import Mathlib.Tactic.SplitIfs
import Mustache.Html
/-!
# What escaped text is made of

Escaping leaves none of the characters by which markup could be told from text.

* `isSpecial_of_mem_escapeChars`: no escaped text has a special character, that is a bracket, a
  quote, a percent sign or a control character.
* `ampersandsNamed_escapeChars`: every ampersand in escaped text begins a named entity.

Both are read off the characters one by one (`entity_cases`), and both survive the joining of texts.
-/

namespace Mustache.Html

/-- The characters that escaped text has none of: brackets, quotes, the percent sign and the control
characters. -/
def isSpecial (c : Char) : Bool :=
  ['<', '>', '"', '\'', '%'].contains c || isControl c

/-- The named entities that escaping writes. -/
def entities : List (List Char) :=
  ["&amp;", "&quot;", "&apos;", "&lt;", "&gt;", "&percnt;"].map String.toList

/-- Every ampersand begins a named entity. -/
def AmpersandsNamed (cs : List Char) : Prop :=
  ∀ before behind, cs = before ++ '&' :: behind → ∃ e ∈ entities, e <+: '&' :: behind

/-- The characters that have named entities, each with its own. -/
def named : List (Char × List Char) :=
  ['&', '"', '\'', '<', '>', '%'].zip entities

theorem mem_entities_of_mem_named {c : Char} {e : List Char} (h : (c, e) ∈ named) : e ∈ entities :=
  (List.of_mem_zip h).2

theorem isControl_of_isSpecial {c : Char} (h : isSpecial c = false) : isControl c = false :=
  (Bool.or_eq_false_iff.mp h).2

/-- A character becomes its named entity, or nothing if it is a control character, or stays if it is
neither special nor an ampersand. -/
theorem entity_cases (c : Char) : (c, entity c) ∈ named ∨ isControl c = true ∧ entity c = [] ∨
    entity c = [c] ∧ c ≠ '&' ∧ isSpecial c = false := by
  unfold entity
  split_ifs with hamp hquot hapos hlt hgt hpercent hcontrol
  · exact .inl (hamp ▸ by decide)
  · exact .inl (hquot ▸ by decide)
  · exact .inl (hapos ▸ by decide)
  · exact .inl (hlt ▸ by decide)
  · exact .inl (hgt ▸ by decide)
  · exact .inl (hpercent ▸ by decide)
  · exact .inr (.inl ⟨hcontrol, rfl⟩)
  · refine .inr (.inr ⟨rfl, hamp, ?_⟩)
    simp [isSpecial, hquot, hapos, hlt, hgt, hpercent, hcontrol]

/-! ### Special characters -/

theorem isSpecial_of_mem_entity {c d : Char} (h : d ∈ entity c) : isSpecial d = false := by
  obtain hnamed | ⟨-, hnil⟩ | ⟨hself, -, hspecial⟩ := entity_cases c
  · have hnone : ∀ e ∈ entities, (e.all fun d => !isSpecial d) = true := by decide
    simpa using List.all_eq_true.mp (hnone _ (mem_entities_of_mem_named hnamed)) d h
  · simp [hnil] at h
  · rw [hself, List.mem_singleton] at h
    exact h ▸ hspecial

/-- **Escaped text has no special characters.** -/
theorem isSpecial_of_mem_escapeChars {cs : List Char} {c : Char} (h : c ∈ escapeChars cs) :
    isSpecial c = false := by
  obtain ⟨d, -, hc⟩ := List.mem_flatMap.mp h
  exact isSpecial_of_mem_entity hc

/-! ### Ampersands -/

theorem ampersandsNamed_of_not_mem {cs : List Char} (h : '&' ∉ cs) : AmpersandsNamed cs := by
  rintro before behind rfl
  simp at h

/-- An entity has one ampersand, at its start. -/
theorem ampersandsNamed_of_mem_entities {e : List Char} (he : e ∈ entities) :
    AmpersandsNamed e := by
  have hstart : ∀ e ∈ entities, e.head? = some '&' ∧ '&' ∉ e.tail := by decide
  obtain ⟨-, htail⟩ := hstart e he
  rintro before behind rfl
  cases before with
  | nil => exact ⟨_, he, List.prefix_rfl⟩
  | cons c before => simp at htail

/-- An entity does not reach over the end of a text, so texts can be joined. -/
theorem AmpersandsNamed.append {cs ds : List Char} (hcs : AmpersandsNamed cs)
    (hds : AmpersandsNamed ds) : AmpersandsNamed (cs ++ ds) := by
  intro before behind h
  obtain ⟨middle, rfl, hbehind⟩ | ⟨middle, rfl, hmiddle⟩ := List.append_eq_append_iff.mp h
  -- The ampersand is in the second text, or in the first with the rest of its entity.
  · exact hds middle behind hbehind
  · cases middle with
    | nil => exact hds [] behind hmiddle.symm
    | cons c middle =>
      obtain ⟨rfl, rfl⟩ := List.cons.inj hmiddle
      obtain ⟨e, he, hprefix⟩ := hcs before middle rfl
      exact ⟨e, he, hprefix.trans (List.prefix_append ('&' :: middle) ds)⟩

/-- **Every ampersand in escaped text begins a named entity.** -/
theorem ampersandsNamed_escapeChars (cs : List Char) : AmpersandsNamed (escapeChars cs) := by
  induction cs with
  | nil => exact ampersandsNamed_of_not_mem (by simp)
  | cons c cs ih =>
    rw [escapeChars_cons]
    refine AmpersandsNamed.append ?_ ih
    obtain hnamed | ⟨-, hnil⟩ | ⟨hself, hamp, -⟩ := entity_cases c
    · exact ampersandsNamed_of_mem_entities (mem_entities_of_mem_named hnamed)
    · exact ampersandsNamed_of_not_mem (by simp [hnil])
    · exact ampersandsNamed_of_not_mem (by simp [hself, hamp.symm])

end Mustache.Html
