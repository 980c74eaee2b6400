import Mathlib.Tactic.FinCases
import Mustache.Proofs.Entities
/-!
# Reading escaped text back

A reader of markup goes over a text once, from left to right, and puts a character in place of each
named entity (`decode`). Read in this way, escaped text is the text that was escaped, less its control
characters, whatever the text looks like: `&lt;` is written as `&amp;lt;`, and the reader does not go
back to the `&` that it has put in.

The step is `decodeChars_entity`: what one character was written as is read as a whole, and the reader
stands right behind it. Nothing has to be known of what comes after it, so no entity is found across
the place where two characters meet.

* `decode_escape`: the round trip.
* `escape_eq_iff`: two texts are written alike exactly if they differ in control characters only.
* `escape_lossless`: what is lost and what is not, together with what escaped text is made of and how
  it is written.
-/

namespace Mustache.Html

/-! ### Reading -/

/-- Puts characters in place of the named entities, in one pass. -/
def decodeChars : List Char → List Char
  | '&' :: 'a' :: 'm' :: 'p' :: ';' :: rest => '&' :: decodeChars rest
  | '&' :: 'q' :: 'u' :: 'o' :: 't' :: ';' :: rest => '"' :: decodeChars rest
  | '&' :: 'a' :: 'p' :: 'o' :: 's' :: ';' :: rest => '\'' :: decodeChars rest
  | '&' :: 'l' :: 't' :: ';' :: rest => '<' :: decodeChars rest
  | '&' :: 'g' :: 't' :: ';' :: rest => '>' :: decodeChars rest
  | '&' :: 'p' :: 'e' :: 'r' :: 'c' :: 'n' :: 't' :: ';' :: rest => '%' :: decodeChars rest
  | c :: rest => c :: decodeChars rest
  | [] => []

/-- The text that markup stands for. -/
def decode (markup : String) : String := String.ofList (decodeChars markup.toList)

/-- The text without its control characters. -/
def withoutControls (s : String) : String := String.ofList (s.toList.filter fun c => !isControl c)

/-- The text has no control characters. -/
def ControlFree (s : String) : Prop := ∀ c ∈ s.toList, isControl c = false

instance (s : String) : Decidable (ControlFree s) :=
  decidable_of_iff (s.toList.all (fun c => !isControl c) = true) (by simp [ControlFree])

variable {c : Char} {cs : List Char}

theorem decodeChars_cons (h : c ≠ '&') (rest : List Char) :
    decodeChars (c :: rest) = c :: decodeChars rest := by
  -- Only an ampersand can begin an entity.
  rw [decodeChars.eq_def]
  split <;> simp_all

theorem isControl_of_mem_named {e : List Char} (h : (c, e) ∈ named) : isControl c = false := by
  have hall : ∀ p ∈ named, isControl p.1 = false := by decide
  exact hall (c, e) h

theorem entity_of_isControl (h : isControl c = true) : entity c = [] := by
  obtain hnamed | ⟨-, hnil⟩ | ⟨-, -, hspecial⟩ := entity_cases c
  · rw [isControl_of_mem_named hnamed] at h
    cases h
  · exact hnil
  · rw [isControl_of_isSpecial hspecial] at h
    cases h

theorem decodeChars_of_mem_named {e : List Char} (h : (c, e) ∈ named) (rest : List Char) :
    decodeChars (e ++ rest) = c :: decodeChars rest := by
  -- An entity is read as a whole, whatever comes after it.
  have hall : ∀ p ∈ named, decodeChars (p.2 ++ rest) = p.1 :: decodeChars rest := by
    intro p hp
    fin_cases hp <;> rfl
  exact hall (c, e) h

/-- **What one character was written as is read as this character**, or as nothing if it is a control
character, and what comes after it is read by itself. -/
theorem decodeChars_entity (c : Char) (rest : List Char) :
    decodeChars (entity c ++ rest) =
      if isControl c then decodeChars rest else c :: decodeChars rest := by
  obtain hnamed | ⟨hcontrol, hnil⟩ | ⟨hself, hamp, hspecial⟩ := entity_cases c
  · rw [decodeChars_of_mem_named hnamed, isControl_of_mem_named hnamed]
    rfl
  · rw [hnil, hcontrol]
    rfl
  · rw [hself, isControl_of_isSpecial hspecial]
    exact decodeChars_cons hamp rest

theorem decodeChars_escapeChars (cs : List Char) :
    decodeChars (escapeChars cs) = cs.filter fun c => !isControl c := by
  induction cs with
  | nil => rfl
  | cons c cs ih =>
    rw [escapeChars_cons, decodeChars_entity, ih, List.filter_cons]
    cases isControl c <;> rfl

/-- **Escaped text is read as the text that was escaped**, less its control characters. -/
theorem decode_escape (s : String) : decode (escape s) = withoutControls s := by
  rw [decode, toList_escape, decodeChars_escapeChars, withoutControls]

/-! ### What is written -/

theorem escapeChars_filter (cs : List Char) :
    escapeChars (cs.filter fun c => !isControl c) = escapeChars cs := by
  induction cs with
  | nil => rfl
  | cons c cs ih =>
    rw [escapeChars_cons, List.filter_cons]
    cases hcontrol : isControl c with
    | true =>
      rw [entity_of_isControl hcontrol]
      exact ih
    | false => exact (escapeChars_cons _ _).trans (congrArg (entity c ++ ·) ih)

/-- Control characters are all that escaping loses. -/
theorem escape_eq_iff (s t : String) :
    escape s = escape t ↔ withoutControls s = withoutControls t := by
  constructor
  · intro h
    rw [← decode_escape, ← decode_escape, h]
  · intro h
    have hchars := String.ofList_injective h
    rw [escape, escape, ← escapeChars_filter s.toList, hchars, escapeChars_filter]

theorem ControlFree.withoutControls_eq {s : String} (h : ControlFree s) : withoutControls s = s := by
  have hall : ∀ c ∈ s.toList, (!isControl c) = true := fun c hc => by rw [h c hc]; rfl
  rw [withoutControls, List.filter_eq_self.mpr hall, String.ofList_toList]

/-! ### Escaping -/

/-- **Escaping loses control characters and nothing else.**

* Reading escaped text gives the text back without them, so texts that have none are written alike
  only if they are the same.
* Escaped text has no special character, and each of its ampersands begins a named entity.
* Texts that are joined are escaped one by one, and a buffer keeps what it held. -/
theorem escape_lossless :
    (∀ s, decode (escape s) = withoutControls s) ∧
    (∀ s t, ControlFree s → ControlFree t → escape s = escape t → s = t) ∧
    (∀ s, (∀ c ∈ (escape s).toList, isSpecial c = false) ∧ AmpersandsNamed (escape s).toList) ∧
    (∀ s t, escape (s ++ t) = escape s ++ escape t) ∧
    ∀ buffer s, escapeOnto buffer s = buffer ++ escape s := by
  refine ⟨decode_escape, ?_, ?_, escape_append, escapeOnto_eq⟩
  · intro s t hs ht h
    rw [← hs.withoutControls_eq, ← ht.withoutControls_eq]
    exact (escape_eq_iff s t).mp h
  · intro s
    rw [toList_escape]
    exact ⟨fun c hc => isSpecial_of_mem_escapeChars hc, ampersandsNamed_escapeChars s.toList⟩

/-- A text that looks like an entity is not written as the character that it would stand for. -/
theorem escape_entityLike : escape "&lt;" ≠ escape "<" ∧
    decode (escape "&lt;\t<%&amp;amp") = "&lt;<%&amp;amp" := by
  obtain ⟨hdecode, hinjective, -⟩ := escape_lossless
  constructor
  · intro h
    have hsame : "&lt;" = "<" := hinjective "&lt;" "<" (by decide) (by decide) h
    exact absurd hsame (by decide)
  · rw [hdecode]
    decide

end Mustache.Html
