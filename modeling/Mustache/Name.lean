import Mustache.Error
/-!
# Allowed characters

The name in a variable or section tag is made of ASCII letters, digits and a few signs, or is a
single point, which stands for the whole frame. The reference in a partial tag may also hold what
paths, parameters and their quoted values need. The first character that is not allowed is reported
with its byte offset.
-/

namespace Mustache

/-- The name that stands for the whole frame. -/
def wholeFrame : String := "."

/-- The signs that may stand in a tag name. -/
def tagSigns : List Char := "-_@[]".toList

/-- The signs and blanks that may stand in a partial reference. -/
def referenceSigns : List Char := "-_@[]/|=().,:;!?\"' \t\r\n".toList

/-- Whether the character is an ASCII letter, an ASCII digit or one of the signs. -/
def isAllowed (signs : List Char) (c : Char) : Bool :=
  c.isAlphanum || signs.contains c

/-- The first character that is not allowed, with its byte offset; the text starts at `offset`. -/
def firstBad? (signs : List Char) (offset : Nat) : List Char → Option (Char × Nat)
  | [] => none
  | c :: cs => if isAllowed signs c then firstBad? signs (offset + c.utf8Size) cs else some (c, offset)

/-- Checks that a text holds allowed characters only. -/
def checkCharacters (signs : List Char) (name : String) : Except RenderError Unit :=
  match firstBad? signs 0 name.toList with
  | some (c, offset) => .error (.badCharacter name c offset)
  | none => .ok ()

/-- Checks the name in a variable or section tag. -/
def checkTagName (name : String) : Except RenderError Unit :=
  if name = wholeFrame then .ok () else checkCharacters tagSigns name

/-- Checks the reference in a partial tag. -/
def checkReference (reference : String) : Except RenderError Unit :=
  checkCharacters referenceSigns reference

theorem firstBad?_eq_none_iff {signs cs : List Char} {offset : Nat} :
    firstBad? signs offset cs = none ↔ ∀ c ∈ cs, isAllowed signs c = true := by
  induction cs generalizing offset with
  | nil => simp [firstBad?]
  | cons c cs ih =>
    simp only [firstBad?, List.mem_cons, forall_eq_or_imp]
    split
    · rename_i hc
      simp [hc, ih]
    · rename_i hc
      simp [hc]

/-- A text passes the check when all its characters are allowed. -/
theorem checkCharacters_eq_ok_iff {signs : List Char} {name : String} :
    checkCharacters signs name = .ok () ↔ ∀ c ∈ name.toList, isAllowed signs c = true := by
  have hiff := @firstBad?_eq_none_iff signs name.toList 0
  rw [← hiff]
  simp only [checkCharacters]
  split
  · rename_i h
    simp [h]
  · rename_i h
    simp [h]

end Mustache
