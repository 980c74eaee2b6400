import Mustache.Text.Blank
/-!
# References to partials

The text in a partial tag names a file, and after it the parameters of this inclusion, all set apart
by bars. Blanks around a piece do not count, and an empty piece after the file is no parameter.
-/

namespace Mustache

/-- A file to include, and the parameters that come with it. -/
structure PartialReference where
  /-- The logical name of the file. -/
  file : String
  /-- The parameters, in their order. -/
  parameters : List String
deriving DecidableEq, Repr

/-- Reads the text of a partial tag. -/
def PartialReference.parse (text : String) : PartialReference :=
  let pieces := (text.toList.splitOn '|').map fun piece => String.ofList (Text.trimBlanks piece)
  ⟨pieces.headD "", pieces.tail.filter fun piece => !piece.isEmpty⟩

end Mustache
