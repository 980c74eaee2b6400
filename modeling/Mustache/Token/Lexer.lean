import Mustache.Text.Blank
import Mustache.Token
/-!
# Cutting a template into tokens

Cutting never fails: a malformed tag becomes a sequence of tokens that no tag is made of. It goes in
two steps. `Spans.ofChars` finds the markers and leaves the text between them as it is, so writing
spans and markers one after the other gives the template back. `Spans.tokens` then takes the blanks
off each text that a closing marker follows, which is a name inside a tag; free text keeps them. One
pass over the bytes of the template gives the same tokens (`ByteScan.scan_eq_tokenize`).

Two opening braces start a marker wherever they stand, with a selecting character after them if
there is one. Two closing braces end a tag. A third closing brace belongs to the marker only if
three braces opened the tag; elsewhere it is text.
-/

namespace Mustache

/-- A template cut at its markers: the text before the first marker, and each marker with the text
after it. -/
structure Spans where
  /-- The text before the first marker. -/
  head : List Char
  /-- The markers, each with the text after it. -/
  tail : List (Marker × List Char)
deriving DecidableEq, Repr

namespace Spans

/-- Puts a character in front of the first text. -/
def cons (c : Char) (s : Spans) : Spans :=
  ⟨c :: s.head, s.tail⟩

/-- Puts a marker in front, with an empty text before it. -/
def mark (m : Marker) (s : Spans) : Spans :=
  ⟨[], (m, s.head) :: s.tail⟩

/-- Finds the markers of a template. `unescaped` says whether the last marker was the one of three
opening braces. -/
def ofChars (unescaped : Bool) : List Char → Spans
  | '{' :: '{' :: c :: rest =>
    match Marker.ofSelector? c with
    | some m => mark m (ofChars (m == .unescaped) rest)
    | none => mark .escaped (ofChars false (c :: rest))
  | ['{', '{'] => mark .escaped ⟨[], []⟩
  | '}' :: '}' :: '}' :: rest =>
    if unescaped then mark .closeUnescaped (ofChars false rest)
    else mark .close (ofChars false ('}' :: rest))
  | '}' :: '}' :: rest => mark .close (ofChars false rest)
  | c :: rest => cons c (ofChars unescaped rest)
  | [] => ⟨[], []⟩

/-- A text and what follows it, as tokens: the blanks around it go if the next marker closes a
tag. -/
def tokensFrom : List Char → List (Marker × List Char) → List Token
  | text, [] => [.text (String.ofList text)]
  | text, (m, next) :: rest =>
    .text (String.ofList (if m.isClose then Text.trimBlanks text else text)) :: .marker m ::
      tokensFrom next rest

/-- The tokens of a template that is cut at its markers. -/
def tokens (s : Spans) : List Token :=
  tokensFrom s.head s.tail

end Spans

/-- The tokens of a template: text, marker, text, and so on, with a text at either end. -/
def tokenize (template : String) : List Token :=
  (Spans.ofChars false template.toList).tokens

/-! ### First facts -/

theorem Spans.tokensFrom_ne_nil (text : List Char) (rest : List (Marker × List Char)) :
    tokensFrom text rest ≠ [] := by
  cases rest <;> simp [tokensFrom]

theorem tokenize_ne_nil (template : String) : tokenize template ≠ [] :=
  Spans.tokensFrom_ne_nil _ _

end Mustache
