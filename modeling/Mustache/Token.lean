/-!
# Tokens of a template

A template is a sequence of markers with text between them. A `Marker` opens or closes a tag and is
known by its symbol; a `Token` is a marker or the text on one side of it, which is either free text
or the name inside a tag.
-/

namespace Mustache

/-- What opens or closes a tag. -/
inductive Marker where
  /-- Opens a tag whose value is printed escaped. -/
  | escaped
  /-- Opens a tag whose value is printed as it is. -/
  | unescaped
  /-- Opens a tag that prints nothing. -/
  | comment
  /-- Opens a section that steps into its value, once for each element of an array. -/
  | sectionOpen
  /-- Opens the tag that ends a section. -/
  | sectionClose
  /-- Opens a section shown when its value is truthy. -/
  | shownIf
  /-- Opens a section shown when its value is falsy. -/
  | shownUnless
  /-- Opens a section shown when its name is found. -/
  | shownIfFound
  /-- Opens a tag that includes the named partial. -/
  | partialTag
  /-- Opens a tag that includes the partial whose name a variable holds. -/
  | partialByVariable
  /-- Closes a tag. -/
  | close
  /-- Closes a tag opened by `unescaped`. -/
  | closeUnescaped
deriving DecidableEq, Repr

namespace Marker

/-- The characters of the marker. -/
def symbol : Marker → String
  | escaped => "\x7b\x7b"
  | unescaped => "\x7b\x7b\x7b"
  | comment => "\x7b\x7b!"
  | sectionOpen => "\x7b\x7b#"
  | sectionClose => "\x7b\x7b/"
  | shownIf => "\x7b\x7b="
  | shownUnless => "\x7b\x7b^"
  | shownIfFound => "\x7b\x7b0"
  | partialTag => "\x7b\x7b>"
  | partialByVariable => "\x7b\x7b<"
  | close => "\x7d\x7d"
  | closeUnescaped => "\x7d\x7d\x7d"

/-- A word for the marker, for listings. -/
def label : Marker → String
  | escaped => "variable"
  | unescaped => "variable-unescaped"
  | comment => "comment"
  | sectionOpen => "section-open"
  | sectionClose => "section-close"
  | shownIf => "if"
  | shownUnless => "unless"
  | shownIfFound => "exists"
  | partialTag => "partial"
  | partialByVariable => "template"
  | close => "close"
  | closeUnescaped => "close-unescaped"

/-- Whether the marker closes a tag. -/
def isClose : Marker → Bool
  | close | closeUnescaped => true
  | _ => false

/-- The marker that the character after two opening braces selects, if that character belongs to the
marker. -/
def ofSelector? : Char → Option Marker
  | '#' => some sectionOpen
  | '=' => some shownIf
  | '^' => some shownUnless
  | '0' => some shownIfFound
  | '/' => some sectionClose
  | '>' => some partialTag
  | '<' => some partialByVariable
  | '!' => some comment
  | '{' => some unescaped
  | _ => none

/-- The marker that ends a tag opened by this one. -/
def closing : Marker → Marker
  | unescaped => closeUnescaped
  | _ => close

end Marker

/-- Text, or a marker. -/
inductive Token where
  /-- Free text between two tags, or the name inside a tag. -/
  | text (s : String)
  /-- A marker. -/
  | marker (m : Marker)
deriving DecidableEq, Repr

namespace Token

/-- The token as it is written in a template. -/
def symbol : Token → String
  | text s => s
  | marker m => m.symbol

/-- A word for the kind of token, for listings. -/
def label : Token → String
  | text _ => "text"
  | marker m => m.label

end Token

end Mustache
