import Mustache.Yaml.Fault
/-!
# Lexemes of a YAML text

A YAML text is a row of lexemes: texts, names and punctuation, and the starts and ends of lists and
mappings, which in block style follow from the indentation.
-/

namespace Mustache.Yaml

/-- How a text is written. -/
inductive Style where
  /-- Without quotes. -/
  | plain
  /-- In single or double quotes. -/
  | quoted
  /-- As a block whose lines are kept. -/
  | literal
  /-- As a block whose lines are joined. -/
  | folded
deriving DecidableEq, Repr

/-- A tag, in bytes. A tag may be written by the numbers of its bytes, so they need not be a text. -/
abbrev Tag := List UInt8

/-- The tag that a text gives. -/
def Tag.ofString (s : String) : Tag := s.toUTF8.toList

/-- Whether the tag is a text. -/
def Tag.isText (tag : Tag) : Bool := (String.fromUTF8? tag.toByteArray).isSome

/-- A tag as it is written. -/
inductive TagName where
  /-- The tag in full. -/
  | full (tag : Tag)
  /-- A handle, which stands for the start of the tag, and the rest of it. -/
  | short (handle : String) (suffix : Tag)
deriving DecidableEq, Repr

/-- A piece of a YAML text. -/
inductive Lexeme where
  /-- The version of YAML in which the text is written. -/
  | version (major minor : Nat)
  /-- A handle and the start of a tag that it stands for. -/
  | tagHandle (handle : String) (start : Tag)
  /-- The mark of three dashes. -/
  | documentStart
  /-- The mark of three dots. -/
  | documentEnd
  /-- The start of a list in block style. -/
  | listStart
  /-- The start of a mapping in block style. -/
  | mappingStart
  /-- The end of a list or mapping in block style. -/
  | blockEnd
  /-- An opening bracket. -/
  | openBracket
  /-- A closing bracket. -/
  | closeBracket
  /-- An opening brace. -/
  | openBrace
  /-- A closing brace. -/
  | closeBrace
  /-- The dash before an item. -/
  | item
  /-- A comma between brackets or braces. -/
  | comma
  /-- The start of a key, with or without its question mark. -/
  | key
  /-- The colon before a value. -/
  | value
  /-- A reference to an anchor. -/
  | alias (name : String)
  /-- A name for the node that follows. -/
  | anchor (name : String)
  /-- The tag of the node that follows. -/
  | tag (name : TagName)
  /-- A text. -/
  | scalar (style : Style) (text : String)
deriving DecidableEq, Repr

/-- A lexeme and its place. -/
structure Located where
  /-- The lexeme. -/
  lexeme : Lexeme
  /-- Where it starts. -/
  place : Place
deriving DecidableEq, Repr

end Mustache.Yaml
