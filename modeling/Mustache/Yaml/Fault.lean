import Mustache.Text.Utf8
/-!
# Faults of a YAML text

A `Fault` says what keeps a text from being YAML, or from being the value that is asked for, and at
which place. Places count lines and columns from zero; the message counts them from one, and is silent
about the very start of the text. A `DocumentFault` also says on which way the node was reached.
-/

namespace Mustache.Yaml

/-- A place in a text. -/
structure Place where
  /-- The number of bytes before it. -/
  offset : Nat
  /-- The number of lines before it. -/
  line : Nat
  /-- The number of characters of its line before it. -/
  column : Nat
deriving DecidableEq, Repr

/-- The place where a text starts; what concerns a text as a whole stands there. -/
def Place.start : Place := ⟨0, 0, 0⟩

/-- The place behind some characters, none of them a line break. -/
def Place.behind (p : Place) (cs : List Char) : Place :=
  ⟨p.offset + Text.byteCount cs, p.line, p.column + cs.length⟩

/-- The place behind a mark of one ASCII character. -/
def Place.behindMark (p : Place) : Place := ⟨p.offset + 1, p.line, p.column + 1⟩

/-- The place at the start of the next line, behind a line break. -/
def Place.down (p : Place) (lineBreak : List Char) : Place :=
  ⟨p.offset + Text.byteCount lineBreak, p.line + 1, 0⟩

example : Place.start.behind ['é', 'x'] = ⟨3, 0, 2⟩ := by decide

/-- What can be wrong with a YAML text. -/
inductive Problem where
  /-- The text holds a character that no YAML text may hold. -/
  | controlCharacter
  /-- Nothing starts with this character. -/
  | unexpectedCharacter
  /-- A dash stands where no item may start. -/
  | misplacedItem
  /-- A question mark stands where no key may start. -/
  | misplacedKey
  /-- A colon stands where no value may start. -/
  | misplacedValue
  /-- No colon follows what has to be a key. -/
  | expectedColon
  /-- A colon touches what follows it inside brackets. -/
  | unexpectedColon
  /-- A tab stands where only spaces indent. -/
  | tabInIndentation
  /-- The text ends inside quotes. -/
  | endInQuotes
  /-- A document ends inside quotes. -/
  | documentInQuotes
  /-- A backslash starts no escape. -/
  | badEscape
  /-- The indentation of a block text is given as zero. -/
  | zeroIndentation
  /-- Something follows on a line that should end. -/
  | expectedLineEnd
  /-- An anchor or alias has no name. -/
  | badAnchor
  /-- A tag is malformed. -/
  | badTag
  /-- A tag begins with a handle that stands for nothing. -/
  | unknownTagHandle
  /-- A directive is malformed or unknown. -/
  | badDirective
  /-- A directive is given twice. -/
  | repeatedDirective
  /-- The text is written in a version of YAML that is not known. -/
  | unknownVersion
  /-- No document starts here. -/
  | expectedDocument
  /-- A second document starts. -/
  | moreThanOneDocument
  /-- No value starts here. -/
  | expectedContent
  /-- Neither an item nor the end of a block list follows. -/
  | expectedItem
  /-- Neither a key nor the end of a block mapping follows. -/
  | expectedKey
  /-- Neither a comma nor the closing bracket follows. -/
  | expectedCommaOrBracket
  /-- Neither a comma nor the closing brace follows. -/
  | expectedCommaOrBrace
  /-- An alias refers to no anchor. -/
  | unknownAnchor
  /-- Lists and mappings are nested too deeply, or contain themselves. -/
  | tooDeep
  /-- Aliases make too much out of a small text. -/
  | tooManyAliases
  /-- A value of another type is asked for. -/
  | wrongType (found expected : String)
  /-- A tag asks for another value. -/
  | wrongValue (found expected : String)
  /-- A number has no form in JSON. -/
  | numberOutOfRange
  /-- A field is given twice. -/
  | repeatedField (name : String)
deriving DecidableEq, Repr

/-- The problem in words. -/
def Problem.message : Problem → String
  | controlCharacter => "control characters are not allowed"
  | unexpectedCharacter => "found character that cannot start any token"
  | misplacedItem => "block sequence entries are not allowed in this context"
  | misplacedKey => "mapping keys are not allowed in this context"
  | misplacedValue => "mapping values are not allowed in this context"
  | expectedColon => "could not find expected ':'"
  | unexpectedColon => "found unexpected ':'"
  | tabInIndentation => "found a tab character where an indentation space is expected"
  | endInQuotes => "found unexpected end of stream"
  | documentInQuotes => "found unexpected document indicator"
  | badEscape => "found unknown escape character"
  | zeroIndentation => "found an indentation indicator equal to 0"
  | expectedLineEnd => "did not find expected comment or line break"
  | badAnchor => "did not find expected alphabetic or numeric character"
  | badTag => "did not find expected tag URI"
  | unknownTagHandle => "found undefined tag handle"
  | badDirective => "found unknown directive name"
  | repeatedDirective => "found duplicate directive"
  | unknownVersion => "found incompatible YAML document"
  | expectedDocument => "did not find expected <document start>"
  | moreThanOneDocument => "deserializing from YAML containing more than one document is not supported"
  | expectedContent => "did not find expected node content"
  | expectedItem => "did not find expected '-' indicator"
  | expectedKey => "did not find expected key"
  | expectedCommaOrBracket => "did not find expected ',' or ']'"
  | expectedCommaOrBrace => "did not find expected ',' or '\x7d'"
  | unknownAnchor => "unknown anchor"
  | tooDeep => "recursion limit exceeded"
  | tooManyAliases => "repetition limit exceeded"
  | wrongType found expected => s!"invalid type: {found}, expected {expected}"
  | wrongValue found expected => s!"invalid value: {found}, expected {expected}"
  | numberOutOfRange => "JSON number out of range"
  | repeatedField name => s!"duplicate field `{name}`"

/-- A problem and its place. -/
structure Fault where
  /-- What is wrong. -/
  problem : Problem
  /-- Where. -/
  place : Place
deriving DecidableEq, Repr

/-- The fault in words. -/
def Fault.message (fault : Fault) : String :=
  let text := fault.problem.message
  let line := fault.place.line
  let column := fault.place.column
  if line = 0 ∧ column = 0 then text else s!"{text} at line {line + 1} column {column + 1}"

example : Fault.message ⟨.tooDeep, ⟨7, 1, 2⟩⟩ = "recursion limit exceeded at line 2 column 3" := by
  decide +kernel

/-! ### Ways through a document -/

/-- A step from a list or mapping to a node inside it. -/
inductive Step where
  /-- To the item with this number. -/
  | item (index : Nat)
  /-- To the value of a key. -/
  | field (key : String)
deriving DecidableEq, Repr

/-- The steps from the root of a document to a node in words, the last of them first. -/
def waypoints : List Step → String
  | [] => "."
  | .item index :: before => s!"{waypoints before}[{index}]"
  | [.field key] => key
  | .field key :: before => s!"{waypoints before}.{key}"

example : waypoints [.field "c", .item 0, .field "b", .field "a"] = "a.b[0].c" := by decide +kernel

example : waypoints [.item 1, .item 0] = ".[0][1]" := by decide +kernel

/-- A fault of a document, with the steps to the node that it concerns, the last of them first. What
concerns no node has no steps. -/
structure DocumentFault where
  /-- The steps from the root. -/
  steps : List Step
  /-- What is wrong, and where. -/
  fault : Fault
deriving DecidableEq, Repr

/-- The fault in words. -/
def DocumentFault.message (e : DocumentFault) : String :=
  let way := waypoints e.steps
  if way == "." then e.fault.message else s!"{way}: {e.fault.message}"

/-- Says of a fault which steps lead to its node. -/
def withSteps {α : Type} (steps : List Step) (result : Except Fault α) : Except DocumentFault α :=
  result.mapError fun fault => ⟨steps, fault⟩

end Mustache.Yaml
