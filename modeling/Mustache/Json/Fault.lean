import Mustache.Text.Utf8
/-!
# Faults of a JSON text

A `Fault` says what is wrong with a text and at which place. While a text is read, places are
counted from its end, since what is left to read is at hand; `Fault.locate` turns such a place into a
line and a column. Columns count bytes.
-/

namespace Mustache.Json

/-- What can be wrong with a JSON text. -/
inductive Problem where
  /-- The text ends where a value should stand. -/
  | endInValue
  /-- The text ends inside an array. -/
  | endInArray
  /-- The text ends inside an object. -/
  | endInObject
  /-- The text ends inside a string. -/
  | endInString
  /-- No value starts here. -/
  | expectedValue
  /-- A word that starts like a literal is none. -/
  | expectedLiteral
  /-- No colon follows a key. -/
  | expectedColon
  /-- Neither a comma nor the end follows an element. -/
  | expectedCommaOrBracket
  /-- Neither a comma nor the end follows a field. -/
  | expectedCommaOrBrace
  /-- A key is not a string. -/
  | keyNotString
  /-- A comma stands before the end of an array or object. -/
  | trailingComma
  /-- Something follows the value. -/
  | trailingCharacters
  /-- A number is malformed. -/
  | badNumber
  /-- A number is too large for a floating point number. -/
  | numberOutOfRange
  /-- A backslash starts no escape. -/
  | badEscape
  /-- Half of a surrogate pair stands alone. -/
  | loneSurrogate
  /-- The second half of a surrogate pair is missing. -/
  | endInEscape
  /-- A control character stands unescaped in a string. -/
  | controlCharacter
  /-- Arrays and objects are nested too deeply. -/
  | tooDeep
deriving DecidableEq, Repr

/-- The problem in words. -/
def Problem.message : Problem → String
  | endInValue => "EOF while parsing a value"
  | endInArray => "EOF while parsing a list"
  | endInObject => "EOF while parsing an object"
  | endInString => "EOF while parsing a string"
  | expectedValue => "expected value"
  | expectedLiteral => "expected ident"
  | expectedColon => "expected `:`"
  | expectedCommaOrBracket => "expected `,` or `]`"
  | expectedCommaOrBrace => "expected `,` or `\x7d`"
  | keyNotString => "key must be a string"
  | trailingComma => "trailing comma"
  | trailingCharacters => "trailing characters"
  | badNumber => "invalid number"
  | numberOutOfRange => "number out of range"
  | badEscape => "invalid escape"
  | loneSurrogate => "lone leading surrogate in hex escape"
  | endInEscape => "unexpected end of hex escape"
  | controlCharacter => "control character (\\u0000-\\u001F) found while parsing a string"
  | tooDeep => "recursion limit exceeded"

/-- A problem, and how many bytes of the text follow its place. -/
structure Fault where
  /-- What is wrong. -/
  problem : Problem
  /-- The number of bytes after the place. -/
  remaining : Nat
deriving DecidableEq, Repr

/-- A problem just before the text that is left. -/
def Fault.before (rest : List Char) (problem : Problem) : Fault :=
  ⟨problem, Text.byteCount rest⟩

/-- A problem just after the first byte of the text that is left, or at the end if nothing is
left. -/
def Fault.past (rest : List Char) (problem : Problem) : Fault :=
  ⟨problem, Text.byteCount rest - 1⟩

/-- A place in a text: the line, counted from one, and the number of bytes before it on the line. -/
structure Location where
  /-- The line, counted from one. -/
  line : Nat
  /-- The number of bytes of the line before the place. -/
  column : Nat
deriving DecidableEq, Repr

/-- The location `offset` bytes after `start`. -/
def Location.advance (start : Location) (offset : Nat) : List Char → Location
  | [] => ⟨start.line, start.column + offset⟩
  | c :: cs =>
    if offset < c.utf8Size then ⟨start.line, start.column + offset⟩
    else
      let next : Location :=
        if c = '\n' then ⟨start.line + 1, 0⟩ else ⟨start.line, start.column + c.utf8Size⟩
      next.advance (offset - c.utf8Size) cs

/-- Why a text is not JSON. -/
structure Error where
  /-- What is wrong. -/
  problem : Problem
  /-- Where. -/
  location : Location
deriving DecidableEq, Repr

/-- The fault with its place as a line and a column of the whole text. -/
def Fault.locate (fault : Fault) (text : List Char) : Error where
  problem := fault.problem
  location := Location.advance ⟨1, 0⟩ (Text.byteCount text - fault.remaining) text

/-- The error in words. -/
def Error.message (e : Error) : String :=
  s!"{e.problem.message} at line {e.location.line} column {e.location.column}"

end Mustache.Json
