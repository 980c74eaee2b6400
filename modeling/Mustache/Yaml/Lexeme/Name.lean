import Mustache.Yaml.Lexeme
import Mustache.Yaml.Lexeme.Block
import Mustache.Yaml.Lexeme.Quoted
/-!
# Anchors, tags and directives

An anchor names a node, an alias refers to it by that name. A tag names the type of a node, in full
between angle brackets or short, with a handle that a directive gives a meaning to. Directives stand
before a document, each on a line of its own.
-/

namespace Mustache.Yaml

/-- Whether the character may stand in a name or a handle. -/
def isNameChar (c : Char) : Bool :=
  c.isAlphanum || c == '_' || c == '-'

/-- Reads the name of an anchor or alias, after its sign. -/
def Cursor.readAnchor (c : Cursor) : Except Fault (String × Cursor) :=
  let name := c.rest.takeWhile isNameChar
  let next := c.drop name.length
  let ends := endsWord next.rest || next.rest.head?.any ("?:,]\x7d%@`".toList.contains ·)
  if name.isEmpty || !ends then .error (c.fault .badAnchor) else .ok (String.ofList name, next)

/-! ### Tags -/

/-- Whether the character may stand in a tag. Commas and brackets may do so only `inFull`. -/
def isTagChar (inFull : Bool) (c : Char) : Bool :=
  isNameChar c || ";/?:@&=+$.%!~*'()".toList.contains c || inFull && ",[]".toList.contains c

/-- How many bytes follow the first byte of a character. -/
def trailingBytes? (lead : Nat) : Option Nat :=
  if lead < 0x80 then some 0
  else if lead < 0xC0 then none
  else if lead < 0xE0 then some 1
  else if lead < 0xF0 then some 2
  else if lead < 0xF8 then some 3
  else none

/-- The bytes of a part of a tag: a percent sign gives a byte by two hexadecimal digits. All bytes of a
character are given like this, or none; `owed` is how many are still to come. -/
def unescapeTag? (owed : Nat) : List Char → Option Tag
  | [] => if owed = 0 then some [] else none
  | '%' :: a :: b :: rest => do
    let byte ← Text.number? 16 [a, b]
    let owed ←
      if owed = 0 then trailingBytes? byte
      else if 0x80 ≤ byte ∧ byte < 0xC0 then some (owed - 1)
      else none
    return byte.toUInt8 :: (← unescapeTag? owed rest)
  | '%' :: _ => none
  | c :: rest => if owed = 0 then return c.toUInt8 :: (← unescapeTag? 0 rest) else none

example : unescapeTag? 0 "a%C3%A9".toList = some [97, 0xC3, 0xA9] := by decide

example : unescapeTag? 0 "%C3b".toList = none := by decide

/-- Reads a part of a tag. A zero byte ends what is taken from it. -/
def Cursor.readTagPart (inFull : Bool) (c : Cursor) : Except Fault (Tag × Cursor) :=
  let part := c.rest.takeWhile (isTagChar inFull)
  match unescapeTag? 0 part with
  | some bytes => .ok (bytes.takeWhile (· != 0), c.drop part.length)
  | none => .error (c.fault .badTag)

/-- Reads a part of a tag in which something has to be written. -/
def Cursor.readNonemptyTagPart (inFull : Bool) (c : Cursor) : Except Fault (Tag × Cursor) :=
  if c.rest.head?.any (isTagChar inFull) then c.readTagPart inFull else .error (c.fault .badTag)

/-- Reads a handle: an exclamation mark, letters and digits, and a second exclamation mark if there
is one. -/
def Cursor.readHandle (c : Cursor) : List Char × Cursor :=
  let name := '!' :: c.rest.tail.takeWhile isNameChar
  let behind := c.drop name.length
  if behind.rest.head? == some '!' then (name ++ ['!'], behind.drop 1) else (name, behind)

/-- Reads a tag. A single exclamation mark is a tag of its own. -/
def Cursor.readTag (inFlow : Bool) (c : Cursor) : Except Fault (TagName × Cursor) := do
  let (name, next) ←
    match c.rest with
    | '!' :: '<' :: _ => do
      let (tag, behind) ← (c.drop 2).readNonemptyTagPart true
      if behind.rest.head? != some '>' then throw (behind.fault .badTag)
      pure (TagName.full tag, behind.drop 1)
    | _ => do
      let (handle, behind) := c.readHandle
      if 1 < handle.length && handle.getLast? == some '!' then
        let (suffix, next) ← behind.readNonemptyTagPart false
        pure (TagName.short (String.ofList handle) suffix, next)
      else
        let (rest, next) ← behind.readTagPart false
        let suffix := handle.tail.map Char.toUInt8 ++ rest
        pure (if suffix.isEmpty then .full (.ofString "!") else .short "!" suffix, next)
  if endsWord next.rest || inFlow && next.rest.head? == some ',' then return (name, next)
  else throw (next.fault .badTag)

/-! ### Directives -/

/-- Reads one of the numbers of a version. -/
def Cursor.readVersionNumber (c : Cursor) : Except Fault (Nat × Cursor) :=
  let digits := c.rest.takeWhile Char.isDigit
  match Text.number? 10 digits with
  | some n =>
    if digits.length ≤ 9 then .ok (n, c.drop digits.length) else .error (c.fault .badDirective)
  | none => .error (c.fault .badDirective)

/-- Reads what a directive says about the version. -/
def Cursor.readVersion (c : Cursor) : Except Fault (Lexeme × Cursor) := do
  let (major, behind) ← (c.skipWhile isWhite).readVersionNumber
  if behind.rest.head? != some '.' then throw (behind.fault .badDirective)
  let (minor, next) ← (behind.drop 1).readVersionNumber
  return (.version major minor, next)

/-- Reads what a directive says about a handle. -/
def Cursor.readTagHandle (c : Cursor) : Except Fault (Lexeme × Cursor) := do
  let c := c.skipWhile isWhite
  if c.rest.head? != some '!' then throw (c.fault .badDirective)
  let (handle, behind) := c.readHandle
  if handle != ['!'] && handle.getLast? != some '!' || !behind.rest.head?.any isWhite then
    throw (behind.fault .badDirective)
  let (start, next) ← (behind.skipWhile isWhite).readNonemptyTagPart true
  if !endsWord next.rest then throw (next.fault .badDirective)
  return (.tagHandle (String.ofList handle) start, next)

/-- Reads a directive up to the end of its line. -/
def Cursor.readDirective (c : Cursor) : Except Fault (Lexeme × Cursor) := do
  let c := c.drop 1
  let name := c.rest.takeWhile isNameChar
  let behind := c.drop name.length
  if !endsWord behind.rest then throw (behind.fault .badDirective)
  let (lexeme, next) ←
    if name == "YAML".toList then behind.readVersion
    else if name == "TAG".toList then behind.readTagHandle
    else throw (c.fault .badDirective)
  return (lexeme, ← next.skipLineEnd)

end Mustache.Yaml
