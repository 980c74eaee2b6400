import Mustache.Yaml.Lexeme.Name
import Mustache.Yaml.Lexeme.Plain
/-!
# Cutting a YAML text into lexemes

A list or mapping in block style has no marks of its own: it starts with an item, key or value that
stands further right than those around it, and ends before the first lexeme that stands further left.
A key need not have a mark either. Whatever may be one is remembered as a `Candidate`; a colon behind
it then puts the missing lexemes in front of it. A candidate has to stand on one line with its colon
and at most 1,024 characters before it.

Between brackets and braces the indentation does not count.
-/

namespace Mustache.Yaml

/-- What may turn out to be a key. -/
structure Candidate where
  /-- Whether nothing else may stand here, since the text continues a mapping. -/
  required : Bool
  /-- The number of lexemes before it. -/
  index : Nat
  /-- Where it starts. -/
  place : Place
deriving DecidableEq, Repr

/-- How far a text is cut. -/
structure Lexing where
  /-- What is left. -/
  cursor : Cursor
  /-- The lexemes so far. -/
  lexemes : Array Located := #[]
  /-- The columns of the lists and mappings in block style that are open, the innermost first. -/
  indents : List Nat := []
  /-- What may turn out to be a key. -/
  candidate? : Option Candidate := none
  /-- The same for the lists and mappings in flow style that are open, those around the innermost
  first. -/
  outer : List (Option Candidate) := []
  /-- Whether a key may start here. -/
  keyAllowed : Bool := true

namespace Lexing

/-- Whether a list or mapping in flow style is open. -/
def inFlow (s : Lexing) : Bool := !s.outer.isEmpty

/-- The least column that counts as inside the innermost list or mapping in block style. -/
def inside (s : Lexing) : Nat :=
  match s.indents with
  | [] => 0
  | indent :: _ => indent + 1

/-- A problem at the cursor. -/
def fault (s : Lexing) (problem : Problem) : Fault := s.cursor.fault problem

/-- Appends a lexeme that starts at the cursor, which moves on. -/
def push (s : Lexing) (lexeme : Lexeme) (next : Cursor) : Lexing :=
  { s with lexemes := s.lexemes.push ⟨lexeme, s.cursor.place⟩, cursor := next }

/-- Opens a list or mapping in block style at a column if it lies further right than those that are
open; its start is put before the lexeme with the given index. -/
def openBlock (s : Lexing) (lexeme : Lexeme) (index : Nat) (place : Place) : Lexing :=
  if s.inFlow || place.column < s.inside then s
  else
    { s with
      indents := place.column :: s.indents
      lexemes := s.lexemes.insertIdxIfInBounds index ⟨lexeme, place⟩ }

/-- Closes the lists and mappings in block style that stand further right than a column. -/
def closeBlocks (s : Lexing) (column : Nat) : Lexing :=
  if s.inFlow then s
  else
    let closed := s.indents.takeWhile (column < ·)
    { s with
      indents := s.indents.drop closed.length
      lexemes := s.lexemes ++ closed.map fun _ => (⟨.blockEnd, s.cursor.place⟩ : Located) }

/-- Closes all lists and mappings in block style. -/
def closeAllBlocks (s : Lexing) : Lexing :=
  if s.inFlow then s
  else
    { s with
      indents := []
      lexemes := s.lexemes ++ s.indents.map fun _ => (⟨.blockEnd, s.cursor.place⟩ : Located) }

/-- Gives the candidate up. -/
def dropCandidate (s : Lexing) : Except Fault Lexing :=
  if s.candidate?.any (·.required) then .error (s.fault .expectedColon)
  else .ok { s with candidate? := none }

/-- Remembers that a key may start at the cursor. -/
def addCandidate (s : Lexing) : Except Fault Lexing := do
  if s.keyAllowed then
    let s ← s.dropCandidate
    let required := !s.inFlow && s.indents.head? == some s.cursor.place.column
    return { s with candidate? := some ⟨required, s.lexemes.size, s.cursor.place⟩ }
  else return s

/-- Whether a colon at a place comes too late for a candidate: on a later line, or more than 1024 bytes
behind its start. -/
def Candidate.isStale (candidate : Candidate) (place : Place) : Bool :=
  candidate.place.line < place.line || candidate.place.offset + 1024 < place.offset

/-- Gives up all candidates for which it is too late. -/
def dropStaleCandidates (s : Lexing) : Except Fault Lexing :=
  let isStale (candidate : Candidate) := Candidate.isStale candidate s.cursor.place
  if (s.candidate? :: s.outer).any (·.any fun c => isStale c && c.required) then
    .error (s.fault .expectedColon)
  else
    .ok { s with
      candidate? := s.candidate?.filter (!isStale ·)
      outer := s.outer.map (·.filter (!isStale ·)) }

/-- Moves to the next lexeme, over white space, comments and breaks. A mark of the byte order may
stand at the start of a line. Behind a break in block style a key may start; where a key may start, a
tab may not stand. -/
def skipToLexeme (s : Lexing) : Lexing :=
  let c := s.cursor
  let c := if c.place.column == 0 && c.rest.head? == some (Char.ofNat 0xFEFF) then c.drop 1 else c
  let c := c.skipWhile fun x => x == ' ' || x == '\t' && (s.inFlow || !s.keyAllowed)
  let c := if c.rest.head? == some '#' then c.skipWhile (!isBreak ·) else c
  match c.skipBreak? with
  | some (_, next) =>
    if _ : next.rest.length < s.cursor.rest.length then
      skipToLexeme { s with cursor := next, keyAllowed := s.keyAllowed || !s.inFlow }
    else { s with cursor := c }
  | none => { s with cursor := c }
termination_by s.cursor.rest.length

/-! ### One lexeme -/

/-- Ends what is open in block style before a directive or the mark of a document. -/
def leaveDocument (s : Lexing) : Except Fault Lexing := do
  let s ← s.closeAllBlocks.dropCandidate
  return { s with keyAllowed := false }

/-- Appends an opening bracket or brace. -/
def openFlow (s : Lexing) (lexeme : Lexeme) : Except Fault Lexing := do
  let s ← s.addCandidate
  let s := s.push lexeme (s.cursor.drop 1)
  return { s with candidate? := none, outer := s.candidate? :: s.outer, keyAllowed := true }

/-- Appends a closing bracket or brace. -/
def closeFlow (s : Lexing) (lexeme : Lexeme) : Except Fault Lexing := do
  let s ← s.dropCandidate
  let s := { s.push lexeme (s.cursor.drop 1) with keyAllowed := false }
  match s.outer with
  | [] => return s
  | candidate? :: outer => return { s with candidate?, outer }

/-- Appends a comma. -/
def addComma (s : Lexing) : Except Fault Lexing := do
  let s ← s.dropCandidate
  return { s.push .comma (s.cursor.drop 1) with keyAllowed := true }

/-- Appends a dash. -/
def addItem (s : Lexing) : Except Fault Lexing := do
  if !s.inFlow && !s.keyAllowed then throw (s.fault .misplacedItem)
  let s ← (s.openBlock .listStart s.lexemes.size s.cursor.place).dropCandidate
  return { s.push .item (s.cursor.drop 1) with keyAllowed := true }

/-- Appends a question mark. -/
def addKey (s : Lexing) : Except Fault Lexing := do
  if !s.inFlow && !s.keyAllowed then throw (s.fault .misplacedKey)
  let s ← (s.openBlock .mappingStart s.lexemes.size s.cursor.place).dropCandidate
  return { s.push .key (s.cursor.drop 1) with keyAllowed := !s.inFlow }

/-- Appends a colon. If there is a candidate, it was a key. -/
def addValue (s : Lexing) : Except Fault Lexing := do
  match s.candidate? with
  | some key =>
    let lexemes := s.lexemes.insertIdxIfInBounds key.index ⟨.key, key.place⟩
    let s := { s with lexemes, candidate? := none, keyAllowed := false }
    let s := s.openBlock .mappingStart key.index key.place
    return s.push .value (s.cursor.drop 1)
  | none =>
    if !s.inFlow && !s.keyAllowed then throw (s.fault .misplacedValue)
    let s := s.openBlock .mappingStart s.lexemes.size s.cursor.place
    return { s.push .value (s.cursor.drop 1) with keyAllowed := !s.inFlow }

/-- Appends what `read` finds at the cursor, behind which no key may start. -/
def addNamed (s : Lexing) (read : Cursor → Except Fault (Lexeme × Cursor)) :
    Except Fault Lexing := do
  let s := { ← s.addCandidate with keyAllowed := false }
  let (lexeme, next) ← read s.cursor
  return s.push lexeme next

/-- Appends a text in quotes. -/
def addQuoted (s : Lexing) (quote : Char) : Except Fault Lexing :=
  s.addNamed fun c => do
    let (text, next) ← (c.drop 1).readQuoted quote []
    return (.scalar .quoted (String.ofList text), next)

/-- Appends a directive. -/
def addDirective (s : Lexing) : Except Fault Lexing := do
  let s ← s.leaveDocument
  let (lexeme, next) ← s.cursor.readDirective
  return s.push lexeme next

/-- Appends the mark of a document. -/
def addMark (s : Lexing) (lexeme : Lexeme) : Except Fault Lexing := do
  return (← s.leaveDocument).push lexeme (s.cursor.drop 3)

/-- Appends a block text. -/
def addBlock (s : Lexing) (joins : Bool) : Except Fault Lexing := do
  let s := { ← s.dropCandidate with keyAllowed := true }
  let (text, next) ← (s.cursor.drop 1).readBlock joins s.inside
  return s.push (.scalar (if joins then .folded else .literal) (String.ofList text)) next

/-- Appends a plain text. -/
def addPlain (s : Lexing) : Except Fault Lexing := do
  let s := { ← s.addCandidate with keyAllowed := false }
  let plain ← s.cursor.readPlain s.inFlow s.inside [] ⟨[], []⟩
  let s := { s with keyAllowed := plain.endsLine }
  return s.push (.scalar .plain (String.ofList plain.text)) plain.next

/-- The characters that start no plain text. -/
def indicators : List Char :=
  "-?:,[]\x7b\x7d#&*!|>'\"%@`".toList

/-- Whether a plain text starts at the text. -/
def startsPlain (inFlow : Bool) : List Char → Bool
  | [] => false
  | c :: rest =>
    !(isWhite c || isBreak c || indicators.contains c)
      || c == '-' && !rest.head?.any isWhite
      || !inFlow && (c == '?' || c == ':') && !endsWord rest

/-- Appends the lexeme at the cursor, which is not at the end. -/
def addLexeme (s : Lexing) : Except Fault Lexing := do
  let c := s.cursor
  if c.place.column == 0 && c.rest.head? == some '%' then
    s.addDirective
  else if c.atMark ['-', '-', '-'] then s.addMark .documentStart
  else if c.atMark ['.', '.', '.'] then s.addMark .documentEnd
  else
    let isFree := s.inFlow || endsWord c.rest.tail
    match c.rest.headD ' ' with
    | '[' => s.openFlow .openBracket
    | '{' => s.openFlow .openBrace
    | ']' => s.closeFlow .closeBracket
    | '}' => s.closeFlow .closeBrace
    | ',' => s.addComma
    | '&' => s.addNamed fun c => do
      let (name, next) ← (c.drop 1).readAnchor
      return (.anchor name, next)
    | '*' => s.addNamed fun c => do
      let (name, next) ← (c.drop 1).readAnchor
      return (.alias name, next)
    | '!' => s.addNamed fun c => do
      let (name, next) ← c.readTag s.inFlow
      return (.tag name, next)
    | '\'' => s.addQuoted '\''
    | '"' => s.addQuoted '"'
    | x =>
      if x == '-' && endsWord c.rest.tail then s.addItem
      else if x == '?' && isFree then s.addKey
      else if x == ':' && isFree then s.addValue
      else if x == '|' && !s.inFlow then s.addBlock false
      else if x == '>' && !s.inFlow then s.addBlock true
      else if startsPlain s.inFlow c.rest then s.addPlain
      else throw (s.fault .unexpectedCharacter)

/-- Cuts what is left of a text. -/
def run (s : Lexing) : Except Fault (Array Located) := do
  let s' ← s.skipToLexeme.dropStaleCandidates
  let s' := s'.closeBlocks s'.cursor.place.column
  if s'.cursor.rest.isEmpty then return (← s'.closeAllBlocks.dropCandidate).lexemes
  let next ← s'.addLexeme
  if _ : next.cursor.rest.length < s.cursor.rest.length then next.run
  else throw (s'.fault .unexpectedCharacter)
termination_by s.cursor.rest.length

end Lexing

/-- Whether a YAML text may hold the character. -/
def isAllowed (c : Char) : Bool :=
  let n := c.toNat
  n == 0x09 || n == 0x0A || n == 0x0D || (0x20 ≤ n && n ≤ 0x7E) || n == 0x85 ||
    (0xA0 ≤ n && n ≤ 0xD7FF) || (0xE000 ≤ n && n ≤ 0xFFFD) || 0x10000 ≤ n

/-- Cuts a text into lexemes. -/
def lexemes (text : String) : Except Fault (List Located) :=
  let c := Cursor.start text.toList
  if text.toList.all isAllowed then
    return (← Lexing.run { cursor := c }).toList
  else .error ((c.skipWhile isAllowed).fault .controlCharacter)

end Mustache.Yaml
