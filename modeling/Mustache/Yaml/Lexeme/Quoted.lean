import Mustache.Text.Digit
import Mustache.Yaml.Cursor
/-!
# Texts in quotes

Between single quotes only the quote is special: it is written twice. Between double quotes a
backslash starts an escape, and a backslash at the end of a line hides the line break. In both kinds
the gaps between words are folded.
-/

namespace Mustache.Yaml

/-- The character with a number, if there is one. -/
def charOfNat? (n : Nat) : Option Char :=
  if n.isValidChar then some (Char.ofNat n) else none

/-- The character that some hexadecimal digits give the number of. -/
def hexChar? (digits : List Char) : Option Char :=
  Text.number? 16 digits >>= charOfNat?

/-- The character that a letter after a backslash stands for. -/
def escaped? : Char → Option Char
  | '0' => some (Char.ofNat 0x00)
  | 'a' => some (Char.ofNat 0x07)
  | 'b' => some (Char.ofNat 0x08)
  | 't' | '\t' => some '\t'
  | 'n' => some '\n'
  | 'v' => some (Char.ofNat 0x0B)
  | 'f' => some (Char.ofNat 0x0C)
  | 'r' => some '\r'
  | 'e' => some (Char.ofNat 0x1B)
  | ' ' => some ' '
  | '"' => some '"'
  | '/' => some '/'
  | '\\' => some '\\'
  | 'N' => some nextLine
  | '_' => some (Char.ofNat 0xA0)
  | 'L' => some (Char.ofNat 0x2028)
  | 'P' => some (Char.ofNat 0x2029)
  | _ => none

/-- How many hexadecimal digits follow a letter after a backslash. -/
def hexLength? : Char → Option Nat
  | 'x' => some 2
  | 'u' => some 4
  | 'U' => some 8
  | _ => none

/-- Reads an escape, after its backslash: the character, and how many characters it is written in. -/
def readEscape? (text : List Char) : Option (Char × Nat) :=
  match text with
  | [] => none
  | c :: rest =>
    match hexLength? c with
    | none => (escaped? c).map (·, 1)
    | some n =>
      if rest.length < n then none else (hexChar? (rest.take n)).map (·, n + 1)

/-- A character between quotes, and how many characters it is written in; `none` where a word ends:
at white space, at a break, at the closing quote, at an escaped break, and at the end. -/
def quotedChar? (quote : Char) : List Char → Except Problem (Option (Char × Nat))
  | [] => .ok none
  | c :: rest =>
    if isWhite c || isBreak c then .ok none
    else if c == quote then
      if quote == '\'' && rest.head? == some quote then .ok (some (quote, 2)) else .ok none
    else if c == '\\' && quote == '"' then
      if rest.head?.any isBreak then .ok none
      else
        match readEscape? rest with
        | some (c, n) => .ok (some (c, n + 1))
        | none => .error .badEscape
    else .ok (some (c, 1))

/-- Reads a word between quotes. -/
def Cursor.readQuotedWord (quote : Char) (c : Cursor) : Except Fault (List Char × Cursor) :=
  match quotedChar? quote c.rest with
  | .error problem => .error (c.fault problem)
  | .ok none => .ok ([], c)
  | .ok (some (x, n)) =>
    if _ : (c.drop n).rest.length < c.rest.length then do
      let (word, next) ← (c.drop n).readQuotedWord quote
      return (x :: word, next)
    else .ok ([], c)
termination_by c.rest.length

/-- Reads a text up to and with its closing quote; `text` stands before the cursor. -/
def Cursor.readQuoted (quote : Char) (text : List Char) (c : Cursor) :
    Except Fault (List Char × Cursor) := do
  if c.atDocumentMark then throw (c.fault .documentInQuotes)
  let (word, behind) ← c.readQuotedWord quote
  let text := text ++ word
  if behind.rest.head? == some quote then return (text, behind.drop 1)
  -- The break behind a backslash is not read, and those that follow it are not folded.
  let hidden := if behind.rest.head? == some '\\' then (behind.drop 1).skipBreak? else none
  let (joint, next) ← match hidden with
    | some (_, next) => do
      let (gap, next) ← next.skipGap 0 ⟨[], ['\n']⟩
      pure (gap.breaks.tail, next)
    | none => do
      let (gap, next) ← behind.skipGap 0 ⟨[], []⟩
      pure (gap.folded, next)
  if _ : next.rest.length < c.rest.length then next.readQuoted quote (text ++ joint)
  else throw (next.fault .endInQuotes)
termination_by c.rest.length

end Mustache.Yaml
