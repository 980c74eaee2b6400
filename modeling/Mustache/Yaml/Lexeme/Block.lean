import Mustache.Text.Digit
import Mustache.Yaml.Cursor
/-!
# Texts in block style

A block text stands on lines of its own below a header. The header says whether its lines are kept or
joined, what becomes of the breaks at its end, and how far it is indented, if its first line does not
show it.
-/

namespace Mustache.Yaml

/-- What becomes of the breaks at the end of a block text. -/
inductive Chomping where
  /-- All of them go. -/
  | strip
  /-- One of them stays. -/
  | clip
  /-- All of them stay. -/
  | keep
deriving DecidableEq, Repr

/-- The header of a block text. -/
structure BlockHeader where
  /-- What becomes of the breaks at the end. -/
  chomping : Chomping
  /-- By how many columns more than the list or mapping around it the text is indented, if the header
  says so. -/
  indent? : Option Nat
deriving DecidableEq, Repr

/-- The chomping that a sign stands for. -/
def Chomping.ofSign? : Char → Option Chomping
  | '+' => some .keep
  | '-' => some .strip
  | _ => none

/-- Reads the sign and the digit of a header, in either order, and gives how many characters they
take. -/
def BlockHeader.ofChars (text : List Char) : BlockHeader × Nat :=
  let sign? (cs : List Char) := cs.head? >>= Chomping.ofSign?
  let digit? (cs : List Char) := cs.head? >>= Text.digit? 10
  match sign? text, digit? text with
  | some chomping, _ =>
    match digit? text.tail with
    | some n => (⟨chomping, some n⟩, 2)
    | none => (⟨chomping, none⟩, 1)
  | none, some n =>
    match sign? text.tail with
    | some chomping => (⟨chomping, some n⟩, 2)
    | none => (⟨.clip, some n⟩, 1)
  | none, none => (⟨.clip, none⟩, 0)

/-- Moves over white space and a comment up to the end of the line, and over its break. -/
def Cursor.skipLineEnd (c : Cursor) : Except Fault Cursor :=
  let c := c.skipWhile isWhite
  let c := if c.rest.head? == some '#' then c.skipWhile (!isBreak ·) else c
  match c.skipBreak? with
  | some (_, next) => .ok next
  | none => if c.rest.isEmpty then .ok c else .error (c.fault .expectedLineEnd)

/-- Lines that hold nothing but indentation. -/
structure EmptyLines where
  /-- Their breaks. -/
  breaks : List Char
  /-- The greatest column at which one of them, or the indentation behind them, ends. -/
  width : Nat
deriving DecidableEq, Repr

/-- Moves over empty lines and the indentation behind them, up to the column `limit` if there is
one. -/
def Cursor.skipEmptyLines (limit : Option Nat) (c : Cursor) : Except Fault (EmptyLines × Cursor) :=
  let spaces := (c.rest.takeWhile (· == ' ')).length
  let behind := c.drop ((limit.map fun n => min spaces (n - c.place.column)).getD spaces)
  let width := behind.place.column
  if behind.rest.head? == some '\t' && limit.all (width < ·) then
    .error (behind.fault .tabInIndentation)
  else
    match h : behind.skipBreak? with
    | none => .ok (⟨[], width⟩, behind)
    | some (b, next) =>
      have : next.rest.length < c.rest.length :=
        Nat.lt_of_lt_of_le (length_skipBreak_lt h) (length_drop_le ..)
      do
        let (lines, next) ← next.skipEmptyLines limit
        return (⟨b :: lines.breaks, max width lines.width⟩, next)
termination_by c.rest.length

/-- The lines of a block text that are read. -/
structure BlockLines where
  /-- The text up to the end of the last line. -/
  text : List Char
  /-- The break behind the last line, if there is one. -/
  lineBreak : List Char
  /-- The breaks of the empty lines behind it. -/
  emptyBreaks : List Char
  /-- Whether the last line starts with white space. -/
  startsWhite : Bool
deriving DecidableEq, Repr

/-- Appends a line. Where lines are joined, the break between two lines that start with a word
becomes a space, or goes if empty lines follow it. -/
def BlockLines.push (joins : Bool) (lines : BlockLines) (line : List Char) : List Char :=
  let startsWhite := line.head?.any isWhite
  let joint :=
    if joins && lines.lineBreak == ['\n'] && !lines.startsWhite && !startsWhite then
      if lines.emptyBreaks.isEmpty then [' '] else []
    else lines.lineBreak
  lines.text ++ joint ++ lines.emptyBreaks ++ line

/-- Reads the lines that are indented by `indent` columns. -/
def Cursor.readBlockLines (joins : Bool) (indent : Nat) (lines : BlockLines) (c : Cursor) :
    Except Fault (BlockLines × Cursor) := do
  if c.place.column != indent || c.rest.isEmpty then return (lines, c)
  let line := c.rest.takeWhile (!isBreak ·)
  let behind := c.drop line.length
  let (lineBreak, next) := match behind.skipBreak? with
    | some (b, next) => ([b], next)
    | none => ([], behind)
  let (empty, next) ← next.skipEmptyLines (some indent)
  let lines := ⟨lines.push joins line, lineBreak, empty.breaks, line.head?.any isWhite⟩
  if _ : next.rest.length < c.rest.length then next.readBlockLines joins indent lines
  else return (lines, next)
termination_by c.rest.length

/-- The text of its lines. -/
def BlockLines.chomp (lines : BlockLines) : Chomping → List Char
  | .strip => lines.text
  | .clip => lines.text ++ lines.lineBreak
  | .keep => lines.text ++ lines.lineBreak ++ lines.emptyBreaks

/-- Reads a block text, after the sign that starts it. `outer` is the least column that counts as
inside the list or mapping around it. -/
def Cursor.readBlock (joins : Bool) (outer : Nat) (c : Cursor) :
    Except Fault (List Char × Cursor) := do
  let (header, n) := BlockHeader.ofChars c.rest
  if header.indent? == some 0 then throw (c.fault .zeroIndentation)
  let c ← (c.drop n).skipLineEnd
  let given := header.indent?.map fun n => outer - 1 + n
  let (empty, c) ← c.skipEmptyLines given
  let indent := given.getD (max empty.width (max outer 1))
  let (lines, c) ← c.readBlockLines joins indent ⟨[], [], empty.breaks, false⟩
  return (lines.chomp header.chomping, c)

end Mustache.Yaml
