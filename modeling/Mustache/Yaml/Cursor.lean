import Mustache.Yaml.Fault
/-!
# Moving through a YAML text

A `Cursor` is what is left of a text, and the place where that starts. Besides the two usual
characters three more break a line. A break is read as a line feed, except for the two separators of
lines and paragraphs, which stand for themselves. Every move makes what is left shorter or leaves it
as it is (`length_drop_le`, `length_skipBreak_lt`, `length_skipGap_le`).
-/

namespace Mustache.Yaml

/-- Whether the character is a space or a tab. -/
def isWhite (c : Char) : Bool :=
  c == ' ' || c == '\t'

/-- The break that is called next line. -/
def nextLine : Char := Char.ofNat 0x85

/-- The separators of lines and of paragraphs. -/
def separators : List Char := [Char.ofNat 0x2028, Char.ofNat 0x2029]

/-- Whether the character breaks a line. -/
def isBreak (c : Char) : Bool :=
  c == '\n' || c == '\r' || c == nextLine || separators.contains c

/-- Whether a word ends before this text: at white space, at a break, or at the end. -/
def endsWord : List Char → Bool
  | [] => true
  | c :: _ => isWhite c || isBreak c

/-- What is left of a text, and its place. -/
structure Cursor where
  /-- What is left. -/
  rest : List Char
  /-- The place where that starts. -/
  place : Place

namespace Cursor

/-- The cursor at the start of a text. -/
def start (text : List Char) : Cursor := ⟨text, .start⟩

/-- A problem at the cursor. -/
def fault (c : Cursor) (problem : Problem) : Fault := ⟨problem, c.place⟩

/-- Moves over `n` characters, none of them a break. -/
def drop (c : Cursor) (n : Nat) : Cursor :=
  ⟨c.rest.drop n, c.place.behind (c.rest.take n)⟩

/-- Moves over the characters that satisfy `p`, none of them a break. -/
def skipWhile (p : Char → Bool) (c : Cursor) : Cursor :=
  c.drop (c.rest.takeWhile p).length

/-- The break at the cursor, as it is read, and the cursor behind it. -/
def skipBreak? (c : Cursor) : Option (Char × Cursor) :=
  match c.rest with
  | '\r' :: '\n' :: rest => some ('\n', ⟨rest, c.place.down ['\r', '\n']⟩)
  | b :: rest =>
    if isBreak b then
      some (if separators.contains b then b else '\n', ⟨rest, c.place.down [b]⟩)
    else none
  | [] => none

/-- Whether a mark of three dashes or three dots that starts or ends a document is at the cursor. -/
def atMark (c : Cursor) (mark : List Char) : Bool :=
  c.place.column == 0 && mark.isPrefixOf c.rest && endsWord (c.rest.drop mark.length)

/-- Whether a document starts or ends at the cursor. -/
def atDocumentMark (c : Cursor) : Bool :=
  c.atMark ['-', '-', '-'] || c.atMark ['.', '.', '.']

theorem length_drop_le (c : Cursor) (n : Nat) : (c.drop n).rest.length ≤ c.rest.length := by
  simp [drop]

theorem length_skipWhile_le (p : Char → Bool) (c : Cursor) :
    (c.skipWhile p).rest.length ≤ c.rest.length :=
  length_drop_le c _

theorem length_skipBreak_lt {c next : Cursor} {b : Char} (h : c.skipBreak? = some (b, next)) :
    next.rest.length < c.rest.length := by
  simp only [skipBreak?] at h
  split at h
  · rename_i rest hc
    simp only [Option.some.injEq, Prod.mk.injEq] at h
    simp only [hc, ← h.2, List.length_cons]
    omega
  · rename_i rest _ hc
    split at h
    · simp only [Option.some.injEq, Prod.mk.injEq] at h
      simp only [hc, ← h.2, List.length_cons]
      omega
    · simp at h
  · simp at h

end Cursor

/-! ### Gaps between words -/

/-- White space and breaks between two words. -/
structure Gap where
  /-- The white space before the first break. -/
  white : List Char
  /-- The breaks. -/
  breaks : List Char
deriving DecidableEq, Repr

/-- What a gap amounts to in a text that is folded: on one line it stays, a single break becomes a
space, and of several breaks the first one goes. -/
def Gap.folded (g : Gap) : List Char :=
  match g.breaks with
  | [] => g.white
  | ['\n'] => [' ']
  | '\n' :: breaks => breaks
  | breaks => breaks

/-- Moves over white space and breaks. Behind the first break a tab may not stand at a column below
`indent`. -/
def Cursor.skipGap (indent : Nat) (gap : Gap) (c : Cursor) : Except Fault (Gap × Cursor) :=
  match h : c.skipBreak? with
  | some (b, next) =>
    have := length_skipBreak_lt h
    next.skipGap indent { gap with breaks := gap.breaks ++ [b] }
  | none =>
    match hc : c.rest with
    | [] => .ok (gap, c)
    | x :: rest =>
      have : (c.drop 1).rest.length < c.rest.length := by simp [drop, hc]
      if !isWhite x then .ok (gap, c)
      else if gap.breaks.isEmpty then
        (c.drop 1).skipGap indent { gap with white := gap.white ++ [x] }
      else if x == '\t' && c.place.column < indent then .error (c.fault .tabInIndentation)
      else (c.drop 1).skipGap indent gap
termination_by c.rest.length

end Mustache.Yaml
