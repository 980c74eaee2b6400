import Mustache.Yaml.Cursor
/-!
# Texts without quotes

A plain text is a row of words with gaps between them. It ends at a colon that no word follows, at a
comment, at the mark of a document, and at a line that is indented less than it has to be; between
brackets and braces it also ends at each of these and at a comma.
-/

namespace Mustache.Yaml

/-- The brackets, braces and commas of lists and mappings in flow style. -/
def flowPunctuation : List Char := [',', '[', ']', '{', '}']

/-- The word at the start of a text. A colon between brackets may not touch punctuation. -/
def plainWord (inFlow : Bool) : List Char → Except Problem (List Char)
  | [] => .ok []
  | c :: rest =>
    if isWhite c || isBreak c then .ok []
    else if inFlow && c == ':' && rest.head?.any (('?' :: flowPunctuation).contains ·) then
      .error .unexpectedColon
    else if c == ':' && endsWord rest || inFlow && flowPunctuation.contains c then .ok []
    else (plainWord inFlow rest).map (c :: ·)

/-- A text without quotes, and what follows it. -/
structure Plain where
  /-- The text. -/
  text : List Char
  /-- Whether the text ended at a line break. -/
  endsLine : Bool
  /-- The cursor behind the text and the gap that follows it. -/
  next : Cursor

/-- Reads a plain text, of which `text` and `gap` stand before the cursor. Its lines are indented by
`indent` columns. -/
def Cursor.readPlain (inFlow : Bool) (indent : Nat) (text : List Char) (gap : Gap) (c : Cursor) :
    Except Fault Plain :=
  let ended : Plain := ⟨text, !gap.breaks.isEmpty, c⟩
  if c.atDocumentMark || c.rest.head? == some '#' then .ok ended
  else
    match plainWord inFlow c.rest with
    | .error problem => .error (c.fault problem)
    | .ok [] => .ok ended
    | .ok word => do
      let text := text ++ gap.folded ++ word
      let behind := c.drop word.length
      let (gap, next) ← behind.skipGap indent ⟨[], []⟩
      if _ : next.rest.length < c.rest.length then
        if !inFlow && next.place.column < indent then .ok ⟨text, !gap.breaks.isEmpty, next⟩
        else next.readPlain inFlow indent text gap
      else .ok ⟨text, false, next⟩
termination_by c.rest.length

end Mustache.Yaml
