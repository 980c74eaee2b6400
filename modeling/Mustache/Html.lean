/-!
# Text inside markup

`Html.escape` makes a text safe to stand in markup, as content or inside a quoted attribute. Six
characters are written as named entities and the ASCII control characters are left out; every other
character stands for itself.

* `escape_append`: the characters are escaped one by one, so escaping commutes with joining texts.
* `escapeOnto_eq`: writing an escaped text behind what a buffer holds leaves that as it is.
-/

namespace Mustache.Html

/-- An ASCII control character: below the space, or the delete character. -/
def isControl (c : Char) : Bool :=
  c.toNat < 0x20 || c.toNat == 0x7F

/-- How one character is written in markup. -/
def entity (c : Char) : List Char :=
  if c = '&' then "&amp;".toList
  else if c = '"' then "&quot;".toList
  else if c = '\'' then "&apos;".toList
  else if c = '<' then "&lt;".toList
  else if c = '>' then "&gt;".toList
  else if c = '%' then "&percnt;".toList
  else if isControl c then []
  else [c]

/-- The characters of a text as they are written in markup. -/
def escapeChars (cs : List Char) : List Char :=
  cs.flatMap entity

/-- The text as it is written in markup. -/
def escape (s : String) : String :=
  String.ofList (escapeChars s.toList)

/-- Writes a text behind what a buffer holds, escaping one character after the other. -/
def escapeOnto (buffer s : String) : String :=
  s.toList.foldl (fun buffer c => buffer ++ String.ofList (entity c)) buffer

example : escape "<b>5% &amp;\n</b>" = "&lt;b&gt;5&percnt; &amp;amp;&lt;/b&gt;" := by decide +kernel

@[simp] theorem toList_escape (s : String) : (escape s).toList = escapeChars s.toList := by
  simp [escape]

@[simp] theorem escapeChars_nil : escapeChars [] = [] := rfl

@[simp] theorem escapeChars_cons (c : Char) (cs : List Char) :
    escapeChars (c :: cs) = entity c ++ escapeChars cs := by
  simp [escapeChars]

@[simp] theorem escapeChars_append (cs ds : List Char) :
    escapeChars (cs ++ ds) = escapeChars cs ++ escapeChars ds := by
  simp [escapeChars]

@[simp] theorem escape_append (s t : String) : escape (s ++ t) = escape s ++ escape t := by
  apply String.ext
  simp

theorem foldl_entity (buffer : String) (cs : List Char) :
    cs.foldl (fun buffer c => buffer ++ String.ofList (entity c)) buffer =
      buffer ++ String.ofList (escapeChars cs) := by
  induction cs generalizing buffer with
  | nil => simp
  | cons c cs ih =>
    rw [List.foldl_cons, ih, escapeChars_cons, String.ofList_append, String.append_assoc]

theorem escapeOnto_eq (buffer s : String) : escapeOnto buffer s = buffer ++ escape s :=
  foldl_entity buffer s.toList

end Mustache.Html
