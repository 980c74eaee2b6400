import Mustache.Text.Visible
/-!
# Texts in which everything can be seen

`shown` writes a text between double quotes so that no character of it is lost on the reader: quotes
and backslashes get a backslash, and whatever is not visible is written as an escape.
-/

namespace Mustache.Text

/-- The escape of a character by its code in hexadecimal digits. -/
def codeEscape (c : Char) : List Char :=
  "\\u\x7b".toList ++ Nat.toDigits 16 c.toNat ++ ['}']

/-- How a character is shown. -/
def shownChar (c : Char) : List Char :=
  match c with
  | '"' => ['\\', '"']
  | '\\' => ['\\', '\\']
  | '\t' => ['\\', 't']
  | '\r' => ['\\', 'r']
  | '\n' => ['\\', 'n']
  | c =>
    if c.toNat = 0 then ['\\', '0']
    else if isVisible c then [c]
    else codeEscape c

/-- The text as it is shown, between double quotes. -/
def shown (s : String) : String :=
  String.ofList ('"' :: s.toList.flatMap shownChar ++ ['"'])

example : shown "a\t\"é\"" = "\"a\\t\\\"é\\\"\"" := by decide +kernel

example : shown "\x1b\u200b" = "\"\\u\x7b1b\x7d\\u\x7b200b\x7d\"" := by decide +kernel

end Mustache.Text
