import Mustache.Decimal.Notation
import Mustache.Value
/-!
# Values as text

`Value.write` is the compact form of a value: no spaces, fields in their order, texts in double
quotes. A template prints a value through `Value.printed?`, which leaves a text as it is and prints
nothing for null and false.
-/

namespace Mustache

/-- How a character stands inside double quotes: a quote, a backslash and the control characters
below the space are escaped, everything else stands for itself. -/
def quotedChar (c : Char) : List Char :=
  if c = '"' then ['\\', '"']
  else if c = '\\' then ['\\', '\\']
  else if c = '\n' then ['\\', 'n']
  else if c = '\r' then ['\\', 'r']
  else if c = '\t' then ['\\', 't']
  else if c = Char.ofNat 0x08 then ['\\', 'b']
  else if c = Char.ofNat 0x0C then ['\\', 'f']
  else if c.toNat < 0x20 then
    ['\\', 'u', '0', '0', Nat.digitChar (c.toNat / 16), Nat.digitChar (c.toNat % 16)]
  else [c]

/-- A text between double quotes. -/
def quoted (s : String) : String :=
  String.ofList ('"' :: s.toList.flatMap quotedChar ++ ['"'])

example : quoted "a\"\\/\n\x1f\x7f" = "\"a\\\"\\\\/\\n\\u001f\x7f\"" := by decide +kernel

/-- A number as text. A number that is not finite is written as null. -/
def Number.write : Number → String
  | int n => toString n
  | float x => if x.isFinite then writeFloat x else "null"

namespace Value

mutual

/-- The compact form of a value. -/
def write : Value → String
  | null => "null"
  | bool true => "true"
  | bool false => "false"
  | number n => n.write
  | string s => quoted s
  | array items => "[" ++ ",".intercalate (writeItems items) ++ "]"
  | object fields => "\x7b" ++ ",".intercalate (writeFields fields) ++ "\x7d"

/-- The compact forms of the values of a list. -/
def writeItems : List Value → List String
  | [] => []
  | v :: items => v.write :: writeItems items

/-- The compact forms of the fields of an object. -/
def writeFields : List (String × Value) → List String
  | [] => []
  | (key, v) :: fields => (quoted key ++ ":" ++ v.write) :: writeFields fields

end

example : write (.object [("a", .array [null, bool true, number (.int (-3))])]) =
    "\x7b\"a\":[null,true,-3]\x7d" := by decide +kernel

/-- What a tag prints for the value, if it prints anything. -/
def printed? : Value → Option String
  | null => none
  | bool false => none
  | string s => some s
  | v => some v.write

theorem writeItems_eq_map (items : List Value) : writeItems items = items.map write := by
  induction items with
  | nil => rfl
  | cons v items ih => simp [writeItems, ih]

end Value

end Mustache
