import Mustache.Decimal.Nearest
import Mustache.Decimal.Notation
import Mustache.Text.Digit
import Mustache.Text.Shown
import Mustache.Yaml.Node
/-!
# What a text stands for

A text without quotes and without a tag, or with a tag of one's own, may stand for nothing, a truth
value or a number. A number may be written in base 2, 8, 10 or 16 or with a fraction or exponent; digits
behind a leading zero are no number. A tag of YAML asks for one of these, also of a text in quotes; all
other texts stand for themselves.
-/

namespace Mustache.Yaml

/-- What a text stands for. -/
inductive Meaning where
  /-- Nothing. -/
  | null
  /-- A truth value. -/
  | bool (b : Bool)
  /-- An integer. -/
  | int (n : Int)
  /-- A floating point number. -/
  | float (x : Float)
  /-- Itself. -/
  | text

/-- The words for nothing. -/
def isNull (s : String) : Bool :=
  s == "null" || s == "Null" || s == "NULL" || s == "~"

/-- The truth value that a word stands for. -/
def bool? (s : String) : Option Bool :=
  if s == "true" || s == "True" || s == "TRUE" then some true
  else if s == "false" || s == "False" || s == "FALSE" then some false
  else none

/-! ### Integers -/

/-- Whether the text is a zero with digits behind it. -/
def hasLeadingZero : List Char → Bool
  | '0' :: c :: rest => (c :: rest).all Char.isDigit
  | _ => false

/-- A number without a sign. -/
def natural? (cs : List Char) : Option Nat :=
  match cs with
  | '0' :: 'x' :: rest => Text.number? 16 rest
  | '0' :: 'o' :: rest => Text.number? 8 rest
  | '0' :: 'b' :: rest => Text.number? 2 rest
  | cs => if hasLeadingZero cs then none else Text.number? 10 cs

/-- A number that may have a plus sign. -/
def unsigned? (s : String) : Option Nat :=
  match s.toList with
  | '+' :: cs => natural? cs
  | cs => natural? cs

example : unsigned? "+0x1F" = some 31 ∧ unsigned? "0o17" = some 15 := by decide +kernel

example : unsigned? "0" = some 0 ∧ unsigned? "007" = none := by decide +kernel

/-- A number that may have a sign, and takes at most 128 bits. -/
def integer? (s : String) : Option Int :=
  match s.toList with
  | '-' :: cs => ((natural? cs).filter (· ≤ 1 <<< 127)).map fun n => -n
  | _ => ((unsigned? s).filter (· < 1 <<< 128)).map Int.ofNat

/-! ### Floating point numbers -/

/-- A decimal with a point, an exponent, both or neither. -/
def decimal? (cs : List Char) : Option Decimal :=
  let whole := cs.takeWhile Char.isDigit
  let rest := cs.dropWhile Char.isDigit
  let (fraction, rest) := match rest with
    | '.' :: rest => (rest.takeWhile Char.isDigit, rest.dropWhile Char.isDigit)
    | rest => ([], rest)
  let exponent? : Option Int := match rest with
    | [] => some 0
    | e :: rest =>
      if e != 'e' && e != 'E' then none
      else
        match rest with
        | '-' :: digits => (Text.number? 10 digits).map fun n => -n
        | '+' :: digits => (Text.number? 10 digits).map Int.ofNat
        | digits => (Text.number? 10 digits).map Int.ofNat
  do
    let digits ← Text.number? 10 (whole ++ fraction)
    return ⟨digits, (← exponent?) - fraction.length⟩

/-- The words for infinity. -/
def isInfinity (cs : List Char) : Bool :=
  [".inf", ".Inf", ".INF"].contains (String.ofList cs)

/-- A floating point number. One that is too large is none, unless it is infinity in words. -/
def float? (s : String) : Option Float :=
  let positive (cs : List Char) : Option Float :=
    if isInfinity cs then some (1.0 / 0.0) else decimal? cs >>= Decimal.toFloat?
  if [".nan", ".NaN", ".NAN"].contains s then some (0.0 / 0.0)
  else
    match s.toList with
    | '+' :: cs => positive cs
    | '-' :: cs => (positive cs).map (-·)
    | cs => positive cs

/-! ### Texts -/

/-- What a text without quotes and tag stands for. -/
def plainMeaning (s : String) : Meaning :=
  if s.isEmpty || isNull s then .null
  else
    match bool? s, integer? s with
    | some b, _ => .bool b
    | none, some n => .int n
    | none, none =>
      let digits := if s.startsWith "-" || s.startsWith "+" then s.toList.tail else s.toList
      match if hasLeadingZero digits then none else float? s with
      | some x => .float x
      | none => .text

/-- The tag of a type that YAML itself knows. -/
def coreTag (name : String) : Tag := .ofString ("tag:yaml.org,2002:" ++ name)

/-- Whether a tag is one's own. -/
def isOwnTag (tag : Tag) : Bool := (Tag.ofString "!").isPrefixOf tag

/-- What a text stands for, which is written in a style and may have a tag. -/
def meaning (tag? : Option Tag) (style : Style) (s : String) : Except Problem Meaning :=
  let tagged (value? : Option Meaning) (expected : String) : Except Problem Meaning :=
    match value? with
    | some value => .ok value
    | none => .error (.wrongValue s!"string {Text.shown s}" expected)
  match tag? with
  | none => .ok (if style = .plain then plainMeaning s else .text)
  | some tag =>
    if tag == coreTag "bool" then tagged ((bool? s).map .bool) "a boolean"
    else if tag == coreTag "int" then tagged ((integer? s).map .int) "an integer"
    else if tag == coreTag "float" then tagged ((float? s).map .float) "a float"
    else if tag == coreTag "null" then tagged (if isNull s then some .null else none) "null"
    else .ok (if isOwnTag tag && style = .plain then plainMeaning s else .text)

/-- An integer in words; one that does not fit 64 bits is said to take more. -/
def describeInt (n : Int) : String :=
  let number := s!"integer `{n}`"
  if n < Int64.minValue.toInt then number ++ " as i128"
  else if n < Text.wordLimit then number
  else number ++ " as u128"

/-- What a text stands for, in words. -/
def Meaning.describe (s : String) : Meaning → String
  | .null => "unit value"
  | .bool b => s!"boolean `{b}`"
  | .int n => describeInt n
  | .float x => s!"floating point `{writeFloatInFull x}`"
  | .text => s!"string {Text.shown s}"

/-- What stands where a value of another type is asked for, in words. -/
def Node.describe : Node → Except Problem String
  | .scalar _ tag? style s => return (← meaning tag? style s).describe s
  | .list .. => return "sequence"
  | .mapping .. => return "map"
  | .reference .. => throw .unknownAnchor

/-- The fault that the node is not what is asked for. -/
def Node.mismatch (node : Node) (expected : String) : Fault :=
  match node.describe with
  | .ok found => ⟨.wrongType found expected, node.place⟩
  | .error problem => ⟨problem, node.place⟩

/-- The text of a node, which is asked for in some words. -/
def Node.text (expected : String) : Node → Except Fault String
  | .scalar _ _ _ s => .ok s
  | node => .error (node.mismatch expected)

end Mustache.Yaml
