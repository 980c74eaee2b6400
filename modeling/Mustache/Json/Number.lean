import Mustache.Json.Fault
import Mustache.Value
/-!
# Numbers in JSON

A number without point and exponent is an integer if it fits 64 bits, unsigned or signed; minus zero
and all other numbers are floating point. A floating point number is read as a significand, which
takes digits as long as it fits 64 bits unsigned, and a power of ten. The two are multiplied or
divided as floating point numbers, by at most `10 ^ 308` at a time.
-/

namespace Mustache.Json

/-- The value of a decimal digit. -/
def digitValue (c : Char) : Nat :=
  c.toNat - '0'.toNat

/-- Appends digits to a number as long as it stays at most `limit`; the digits that do not fit are
left. -/
def absorb (limit n : Nat) : List Char → Nat × List Char
  | [] => (n, [])
  | d :: ds =>
    if 10 * n + digitValue d ≤ limit then absorb limit (10 * n + digitValue d) ds else (n, d :: ds)

/-- The largest significand. -/
def maxSignificand : Nat := UInt64.size - 1

/-- The largest exponent that is read digit by digit. -/
def maxExponent : Nat := Int32.size / 2 - 1

/-- The floating point number nearest to `10 ^ n`. -/
def powerOfTen (n : Nat) : Float :=
  Float.ofScientific 1 false n

/-- `x` times `10 ^ exponent`, or `none` if that is too large. -/
def scaled? (x : Float) (exponent : Int) : Option Float :=
  if exponent.natAbs ≤ 308 then
    if 0 ≤ exponent then
      let y := x * powerOfTen exponent.natAbs
      if y.isInf then none else some y
    else some (x / powerOfTen exponent.natAbs)
  else if x == 0.0 then some x
  else if 0 ≤ exponent then none
  else scaled? (x / powerOfTen 308) (exponent + 308)
termination_by exponent.natAbs

/-- Puts the sign in front. -/
def signed (negative : Bool) (x : Float) : Number :=
  .float (if negative then -x else x)

/-- The floating point number of a significand and an exponent, before the text that is left. -/
def scaledNumber (negative : Bool) (significand : Nat) (exponent : Int) (rest : List Char) :
    Except Fault (Number × List Char) :=
  match scaled? significand.toUInt64.toFloat exponent with
  | some x => .ok (signed negative x, rest)
  | none => .error (.before rest .numberOutOfRange)

/-- Reads the exponent of a number, after its mark. `scale` is the exponent so far. -/
def readExponent (negative : Bool) (significand : Nat) (scale : Int) (text : List Char) :
    Except Fault (Number × List Char) :=
  let down := text.head? == some '-'
  let text := if down || text.head? == some '+' then text.tail else text
  let digits := text.takeWhile Char.isDigit
  let rest := text.dropWhile Char.isDigit
  if digits.isEmpty then
    .error (.past text (if text.isEmpty then .endInValue else .badNumber))
  else
    match absorb maxExponent 0 digits with
    | (n, []) => scaledNumber negative significand (if down then scale - n else scale + n) rest
    | (_, _ :: left) =>
      if significand = 0 || down then .ok (signed negative 0.0, rest)
      else .error (.before (left ++ rest) .numberOutOfRange)

/-- Reads what follows the digits of a number: nothing more, or an exponent. -/
def readScaled (negative : Bool) (significand : Nat) (scale : Int) (text : List Char) :
    Except Fault (Number × List Char) :=
  match text with
  | 'e' :: rest | 'E' :: rest => readExponent negative significand scale rest
  | rest => scaledNumber negative significand scale rest

/-- Reads the digits after the point. -/
def readFraction (negative : Bool) (significand : Nat) (scale : Int) (text : List Char) :
    Except Fault (Number × List Char) :=
  let digits := text.takeWhile Char.isDigit
  let rest := text.dropWhile Char.isDigit
  if digits.isEmpty then
    .error (.past text (if text.isEmpty then .endInValue else .badNumber))
  else
    let (significand, left) := absorb maxSignificand significand digits
    readScaled negative significand (scale - (digits.length - left.length : Nat)) rest

/-- The number of a significand that nothing follows. -/
def wholeNumber (negative : Bool) (significand : Nat) : Number :=
  if !negative then .int significand
  else if 0 < significand ∧ significand ≤ Int64.size / 2 then .int (-significand)
  else signed true significand.toUInt64.toFloat

/-- Reads a number, after its sign. -/
def readNumber (negative : Bool) (text : List Char) : Except Fault (Number × List Char) :=
  match text with
  | [] => .error (.before [] .endInValue)
  | c :: tail =>
    if !c.isDigit then .error (.past text .badNumber)
    else if c = '0' && tail.head?.any Char.isDigit then .error (.past tail .badNumber)
    else
      let (significand, left) := absorb maxSignificand 0 (text.takeWhile Char.isDigit)
      match text.dropWhile Char.isDigit with
      | '.' :: rest => readFraction negative significand left.length rest
      | rest =>
        if left.isEmpty && !(rest.head? == some 'e' || rest.head? == some 'E') then
          .ok (wholeNumber negative significand, rest)
        else readScaled negative significand left.length rest

/-! ### What is left is shorter -/

theorem length_dropWhile_le {α : Type} (p : α → Bool) (l : List α) :
    (l.dropWhile p).length ≤ l.length :=
  (List.dropWhile_suffix p).length_le

theorem scaledNumber_rest {negative : Bool} {n : Nat} {e : Int} {text rest : List Char} {x : Number}
    (h : scaledNumber negative n e text = .ok (x, rest)) : rest = text := by
  simp only [scaledNumber] at h
  split at h
  · simp only [Except.ok.injEq, Prod.mk.injEq] at h
    exact h.2.symm
  · simp at h

theorem length_le_of_readExponent {negative : Bool} {n : Nat} {e : Int} {text rest : List Char}
    {x : Number} (h : readExponent negative n e text = .ok (x, rest)) :
    rest.length ≤ text.length := by
  simp only [readExponent] at h
  generalize ht : (if (text.head? == some '-' || text.head? == some '+') = true
    then text.tail else text) = t at h
  have hle : (t.dropWhile Char.isDigit).length ≤ text.length := by
    refine Nat.le_trans (length_dropWhile_le _ _) ?_
    subst ht
    split <;> simp
  split at h
  · simp at h
  · split at h
    · exact scaledNumber_rest h ▸ hle
    · split at h
      · simp only [Except.ok.injEq, Prod.mk.injEq] at h
        exact h.2 ▸ hle
      · simp at h

theorem length_le_of_readScaled {negative : Bool} {n : Nat} {e : Int} {text rest : List Char}
    {x : Number} (h : readScaled negative n e text = .ok (x, rest)) :
    rest.length ≤ text.length := by
  simp only [readScaled] at h
  split at h
  · exact Nat.le_succ_of_le (length_le_of_readExponent h)
  · exact Nat.le_succ_of_le (length_le_of_readExponent h)
  · exact Nat.le_of_eq (congrArg List.length (scaledNumber_rest h))

theorem length_le_of_readFraction {negative : Bool} {n : Nat} {e : Int} {text rest : List Char}
    {x : Number} (h : readFraction negative n e text = .ok (x, rest)) :
    rest.length ≤ text.length := by
  simp only [readFraction] at h
  split at h
  · simp at h
  · exact Nat.le_trans (length_le_of_readScaled h) (length_dropWhile_le _ _)

theorem length_lt_of_readNumber {negative : Bool} {text rest : List Char} {x : Number}
    (h : readNumber negative text = .ok (x, rest)) : rest.length < text.length := by
  cases text with
  | nil => simp [readNumber] at h
  | cons c tail =>
    simp only [readNumber] at h
    split at h
    · simp at h
    · rename_i hc
      split at h
      · simp at h
      · have hd : c.isDigit = true := by simpa using hc
        have hlt : ((c :: tail).dropWhile Char.isDigit).length < (c :: tail).length := by
          rw [List.dropWhile_cons_of_pos hd]
          exact Nat.lt_succ_of_le (length_dropWhile_le _ _)
        split at h
        · rename_i r hr
          rw [hr] at hlt
          have := length_le_of_readFraction h
          simp only [List.length_cons] at hlt ⊢
          omega
        · split at h
          · simp only [Except.ok.injEq, Prod.mk.injEq] at h
            exact h.2 ▸ hlt
          · exact Nat.lt_of_le_of_lt (length_le_of_readScaled h) hlt

end Mustache.Json
