/-!
# Digits

Numbers written as digits in a base up to 36; letters of either case are the digits from ten on.

* `digit?_lt`: a digit is below the base.
* `isSome_digit?_ten`: the digits of base ten are the ten that core knows.
-/

namespace Mustache.Text

/-- The digit that a character stands for in a base that is large enough. -/
def digitValue? (c : Char) : Option Nat :=
  if c.isDigit then some (c.toNat - '0'.toNat)
  else if 'a' ≤ c ∧ c ≤ 'z' then some (c.toNat - 'a'.toNat + 10)
  else if 'A' ≤ c ∧ c ≤ 'Z' then some (c.toNat - 'A'.toNat + 10)
  else none

/-- The digit below `base` that a character stands for. -/
def digit? (base : Nat) (c : Char) : Option Nat :=
  (digitValue? c).filter (· < base)

/-- Appends digits to a number, if they are digits. -/
def appendDigits? (base n : Nat) : List Char → Option Nat
  | [] => some n
  | c :: cs => (digit? base c).bind fun d => appendDigits? base (base * n + d) cs

/-- The number that some digits stand for, if they are digits and not none at all. -/
def number? (base : Nat) (cs : List Char) : Option Nat :=
  if cs.isEmpty then none else appendDigits? base 0 cs

/-- The number that decimal digits stand for, with a plus sign before them or not. -/
def unsigned? (cs : List Char) : Option Nat :=
  number? 10 (if cs.head? == some '+' then cs.tail else cs)

/-- The first number that does not fit 64 bits. -/
def wordLimit : Nat := UInt64.size

theorem digit?_lt {base n : Nat} {c : Char} (h : digit? base c = some n) : n < base := by
  simpa using (Option.filter_eq_some_iff.mp h).2

theorem isSome_digit?_ten (c : Char) : (digit? 10 c).isSome = c.isDigit := by
  cases hc : c.isDigit with
  | true =>
    have hle : c.toNat ≤ 57 := by
      simp only [Char.isDigit, Bool.and_eq_true, decide_eq_true_eq] at hc
      exact hc.2
    have hlt : c.toNat - 48 < 10 := by omega
    simp [digit?, digitValue?, hc, Option.filter, hlt]
  | false =>
    simp only [digit?, digitValue?, hc, Bool.false_eq_true, if_false]
    split
    · simp [Option.filter]
    · split <;> simp [Option.filter]

end Mustache.Text
