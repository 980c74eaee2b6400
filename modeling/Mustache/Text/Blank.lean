/-!
# White space

`isBlank` is the Unicode property `White_Space`: twenty-five characters in ten ranges, the same set
in every version of the standard since 6.3. `trim` cuts the blanks off both ends of a text and
nothing from its inside.

* `isBlank_of_isWhitespace`: the property extends the four ASCII blanks that core knows.
* `trimBlanks_cons_of_isBlank`: a blank at the start does not count.
* `trimBlanks_eq_self`: a text without blanks is its own trim.
-/

namespace Mustache.Text

/-- A closed range of code points. -/
structure CodeRange where
  /-- The first code point. -/
  first : Nat
  /-- The last code point. -/
  last : Nat
deriving DecidableEq, Repr

/-- Whether a code point lies in the range, ends included. -/
def CodeRange.covers (r : CodeRange) (n : Nat) : Bool :=
  r.first ≤ n && n ≤ r.last

/-- The code points of the property `White_Space`. -/
def blankRanges : List CodeRange :=
  [⟨0x09, 0x0D⟩, ⟨0x20, 0x20⟩, ⟨0x85, 0x85⟩, ⟨0xA0, 0xA0⟩, ⟨0x1680, 0x1680⟩, ⟨0x2000, 0x200A⟩,
    ⟨0x2028, 0x2029⟩, ⟨0x202F, 0x202F⟩, ⟨0x205F, 0x205F⟩, ⟨0x3000, 0x3000⟩]

/-- Whether the character is white space. -/
def isBlank (c : Char) : Bool :=
  blankRanges.any (·.covers c.toNat)

/-- The text without the blanks at its start. -/
def trimStart (cs : List Char) : List Char :=
  cs.dropWhile isBlank

/-- The text without the blanks at its end. -/
def trimEnd (cs : List Char) : List Char :=
  (trimStart cs.reverse).reverse

/-- The characters of a text without the blanks at either end. -/
def trimBlanks (cs : List Char) : List Char :=
  trimEnd (trimStart cs)

/-- The text without the blanks at either end. -/
def trim (s : String) : String :=
  String.ofList (trimBlanks s.toList)

/-! ### Laws -/

example : (blankRanges.map fun r => r.last + 1 - r.first).sum = 25 := by decide

theorem isBlank_of_isWhitespace {c : Char} (h : c.isWhitespace = true) : isBlank c = true := by
  simp only [Char.isWhitespace, Bool.or_eq_true, decide_eq_true_eq] at h
  rcases h with ((h | h) | h) | h <;> subst h <;> decide

@[simp] theorem toList_trim (s : String) : (trim s).toList = trimBlanks s.toList := by
  simp [trim]

@[simp] theorem trimStart_nil : trimStart [] = [] := rfl

theorem trimStart_cons_of_isBlank {c : Char} (h : isBlank c = true) (cs : List Char) :
    trimStart (c :: cs) = trimStart cs := by
  simp [trimStart, h]

theorem trimStart_cons_of_not_isBlank {c : Char} (h : isBlank c = false) (cs : List Char) :
    trimStart (c :: cs) = c :: cs := by
  simp [trimStart, h]

/-- What is left starts with no blank. -/
theorem isBlank_head_trimStart {cs : List Char} {c : Char} (h : (trimStart cs).head? = some c) :
    isBlank c = false := by
  induction cs with
  | nil => simp at h
  | cons d ds ih =>
    cases hd : isBlank d with
    | true => exact ih (by rwa [trimStart_cons_of_isBlank hd] at h)
    | false =>
      rw [trimStart_cons_of_not_isBlank hd] at h
      simp only [List.head?_cons, Option.some.injEq] at h
      exact h ▸ hd

theorem trimBlanks_cons_of_isBlank {c : Char} (h : isBlank c = true) (cs : List Char) :
    trimBlanks (c :: cs) = trimBlanks cs := by
  simp [trimBlanks, trimStart_cons_of_isBlank h]

/-- Letters and digits lie between the digit zero and the letter z. -/
theorem toNat_of_isAlphanum {c : Char} (h : c.isAlphanum = true) :
    48 ≤ c.toNat ∧ c.toNat ≤ 122 := by
  obtain halpha | hdigit : c.isAlpha = true ∨ c.isDigit = true := Bool.or_eq_true_iff.mp h
  · obtain hupper | hlower : c.isUpper = true ∨ c.isLower = true := Bool.or_eq_true_iff.mp halpha
    · obtain ⟨hfirst, hlast⟩ : 'A'.val ≤ c.val ∧ c.val ≤ 'Z'.val := of_decide_eq_true hupper
      rw [UInt32.le_iff_toNat_le] at hfirst hlast
      exact ⟨Nat.le_trans (by decide) hfirst, Nat.le_trans hlast (by decide)⟩
    · obtain ⟨hfirst, hlast⟩ := Bool.and_eq_true_iff.mp hlower
      have hfirst : 'a'.val ≤ c.val := of_decide_eq_true hfirst
      have hlast : c.val ≤ 'z'.val := of_decide_eq_true hlast
      rw [UInt32.le_iff_toNat_le] at hfirst hlast
      exact ⟨Nat.le_trans (by decide) hfirst, hlast⟩
  · obtain ⟨hfirst, hlast⟩ := Char.isDigit_iff_toNat.mp hdigit
    exact ⟨hfirst, Nat.le_trans hlast (by decide)⟩

/-- Letters and digits are no blanks. -/
theorem isBlank_of_isAlphanum {c : Char} (h : c.isAlphanum = true) : isBlank c = false := by
  have hcode := toNat_of_isAlphanum h
  -- They lie behind the second of the ranges and before the third.
  simp only [isBlank, blankRanges, CodeRange.covers, List.any_eq_false, Bool.and_eq_true,
    decide_eq_true_eq, List.mem_cons, List.not_mem_nil, or_false]
  rintro r hr
  rcases hr with rfl | rfl | rfl | rfl | rfl | rfl | rfl | rfl | rfl | rfl <;> simp only <;> omega

theorem trimStart_eq_self {cs : List Char} (h : ∀ c ∈ cs, isBlank c = false) :
    trimStart cs = cs := by
  cases cs with
  | nil => rfl
  | cons c cs => exact trimStart_cons_of_not_isBlank (h c List.mem_cons_self) cs

/-- There is nothing to cut off a text without blanks. -/
theorem trimBlanks_eq_self {cs : List Char} (h : ∀ c ∈ cs, isBlank c = false) :
    trimBlanks cs = cs := by
  have hreverse : trimStart cs.reverse = cs.reverse := trimStart_eq_self (by simpa using h)
  rw [trimBlanks, trimStart_eq_self h, trimEnd, hreverse, List.reverse_reverse]

end Mustache.Text
