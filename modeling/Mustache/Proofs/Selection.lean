import Mathlib.Data.Nat.Digits.Defs
import Mustache.Proofs.Parts
import Mustache.Scope
/-!
# How names are read

A name is a key, or a key with an index in brackets behind it. What it is read as is said here without
the reader, by what the name is put together from; so is what is wrong with a name that cannot be read.

* `IsIndex text n`: the text is an index, and it stands for the number.
* `Selection.Reads name result`: the name is read as this selection, or there is this error in it. Of
  several errors it is the first one of the list.
* `Selection.parse_eq_iff`: the reader gives the one result that there is.
-/

namespace Mustache

/-! ### Digits -/

/-- The number that decimal digits stand for. -/
def decimal (digits : List Char) : Nat :=
  Nat.ofDigits 10 (digits.reverse.map fun c => c.toNat - '0'.toNat)

/-- An index and its number: decimal digits with a plus sign in front of them or not, of a number that
fits 64 bits. -/
def IsIndex (text : List Char) (n : Nat) : Prop :=
  ∃ digits, (text = digits ∨ text = '+' :: digits) ∧ digits ≠ [] ∧
    (∀ c ∈ digits, c.isDigit = true) ∧ n = decimal digits ∧ n < UInt64.size

namespace Text

variable {c : Char} {cs : List Char} {n m : Nat}

theorem digit?_of_isDigit (h : c.isDigit = true) : digit? 10 c = some (c.toNat - '0'.toNat) := by
  obtain ⟨n, hn⟩ := Option.isSome_iff_exists.mp ((isSome_digit?_ten c).trans h)
  have hvalue : digitValue? c = some (c.toNat - '0'.toNat) := if_pos h
  rw [hn, ← hvalue]
  exact (Option.filter_eq_some_iff.mp hn).1.symm

theorem decimal_cons (c : Char) (cs : List Char) :
    decimal (c :: cs) = (c.toNat - '0'.toNat) * 10 ^ cs.length + decimal cs := by
  rw [decimal, List.reverse_cons, List.map_append, Nat.ofDigits_append, List.map_singleton,
    Nat.ofDigits_singleton, List.length_map, List.length_reverse, Nat.add_comm, Nat.mul_comm]
  rfl

/-- **Digits are appended if they are digits.** -/
theorem appendDigits?_eq_some_iff : appendDigits? 10 n cs = some m ↔
    (∀ c ∈ cs, c.isDigit = true) ∧ m = n * 10 ^ cs.length + decimal cs := by
  induction cs generalizing n with
  | nil =>
    have hnil : n * 10 ^ ([] : List Char).length + decimal [] = n := by simp [decimal]
    rw [appendDigits?, Option.some.injEq, hnil]
    exact ⟨fun h => ⟨nofun, h.symm⟩, fun h => h.2.symm⟩
  | cons c cs ih =>
    rw [appendDigits?, List.forall_mem_cons]
    cases hc : c.isDigit with
    | true =>
      rw [digit?_of_isDigit hc, Option.bind_some, ih, decimal_cons, List.length_cons, Nat.pow_succ]
      simp only [true_and, and_congr_right_iff]
      intro _
      rw [← Nat.add_assoc, Nat.mul_comm 10 n, Nat.add_mul, Nat.mul_assoc, Nat.mul_comm 10]
    | false =>
      have hnone : digit? 10 c = none := by
        rw [← Option.not_isSome_iff_eq_none, isSome_digit?_ten, hc]
        exact Bool.false_ne_true
      simp [hnone]

end Text

theorem Text.number?_eq_some_iff {cs : List Char} {n : Nat} : number? 10 cs = some n ↔
    cs ≠ [] ∧ (∀ c ∈ cs, c.isDigit = true) ∧ n = decimal cs := by
  cases cs with
  | nil => simp [number?]
  | cons c cs =>
    rw [number?, List.isEmpty_cons, if_neg Bool.false_ne_true, appendDigits?_eq_some_iff,
      Nat.zero_mul, Nat.zero_add]
    exact (and_iff_right (List.cons_ne_nil c cs)).symm

/-- **Which texts are read as an index.** -/
theorem parseIndex?_eq_some_iff {text : List Char} {n : Nat} :
    parseIndex? text = some n ↔ IsIndex text n := by
  have hlimit : (decide (n < Text.wordLimit) = true) ↔ n < UInt64.size := decide_eq_true_iff
  rw [parseIndex?, Option.filter_eq_some_iff, hlimit, Text.unsigned?, Text.number?_eq_some_iff]
  constructor
  · rintro ⟨⟨hne, hdigits, hn⟩, hsmall⟩
    refine ⟨_, ?_, hne, hdigits, hn, hsmall⟩
    split
    · rename_i hsign
      have hhead : text.head? = some '+' := by simpa using hsign
      obtain ⟨rest, rfl⟩ := List.head?_eq_some_iff.mp hhead
      exact .inr rfl
    · exact .inl rfl
  · rintro ⟨digits, rfl | rfl, hne, hdigits, hn, hsmall⟩
    -- A plus sign is no digit, so that the text starts with none.
    · have hsign : (text.head? == some '+') = false := by
        match text, hdigits with
        | [], _ => rfl
        | c :: cs, hdigits =>
          have hc := hdigits c List.mem_cons_self
          have hplus : c ≠ '+' := by
            rintro rfl
            exact absurd hc (by decide)
          simpa using hplus
      rw [hsign]
      exact ⟨⟨hne, hdigits, hn⟩, hsmall⟩
    · exact ⟨⟨hne, hdigits, hn⟩, hsmall⟩

/-! ### Names -/

/-- What a name is read as, or why it cannot be read. -/
inductive Selection.Reads (name : String) : Except RenderError Selection → Prop where
  /-- A name without an opening bracket is a key. -/
  | key (h : '[' ∉ name.toList) : Reads name (.ok ⟨name, none⟩)
  /-- A key with an index in brackets behind it. -/
  | indexed {key digits : List Char} {n : Nat}
    (hname : name.toList = key ++ '[' :: (digits ++ [']'])) (hkey : '[' ∉ key)
    (hdigits : IsIndex digits n) : Reads name (.ok ⟨String.ofList key, some n⟩)
  /-- No closing bracket follows the first opening one. -/
  | missingBracket {key inner : List Char} (hname : name.toList = key ++ '[' :: inner)
    (hkey : '[' ∉ key) (hinner : ']' ∉ inner) : Reads name (.error (.missingBracket name))
  /-- The closing bracket follows at once. -/
  | emptyIndex {key trailing : List Char} (hname : name.toList = key ++ '[' :: ']' :: trailing)
    (hkey : '[' ∉ key) : Reads name (.error (.emptyIndex name))
  /-- There is something between the brackets, and behind them. -/
  | trailingIndex {key digits trailing : List Char}
    (hname : name.toList = key ++ '[' :: (digits ++ ']' :: trailing)) (hkey : '[' ∉ key)
    (hdigits : ']' ∉ digits) (hne : digits ≠ []) (htrailing : trailing ≠ []) :
    Reads name (.error (.trailingIndex name))
  /-- What is between the brackets is no index. -/
  | invalidIndex {key digits : List Char} (hname : name.toList = key ++ '[' :: (digits ++ [']']))
    (hkey : '[' ∉ key) (hdigits : ']' ∉ digits) (hne : digits ≠ [])
    (hindex : ∀ n, ¬ IsIndex digits n) :
    Reads name (.error (.invalidIndex name (String.ofList digits)))

namespace Selection

variable {name : String} {key inner digits trailing : List Char} {n : Nat}

theorem ne_nil_of_isIndex (h : IsIndex digits n) : digits ≠ [] := by
  obtain ⟨ds, rfl | rfl, hne, -⟩ := h
  · exact hne
  · exact List.cons_ne_nil '+' ds

/-- The characters of an index are no brackets. -/
theorem not_mem_of_isIndex (h : IsIndex digits n) : ']' ∉ digits := by
  obtain ⟨ds, hsign, -, hds, -, -⟩ := h
  have hbracket : ']' ∉ ds := fun hmem => absurd (hds ']' hmem) (by decide)
  obtain rfl | rfl := hsign
  · exact hbracket
  · exact fun hmem => hbracket ((List.mem_cons.mp hmem).resolve_left (by decide))

theorem parse_of_reads {result : Except RenderError Selection} (h : Reads name result) :
    parse name = result := by
  cases h with
  | key h => simp only [parse, Text.dropWhile_of_not_mem h]
  | @indexed key digits n hname hkey hdigits =>
    have hbracket := not_mem_of_isIndex hdigits
    have hne : digits ≠ [] := ne_nil_of_isIndex hdigits
    simp only [parse, hname, Text.dropWhile_separator hkey, Text.dropWhile_separator hbracket,
      Text.takeWhile_separator hkey, Text.takeWhile_separator hbracket,
      parseIndex?_eq_some_iff.mpr hdigits]
    simp [hne]
  | missingBracket hname hkey hinner =>
    simp only [parse, hname, Text.dropWhile_separator hkey, Text.dropWhile_of_not_mem hinner]
  | @emptyIndex key trailing hname hkey =>
    -- The first closing bracket comes at once, whatever follows.
    simp only [parse, hname, Text.dropWhile_separator hkey]
    rfl
  | trailingIndex hname hkey hdigits hne htrailing =>
    simp only [parse, hname, Text.dropWhile_separator hkey, Text.dropWhile_separator hdigits,
      Text.takeWhile_separator hdigits]
    simp [hne, htrailing]
  | @invalidIndex key digits hname hkey hdigits hne hindex =>
    have hnone : parseIndex? digits = none := by
      rw [Option.eq_none_iff_forall_ne_some]
      exact fun n hn => hindex n (parseIndex?_eq_some_iff.mp hn)
    simp only [parse, hname, Text.dropWhile_separator hkey, Text.dropWhile_separator hdigits,
      Text.takeWhile_separator hdigits, hnone]
    simp [hne]

/-- **Every name is read in some way**, if only as one that is malformed. -/
theorem exists_reads (name : String) : ∃ result, Reads name result := by
  by_cases hopen : '[' ∈ name.toList
  · obtain ⟨key, inner, hname, hkey⟩ := List.eq_append_cons_of_mem hopen
    by_cases hclose : ']' ∈ inner
    · obtain ⟨digits, trailing, rfl, hdigits⟩ := List.eq_append_cons_of_mem hclose
      match digits, trailing with
      | [], trailing => exact ⟨_, .emptyIndex hname hkey⟩
      | d :: digits, t :: trailing =>
        exact ⟨_, .trailingIndex hname hkey hdigits (List.cons_ne_nil d digits)
          (List.cons_ne_nil t trailing)⟩
      | d :: digits, [] =>
        by_cases hindex : ∃ n, IsIndex (d :: digits) n
        · obtain ⟨n, hn⟩ := hindex
          exact ⟨_, .indexed hname hkey hn⟩
        · exact ⟨_, .invalidIndex hname hkey hdigits (List.cons_ne_nil d digits)
            (not_exists.mp hindex)⟩
    · exact ⟨_, .missingBracket hname hkey hclose⟩
  · exact ⟨_, .key hopen⟩

/-- **A name is read in one way.** -/
theorem parse_eq_iff {result : Except RenderError Selection} :
    parse name = result ↔ Reads name result := by
  constructor
  · rintro rfl
    obtain ⟨result, h⟩ := exists_reads name
    rwa [parse_of_reads h]
  · exact parse_of_reads

-- A closing bracket belongs to the key if it stands in front of the opening one.
example : parse "a]b[+007]" = .ok ⟨"a]b", some 7⟩ := by rfl

end Selection

end Mustache
