import Mathlib.Data.List.Basic
import Mathlib.Data.List.TakeWhile
import Mustache.Text.Blank
/-!
# Parts of a text

A text is taken apart at the first of its characters that is a certain one, into pieces at each of
these characters, and from the blanks around it. This file says what the parts are.

* `dropWhile_separator`, `takeWhile_separator`: what lies behind and in front of the first separator.
* `mem_of_mem_splitOn`: pieces bring in no characters.
* `trimBlanks_eq_iff`: the trim of a text is the one part of it that neither starts nor ends with a
  blank and has nothing but blanks around it.
-/

namespace Mustache.Text

variable {c : Char} {front back cs ds : List Char}

/-! ### Separators -/

/-- What is in front of a separator passes the test for what is none. -/
theorem bne_of_not_mem (h : c ∉ front) : ∀ d ∈ front, (d != c) = true := by
  intro d hd
  rw [bne_iff_ne]
  rintro rfl
  exact h hd

theorem dropWhile_of_not_mem (h : c ∉ cs) : cs.dropWhile (· != c) = [] :=
  List.dropWhile_eq_nil_iff.mpr (bne_of_not_mem h)

theorem dropWhile_separator (h : c ∉ front) (back : List Char) :
    (front ++ c :: back).dropWhile (· != c) = c :: back := by
  rw [List.dropWhile_append_of_pos (bne_of_not_mem h), List.dropWhile_cons_of_neg (by simp)]

theorem takeWhile_separator (h : c ∉ front) (back : List Char) :
    (front ++ c :: back).takeWhile (· != c) = front := by
  rw [List.takeWhile_append_of_pos (bne_of_not_mem h), List.takeWhile_cons_of_neg (by simp),
    List.append_nil]

theorem mem_of_mem_trimBlanks {c : Char} {cs : List Char} (h : c ∈ trimBlanks cs) :
    c ∈ cs := by
  simp only [trimBlanks, trimEnd, trimStart, List.mem_reverse] at h
  have hstart := (List.dropWhile_sublist isBlank).subset h
  exact (List.dropWhile_sublist isBlank).subset (List.mem_reverse.mp hstart)

/-- A piece between separators is a part of the whole. -/
theorem mem_of_mem_splitOn {a c : Char} {piece cs : List Char} (hpiece : piece ∈ cs.splitOn a)
    (hc : c ∈ piece) : c ∈ cs := by
  rw [List.splitOn_eq_splitOnP] at hpiece
  induction cs generalizing piece with
  | nil =>
    obtain rfl : piece = [] := by simpa using hpiece
    exact hc
  | cons x xs ih =>
    rw [List.splitOnP_cons_eq_if_modifyHead] at hpiece
    split at hpiece
    · obtain rfl | hpiece := List.mem_cons.mp hpiece
      · simp at hc
      · exact List.mem_cons_of_mem x (ih hpiece hc)
    · match hsplit : xs.splitOnP (· == a), hpiece with
      | first :: others, hpiece =>
        rw [List.modifyHead_cons, List.mem_cons] at hpiece
        obtain rfl | hpiece := hpiece
        · -- The character goes to the front of the first piece.
          obtain rfl | hc := List.mem_cons.mp hc
          · exact List.mem_cons_self
          · exact List.mem_cons_of_mem x (ih (hsplit ▸ List.mem_cons_self) hc)
        · exact List.mem_cons_of_mem x (ih (hsplit ▸ List.mem_cons_of_mem first hpiece) hc)

/-! ### Trimming -/

/-- There are only blanks in the text. -/
def IsBlanks (cs : List Char) : Prop := ∀ c ∈ cs, isBlank c = true

/-- The text neither starts nor ends with a blank. -/
def IsTrimmed (cs : List Char) : Prop :=
  (∀ c ∈ cs.head?, isBlank c = false) ∧ ∀ c ∈ cs.getLast?, isBlank c = false

instance (cs : List Char) : Decidable (IsBlanks cs) :=
  decidable_of_iff (cs.all isBlank) List.all_eq_true

instance (cs : List Char) : Decidable (IsTrimmed cs) :=
  decidable_of_iff (cs.head?.all (!isBlank ·) ∧ cs.getLast?.all (!isBlank ·)) (by
    simp only [IsTrimmed, Option.all_eq_true, Bool.not_eq_true', Option.mem_def])

theorem IsBlanks.reverse (h : IsBlanks cs) : IsBlanks cs.reverse := by
  intro c hc
  exact h c (List.mem_reverse.mp hc)

theorem IsTrimmed.reverse (h : IsTrimmed cs) : IsTrimmed cs.reverse := by
  rw [IsTrimmed, List.head?_reverse, List.getLast?_reverse]
  exact h.symm

/-- Only the ends of a text count. -/
theorem IsTrimmed.append (hfront : IsTrimmed front) (hne : front ≠ []) (hback : IsTrimmed back)
    (hne' : back ≠ []) (cs : List Char) : IsTrimmed (front ++ cs ++ back) := by
  constructor
  · rw [List.append_assoc, List.head?_append_of_ne_nil front hne]
    exact hfront.1
  · rw [List.getLast?_append_of_ne_nil (front ++ cs) hne']
    exact hback.2

theorem trimStart_append (h : IsBlanks front) (cs : List Char) :
    trimStart (front ++ cs) = trimStart cs :=
  List.dropWhile_append_of_pos h

/-- Only the start of the text counts. -/
theorem trimStart_of_isTrimmed (h : IsTrimmed cs) (hback : IsBlanks back) :
    trimStart (cs ++ back) = cs ++ (if cs.isEmpty then [] else back) := by
  cases cs with
  | nil => rw [List.nil_append, ← List.append_nil back, trimStart_append hback]; rfl
  | cons c cs => exact trimStart_cons_of_not_isBlank (h.1 c rfl) (cs ++ back)

/-- What is cut off at the start are blanks. -/
theorem exists_trimStart (cs : List Char) : ∃ front, IsBlanks front ∧ cs = front ++ trimStart cs :=
  ⟨cs.takeWhile isBlank, fun _ => List.mem_takeWhile_imp, List.takeWhile_append_dropWhile.symm⟩

/-- **The trim of a text with blanks around it.** -/
theorem trimBlanks_of_isTrimmed (hfront : IsBlanks front) (h : IsTrimmed cs)
    (hback : IsBlanks back) : trimBlanks (front ++ cs ++ back) = cs := by
  rw [trimBlanks, List.append_assoc, trimStart_append hfront]
  cases cs with
  | nil =>
    -- Nothing but blanks is left behind those at the start.
    rw [trimStart_of_isTrimmed h hback]
    rfl
  | cons c cs =>
    rw [trimStart_of_isTrimmed h hback, trimEnd]
    simp only [List.isEmpty_cons, Bool.false_eq_true, if_false]
    rw [List.reverse_append, trimStart_append hback.reverse]
    have hnil : IsBlanks [] := List.forall_mem_nil _
    have hend := trimStart_of_isTrimmed h.reverse hnil
    simp only [List.append_nil, ite_self] at hend
    rw [hend, List.reverse_reverse]

/-- **The trim of a text is trimmed**, and there are only blanks around it. -/
theorem exists_trimBlanks (cs : List Char) : IsTrimmed (trimBlanks cs) ∧
    ∃ front back, IsBlanks front ∧ IsBlanks back ∧ cs = front ++ trimBlanks cs ++ back := by
  obtain ⟨front, hfront, hstart⟩ := exists_trimStart cs
  obtain ⟨back, hback, hend⟩ := exists_trimStart (trimStart cs).reverse
  have hsplit : trimStart cs = trimBlanks cs ++ back.reverse := by
    rw [trimBlanks, trimEnd, ← List.reverse_append, ← hend, List.reverse_reverse]
  refine ⟨⟨?_, ?_⟩, front, back.reverse, hfront, hback.reverse, ?_⟩
  · intro c hc
    have hhead : (trimStart cs).head? = some c := by
      rw [hsplit, List.head?_append, hc]
      rfl
    exact isBlank_head_trimStart hhead
  · intro c hc
    rw [trimBlanks, trimEnd, List.getLast?_reverse] at hc
    exact isBlank_head_trimStart hc
  · rw [List.append_assoc, ← hsplit]
    exact hstart

/-- **What the trim of a text is.** -/
theorem trimBlanks_eq_iff : trimBlanks cs = ds ↔ IsTrimmed ds ∧
    ∃ front back, IsBlanks front ∧ IsBlanks back ∧ cs = front ++ ds ++ back := by
  constructor
  · rintro rfl
    exact exists_trimBlanks cs
  · rintro ⟨h, front, back, hfront, hback, rfl⟩
    exact trimBlanks_of_isTrimmed hfront h hback

end Mustache.Text
