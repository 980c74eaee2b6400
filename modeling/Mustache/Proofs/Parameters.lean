import Mathlib.Tactic.SplitIfs
import Mustache.Partial.Binding
import Mustache.Partial.Reference
import Mustache.Proofs.Parts
import Mustache.Proofs.Run
/-!
# References as they are written

A reference to a partial is written as a file and the parameters that come with it. This file says how
they are written and shows that what is read is what was written.

The one direction is a round trip. Blanks may stand around the file, around each key and around each
value, and what is read of the text are the file, the keys and the texts in quotes, each character of
them. If a key comes twice then the first text counts. The other direction is about any parameter at
all: whatever can be read has been written as a key and a value.

* `Margin`: the blanks that are written around a part.
* `QuotedParameter`, `WrittenReference`: what is written. Their fields say what the parts can be, so
  that nothing need be assumed of a reference that is written.
* `Binding.IsWritten b value`: the value is one way to write what is bound.
* `parseParameter_eq_ok_iff`: which parameters can be read, and as what.
* `references_decode`: both directions.
-/

namespace Mustache

/-! ### Margins -/

/-- Blanks to write around a text. -/
structure Margin where
  /-- The blanks in front of it. -/
  before : List Char
  /-- The blanks behind it. -/
  after : List Char
  isBlanks_before : Text.IsBlanks before
  isBlanks_after : Text.IsBlanks after

namespace Margin

variable {c : Char} {cs : List Char}

/-- The text with the blanks around it. -/
def around (m : Margin) (cs : List Char) : List Char := m.before ++ cs ++ m.after

theorem mem_around (m : Margin) (hc : Text.isBlank c = false) : c ∈ m.around cs ↔ c ∈ cs := by
  have hbefore : c ∉ m.before := fun h => by simp [m.isBlanks_before c h] at hc
  have hafter : c ∉ m.after := fun h => by simp [m.isBlanks_after c h] at hc
  simp [around, hbefore, hafter]

theorem trimBlanks_around (m : Margin) (h : Text.IsTrimmed cs) : Text.trimBlanks (m.around cs) = cs :=
  Text.trimBlanks_of_isTrimmed m.isBlanks_before h m.isBlanks_after

theorem exists_around (cs : List Char) : ∃ m : Margin, cs = m.around (Text.trimBlanks cs) := by
  obtain ⟨-, front, back, hfront, hback, h⟩ := Text.exists_trimBlanks cs
  exact ⟨⟨front, back, hfront, hback⟩, h⟩

end Margin

/-! ### Parameters that can be read -/

/-- The character is a quote. -/
def IsQuote (c : Char) : Prop := c = '\'' ∨ c = '"'

instance (c : Char) : Decidable (IsQuote c) := inferInstanceAs (Decidable (_ ∨ _))

/-- The text can be a key. -/
structure IsParameterKey (key : List Char) : Prop where
  ne_nil : key ≠ []
  isTrimmed : Text.IsTrimmed key
  not_mem : '=' ∉ key

/-- The value is one way to write what is bound. -/
inductive Binding.IsWritten : Binding → List Char → Prop where
  /-- A text stands in quotes. The closing quote is the first one like the opening one, and nothing
  comes after it. -/
  | literal {quote : Char} {content : List Char} (hquote : IsQuote quote) (hcontent : quote ∉ content) :
    IsWritten (.literal (String.ofList content)) (quote :: (content ++ [quote]))
  /-- A word stands for itself. -/
  | bare {word : List Char} (hne : word ≠ []) (hhead : ∀ c ∈ word.head?, ¬ IsQuote c)
    (hword : ∀ c ∈ word, c ≠ '=' ∧ Text.isBlank c = false) :
    IsWritten (.bare (String.ofList word)) word

section

variable {parameter key : String} {binding : Binding} {c quote : Char}
  {content trailing word value left right : List Char}

theorem isQuote_iff : (decide (c = '\'') || decide (c = '"')) = true ↔ IsQuote c := by
  rw [Bool.or_eq_true, decide_eq_true_iff, decide_eq_true_iff]
  rfl

theorem isBlank_of_isQuote (h : IsQuote c) : Text.isBlank c = false := by
  obtain rfl | rfl := h <;> decide

theorem Binding.IsWritten.isTrimmed (h : binding.IsWritten value) : Text.IsTrimmed value := by
  cases h with
  | @literal quote content hquote hcontent =>
    have hlast : (quote :: (content ++ [quote])).getLast? = some quote := by
      rw [← List.cons_append, List.getLast?_concat]
    rw [Text.IsTrimmed, hlast, List.head?_cons]
    simp [isBlank_of_isQuote hquote]
  | bare hne hhead hword =>
    exact ⟨fun c hc => (hword c (List.mem_of_mem_head? hc)).2,
      fun c hc => (hword c (List.mem_of_mem_getLast? hc)).2⟩

/-- A text in quotes is one if nothing comes after it. -/
theorem Binding.parse_quoted (hquote : IsQuote quote) (hcontent : quote ∉ content) :
    Binding.parse parameter (quote :: (content ++ quote :: trailing)) =
      if trailing.isEmpty then .ok (.literal (String.ofList content))
      else .error (.missingSeparator parameter) := by
  simp only [parse, if_pos (isQuote_iff.mpr hquote), Text.dropWhile_separator hcontent,
    Text.takeWhile_separator hcontent]
  cases trailing <;> rfl

theorem Binding.parse_unclosed (hquote : IsQuote quote) (hcontent : quote ∉ content) :
    Binding.parse parameter (quote :: content) =
      .error (.unclosedLiteral (String.ofList (quote :: content))) := by
  simp only [parse, if_pos (isQuote_iff.mpr hquote), Text.dropWhile_of_not_mem hcontent]

theorem Binding.parse_word (hne : word ≠ []) (hhead : ∀ c ∈ word.head?, ¬ IsQuote c) :
    Binding.parse parameter word =
      if word.any fun c => c == '=' || Text.isBlank c then .error (.missingSeparator parameter)
      else .ok (.bare (String.ofList word)) := by
  obtain ⟨c, cs, rfl⟩ := List.exists_cons_of_ne_nil hne
  rw [parse, if_neg (isQuote_iff.not.mpr (hhead c rfl))]

/-- **Which values can be read, and as what.** -/
theorem Binding.parse_eq_ok_iff :
    Binding.parse parameter value = .ok binding ↔ binding.IsWritten value := by
  constructor
  · intro h
    match value with
    | [] => cases h
    | c :: body =>
      by_cases hquote : IsQuote c
      · by_cases hmem : c ∈ body
        · obtain ⟨content, trailing, rfl, hcontent⟩ := List.eq_append_cons_of_mem hmem
          rw [parse_quoted hquote hcontent] at h
          cases trailing with
          | nil => cases h; exact .literal hquote hcontent
          | cons d ds => cases h
        · rw [parse_unclosed hquote hmem] at h
          cases h
      · have hhead : ∀ d ∈ (c :: body).head?, ¬ IsQuote d := by
          rintro d ⟨⟩
          exact hquote
        rw [parse_word (List.cons_ne_nil c body) hhead] at h
        split_ifs at h with hany
        cases h
        refine .bare (List.cons_ne_nil c body) hhead fun d hd => ?_
        simpa using List.any_eq_false.mp (Bool.eq_false_iff.mpr hany) d hd
  · intro h
    cases h with
    | literal hquote hcontent => exact parse_quoted hquote hcontent
    | bare hne hhead hword =>
      have hany : ¬ (value.any fun c => c == '=' || Text.isBlank c) = true := by
        rw [Bool.not_eq_true, List.any_eq_false]
        exact fun c hc => by simpa using hword c hc
      rw [parse_word hne hhead, if_neg hany]

theorem parseParameter_of_separator (h : parameter.toList = left ++ '=' :: right)
    (hleft : '=' ∉ left) :
    parseParameter parameter =
      if (Text.trimBlanks left).isEmpty then .error (.missingKey parameter)
      else (fun b => (String.ofList (Text.trimBlanks left), b)) <$>
        Binding.parse parameter (Text.trimBlanks right) := by
  simp only [parseParameter, h, Text.dropWhile_separator hleft, Text.takeWhile_separator hleft]
  split_ifs
  · rfl
  · cases Binding.parse parameter (Text.trimBlanks right) <;> rfl

/-- **Which parameters can be read, and as what.** -/
theorem parseParameter_eq_ok_iff : parseParameter parameter = .ok (key, binding) ↔
    ∃ (keyMargin valueMargin : Margin) (value : List Char),
      parameter.toList = keyMargin.around key.toList ++ '=' :: valueMargin.around value ∧
        IsParameterKey key.toList ∧ binding.IsWritten value := by
  constructor
  · intro h
    by_cases hsign : '=' ∈ parameter.toList
    · obtain ⟨left, right, hsplit, hleft⟩ := List.eq_append_cons_of_mem hsign
      rw [parseParameter_of_separator hsplit hleft] at h
      split_ifs at h with hempty
      cases hvalue : Binding.parse parameter (Text.trimBlanks right) with
      | error e => rw [hvalue] at h; cases h
      | ok b =>
        rw [hvalue] at h
        cases h
        obtain ⟨keyMargin, hkey⟩ := Margin.exists_around left
        obtain ⟨valueMargin, hright⟩ := Margin.exists_around right
        rw [String.toList_ofList]
        refine ⟨keyMargin, valueMargin, _, ?_, ⟨?_, (Text.exists_trimBlanks left).1, ?_⟩,
          Binding.parse_eq_ok_iff.mp hvalue⟩
        · rw [← hkey, ← hright, hsplit]
        · simpa using hempty
        · exact fun hmem => hleft (Text.mem_of_mem_trimBlanks hmem)
    · simp only [parseParameter, Text.dropWhile_of_not_mem hsign] at h
      cases h
  · rintro ⟨keyMargin, valueMargin, value, hsplit, hkey, hvalue⟩
    have hleft : '=' ∉ keyMargin.around key.toList :=
      (keyMargin.mem_around (by decide)).not.mpr hkey.not_mem
    rw [parseParameter_of_separator hsplit hleft, keyMargin.trimBlanks_around hkey.isTrimmed,
      valueMargin.trimBlanks_around hvalue.isTrimmed, Binding.parse_eq_ok_iff.mpr hvalue,
      if_neg (by simpa using hkey.ne_nil), map_ok, String.ofList_toList]

end

/-! ### References that are written -/

/-- A parameter that binds a key to a text in quotes, and the blanks in it. -/
structure QuotedParameter where
  /-- The key. -/
  key : String
  /-- The quote around the text. -/
  quote : Char
  /-- The text. -/
  content : String
  /-- The blanks around the key. -/
  keyMargin : Margin
  /-- The blanks around the text and its quotes. -/
  valueMargin : Margin
  isKey : IsParameterKey key.toList
  isQuote : IsQuote quote
  quote_not_mem : quote ∉ content.toList
  bar_not_mem_key : '|' ∉ key.toList
  bar_not_mem_content : '|' ∉ content.toList

namespace QuotedParameter

/-- The text in its quotes. -/
def quoted (p : QuotedParameter) : List Char := p.quote :: (p.content.toList ++ [p.quote])

/-- What stands between the bars. -/
def piece (p : QuotedParameter) : List Char :=
  p.keyMargin.around p.key.toList ++ '=' :: p.valueMargin.around p.quoted

/-- The parameter without the blanks at its ends. -/
def trimmed (p : QuotedParameter) : QuotedParameter where
  __ := p
  keyMargin := ⟨[], p.keyMargin.after, List.forall_mem_nil _, p.keyMargin.isBlanks_after⟩
  valueMargin := ⟨p.valueMargin.before, [], p.valueMargin.isBlanks_before, List.forall_mem_nil _⟩

theorem isWritten_quoted (p : QuotedParameter) :
    (Binding.literal p.content).IsWritten p.quoted := by
  have h := Binding.IsWritten.literal p.isQuote p.quote_not_mem
  rwa [String.ofList_toList] at h

theorem parseParameter_piece (p : QuotedParameter) :
    parseParameter (String.ofList p.piece) = .ok (p.key, .literal p.content) := by
  rw [parseParameter_eq_ok_iff]
  exact ⟨p.keyMargin, p.valueMargin, p.quoted, String.toList_ofList, p.isKey, p.isWritten_quoted⟩

/-- **A piece loses the blanks at its ends**, and those inside stay. -/
theorem trimBlanks_piece (p : QuotedParameter) : Text.trimBlanks p.piece = p.trimmed.piece := by
  have hends : p.trimmed.piece =
      p.key.toList ++ (p.keyMargin.after ++ '=' :: p.valueMargin.before) ++ p.quoted := by
    simp [piece, trimmed, Margin.around, quoted]
  have htrimmed : Text.IsTrimmed p.trimmed.piece := by
    rw [hends]
    exact p.isKey.isTrimmed.append p.isKey.ne_nil p.isWritten_quoted.isTrimmed
      (List.cons_ne_nil _ _) _
  rw [Text.trimBlanks_eq_iff]
  refine ⟨htrimmed, p.keyMargin.before, p.valueMargin.after, p.keyMargin.isBlanks_before,
    p.valueMargin.isBlanks_after, ?_⟩
  rw [hends]
  simp [piece, Margin.around]

theorem bar_not_mem_piece (p : QuotedParameter) : '|' ∉ p.piece := by
  have hblank : Text.isBlank '|' = false := by decide
  have hquote : '|' ≠ p.quote := by
    obtain h | h := p.isQuote <;> rw [h] <;> decide
  simp [piece, quoted, Margin.mem_around _ hblank, p.bar_not_mem_key, p.bar_not_mem_content, hquote]

end QuotedParameter

/-- A reference with parameters that bind keys to texts in quotes, and the blanks in it. -/
structure WrittenReference where
  /-- The logical name of the file. -/
  file : String
  /-- The blanks around it. -/
  fileMargin : Margin
  /-- The parameters, in their order. -/
  parameters : List QuotedParameter
  isTrimmed_file : Text.IsTrimmed file.toList
  bar_not_mem_file : '|' ∉ file.toList

namespace WrittenReference

/-- What stands between the bars. -/
def pieces (w : WrittenReference) : List (List Char) :=
  w.fileMargin.around w.file.toList :: w.parameters.map QuotedParameter.piece

/-- The text of the reference. -/
def text (w : WrittenReference) : String := String.ofList (['|'].intercalate w.pieces)

theorem splitOn_text (w : WrittenReference) : w.text.toList.splitOn '|' = w.pieces := by
  rw [text, String.toList_ofList]
  refine List.splitOn_intercalate '|' ?_ (List.cons_ne_nil _ _)
  intro piece hpiece
  obtain rfl | hpiece := List.mem_cons.mp hpiece
  · exact (w.fileMargin.mem_around (by decide)).not.mpr w.bar_not_mem_file
  · obtain ⟨p, -, rfl⟩ := List.mem_map.mp hpiece
    exact p.bar_not_mem_piece

/-- **The pieces are read back**, without the blanks around them. -/
theorem parse_text (w : WrittenReference) : PartialReference.parse w.text =
    ⟨w.file, w.parameters.map fun p => String.ofList p.trimmed.piece⟩ := by
  have hfile : Text.trimBlanks (w.fileMargin.around w.file.toList) = w.file.toList :=
    w.fileMargin.trimBlanks_around w.isTrimmed_file
  have hpieces : (w.parameters.map QuotedParameter.piece).map
      (fun piece => String.ofList (Text.trimBlanks piece)) =
      w.parameters.map fun p => String.ofList p.trimmed.piece := by
    rw [List.map_map]
    exact List.map_congr_left fun p _ => congrArg String.ofList p.trimBlanks_piece
  have hnonempty : ∀ piece ∈ w.parameters.map fun p => String.ofList p.trimmed.piece,
      (!piece.isEmpty) = true := by
    intro piece hpiece
    obtain ⟨p, -, rfl⟩ := List.mem_map.mp hpiece
    simp [QuotedParameter.piece]
  rw [PartialReference.parse, splitOn_text, pieces, List.map_cons, List.headD_cons, List.tail_cons,
    hpieces, List.filter_eq_self.mpr hnonempty, hfile, String.ofList_toList]

end WrittenReference

/-! ### What is bound -/

namespace BindingTable

variable {t : BindingTable}

/-- What is bound already counts. -/
theorem get?_bind (key : String) (binding : Binding) (k : String) :
    (t.bind key binding).get? k =
      (t.get? k).or (if key = k then some (t.settle binding) else none) := by
  cases hkey : t.get? key with
  | some b =>
    rw [bind, hkey]
    split_ifs with h
    · subst h
      simp [hkey]
    · simp
  | none =>
    rw [bind, hkey]
    simp only [get?, List.lookup_append]
    congr 1
    split_ifs with h
    · subst h
      simp
    · have hne : (k == key) = false := by simpa using Ne.symm h
      simp [List.lookup_cons, hne]

/-- **The first text counts.** -/
theorem exists_bindAll (parameters : List QuotedParameter) (t : BindingTable) :
    ∃ table, t.bindAll (parameters.map fun p => String.ofList p.trimmed.piece) = .ok table ∧
      ∀ key, table.get? key =
        (t.get? key).or ((parameters.find? (·.key = key)).map fun p => .literal p.content) := by
  induction parameters generalizing t with
  | nil => exact ⟨t, rfl, fun key => Option.or_none.symm⟩
  | cons p parameters ih =>
    obtain ⟨table, htable, hget⟩ := ih (t.bind p.key (.literal p.content))
    refine ⟨table, ?_, ?_⟩
    · rw [List.map_cons, bindAll, p.trimmed.parseParameter_piece, ok_bind]
      exact htable
    · intro key
      rw [hget, get?_bind, Option.or_assoc, List.find?_cons]
      congr 1
      split_ifs with h
      · simp [h, settle]
      · simp [h]

end BindingTable

/-- **References say what was written**, and nothing else.

* Of a reference with blanks anywhere around its parts, the file and the texts in quotes are read back
  character by character. Each key is bound to the first text that was written for it, and no other
  key is bound.
* A parameter can be read exactly if it is a key and a value with an equals sign between them and
  blanks around either; the value is a text in quotes or a word. What is read are this key and what is
  written in this value. -/
theorem references_decode :
    (∀ w : WrittenReference, (PartialReference.parse w.text).file = w.file ∧
      ∃ table, BindingTable.parse (PartialReference.parse w.text).parameters = .ok table ∧
        ∀ key, table.get? key =
          (w.parameters.find? (·.key = key)).map fun p => .literal p.content) ∧
    ∀ (parameter key : String) (binding : Binding), parseParameter parameter = .ok (key, binding) ↔
      ∃ (keyMargin valueMargin : Margin) (value : List Char),
        parameter.toList = keyMargin.around key.toList ++ '=' :: valueMargin.around value ∧
          IsParameterKey key.toList ∧ binding.IsWritten value := by
  refine ⟨fun w => ?_, fun parameter key binding => parseParameter_eq_ok_iff⟩
  rw [w.parse_text]
  exact ⟨rfl, BindingTable.exists_bindAll w.parameters ∅⟩

/-- A reference with two parameters for one key. The text of the first one has blanks in it, and an
equals sign and the other quote. -/
def twiceBound : WrittenReference where
  file := "a/b"
  fileMargin := ⟨[' '], ['\t'], by decide, by decide⟩
  parameters :=
    [{ key := "who"
       quote := '\''
       content := "it = \"x\" "
       keyMargin := ⟨[' '], [' '], by decide, by decide⟩
       valueMargin := ⟨['\n'], [' '], by decide, by decide⟩
       isKey := ⟨by decide, by decide, by decide⟩
       isQuote := by decide
       quote_not_mem := by decide
       bar_not_mem_key := by decide
       bar_not_mem_content := by decide },
     { key := "who"
       quote := '"'
       content := ""
       keyMargin := ⟨[], [], by decide, by decide⟩
       valueMargin := ⟨[], [], by decide, by decide⟩
       isKey := ⟨by decide, by decide, by decide⟩
       isQuote := by decide
       quote_not_mem := by decide
       bar_not_mem_key := by decide
       bar_not_mem_content := by decide }]
  isTrimmed_file := by decide
  bar_not_mem_file := by decide

theorem decode_twiceBound : twiceBound.text = " a/b\t| who =\n'it = \"x\" ' |who=\"\"" ∧
    (PartialReference.parse twiceBound.text).file = "a/b" ∧
    ∃ table, BindingTable.parse (PartialReference.parse twiceBound.text).parameters = .ok table ∧
      table.get? "who" = some (.literal "it = \"x\" ") ∧ table.get? "it" = none := by
  obtain ⟨hfile, table, htable, hget⟩ := references_decode.1 twiceBound
  refine ⟨by decide, hfile, table, htable, ?_, ?_⟩
  · rw [hget]
    decide
  · rw [hget]
    decide

end Mustache
