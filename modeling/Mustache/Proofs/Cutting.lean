import Mustache.Token.Lexer
/-!
# Cutting loses nothing but blanks

Cutting a template finds its markers. The markers and the texts between them, written one after the
other, are the template again; the only thing that tokens lack of it is the blanks around the name
in a tag.

* `MakesDouble c cs`: in front of the text, the character makes two equal braces. A character that
  does not is a part of the text in which it stands (`Spans.ofChars_cons`).
* `Marker.Fits unescaped m cs`: in front of the text, the marker is read as this marker and as no
  other one (`Spans.ofChars_marker`).
* `Spans.cut_induction`: a template is empty, or it starts with such a character or with such a
  marker. What holds of cut templates is proved in these three cases.
* `tokenize_covers`: the texts and markers of a template cover it, and its tokens are these texts
  and markers in turn.
-/

namespace Mustache

/-! ### Braces -/

/-- In front of the text, the character makes two equal braces. -/
def MakesDouble (c : Char) (cs : List Char) : Prop :=
  (c = '{' ∨ c = '}') ∧ cs.head? = some c

/-- The text has no two opening braces next to each other, and no two closing ones. -/
def NoDoubleBrace (cs : List Char) : Prop :=
  ¬ ['{', '{'] <:+: cs ∧ ¬ ['}', '}'] <:+: cs

instance (c : Char) (cs : List Char) : Decidable (MakesDouble c cs) :=
  inferInstanceAs (Decidable (_ ∧ _))

instance (cs : List Char) : Decidable (NoDoubleBrace cs) :=
  inferInstanceAs (Decidable (_ ∧ _))

theorem noDoubleBrace_nil : NoDoubleBrace [] := by decide

theorem noDoubleBrace_cons_iff {c : Char} {cs : List Char} :
    NoDoubleBrace (c :: cs) ↔ ¬ MakesDouble c cs ∧ NoDoubleBrace cs := by
  have hpair (b : Char) : [b, b] <+: c :: cs ↔ b = c ∧ cs.head? = some b := by
    cases cs <;> simp [List.cons_prefix_cons, eq_comm]
  simp only [NoDoubleBrace, MakesDouble, List.infix_cons_iff, hpair]
  grind

/-- What a text makes with the start of another it makes with the other. -/
theorem MakesDouble.mono {c : Char} {cs ds : List Char} (h : MakesDouble c cs)
    (hstart : cs <+: ds) : MakesDouble c ds := by
  obtain ⟨rest, rfl⟩ := hstart
  refine ⟨h.1, ?_⟩
  rw [List.head?_append, h.2]
  rfl

/-- Where the texts meet, no two equal braces come together. -/
def KeepsApart (cs ds : List Char) : Prop := ∀ c ∈ cs.getLast?, ¬ MakesDouble c ds

instance (cs ds : List Char) : Decidable (KeepsApart cs ds) :=
  Option.decidableForallMem cs.getLast?

/-- Only the end of the first text counts. -/
theorem KeepsApart.of_append (bs : List Char) {cs ds : List Char} (h : KeepsApart (bs ++ cs) ds) :
    KeepsApart cs ds := by
  intro c hc
  refine h c ?_
  rw [List.getLast?_append, hc]
  rfl

/-- A character makes with two texts what it makes with the first, or with the second if the first
is empty. -/
theorem not_makesDouble_append {c : Char} {cs ds : List Char} (h : ¬ MakesDouble c cs)
    (hmeet : KeepsApart (c :: cs) ds) : ¬ MakesDouble c (cs ++ ds) := by
  cases cs with
  | nil => exact hmeet c rfl
  | cons d cs => exact h

namespace Marker

/-- The characters that select a marker behind two opening braces. -/
def selectors : List Char := "#=^0/><!\x7b".toList

theorem ofSelector?_eq_none_iff {c : Char} : ofSelector? c = none ↔ c ∉ selectors := by
  unfold ofSelector? selectors
  split <;> simp_all

/-- In front of the text, the marker is read as this marker. `unescaped` says whether the marker
before it is the one of three opening braces. -/
def Fits (unescaped : Bool) (m : Marker) (cs : List Char) : Prop :=
  match m with
  | escaped => ∀ c ∈ cs.head?, c ∉ selectors
  | close => unescaped = true → cs.head? ≠ some '}'
  | closeUnescaped => unescaped = true
  | _ => True

/-- Only the character behind a marker counts. -/
theorem Fits.of_head? {unescaped : Bool} {m : Marker} {cs ds : List Char} (h : m.Fits unescaped cs)
    (hhead : ds.head? = cs.head?) : m.Fits unescaped ds := by
  cases m <;> simp_all [Fits]

/-- A selected marker is written with the character that selects it, and fits in front of any
text. -/
theorem of_ofSelector? {c : Char} {m : Marker} (h : ofSelector? c = some m) :
    m.symbol.toList = ['{', '{', c] ∧ ∀ unescaped cs, m.Fits unescaped cs := by
  unfold ofSelector? at h
  split at h
  all_goals
    first
    | obtain rfl := Option.some.inj h
      exact ⟨rfl, fun _ _ => trivial⟩
    | simp at h

end Marker

/-! ### How a template is cut from its start -/

namespace Spans

theorem ofChars_nil (unescaped : Bool) : ofChars unescaped [] = ⟨[], []⟩ := by
  rw [ofChars]

/-- A character that makes no double brace is a part of the text. -/
theorem ofChars_cons {c : Char} {cs : List Char} (h : ¬ MakesDouble c cs) (unescaped : Bool) :
    ofChars unescaped (c :: cs) = (ofChars unescaped cs).cons c := by
  -- The other clauses of the definition each start with two equal braces.
  rw [ofChars]
  all_goals
    intros
    subst_vars
    exact h ⟨by simp, rfl⟩

/-- A marker that fits is found. -/
theorem ofChars_marker {unescaped : Bool} {m : Marker} {cs : List Char}
    (h : m.Fits unescaped cs) :
    ofChars unescaped (m.symbol.toList ++ cs) = (ofChars (m == .unescaped) cs).mark m := by
  cases m with
  | escaped =>
    -- No marker is longer, since the character behind it selects none.
    show ofChars unescaped ('{' :: '{' :: cs) = (ofChars false cs).mark .escaped
    cases cs with
    | nil => simp [ofChars]
    | cons c cs =>
      have hnone : Marker.ofSelector? c = none := Marker.ofSelector?_eq_none_iff.mpr (h c rfl)
      simp [ofChars, hnone]
  | close =>
    show ofChars unescaped ('}' :: '}' :: cs) = (ofChars false cs).mark .close
    by_cases hbrace : cs.head? = some '}'
    -- A third brace belongs to the text behind the marker.
    · obtain ⟨rest, rfl⟩ := List.head?_eq_some_iff.mp hbrace
      have hfalse : unescaped = false := by
        cases unescaped with
        | false => rfl
        | true => exact absurd hbrace (h rfl)
      simp [ofChars, hfalse]
    · rw [ofChars]
      rintro rest rfl
      exact hbrace rfl
  | closeUnescaped =>
    obtain rfl : unescaped = true := h
    show ofChars true ('}' :: '}' :: '}' :: cs) = (ofChars false cs).mark .closeUnescaped
    simp [ofChars]
  | unescaped | comment | sectionOpen | sectionClose | shownIf | shownUnless | shownIfFound
  | partialTag | partialByVariable => simp [Marker.symbol, ofChars, Marker.ofSelector?]

/-- **What a template can start with.** A property of cut templates holds if it holds of the empty
one, and if characters that make no double brace and markers that fit keep it. -/
theorem cut_induction {motive : Bool → List Char → Prop}
    (nil : ∀ unescaped, motive unescaped [])
    (cons : ∀ unescaped c cs, ¬ MakesDouble c cs → motive unescaped cs →
      motive unescaped (c :: cs))
    (marker : ∀ unescaped (m : Marker) cs, m.Fits unescaped cs → motive (m == .unescaped) cs →
      motive unescaped (m.symbol.toList ++ cs)) :
    ∀ unescaped cs, motive unescaped cs := by
  intro unescaped cs
  induction unescaped, cs using ofChars.induct with
  | case1 unescaped c rest m hm ih =>
    obtain ⟨hsymbol, hfits⟩ := Marker.of_ofSelector? hm
    have hmarker := marker unescaped m rest (hfits unescaped rest) ih
    rwa [hsymbol] at hmarker
  | case2 unescaped c rest hm ih =>
    refine marker unescaped .escaped (c :: rest) ?_ ih
    rintro _ ⟨⟩
    exact Marker.ofSelector?_eq_none_iff.mp hm
  | case3 unescaped => exact marker unescaped .escaped [] (by simp [Marker.Fits]) (nil _)
  | case4 rest ih => exact marker true .closeUnescaped rest rfl ih
  | case5 unescaped rest hu ih =>
    exact marker unescaped .close ('}' :: rest) (fun h => absurd h hu) ih
  | case6 unescaped rest hrest ih =>
    refine marker unescaped .close rest (fun _ hbrace => ?_) ih
    obtain ⟨rest', rfl⟩ := List.head?_eq_some_iff.mp hbrace
    exact hrest rest' rfl
  | case7 unescaped c rest hopen hopen' hclose hclose' ih =>
    refine cons unescaped c rest ?_ ih
    rintro ⟨rfl | rfl, hbrace⟩
    · obtain ⟨rest', rfl⟩ := List.head?_eq_some_iff.mp hbrace
      cases rest' with
      | nil => exact hopen' rfl rfl
      | cons d rest' => exact hopen d rest' rfl rfl
    · obtain ⟨rest', rfl⟩ := List.head?_eq_some_iff.mp hbrace
      exact hclose' rest' rfl rfl
  | case8 unescaped => exact nil unescaped

/-! ### Texts and markers -/

/-- The texts, from the one before the first marker on. -/
def texts (s : Spans) : List (List Char) := s.head :: s.tail.map Prod.snd

/-- The markers. -/
def markers (s : Spans) : List Marker := s.tail.map Prod.fst

/-- The texts and the markers between them, as they are written. -/
def pieces (s : Spans) : List String :=
  String.ofList s.head :: s.tail.flatMap fun (m, text) => [m.symbol, String.ofList text]

@[simp] theorem markers_cons (c : Char) (s : Spans) : (s.cons c).markers = s.markers := rfl

@[simp] theorem markers_mark (m : Marker) (s : Spans) : (s.mark m).markers = m :: s.markers := rfl

@[simp] theorem texts_mark (m : Marker) (s : Spans) : (s.mark m).texts = [] :: s.texts := rfl

theorem length_texts (s : Spans) : s.texts.length = s.markers.length + 1 := by
  simp [texts, markers]

theorem head_prefix_pieces (s : Spans) : s.head <+: s.pieces.flatMap String.toList := by
  simp [pieces]

variable {unescaped : Bool} {cs : List Char}

/-- **Written one after the other, texts and markers are the template.** -/
theorem pieces_ofChars (unescaped : Bool) (cs : List Char) :
    (ofChars unescaped cs).pieces.flatMap String.toList = cs := by
  induction unescaped, cs using cut_induction with
  | nil unescaped => simp [ofChars_nil, pieces]
  | cons unescaped c cs h ih =>
    rw [ofChars_cons h]
    simpa [pieces, cons] using ih
  | marker unescaped m cs h ih =>
    rw [ofChars_marker h]
    simpa [pieces, mark] using ih

/-- **No text holds a double brace.** -/
theorem noDoubleBrace_of_mem_texts {text : List Char} (h : text ∈ (ofChars unescaped cs).texts) :
    NoDoubleBrace text := by
  induction unescaped, cs using cut_induction generalizing text with
  | nil unescaped =>
    obtain rfl : text = [] := by simpa [ofChars_nil, texts] using h
    exact noDoubleBrace_nil
  | cons unescaped c cs hc ih =>
    rw [ofChars_cons hc] at h
    obtain rfl | h := List.mem_cons.mp h
    -- What the character would make with the text it makes with all that is behind it.
    · have hstart : (ofChars unescaped cs).head <+: cs := by
        simpa only [pieces_ofChars] using (ofChars unescaped cs).head_prefix_pieces
      have hhead : (ofChars unescaped cs).head ∈ (ofChars unescaped cs).texts := List.mem_cons_self
      exact noDoubleBrace_cons_iff.mpr
        ⟨fun hdouble => hc (hdouble.mono hstart), ih hhead⟩
    · exact ih (List.mem_cons_of_mem _ h)
  | marker unescaped m cs hm ih =>
    rw [ofChars_marker hm, texts_mark] at h
    obtain rfl | h := List.mem_cons.mp h
    · exact noDoubleBrace_nil
    · exact ih h

/-- Three braces close only what three braces have opened. -/
theorem getLast?_of_closeUnescaped {before behind : List Marker}
    (h : (ofChars unescaped cs).markers = before ++ .closeUnescaped :: behind) :
    before.getLast? = some .unescaped ∨ before = [] ∧ unescaped = true := by
  induction unescaped, cs using cut_induction generalizing before with
  | nil unescaped => simp [ofChars_nil, markers] at h
  | cons unescaped c cs hc ih =>
    rw [ofChars_cons hc] at h
    exact ih h
  | marker unescaped m cs hm ih =>
    rw [ofChars_marker hm, markers_mark] at h
    cases before with
    | nil =>
      obtain ⟨rfl, -⟩ := List.cons.inj h
      exact .inr ⟨rfl, hm⟩
    | cons m' before =>
      obtain ⟨rfl, hbefore⟩ := List.cons.inj h
      refine .inl ?_
      obtain hlast | ⟨rfl, hm⟩ := ih hbefore
      · rw [List.getLast?_cons, hlast]
        rfl
      · simpa using hm

/-! ### Tokens -/

/-- A text and a marker in front of what is cut already. -/
theorem tokens_append_mark (text : List Char) (m : Marker) (s : Spans) :
    tokens ⟨text ++ (s.mark m).head, (s.mark m).tail⟩ =
      .text (String.ofList (if m.isClose then Text.trimBlanks text else text)) :: .marker m ::
        s.tokens := by
  simp only [mark, List.append_nil]
  rfl

/-- At the even places of the tokens are the texts. A text loses its blanks if the marker behind it
closes a tag. -/
theorem tokens_text (s : Spans) (i : Nat) :
    s.tokens[2 * i]? = s.texts[i]?.map fun text => .text (String.ofList
      (if s.markers[i]?.any Marker.isClose then Text.trimBlanks text else text)) := by
  obtain ⟨text, rest⟩ := s
  -- A marker and the text in front of it are two tokens.
  show (tokensFrom text rest)[2 * i]? = _
  induction rest generalizing text i with
  | nil => cases i <;> simp [tokensFrom, texts, markers]
  | cons p rest ih =>
    obtain ⟨m, next⟩ := p
    cases i with
    | zero => simp [tokensFrom, texts, markers]
    | succ i => simpa [tokensFrom, texts, markers, Nat.mul_succ] using ih i next

/-- At the odd places of the tokens are the markers. -/
theorem tokens_marker (s : Spans) (i : Nat) :
    s.tokens[2 * i + 1]? = s.markers[i]?.map .marker := by
  obtain ⟨text, rest⟩ := s
  show (tokensFrom text rest)[2 * i + 1]? = _
  induction rest generalizing text i with
  | nil => cases i <;> simp [tokensFrom, markers]
  | cons p rest ih =>
    obtain ⟨m, next⟩ := p
    cases i with
    | zero => simp [tokensFrom, markers]
    | succ i => simpa [tokensFrom, markers, Nat.mul_succ] using ih i next

theorem length_tokens (s : Spans) : s.tokens.length = 2 * s.markers.length + 1 := by
  obtain ⟨text, rest⟩ := s
  show (tokensFrom text rest).length = _
  induction rest generalizing text with
  | nil => rfl
  | cons p rest ih =>
    obtain ⟨m, next⟩ := p
    have hnext := ih next
    simp only [tokensFrom, markers, List.map_cons, List.length_cons] at hnext ⊢
    omega

theorem head?_tokens (s : Spans) : ∃ text, s.tokens.head? = some (.text text) := by
  rw [List.head?_eq_getElem?]
  exact ⟨_, s.tokens_text 0⟩

theorem getLast?_tokens (s : Spans) : ∃ text, s.tokens.getLast? = some (.text text) := by
  have hlast : s.markers.length < s.texts.length := by
    rw [length_texts]
    exact Nat.lt_succ_self _
  rw [List.getLast?_eq_getElem?, length_tokens, Nat.add_sub_cancel, tokens_text,
    List.getElem?_eq_getElem hlast]
  exact ⟨_, rfl⟩

end Spans

/-- The bytes of texts that are written one after the other. -/
theorem toByteArray_join (pieces : List String) :
    (String.join pieces).toByteArray.data.toList =
      pieces.flatMap fun piece => piece.toByteArray.data.toList := by
  induction pieces with
  | nil => rfl
  | cons piece pieces ih => simp [String.join_cons, ih]

/-- **Cutting covers the template.** The template is cut into texts with markers between them, which
written one after the other are the template, byte for byte. No text holds a double brace, and three
braces close a tag only if three braces have opened it. The tokens are the texts and the markers in
turn, with a text at either end, where a text in front of a closing marker loses its blanks and
every other text is as it was. What is left of a text that loses its blanks is the part of it
between blanks that has no blank at either end (`Text.trimBlanks_eq_iff`). -/
theorem tokenize_covers (template : String) : ∃ s : Spans,
    String.join s.pieces = template ∧
    (template.toByteArray.data.toList =
      s.pieces.flatMap fun piece => piece.toByteArray.data.toList) ∧
    (∀ text ∈ s.texts, NoDoubleBrace text) ∧
    (∀ before behind, s.markers = before ++ .closeUnescaped :: behind →
      before.getLast? = some .unescaped) ∧
    s.texts.length = s.markers.length + 1 ∧
    (tokenize template).length = 2 * s.markers.length + 1 ∧
    (∀ i : Nat, (tokenize template)[2 * i]? = s.texts[i]?.map fun text => .text (String.ofList
      (if s.markers[i]?.any Marker.isClose then Text.trimBlanks text else text))) ∧
    (∀ i : Nat, (tokenize template)[2 * i + 1]? = s.markers[i]?.map .marker) ∧
    (∃ text, (tokenize template).head? = some (.text text)) ∧
    ∃ text, (tokenize template).getLast? = some (.text text) := by
  have hjoin : String.join (Spans.ofChars false template.toList).pieces = template := by
    rw [← String.toList_inj, String.toList_join, Spans.pieces_ofChars]
  refine ⟨Spans.ofChars false template.toList, hjoin, ?_,
    fun _ => Spans.noDoubleBrace_of_mem_texts, ?_, Spans.length_texts _, Spans.length_tokens _,
    Spans.tokens_text _, Spans.tokens_marker _, Spans.head?_tokens _, Spans.getLast?_tokens _⟩
  · rw [← toByteArray_join, hjoin]
  · intro before behind h
    -- At the start of a template nothing has been opened.
    exact (Spans.getLast?_of_closeUnescaped h).resolve_right fun h => Bool.false_ne_true h.2

end Mustache
