import Mustache.Proofs.Cutting
/-!
# Cutting two texts that stand together

Where two texts stand next to each other, cutting finds in both what it finds in each. Three things
could make a difference, and each has a condition against it.

* Two braces could come together, one from either side, and make a marker.
* Behind a marker that opens a tag, the second text could make the marker longer, or three braces
  could open a tag that the second text closes. So the last marker of the first text closes a tag.
* The blanks at the end of the first text could be lost to a marker of the second. So the first marker
  of the second text closes no tag.

Under these conditions the last text of the first template and the first one of the second become one
text, and all other tokens stay (`exists_tokens_append`).
-/

namespace Mustache

/-- The markers among the tokens. -/
def Token.markers (tokens : List Token) : List Marker :=
  tokens.filterMap fun token =>
    match token with
    | .marker m => some m
    | .text _ => none

namespace Spans

/-- Joins the last text of the first template to the first text of the second. -/
def joinFrom (text : List Char) (rest : List (Marker × List Char)) (t : Spans) : Spans :=
  match rest with
  | [] => ⟨text ++ t.head, t.tail⟩
  | (m, next) :: rest => ⟨text, (m, (joinFrom next rest t).head) :: (joinFrom next rest t).tail⟩

/-- The two templates together, as they are cut apart. -/
def join (s t : Spans) : Spans := joinFrom s.head s.tail t

theorem cons_join (c : Char) (s t : Spans) : (s.cons c).join t = (s.join t).cons c := by
  obtain ⟨text, rest⟩ := s
  cases rest <;> rfl

theorem mark_join (m : Marker) (s t : Spans) : (s.mark m).join t = (s.join t).mark m := rfl

end Spans

/-! ### Markers of two texts -/

namespace Marker

variable {m : Marker} {unescaped : Bool}

theorem getLast?_symbol (hm : m.isClose) : m.symbol.toList.getLast? = some '}' := by
  cases m with
  | close | closeUnescaped => rfl
  | _ => simp [isClose] at hm

/-- A marker that closes a tag is as long as it was, unless another brace comes behind it. -/
theorem fits_of_isClose {ds : List Char} (hm : m.isClose) (h : m.Fits unescaped [])
    (hmeet : KeepsApart m.symbol.toList ds) : m.Fits unescaped ds := by
  have hbrace : ¬ MakesDouble '}' ds := hmeet '}' (getLast?_symbol hm)
  cases m with
  | close => exact fun _ hhead => hbrace ⟨.inr rfl, hhead⟩
  | closeUnescaped => exact h
  | _ => simp [isClose] at hm

/-- A marker fits in front of two texts if it fits in front of the first. If that is empty, the second
one can make a marker longer that opens a tag. -/
theorem Fits.append {cs ds : List Char} (h : m.Fits unescaped cs) (hclose : cs = [] → m.isClose)
    (hmeet : KeepsApart (m.symbol.toList ++ cs) ds) : m.Fits unescaped (cs ++ ds) := by
  cases cs with
  | nil =>
    rw [List.append_nil] at hmeet
    exact fits_of_isClose (hclose rfl) h hmeet
  | cons c cs => exact h.of_head? rfl

end Marker

namespace Spans

/-- **Cutting two texts that stand together.** If there is no marker in the first one, then three
braces must not have opened a tag before it. -/
theorem ofChars_append {unescaped : Bool} {cs ds : List Char}
    (hnone : (ofChars unescaped cs).markers = [] → unescaped = false)
    (hlast : ∀ m ∈ (ofChars unescaped cs).markers.getLast?, m.isClose)
    (hmeet : KeepsApart cs ds) :
    ofChars unescaped (cs ++ ds) = (ofChars unescaped cs).join (ofChars false ds) := by
  induction unescaped, cs using cut_induction with
  | nil unescaped =>
    obtain rfl : unescaped = false := by
      rw [ofChars_nil] at hnone
      exact hnone rfl
    rw [ofChars_nil]
    rfl
  | cons unescaped c cs hc ih =>
    rw [ofChars_cons hc, markers_cons] at hnone hlast
    have hrest : KeepsApart cs ds := .of_append [c] hmeet
    rw [List.cons_append, ofChars_cons (not_makesDouble_append hc hmeet), ofChars_cons hc, cons_join,
      ih hnone hlast hrest]
  | marker unescaped m cs hm ih =>
    rw [ofChars_marker hm, markers_mark] at hlast
    -- With no marker behind it, the marker is the last one, and what it opens stays closed.
    have hclose (hempty : (ofChars (m == .unescaped) cs).markers = []) : m.isClose := by
      refine hlast m ?_
      rw [hempty]
      rfl
    have hfits : m.Fits unescaped (cs ++ ds) := by
      refine hm.append (fun hempty => hclose ?_) hmeet
      rw [hempty, ofChars_nil]
      rfl
    have hnone' : (ofChars (m == .unescaped) cs).markers = [] → (m == .unescaped) = false := by
      intro hempty
      have hisClose := hclose hempty
      cases m <;> simp_all [Marker.isClose]
    have hlast' : ∀ last ∈ (ofChars (m == .unescaped) cs).markers.getLast?, last.isClose := by
      intro last hmem
      refine hlast last ?_
      rw [List.getLast?_cons, hmem]
      rfl
    rw [List.append_assoc, ofChars_marker hfits, ofChars_marker hm, mark_join,
      ih hnone' hlast' (hmeet.of_append _)]

/-! ### Tokens of two texts -/

/-- The markers of a template are the markers among its tokens. -/
theorem markers_tokens (s : Spans) : Token.markers s.tokens = s.markers := by
  obtain ⟨text, rest⟩ := s
  show Token.markers (tokensFrom text rest) = _
  induction rest generalizing text with
  | nil => rfl
  | cons p rest ih => exact congrArg (p.1 :: ·) (ih p.2)

/-- In front of anything but a closing marker, the first text is a token as it stands. -/
theorem exists_tokens {s : Spans} (h : ∀ m ∈ s.markers.head?, ¬ m.isClose) :
    ∃ behind, ∀ text : List Char,
      tokens ⟨text ++ s.head, s.tail⟩ = .text (String.ofList (text ++ s.head)) :: behind := by
  obtain ⟨head, tail⟩ := s
  cases tail with
  | nil => exact ⟨[], fun _ => rfl⟩
  | cons p tail =>
    have hopen : ¬ p.1.isClose := h p.1 rfl
    exact ⟨.marker p.1 :: tokensFrom p.2 tail, fun text => by simp [tokens, tokensFrom, hopen]⟩

theorem exists_tokens_join {s t : Spans} (h : ∀ m ∈ t.markers.head?, ¬ m.isClose) :
    ∃ front behind text text', s.tokens = front ++ [.text text] ∧
      t.tokens = .text text' :: behind ∧
      (s.join t).tokens = front ++ .text (text ++ text') :: behind := by
  obtain ⟨behind, hbehind⟩ := exists_tokens h
  obtain ⟨head, rest⟩ := s
  induction rest generalizing head with
  | nil =>
    refine ⟨[], behind, String.ofList head, String.ofList t.head, rfl, hbehind [], ?_⟩
    rw [← String.ofList_append]
    exact hbehind head
  | cons p rest ih =>
    obtain ⟨front, behind', text, text', hs, ht, hjoin⟩ := ih p.2
    refine ⟨.text (String.ofList (if p.1.isClose then Text.trimBlanks head else head)) ::
      .marker p.1 :: front, behind', text, text', ?_, ht, ?_⟩
    · exact congrArg (_ :: _ :: ·) hs
    · exact congrArg (_ :: _ :: ·) hjoin

end Spans

/-- **The tokens of two texts that stand together.** -/
theorem exists_tokens_append {template₁ template₂ : String}
    (hlast : ∀ m ∈ (Token.markers (tokenize template₁)).getLast?, m.isClose)
    (hfirst : ∀ m ∈ (Token.markers (tokenize template₂)).head?, ¬ m.isClose)
    (hmeet : KeepsApart template₁.toList template₂.toList) :
    ∃ front behind text text', tokenize template₁ = front ++ [.text text] ∧
      tokenize template₂ = .text text' :: behind ∧
      tokenize (template₁ ++ template₂) = front ++ .text (text ++ text') :: behind := by
  rw [tokenize, Spans.markers_tokens] at hlast hfirst
  have happend := Spans.ofChars_append (fun _ => rfl) hlast hmeet
  rw [tokenize, tokenize, tokenize, String.toList_append, happend]
  exact Spans.exists_tokens_join hfirst

end Mustache
