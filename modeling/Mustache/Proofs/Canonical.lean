import Mustache.Proofs.Cutting
/-!
# Tokens that are read back

Tokens can be written so that cutting reads other tokens: a text may hold braces, or it may end in a
brace that goes with the marker behind it. `Canonical` tokens are those where this cannot happen, and
they are read back as they are (`tokenize_join`).

What may stand next to a marker depends on both sides, since of two markers one is often the start of
the other. A marker must not take its last brace from the text in front of it (`Marker.Spares`), and
what follows must not make it a longer marker (`Marker.Fits`). Three closing braces are a marker only
where three braces have opened the tag, so that `CanonicalFrom` goes along the tokens with what the
last marker was.
-/

namespace Mustache

/-- The tokens as they are written, one after the other. -/
def Token.join (tokens : List Token) : String := String.join (tokens.map symbol)

/-- In front of the marker, the text stays as it is: it does not end in a brace of the marker's kind,
and there are no blanks to lose. -/
def Marker.Spares (m : Marker) (text : List Char) : Prop :=
  if m.isClose then Text.trimBlanks text = text ∧ text.getLast? ≠ some '}'
  else text.getLast? ≠ some '{'

instance (m : Marker) (text : List Char) : Decidable (m.Spares text) :=
  inferInstanceAs (Decidable (ite _ _ _))

instance (unescaped : Bool) (m : Marker) (cs : List Char) : Decidable (m.Fits unescaped cs) :=
  match m with
  | .escaped => Option.decidableForallMem (p := fun c => c ∉ Marker.selectors) cs.head?
  | .close => inferInstanceAs (Decidable (_ = _ → _))
  | .closeUnescaped => inferInstanceAs (Decidable (_ = _))
  | .unescaped | .comment | .sectionOpen | .sectionClose | .shownIf | .shownUnless | .shownIfFound
  | .partialTag | .partialByVariable => isTrue trivial

/-- Text, marker, text, and so on up to a text, where each token can be told from its neighbours.
`unescaped` says whether the last marker before them is the one of three opening braces. -/
def CanonicalFrom (unescaped : Bool) : List Token → Prop
  | [.text s] => NoDoubleBrace s.toList
  | .text s :: .marker m :: tokens =>
    NoDoubleBrace s.toList ∧ m.Spares s.toList ∧ m.Fits unescaped (Token.join tokens).toList ∧
      CanonicalFrom (m == .unescaped) tokens
  | _ => False

/-- Tokens that can be told from each other when they are written. -/
def Canonical (tokens : List Token) : Prop := CanonicalFrom false tokens

instance decidableCanonicalFrom (unescaped : Bool) :
    (tokens : List Token) → Decidable (CanonicalFrom unescaped tokens)
  | [] => isFalse id
  | .marker _ :: _ => isFalse id
  | [.text s] => inferInstanceAs (Decidable (NoDoubleBrace s.toList))
  | .text _ :: .text _ :: _ => isFalse id
  | .text _ :: .marker m :: tokens =>
    have := decidableCanonicalFrom (m == .unescaped) tokens
    inferInstanceAs (Decidable (_ ∧ _ ∧ _ ∧ _))

instance (tokens : List Token) : Decidable (Canonical tokens) :=
  inferInstanceAs (Decidable (CanonicalFrom _ _))

/-- A marker starts with a brace of its kind. -/
theorem Marker.eq_of_makesDouble {m : Marker} {c : Char} {cs : List Char}
    (h : MakesDouble c (m.symbol.toList ++ cs)) : c = if m.isClose then '}' else '{' := by
  have hhead : (m.symbol.toList ++ cs).head? = some (if m.isClose then '}' else '{') := by
    cases m <;> rfl
  exact Option.some.inj (h.2.symm.trans hhead)

/-- A text that the marker spares stays apart from it. -/
theorem Marker.Spares.keepsApart {m : Marker} {text : List Char} (h : m.Spares text)
    (cs : List Char) : KeepsApart text (m.symbol.toList ++ cs) := by
  intro c hc hdouble
  have hbrace := eq_of_makesDouble hdouble
  unfold Spares at h
  split at h
  · rename_i hclose
    rw [if_pos hclose] at hbrace
    exact h.2 (hbrace ▸ hc)
  · rename_i hopen
    rw [if_neg hopen] at hbrace
    exact h (hbrace ▸ hc)

namespace Spans

/-- A text without double braces is found in front of anything that it stays apart from. -/
theorem ofChars_text (unescaped : Bool) {text cs : List Char} (h : NoDoubleBrace text)
    (hmeet : KeepsApart text cs) : ofChars unescaped (text ++ cs) =
      ⟨text ++ (ofChars unescaped cs).head, (ofChars unescaped cs).tail⟩ := by
  induction text with
  | nil => rfl
  | cons c text ih =>
    obtain ⟨hc, htext⟩ := noDoubleBrace_cons_iff.mp h
    have hrest : KeepsApart text cs := .of_append [c] hmeet
    rw [List.cons_append, ofChars_cons (not_makesDouble_append hc hmeet), ih htext hrest]
    rfl

/-- **Canonical tokens are read back**, from whatever place in a template they stand at. -/
theorem tokens_ofChars_join {unescaped : Bool} {tokens : List Token}
    (h : CanonicalFrom unescaped tokens) :
    (ofChars unescaped (Token.join tokens).toList).tokens = tokens := by
  fun_induction CanonicalFrom unescaped tokens with
  | case1 unescaped s =>
    have hempty : KeepsApart s.toList [] := by simp [KeepsApart, MakesDouble]
    have htext := ofChars_text unescaped h hempty
    have hjoin : (Token.join [.text s]).toList = s.toList ++ [] := by
      simp [Token.join, Token.symbol]
    rw [hjoin, htext, ofChars_nil]
    simp [tokens, tokensFrom]
  | case2 unescaped s m rest ih =>
    obtain ⟨htext, hspares, hfits, hrest⟩ := h
    have hjoin : (Token.join (.text s :: .marker m :: rest)).toList =
        s.toList ++ (m.symbol.toList ++ (Token.join rest).toList) := by
      simp [Token.join, Token.symbol]
    rw [hjoin, ofChars_text unescaped htext (hspares.keepsApart _),
      ofChars_marker hfits]
    -- The text in front of the marker has no blanks that cutting would take off.
    have htrim : (if m.isClose then Text.trimBlanks s.toList else s.toList) = s.toList := by
      unfold Marker.Spares at hspares
      split at hspares
      · rw [hspares.1, ite_self]
      · rename_i hopen
        exact if_neg hopen
    rw [tokens_append_mark, htrim, String.ofList_toList, ih hrest]
  | case3 unescaped tokens _ _ => exact h.elim

end Spans

/-- **Canonical tokens are read back as they are written.** -/
theorem tokenize_join {tokens : List Token} (h : Canonical tokens) :
    tokenize (Token.join tokens) = tokens :=
  Spans.tokens_ofChars_join h

/-- Braces in texts on both sides of tags, next to braces of markers. -/
def bracesAround : List Token :=
  [.text "\x7d", .marker .unescaped, .text "\x7bx", .marker .closeUnescaped, .text "\x7d",
    .marker .sectionOpen, .text "", .marker .escaped, .text "n\x7b", .marker .close,
    .text "\x7d\x7b "]

theorem tokenize_bracesAround :
    Canonical bracesAround ∧ tokenize (Token.join bracesAround) = bracesAround :=
  ⟨by decide +kernel, tokenize_join (by decide +kernel)⟩

/-- Written so, four opening braces are three and one, and not two and two. -/
example : ¬ Canonical [.text "", .marker .escaped, .text "", .marker .escaped, .text ""] := by
  decide +kernel

end Mustache
