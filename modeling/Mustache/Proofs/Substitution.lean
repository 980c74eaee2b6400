import Mustache.Proofs.Spacing
/-!
# Parameters put in at once

`BindingTable.apply` goes over the tokens of a partial and puts the bound texts in place of the tags
that name them. This file shows that this is one simultaneous rewrite of the tokens there were. A
*window* is a whole variable tag, three tokens, whose name is bound to a text (`window?`). Every
place of the list is looked at by itself: a text takes the place where a window starts, nothing is
left of the rest of the window, and any other token stays (`written`). No place depends on what
became of another one, so in particular no text that has been put in is looked at.

The same tokens come out of a sweep that changes the list it goes over (`sweep`). It writes the text
over the start of the window, takes the rest of it out of the list, and goes on at the same place,
so that the places of all tokens ahead have moved. `sweepFrom_eq` is its invariant: behind the sweep
stands what is final, and the last token passed can still be the start of a window.

* `apply_eq_rewritten`, `sweep_eq_apply`: one result in three ways.
* `apply_apply`: where every marker has a text behind it, as in the tokens of any template, a second
  pass finds no window.
* `apply_simultaneous`: all of this.
-/

namespace Mustache.BindingTable

/-! ### Windows -/

/-- The text for the tag that the tokens start with, if this is a variable tag whose name is bound
to a text. -/
def window? (t : BindingTable) : List Token → Option String
  | .marker .escaped :: .text name :: .marker .close :: _ => t.literal? name
  | _ => none

variable {t : BindingTable} {ts front : List Token} {token : Token} {s name : String}

theorem window?_text (t : BindingTable) (s : String) (ts : List Token) :
    t.window? (.text s :: ts) = none := rfl

theorem window?_close (t : BindingTable) (ts : List Token) :
    t.window? (.marker .close :: ts) = none := rfl

theorem exists_of_window? (h : t.window? ts = some s) : ∃ name rest,
    ts = .marker .escaped :: .text name :: .marker .close :: rest ∧ t.literal? name = some s := by
  unfold window? at h
  split at h
  · exact ⟨_, _, rfl, h⟩
  · cases h

/-- A window is a whole variable tag whose name is bound to a text, and to nothing else. -/
theorem window?_eq_some_iff : t.window? ts = some s ↔ ∃ name rest,
    ts = .marker .escaped :: .text name :: .marker .close :: rest ∧
      t.get? name = some (.literal s) := by
  constructor
  · intro h
    obtain ⟨name, rest, hts, hs⟩ := exists_of_window? h
    exact ⟨name, rest, hts, literal?_eq_some_iff.mp hs⟩
  · rintro ⟨name, rest, rfl, hs⟩
    exact literal?_eq_some_iff.mpr hs

theorem apply_window (h : t.literal? name = some s) (rest : List Token) :
    t.apply (.marker .escaped :: .text name :: .marker .close :: rest) = .text s :: t.apply rest := by
  rw [apply, h]

/-- A token that starts no window stays. -/
theorem apply_cons (h : t.window? (token :: ts) = none) :
    t.apply (token :: ts) = token :: t.apply ts := by
  by_cases htag : ∃ name rest,
      token = .marker .escaped ∧ ts = .text name :: .marker .close :: rest
  · obtain ⟨name, rest, rfl, rfl⟩ := htag
    -- The tag is passed as a whole, and none of its tokens starts a window.
    have hclose : t.apply (.marker .close :: rest) = .marker .close :: t.apply rest := by
      simp [apply]
    have hname : t.literal? name = none := h
    rw [apply, hname, apply_text, hclose]
  · rw [apply]
    intro name rest htoken hts
    exact htag ⟨name, rest, htoken, hts⟩

/-! ### The simultaneous rewrite -/

/-- Whether place `i` is behind the start of a window, but still in it. -/
def inWindow (t : BindingTable) (tokens : List Token) (i : Nat) : Bool :=
  (List.range i).any fun j => decide (i < j + 3) && (t.window? (tokens.drop j)).isSome

/-- What is written for the token at place `i`. -/
def written (t : BindingTable) (tokens : List Token) (i : Nat) (token : Token) : List Token :=
  match t.window? (tokens.drop i) with
  | some s => [.text s]
  | none => if t.inWindow tokens i then [] else [token]

/-- What is written for all tokens, each looked at by itself. -/
def rewritten (t : BindingTable) (tokens : List Token) : List Token :=
  (tokens.mapIdx (t.written tokens)).flatten

theorem inWindow_eq_true_iff {i : Nat} :
    t.inWindow ts i = true ↔ ∃ j < i, i < j + 3 ∧ (t.window? (ts.drop j)).isSome = true := by
  simp [inWindow]

/-- The windows that start in the list in front end in it. -/
def Closed (t : BindingTable) (front ts : List Token) : Prop :=
  ∀ j < front.length, (t.window? ((front ++ ts).drop j)).isSome = true → j + 3 ≤ front.length

theorem Closed.inWindow (h : t.Closed front ts) (i : Nat) :
    t.inWindow (front ++ ts) (i + front.length) = t.inWindow ts i := by
  rw [Bool.eq_iff_iff, inWindow_eq_true_iff, inWindow_eq_true_iff]
  constructor
  · rintro ⟨j, hj, hreach, hwindow⟩
    -- A window that starts in front does not reach place `i`.
    have hfront : front.length ≤ j := by
      refine Nat.le_of_not_lt fun hlt => ?_
      have hends := h j hlt hwindow
      omega
    obtain ⟨k, rfl⟩ := Nat.exists_eq_add_of_le hfront
    rw [List.drop_length_add_append] at hwindow
    exact ⟨k, by omega, by omega, hwindow⟩
  · rintro ⟨j, hj, hreach, hwindow⟩
    refine ⟨front.length + j, by omega, by omega, ?_⟩
    rwa [List.drop_length_add_append]

/-- What comes behind closed windows is rewritten by itself. -/
theorem Closed.rewritten_append (h : t.Closed front ts) : t.rewritten (front ++ ts) =
    (front.mapIdx (t.written (front ++ ts))).flatten ++ t.rewritten ts := by
  have hbehind : ∀ i, t.written (front ++ ts) (i + front.length) = t.written ts i := by
    intro i
    funext token
    rw [written, written, h.inWindow i, Nat.add_comm, List.drop_length_add_append]
  rw [rewritten, List.mapIdx_append, List.flatten_append, rewritten]
  simp only [hbehind]

theorem rewritten_cons (h : t.window? (token :: ts) = none) :
    t.rewritten (token :: ts) = token :: t.rewritten ts := by
  have hclosed : t.Closed [token] ts := by
    intro j hj hwindow
    obtain rfl : j = 0 := by simpa using hj
    simp [h] at hwindow
  have hhead : t.written (token :: ts) 0 token = [token] := by
    simp [written, h, inWindow]
  rw [← List.singleton_append, hclosed.rewritten_append]
  simp [hhead]

theorem rewritten_window (h : t.literal? name = some s) (rest : List Token) :
    t.rewritten (.marker .escaped :: .text name :: .marker .close :: rest) = .text s :: t.rewritten rest := by
  have hclosed : t.Closed [.marker .escaped, .text name, .marker .close] rest := by
    intro j hj hwindow
    match j, hj with
    | 0, _ => exact Nat.le_refl 3
    | 1, _ => cases hwindow
    | 2, _ => cases hwindow
  have hwindow : t.window? (.marker .escaped :: .text name :: .marker .close :: rest) = some s := h
  have htag : ([.marker .escaped, .text name, .marker .close] : List Token).mapIdx
      (t.written (.marker .escaped :: .text name :: .marker .close :: rest)) = [[.text s], [], []] := by
    simp [written, inWindow, hwindow, window?_text, window?_close, List.range_succ]
  calc t.rewritten (.marker .escaped :: .text name :: .marker .close :: rest)
      = (([.marker .escaped, .text name, .marker .close] : List Token).mapIdx
          (t.written (.marker .escaped :: .text name :: .marker .close :: rest))).flatten ++
            t.rewritten rest := hclosed.rewritten_append
    _ = .text s :: t.rewritten rest := by rw [htag]; rfl

/-- **Putting parameters in is a simultaneous rewrite.** -/
theorem apply_eq_rewritten (t : BindingTable) (ts : List Token) : t.apply ts = t.rewritten ts := by
  fun_induction apply t ts with
  | case1 name rest s hs ih => rw [rewritten_window hs, ih]
  | case2 name rest hs ih =>
    have hwindow : t.window? (.marker .escaped :: .text name :: .marker .close :: rest) = none := hs
    rw [rewritten_cons hwindow, rewritten_cons (t.window?_text _ _), rewritten_cons (t.window?_close _), ih]
  | case3 token rest hne ih =>
    have hwindow : t.window? (token :: rest) = none := by
      rw [window?]
      intro name behind htag
      obtain ⟨htoken, hrest⟩ := List.cons.inj htag
      exact hne name behind htoken hrest
    rw [rewritten_cons hwindow, ih]
  | case4 => rfl

/-! ### The sweep in place -/

/-- The text for the tag whose name stands at place `i`, with the markers looked up on either
side. -/
def around? (t : BindingTable) (tokens : List Token) (i : Nat) : Option String :=
  match tokens[i]? with
  | some (.text name) =>
    if tokens[i - 1]? = some (.marker .escaped) ∧ tokens[i + 1]? = some (.marker .close) then
      t.literal? name
    else none
  | _ => none

/-- The sweep from place `i` on. -/
def sweepFrom (t : BindingTable) (i : Nat) (tokens : List Token) : List Token :=
  if i < tokens.length then
    match t.around? tokens i with
    | some s =>
      -- The token behind the window comes to place `i`.
      let tokens := tokens.set (i - 1) (.text s)
      t.sweepFrom i (tokens.take i ++ tokens.drop (i + 2))
    | none => t.sweepFrom (i + 1) tokens
  else tokens
termination_by tokens.length - i
decreasing_by
  all_goals simp_wf
  all_goals omega

/-- Puts the bound texts in place of the tags, changing the list on the way. The first token has
none in front of it, so the sweep starts at the second one. -/
def sweep (t : BindingTable) (tokens : List Token) : List Token := t.sweepFrom 1 tokens

theorem around?_append (t : BindingTable) (front : List Token) (token : Token) (ts : List Token) :
    t.around? (front ++ token :: ts) (front.length + 1) = t.window? (token :: ts) := by
  have hplace : ∀ k, (front ++ token :: ts)[front.length + k]? = (token :: ts)[k]? := by
    intro k
    rw [List.getElem?_append_right (Nat.le_add_right _ _), Nat.add_sub_cancel_left]
  have hbefore : (front ++ token :: ts)[front.length]? = some token := hplace 0
  rw [around?, hplace 1, Nat.add_sub_cancel, hbefore, Nat.add_assoc, hplace 2]
  match ts with
  | [] => simp [window?]
  | .marker m :: ts => simp [window?]
  | .text name :: ts =>
    by_cases hwhole : token = .marker .escaped ∧ ts.head? = some (.marker .close)
    · obtain ⟨rfl, hclose⟩ := hwhole
      obtain ⟨rest, rfl⟩ := List.head?_eq_some_iff.mp hclose
      rfl
    · have hnone : t.window? (token :: .text name :: ts) = none := by
        rw [Option.eq_none_iff_forall_ne_some]
        intro s hs
        obtain ⟨_, rest, htag, -⟩ := exists_of_window? hs
        simp_all
      rw [hnone]
      refine if_neg ?_
      rintro ⟨htoken, hclose⟩
      exact hwhole ⟨Option.some.inj htoken, List.head?_eq_getElem?.trans hclose⟩

/-- With the text over its start and the rest of it taken out, a window has become the text. -/
theorem collapse_window (front rest : List Token) (name s : String) :
    let tokens := (front ++ .marker .escaped :: .text name :: .marker .close :: rest).set
      (front.length + 1 - 1) (.text s)
    tokens.take (front.length + 1) ++ tokens.drop (front.length + 1 + 2) = front ++ .text s :: rest := by
  have hset : (front ++ .marker .escaped :: .text name :: .marker .close :: rest).set front.length
      (.text s) = front ++ .text s :: .text name :: .marker .close :: rest := by
    rw [List.set_append_right _ _ (Nat.le_refl _), Nat.sub_self, List.set_cons_zero]
  dsimp only
  rw [Nat.add_sub_cancel, hset, List.take_length_add_append, Nat.add_assoc,
    List.drop_length_add_append, List.append_assoc]
  rfl

/-- **Behind the sweep stands what is final**, but for the last token passed, which can be the start
of a window. -/
theorem sweepFrom_eq (t : BindingTable) (front : List Token) (token : Token) (ts : List Token) :
    t.sweepFrom (front.length + 1) (front ++ token :: ts) = front ++ t.apply (token :: ts) := by
  by_cases hrest : ts = []
  · subst hrest
    rw [sweepFrom, if_neg (by simp)]
    simp [apply]
  have hlength : front.length + 1 < (front ++ token :: ts).length := by
    simpa using List.length_pos_iff.mpr hrest
  rw [sweepFrom, if_pos hlength, around?_append]
  cases hwindow : t.window? (token :: ts) with
  | none =>
    -- The token that the sweep has passed is final now, and the next one takes its part.
    obtain ⟨next, rest, rfl⟩ := List.exists_cons_of_ne_nil hrest
    have ih := t.sweepFrom_eq (front ++ [token]) next rest
    rw [apply_cons hwindow]
    simpa using ih
  | some s =>
    obtain ⟨name, rest, htag, hs⟩ := exists_of_window? hwindow
    obtain ⟨rfl, rfl⟩ := List.cons.inj htag
    have ih := t.sweepFrom_eq front (.text s) rest
    rw [apply_text] at ih
    rw [apply_window hs, ← ih]
    exact congrArg (t.sweepFrom (front.length + 1)) (collapse_window front rest name s)
termination_by ts.length

theorem sweep_eq_apply (t : BindingTable) (ts : List Token) : t.sweep ts = t.apply ts := by
  cases ts with
  | nil =>
    rw [sweep, sweepFrom, apply]
    rfl
  | cons token ts => exact t.sweepFrom_eq [] token ts

/-! ### A second pass -/

/-- **A second pass finds no window** where every marker has a text behind it. -/
theorem apply_apply (h : Spaced ts) : t.apply (t.apply ts) = t.apply ts := by
  fun_induction apply t ts with
  | case1 name rest s hs ih => rw [apply_text, ih h.tail.tail.tail]
  | case2 name rest hs ih =>
    have hwindow : t.window? (.marker .escaped :: .text name :: .marker .close :: t.apply rest) = none :=
      hs
    rw [apply_cons hwindow, apply_text, apply_cons (t.window?_close _), ih h.tail.tail.tail]
  | case3 token rest hne ih =>
    have hrest := ih h.tail
    cases token with
    | text s => rw [apply_text, hrest]
    | marker m =>
      -- The text behind the marker stays, so a window would have been there from the start.
      obtain ⟨name, behind, rfl⟩ := h.exists_text
      have hwindow : t.window? (.marker m :: t.apply (.text name :: behind)) = none := by
        rw [apply_text, Option.eq_none_iff_forall_ne_some]
        intro s hs
        obtain ⟨_, rest, htag, -⟩ := exists_of_window? hs
        obtain ⟨hm, htag⟩ := List.cons.inj htag
        refine t.apply_ne_close ?_ rest (List.cons.inj htag).2
        rintro rest' rfl
        exact hne name rest' hm rfl
      rw [apply_cons hwindow, hrest]
  | case4 => rfl

/-- Two markers without a text between them could make a window of a text that was put in. -/
example : (⟨[("k", .literal "k")]⟩ : BindingTable).apply
    [.marker .escaped, .marker .escaped, .text "k", .marker .close, .marker .close] =
      [.marker .escaped, .text "k", .marker .close] := by
  decide

/-- **Parameters are put in at once.**

* Every window of the tokens becomes its text and every other token stays in its place, whatever is
  done elsewhere. Nothing else is read than the tokens there were.
* Changing the list on the way gives the same tokens.
* In the tokens of a template a second pass changes nothing. -/
theorem apply_simultaneous (t : BindingTable) :
    (∀ tokens, t.apply tokens = (tokens.mapIdx (t.written tokens)).flatten) ∧
    (∀ tokens, t.sweep tokens = t.apply tokens) ∧
    ∀ template, t.apply (t.apply (tokenize template)) = t.apply (tokenize template) := by
  refine ⟨t.apply_eq_rewritten, t.sweep_eq_apply, fun template => ?_⟩
  exact apply_apply (spaced_tokenize template)

/-- Two names that are bound to texts, the first to the second name, and one that is bound to a
word. -/
def boundToName : BindingTable := ⟨[("a", .literal "b"), ("b", .literal "c"), ("d", .bare "e")]⟩

/-- A template that asks for all three of them. -/
def askingAll : String := "\x7b\x7ba\x7d\x7d, \x7b\x7bb\x7d\x7d, \x7b\x7bd\x7d\x7d"

/-- The text that is put in first is the name of the next tag, and it stays as it is. -/
theorem apply_boundToName :
    boundToName.apply (tokenize askingAll) =
      [.text "", .text "b", .text ", ", .text "c", .text ", ", .marker .escaped, .text "d",
        .marker .close, .text ""] ∧
    boundToName.sweep (tokenize askingAll) = boundToName.apply (tokenize askingAll) ∧
    boundToName.apply (boundToName.apply (tokenize askingAll)) =
      boundToName.apply (tokenize askingAll) := by
  obtain ⟨hrewrite, hsweep, htwice⟩ := apply_simultaneous boundToName
  exact ⟨(hrewrite _).trans (by decide +kernel), hsweep _, htwice _⟩

end Mustache.BindingTable
