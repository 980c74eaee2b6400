import Mustache.Proofs.Spacing
/-!
# Expanding partials ahead of a walk

A walk puts a partial in place of its tag when it comes there. The same tokens can be put there
beforehand, without a walk: where nothing but the text of a tag says which file it includes, the
file is known, and so are the tokens of the file, down to the depth limit.

* `Renderer.expand r tokens` replaces each whole partial tag among the tokens by the expansion of
  the file that the tag names, with its parameters put in, or by a stopping point (`Item.stop`) with
  the error that a walk would stop with.
* `Renderer.expandNodes` does so with tokens that have come in at some depth already.
* `Splice.expandNodes_eq`: putting in one partial does not change the expansion, wherever the
  partial stands, as long as a text stands behind every marker.

A tag that includes the file that a variable holds is left as it is.
-/

namespace Mustache

/-- A token, or a point at which a walk has to stop. -/
inductive Item where
  /-- A token. -/
  | token (t : Token)
  /-- A stopping point, with the reason. -/
  | stop (e : RenderError)
deriving DecidableEq, Repr

namespace Item

/-- The tokens before the first stopping point. -/
def tokens : List Item → List Token
  | .token t :: items => t :: tokens items
  | _ => []

/-- The reason at the first stopping point. -/
def stop? : List Item → Option RenderError
  | .token _ :: items => stop? items
  | .stop e :: _ => some e
  | [] => none

theorem tokens_append (ts : List Token) (items : List Item) :
    tokens (ts.map .token ++ items) = ts ++ tokens items := by
  induction ts with
  | nil => rfl
  | cons t ts ih => rw [List.map_cons, List.cons_append, tokens, ih, List.cons_append]

theorem stop?_append (ts : List Token) (items : List Item) :
    stop? (ts.map .token ++ items) = stop? items := by
  induction ts with
  | nil => rfl
  | cons t ts ih => rw [List.map_cons, List.cons_append, stop?, ih]

/-- Of items put together, the first stopping point counts. -/
theorem stop?_append_eq_or (a b : List Item) : stop? (a ++ b) = (stop? a).or (stop? b) := by
  induction a with
  | nil => rfl
  | cons item a ih =>
    cases item with
    | token t => exact ih
    | stop e => rfl

/-- The items that come out, or a stopping point. -/
def ofExcept : Except RenderError (List Item) → List Item
  | .ok items => items
  | .error e => [.stop e]

@[simp] theorem ofExcept_ok (items : List Item) : ofExcept (.ok items) = items := rfl

@[simp] theorem ofExcept_error (e : RenderError) : ofExcept (.error e) = [.stop e] := rfl

end Item

/-- Replaces each whole partial tag by what its text includes. -/
def expandTags (inclusion : String → List Item) : List Token → List Item
  | .marker .partialTag :: .text reference :: .marker .close :: rest =>
    inclusion reference ++ expandTags inclusion rest
  | t :: rest => .token t :: expandTags inclusion rest
  | [] => []

theorem expandTags_text (inclusion : String → List Item) (s : String) (rest : List Token) :
    expandTags inclusion (.text s :: rest) = .token (.text s) :: expandTags inclusion rest := by
  simp [expandTags]

/-- The first tokens are those of a whole partial tag. -/
def StartsWithPartial (nodes : List Node) : Prop :=
  ∃ reference d d₂ d₃ tail, nodes =
    ⟨.marker .partialTag, d⟩ :: ⟨.text reference, d₂⟩ :: ⟨.marker .close, d₃⟩ :: tail

theorem not_startsWithPartial_text {s : String} {d : Nat} {rest : List Node} :
    ¬ StartsWithPartial (⟨.text s, d⟩ :: rest) := by
  rintro ⟨_, _, _, _, _, h⟩
  simp at h

theorem not_startsWithPartial_marker {m : Marker} {d : Nat} {rest : List Node}
    (hm : m ≠ .partialTag) : ¬ StartsWithPartial (⟨.marker m, d⟩ :: rest) := by
  rintro ⟨_, _, _, _, _, h⟩
  simp only [List.cons.injEq, Node.mk.injEq, Token.marker.injEq] at h
  exact hm h.1.1

/-- Where tokens stand apart, a whole tag that starts on the left ends there. -/
theorem StartsWithPartial.of_append {node : Node} {a b : List Node}
    (ha : Spaced (Node.tokens (node :: a))) (hb : ∀ d tail, b ≠ ⟨.marker .close, d⟩ :: tail)
    (h : StartsWithPartial (node :: (a ++ b))) : StartsWithPartial (node :: a) := by
  obtain ⟨reference, d, d₂, d₃, tail, htag⟩ := h
  obtain ⟨rfl, hrest⟩ := List.cons.inj htag
  -- A whole tag on both sides would have its text on the left, so that `b` starts with its end.
  match a with
  | [] =>
    obtain ⟨s, ts, hts⟩ := ha.exists_text
    simp at hts
  | [node₁] => exact absurd (List.cons.inj hrest).2 (hb d₃ tail)
  | node₁ :: node₂ :: rest =>
    simp only [List.cons_append, List.cons.injEq] at hrest
    obtain ⟨rfl, rfl, -⟩ := hrest
    exact ⟨reference, d, d₂, d₃, rest, rfl⟩

/-- The depths have no part in whether a whole tag comes first. -/
theorem exists_of_startsWithPartial_ofTokens {d : Nat} {t : Token} {ts : List Token}
    (h : StartsWithPartial (⟨t, d⟩ :: Node.ofTokens d ts)) :
    ∃ reference rest, t = .marker .partialTag ∧ ts = .text reference :: .marker .close :: rest := by
  obtain ⟨reference, d₁, d₂, d₃, tail, htag⟩ := h
  match ts, htag with
  | t₂ :: t₃ :: rest, htag =>
    simp only [Node.ofTokens_cons, List.cons.injEq, Node.mk.injEq] at htag
    obtain ⟨⟨rfl, -⟩, ⟨rfl, -⟩, ⟨rfl, -⟩, -⟩ := htag
    exact ⟨reference, rest, rfl, rfl⟩

namespace Renderer

/-- What the text of a partial tag includes, where so many levels of partials may still come in. -/
def inclusion (r : Renderer) : (levels : Nat) → (reference : String) → List Item
  | 0, reference => Item.ofExcept do
    checkReference reference
    throw (.tooDeep (PartialReference.parse reference).file r.options.maxPartialDepth)
  | levels + 1, reference => Item.ofExcept do
    checkReference reference
    let reference := PartialReference.parse reference
    return expandTags (r.inclusion levels)
      (← r.partialTokens reference.file reference.parameters)

/-- The tokens of a template with the partials put in. -/
def expand (r : Renderer) (ts : List Token) : List Item :=
  expandTags (r.inclusion r.options.maxPartialDepth) ts

/-- Tokens of a walk with the partials put in. -/
def expandNodes (r : Renderer) : List Node → List Item
  | ⟨.marker .partialTag, d⟩ :: ⟨.text reference, _⟩ :: ⟨.marker .close, _⟩ :: rest =>
    r.inclusion (r.options.maxPartialDepth - d) reference ++ expandNodes r rest
  | node :: rest => .token node.token :: expandNodes r rest
  | [] => []

variable {r : Renderer} {d d₂ d₃ : Nat}

/-! ### What one tag includes -/

/-- What a tag includes starts with a text, or it is a stopping point. -/
theorem inclusion_cases (r : Renderer) (levels : Nat) (reference : String) :
    (∃ e, r.inclusion levels reference = [.stop e]) ∨
      ∃ s items, r.inclusion levels reference = .token (.text s) :: items := by
  cases levels with
  | zero =>
    rw [inclusion]
    cases checkReference reference with
    | error e => exact .inl ⟨e, rfl⟩
    | ok u => exact .inl ⟨_, rfl⟩
  | succ levels =>
    rw [inclusion]
    cases checkReference reference with
    | error e => exact .inl ⟨e, rfl⟩
    | ok u =>
      cases hts : r.partialTokens (PartialReference.parse reference).file
        (PartialReference.parse reference).parameters with
      | error e =>
        refine .inl ⟨e, ?_⟩
        simp only [ok_bind, hts]
        rfl
      | ok ts =>
        obtain ⟨s, rest, rfl⟩ := startsWithText_of_partialTokens hts
        refine .inr ⟨s, expandTags (r.inclusion levels) rest, ?_⟩
        simp only [ok_bind, hts]
        exact expandTags_text _ s rest

/-! ### Tokens of a walk -/

theorem expandNodes_tag (reference : String) (rest : List Node) :
    r.expandNodes (⟨.marker .partialTag, d⟩ :: ⟨.text reference, d₂⟩ :: ⟨.marker .close, d₃⟩ ::
      rest) = r.inclusion (r.options.maxPartialDepth - d) reference ++ r.expandNodes rest := rfl

/-- A token that does not start a whole partial tag stays. -/
theorem expandNodes_cons {node : Node} {rest : List Node} (h : ¬ StartsWithPartial (node :: rest)) :
    r.expandNodes (node :: rest) = .token node.token :: r.expandNodes rest := by
  rw [expandNodes]
  rintro d reference d₂ d₃ tail rfl rfl
  exact h ⟨reference, d, d₂, d₃, tail, rfl⟩

theorem expandNodes_ofTokens (r : Renderer) (d : Nat) (ts : List Token) :
    r.expandNodes (Node.ofTokens d ts) =
      expandTags (r.inclusion (r.options.maxPartialDepth - d)) ts := by
  fun_induction expandTags (r.inclusion (r.options.maxPartialDepth - d)) ts with
  | case1 reference rest ih =>
    rw [← ih]
    rfl
  | case2 t rest hne ih =>
    rw [← ih, Node.ofTokens_cons, expandNodes_cons]
    intro hpartial
    obtain ⟨reference, us, rfl, rfl⟩ := exists_of_startsWithPartial_ofTokens hpartial
    exact hne reference us rfl rfl
  | case3 => rfl

/-- Tokens without partial tags stay. -/
theorem expandNodes_append_left {a b : List Node}
    (h : ∀ node ∈ a, node.token ≠ .marker .partialTag) :
    r.expandNodes (a ++ b) = (Node.tokens a).map .token ++ r.expandNodes b := by
  induction a with
  | nil => rfl
  | cons node a ih =>
    obtain ⟨hnode, ha⟩ := List.forall_mem_cons.mp h
    have hpartial : ¬ StartsWithPartial (node :: (a ++ b)) := by
      rintro ⟨_, _, _, _, _, htag⟩
      obtain ⟨rfl, -⟩ := List.cons.inj htag
      exact hnode rfl
    rw [List.cons_append, expandNodes_cons hpartial, ih ha]
    rfl

/-- **Tokens that stand apart are expanded apart.** -/
theorem expandNodes_append {a b : List Node} (ha : Spaced (Node.tokens a))
    (hb : ∀ d tail, b ≠ ⟨.marker .close, d⟩ :: tail) :
    r.expandNodes (a ++ b) = r.expandNodes a ++ r.expandNodes b := by
  fun_induction expandNodes r a with
  | case1 d reference d₂ d₃ rest ih =>
    have hrest : Spaced (Node.tokens rest) := ha.tail.tail.tail
    rw [List.append_assoc, ← ih hrest]
    rfl
  | case2 node rest hne ih =>
    rw [List.cons_append, expandNodes_cons, ih ha.tail, List.cons_append]
    intro hpartial
    obtain ⟨reference, d, d₂, d₃, tail, htag⟩ := hpartial.of_append ha hb
    obtain ⟨rfl, rfl⟩ := List.cons.inj htag
    exact hne d reference d₂ d₃ tail rfl rfl
  | case3 => rfl

/-- A partial that may come in is what its tag includes. -/
theorem inclusion_eq_expandNodes {reference : String} {ts : List Token}
    (hreference : checkReference reference = .ok ()) (hdepth : d + 1 ≤ r.options.maxPartialDepth)
    (hts : r.partialTokens (PartialReference.parse reference).file
      (PartialReference.parse reference).parameters = .ok ts) :
    r.inclusion (r.options.maxPartialDepth - d) reference =
      r.expandNodes (Node.ofTokens (d + 1) ts) := by
  -- One level is used up by the partial itself.
  have hlevels : r.options.maxPartialDepth - d = r.options.maxPartialDepth - (d + 1) + 1 := by omega
  rw [hlevels, inclusion, expandNodes_ofTokens]
  simp only [hreference, ok_bind, hts]
  rfl

/-- A partial that may not come in is a stopping point. -/
theorem inclusion_eq_stop {w : Walk} {reference : String} {e : RenderError}
    (h : (do checkReference reference; w.included r .partialTag d reference) = .error e) :
    r.inclusion (r.options.maxPartialDepth - d) reference = [.stop e] := by
  cases hreference : checkReference reference with
  | error e' =>
    rw [hreference, error_bind] at h
    obtain rfl := Except.error.inj h
    cases r.options.maxPartialDepth - d <;> simp [inclusion, hreference]
  | ok u =>
    simp only [hreference, ok_bind, Walk.included_eq, Walk.partialFile, Walk.partialFileBy,
      checkDepth, reduceCtorEq, if_false] at h
    -- The levels that are left are none exactly where the depth check fails.
    by_cases hdepth : d + 1 ≤ r.options.maxPartialDepth
    · have hlevels : r.options.maxPartialDepth - d =
          r.options.maxPartialDepth - (d + 1) + 1 := by omega
      cases hts : r.partialTokens (PartialReference.parse reference).file
        (PartialReference.parse reference).parameters with
      | error e' =>
        obtain rfl : e' = e := by simpa [hdepth, hts] using h
        simp [hlevels, inclusion, hreference, hts]
      | ok ts => simp [hdepth, hts] at h
    · have hlevels : r.options.maxPartialDepth - d = 0 := by omega
      obtain rfl := by simpa [hdepth] using h
      simp [hlevels, inclusion, hreference]
      rfl

end Renderer

/-- A splice at a tag that names its file, with the partial and what is behind the tag standing
apart: neither starts with a closing marker. -/
inductive ApartSplice (r : Renderer) : List Node → List Node → Prop where
  /-- Some tokens stand in front of the tag, and some behind it. -/
  | mk {before tail : List Node} {reference : String} {d d₂ d₃ : Nat} {ts : List Token}
    (hreference : checkReference reference = .ok ()) (hdepth : d + 1 ≤ r.options.maxPartialDepth)
    (hts : r.partialTokens (PartialReference.parse reference).file
      (PartialReference.parse reference).parameters = .ok ts)
    (hbefore : Spaced (Node.tokens before))
    (hpartial : ∀ d' tail', Node.ofTokens (d + 1) ts ++ tail ≠ ⟨.marker .close, d'⟩ :: tail')
    (htail : ∀ d' tail', tail ≠ ⟨.marker .close, d'⟩ :: tail') :
    ApartSplice r
      (before ++ (⟨.marker .partialTag, d⟩ :: ⟨.text reference, d₂⟩ :: ⟨.marker .close, d₃⟩ :: tail))
      (before ++ (Node.ofTokens (d + 1) ts ++ tail))

theorem Splice.apart {r : Renderer} {a b : List Node} (h : Splice r a b)
    (ha : Spaced (Node.tokens a)) (hv : .marker .partialByVariable ∉ Node.tokens a) :
    ApartSplice r a b := by
  cases h with
  | @mk before m reference d d₂ d₃ tail file ts hm hreference hfile hdepth hts =>
    -- Of the tags that include a partial, only the one that names its file can be meant.
    obtain rfl : m = .partialTag := by
      cases m <;> simp_all [Marker.opensPartial, Node.tokens]
    obtain rfl := hfile rfl
    simp only [Node.tokens_append, Node.tokens_cons] at ha
    obtain ⟨s, rest, htail⟩ := ha.right.tail.tail.exists_text
    refine .mk hreference hdepth hts ha.left ?_ ?_
    · obtain ⟨s', rest', rfl⟩ := Renderer.startsWithText_of_partialTokens hts
      simp
    · rintro d' tail' rfl
      simp at htail

/-- **A splice leaves the expansion as it is.** -/
theorem Splice.expandNodes_eq {r : Renderer} {a b : List Node} (h : Splice r a b)
    (ha : Spaced (Node.tokens a)) (hv : .marker .partialByVariable ∉ Node.tokens a) :
    r.expandNodes b = r.expandNodes a := by
  cases h.apart ha hv with
  | @mk before tail reference d d₂ d₃ ts hreference hdepth hts hbefore hpartial htail =>
    -- The expansion can be taken apart at both ends of the partial.
    have hspaced := Renderer.spaced_of_partialTokens hts
    calc r.expandNodes (before ++ (Node.ofTokens (d + 1) ts ++ tail))
        = r.expandNodes before ++ r.expandNodes (Node.ofTokens (d + 1) ts ++ tail) :=
          Renderer.expandNodes_append hbefore hpartial
      _ = r.expandNodes before ++
            (r.inclusion (r.options.maxPartialDepth - d) reference ++ r.expandNodes tail) := by
          rw [Renderer.expandNodes_append (by simpa using hspaced) htail,
            Renderer.inclusion_eq_expandNodes hreference hdepth hts]
      _ = r.expandNodes (before ++ (⟨.marker .partialTag, d⟩ :: ⟨.text reference, d₂⟩ ::
            ⟨.marker .close, d₃⟩ :: tail)) := by
          rw [← Renderer.expandNodes_tag, Renderer.expandNodes_append hbefore (by simp)]

end Mustache
