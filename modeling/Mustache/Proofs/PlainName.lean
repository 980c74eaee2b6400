import Mathlib.Tactic.SplitIfs
import Mustache.Proofs.Selection
import Mustache.Proofs.Spacing
/-!
# Names without an index

A name without an opening bracket is a key as it stands. Looking it up may find nothing, but it never
fails, whatever the frames hold; only a name with an index can fail, and it does so by the value that
it finds.

* `Scopes.exists_resolve`: a name without an opening bracket is looked up without failure.
* `tagNames tokens`: the markers with the names behind them, and `PlainNames tokens` says that no
  variable or section has a name with an opening bracket.
* `Splice.plainNames`: where all loadable texts have plain names, a partial brings in plain names.
-/

namespace Mustache

/-! ### Looking up -/

/-- **Looking up a plain name never fails.** -/
theorem Scopes.exists_resolve (s : Scopes) {name : String} (h : '[' ∉ name.toList) :
    ∃ lookup, s.resolve name = .ok lookup := by
  unfold resolve
  split_ifs
  · exact ⟨_, rfl⟩
  · exact ⟨_, rfl⟩
  · exact ⟨_, rfl⟩
  · rw [Selection.parse_of_reads (.key h), ok_bind, lookup]
    cases s.top.get? name with
    | none => exact ⟨_, rfl⟩
    | some v => exact ⟨_, rfl⟩

/-! ### Names of tags -/

/-- The markers that a text comes behind, with their texts. -/
def tagNames : List Token → List (Marker × String)
  | .marker m :: .text name :: ts => (m, name) :: tagNames ts
  | _ :: ts => tagNames ts
  | [] => []

/-- No variable or section has a name with an opening bracket. -/
def PlainNames (ts : List Token) : Prop :=
  ∀ p ∈ tagNames ts, p.1.opensVariable ∨ p.1.opensSection → '[' ∉ p.2.toList

instance (ts : List Token) : Decidable (PlainNames ts) :=
  inferInstanceAs (Decidable (∀ p ∈ tagNames ts, _))

@[simp] theorem tagNames_nil : tagNames [] = [] := rfl

@[simp] theorem tagNames_text (s : String) (ts : List Token) :
    tagNames (.text s :: ts) = tagNames ts := rfl

@[simp] theorem tagNames_marker (m : Marker) (name : String) (ts : List Token) :
    tagNames (.marker m :: .text name :: ts) = (m, name) :: tagNames ts := rfl

variable {ts us : List Token}

theorem tagNames_append (h : Spaced ts) : tagNames (ts ++ us) = tagNames ts ++ tagNames us := by
  induction h with
  | nil => rfl
  | text s _ ih => exact ih
  | marker m s _ ih => exact congrArg ((m, s) :: ·) ih

theorem tagNames_tail {t : Token} (h : Spaced (t :: ts)) : tagNames ts ⊆ tagNames (t :: ts) := by
  cases h with
  | text s h => exact fun p hp => hp
  | marker m s h => exact List.subset_cons_self (m, s) _

/-- Tokens at the end bring in no names. -/
theorem tagNames_right (h : Spaced (ts ++ us)) : tagNames us ⊆ tagNames (ts ++ us) := by
  induction ts with
  | nil => exact fun p hp => hp
  | cons t ts ih => exact List.Subset.trans (ih h.tail) (tagNames_tail h)

/-- Parameters bring in no names. -/
theorem BindingTable.tagNames_apply (t : BindingTable) (h : Spaced ts) :
    tagNames (t.apply ts) ⊆ tagNames ts := by
  fun_induction apply t ts with
  | case1 name rest s hs ih =>
    -- The whole tag becomes a text, and what is behind it keeps its names.
    have hrest := ih h.tail.tail.tail
    exact List.Subset.trans (List.Subset.trans hrest (tagNames_tail h.tail.tail))
      (List.subset_cons_self _ _)
  | case2 name rest hs ih =>
    obtain ⟨s, rest, rfl⟩ := h.tail.tail.exists_text
    have hrest := ih h.tail.tail.tail
    rw [apply_text] at hrest ⊢
    exact List.cons_subset_cons _ (List.cons_subset_cons _ hrest)
  | case3 token rest hne ih =>
    have hrest := ih h.tail
    cases token with
    | text s => exact hrest
    | marker m =>
      obtain ⟨s, rest, rfl⟩ := h.exists_text
      rw [apply_text] at hrest ⊢
      exact List.cons_subset_cons _ hrest
  | case4 => exact fun p hp => hp

/-- **A splice keeps names plain** where all loadable texts have plain names. -/
theorem Splice.plainNames {r : Renderer}
    (hr : ∀ file text, r.loader file r.options.partialExtension = .ok text →
      PlainNames (tokenize text)) {a b : List Node} (h : Splice r a b)
    (hspaced : Spaced (Node.tokens a)) (ha : PlainNames (Node.tokens a)) :
    PlainNames (Node.tokens b) := by
  cases h with
  | @mk before m reference d d₂ d₃ tail file ts hm hreference hfile hdepth hts =>
    have hspaced' := Renderer.spaced_of_partialTokens hts
    obtain ⟨text, table, hload, rfl⟩ := Renderer.exists_of_partialTokens hts
    simp only [Node.tokens_append, Node.tokens_cons, Node.tokens_ofTokens] at ha hspaced ⊢
    -- In front of the tag, in the partial, and behind the tag.
    rw [PlainNames, tagNames_append hspaced.left, tagNames_append hspaced']
    rw [PlainNames, tagNames_append hspaced.left] at ha
    intro p hp
    obtain hp | hp | hp : p ∈ tagNames (Node.tokens before) ∨
        p ∈ tagNames (table.apply (tokenize text)) ∨ p ∈ tagNames (Node.tokens tail) := by
      simpa using hp
    · exact ha p (List.mem_append_left _ hp)
    · exact hr file text hload p (table.tagNames_apply (spaced_tokenize text) hp)
    · have hright : Spaced ([.marker m, .text reference, .marker .close] ++ Node.tokens tail) :=
        hspaced.right
      exact ha p (List.mem_append_right _ (tagNames_right hright hp))

end Mustache
