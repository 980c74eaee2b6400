import Mustache.Proofs.Parameters
import Mustache.Proofs.Spacing
/-!
# Where tokens come from

Everything that a walk meets has been written down somewhere: in the template, in a text that can be
loaded as a partial, or in a parameter of a tag that includes one. A context brings in no tokens.

* `Renderer.Source r template tokens`: the tokens are those of the template, or of a text that can
  be loaded.
* `BindingTable.mem_apply`: parameters bring in nothing but the texts that keys are bound to, and
  `BindingTable.bindsOnly_bindAll` says that these are made of characters of the parameters.
* `Splice.characters`: what holds of the characters of all loadable texts, and of those of the texts
  that a walk has, holds of the texts that a partial brings in.
-/

namespace Mustache

/-- The tokens are those of the template, or of a text that can be loaded as a partial. -/
inductive Renderer.Source (r : Renderer) (template : String) : List Token → Prop where
  /-- The template. -/
  | ofTemplate : Source r template (tokenize template)
  /-- A text that can be loaded. -/
  | ofFile {file text : String} (h : r.loader file r.options.partialExtension = .ok text) :
    Source r template (tokenize text)

/-- Only the entries of a store can be loaded from it. -/
theorem Store.forall_source {s : Store} {options : Options} {template : String}
    {P : List Token → Prop} (htemplate : P (tokenize template))
    (h : ∀ entry ∈ s.entries, P (tokenize entry.2)) :
    ∀ ts, Renderer.Source ⟨s.loader, options⟩ template ts → P ts := by
  intro ts hts
  cases hts with
  | ofTemplate => exact htemplate
  | @ofFile file text hload =>
    obtain ⟨key, hentry⟩ := exists_entry hload
    exact h (key, text) hentry

/-! ### Parts of a reference -/

/-- A parameter is a part of the reference that it stands in. -/
theorem PartialReference.mem_of_mem_parameters {reference parameter : String} {c : Char}
    (h : parameter ∈ (parse reference).parameters) (hc : c ∈ parameter.toList) :
    c ∈ reference.toList := by
  simp only [parse, List.mem_filter] at h
  obtain ⟨piece, hpiece, rfl⟩ := List.mem_map.mp (List.mem_of_mem_tail h.1)
  rw [String.toList_ofList] at hc
  exact Text.mem_of_mem_splitOn hpiece (Text.mem_of_mem_trimBlanks hc)

/-- A quoted text is a part of the parameter that it is read from. -/
theorem mem_of_parseParameter {parameter key s : String} {c : Char}
    (h : parseParameter parameter = .ok (key, .literal s)) (hc : c ∈ s.toList) :
    c ∈ parameter.toList := by
  obtain ⟨keyMargin, valueMargin, value, hsplit, -, hvalue⟩ := parseParameter_eq_ok_iff.mp h
  have hmem : c ∈ value := by
    cases hvalue with
    | @literal quote content hquote hcontent =>
      rw [String.toList_ofList] at hc
      simp [hc]
  rw [hsplit]
  simp [Margin.around, hmem]

/-! ### Bound texts -/

namespace BindingTable

variable {q : Char → Prop} {t t' : BindingTable} {ts : List Token}

/-- All texts that keys are bound to are made of such characters. -/
def BindsOnly (q : Char → Prop) (t : BindingTable) : Prop :=
  ∀ key s, t.get? key = some (.literal s) → ∀ c ∈ s.toList, q c

theorem bindsOnly_bind (h : t.BindsOnly q) {key : String} {binding : Binding}
    (hbinding : ∀ s, binding = .literal s → ∀ c ∈ s.toList, q c) :
    (t.bind key binding).BindsOnly q := by
  intro key' s hs
  rw [get?_bind, Option.or_eq_some_iff] at hs
  obtain hs | ⟨-, hs⟩ := hs
  · exact h key' s hs
  · have hsettle : t.settle binding = .literal s := by
      split_ifs at hs
      exact Option.some.inj hs
    cases binding with
    | literal s' =>
      obtain rfl : s' = s := by simpa [settle] using hsettle
      exact hbinding s' rfl
    -- A bare word may stand for a text that is bound already.
    | bare word =>
      cases hword : t.get? word with
      | none => simp [settle, hword] at hsettle
      | some bound =>
        obtain rfl : bound = .literal s := by simpa [settle, hword] using hsettle
        exact h word s hword

/-- **Bound texts are made of characters of the parameters.** -/
theorem bindsOnly_bindAll {parameters : List String} (h : t.BindsOnly q)
    (hq : ∀ parameter ∈ parameters, ∀ c ∈ parameter.toList, q c)
    (ht : t.bindAll parameters = .ok t') : t'.BindsOnly q := by
  induction parameters generalizing t with
  | nil =>
    obtain rfl := Except.ok.inj ht
    exact h
  | cons parameter parameters ih =>
    rw [bindAll, Walk.bind_eq_ok_iff] at ht
    obtain ⟨⟨key, binding⟩, hparameter, ht⟩ := ht
    obtain ⟨hq, hqs⟩ := List.forall_mem_cons.mp hq
    refine ih (bindsOnly_bind h ?_) hqs ht
    rintro s rfl c hc
    exact hq c (mem_of_parseParameter hparameter hc)

/-- Parameters bring in nothing but bound texts. -/
theorem mem_apply {token : Token} (h : token ∈ t.apply ts) :
    token ∈ ts ∨ ∃ key s, t.get? key = some (.literal s) ∧ token = .text s := by
  fun_induction apply t ts with
  | case1 name rest s hs ih =>
    obtain rfl | h := List.mem_cons.mp h
    · exact .inr ⟨name, s, literal?_eq_some_iff.mp hs, rfl⟩
    · exact (ih h).imp_left fun h => by simp [h]
  | case2 name rest hs ih =>
    simp only [List.mem_cons] at h ⊢
    grind
  | case3 token rest hne ih =>
    obtain rfl | h := List.mem_cons.mp h
    · exact .inl List.mem_cons_self
    · exact (ih h).imp_left (List.mem_cons_of_mem token)
  | case4 => simp at h

end BindingTable

/-! ### Characters of texts -/

/-- The characters of a text. A marker has none. -/
def Token.characters : Token → List Char
  | text s => s.toList
  | marker _ => []

namespace Renderer

variable {r : Renderer} {file : String} {parameters : List String} {ts : List Token}

/-- A partial has characters of a text that can be loaded, and of its parameters. -/
theorem characters_of_partialTokens {q : Char → Prop} {template : String}
    (hq : ∀ ts, r.Source template ts → ∀ t ∈ ts, ∀ c ∈ t.characters, q c)
    (hparameters : ∀ parameter ∈ parameters, ∀ c ∈ parameter.toList, q c)
    (h : r.partialTokens file parameters = .ok ts) : ∀ t ∈ ts, ∀ c ∈ t.characters, q c := by
  obtain ⟨text, table, hload, htable, rfl⟩ := exists_table_of_partialTokens h
  have hempty : (∅ : BindingTable).BindsOnly q := by
    intro key s hs
    simp [BindingTable.get?, EmptyCollection.emptyCollection, BindingTable.empty] at hs
  have hbinds := BindingTable.bindsOnly_bindAll hempty hparameters htable
  intro t ht c hc
  obtain ht | ⟨key, s, hs, rfl⟩ := BindingTable.mem_apply ht
  · exact hq _ (.ofFile hload) t ht c hc
  · exact hbinds key s hs c hc

end Renderer

/-- **A splice brings in no new characters.** -/
theorem Splice.characters {r : Renderer} {q : Char → Prop} {template : String}
    (hq : ∀ ts, r.Source template ts → ∀ t ∈ ts, ∀ c ∈ t.characters, q c) {a b : List Node}
    (h : Splice r a b) (ha : ∀ t ∈ Node.tokens a, ∀ c ∈ t.characters, q c) :
    ∀ t ∈ Node.tokens b, ∀ c ∈ t.characters, q c := by
  cases h with
  | @mk before m reference d d₂ d₃ tail file ts hm hreference hfile hdepth hts =>
    intro t ht
    simp only [Node.tokens_append, Node.tokens_ofTokens, List.mem_append] at ht
    obtain ht | ht | ht := ht
    · exact ha t (by simp [ht])
    -- A parameter of the partial is a part of the text in its tag.
    · refine Renderer.characters_of_partialTokens hq ?_ hts t ht
      intro parameter hparameter c hc
      exact ha (.text reference) (by simp) c (PartialReference.mem_of_mem_parameters hparameter hc)
    · exact ha t (by simp [ht])

end Mustache
