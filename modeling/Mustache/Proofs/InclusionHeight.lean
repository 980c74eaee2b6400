import Mathlib.Data.ENat.Lattice
import Mathlib.Logic.Relation
import Mathlib.Order.CompletePartialOrder
import Mustache.Proofs.Sentence
/-!
# Chains of inclusions

A partial may include partials in its turn. How far this goes can be read off the texts, without a
walk: the tags of a template name files, the tags of these files name further files, and so on. A tag
counts wherever it stands, be it in a section that is never shown.

* `references tokens`: the texts of the whole tags that name their partial, and `includedFiles tokens`
  the files that they name.
* `Renderer.ChainFrom r tokens files`: each of the files is included by the one before it, and the
  first of them by the tokens.
* `Renderer.height r tokens`: the length of the longest chain, `⊤` if there is none.
* `Renderer.height_eq`: of several tags side by side, the one that leads deepest counts.
* `Renderer.height_eq_top_of_cycle`: where a file that leads back to itself can be reached, chains
  get as long as one likes.

A file that cannot be loaded includes nothing, but the tag that names it counts.
-/

namespace Mustache

/-! ### Tags that name their partial -/

/-- The texts of the whole tags that name their partial. -/
def references : List Token → List String
  | .marker .partialTag :: .text reference :: .marker .close :: rest =>
    reference :: references rest
  | _ :: rest => references rest
  | [] => []

/-- The file that the text of a partial tag names. -/
def fileOf (reference : String) : String := (PartialReference.parse reference).file

/-- The files that some tokens include, be it in a section that is hidden. -/
def includedFiles (ts : List Token) : List String := (references ts).map fileOf

theorem references_text (s : String) (ts : List Token) :
    references (.text s :: ts) = references ts := by
  simp [references]

theorem references_marker {m : Marker} (hm : m ≠ .partialTag) (ts : List Token) :
    references (.marker m :: ts) = references ts := by
  rw [references]
  rintro reference rest h -
  exact hm (Token.marker.inj h)

/-- A partial tag without its end does not count. -/
theorem references_unclosed (s : String) {ts : List Token} (h : ∀ rest, ts ≠ .marker .close :: rest) :
    references (.marker .partialTag :: .text s :: ts) = references ts := by
  rw [references, references_text]
  rintro reference rest - hrest
  exact h rest (List.cons.inj hrest).2

namespace BindingTable

variable (t : BindingTable) {ts : List Token}

/-- **Parameters leave the partial tags as they are.** -/
theorem references_apply (h : Spaced ts) : references (t.apply ts) = references ts := by
  fun_induction apply t ts with
  | case1 name rest s hs ih =>
    rw [references_text, ih h.tail.tail.tail, references_marker (by simp), references_text,
      references_marker (by simp)]
  | case2 name rest hs ih =>
    simp only [references_marker (m := .escaped) (by simp), references_text,
      references_marker (m := .close) (by simp), ih h.tail.tail.tail]
  | case3 token rest hne ih =>
    have hrest := ih h.tail
    cases token with
    | text s => rw [references_text, references_text, hrest]
    | marker m =>
      by_cases hm : m = .partialTag
      · subst hm
        obtain ⟨s, rest, rfl⟩ := h.exists_text
        rw [apply_text, references_text, references_text] at hrest
        rw [apply_text]
        -- The tag is whole on both sides, or on neither.
        by_cases hclose : ∃ rest', rest = .marker .close :: rest'
        · obtain ⟨rest', rfl⟩ := hclose
          rw [t.apply_marker (by simp), references_marker (by simp),
            references_marker (by simp)] at hrest
          rw [t.apply_marker (by simp), references, references, hrest]
        · have hne' := not_exists.mp hclose
          rw [references_unclosed s (t.apply_ne_close hne'), references_unclosed s hne', hrest]
      · rw [references_marker hm, references_marker hm, hrest]
  | case4 => rfl

end BindingTable

/-! ### Chains -/

namespace Renderer

variable {r : Renderer} {ts us : List Token} {file : String} {parameters files : List String}

/-- The tokens of a partial before any parameters are put in. -/
def body (r : Renderer) (file : String) : List Token :=
  match r.loader file r.options.partialExtension with
  | .ok text => tokenize text
  | .error _ => []

/-- One file has a tag that names the other one. -/
def Includes (r : Renderer) (file file' : String) : Prop := file' ∈ includedFiles (r.body file)

/-- A partial includes what its file includes, whatever its parameters are. -/
theorem includedFiles_of_partialTokens (h : r.partialTokens file parameters = .ok ts) :
    includedFiles ts = includedFiles (r.body file) := by
  obtain ⟨text, table, hload, rfl⟩ := exists_of_partialTokens h
  have hbody : r.body file = tokenize text := by
    unfold body
    rw [hload]
  rw [hbody, includedFiles, includedFiles, table.references_apply (spaced_tokenize text)]

/-- The files come in one inside the other, the first of them at a tag among the tokens. -/
def ChainFrom (r : Renderer) (ts : List Token) (files : List String) : Prop :=
  (∀ file ∈ files.head?, file ∈ includedFiles ts) ∧ files.IsChain r.Includes

theorem chainFrom_nil (r : Renderer) (ts : List Token) : r.ChainFrom ts [] :=
  ⟨by simp, .nil⟩

theorem chainFrom_cons_iff : r.ChainFrom ts (file :: files) ↔
    file ∈ includedFiles ts ∧ r.ChainFrom (r.body file) files := by
  simp [ChainFrom, Includes, List.isChain_cons]

/-- How many partials come in one inside the other at most: the length of the longest chain. -/
noncomputable def height (r : Renderer) (ts : List Token) : ℕ∞ :=
  ⨆ files : {files // r.ChainFrom ts files}, (files.val.length : ℕ∞)

theorem length_le_height (h : r.ChainFrom ts files) : (files.length : ℕ∞) ≤ r.height ts :=
  le_iSup (fun files : {files // r.ChainFrom ts files} => (files.val.length : ℕ∞)) ⟨files, h⟩

/-- A tag leads one level deeper than what it includes. -/
theorem height_body_add_one_le (h : file ∈ includedFiles ts) :
    r.height (r.body file) + 1 ≤ r.height ts := by
  have : Nonempty {files // r.ChainFrom (r.body file) files} := ⟨[], r.chainFrom_nil _⟩
  rw [height, ENat.iSup_add]
  refine iSup_le fun ⟨files, hfiles⟩ => ?_
  exact length_le_height (chainFrom_cons_iff.mpr ⟨h, hfiles⟩)

/-- **Of tags side by side, the one that leads deepest counts.** -/
theorem height_eq (r : Renderer) (ts : List Token) :
    r.height ts = ⨆ file ∈ includedFiles ts, (r.height (r.body file) + 1) := by
  refine le_antisymm ?_ (iSup₂_le fun file hfile => height_body_add_one_le hfile)
  refine iSup_le fun ⟨files, hfiles⟩ => ?_
  cases files with
  | nil => exact zero_le
  | cons file files =>
    obtain ⟨hfile, hrest⟩ := chainFrom_cons_iff.mp hfiles
    calc ((file :: files).length : ℕ∞)
        = (files.length : ℕ∞) + 1 := rfl
      _ ≤ r.height (r.body file) + 1 := by gcongr; exact length_le_height hrest
      _ ≤ ⨆ file ∈ includedFiles ts, (r.height (r.body file) + 1) :=
        le_iSup₂ (f := fun file (_ : file ∈ includedFiles ts) => r.height (r.body file) + 1)
          file hfile

/-- A tag leads one level deeper than what the file includes that its text names. -/
theorem height_fileOf_add_one_le {reference : String} (h : reference ∈ references ts) :
    r.height (r.body (fileOf reference)) + 1 ≤ r.height ts :=
  height_body_add_one_le (List.mem_map_of_mem h)

theorem height_le_iff {h : ℕ∞} : r.height ts ≤ h ↔
    ∀ reference ∈ references ts, r.height (r.body (fileOf reference)) + 1 ≤ h := by
  rw [height_eq, iSup₂_le_iff, includedFiles, List.forall_mem_map]

/-- Tokens that include the same files have the same height. -/
theorem height_congr (h : includedFiles ts = includedFiles us) : r.height ts = r.height us := by
  rw [height_eq, height_eq, h]

/-! ### Chains without end -/

variable {file' : String}

theorem height_add_one_le_of_transGen (h : Relation.TransGen r.Includes file file') :
    r.height (r.body file') + 1 ≤ r.height (r.body file) := by
  induction h with
  | single h => exact height_body_add_one_le h
  | tail _ h ih => exact (height_body_add_one_le h).trans (le_self_add.trans ih)

/-- **A file that leads back to itself has chains without end.** -/
theorem height_eq_top_of_cycle (h : Relation.TransGen r.Includes file file) :
    r.height (r.body file) = ⊤ := by
  by_contra hfinite
  have hlt := (ENat.add_one_le_iff hfinite).mp (height_add_one_le_of_transGen h)
  exact lt_irrefl _ hlt

/-- So have the tokens that lead to such a file. -/
theorem height_eq_top_of_reaches_cycle {first : String} (hfirst : first ∈ includedFiles ts)
    (hreach : Relation.ReflTransGen r.Includes first file)
    (hcycle : Relation.TransGen r.Includes file file) : r.height ts = ⊤ := by
  have htop := height_eq_top_of_cycle hcycle
  have hle : r.height (r.body file) ≤ r.height (r.body first) := by
    obtain rfl | h := Relation.reflTransGen_iff_eq_or_transGen.mp hreach
    · exact le_rfl
    · exact le_self_add.trans (height_add_one_le_of_transGen h)
  have hfirst' := le_self_add.trans (height_body_add_one_le (r := r) hfirst)
  exact top_le_iff.mp (htop ▸ hle.trans hfirst')

end Renderer

end Mustache
