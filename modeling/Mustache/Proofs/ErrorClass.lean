import Mathlib.Tactic.SplitIfs
import Mustache.Proofs.Halt
import Mustache.Proofs.Precedence
import Mustache.Proofs.Resolution
/-!
# Where each class of errors comes from

The errors of a render fall into classes (`RenderError.kind`). Each function of a walk that can fail
has one class, or at most two, so that the class of an error tells which tag has stopped the walk and
what was wrong with it.

* Names and references that are not allowed: `kind_of_checkTagName` and `kind_of_checkReference`.
* Lookups: `Scopes.kind_of_resolve`, and `Walk.kind_of_partialFile` for the file that a variable holds.
* Partials and their parameters: `Renderer.kind_of_partialTokens`.
* `Walk.Halt.exists_partial`: the classes of the failures that only a partial tag has.
* `Walk.kind_iff_byContext`: the classes of value types and of element selections are those of a
  failure that the context has a part in (`Walk.ByContext`), and of no other failure.
-/

namespace Mustache

variable {e : RenderError}

theorem kind_of_error {α : Type} {e' : RenderError} {kind : ErrorKind}
    (h : (.error e' : Except RenderError α) = .error e) (hkind : e'.kind = kind) : e.kind = kind := by
  obtain rfl := Except.error.inj h
  exact hkind

/-! ### Names -/

theorem kind_of_checkCharacters {signs : List Char} {name : String}
    (h : checkCharacters signs name = .error e) : e.kind = .identifier := by
  unfold checkCharacters at h
  split at h
  · exact kind_of_error h rfl
  · simp at h

theorem kind_of_checkTagName {name : String} (h : checkTagName name = .error e) :
    e.kind = .identifier := by
  unfold checkTagName at h
  split at h
  · simp at h
  · exact kind_of_checkCharacters h

theorem kind_of_checkReference {reference : String} (h : checkReference reference = .error e) :
    e.kind = .identifier := kind_of_checkCharacters h

/-! ### Lookups -/

theorem Selection.kind_of_parse {name : String} (h : parse name = .error e) :
    e.kind = .context := by
  cases parse_eq_iff.mp h <;> rfl

namespace Scopes

/-- A name that cannot be looked up asks for an element of an array in the wrong way. -/
theorem kind_of_resolve {s : Scopes} {name : String} (h : s.resolve name = .error e) :
    e.kind = .context := by
  cases resolve_eq_iff.mp h with
  | selected hname hreads hanswers =>
    -- A frame fails to answer only where there is no array.
    cases hanswers
    rfl
  | malformed hname hreads => exact Selection.kind_of_parse (Selection.parse_of_reads hreads)

end Scopes

/-! ### Parameters -/

theorem Binding.kind_of_parse {parameter : String} {value : List Char}
    (h : parse parameter value = .error e) : e.kind = .substitution := by
  unfold parse at h
  split at h
  · exact kind_of_error h rfl
  · split at h
    · split at h
      · exact kind_of_error h rfl
      · simp at h
      · exact kind_of_error h rfl
    · split at h
      · exact kind_of_error h rfl
      · simp at h

theorem kind_of_parseParameter {parameter : String} (h : parseParameter parameter = .error e) :
    e.kind = .substitution := by
  simp only [parseParameter] at h
  split at h
  · exact kind_of_error h rfl
  · split at h
    · exact kind_of_error h rfl
    · obtain hbinding | ⟨binding, -, hpure⟩ := bind_eq_error_iff.mp h
      · exact Binding.kind_of_parse hbinding
      · simp at hpure

theorem BindingTable.kind_of_bindAll {t : BindingTable} {parameters : List String}
    (h : t.bindAll parameters = .error e) : e.kind = .substitution := by
  obtain ⟨parameter, -, hfault⟩ := List.exists_of_findSome?_eq_some (bindAll_eq_error_iff.mp h)
  exact kind_of_parseParameter (fault?_eq_some_iff.mp hfault)

/-! ### Partials -/

theorem Renderer.kind_of_checkDepth {r : Renderer} {file : String} {depth : Nat}
    (h : r.checkDepth file depth = .error e) : e.kind = .depth := by
  unfold checkDepth at h
  split at h
  · simp at h
  · exact kind_of_error h rfl

/-- A partial fails because it cannot be loaded, or because of its parameters. -/
theorem Renderer.kind_of_partialTokens {r : Renderer} {file : String} {parameters : List String}
    (h : r.partialTokens file parameters = .error e) :
    e.kind = .resource ∨ e.kind = .substitution := by
  -- The file is loaded before the parameters are read.
  obtain hload | ⟨text, -, h⟩ := bind_eq_error_iff.mp h
  · cases hfile : r.loader file r.options.partialExtension with
    | ok text => simp [hfile] at hload
    | error loadError =>
      rw [hfile, mapError_error, Except.error.injEq] at hload
      subst hload
      exact .inl rfl
  · obtain htable | ⟨table, -, hpure⟩ := bind_eq_error_iff.mp h
    · exact .inr (BindingTable.kind_of_bindAll htable)
    · simp at hpure

namespace Walk

variable {r : Renderer} {w : Walk} {f : RenderFailure} {m : Marker} {name : String}

/-- Only a file that a variable holds can be missing. -/
theorem kind_of_partialFile (h : w.partialFile m name = .error e) :
    m = .partialByVariable ∧ (e.kind = .valueType ∨ e.kind = .context) := by
  unfold partialFile partialFileBy at h
  split at h
  · rename_i hm
    refine ⟨hm, ?_⟩
    obtain hresolve | ⟨lookup, -, h⟩ := bind_eq_error_iff.mp h
    · exact .inr (Scopes.kind_of_resolve hresolve)
    -- Of what can be found, only a text is no error.
    · refine .inl ?_
      split at h
      · simp at h
      · exact kind_of_error h rfl
      · exact kind_of_error h rfl
      · exact kind_of_error h rfl
      · exact kind_of_error h rfl
  · simp at h

/-- What can go wrong with a whole partial tag. -/
theorem included_eq_error {d : Nat} {reference : String}
    (h : w.included r m d reference = .error e) :
    w.partialFile m (PartialReference.parse reference).file = .error e ∨
      e.kind = .depth ∨ e.kind = .resource ∨ e.kind = .substitution := by
  obtain hfile | ⟨file, -, h⟩ := bind_eq_error_iff.mp h
  · exact .inl hfile
  · obtain hdepth | ⟨_, -, h⟩ := bind_eq_error_iff.mp h
    · exact .inr (.inl (Renderer.kind_of_checkDepth hdepth))
    · obtain hts | ⟨ts, -, hpure⟩ := bind_eq_error_iff.mp h
      · exact .inr (.inr (Renderer.kind_of_partialTokens hts))
      · simp at hpure

/-! ### Failures by the context -/

/-- The steps that fail because of what the context holds. -/
inductive ByContext (w : Walk) : RenderError → Prop where
  /-- A visible variable cannot be looked up. -/
  | print {m : Marker} {name : String} {d : Nat} {tail : List Node} {e : RenderError}
    (hvisible : w.visible = true) (hm : m.opensVariable) (h : w.AtName m name d tail)
    (hname : checkTagName name = .ok ()) (hlookup : w.scopes.resolve name = .error e) :
    ByContext w e
  /-- The value of a section cannot be looked up. -/
  | enter {m : Marker} {name : String} {d : Nat} {tail : List Node} {e : RenderError}
    (hm : m.opensSection) (h : w.AtName m name d tail) (hname : checkTagName name = .ok ())
    (hlookup : w.scopes.resolve name = .error e) : ByContext w e
  /-- A variable does not hold the name of a file. -/
  | file {reference : String} {d : Nat} {tail : List Node} {e : RenderError}
    (h : w.AtTag .partialByVariable reference d tail) (hreference : checkReference reference = .ok ())
    (hfile : w.partialFile .partialByVariable (PartialReference.parse reference).file = .error e) :
    ByContext w e

theorem ByContext.kind (h : ByContext w e) : e.kind = .valueType ∨ e.kind = .context := by
  cases h with
  | print hvisible hm hat hname hlookup => exact .inr (Scopes.kind_of_resolve hlookup)
  | enter hm hat hname hlookup => exact .inr (Scopes.kind_of_resolve hlookup)
  | file htag hreference hfile => exact (kind_of_partialFile hfile).2

theorem kind_of_checkEndName {found : String} (h : checkEndName name found = .error e) :
    e.kind = .markup := by
  unfold checkEndName at h
  split at h
  · simp at h
  · exact kind_of_error h rfl

/-- A variable tag fails to print only if it is visible and cannot be looked up. -/
theorem variableText_eq_error (h : w.variableText m name = .error e) :
    w.visible = true ∧ w.scopes.resolve name = .error e := by
  rw [variableText_eq] at h
  split at h
  · rename_i hvisible
    obtain hresolve | ⟨lookup, -, hpure⟩ := bind_eq_error_iff.mp h
    · exact ⟨hvisible, hresolve⟩
    · simp at hpure
  · simp at h

/-- **What no name, lookup or missing marker has stopped, a partial tag has stopped.** -/
theorem Halt.exists_partial (h : Halt r w f)
    (hkind : f.error.kind ≠ .markup ∧ f.error.kind ≠ .identifier ∧ f.error.kind ≠ .context) :
    ∃ m reference d tail, m.opensPartial ∧ w.AtTag m reference d tail ∧
      checkReference reference = .ok () ∧ w.included r m d reference = .error f.error := by
  obtain ⟨hmarkup, hidentifier, hcontext⟩ := hkind
  cases h with
  | splice hm htag hreference hnodes => exact ⟨_, _, _, _, hm, htag, hreference, hnodes⟩
  | unexpected | unopened | unclosed | unfinished => exact absurd rfl hmarkup
  | mismatched hat ho hr hname => exact absurd (kind_of_checkEndName hname) hmarkup
  | name hm hat hname => exact absurd (kind_of_checkTagName hname) hidentifier
  | print hm hat hname htext =>
    obtain ⟨-, hlookup⟩ := variableText_eq_error htext
    exact absurd (Scopes.kind_of_resolve hlookup) hcontext
  | enter hm hat hname hlookup => exact absurd (Scopes.kind_of_resolve hlookup) hcontext
  | reference hm hat hreference => exact absurd (kind_of_checkReference hreference) hidentifier

/-- **The classes of value types and of element selections are those of the failures that the context
has a part in.** -/
theorem kind_iff_byContext (hspaced : Spaced (Node.tokens w.tape.rest)) (hf : w.step r = .error f) :
    f.error.kind = .valueType ∨ f.error.kind = .context ↔ ByContext w f.error := by
  refine ⟨fun hkind => ?_, ByContext.kind⟩
  -- An error of another class contradicts the assumption.
  have hother {k : ErrorKind} (hk : f.error.kind = k) (hvalue : k ≠ .valueType)
      (hcontext : k ≠ .context) : ByContext w f.error :=
    absurd hkind (by rw [hk]; exact not_or.mpr ⟨hvalue, hcontext⟩)
  cases halt_of_failure hspaced hf with
  | unexpected | unopened | unclosed | unfinished =>
    exact hother (k := .markup) rfl (by decide) (by decide)
  | mismatched hat ho hr hname => exact hother (kind_of_checkEndName hname) (by decide) (by decide)
  | name hm hat hname => exact hother (kind_of_checkTagName hname) (by decide) (by decide)
  | print hm hat hname htext =>
    obtain ⟨hvisible, hlookup⟩ := variableText_eq_error htext
    exact .print hvisible hm hat hname hlookup
  | enter hm hat hname hlookup => exact .enter hm hat hname hlookup
  | reference hm hat hreference =>
    exact hother (kind_of_checkReference hreference) (by decide) (by decide)
  | splice hm htag hreference hnodes =>
    -- Only the choice of the file can be up to the context.
    obtain hfile | hdepth | hload | hparameters := included_eq_error hnodes
    · obtain ⟨rfl, -⟩ := kind_of_partialFile hfile
      exact .file htag hreference hfile
    · exact hother hdepth (by decide) (by decide)
    · exact hother hload (by decide) (by decide)
    · exact hother hparameters (by decide) (by decide)

end Walk

end Mustache
