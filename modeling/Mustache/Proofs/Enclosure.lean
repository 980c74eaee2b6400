import Mustache.Proofs.ErrorClass
/-!
# No tag lacks its name

Two errors could be raised where a tag has a marker and nothing that can be its name: the tokens end
behind the marker, or another marker comes next (`RenderError.IsNameless`). No render comes to them,
however malformed its template and its partials are. At the very end of a template, or in front of
another marker, an opening marker starts a tag with an empty name.

Texts and markers need not alternate: once a parameter has come in, or a partial, texts may stand
next to each other. What stays is weaker, and it is enough (`Enclosed`): the tokens start and end
with a text, and a text stands behind every marker.

* Cutting a template gives such tokens (`enclosed_tokenize`), and parameters and partials keep them
  such (`BindingTable.enclosed_apply`, `Splice.enclosed`), so that the stream of every walk is
  enclosed (`Walk.enclosed_of_reaches`).
* `Walk.not_isNameless_of_step`: no step fails for want of a name where a text stands behind every
  marker. Each way to fail that `Halt` lists has an error of its own.
* `render_not_nameless`: the invariant and its outcome, for renders in all three forms.
-/

namespace Mustache

/-! ### Enclosed tokens -/

/-- The last token is a text. -/
def EndsWithText (ts : List Token) : Prop := ∃ s before, ts = before ++ [.text s]

/-- The tokens start and end with a text, and each marker is directly followed by a text. -/
structure Enclosed (ts : List Token) : Prop where
  /-- A text comes first. -/
  startsWithText : StartsWithText ts
  /-- A text comes last. -/
  endsWithText : EndsWithText ts
  /-- A text stands behind every marker. -/
  spaced : Spaced ts

variable {ts : List Token}

theorem StartsWithText.ne_nil (h : StartsWithText ts) : ts ≠ [] := by
  obtain ⟨s, rest, rfl⟩ := h
  exact List.cons_ne_nil _ _

theorem EndsWithText.cons (t : Token) (h : EndsWithText ts) : EndsWithText (t :: ts) := by
  obtain ⟨s, before, rfl⟩ := h
  exact ⟨s, t :: before, rfl⟩

/-- With a text behind every marker, the last token can only be a text. -/
theorem Spaced.endsWithText (h : Spaced ts) (hne : ts ≠ []) : EndsWithText ts := by
  induction h with
  | nil => exact absurd rfl hne
  | @text s rest _ ih =>
    by_cases hrest : rest = []
    · exact ⟨s, [], by rw [hrest, List.nil_append]⟩
    · exact (ih hrest).cons _
  | @marker m s rest _ ih =>
    by_cases hrest : rest = []
    · exact ⟨s, [.marker m], by rw [hrest]; rfl⟩
    · exact ((ih hrest).cons _).cons _

theorem Spaced.enclosed (h : Spaced ts) (hstart : StartsWithText ts) : Enclosed ts :=
  ⟨hstart, h.endsWithText hstart.ne_nil, h⟩

/-- **Cutting a template gives enclosed tokens**, whatever the template. -/
theorem enclosed_tokenize (template : String) : Enclosed (tokenize template) :=
  (spaced_tokenize template).enclosed (startsWithText_tokenize template)

/-- Of two markers without a name, neither lacks its text. -/
example : tokenize "\x7b\x7b#\x7b\x7b" =
    [.text "", .marker .sectionOpen, .text "", .marker .escaped, .text ""] := by decide +kernel

/-- **Parameters keep tokens enclosed.** -/
theorem BindingTable.enclosed_apply (t : BindingTable) (h : Enclosed ts) : Enclosed (t.apply ts) :=
  (t.spaced_apply h.spaced).enclosed (t.startsWithText_apply h.startsWithText)

/-- No splice touches the first text, since a tag does not start with one. -/
theorem Splice.startsWithText {r : Renderer} {a b : List Node} (h : Splice r a b)
    (ha : StartsWithText (Node.tokens a)) : StartsWithText (Node.tokens b) := by
  cases h with
  | mk before hm hreference hfile hdepth hts =>
    obtain ⟨s, rest, ha⟩ := ha
    match before with
    | [] => simp at ha
    | node :: before =>
      simp only [List.cons_append, Node.tokens_cons, List.cons.injEq] at ha
      exact ⟨s, _, by rw [List.cons_append, Node.tokens_cons, ha.1]⟩

/-- **A partial keeps the tokens around it enclosed**, at any place and at any depth. -/
theorem Splice.enclosed {r : Renderer} {a b : List Node} (h : Splice r a b)
    (ha : Enclosed (Node.tokens a)) : Enclosed (Node.tokens b) :=
  (h.spaced ha.spaced).enclosed (h.startsWithText ha.startsWithText)

/-- **The stream of every walk that a render comes to is enclosed.** -/
theorem Walk.enclosed_of_reaches {r : Renderer} {template : String} {context : Value} {w : Walk}
    (h : Reaches r (start template context) w) : Enclosed (Node.tokens w.stream) := by
  refine h.stream (P := fun nodes => Enclosed (Node.tokens nodes)) ?_ fun hu hsplice =>
    hsplice.enclosed hu
  rw [stream_start, Node.tokens_ofTokens]
  exact enclosed_tokenize template

/-! ### Failures for want of a name -/

/-- The errors at a marker that nothing follows, or that another marker follows. -/
inductive RenderError.IsNameless : RenderError → Prop where
  /-- The tokens end behind the marker. -/
  | endOfTemplate : IsNameless .endOfTemplate
  /-- Another marker comes next. -/
  | missingName (m : Marker) : IsNameless (.missingName m)

theorem RenderError.IsNameless.kind {e : RenderError} (h : e.IsNameless) : e.kind = .markup := by
  cases h <;> rfl

/-- Errors of other classes are none of these. -/
theorem not_isNameless_of_kind {e : RenderError} {k : ErrorKind} (h : e.kind = k)
    (hk : k ≠ .markup) : ¬ e.IsNameless :=
  fun hnameless => hk (h.symm.trans hnameless.kind)

namespace Walk

variable {r : Renderer} {w : Walk} {f : RenderFailure}

theorem checkEndName_eq_error {name found : String} {e : RenderError}
    (h : checkEndName name found = .error e) : e = .mismatchedClose name found := by
  unfold checkEndName at h
  split at h
  · simp at h
  · exact (Except.error.inj h).symm

/-- **No step fails for want of a name** where a text stands behind every marker. -/
theorem not_isNameless_of_step (hspaced : Spaced (Node.tokens w.tape.rest))
    (hf : w.step r = .error f) : ¬ f.error.IsNameless := by
  cases halt_of_failure hspaced hf with
  -- Markers that are missing or unexpected have errors of their own, though of the same class.
  | unexpected | unopened | unclosed | unfinished => exact nofun
  | mismatched hat ho hr hname =>
    have he := checkEndName_eq_error hname
    simp only [failure, he]
    exact nofun
  | name hm hat hname => exact not_isNameless_of_kind (kind_of_checkTagName hname) (by decide)
  | print hm hat hname htext =>
    obtain ⟨-, hlookup⟩ := variableText_eq_error htext
    exact not_isNameless_of_kind (Scopes.kind_of_resolve hlookup) (by decide)
  | enter hm hat hname hlookup =>
    exact not_isNameless_of_kind (Scopes.kind_of_resolve hlookup) (by decide)
  | reference hm hat hreference =>
    exact not_isNameless_of_kind (kind_of_checkReference hreference) (by decide)
  | splice hm htag hreference hnodes =>
    obtain hfile | hdepth | hload | hparameters := included_eq_error hnodes
    · obtain ⟨-, hvalue | hcontext⟩ := kind_of_partialFile hfile
      · exact not_isNameless_of_kind hvalue (by decide)
      · exact not_isNameless_of_kind hcontext (by decide)
    · exact not_isNameless_of_kind hdepth (by decide)
    · exact not_isNameless_of_kind hload (by decide)
    · exact not_isNameless_of_kind hparameters (by decide)

end Walk

/-! ### Renders -/

namespace Renderer

variable {r : Renderer} {f : RenderFailure}

theorem not_isNameless_of_render {template : String} {context : Value}
    (h : r.render template context = .error f) : ¬ f.error.IsNameless := by
  obtain ⟨last, hreaches, hf⟩ := Walk.exists_of_run_eq_error h
  exact Walk.not_isNameless_of_step (Walk.spaced_rest_of_reaches hreaches) hf

/-- A render against JSON text fails because that is no JSON, or as a render against some value. -/
theorem renderJson_eq_error {template context : String}
    (h : r.renderJson template context = .error f) :
    f.error.kind = .json ∨ ∃ v, r.render template v = .error f := by
  obtain hjson | ⟨v, -, hrender⟩ := bind_eq_error_iff.mp h
  · cases hparse : Json.parse context with
    | ok v => simp [hparse] at hjson
    | error e =>
      rw [hparse, mapError_error, Except.error.injEq] at hjson
      exact .inl (hjson ▸ rfl)
  · exact .inr ⟨v, hrender⟩

theorem kind_of_load {name extension : String} (h : r.load name extension = .error f) :
    f.error.kind = .resource := by
  unfold load at h
  cases hload : r.loader name extension with
  | ok text => simp [hload] at h
  | error e =>
    rw [hload, mapError_error, Except.error.injEq] at h
    exact h ▸ rfl

/-- A render by name fails because a file cannot be loaded, or as a render of some template against
some JSON text. -/
theorem renderFiles_eq_error {view context : String} (h : r.renderFiles view context = .error f) :
    f.error.kind = .resource ∨ ∃ template text, r.renderJson template text = .error f := by
  obtain hview | ⟨template, -, h⟩ := bind_eq_error_iff.mp h
  · exact .inl (kind_of_load hview)
  · obtain hcontext | ⟨text, -, hrender⟩ := bind_eq_error_iff.mp h
    · exact .inl (kind_of_load hcontext)
    · exact .inr ⟨template, text, hrender⟩

theorem not_isNameless_of_renderJson {template context : String}
    (h : r.renderJson template context = .error f) : ¬ f.error.IsNameless := by
  obtain hjson | ⟨v, hrender⟩ := renderJson_eq_error h
  · exact not_isNameless_of_kind hjson (by decide)
  · exact not_isNameless_of_render hrender

theorem not_isNameless_of_renderFiles {view context : String}
    (h : r.renderFiles view context = .error f) : ¬ f.error.IsNameless := by
  obtain hload | ⟨template, text, hrender⟩ := renderFiles_eq_error h
  · exact not_isNameless_of_kind hload (by decide)
  · exact not_isNameless_of_renderJson hrender

end Renderer

/-- **No render fails for want of a name.** Templates are cut into enclosed tokens, parameters and
partials keep tokens enclosed, and so the stream of every walk that a render comes to is enclosed.
Therefore no render ends with an error at a marker that has no name, be the context a value, JSON
text or a file. -/
theorem render_not_nameless (r : Renderer) :
    (∀ template, Enclosed (tokenize template)) ∧
      (∀ (t : BindingTable) (ts : List Token), Enclosed ts → Enclosed (t.apply ts)) ∧
      (∀ a b, Splice r a b → Enclosed (Node.tokens a) → Enclosed (Node.tokens b)) ∧
      (∀ template context w, Walk.Reaches r (Walk.start template context) w →
        Enclosed (Node.tokens w.stream)) ∧
      (∀ template context f, r.render template context = .error f → ¬ f.error.IsNameless) ∧
      (∀ template context f, r.renderJson template context = .error f → ¬ f.error.IsNameless) ∧
      ∀ view context f, r.renderFiles view context = .error f → ¬ f.error.IsNameless := by
  refine ⟨enclosed_tokenize, fun t ts => t.enclosed_apply, fun a b hsplice => hsplice.enclosed,
    fun template context w => Walk.enclosed_of_reaches, ?_, ?_, ?_⟩
  · exact fun template context f => Renderer.not_isNameless_of_render
  · exact fun template context f => Renderer.not_isNameless_of_renderJson
  · exact fun view context f => Renderer.not_isNameless_of_renderFiles

end Mustache
