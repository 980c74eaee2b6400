import Mustache.Proofs.LoopPasses
import Mustache.Proofs.MessageWalk
import Mustache.Proofs.PlainName
import Mustache.Proofs.Prologue
/-!
# A section shows nothing of the frame around it

Inside a section that steps into its value, all names are looked up in that value or in what is found
there. The frame around the section is below, and comes back only at the end of the section. Of this
frame, what the section writes therefore depends on a single key.

* `IsKey name`: the name is answered by a key of the top frame and by nothing else, so that two frames
  with the same value under the key answer it alike (`IsKey.resolve_eq`).
* `render_once`: a template that is one section without elements renders as a walk over the body, with
  the value of the section as the only frame.
* `render_section_eq`: over two contexts with the same value under the key, a template that is one
  section renders alike.

Where the section is a loop, `render_loop` is what `render_once` is elsewhere.
-/

namespace Mustache

/-- The name is a key as it stands: it has no index, and it is none of the names that are answered
without a key. -/
def IsKey (name : String) : Prop :=
  '[' ∉ name.toList ∧ name ≠ indexName ∧ name ≠ firstName ∧ name ≠ wholeFrame

instance (name : String) : Decidable (IsKey name) := inferInstanceAs (Decidable (_ ∧ _))

/-- Of two stacks, the values under a key in the top frames are all that counts. -/
theorem IsKey.resolve_eq {name : String} (h : IsKey name) {s t : Scopes}
    (hagree : s.top.get? name = t.top.get? name) : s.resolve name = t.resolve name := by
  obtain ⟨hbracket, hindex, hfirst, hframe⟩ := h
  simp only [Scopes.resolve, if_neg hindex, if_neg hfirst, if_neg hframe,
    Selection.parse_of_reads (.key hbracket), ok_bind, Scopes.lookup, hagree]

/-- The elements of a section are those of an array. -/
theorem eq_of_elements {lookup : Lookup} {v : Value} {vs : List Value}
    (h : SectionKind.steppingIn.elements lookup = v :: vs) : lookup = .found (.array (v :: vs)) := by
  rw [SectionKind.elements.eq_def] at h
  split at h
  · rw [h]
  · simp at h

/-! ### A template that is one section without elements -/

namespace Walk

/-- The walk over the body of a section, with the value of the section as the only frame. -/
def inside (lookup : Lookup) (body : List Token) : Walk :=
  { along (Node.ofTokens 0 body) lookup.valueOrNull 0 with
    visible := SectionKind.steppingIn.passes lookup }

/-- What is around the body of a section that stands alone. -/
def aroundSection (context : Value) (name : String) : Surroundings where
  tail := Node.ofTokens 0 (Marker.sectionClose.tag name ++ [.text ""])
  below := [context]
  output := ""
  opened := [⟨name, .once true true⟩]

variable {r : Renderer} {last : Walk}

theorem balanced_inside (lookup : Lookup) {body : List Token} (h : Sentence body) :
    (inside lookup body).Balanced := by
  refine ⟨?_, .nil 0⟩
  simp only [inside, along, Node.tokens_ofTokens]
  exact h.reads 0

theorem nested_inside (lookup : Lookup) (body : List Token) :
    (inside lookup body).Nested (SectionKind.steppingIn.passes lookup) :=
  ⟨rfl, rfl⟩

/-- Behind the body come the end tag and an empty text, which write nothing. -/
theorem run_aroundSection (context : Value) (name : String) (hrest : last.tape.rest = [])
    (hopened : last.opened = []) :
    ((aroundSection context name).place last).run r = .ok last.output := by
  have htag : ((aroundSection context name).place last).AtTag .sectionClose name 0
      [⟨.text "", 0⟩] := by
    refine ⟨0, 0, ?_⟩
    rw [Surroundings.place, hrest]
    rfl
  have ho : ((aroundSection context name).place last).opened = [⟨name, .once true true⟩] := by
    rw [Surroundings.place, hopened]
    rfl
  rw [run_of_step (step_close htag ho trivial), checkEndName_self, attempt_ok, ok_bind, pure_eq_ok,
    ok_bind]
  have htext := (htag.leave (.once true true) []).rest_skipTag
  rw [run_of_next (step_text htext), emit_empty,
    run_of_end (step_end (Tape.rest_advance htext) rfl)]
  exact congrArg Except.ok String.empty_append

/-- Over the first tag of the section, and into its body. -/
theorem enter_eq_place_inside {template name : String} (context : Value) {body : List Token}
    {lookup : Lookup} (h : tokenize template = loopTokens name body)
    (helements : SectionKind.steppingIn.elements lookup = []) :
    (start template context).advance.skipTag.enter .sectionOpen name lookup =
      (⟨(start template context).advance.skipTag.tape.passed, ""⟩ : Prologue).place
        ((aroundSection context name).place (inside lookup body)) := by
  have hrest : (start template context).advance.skipTag.tape.rest =
      Node.ofTokens 0 body ++ (aroundSection context name).tail :=
    (atTag_advance h).rest_skipTag
  have henter : (start template context).advance.skipTag.enter .sectionOpen name lookup =
      (start template context).advance.skipTag.inOnce .steppingIn name lookup :=
    enter_of_elements_eq_nil helements
  rw [henter]
  have htape : (start template context).advance.skipTag.tape =
      ⟨(start template context).advance.skipTag.tape.passed,
        Node.ofTokens 0 body ++ (aroundSection context name).tail⟩ := by
    rw [← hrest]
  rw [inOnce, htape]
  -- The context is below the value of the section, and the index is still zero.
  rfl

end Walk

open Walk

/-- **A section without elements.** -/
theorem render_once {r : Renderer} {template name : String} {context : Value} {body : List Token}
    {lookup : Lookup} (hr : r.LoadsSentences) (htokens : tokenize template = loopTokens name body)
    (hbody : Sentence body) (hname : checkTagName name = .ok ())
    (hlookup : (Scopes.ofRoot context).resolve name = .ok lookup)
    (helements : SectionKind.steppingIn.elements lookup = []) :
    r.render template context = (inside lookup body).run r := by
  have hresolve : (start template context).advance.scopes.resolve name = .ok lookup := hlookup
  -- The body and what is behind it are the end of the template, which is spaced.
  have hspaced : Spaced (Node.tokens
      ((aroundSection context name).place (inside lookup body)).stream) := by
    have htemplate := spaced_tokenize template
    have hstream : ((aroundSection context name).place (inside lookup body)).stream =
        Node.ofTokens 0 (body ++ (Marker.sectionClose.tag name ++ [.text ""])) :=
      (Node.ofTokens_append 0 _ _).symm
    rw [htokens, loopTokens] at htemplate
    rw [hstream, Node.tokens_ofTokens]
    exact htemplate.tail.right
  rw [render_eq_run_advance htokens, run_of_step (step_section rfl (atTag_advance htokens)), hname,
    attempt_ok, ok_bind, hresolve, attempt_ok, ok_bind, pure_eq_ok, ok_bind,
    enter_eq_place_inside context htokens helements, Prologue.run_place _ hspaced,
    Surroundings.run_place _ hr (balanced_inside lookup hbody) (nested_inside lookup body),
    run_eq_finish]
  cases hlast : (inside lookup body).finish r with
  | error f => simp [RenderFailure.after, aroundSection]
  -- The last walk of the body is in no section of the body, and the outer one is closed behind it.
  | ok last =>
    obtain ⟨hrest, hopened⟩ := of_step_end (finish_eq_ok hlast).2
    rw [Surroundings.lift_ok, ok_bind, run_aroundSection context name hrest hopened]
    simp

/-- A name that no tag may have stops the render before the context is asked. -/
theorem render_of_checkTagName {r : Renderer} {template name : String} {body : List Token}
    {e : RenderError} (htokens : tokenize template = loopTokens name body)
    (hname : checkTagName name = .error e) (context : Value) :
    r.render template context = .error ⟨"", e⟩ := by
  rw [render_eq_run_advance htokens, run_of_step (step_section rfl (atTag_advance htokens)), hname]
  rfl

/-! ### Two contexts -/

/-- **A section isolates its body.** Of the frame around it, a section asks for its key alone: over
two contexts with the same value under the key, or both without the key, the template writes the same
and fails alike. -/
theorem render_section_eq {r : Renderer} {template name : String} {body : List Token}
    {context₁ context₂ : Value} (hr : r.LoadsSentences) (hkey : IsKey name)
    (htokens : tokenize template = loopTokens name body) (hbody : Sentence body)
    (hagree : context₁.get? name = context₂.get? name) :
    r.render template context₁ = r.render template context₂ := by
  obtain ⟨lookup, hlookup₁⟩ := (Scopes.ofRoot context₁).exists_resolve hkey.1
  have hlookup₂ : (Scopes.ofRoot context₂).resolve name = .ok lookup :=
    (hkey.resolve_eq hagree).symm.trans hlookup₁
  cases hname : checkTagName name with
  -- A name that no tag may have is reported over any context.
  | error e => rw [render_of_checkTagName htokens hname, render_of_checkTagName htokens hname]
  | ok u =>
    -- What both sides come to holds the value of the key, and no context.
    cases helements : SectionKind.steppingIn.elements lookup with
    | nil =>
      rw [render_once hr htokens hbody hname hlookup₁ helements,
        render_once hr htokens hbody hname hlookup₂ helements]
    | cons v vs =>
      obtain rfl := eq_of_elements helements
      rw [render_loop hr htokens hbody hname hlookup₁, render_loop hr htokens hbody hname hlookup₂]

/-- A body that writes a value and includes a file. -/
def valueAndFile : List Token :=
  .text "(" :: (Marker.escaped.tag "v" ++ .text "" :: (Marker.partialByVariable.tag "n" ++
    [.text ")"]))

/-- The section with this body. -/
def sectionWithFile : String :=
  "\x7b\x7b#k\x7d\x7d(\x7b\x7bv\x7d\x7d\x7b\x7b<n\x7d\x7d)\x7b\x7b/k\x7d\x7d"

/-- A value and a file of the section, in a frame that has others of either name and in one that has
none: the section writes its own ones in both. -/
theorem render_fileAround :
    let inner : Value := .object [("v", .string "1"), ("n", .string "a")]
    let outer : Value := .object [("k", inner), ("v", .string "2"), ("n", .string "b")]
    twoFiles.render sectionWithFile outer =
        twoFiles.render sectionWithFile (.object [("k", inner)]) ∧
      twoFiles.render sectionWithFile outer = .ok "(1A)" := by
  intro inner outer
  have htokens : tokenize sectionWithFile = loopTokens "k" valueAndFile := by decide +kernel
  have hbody : Sentence valueAndFile :=
    .text "(" (.single rfl "v" (.text "" (.single rfl "n" (.text ")" .nil))))
  refine ⟨?_, Walk.run_eq_of_after (n := 10) (by decide +kernel)⟩
  exact render_section_eq loadsSentences_twoFiles (by decide) htokens hbody rfl

end Mustache
