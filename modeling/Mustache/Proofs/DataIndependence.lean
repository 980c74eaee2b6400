import Mustache.Proofs.Retrace
import Mustache.Proofs.Source
/-!
# Failure does not depend on the context

A context decides what a render shows, which frames it steps into and how often it goes through a
body. It does not decide whether the render comes to its end: that is in the template and in the
partials, as long as no tag asks a variable for its file and no name asks for an element of an array.

* `Renderer.Oblivious r template`: no text that the render can meet has such a tag or such a name.
* `Oblivious.plain`: then all walks of the render are plain, since what is spliced in is the text of
  a file with parameters put in, and parameters bring in neither tags nor names.
* `ending_render_eq`: over any two contexts the render ends in the same way, both times without an
  error or both times with the same one.

Both ends are the end of the scan of the expansion (`Renderer.ending_render`), which has no context.
-/

namespace Mustache

/-- In the template and in all loadable texts, no tag asks a variable for its file, and no variable
or section has a name with an opening bracket. -/
def Renderer.Oblivious (r : Renderer) (template : String) : Prop :=
  ∀ ts, r.Source template ts → .marker .partialByVariable ∉ ts ∧ PlainNames ts

namespace Renderer.Oblivious

variable {r : Renderer} {template : String}

theorem isDirect (h : r.Oblivious template) : r.IsDirect := by
  intro file text hload
  exact (h _ (.ofFile hload)).1

theorem plainNames (h : r.Oblivious template) {file text : String}
    (hload : r.loader file r.options.partialExtension = .ok text) : PlainNames (tokenize text) :=
  (h _ (.ofFile hload)).2

/-- **A step keeps a walk plain.** -/
theorem plain_next (h : r.Oblivious template) {w w' : Walk} (hw : w.Plain)
    (hnext : Walk.Next r w w') : w'.Plain where
  toExpandable := hw.toExpandable.next h.isDirect hnext
  plainNames := by
    -- Names come in with partials only.
    obtain heq | hsplice := Walk.stream_eq_or_splice hnext
    · rw [heq]
      exact hw.plainNames
    · exact hsplice.plainNames (fun _ _ hload => h.plainNames hload) hw.spaced hw.plainNames

/-- **All walks of the render are plain.** -/
theorem plain (h : r.Oblivious template) {context : Value} {w : Walk}
    (hw : Walk.Reaches r (Walk.start template context) w) : w.Plain := by
  obtain ⟨hdirect, hplain⟩ := h _ .ofTemplate
  refine hw.preserves ⟨Walk.expandable_start context hdirect, ?_⟩ h.plain_next
  rw [Walk.stream_start, Node.tokens_ofTokens]
  exact hplain

end Renderer.Oblivious

/-- **A render fails over all contexts or over none**, and with the same error. -/
theorem ending_render_eq {r : Renderer} {template : String} (h : r.Oblivious template)
    (context₁ context₂ : Value) :
    ending (r.render template context₁) = ending (r.render template context₂) := by
  -- Both sides are the end of one scan, in which no context occurs.
  rw [Renderer.ending_render fun u hu => h.plain hu, Renderer.ending_render fun u hu => h.plain hu]

/-- A partial that closes the section it stands in, and closes it once too often: over one context
the section is a loop, over the other it is hidden. -/
theorem ending_partial_closing_section :
    let r : Renderer := ⟨Store.loader ⟨[("end.mustache", "\x7b\x7b/xs\x7d\x7d")]⟩, {}⟩
    let template :=
      "\x7b\x7b#xs\x7d\x7d\x7b\x7b^a\x7d\x7d\x7b\x7b.\x7d\x7d\x7b\x7b/a\x7d\x7d" ++
        "\x7b\x7b>end\x7d\x7d\x7b\x7b>end\x7d\x7d"
    r.Oblivious template ∧
      ending (r.render template (.object [("xs", .array [.number (.int 1), .number (.int 2)])])) =
        ending (r.render template (.object [])) := by
  intro r template
  have hoblivious : r.Oblivious template :=
    Store.forall_source (by decide +kernel) (by decide +kernel)
  exact ⟨hoblivious, ending_render_eq hoblivious _ _⟩

end Mustache
