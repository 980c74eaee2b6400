import Mustache.Proofs.Entities
import Mustache.Proofs.Halt
import Mustache.Proofs.Source
/-!
# No markup comes from a context

What a render writes consists of texts that have been written down in the template, in partials and
in parameters, and of what variable tags print. Where no tag prints its value as it is, a context
can add escaped text only.

* `Html.Keeps q P`: the property `P` of written text holds of texts of characters with `q` and of
  escaped texts, and joining keeps it.
* `keeps_of_reaches`: such a property holds of what has been written in every walk that a render
  comes to, and `keeps_written` says that it holds of the outcome, complete or up to an error.
* `render_introduces_no_markup`: a special character in the outcome has been written down as such,
  and the ampersands begin named entities if none has been written down.
-/

namespace Mustache

/-- A property of written text that texts of certain characters have, and escaped texts, and that
joining keeps. -/
structure Html.Keeps (q : Char → Prop) (P : List Char → Prop) : Prop where
  /-- Texts of these characters have it. -/
  plain : ∀ cs, (∀ c ∈ cs, q c) → P cs
  /-- Escaped texts have it. -/
  escaped : ∀ cs, P (Html.escapeChars cs)
  /-- Joining keeps it. -/
  append : ∀ cs ds, P cs → P ds → P (cs ++ ds)

/-- Having none of the special characters is kept where none of them is written down. -/
theorem Html.keeps_not_mem {c : Char} (hc : Html.isSpecial c = true) :
    Html.Keeps (· ≠ c) (c ∉ ·) where
  plain _ hcs hmem := hcs c hmem rfl
  escaped _ hmem := by
    rw [Html.isSpecial_of_mem_escapeChars hmem] at hc
    exact Bool.false_ne_true hc
  append _ _ hcs hds hmem := (List.mem_append.mp hmem).elim hcs hds

/-- Having ampersands in named entities only is kept where no ampersand is written down. -/
theorem Html.keeps_ampersandsNamed : Html.Keeps (· ≠ '&') Html.AmpersandsNamed where
  plain _ hcs := Html.ampersandsNamed_of_not_mem fun hmem => hcs '&' hmem rfl
  escaped := Html.ampersandsNamed_escapeChars
  append _ _ hcs hds := hcs.append hds

namespace Walk

variable {r : Renderer} {w w' : Walk} {q : Char → Prop} {P : List Char → Prop} {template : String}
  {context : Value}

/-- The texts of a walk are made of such characters, it has no tag that prints a value as it is, and
what has been written has a property. -/
structure Confined (q : Char → Prop) (P : List Char → Prop) (w : Walk) : Prop where
  /-- Its texts are made of such characters. -/
  characters : ∀ t ∈ Node.tokens w.stream, ∀ c ∈ t.characters, q c
  /-- It has no tag that prints a value as it is. -/
  escaped : .marker .unescaped ∉ Node.tokens w.stream
  /-- What has been written has the property. -/
  output : P w.output.toList

theorem mem_stream_of_mem_rest {t : Token} (h : t ∈ Node.tokens w.tape.rest) :
    t ∈ Node.tokens w.stream := by
  rw [stream, Node.tokens_append]
  exact List.mem_append_right _ h

/-- **What one step writes.** -/
theorem Confined.adds (h : w.Confined q P) (hP : Html.Keeps q P) {text : String}
    (hadds : Adds w text) : P text.toList := by
  cases hadds with
  | nothing => exact h.output
  | text hs =>
    rw [String.toList_append]
    refine hP.append _ _ h.output (hP.plain _ ?_)
    exact h.characters _ (mem_stream_of_mem_rest hs)
  | @value m v hm hmarker =>
    -- Of the two tags that print a value, only the escaping one is there.
    have hescaped : m = .escaped := by
      cases m with
      | escaped => rfl
      | unescaped => exact absurd (mem_stream_of_mem_rest hmarker) h.escaped
      | _ => simp [Marker.opensVariable] at hm
    subst hescaped
    have hprinted : (printedBy .escaped v).toList =
        Html.escapeChars (v.printed?.getD "").toList := by
      simp [printedBy]
    rw [String.toList_append, hprinted]
    exact hP.append _ _ h.output (hP.escaped _)

section Sources

variable (hq : ∀ ts, r.Source template ts → ∀ t ∈ ts, ∀ c ∈ t.characters, q c)
  (hraw : ∀ ts, r.Source template ts → .marker .unescaped ∉ ts) (hP : Html.Keeps q P)

include hq hraw hP

theorem Confined.next (h : w.Confined q P) (hnext : Next r w w') : w'.Confined q P where
  characters := by
    obtain heq | hsplice := stream_eq_or_splice hnext
    · rw [heq]
      exact h.characters
    · exact hsplice.characters hq h.characters
  escaped := by
    obtain heq | hsplice := stream_eq_or_splice hnext
    · rw [heq]
      exact h.escaped
    · intro hmem
      obtain hmem | ⟨file, text, hload, hmem⟩ := hsplice.marker_mem hmem
      · exact h.escaped hmem
      · exact hraw _ (.ofFile hload) hmem
  output := h.adds hP (adds_of_next hnext)

theorem confined_start : (start template context).Confined q P where
  characters := by
    rw [stream_start, Node.tokens_ofTokens]
    exact hq _ .ofTemplate
  escaped := by
    rw [stream_start, Node.tokens_ofTokens]
    exact hraw _ .ofTemplate
  output := hP.plain [] (by simp)

theorem confined_of_reaches (h : Reaches r (start template context) w) : w.Confined q P :=
  h.preserves (confined_start hq hraw hP) fun hu hnext => hu.next hq hraw hP hnext

/-- **The property holds of the outcome**, complete or up to an error. -/
theorem keeps_written : P (written (r.render template context)).toList := by
  obtain ⟨last, hreaches, hlast⟩ := exists_last r (start template context)
  have hconfined := confined_of_reaches hq hraw hP hreaches
  obtain ⟨-, hrun⟩ | ⟨f, hf, hrun⟩ := hlast
  · rw [Renderer.render, hrun]
    exact hconfined.output
  · rw [Renderer.render, hrun]
    exact hconfined.adds hP (adds_of_failure (spaced_rest_of_reaches hreaches) hf)

end Sources

end Walk

/-- **A context introduces no markup.** Where no tag prints a value as it is, the outcome has a
special character only if it has been written down, and without written ampersands each ampersand
begins a named entity. -/
theorem render_introduces_no_markup {r : Renderer} {template : String}
    (hraw : ∀ ts, r.Source template ts → .marker .unescaped ∉ ts) (context : Value) :
    (∀ c, Html.isSpecial c = true →
      (∀ ts, r.Source template ts → ∀ t ∈ ts, c ∉ t.characters) →
        c ∉ (written (r.render template context)).toList) ∧
      ((∀ ts, r.Source template ts → ∀ t ∈ ts, '&' ∉ t.characters) →
        Html.AmpersandsNamed (written (r.render template context)).toList) := by
  constructor
  · intro c hc hsource
    refine Walk.keeps_written (q := (· ≠ c)) ?_ hraw (Html.keeps_not_mem hc)
    rintro ts hts t ht d hd rfl
    exact hsource ts hts t ht hd
  · intro hsource
    refine Walk.keeps_written (q := (· ≠ '&')) ?_ hraw Html.keeps_ampersandsNamed
    rintro ts hts t ht d hd rfl
    exact hsource ts hts t ht hd

/-- A partial with a parameter, and a value full of markup: the quotes of the parameter are the only
special characters that have been written down. -/
theorem render_hostile_value :
    let r : Renderer := ⟨Store.loader ⟨[("p.mustache", "[\x7b\x7bk\x7d\x7d, \x7b\x7bv\x7d\x7d]")]⟩, {}⟩
    let template := "\x7b\x7bv\x7d\x7d: \x7b\x7b> p | k='a' \x7d\x7d"
    let context : Value := .object [("v", .string "<b class=\"x\">&amp;\n</b>")]
    '<' ∉ (written (r.render template context)).toList ∧
      '"' ∉ (written (r.render template context)).toList ∧
      Html.AmpersandsNamed (written (r.render template context)).toList := by
  intro r template context
  have hraw : ∀ ts, r.Source template ts → .marker .unescaped ∉ ts :=
    Store.forall_source (by decide +kernel) (by decide +kernel)
  have hsafe := render_introduces_no_markup hraw context
  refine ⟨hsafe.1 '<' (by decide) ?_, hsafe.1 '"' (by decide) ?_, hsafe.2 ?_⟩
  · exact Store.forall_source (by decide +kernel) (by decide +kernel)
  · exact Store.forall_source (by decide +kernel) (by decide +kernel)
  · exact Store.forall_source (by decide +kernel) (by decide +kernel)

end Mustache
