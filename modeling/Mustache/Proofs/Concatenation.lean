import Mustache.Proofs.Joining
import Mustache.Proofs.LoopIndex
import Mustache.Proofs.LoopPasses
import Mustache.Proofs.Prologue
import Mustache.Proofs.Retrace
/-!
# Templates one behind the other

A template that renders leaves nothing behind but what it has written: at its end the walk is in no
section, in the frame that it started with, and at index zero. So a template behind it renders as it
would alone.

* `scopes_of_reaches`: outside of all sections, a walk is in the context and at index zero, however
  many loops and partials it has come through.
* `opened_eq_nil_of_run`: a walk that is behind all of its tokens and comes to its end is in no
  section. Were it in a loop, going back over the same tokens would lead to the same place.
* `exists_last_of_place`: what a part does with one text behind it, it does with anything behind it.
  The tokens of a step are all from the part then (`Walk.Ahead`), since no tag starts with a text.
* `render_append`: a template behind one that renders writes what it writes alone, and fails as it
  fails alone.

A template that fails may do better with another one behind it, so the first one has to render.
-/

namespace Mustache

/-! ### The frame at the bottom -/

namespace Scopes

/-- The frame below all others. -/
def bottom (s : Scopes) : Value := s.below.getLast?.getD s.top

@[simp] theorem bottom_push (s : Scopes) (frame : Value) : (s.push frame).bottom = s.bottom := by
  simp [bottom, push, frames, List.getLast?_cons]

@[simp] theorem bottom_setIndex (s : Scopes) (index : Nat) :
    (s.setIndex index).bottom = s.bottom := rfl

@[simp] theorem bottom_drop (s : Scopes) : s.drop.bottom = s.bottom := by
  obtain ⟨top, below, index⟩ := s
  cases below <;> simp [bottom, drop, pop?, List.getLast?_cons]

end Scopes

namespace Walk

variable {r : Renderer} {w w' : Walk} {visible : Bool} {output : String}

theorem bottom_enter (w : Walk) (m : Marker) (name : String) (lookup : Lookup) :
    (w.enter m name lookup).scopes.bottom = w.scopes.bottom := by
  unfold enter
  split <;> simp

theorem bottom_leave (w : Walk) (region : Region) (outer : List OpenSection) :
    (w.leave region outer).scopes.bottom = w.scopes.bottom := by
  cases region with
  | once outerVisible framed => cases framed <;> simp [leave]
  | loop outerPassed pass remaining => simp [leave]

/-- **No step touches the frame at the bottom.** -/
theorem bottom_next (h : Next r w w') : w'.scopes.bottom = w.scopes.bottom := by
  cases move_of_next h with
  | @text s => exact congrArg Scopes.bottom (scopes_emit w s)
  | @print m name text => exact congrArg Scopes.bottom (scopes_emit w.skipTag text)
  | comment htag => rfl
  | enter hm htag hname hlookup => exact bottom_enter w.skipTag _ _ _
  | splice hm htag hreference hnodes => rfl
  | nextPass hend ho => simp [nextPass]
  | close htag ho hr => exact bottom_leave w _ _

/-- **Outside of all sections, a walk is where it started**, as far as frames, visibility and index
go. -/
theorem scopes_of_reaches {template : String} {context : Value}
    (h : Reaches r (start template context) w) (ho : w.opened = []) :
    w.scopes = .ofRoot context ∧ w.visible = true := by
  obtain ⟨hframes, houtside⟩ := nested_of_reaches h
  obtain ⟨marks, hmarks⟩ := exists_history h
  have hbottom : w.scopes.bottom = context :=
    h.preserves (P := fun u => u.scopes.bottom = context) rfl fun hu hnext =>
      (bottom_next hnext).trans hu
  rw [ho] at hframes houtside
  have hbelow : w.scopes.below = [] := List.length_eq_zero_iff.mp hframes
  -- No loop is running, so there is no mark either.
  have hindex : w.scopes.index = 0 := by
    have hpasses : w.passes = [] := by
      rw [passes, ho]
      rfl
    rw [hmarks.marked.index, hpasses]
    rfl
  have htop : w.scopes.top = context := by
    rw [← hbottom, Scopes.bottom, hbelow]
    rfl
  refine ⟨?_, houtside⟩
  rw [Scopes.ofRoot, ← htop, ← hbelow, ← hindex]

/-! ### Behind all tokens -/

/-- **A walk cannot get out of a section without its end tag.** -/
theorem opened_eq_nil_of_run (htraced : w.Traced)
    (hincludes : ∀ node ∈ w.behind, node.token.includes = false) (hrest : w.tape.rest = [])
    (hrun : w.run r = .ok output) : w.opened = [] := by
  obtain ⟨last, hreaches, hend⟩ := exists_of_run_eq_ok hrun
  obtain ⟨hlastRest, hlastOpened⟩ := of_step_end hend
  have hstream : w.stream = w.behind.reverse := by rw [stream, hrest, List.append_nil]
  -- Without partials ahead, the tokens of the walk stay what they are.
  have hsame : last.stream = w.stream := by
    refine hreaches.stream (P := fun nodes => nodes = w.stream) rfl fun {a b} ha hsplice => ?_
    obtain ⟨node, hnode, htrue⟩ := hsplice.exists_includes
    rw [ha, hstream, List.mem_reverse] at hnode
    simp [hincludes node hnode] at htrue
  -- All of them have been passed in both walks, so both are in the same sections.
  have hlast := (hreaches.preserves htraced Traced.next).behind []
  have hfirst := htraced.behind []
  have hlastStream : last.stream = last.behind.reverse := by
    rw [stream, hlastRest, List.append_nil]
  rw [← hlastStream, hsame, hstream, hfirst, hlastOpened] at hlast
  cases ho : w.opened with
  | nil => rfl
  | cons opening outer =>
    rw [ho] at hlast
    simp [names, Item.scan] at hlast

end Walk

/-! ### Up to the last text -/

namespace Surroundings

open Walk

variable {r : Renderer} {w : Walk} {visible : Bool} {m : Marker}
  {name text output : String} {d d' : Nat} {tail : List Node}

/-- With nothing around it but tokens behind it, a part keeps its frames, its sections and what it
writes. -/
def ofTail (tail : List Node) : Surroundings := ⟨tail, [], "", []⟩

theorem place_ofTail (tail : List Node) (w : Walk) :
    (ofTail tail).place w = { w with tape := ⟨w.tape.passed, w.tape.rest ++ tail⟩ } := by
  simp [place, under, ofTail]

/-- With one text behind the part, a tag does not reach over the end of the part. -/
theorem atTag_of_place (hrest : w.tape.rest ≠ [])
    (h : ((ofTail [⟨.text text, d'⟩]).place w).AtTag m name d tail) :
    ∃ tail', w.AtTag m name d tail' := by
  obtain ⟨d₂, d₃, h⟩ := h
  rw [place_ofTail] at h
  match hnodes : w.tape.rest, hrest with
  | [_], _ => simp [hnodes] at h
  | [_, _], _ => simp [hnodes] at h
  | _ :: _ :: _ :: tail', _ =>
    rw [hnodes] at h
    simp only [List.cons_append, List.cons.injEq] at h
    obtain ⟨rfl, rfl, rfl, -⟩ := h
    exact ⟨tail', d₂, d₃, hnodes⟩

/-- So what a step is over is from the part alone. -/
theorem ahead_of_place (hrest : w.tape.rest ≠ [])
    (h : ((ofTail [⟨.text text, d'⟩]).place w).Ahead) : w.Ahead := by
  rw [place_ofTail] at h
  obtain ⟨node, rest, hnodes⟩ := List.exists_cons_of_ne_nil hrest
  cases h with
  | text htext =>
    simp only [hnodes, List.cons_append, List.cons.injEq] at htext
    obtain ⟨rfl, -⟩ := htext
    exact .text hnodes
  | tag htag hm =>
    rw [← place_ofTail] at htag
    obtain ⟨tail', htag'⟩ := atTag_of_place hrest htag
    exact .tag htag' hm
  | nextPass hend ho =>
    simp only [hnodes, List.cons_append, List.cons.injEq] at hend
    obtain ⟨rfl, -⟩ := hend
    exact .nextPass hnodes ho

/-- **Up to the last text.** If a part comes to its end with one text behind it, then it comes to its
end in all surroundings. -/
theorem exists_last_of_place (hn : w.Nested visible)
    (hrun : ((ofTail [⟨.text text, d⟩]).place w).run r = .ok output) :
    ∃ last, last.tape.rest = [] ∧ ∀ c : Surroundings, Reaches r (c.place w) (c.place last) := by
  induction w using run.induct r with
  | case1 w next hnext ih =>
    by_cases hrest : w.tape.rest = []
    · exact ⟨w, hrest, fun c => .refl _⟩
    · rw [run_of_next (next_place _ hn hrest hnext)] at hrun
      obtain ⟨last, hlast, hreaches⟩ := ih (hn.next hnext) hrun
      exact ⟨last, hlast, fun c => .head (c.next_place hn hrest hnext) (hreaches c)⟩
  | case2 w hend => exact ⟨w, (of_step_end hend).1, fun c => .refl _⟩
  | case3 w f hf =>
    by_cases hrest : w.tape.rest = []
    · exact ⟨w, hrest, fun c => .refl _⟩
    -- A failure of the part would be one of the whole.
    · have hplaced : ((ofTail [⟨.text text, d⟩]).place w).tape.rest ≠ [] := by
        simp [place_ofTail]
      cases hstep : ((ofTail [⟨.text text, d⟩]).place w).step r with
      | error f' => simp [run_of_failure hstep] at hrun
      | ok next? =>
        cases next? with
        | none => exact absurd (of_step_end hstep).1 hplaced
        | some next =>
          have hahead := ahead_of_place hrest (ahead_of_next hplaced hstep)
          rw [step_place _ hn hahead, hf] at hstep
          simp at hstep

end Surroundings

/-! ### Two templates -/

namespace Walk

variable {r : Renderer} {w : Walk} {context : Value} {text : String} {d : Nat} {behind : List Token}

/-- Behind a text outside of all sections, a walk goes on as a render does behind its first text. -/
theorem run_of_text (hrest : w.tape.rest = ⟨.text text, d⟩ :: Node.ofTokens 0 behind)
    (hspaced : Spaced behind) (ho : w.opened = []) (hscopes : w.scopes = .ofRoot context)
    (hvisible : w.visible = true) :
    w.run r = (w.output ++ text ++ ·) <$>
      ((along (Node.ofTokens 0 behind) context 0).run r).mapError (·.after (w.output ++ text)) := by
  have hstream : Spaced (Node.tokens (along (Node.ofTokens 0 behind) context 0).stream) := by
    rwa [← Node.tokens_ofTokens 0 behind] at hspaced
  -- The text, and all that has been passed before it, becomes the prologue of the rest.
  have hplace : (w.emit text).advance =
      (⟨⟨.text text, d⟩ :: w.tape.passed, w.output ++ text⟩ : Prologue).place
        (along (Node.ofTokens 0 behind) context 0) := by
    simp [emit, hvisible, advance, Tape.advance, hrest, hscopes, ho, Prologue.place,
      Prologue.extend, Prologue.passedWith, Prologue.openedWith, along, Scopes.ofRoot]
  rw [run_of_next (step_text hrest), hplace, Prologue.run_place _ hstream]
  rfl

/-- At its last text, a render that succeeds is outside of all sections. -/
theorem outside_of_last_text {template output : String}
    (h : Reaches r (start template context) w) (hrest : w.tape.rest = [⟨.text text, d⟩])
    (hrun : r.render template context = .ok output) :
    w.opened = [] ∧ w.scopes = .ofRoot context ∧ w.visible = true ∧ output = w.output ++ text := by
  have hnext : Next r w (w.emit text).advance := step_text hrest
  have hpast : Reaches r (start template context) (w.emit text).advance := h.tail hnext
  have hemit : (w.emit text).tape.rest = [⟨.text text, d⟩] := by rw [tape_emit, hrest]
  have hrest' : (w.emit text).advance.tape.rest = [] := Tape.rest_advance hemit
  have htraced := hpast.preserves (traced_start template context) Traced.next
  have hincludes := hpast.preserves (P := fun u => ∀ node ∈ u.behind, node.token.includes = false)
    (by simp [behind, start, passedBehind]) behind_includes_next
  rw [Renderer.render, hpast.run_eq] at hrun
  -- Past the text there is nothing ahead, and the walk is in the sections that it was in before.
  have hopened' := opened_eq_nil_of_run htraced hincludes hrest' hrun
  have hopened : w.opened = [] := (opened_emit w text).symm.trans hopened'
  obtain ⟨hscopes, hvisible⟩ := scopes_of_reaches h hopened
  refine ⟨hopened, hscopes, hvisible, ?_⟩
  rw [run_of_end (step_end hrest' hopened'), Except.ok.injEq] at hrun
  rw [← hrun]
  simp [emit, hvisible, advance]

/-- **A template that renders leaves nothing behind but what it has written**, and it does so with any
tokens in place of its last text. -/
theorem exists_of_render {template output : String} {front : List Token}
    (htokens : tokenize template = front ++ [.text text])
    (hrun : r.render template context = .ok output) :
    ∀ tail : List Node, ∃ w : Walk, Reaches r (along (Node.ofTokens 0 front ++ tail) context 0) w ∧
      w.tape.rest = tail ∧ w.opened = [] ∧ w.scopes = .ofRoot context ∧ w.visible = true ∧
        output = w.output ++ text := by
  have hplace (tail : List Node) : along (Node.ofTokens 0 front ++ tail) context 0 =
      (Surroundings.ofTail tail).place (along (Node.ofTokens 0 front) context 0) := by
    rw [Surroundings.place_ofTail]
    rfl
  have hstart : start template context =
      along (Node.ofTokens 0 front ++ [⟨.text text, 0⟩]) context 0 := by
    rw [start, htokens, Node.ofTokens_append]
    rfl
  have hpart : ((Surroundings.ofTail [⟨.text text, 0⟩]).place
      (along (Node.ofTokens 0 front) context 0)).run r = .ok output := by
    rw [← hplace, ← hstart]
    exact hrun
  obtain ⟨last, hrest, hreaches⟩ :=
    Surroundings.exists_last_of_place (nested_along (Node.ofTokens 0 front) context 0) hpart
  have hlast (tail : List Node) : Reaches r (along (Node.ofTokens 0 front ++ tail) context 0)
      { last with tape := ⟨last.tape.passed, tail⟩ } := by
    have hplaced := hreaches (Surroundings.ofTail tail)
    rwa [← hplace, Surroundings.place_ofTail, hrest, List.nil_append] at hplaced
  -- With its own last text the part is the template, whose end is known.
  have hend := hlast [⟨.text text, 0⟩]
  rw [← hstart] at hend
  have houtside := outside_of_last_text hend rfl hrun
  intro tail
  exact ⟨_, hlast tail, rfl, houtside⟩

end Walk

/-- **Rendering goes along with concatenation.** Behind a template that renders, a template writes
what it writes alone, and fails as it fails alone. The markers on both sides and the braces where the
templates meet must be such that cutting keeps the templates apart. -/
theorem render_append {r : Renderer} {template₁ template₂ output : String} {context : Value}
    (hlast : ∀ m ∈ (Token.markers (tokenize template₁)).getLast?, m.isClose)
    (hfirst : ∀ m ∈ (Token.markers (tokenize template₂)).head?, ¬ m.isClose)
    (hmeet : KeepsApart template₁.toList template₂.toList)
    (hrun : r.render template₁ context = .ok output) :
    r.render (template₁ ++ template₂) context =
      (output ++ ·) <$> (r.render template₂ context).mapError (·.after output) := by
  obtain ⟨front, behind, text, text', htokens₁, htokens₂, htokens⟩ :=
    exists_tokens_append hlast hfirst hmeet
  have hspaced : Spaced behind := by
    have htemplate := spaced_tokenize template₂
    rw [htokens₂] at htemplate
    exact htemplate.tail
  obtain ⟨w, hreaches, hrest, ho, hscopes, hvisible, rfl⟩ := Walk.exists_of_render htokens₁ hrun
    (⟨.text (text ++ text'), 0⟩ :: Node.ofTokens 0 behind)
  -- Alone, the second template goes on behind its first text; here, behind both texts in one.
  have halone : r.render template₂ context = (text' ++ ·) <$>
      ((Walk.along (Node.ofTokens 0 behind) context 0).run r).mapError (·.after text') := by
    have hrest : (Walk.start template₂ context).tape.rest =
        ⟨.text text', 0⟩ :: Node.ofTokens 0 behind := by
      rw [Walk.start, htokens₂]
      rfl
    have hrun₂ := Walk.run_of_text (r := r) hrest hspaced rfl rfl rfl
    have houtput : (Walk.start template₂ context).output = "" := rfl
    rwa [houtput, String.empty_append] at hrun₂
  have hjoined : Walk.start (template₁ ++ template₂) context =
      .along (Node.ofTokens 0 front ++ ⟨.text (text ++ text'), 0⟩ :: Node.ofTokens 0 behind) context
        0 := by
    rw [Walk.start, htokens, Node.ofTokens_append]
    rfl
  rw [Renderer.render, hjoined, hreaches.run_eq, Walk.run_of_text hrest hspaced ho hscopes hvisible,
    halone]
  cases (Walk.along (Node.ofTokens 0 behind) context 0).run r with
  | error f => simp [RenderFailure.after, String.append_assoc]
  | ok rest => simp [String.append_assoc]

/-- A loop that includes a partial, and behind it a template that prints the index and then closes a
section that is not open. -/
theorem render_behind_loop :
    let r : Renderer := ⟨Store.loader ⟨[("p.mustache", "\x7b\x7b.\x7d\x7d")]⟩, {}⟩
    let loop := "\x7b\x7b#xs\x7d\x7d\x7b\x7b>p\x7d\x7d\x7b\x7b/xs\x7d\x7d;"
    let template := " \x7b\x7b@index\x7d\x7d\x7b\x7b/xs\x7d\x7d"
    let context : Value := .object [("xs", .array [.number (.int 1), .number (.int 2)])]
    r.render (loop ++ template) context = .error ⟨"12; 0", .unexpected .sectionClose⟩ := by
  intro r loop template context
  have hlast : ∀ m ∈ (Token.markers (tokenize loop)).getLast?, m.isClose := by decide +kernel
  have hfirst : ∀ m ∈ (Token.markers (tokenize template)).head?, ¬ m.isClose := by decide +kernel
  have hmeet : KeepsApart loop.toList template.toList := by decide +kernel
  have hloop : r.render loop context = .ok "12;" :=
    Walk.run_eq_of_after (n := 16) (by decide +kernel)
  -- The index is zero, and the section is not open, although the loop has just been there.
  have htemplate : r.render template context = .error ⟨" 0", .unexpected .sectionClose⟩ :=
    Walk.run_eq_error_of_after (n := 3) (by decide +kernel)
  have happend := render_append hlast hfirst hmeet hloop
  rw [htemplate] at happend
  exact happend

end Mustache
