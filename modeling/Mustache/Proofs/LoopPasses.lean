import Mustache.Proofs.StaticWalk
import Mustache.Proofs.Surroundings
/-!
# What the passes of a loop walk over

The first pass of a loop walks over the tokens of the body. Each partial tag that it meets is
replaced on the way, so the passes that follow walk over other tokens: those that the first pass has
passed. They hold no partial tag any more, and all passes after the first walk over the same ones.

* `eachPass r nodes elements i` is what the elements of an array write one after the other, each as
  the only frame of a walk over `nodes`, with its position as index.
* `LoopSite.run_around`: behind a pass that is over, the other elements write what they write over
  the tokens that this pass has left.
* `render_loop_eq_ok`: a loop over a body that is a sentence writes what the first element writes
  over the body and the others over what the first pass has left, which is the body with the partials
  that the first pass has included (`Walk.IncludedFrom`). Where no tag asks a variable for its file,
  that is what each element writes over the body itself.

A tag that asks a variable for its file is not asked again either: every pass includes the file that
the first element names (`render_loopOverFiles`).
-/

namespace Mustache

/-- What some elements write one after the other, each as the only frame of a walk over the same
tokens, with its position as index. -/
def eachPass (r : Renderer) (nodes : List Node) : List Value → Nat → Except RenderFailure String
  | [], _ => .ok ""
  | v :: vs, i => do
    let text ← (Walk.along nodes v i).run r
    let more ← (eachPass r nodes vs (i + 1)).mapError (·.after text)
    return text ++ more

namespace Walk

variable {r : Renderer} {w : Walk}

/-- The walk has come to its end and to the frame it started with. -/
structure IsOver (w : Walk) : Prop where
  /-- No token is ahead. -/
  rest : w.tape.rest = []
  /-- No section is open. -/
  opened : w.opened = []
  /-- There is one frame. -/
  below : w.scopes.below = []
  /-- Text is written. -/
  visible : w.visible = true

/-- The tokens that a walk has left behind it, in their order. -/
def left (w : Walk) : List Node := w.tape.passed.reverse

theorem balanced_along {nodes : List Node} (h : Reads 0 (Node.tokens nodes) 0) (v : Value)
    (i : Nat) : (along nodes v i).Balanced :=
  ⟨h, .nil 0⟩

theorem nested_along (nodes : List Node) (v : Value) (i : Nat) : (along nodes v i).Nested true :=
  ⟨rfl, rfl⟩

theorem IsOver.stream (h : w.IsOver) : w.stream = w.left := by
  rw [Walk.stream, behind, h.opened, h.rest, List.append_nil]
  rfl

/-- A walk without partial tags ahead leaves the tokens as they are. -/
theorem eq_of_splices {a b : List Node} (h : Relation.ReflTransGen (Splice r) a b)
    (ha : ∀ node ∈ a, node.token.includes = false) : b = a := by
  obtain rfl | ⟨c, hsplice, -⟩ := Relation.ReflTransGen.cases_head h
  · rfl
  · obtain ⟨node, hnode, hincludes⟩ := hsplice.exists_includes
    simp [ha node hnode] at hincludes

section Finish

variable {nodes : List Node} {v : Value} {i : Nat} {last : Walk}
  (hlast : (along nodes v i).finish r = .ok last)

include hlast

/-- What has been left comes from what was ahead by the inclusions on the way. -/
theorem inclusions_of_finish (hover : last.IsOver) :
    Relation.ReflTransGen (IncludedFrom r (along nodes v i)) nodes last.left := by
  have hstream := (finish_eq_ok hlast).1.inclusions
  rwa [hover.stream] at hstream

theorem splices_of_finish (hover : last.IsOver) :
    Relation.ReflTransGen (Splice r) nodes last.left :=
  (inclusions_of_finish hlast hover).lift id fun _ _ => IncludedFrom.splice

/-- **The end of a walk over a sentence.** The walk is over, and it has left a sentence without
partial tags. -/
theorem isOver_of_finish (hr : r.LoadsSentences) (h : Reads 0 (Node.tokens nodes) 0) :
    last.IsOver ∧ Reads 0 (Node.tokens last.left) 0 ∧
      ∀ node ∈ last.left, node.token.includes = false := by
  obtain ⟨hreaches, hend⟩ := finish_eq_ok hlast
  obtain ⟨hrest, hopened⟩ := of_step_end hend
  obtain ⟨hbalanced, hnested, hbehind⟩ := hreaches.preserves
    (P := fun u => u.Balanced ∧ u.Nested true ∧ ∀ node ∈ u.behind, node.token.includes = false)
    ⟨balanced_along h v i, nested_along nodes v i, by simp [behind, along, passedBehind]⟩
    fun ⟨hb, hn, hp⟩ hnext => ⟨hb.next hr hnext, hn.next hnext, behind_includes_next hp hnext⟩
  -- With no section open, the invariants speak of the whole walk: all its tokens, its only frame.
  have hpassed := hbalanced.passed
  have hframes := hnested.frames
  have houtside := hnested.outside
  rw [hopened] at hpassed hframes houtside
  refine ⟨⟨hrest, hopened, List.length_eq_zero_iff.mp hframes, houtside⟩, hpassed, ?_⟩
  intro node hnode
  refine hbehind node ?_
  rw [behind, hopened]
  exact List.mem_reverse.mp hnode

end Finish

end Walk

/-! ### The place of a loop -/

/-- A loop in a template, and what is around it. -/
structure LoopSite where
  /-- The name of the section. -/
  name : String
  /-- The depth of its end tag. -/
  depth : Nat
  /-- The tokens behind its end tag. -/
  tail : List Node
  /-- The tokens passed before its body. -/
  outerPassed : List Node
  /-- The frames around it. -/
  scopes : Scopes
  /-- The sections that are open around it. -/
  outer : List OpenSection

namespace LoopSite

open Walk

variable (s : LoopSite) {r : Renderer} {last : Walk} {v : Value} {vs : List Value} {i : Nat}
  {output : String}

/-- The end tag. -/
def close : List Node := Node.ofTokens s.depth (Marker.sectionClose.tag s.name)

/-- What is around a pass, with the elements that are still to come. -/
def around (output : String) (pass : Nat) (remaining : List Value) : Surroundings where
  tail := s.close ++ s.tail
  below := s.scopes.frames
  output := output
  opened := ⟨s.name, .loop s.outerPassed pass remaining⟩ :: s.outer

/-- The walk behind the loop. -/
def behind (nodes : List Node) (output : String) : Walk where
  tape := ⟨s.close.reverse ++ (nodes.reverse ++ s.outerPassed), s.tail⟩
  scopes := s.scopes.setIndex 0
  visible := true
  output := output
  opened := s.outer

theorem atTag_close (hlast : last.IsOver) (pass : Nat) (remaining : List Value) :
    ((s.around output pass remaining).place last).AtTag .sectionClose s.name s.depth s.tail := by
  refine ⟨s.depth, s.depth, ?_⟩
  rw [Surroundings.place, hlast.rest]
  rfl

theorem opened_place (hlast : last.IsOver) (pass : Nat) (remaining : List Value) :
    ((s.around output pass remaining).place last).opened =
      ⟨s.name, .loop s.outerPassed pass remaining⟩ :: s.outer := by
  rw [Surroundings.place, hlast.opened]
  rfl

/-- Below the frame of a pass are the frames around the loop. -/
theorem drop_under (hlast : last.IsOver) (pass : Nat) (remaining : List Value) :
    ((s.around output pass remaining).under last.scopes).drop =
      s.scopes.setIndex last.scopes.index := by
  rw [Surroundings.under, hlast.below]
  rfl

/-- A pass that is over is followed by the next one, which starts on what the pass has left. -/
theorem run_around_cons (hlast : last.IsOver) :
    ((s.around output i (v :: vs)).place last).run r =
      ((s.around (output ++ last.output) (i + 1) vs).place (along last.left v (i + 1))).run r := by
  rw [run_of_next (step_nextPass (s.atTag_close hlast i (v :: vs)).atEnd
    (s.opened_place hlast i (v :: vs)))]
  congr 1
  simp only [nextPass, Surroundings.place, s.drop_under hlast, hlast.rest, hlast.visible]
  simp [around, along, left, Surroundings.under, Scopes.push, Scopes.setIndex, Scopes.frames]

/-- The last pass is followed by what is behind the loop. -/
theorem run_around_nil (hlast : last.IsOver) :
    ((s.around output i []).place last).run r =
      (s.behind last.left (output ++ last.output)).run r := by
  rw [run_of_step (step_close (s.atTag_close hlast i []) (s.opened_place hlast i []) rfl),
    checkEndName_self, attempt_ok, ok_bind, pure_eq_ok, ok_bind]
  congr 1
  simp only [leave, Surroundings.place, s.drop_under hlast, hlast.rest, hlast.visible, skipTag,
    advance]
  simp [behind, around, left, close, Tape.advance, Marker.tag, Scopes.setIndex]

/-- **The passes behind a pass that is over.** -/
theorem run_around (hr : r.LoadsSentences) (hlast : last.IsOver)
    (hleft : Reads 0 (Node.tokens last.left) 0)
    (hpartial : ∀ node ∈ last.left, node.token.includes = false) :
    ((s.around output i vs).place last).run r = (do
      let more ← (eachPass r last.left vs (i + 1)).mapError (·.after (output ++ last.output))
      (s.behind last.left (output ++ last.output ++ more)).run r) := by
  induction vs generalizing last output i with
  | nil =>
    rw [s.run_around_nil hlast, eachPass, mapError_ok, ok_bind, String.append_empty]
  | cons v vs ih =>
    have hbalanced := balanced_along hleft v (i + 1)
    rw [s.run_around_cons hlast,
      Surroundings.run_place _ hr hbalanced (nested_along last.left v (i + 1)), eachPass,
      run_eq_finish]
    cases hnext : (along last.left v (i + 1)).finish r with
    | error f => rfl
    | ok next =>
      obtain ⟨hover, hreads, hincludes⟩ := isOver_of_finish hnext hr hleft
      -- There is no partial tag left, so this pass leaves what it has found.
      have hsame : next.left = last.left := eq_of_splices (splices_of_finish hnext hover) hpartial
      rw [Surroundings.lift_ok, ok_bind, ih hover hreads hincludes, hsame, map_ok, ok_bind]
      cases eachPass r last.left vs (i + 1 + 1) with
      | error f => simp [RenderFailure.after, String.append_assoc]
      | ok more => simp [String.append_assoc]

end LoopSite

/-! ### Loops -/

namespace Walk

variable {r : Renderer} {w : Walk} {name : String} {d : Nat} {body tail : List Node} {v : Value}
  {vs : List Value}

/-- The place of a loop that the walk stands in front of. -/
def site (w : Walk) (name : String) (depth : Nat) (tail : List Node) : LoopSite where
  name := name
  depth := depth
  tail := tail
  outerPassed := w.skipTag.tape.passed
  scopes := w.scopes
  outer := w.opened

/-- The first pass starts in front of the body. -/
theorem enter_eq_place
    (htag : w.AtTag .sectionOpen name d (body ++ ((w.site name d tail).close ++ tail)))
    (hvisible : w.visible = true) :
    w.skipTag.enter .sectionOpen name (.found (.array (v :: vs))) =
      ((w.site name d tail).around w.output 0 vs).place (along body v 0) := by
  have hrest := htag.rest_skipTag
  have hopened : w.skipTag.opened = w.opened := rfl
  have hscopes : w.skipTag.scopes = w.scopes := rfl
  have hvisible' : w.skipTag.visible = true := hvisible
  have houtput : w.skipTag.output = w.output := rfl
  simp only [enter, hrest, hopened, hscopes, hvisible', houtput]
  simp [site, LoopSite.around, Surroundings.place, Surroundings.under, along, Scopes.push,
    Scopes.setIndex]

/-- **A loop over a sentence.** The first pass is a walk over the body, and the others are walks
over what the first has left. -/
theorem run_loop (hr : r.LoadsSentences)
    (htag : w.AtTag .sectionOpen name d (body ++ ((w.site name d tail).close ++ tail)))
    (hbody : Reads 0 (Node.tokens body) 0) (hvisible : w.visible = true)
    (hname : checkTagName name = .ok ())
    (hlookup : w.scopes.resolve name = .ok (.found (.array (v :: vs)))) :
    w.run r = (do
      let first ← ((along body v 0).finish r).mapError (·.after w.output)
      let more ← (eachPass r first.left vs 1).mapError (·.after (w.output ++ first.output))
      ((w.site name d tail).behind first.left (w.output ++ first.output ++ more)).run r) := by
  rw [run_of_step (step_section rfl htag), hname, attempt_ok, ok_bind, hlookup, attempt_ok, ok_bind,
    pure_eq_ok, ok_bind, enter_eq_place htag hvisible,
    Surroundings.run_place _ hr (balanced_along hbody v 0) (nested_along body v 0)]
  cases hfirst : (along body v 0).finish r with
  | error f => rfl
  | ok first =>
    obtain ⟨hover, hreads, hincludes⟩ := isOver_of_finish hfirst hr hbody
    rw [Surroundings.lift_ok, ok_bind, mapError_ok, ok_bind,
      (w.site name d tail).run_around hr hover hreads hincludes]

end Walk

/-! ### A template that is one loop -/

section Template

variable {r : Renderer} {template name : String} {context v : Value} {body : List Token}
  {vs : List Value}

/-- The tokens of a section that stands alone. -/
def loopTokens (name : String) (body : List Token) : List Token :=
  .text "" :: (Marker.sectionOpen.tag name ++
    (body ++ (Marker.sectionClose.tag name ++ [.text ""])))

variable (context) in
theorem rest_start (h : tokenize template = loopTokens name body) :
    (Walk.start template context).tape.rest = ⟨.text "", 0⟩ :: Node.ofTokens 0
      (Marker.sectionOpen.tag name ++ (body ++ (Marker.sectionClose.tag name ++ [.text ""]))) := by
  simp only [Walk.start, h]
  rfl

/-- The text in front of the section writes nothing. -/
theorem render_eq_run_advance (h : tokenize template = loopTokens name body) :
    r.render template context = (Walk.start template context).advance.run r := by
  rw [Renderer.render, Walk.run_of_next (Walk.step_text (rest_start context h)), Walk.emit_empty]

/-- Behind that text the walk stands in front of the section. -/
theorem atTag_advance (h : tokenize template = loopTokens name body) :
    let w := (Walk.start template context).advance
    w.AtTag .sectionOpen name 0
      (Node.ofTokens 0 body ++ ((w.site name 0 [⟨.text "", 0⟩]).close ++ [⟨.text "", 0⟩])) := by
  have hrest := Tape.rest_advance (rest_start context h)
  refine ⟨0, 0, ?_⟩
  simp only [Node.ofTokens_append] at hrest
  exact hrest

/-- A section that is walked has a name that a tag may have. -/
theorem checkTagName_of_render {output : String} (h : tokenize template = loopTokens name body)
    (houtput : r.render template context = .ok output) : checkTagName name = .ok () := by
  cases hname : checkTagName name with
  | ok u => rfl
  | error e =>
    rw [render_eq_run_advance h, Walk.run_of_step (Walk.step_section rfl (atTag_advance h)),
      hname] at houtput
    simp at houtput

/-- The body of a section in a template has a text behind each marker. -/
theorem spaced_body (h : tokenize template = loopTokens name body) : Spaced body := by
  have hspaced := spaced_tokenize template
  rw [h, loopTokens] at hspaced
  exact (hspaced.tail.right : Spaced (body ++ _)).left

/-- **A template that is one loop.** -/
theorem render_loop (hr : r.LoadsSentences) (htokens : tokenize template = loopTokens name body)
    (hbody : Sentence body) (hname : checkTagName name = .ok ())
    (harray : (Scopes.ofRoot context).resolve name = .ok (.found (.array (v :: vs)))) :
    r.render template context = (do
      let first ← (Walk.along (Node.ofTokens 0 body) v 0).finish r
      let more ← (eachPass r first.left vs 1).mapError (·.after first.output)
      return first.output ++ more) := by
  have hreads : Reads 0 (Node.tokens (Node.ofTokens 0 body)) 0 := by
    rw [Node.tokens_ofTokens]
    exact hbody.reads 0
  rw [render_eq_run_advance htokens,
    Walk.run_loop hr (atTag_advance htokens) hreads rfl hname harray]
  have houtput : (Walk.start template context).advance.output = "" := rfl
  -- Behind the loop there is an empty text, and then the template ends.
  have hbehind (nodes : List Node) (text : String) :
      ((((Walk.start template context).advance.site name 0 [⟨.text "", 0⟩]).behind nodes
        text).run r = .ok text) := by
    rw [Walk.run_of_next (Walk.step_text rfl), Walk.emit_empty,
      Walk.run_of_end (Walk.step_end rfl rfl)]
    rfl
  simp only [houtput, hbehind, String.empty_append, RenderFailure.after]
  cases (Walk.along (Node.ofTokens 0 body) v 0).finish r with
  | error f => rfl
  | ok first => rfl

end Template

/-! ### Where no tag asks a variable -/

section Direct

variable {r : Renderer} {a b : List Node}

/-- Splices of partials that ask no variable change neither what can be expanded nor how. -/
theorem expandNodes_of_splices (hr : r.IsDirect) (h : Relation.ReflTransGen (Splice r) a b)
    (hspaced : Spaced (Node.tokens a)) (hdirect : .marker .partialByVariable ∉ Node.tokens a) :
    Spaced (Node.tokens b) ∧ .marker .partialByVariable ∉ Node.tokens b ∧
      r.expandNodes b = r.expandNodes a := by
  induction h with
  | refl => exact ⟨hspaced, hdirect, rfl⟩
  | tail _ hsplice ih =>
    obtain ⟨hspaced', hdirect', hexpand⟩ := ih
    exact ⟨hsplice.spaced hspaced', hsplice.direct hr hdirect',
      (hsplice.expandNodes_eq hspaced' hdirect').trans hexpand⟩

theorem Walk.expandable_along {nodes : List Node} (hspaced : Spaced (Node.tokens nodes))
    (hdirect : .marker .partialByVariable ∉ Node.tokens nodes) (v : Value) (i : Nat) :
    (along nodes v i).Expandable :=
  ⟨hspaced, hdirect, by simp [Walk.behind, along, passedBehind]⟩

/-- **Walks over tokens with the same expansion write the same.** -/
theorem Walk.run_along_of_splices (hr : r.IsDirect) (h : Relation.ReflTransGen (Splice r) a b)
    (hspaced : Spaced (Node.tokens a)) (hdirect : .marker .partialByVariable ∉ Node.tokens a)
    (v : Value) (i : Nat) : (along b v i).run r = (along a v i).run r := by
  obtain ⟨hspaced', hdirect', hexpand⟩ := expandNodes_of_splices hr h hspaced hdirect
  have hstream (nodes : List Node) : (along nodes v i).stream = nodes := rfl
  rw [run_eq_runTo hr (expandable_along hspaced hdirect v i),
    run_eq_runTo hr (expandable_along hspaced' hdirect' v i), hstream, hstream, hexpand]
  simp only [expanded, along, Renderer.ahead, hexpand]

theorem eachPass_of_splices (hr : r.IsDirect) (h : Relation.ReflTransGen (Splice r) a b)
    (hspaced : Spaced (Node.tokens a)) (hdirect : .marker .partialByVariable ∉ Node.tokens a)
    (vs : List Value) (i : Nat) : eachPass r b vs i = eachPass r a vs i := by
  induction vs generalizing i with
  | nil => rfl
  | cons v vs ih => rw [eachPass, eachPass, Walk.run_along_of_splices hr h hspaced hdirect, ih]

end Direct

/-- **What a loop writes.** The first element writes what a walk over the body writes. The others
write what walks over the tokens that the first pass has left write: those of the body, with the
partials in place of their tags, each of them the one that its tag named when the first pass came to
it. If neither the body nor a partial has a tag that asks a variable for its file, each element
writes what a walk over the body itself writes. -/
theorem render_loop_eq_ok {r : Renderer} {template name : String} {context v : Value}
    {body : List Token} {vs : List Value} {output : String} (hr : r.LoadsSentences)
    (htokens : tokenize template = loopTokens name body) (hbody : Sentence body)
    (harray : (Scopes.ofRoot context).resolve name = .ok (.found (.array (v :: vs))))
    (houtput : r.render template context = .ok output) :
    ∃ first rest, (Walk.along (Node.ofTokens 0 body) v 0).finish r = .ok first ∧
      eachPass r first.left vs 1 = .ok rest ∧ output = first.output ++ rest ∧
      Relation.ReflTransGen (Walk.IncludedFrom r (Walk.along (Node.ofTokens 0 body) v 0))
        (Node.ofTokens 0 body) first.left ∧
      (∀ node ∈ first.left, node.token.includes = false) ∧
      (r.IsDirect → .marker .partialByVariable ∉ body →
        eachPass r (Node.ofTokens 0 body) (v :: vs) 0 = .ok output) := by
  have hreads : Reads 0 (Node.tokens (Node.ofTokens 0 body)) 0 := by
    rw [Node.tokens_ofTokens]
    exact hbody.reads 0
  rw [render_loop hr htokens hbody (checkTagName_of_render htokens houtput) harray] at houtput
  simp only [Walk.bind_eq_ok_iff] at houtput
  obtain ⟨first, hfirst, rest, hrest, houtput⟩ := houtput
  obtain rfl := Except.ok.inj houtput
  have hrest' : eachPass r first.left vs 1 = .ok rest := by
    cases hpasses : eachPass r first.left vs 1 with
    | error f => simp [hpasses] at hrest
    | ok more => simpa [hpasses] using hrest
  obtain ⟨hover, -, hincludes⟩ := Walk.isOver_of_finish hfirst hr hreads
  have hsplices := Walk.splices_of_finish hfirst hover
  -- Splices keep what can be expanded and how, so all passes may be walks over the body itself.
  refine ⟨first, rest, hfirst, hrest', rfl, Walk.inclusions_of_finish hfirst hover, hincludes,
    fun hdirect hbodydirect => ?_⟩
  have hspaced : Spaced (Node.tokens (Node.ofTokens 0 body)) := by
    rw [Node.tokens_ofTokens]
    exact spaced_body htokens
  have hbodydirect' : .marker .partialByVariable ∉ Node.tokens (Node.ofTokens 0 body) := by
    rwa [Node.tokens_ofTokens]
  rw [eachPass, Walk.run_eq_finish, hfirst, map_ok, ok_bind,
    ← eachPass_of_splices hdirect hsplices hspaced hbodydirect', hrest']
  rfl

/-! ### A tag that asks a variable -/

/-- A renderer with a file for each of two names. -/
def twoFiles : Renderer := ⟨Store.loader ⟨[("a.mustache", "A"), ("b.mustache", "B")]⟩, {}⟩

/-- A body that includes the file which the element names. -/
def fileOfElement : List Token :=
  .text "" :: (Marker.partialByVariable.tag "n" ++ [.text ""])

/-- An element that names a file. -/
def naming (file : String) : Value := .object [("n", .string file)]

/-- The loop over two elements that name the two files. -/
def loopOverFiles : String :=
  "\x7b\x7b#k\x7d\x7d\x7b\x7b< n \x7d\x7d\x7b\x7b/k\x7d\x7d"

theorem loadsSentences_twoFiles : twoFiles.LoadsSentences := by
  have ha : tokenize "A" = [.text "A"] := by decide +kernel
  have hb : tokenize "B" = [.text "B"] := by decide +kernel
  refine Renderer.loadsSentences_of_entries fun entry hentry => ?_
  simp only [List.mem_cons, List.not_mem_nil, or_false] at hentry
  obtain rfl | rfl := hentry
  · exact ha ▸ .text "A" .nil
  · exact hb ▸ .text "B" .nil

theorem sentence_fileOfElement : Sentence fileOfElement :=
  .text "" (.single rfl "n" (.text "" .nil))

theorem tokenize_loopOverFiles : tokenize loopOverFiles = loopTokens "k" fileOfElement := by
  decide +kernel

theorem render_loopOverFiles :
    twoFiles.render loopOverFiles (.object [("k", .array [naming "a", naming "b"])]) =
      .ok "AA" :=
  Walk.run_eq_of_after (n := 12) (by decide +kernel)

/-- Both passes include the file that the first element names. -/
theorem passes_loopOverFiles : ∃ first rest,
    (Walk.along (Node.ofTokens 0 fileOfElement) (naming "a") 0).finish twoFiles = .ok first ∧
      eachPass twoFiles first.left [naming "b"] 1 = .ok rest ∧ first.output ++ rest = "AA" := by
  obtain ⟨first, rest, hfirst, hrest, houtput, -⟩ := render_loop_eq_ok loadsSentences_twoFiles
    tokenize_loopOverFiles sentence_fileOfElement rfl render_loopOverFiles
  exact ⟨first, rest, hfirst, hrest, houtput.symm⟩

/-- The elements of an array do not always write what walks over the body itself write. -/
theorem not_eachPass_body :
    ¬ ∀ (r : Renderer) (template name : String) (context v : Value) (vs : List Value)
      (body : List Token) (output : String), r.LoadsSentences →
        tokenize template = loopTokens name body → Sentence body →
          (Scopes.ofRoot context).resolve name = .ok (.found (.array (v :: vs))) →
            r.render template context = .ok output →
              eachPass r (Node.ofTokens 0 body) (v :: vs) 0 = .ok output := by
  intro h
  have hpasses := h twoFiles loopOverFiles "k" _ (naming "a") [naming "b"] fileOfElement "AA"
    loadsSentences_twoFiles tokenize_loopOverFiles sentence_fileOfElement rfl render_loopOverFiles
  have hfirst : (Walk.along (Node.ofTokens 0 fileOfElement) (naming "a") 0).run twoFiles =
      .ok "A" := Walk.run_eq_of_after (n := 4) (by decide +kernel)
  have hsecond : (Walk.along (Node.ofTokens 0 fileOfElement) (naming "b") 1).run twoFiles =
      .ok "B" := Walk.run_eq_of_after (n := 4) (by decide +kernel)
  simp only [eachPass, hfirst, hsecond] at hpasses
  exact absurd (Except.ok.inj hpasses) (by decide)

end Mustache
