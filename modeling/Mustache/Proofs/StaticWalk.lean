import Mustache.Proofs.Expansion
/-!
# Walks without splices

Where no tag asks a variable for its file, a render walks as if the partials had been put in
beforehand.

* `Walk.runTo` walks over tokens that a stopping point may come behind, and `Renderer.walkItems`
  walks over an expansion in this way, with a renderer that can load nothing.
* `render_eq_walkItems`: a render comes to the same as a walk over the expansion of its template.

A walk `w` is mapped to the walk `w.expanded r` over the expansion of its tokens. A step that
splices maps to no step, since a splice leaves the expansion as it is; every other step maps to a
step (`step_expanded`). For this, no partial tag may have been passed, a text has to stand behind
every marker, and no tag may ask a variable: `Walk.Expandable` says so, and each step keeps it. That
a loop goes back is then no special case, since what it goes back over has been expanded already.
-/

namespace Mustache

/-- The renderer without its files. -/
def Renderer.unloaded (r : Renderer) : Renderer := ⟨(∅ : Store).loader, r.options⟩

namespace Walk

/-- Why the walk has to stop where it is, if a stopping point comes behind all tokens. -/
def stopped? (w : Walk) (stop? : Option RenderError) : Option RenderError :=
  if w.tape.rest.isEmpty then stop? else none

/-- One step over tokens that a stopping point may come behind. -/
def stepTo (r : Renderer) (stop? : Option RenderError) (w : Walk) :
    Except RenderFailure (Option Walk) :=
  match w.stopped? stop? with
  | some e => .error (w.failure e)
  | none => w.step r

theorem stepTo_of_stopped {r : Renderer} {w : Walk} {stop? : Option RenderError} {e : RenderError}
    (h : w.stopped? stop? = some e) : w.stepTo r stop? = .error (w.failure e) := by
  rw [stepTo, h]

theorem stepTo_of_not_stopped {r : Renderer} {w : Walk} {stop? : Option RenderError}
    (h : w.stopped? stop? = none) : w.stepTo r stop? = w.step r := by
  rw [stepTo, h]

theorem stepTo_decreases {r : Renderer} {w w' : Walk} {stop? : Option RenderError}
    (h : w.stepTo r stop? = .ok (some w')) :
    LessWork (workAhead r.options.maxPartialDepth w'.tape w'.opened)
      (workAhead r.options.maxPartialDepth w.tape w.opened) := by
  cases hs : w.stopped? stop? with
  | none =>
    rw [stepTo_of_not_stopped hs] at h
    exact step_decreases h
  | some e =>
    rw [stepTo_of_stopped hs] at h
    simp at h

/-- Walks on to the end of the tokens, where a stopping point may be. -/
def runTo (r : Renderer) (stop? : Option RenderError) (w : Walk) : Except RenderFailure String :=
  match _h : w.stepTo r stop? with
  | .ok (some next) => next.runTo r stop?
  | .ok none => .ok w.output
  | .error failure => .error failure
termination_by w.workload r.options.maxPartialDepth
decreasing_by exact stepTo_decreases _h

variable {r : Renderer} {w w' : Walk} {stop? : Option RenderError}

theorem runTo_of_next (h : w.stepTo r stop? = .ok (some w')) :
    w.runTo r stop? = w'.runTo r stop? := by
  rw [runTo]
  split <;> simp_all

theorem runTo_of_end (h : w.stepTo r stop? = .ok none) : w.runTo r stop? = .ok w.output := by
  rw [runTo]
  split <;> simp_all

theorem runTo_of_failure {f : RenderFailure} (h : w.stepTo r stop? = .error f) :
    w.runTo r stop? = .error f := by
  rw [runTo]
  split <;> simp_all

/-- Where no stopping point comes behind the tokens, this is a run. -/
theorem runTo_none (r : Renderer) (w : Walk) : w.runTo r none = w.run r := by
  have hstep : ∀ u : Walk, u.stepTo r none = u.step r := by
    intro u
    exact stepTo_of_not_stopped (ite_self none)
  induction w using run.induct r with
  | case1 w next hnext ih => rw [run_of_next hnext, ← ih, runTo_of_next ((hstep w).trans hnext)]
  | case2 w hend => rw [run_of_end hend, runTo_of_end ((hstep w).trans hend)]
  | case3 w f hf => rw [run_of_failure hf, runTo_of_failure ((hstep w).trans hf)]

end Walk

/-- Walks over an expansion, up to its first stopping point. -/
def Renderer.walkItems (r : Renderer) (items : List Item) (context : Value) :
    Except RenderFailure String :=
  (Walk.along (Node.ofTokens 0 (Item.tokens items)) context 0).runTo r.unloaded (Item.stop? items)

/-- A renderer without files splices nothing. -/
theorem Splice.not_unloaded {r : Renderer} {a b : List Node} : ¬ Splice r.unloaded a b := by
  rintro ⟨before, hm, hreference, hfile, hdepth, hts⟩
  -- The text of the partial would have to be in the empty store.
  obtain ⟨text, table, hload, -⟩ := Renderer.exists_of_partialTokens hts
  obtain ⟨key, hentry⟩ := Store.exists_entry (s := ∅) hload
  exact List.not_mem_nil hentry

/-- **A walk over an expansion goes over the same tokens all along.** -/
theorem Walk.stream_of_reaches_unloaded {r : Renderer} {w w' : Walk}
    (h : Reaches r.unloaded w w') : w'.stream = w.stream :=
  h.stream (P := (· = w.stream)) rfl fun _ hsplice => absurd hsplice Splice.not_unloaded

/-! ### The walk over the expansion -/

/-- The node as one of the template itself. -/
def Node.flat (node : Node) : Node := ⟨node.token, 0⟩

/-- The section over the expansion. -/
def Region.flat : Region → Region
  | .once outerVisible framed => .once outerVisible framed
  | .loop outerPassed pass remaining => .loop (outerPassed.map Node.flat) pass remaining

/-- The open section over the expansion. -/
def OpenSection.flat (s : OpenSection) : OpenSection := ⟨s.name, s.region.flat⟩

/-- The tokens that a walk over the expansion has ahead. -/
def Renderer.ahead (r : Renderer) (nodes : List Node) : List Node :=
  Node.ofTokens 0 (Item.tokens (r.expandNodes nodes))

namespace Renderer

variable {r : Renderer} {node : Node} {rest : List Node}

theorem ahead_nil (r : Renderer) : r.ahead [] = [] := rfl

theorem ahead_cons (h : ¬ StartsWithPartial (node :: rest)) :
    r.ahead (node :: rest) = node.flat :: r.ahead rest := by
  rw [ahead, expandNodes_cons h]
  rfl

/-- Tokens without partial tags are ahead as they are. -/
theorem ahead_append {a b : List Node} (h : ∀ node ∈ a, node.token ≠ .marker .partialTag) :
    r.ahead (a ++ b) = a.map Node.flat ++ r.ahead b := by
  rw [ahead, expandNodes_append_left h, Item.tokens_append, Node.ofTokens_append, ← ahead]
  simp [Node.tokens, Node.ofTokens, Node.flat]

/-- What a partial tag includes starts with a text or stops at once. -/
theorem ahead_of_startsWithPartial (h : StartsWithPartial rest) :
    r.ahead rest = [] ∨ ∃ s tail, r.ahead rest = ⟨.text s, 0⟩ :: tail := by
  obtain ⟨reference, d, d₂, d₃, tail, rfl⟩ := h
  rw [ahead, expandNodes_tag]
  obtain ⟨e, h⟩ | ⟨s, items, h⟩ :=
    r.inclusion_cases (r.options.maxPartialDepth - d) reference
  · exact .inl (by rw [h]; rfl)
  · exact .inr ⟨s, _, by rw [h]; rfl⟩

/-- A marker that comes next in the expansion comes next. -/
theorem eq_of_ahead_eq_marker {nodes tail : List Node} {m : Marker} {d : Nat}
    (h : r.ahead nodes = ⟨.marker m, d⟩ :: tail) :
    ∃ d' tail', nodes = ⟨.marker m, d'⟩ :: tail' := by
  by_cases hp : StartsWithPartial nodes
  -- What a partial tag includes never starts with a marker.
  · obtain hnil | ⟨s, tail', htext⟩ := r.ahead_of_startsWithPartial hp
    · simp [hnil] at h
    · simp [htext] at h
  · match nodes with
    | [] => simp [ahead_nil] at h
    | node :: rest =>
      rw [ahead_cons hp] at h
      obtain ⟨token, d'⟩ := node
      simp only [Node.flat, List.cons.injEq, Node.mk.injEq] at h
      obtain ⟨⟨rfl, -⟩, -⟩ := h
      exact ⟨d', rest, rfl⟩

end Renderer

namespace Walk

variable {r : Renderer} {w w' : Walk} {m : Marker} {name : String} {d : Nat} {tail : List Node}

/-- The walk over the expansion. -/
def expanded (r : Renderer) (w : Walk) : Walk where
  tape := ⟨w.tape.passed.map Node.flat, r.ahead w.tape.rest⟩
  scopes := w.scopes
  visible := w.visible
  output := w.output
  opened := w.opened.map OpenSection.flat

theorem rest_expanded_nil (h : w.tape.rest = []) : (w.expanded r).tape.rest = [] := by
  rw [expanded, h]
  rfl

/-- What comes next comes next in the expansion, unless it is a whole partial tag. -/
theorem rest_expanded_cons {node : Node} (h : w.tape.rest = node :: tail)
    (hnode : ¬ StartsWithPartial (node :: tail)) :
    (w.expanded r).tape.rest = node.flat :: r.ahead tail := by
  rw [expanded, h]
  exact Renderer.ahead_cons hnode

theorem expanded_emit (w : Walk) (text : String) :
    (w.expanded r).emit text = (w.emit text).expanded r := by
  by_cases h : w.visible <;> simp [emit, expanded, h]

theorem expanded_enter (w : Walk) (m : Marker) (name : String) (lookup : Lookup) :
    (w.expanded r).enter m name lookup = (w.enter m name lookup).expanded r := by
  simp only [enter]
  split <;> rfl

theorem expanded_leave (w : Walk) (region : Region) (outer : List OpenSection) :
    (w.expanded r).leave region.flat (outer.map OpenSection.flat) =
      (w.leave region outer).expanded r := by
  cases region with
  | once outerVisible framed => rfl
  | loop outerPassed pass remaining => simp [leave, expanded, Region.flat]

theorem expanded_advance {node : Node} (h : w.tape.rest = node :: tail)
    (hnode : ¬ StartsWithPartial (node :: tail)) :
    (w.expanded r).advance = w.advance.expanded r := by
  simp [advance, Tape.advance, expanded, h, Renderer.ahead_cons hnode]

/-- The expansion has the name of a tag behind its marker. -/
theorem atName_expanded (h : w.AtName m name d tail) (hm : ¬ StartsWithPartial w.tape.rest) :
    (w.expanded r).AtName m name 0 (r.ahead tail) := by
  obtain ⟨d₂, h⟩ := h
  rw [h] at hm
  refine ⟨0, ?_⟩
  rw [expanded, h, Renderer.ahead_cons hm, Renderer.ahead_cons not_startsWithPartial_text]
  rfl

theorem expanded_skipName (h : w.AtName m name d tail) (hm : ¬ StartsWithPartial w.tape.rest) :
    (w.expanded r).skipName = w.skipName.expanded r := by
  obtain ⟨d₂, h⟩ := h
  rw [h] at hm
  rw [skipName, expanded_advance h hm,
    expanded_advance (Tape.rest_advance h) not_startsWithPartial_text]
  rfl

/-- A marker that has to come next comes next in the expansion, too. -/
theorem expanded_close (hm : m ≠ .partialTag) :
    (w.expanded r).close m = expanded r <$> w.close m := by
  by_cases h : ∃ d tail, w.tape.rest = ⟨.marker m, d⟩ :: tail
  · obtain ⟨d, tail, h⟩ := h
    have hpartial : ¬ StartsWithPartial (⟨.marker m, d⟩ :: tail) := not_startsWithPartial_marker hm
    have hahead : (w.expanded r).tape.rest = ⟨.marker m, 0⟩ :: r.ahead tail :=
      rest_expanded_cons h hpartial
    rw [close_of_marker h, close_of_marker hahead, map_ok, expanded_advance h hpartial]
  · rw [close_of_ne fun d tail hrest => h ⟨d, tail, hrest⟩,
      close_of_ne fun d tail hrest => h (Renderer.eq_of_ahead_eq_marker hrest)]
    rfl

/-! ### Steps over the expansion -/

theorem expanded_nextPass (h : ∀ node ∈ w.tape.passed, node.token ≠ .marker .partialTag)
    (name : String) (outerPassed : List Node) (pass : Nat) (v : Value) (remaining : List Value)
    (outer : List OpenSection) :
    (w.expanded r).nextPass name (outerPassed.map Node.flat) pass v remaining
        (outer.map OpenSection.flat) =
      (w.nextPass name outerPassed pass v remaining outer).expanded r := by
  have hpassed : ∀ node ∈ w.tape.passed.reverse, node.token ≠ .marker .partialTag := fun node hn =>
    h node (List.mem_reverse.mp hn)
  simp [nextPass, expanded, Renderer.ahead_append hpassed, OpenSection.flat, Region.flat]

theorem isDone_flat {region : Region} (h : region.IsDone) : region.flat.IsDone := by
  cases region <;> exact h

/-- Maps what comes out of a step. -/
theorem map_some_map {ε α β : Type} (f : α → β) (c : Except ε α) :
    some <$> f <$> c = Option.map f <$> some <$> c := by
  cases c <;> rfl

/-- Where a message ends, it ends in the expansion. -/
theorem step_expanded_of_atEnd {r' : Renderer} (h : w.AtEnd)
    (hspaced : Spaced (Node.tokens w.tape.rest))
    (hpassed : ∀ node ∈ w.tape.passed, node.token ≠ .marker .partialTag) :
    (w.expanded r).step r' = Option.map (expanded r) <$> w.step r := by
  have hend : (w.expanded r).AtEnd := by
    obtain h | ⟨d, tail, h⟩ := h
    · exact .inl (rest_expanded_nil h)
    · exact .inr ⟨0, r.ahead tail, rest_expanded_cons h (not_startsWithPartial_marker (by simp))⟩
  match ho : w.opened with
  | [] =>
    have hopened : (w.expanded r).opened = [] := by rw [expanded, ho]; rfl
    obtain hrest | ⟨d, tail, hrest⟩ := h
    · rw [step_end hrest ho, step_end (rest_expanded_nil hrest) hopened]
      rfl
    · have hrest' : (w.expanded r).tape.rest = ⟨.marker .sectionClose, 0⟩ :: r.ahead tail :=
        rest_expanded_cons hrest (not_startsWithPartial_marker (by simp))
      rw [step_unopened hrest ho, step_unopened hrest' hopened]
      rfl
  | ⟨name, region⟩ :: outer =>
    have hopened : (w.expanded r).opened = ⟨name, region.flat⟩ :: outer.map OpenSection.flat := by
      rw [expanded, ho]
      rfl
    obtain hdone | ⟨outerPassed, pass, v, remaining, rfl⟩ := region.isDone_or
    · obtain hrest | ⟨d, tail, hrest⟩ := h
      · rw [step_unclosed hrest ho hdone,
          step_unclosed (rest_expanded_nil hrest) hopened (isDone_flat hdone)]
        rfl
      -- The end tag has a name, but it may be another one, and it need not be whole.
      · obtain ⟨found, tail', hname⟩ := atName_of_spaced hspaced hrest
        have hpartial : ¬ StartsWithPartial w.tape.rest := by
          rw [hrest]
          exact not_startsWithPartial_marker (by simp)
        rw [hname.step_close ho hdone,
          (atName_expanded hname hpartial).step_close hopened (isDone_flat hdone)]
        cases checkEndName name found with
        | error e => rfl
        | ok u =>
          have hpartial' : ¬ StartsWithPartial (w.leave region outer).tape.rest := by
            rwa [rest_leave]
          rw [attempt_ok, ok_bind, attempt_ok, ok_bind, expanded_leave,
            expanded_skipName (hname.leave region outer) hpartial', expanded_close (by simp),
            map_some_map]
    · rw [step_nextPass h ho, step_nextPass hend hopened, expanded_nextPass hpassed]
      rfl

section Tags

variable {r' : Renderer} (h : w.AtName m name d tail) (hpartial : ¬ StartsWithPartial w.tape.rest)

include h hpartial

theorem step_expanded_of_opensVariable (hm : m.opensVariable) :
    (w.expanded r).step r' = Option.map (expanded r) <$> w.step r := by
  have htext : (w.expanded r).variableText m name = w.variableText m name := rfl
  rw [h.step_variable hm, (atName_expanded h hpartial).step_variable hm, htext]
  cases checkTagName name with
  | error e => rfl
  | ok u =>
    cases w.variableText m name with
    | error e => rfl
    | ok text =>
      have hclosing : m.closing ≠ .partialTag := by cases m <;> simp [Marker.closing]
      simp only [attempt_ok, ok_bind, expanded_skipName h hpartial, expanded_emit,
        expanded_close hclosing, map_some_map]

theorem step_expanded_of_opensSection (hm : m.opensSection) :
    (w.expanded r).step r' = Option.map (expanded r) <$> w.step r := by
  have hresolve : (w.expanded r).scopes = w.scopes := rfl
  rw [h.step_section hm, (atName_expanded h hpartial).step_section hm, hresolve]
  cases checkTagName name with
  | error e => rfl
  | ok u =>
    cases w.scopes.resolve name with
    | error e => rfl
    | ok lookup =>
      simp only [attempt_ok, ok_bind, expanded_skipName h hpartial,
        expanded_close (m := .close) (by simp)]
      cases w.skipName.close .close with
      | error f => rfl
      | ok closed => simp [expanded_enter]

/-- A partial tag that is not whole has no end. -/
theorem step_expanded_of_partialTag (hm : m = .partialTag) :
    (w.expanded r).step r' = Option.map (expanded r) <$> w.step r := by
  subst hm
  -- With a closing marker behind its name, the tag would be whole.
  have hclose : w.skipName.close .close = .error (w.skipName.failure (.missing .close)) := by
    refine close_of_ne fun d₃ rest hrest => hpartial ?_
    rw [h.rest_skipName] at hrest
    obtain ⟨d₂, h⟩ := h
    exact ⟨name, d, d₂, d₃, rest, by rw [h, hrest]⟩
  rw [h.step_partial rfl, (atName_expanded h hpartial).step_partial rfl]
  cases checkReference name with
  | error e => rfl
  | ok u =>
    simp only [attempt_ok, ok_bind, expanded_skipName h hpartial,
      expanded_close (m := .close) (by simp), hclose]
    rfl

end Tags

/-- **A step over anything but a whole partial tag is a step over the expansion.** -/
theorem step_expanded {r' : Renderer} (hspaced : Spaced (Node.tokens w.tape.rest))
    (hpassed : ∀ node ∈ w.tape.passed, node.token ≠ .marker .partialTag)
    (hdirect : .marker .partialByVariable ∉ Node.tokens w.tape.rest)
    (hpartial : ¬ StartsWithPartial w.tape.rest) :
    (w.expanded r).step r' = Option.map (expanded r) <$> w.step r := by
  match hrest : w.tape.rest with
  | [] => exact step_expanded_of_atEnd (.inl hrest) hspaced hpassed
  | ⟨.text s, d⟩ :: tail =>
    have hrest' : (w.expanded r).tape.rest = ⟨.text s, 0⟩ :: r.ahead tail :=
      rest_expanded_cons hrest not_startsWithPartial_text
    have hemit : (w.emit s).tape.rest = ⟨.text s, d⟩ :: tail := by rw [tape_emit, hrest]
    rw [step_text hrest, step_text hrest', expanded_emit,
      expanded_advance hemit not_startsWithPartial_text]
    rfl
  | ⟨.marker m, d⟩ :: tail =>
    obtain ⟨name, tail', hname⟩ := atName_of_spaced hspaced hrest
    have hclose (hm : m.isClose) :
        (w.expanded r).step r' = Option.map (expanded r) <$> w.step r := by
      rw [hrest] at hpartial
      have hrest' : (w.expanded r).tape.rest = ⟨.marker m, 0⟩ :: r.ahead tail :=
        rest_expanded_cons hrest hpartial
      rw [step_unexpected hm hrest, step_unexpected hm hrest']
      rfl
    cases m with
    | sectionClose => exact step_expanded_of_atEnd (.inr ⟨d, tail, hrest⟩) hspaced hpassed
    | close | closeUnescaped => exact hclose rfl
    | escaped | unescaped => exact step_expanded_of_opensVariable hname hpartial rfl
    | comment =>
      rw [hname.step_comment, (atName_expanded hname hpartial).step_comment,
        expanded_skipName hname hpartial, expanded_close (by simp), map_some_map]
    | sectionOpen | shownIf | shownUnless | shownIfFound =>
      exact step_expanded_of_opensSection hname hpartial rfl
    | partialTag => exact step_expanded_of_partialTag hname hpartial rfl
    | partialByVariable => simp [hrest] at hdirect

end Walk

/-! ### Runs over the expansion -/

/-- No text that can be loaded as a partial has a tag that asks a variable for its file. -/
def Renderer.IsDirect (r : Renderer) : Prop :=
  ∀ file text, r.loader file r.options.partialExtension = .ok text →
    .marker .partialByVariable ∉ tokenize text

/-- A splice brings in no tag that asks a variable where no partial has such a tag. -/
theorem Splice.direct {r : Renderer} (hr : r.IsDirect) {a b : List Node} (h : Splice r a b)
    (ha : .marker .partialByVariable ∉ Node.tokens a) :
    .marker .partialByVariable ∉ Node.tokens b := by
  intro hm
  obtain hm | ⟨file, text, hload, hm⟩ := h.marker_mem hm
  · exact ha hm
  · exact hr file text hload hm

theorem Renderer.isDirect_of_entries {s : Store} {options : Options}
    (h : ∀ entry ∈ s.entries, .marker .partialByVariable ∉ tokenize entry.2) :
    (⟨s.loader, options⟩ : Renderer).IsDirect := by
  intro file text hload
  obtain ⟨key, hentry⟩ := Store.exists_entry hload
  exact h (key, text) hentry

/-- The walk has passed no partial tag, and what it still meets can be expanded. -/
structure Walk.Expandable (w : Walk) : Prop where
  /-- A text stands behind every marker. -/
  spaced : Spaced (Node.tokens w.stream)
  /-- No tag asks a variable for its file. -/
  direct : .marker .partialByVariable ∉ Node.tokens w.stream
  /-- Partial tags have been replaced on the way. -/
  behind : ∀ node ∈ w.behind, node.token.includes = false

namespace Walk

variable {r : Renderer} {w w' : Walk} {m : Marker} {name : String} {d : Nat} {tail : List Node}

theorem ne_partialTag_of_includes {node : Node} (h : node.token.includes = false) :
    node.token ≠ .marker .partialTag := by
  intro htoken
  simp [htoken, Token.includes, Marker.opensPartial] at h

theorem Expandable.spaced_rest (h : w.Expandable) : Spaced (Node.tokens w.tape.rest) :=
  Walk.spaced_rest h.spaced

theorem Expandable.direct_rest (h : w.Expandable) :
    .marker .partialByVariable ∉ Node.tokens w.tape.rest := by
  have hstream := h.direct
  rw [stream, Node.tokens_append] at hstream
  exact fun hm => hstream (List.mem_append_right _ hm)

theorem Expandable.passed (h : w.Expandable) :
    ∀ node ∈ w.tape.passed, node.token ≠ .marker .partialTag := by
  intro node hnode
  refine ne_partialTag_of_includes (h.behind node ?_)
  rw [Walk.behind, ← List.append_nil w.tape.passed, passedBehind_append]
  exact List.mem_append_left _ hnode

/-- What is ahead is where the walk will be stopped, if it will. -/
theorem Expandable.stop?_stream (h : w.Expandable) :
    Item.stop? (r.expandNodes w.stream) = Item.stop? (r.expandNodes w.tape.rest) := by
  have hbehind : ∀ node ∈ w.behind.reverse, node.token ≠ .marker .partialTag := fun node hnode =>
    ne_partialTag_of_includes (h.behind node (List.mem_reverse.mp hnode))
  rw [stream, r.expandNodes_append_left hbehind, Item.stop?_append]

/-- **A step keeps a walk expandable.** -/
theorem Expandable.next (hr : r.IsDirect) (h : w.Expandable) (hnext : Next r w w') :
    w'.Expandable where
  spaced := spaced_stream_next h.spaced hnext
  direct := by
    obtain heq | hsplice := stream_eq_or_splice hnext
    · rw [heq]
      exact h.direct
    · exact hsplice.direct hr h.direct
  behind := behind_includes_next h.behind hnext

theorem expandable_start {template : String} (context : Value)
    (h : .marker .partialByVariable ∉ tokenize template) : (start template context).Expandable where
  spaced := by
    rw [stream_start, Node.tokens_ofTokens]
    exact spaced_tokenize template
  direct := by
    rw [stream_start, Node.tokens_ofTokens]
    exact h
  behind := by
    intro node hnode
    simp [Walk.behind, start, passedBehind] at hnode

/-- The expansion is the same all along. -/
theorem Expandable.expandNodes_next (h : w.Expandable) (hnext : Next r w w') :
    r.expandNodes w'.stream = r.expandNodes w.stream := by
  obtain heq | hsplice := stream_eq_or_splice hnext
  · rw [heq]
  · exact hsplice.expandNodes_eq h.spaced h.direct

/-- A step over anything but a whole partial tag, where a stopping point may be. -/
theorem stepTo_expanded {r' : Renderer} (h : w.Expandable)
    (hpartial : ¬ StartsWithPartial w.tape.rest) :
    (w.expanded r).stepTo r' (Item.stop? (r.expandNodes w.stream)) =
      Option.map (expanded r) <$> w.step r := by
  -- A token ahead other than a partial tag is ahead in the expansion, too, so no stop is reached.
  have hs : (w.expanded r).stopped? (Item.stop? (r.expandNodes w.stream)) = none := by
    rw [h.stop?_stream, stopped?, expanded]
    match hrest : w.tape.rest with
    | [] => rfl
    | node :: tail =>
      rw [hrest] at hpartial
      simp [Renderer.ahead_cons hpartial]
  rw [stepTo_of_not_stopped hs,
    step_expanded h.spaced_rest h.passed h.direct_rest hpartial]

theorem exists_atTag (h : StartsWithPartial w.tape.rest) :
    ∃ reference d tail, w.AtTag .partialTag reference d tail := by
  obtain ⟨reference, d, d₂, d₃, tail, h⟩ := h
  exact ⟨reference, d, tail, d₂, d₃, h⟩

/-- A partial comes in, or the walk stops. -/
theorem step_partialTag {reference : String} (h : w.AtTag .partialTag reference d tail) :
    w.step r = match (do checkReference reference; w.included r .partialTag d reference) with
      | .ok nodes => .ok (some { w with tape := ⟨w.tape.passed, nodes ++ tail⟩ })
      | .error e => .error (w.failure e) := by
  rw [step_partial rfl h]
  cases checkReference reference with
  | error e => rfl
  | ok u =>
    cases w.included r .partialTag d reference with
    | error e => rfl
    | ok nodes => rfl

/-- A partial that comes in does not change the expansion. -/
theorem expanded_splice {reference : String} {nodes : List Node} (h : w.Expandable)
    (htag : w.AtTag .partialTag reference d tail) (hreference : checkReference reference = .ok ())
    (hnodes : w.included r .partialTag d reference = .ok nodes) :
    ({ w with tape := ⟨w.tape.passed, nodes ++ tail⟩ } : Walk).expanded r = w.expanded r := by
  have hsplice := (inclusion_of_included rfl htag hreference hnodes).splice
  have hexpand := hsplice.expandNodes_eq h.spaced_rest h.direct_rest
  simp only [expanded, Renderer.ahead, hexpand]

/-- Where a partial may not come in, a stopping point stands in the expansion. -/
theorem stopped?_expanded {reference : String} {e : RenderError} (h : w.Expandable)
    (htag : w.AtTag .partialTag reference d tail)
    (he : (do checkReference reference; w.included r .partialTag d reference) = .error e) :
    (w.expanded r).stopped? (Item.stop? (r.expandNodes w.stream)) = some e := by
  obtain ⟨d₂, d₃, hrest⟩ := htag
  -- The stopping point is the first thing ahead, so that no token is left before it.
  have hexpand : r.expandNodes w.tape.rest = .stop e :: r.expandNodes tail := by
    rw [hrest]
    exact congrArg (· ++ r.expandNodes tail) (r.inclusion_eq_stop he)
  rw [h.stop?_stream, stopped?, expanded, Renderer.ahead, hexpand]
  rfl

section Partial

variable (h : w.Expandable) (hpartial : StartsWithPartial w.tape.rest)

include h hpartial

/-- A step over a whole partial tag is no step over the expansion. -/
theorem expanded_of_next (hnext : Next r w w') : w'.expanded r = w.expanded r := by
  obtain ⟨reference, d, tail, htag⟩ := exists_atTag hpartial
  rw [Next, step_partialTag htag] at hnext
  cases hreference : checkReference reference with
  | error e => simp [hreference] at hnext
  | ok u =>
    cases hnodes : w.included r .partialTag d reference with
    | error e => simp [hreference, hnodes] at hnext
    | ok nodes =>
      simp only [hreference, ok_bind, hnodes, Except.ok.injEq, Option.some.injEq] at hnext
      subst hnext
      exact expanded_splice h htag hreference hnodes

/-- Where a whole partial tag stops the walk, the walk over the expansion stops. -/
theorem stepTo_expanded_of_failure {r' : Renderer} {f : RenderFailure} (hf : w.step r = .error f) :
    (w.expanded r).stepTo r' (Item.stop? (r.expandNodes w.stream)) = .error f := by
  obtain ⟨reference, d, tail, htag⟩ := exists_atTag hpartial
  rw [step_partialTag htag] at hf
  split at hf
  · simp at hf
  · rename_i e he
    obtain rfl := Except.error.inj hf
    exact stepTo_of_stopped (stopped?_expanded h htag he)

omit h in
/-- A walk does not end at a partial tag. -/
theorem step_ne_none : w.step r ≠ .ok none := by
  intro hend
  obtain ⟨reference, d, tail, htag⟩ := exists_atTag hpartial
  rw [step_partialTag htag] at hend
  split at hend <;> simp at hend

end Partial

/-- **A run comes to the same as a run over the expansion.** -/
theorem run_eq_runTo (hr : r.IsDirect) (h : w.Expandable) :
    w.run r = (w.expanded r).runTo r.unloaded (Item.stop? (r.expandNodes w.stream)) := by
  -- On the way the stream changes, but neither its expansion nor the stopping point.
  induction w using run.induct r with
  | case1 w next hnext ih =>
    rw [run_of_next hnext, ih (h.next hr hnext), h.expandNodes_next hnext]
    by_cases hpartial : StartsWithPartial w.tape.rest
    · rw [expanded_of_next h hpartial hnext]
    · refine (runTo_of_next ?_).symm
      rw [stepTo_expanded h hpartial, hnext]
      rfl
  | case2 w hend =>
    have hpartial : ¬ StartsWithPartial w.tape.rest := fun hpartial => step_ne_none hpartial hend
    rw [run_of_end hend]
    refine (runTo_of_end (w := w.expanded r) ?_).symm
    rw [stepTo_expanded h hpartial, hend]
    rfl
  | case3 w f hf =>
    rw [run_of_failure hf]
    refine (runTo_of_failure ?_).symm
    by_cases hpartial : StartsWithPartial w.tape.rest
    · exact stepTo_expanded_of_failure h hpartial hf
    · rw [stepTo_expanded h hpartial, hf]
      rfl

end Walk

/-- **A render comes to the same as a walk over the expansion of its template.** Whatever has been
spliced in when the render comes to a walk, the tokens of that walk have the expansion that the
template has, so that a later pass of a loop meets what it would include afresh. -/
theorem render_eq_walkItems {r : Renderer} (hr : r.IsDirect) {template : String}
    (htemplate : .marker .partialByVariable ∉ tokenize template) (context : Value) :
    r.render template context = r.walkItems (r.expand (tokenize template)) context ∧
      ∀ w, Walk.Reaches r (Walk.start template context) w →
        r.expandNodes w.stream = r.expand (tokenize template) := by
  have hstart := Walk.expandable_start context htemplate
  have hexpand : r.expandNodes (Walk.start template context).stream =
      r.expand (tokenize template) := by
    rw [Walk.stream_start, Renderer.expandNodes_ofTokens]
    rfl
  constructor
  · rw [Renderer.render, Walk.run_eq_runTo hr hstart, hexpand, Renderer.walkItems]
    congr 1
    simp only [Walk.expanded, Walk.start, Renderer.ahead, Renderer.expandNodes_ofTokens]
    rfl
  · intro w hw
    -- That the expansion stays needs the invariant, so the two go through the run together.
    refine (hw.preserves (P := fun u => u.Expandable ∧ r.expandNodes u.stream =
      r.expand (tokenize template)) ⟨hstart, hexpand⟩ ?_).2
    rintro u u' ⟨hu, heq⟩ hnext
    exact ⟨hu.next hr hnext, (hu.expandNodes_next hnext).trans heq⟩

/-- A partial with a parameter, inside a loop. Both walks write it for each element, with the index
of the element: the render over what the first pass has put in, the other over what has been there
from the start. -/
theorem render_partial_in_loop :
    let r : Renderer :=
      ⟨(Store.ofList [("p", "mustache", "(\x7b\x7bn\x7d\x7d\x7b\x7b@index\x7d\x7d)")]).loader, {}⟩
    let template := "\x7b\x7b#xs\x7d\x7d\x7b\x7b>p|n='v'\x7d\x7d\x7b\x7b/xs\x7d\x7d"
    let items : List Item := [.token (.text ""), .token (.marker .sectionOpen),
      .token (.text "xs"), .token (.marker .close), .token (.text ""), .token (.text "("),
      .token (.text "v"), .token (.text ""), .token (.marker .escaped), .token (.text "@index"),
      .token (.marker .close), .token (.text ")"), .token (.text ""),
      .token (.marker .sectionClose), .token (.text "xs"), .token (.marker .close),
      .token (.text "")]
    let three : Value := .object [("xs", .array [.null, .null, .null])]
    r.expand (tokenize template) = items ∧
      (∀ context, r.render template context = r.walkItems items context) ∧
        r.render template three = .ok "(v0)(v1)(v2)" ∧
          r.walkItems items three = .ok "(v0)(v1)(v2)" := by
  intro r template items three
  have hr : r.IsDirect := Renderer.isDirect_of_entries (by decide +kernel)
  have hexpand : r.expand (tokenize template) = items := by decide +kernel
  refine ⟨hexpand, fun context => ?_, ?_, ?_⟩
  · rw [← hexpand]
    exact (render_eq_walkItems hr (by decide +kernel) context).1
  · exact Walk.run_eq_of_after (n := 28) (by decide +kernel)
  · rw [Renderer.walkItems, show Item.stop? items = none from rfl, Walk.runTo_none]
    exact Walk.run_eq_of_after (n := 27) (by decide +kernel)

end Mustache
