import Mustache.Proofs.Message
/-!
# A walk over a message

A walk has one cursor, one visibility, one stack of frames and one index for all levels of a
template, and it goes back to the start of a body for each element of an array. Where the tokens
ahead begin with those of a message, it nevertheless does what the tree says.

* `run_message`: a walk in front of a message writes what `Message.emission` says and goes on behind
  the message, with its frames, its visibility and its open sections as before; or it stops with the
  failure that `Message.emission` gives.
* `run_forEach`: the passes of a loop, one for each element, all end at the same end tag.
* `render_eq_of_message`: a template that reads as a message renders to what the message does.

The induction is on the tree. The tokens behind the message are left open in it, since the body of a
section is a message inside longer tokens.
-/

namespace Mustache

/-- Of the frames, only the top one is asked for a name. -/
theorem Message.lookUp_top (s : Scopes) (name : TagName) :
    Message.lookUp s.top s.index name = (s.resolve name.text).mapError .early := rfl

namespace Walk

variable {r : Renderer} {w : Walk} {d : Nat} {tail : List Node}

/-! ### Past some tokens -/

/-- The walk past some tokens, with `tail` ahead. -/
def past (w : Walk) (nodes tail : List Node) (output : String) (index : Nat) : Walk :=
  { w with
    tape := ⟨nodes.reverse ++ w.tape.passed, tail⟩
    output
    scopes := w.scopes.setIndex index }

theorem past_past (w : Walk) (nodes more tail tail' : List Node) (output output' : String)
    (index index' : Nat) :
    (w.past nodes tail output index).past more tail' output' index' =
      w.past (nodes ++ more) tail' output' index' := by
  simp [past]

theorem past_nil (h : w.tape.rest = tail) : w.past [] tail w.output w.scopes.index = w := by
  subst h
  rfl

theorem advance_eq_past {node : Node} (h : w.tape.rest = node :: tail) :
    w.advance = w.past [node] tail w.output w.scopes.index := by
  simp [advance, Tape.advance, past, h]

theorem atTag_of_tag {m : Marker} {text : String}
    (h : w.tape.rest = Node.ofTokens d (m.tag text) ++ tail) : w.AtTag m text d tail :=
  ⟨d, d, h⟩

theorem skipTag_eq_past {m : Marker} {text : String}
    (h : w.tape.rest = Node.ofTokens d (m.tag text) ++ tail) :
    w.skipTag = w.past (Node.ofTokens d (m.tag text)) tail w.output w.scopes.index := by
  simp [skipTag, advance, Tape.advance, past, h, Marker.tag]

theorem emit_eq (w : Walk) (text : String) :
    w.emit text = { w with output := w.output ++ if w.visible then text else "" } := by
  obtain ⟨tape, scopes, visible, output, opened⟩ := w
  cases visible <;> simp [emit]

theorem emit_past (w : Walk) (nodes : List Node) (output text : String) (index : Nat) :
    (w.past nodes tail output index).emit text =
      w.past nodes tail (output ++ if w.visible then text else "") index := by
  rw [emit_eq]
  rfl

/-- What is left of a run once an emission has been written and some tokens have been passed. -/
def runAfter (r : Renderer) (w : Walk) (e : Emission) (nodes tail : List Node) :
    Except RenderFailure String := do
  let p ← e.onto w.output
  (w.past nodes tail p.1 p.2).run r

theorem runAfter_ok (text : String) (index : Nat) (nodes : List Node) :
    w.runAfter r (.ok (text, index)) nodes tail =
      (w.past nodes tail (w.output ++ text) index).run r := rfl

theorem runAfter_past (e : Emission) (nodes more tail' : List Node) :
    (w.past nodes tail w.output w.scopes.index).runAfter r e more tail' =
      w.runAfter r e (nodes ++ more) tail' := by
  simp only [runAfter, past_past]
  rfl

/-- **One part behind another.** If a run from behind the first part goes on with the second part,
then a run goes on with both. -/
theorem runAfter_andThen {e : Emission} {next : Nat → Emission} {nodes more : List Node}
    (h : ∀ output index, (w.past nodes (more ++ tail) output index).run r =
      (w.past nodes (more ++ tail) output index).runAfter r (next index) more tail) :
    w.runAfter r e nodes (more ++ tail) = w.runAfter r (e.andThen next) (nodes ++ more) tail := by
  simp only [runAfter, Emission.onto_andThen, bind_assoc]
  refine bind_congr fun p => ?_
  rw [h, runAfter]
  simp only [past_past]
  rfl

/-! ### The tags of a message -/

theorem printedBy_variableMarker (escaped : Bool) (lookup : Lookup) :
    printedBy (Message.variableMarker escaped) lookup.valueOrNull =
      Message.printed escaped lookup := by
  have hempty : Html.escape "" = "" := by decide +kernel
  cases escaped <;> cases h : lookup.valueOrNull.printed? <;>
    simp [printedBy, Message.variableMarker, Message.printed, h, hempty]

/-- A walk over a variable tag. -/
theorem run_print {escaped : Bool} {name : TagName}
    (h : w.tape.rest = Node.ofTokens d ((Message.variableMarker escaped).tag name.text) ++ tail) :
    w.run r = w.runAfter r
      (Message.variableEmission escaped name w.scopes.top w.visible w.scopes.index)
      (Node.ofTokens d ((Message.variableMarker escaped).tag name.text)) tail := by
  have hm : (Message.variableMarker escaped).opensVariable := by cases escaped <;> rfl
  rw [run_of_step (step_variable hm (atTag_of_tag h)), name.check, attempt_ok, ok_bind,
    skipTag_eq_past h, variableText_eq, Message.variableEmission]
  cases hv : w.visible with
  -- A hidden tag does not look its name up.
  | false => simp [emit_past, hv, runAfter_ok]
  | true =>
    rw [Message.lookUp_top]
    cases hlookup : w.scopes.resolve name.text with
    | error e => simp [runAfter, RenderFailure.early, RenderFailure.after, failure]
    | ok lookup => simp [emit_past, hv, printedBy_variableMarker, runAfter_ok]

theorem shows_marker (kind : SectionKind) (lookup : Lookup) :
    shows kind.marker lookup = kind.passes lookup := by
  cases kind <;> cases lookup <;> rfl

/-- The walk in a section that is passed once. -/
def inOnce (w : Walk) (kind : SectionKind) (name : String) (lookup : Lookup) : Walk where
  tape := w.tape
  scopes := if kind = .steppingIn then w.scopes.push lookup.valueOrNull else w.scopes
  visible := w.visible && kind.passes lookup
  output := w.output
  opened := ⟨name, .once w.visible (kind = .steppingIn)⟩ :: w.opened

/-- Into a section that is passed once. -/
theorem enter_of_elements_eq_nil {kind : SectionKind} {name : String} {lookup : Lookup}
    (h : kind.elements lookup = []) :
    w.enter kind.marker name lookup = w.inOnce kind name lookup := by
  rw [inOnce, ← shows_marker]
  cases kind with
  | steppingIn =>
    match lookup with
    | .found (.array []) => rfl
    | .found (.array (v :: vs)) => simp [SectionKind.elements] at h
    | .found .null | .found (.bool _) | .found (.number _) | .found (.string _)
    | .found (.object _) | .missing | .outOfRange _ _ => rfl
  | shownIf => rfl
  | shownUnless => rfl
  | shownIfFound => rfl

/-- The walk in a pass of a loop that starts in front of the body. -/
def inPass (w : Walk) (name : String) (v : Value) (i : Nat) (remaining : List Value)
    (output : String) : Walk where
  tape := ⟨[], w.tape.rest⟩
  scopes := (w.scopes.push v).setIndex i
  visible := w.visible
  output := output
  opened := ⟨name, .loop w.tape.passed i remaining⟩ :: w.opened

/-- Into a loop. -/
theorem enter_of_elements_eq_cons {kind : SectionKind} {name : String} {lookup : Lookup} {v : Value}
    {vs : List Value} (h : kind.elements lookup = v :: vs) :
    w.enter kind.marker name lookup = w.inPass name v 0 vs w.output := by
  cases kind with
  | steppingIn =>
    rw [SectionKind.elements.eq_def] at h
    split at h
    · subst h
      rfl
    · simp at h
  | shownIf => simp [SectionKind.elements] at h
  | shownUnless => simp [SectionKind.elements] at h
  | shownIfFound => simp [SectionKind.elements] at h

/-! ### Sections -/

/-- A walk over the end tag of a section whose body has been walked for the last time. -/
theorem run_endTag {name : String} (region : Region) {outer : List OpenSection}
    (h : w.tape.rest = Node.ofTokens d (Marker.sectionClose.tag name) ++ tail)
    (ho : w.opened = ⟨name, region⟩ :: outer) (hr : region.IsDone) :
    w.run r = ((w.leave region outer).past (Node.ofTokens d (Marker.sectionClose.tag name)) tail
      w.output (w.leave region outer).scopes.index).run r := by
  have hrest : (w.leave region outer).tape.rest =
      Node.ofTokens d (Marker.sectionClose.tag name) ++ tail := by
    rw [rest_leave, h]
  have houtput : (w.leave region outer).output = w.output := by cases region <;> rfl
  rw [run_of_step (step_close (atTag_of_tag h) ho hr), checkEndName_self, attempt_ok, ok_bind,
    pure_eq_ok, ok_bind, skipTag_eq_past hrest, houtput]

section Passes

variable {body close : List Node} {name : String} {output : String} {index : Nat}

/-- Behind its body, the walk leaves a section that is passed once. -/
theorem run_inOnce_past (hclose : close = Node.ofTokens d (Marker.sectionClose.tag name))
    (kind : SectionKind) (lookup : Lookup) :
    ((w.inOnce kind name lookup).past body (close ++ tail) output index).run r =
      (w.past (body ++ close) tail output index).run r := by
  subst hclose
  rw [run_endTag (.once w.visible (kind = .steppingIn)) rfl rfl trivial]
  cases kind <;> simp [leave, inOnce, past]

/-- Behind the body, the next pass is one that starts in front of it. -/
theorem run_inPass_past_cons (hclose : close = Node.ofTokens d (Marker.sectionClose.tag name))
    (h : w.tape.rest = body ++ (close ++ tail)) (v v' : Value) (vs : List Value) (i : Nat)
    (written : String) :
    ((w.inPass name v i (v' :: vs) written).past body (close ++ tail) output index).run r =
      (w.inPass name v' (i + 1) vs output).run r := by
  subst hclose
  rw [run_of_next (step_nextPass (.inr ⟨d, _, rfl⟩) rfl)]
  -- The new pass sets an index of its own.
  simp only [nextPass, inPass, past, h, Scopes.drop_setIndex, Scopes.setIndex_setIndex,
    Scopes.drop_push, List.append_nil, List.reverse_reverse]
  rfl

/-- Behind the body, the walk leaves a loop that has made all its passes. -/
theorem run_inPass_past_nil (hclose : close = Node.ofTokens d (Marker.sectionClose.tag name))
    (v : Value) (i : Nat) (written : String) :
    ((w.inPass name v i [] written).past body (close ++ tail) output index).run r =
      (w.past (body ++ close) tail output 0).run r := by
  subst hclose
  rw [run_endTag (.loop w.tape.passed i []) rfl rfl rfl]
  simp [leave, inPass, past]

/-- **The passes of a loop.** Each pass starts in front of the body and ends in front of the same
end tag, and the walk goes on behind it. -/
theorem run_forEach {pass : Value → Nat → Emission}
    (hbody : ∀ {u : Walk}, u.visible = w.visible → u.tape.rest = body ++ (close ++ tail) →
      u.run r = u.runAfter r (pass u.scopes.top u.scopes.index) body (close ++ tail))
    (hclose : close = Node.ofTokens d (Marker.sectionClose.tag name))
    (h : w.tape.rest = body ++ (close ++ tail)) (v : Value) (vs : List Value) (i : Nat)
    (written : String) :
    (w.inPass name v i vs written).run r = (do
      let p ← (Emission.forEach pass (v :: vs) i).onto written
      (w.past (body ++ close) tail p.1 p.2).run r) := by
  -- The induction is on the elements to come: what is written and where the index is, they find as
  -- the pass before has left it.
  induction vs generalizing v i written with
  | nil =>
    rw [hbody (u := w.inPass name v i [] written) rfl h, Emission.forEach, Emission.onto_andThen,
      bind_assoc]
    refine bind_congr fun p => ?_
    rw [run_inPass_past_nil hclose, Emission.forEach, Emission.onto_ok, ok_bind,
      String.append_empty]
  | cons v' vs ih =>
    rw [hbody (u := w.inPass name v i (v' :: vs) written) rfl h, Emission.forEach,
      Emission.onto_andThen, bind_assoc]
    refine bind_congr fun p => ?_
    rw [run_inPass_past_cons hclose h, ih]

/-- **A section.** What its body writes is said for every walk in front of it. -/
theorem run_enter {kind : SectionKind} {lookup : Lookup} {emission : Value → Bool → Nat → Emission}
    (hbody : ∀ {u : Walk}, u.tape.rest = body ++ (close ++ tail) →
      u.run r = u.runAfter r (emission u.scopes.top u.visible u.scopes.index) body (close ++ tail))
    (hclose : close = Node.ofTokens d (Marker.sectionClose.tag name))
    (h : w.tape.rest = body ++ (close ++ tail)) :
    (w.enter kind.marker name lookup).run r =
      w.runAfter r (kind.emission lookup emission w.scopes.top w.visible w.scopes.index)
        (body ++ close) tail := by
  rw [SectionKind.emission]
  cases helements : kind.elements lookup with
  | nil =>
    have hframe : (w.inOnce kind name lookup).scopes.top = kind.innerFrame lookup w.scopes.top := by
      cases kind <;> rfl
    have hindex : (w.inOnce kind name lookup).scopes.index = w.scopes.index := by cases kind <;> rfl
    rw [enter_of_elements_eq_nil helements, hbody (u := w.inOnce kind name lookup) h, hframe,
      hindex]
    exact bind_congr fun p => run_inOnce_past hclose kind lookup
  | cons v vs =>
    rw [enter_of_elements_eq_cons helements]
    refine run_forEach ?_ hclose h v vs 0 w.output
    intro u hvisible hrest
    rw [hbody hrest, hvisible]

end Passes

/-! ### Messages -/

/-- **A walk over a message** writes what the message does and goes on behind it. -/
theorem run_message (message : Message)
    (h : w.tape.rest = Node.ofTokens d message.tokens ++ tail) :
    w.run r = w.runAfter r (message.emission w.scopes.top w.visible w.scopes.index)
      (Node.ofTokens d message.tokens) tail := by
  induction message generalizing w tail with
  | nil =>
    rw [Message.tokens, Node.ofTokens_nil, List.nil_append] at h
    rw [Message.emission, runAfter_ok, String.append_empty, Message.tokens, Node.ofTokens_nil,
      past_nil h]
  | text s next ih =>
    rw [Message.tokens, Node.ofTokens_cons, List.cons_append] at h
    have hrest : (w.emit s).tape.rest = ⟨.text s, d⟩ :: (Node.ofTokens d next.tokens ++ tail) := by
      rw [tape_emit, h]
    have hemit : (w.emit s).advance = w.past [⟨.text s, d⟩] (Node.ofTokens d next.tokens ++ tail)
        (w.output ++ if w.visible then s else "") w.scopes.index := by
      rw [advance_eq_past hrest, emit_eq]
      rfl
    rw [run_of_next (step_text h), hemit, ← runAfter_ok, Message.emission]
    exact runAfter_andThen fun output index => ih rfl
  | print escaped name next ih =>
    rw [Message.tokens, Node.ofTokens_append, List.append_assoc] at h
    rw [run_print h, Message.emission, Message.tokens, Node.ofTokens_append]
    exact runAfter_andThen fun output index => ih rfl
  | comment s next ih =>
    rw [Message.tokens, Node.ofTokens_append, List.append_assoc] at h
    rw [run_of_next (step_comment (atTag_of_tag h)), skipTag_eq_past h, ih rfl, runAfter_past,
      Message.tokens, Node.ofTokens_append]
    rfl
  | block kind name body next ihbody ihnext =>
    -- The body is a message with the end tag behind it, and the rest is one behind the end tag.
    have hm : kind.marker.opensSection := by cases kind <;> rfl
    simp only [Message.tokens, Node.ofTokens_append, List.append_assoc] at h
    rw [run_of_step (step_section hm (atTag_of_tag h)), name.check, attempt_ok, ok_bind,
      Message.emission, Message.lookUp_top]
    cases hlookup : w.scopes.resolve name.text with
    | error e => simp [runAfter, RenderFailure.early, RenderFailure.after, failure]
    | ok lookup =>
      simp only [attempt_ok, mapError_ok, ok_bind, pure_eq_ok]
      rw [skipTag_eq_past h, run_enter ihbody rfl rfl, runAfter_past]
      have hnodes : Node.ofTokens d (Message.block kind name body next).tokens =
          (Node.ofTokens d (kind.marker.tag name.text) ++ (Node.ofTokens d body.tokens ++
            Node.ofTokens d (Marker.sectionClose.tag name.text))) ++
              Node.ofTokens d next.tokens := by
        simp only [Message.tokens, Node.ofTokens_append, List.append_assoc]
      rw [hnodes]
      exact runAfter_andThen fun output index => ihnext rfl

end Walk

/-- **Cursor and tree agree.** -/
theorem render_eq_of_message (r : Renderer) (template : String) (context : Value)
    (message : Message) (h : tokenize template = message.tokens) :
    r.render template context = message.render context := by
  have hrest : (Walk.start template context).tape.rest = Node.ofTokens 0 message.tokens ++ [] := by
    rw [List.append_nil, ← h]
    rfl
  rw [Renderer.render, Walk.run_message message hrest, Walk.runAfter, Message.render]
  have houtput : (Walk.start template context).output = "" := rfl
  rw [houtput, Emission.onto_empty, map_eq_pure_bind]
  exact bind_congr fun p => Walk.run_of_end (Walk.step_end rfl rfl)

/-- A loop that writes the position and the value of each element. -/
def positions : Message :=
  .text "" (.block .steppingIn ⟨"xs", .inr (checkCharacters_eq_ok_iff.mp rfl)⟩
    (.text "" (.print true ⟨"@index", .inr (checkCharacters_eq_ok_iff.mp rfl)⟩
      (.text "" (.print true ⟨".", .inl rfl⟩
        (.text " " .nil)))))
    (.text "" .nil))

theorem render_positions :
    (⟨(∅ : Store).loader, {}⟩ : Renderer).render
        "\x7b\x7b#xs\x7d\x7d\x7b\x7b@index\x7d\x7d\x7b\x7b.\x7d\x7d \x7b\x7b/xs\x7d\x7d"
        (.object [("xs", .array [.string "a", .string "b"])]) = .ok "0a 1b " := by
  rw [render_eq_of_message _ _ _ positions (by decide +kernel)]
  rfl

end Mustache
