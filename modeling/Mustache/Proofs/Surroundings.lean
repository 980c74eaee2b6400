import Mustache.Proofs.Nesting
import Mustache.Proofs.Sentence
/-!
# A walk inside another

What a part of a template writes does not depend on what is around it, as long as the part is a
sentence that is walked in frames of its own. `Surroundings` is what may be around: tokens behind
the part, frames below its own, text written before it, and sections that are open.

* `c.place w` is the walk `w` in the surroundings `c`.
* `step_place`: as long as it is over tokens of the part (`Walk.Ahead`), a step in the surroundings is a
  step of `w`.
* `run_place`: a run in the surroundings runs through the part first and then goes on from where the
  part has come to its end; a failure in the part is one in the surroundings, with the text written
  before.

The tokens behind the part must not be taken for a part of it, and the frames below it must stay
where they are. That is what `Walk.Balanced` and `Walk.Nested` are for.
-/

namespace Mustache

/-! ### Tokens ahead -/

/-- What the next step is over is among the tokens ahead. -/
inductive Walk.Ahead (w : Walk) : Prop where
  /-- A text. -/
  | text {s : String} {d : Nat} {tail : List Node} (h : w.tape.rest = ⟨.text s, d⟩ :: tail)
  /-- A whole tag, which ends no section or one that is open. -/
  | tag {m : Marker} {name : String} {d : Nat} {tail : List Node} (h : w.AtTag m name d tail)
    (hm : m.opensSingle ∨ m.opensSection ∨ m = .sectionClose ∧ w.opened ≠ [])
  /-- The end of a pass. -/
  | nextPass {name : String} {outerPassed : List Node} {pass : Nat} {v : Value}
    {remaining : List Value} {outer : List OpenSection} {d : Nat} {tail : List Node}
    (h : w.tape.rest = ⟨.marker .sectionClose, d⟩ :: tail)
    (ho : w.opened = ⟨name, .loop outerPassed pass (v :: remaining)⟩ :: outer)

/-- A step that goes on is over some of the tokens ahead, if there are any. -/
theorem Walk.ahead_of_next {r : Renderer} {w w' : Walk} (hrest : w.tape.rest ≠ [])
    (hnext : Next r w w') : w.Ahead := by
  cases move_of_next hnext with
  | text htext => exact .text htext
  | print hm htag hname htext => exact .tag htag (.inl (by simp [Marker.opensSingle, hm]))
  | comment htag => exact .tag htag (.inl rfl)
  | enter hm htag hname hlookup => exact .tag htag (.inr (.inl hm))
  | splice hm htag hreference hnodes => exact .tag htag (.inl (by simp [Marker.opensSingle, hm]))
  | nextPass hend ho =>
    obtain ⟨d, tail, hend⟩ := hend.resolve_left hrest
    exact .nextPass hend ho
  | close htag ho hr => exact .tag htag (.inr (.inr ⟨rfl, by simp [ho]⟩))

/-- A balanced walk has whole tags ahead. -/
theorem Walk.Balanced.ahead {w : Walk} (h : w.Balanced) (hrest : w.tape.rest ≠ []) : w.Ahead := by
  match hnodes : w.tape.rest, hrest with
  | ⟨.text s, d⟩ :: tail, _ => exact .text hnodes
  | ⟨.marker m, d⟩ :: tail, _ =>
    obtain ⟨name, tail', htag, ⟨hm, -⟩ | ⟨hm, -⟩ | ⟨rfl, n, hn, -⟩⟩ := h.of_marker hnodes
    · exact .tag htag (.inl hm)
    · exact .tag htag (.inr (.inl hm))
    -- A balanced walk has no end tag ahead without a section.
    · refine .tag htag (.inr (.inr ⟨rfl, fun ho => ?_⟩))
      simp [ho] at hn

/-! ### Surroundings -/

/-- What is around a part of a template. -/
structure Surroundings where
  /-- The tokens behind the part. -/
  tail : List Node
  /-- The frames below those of the part. -/
  below : List Value
  /-- What has been written before. -/
  output : String
  /-- The sections that are open around the part. -/
  opened : List OpenSection

namespace Surroundings

open Walk

/-- The frames of the part, with those below it. -/
def under (c : Surroundings) (s : Scopes) : Scopes := ⟨s.top, s.below ++ c.below, s.index⟩

/-- The walk in its surroundings. -/
def place (c : Surroundings) (w : Walk) : Walk where
  tape := ⟨w.tape.passed, w.tape.rest ++ c.tail⟩
  scopes := c.under w.scopes
  visible := w.visible
  output := c.output ++ w.output
  opened := w.opened ++ c.opened

/-- What comes out in the surroundings. -/
def lift {α : Type} (c : Surroundings) (x : Except RenderFailure α) : Except RenderFailure α :=
  x.mapError (·.after c.output)

variable (c : Surroundings) {r : Renderer} {w w' : Walk} {m : Marker} {name : String} {d : Nat}
  {tail : List Node} {visible : Bool}

@[simp] theorem lift_ok {α : Type} (a : α) : c.lift (.ok a) = .ok a := rfl

@[simp] theorem lift_error {α : Type} (f : RenderFailure) :
    c.lift (.error f : Except RenderFailure α) = .error (f.after c.output) := rfl

theorem attempt_place {α : Type} (w : Walk) (x : Except RenderError α) :
    (c.place w).attempt x = c.lift (w.attempt x) := by
  cases x with
  | ok a => rfl
  | error e => rfl

/-- Names are looked up in the top frame. -/
theorem resolve_place (w : Walk) (name : String) :
    (c.place w).scopes.resolve name = w.scopes.resolve name := rfl

theorem included_place (w : Walk) (m : Marker) (d : Nat) (reference : String) :
    (c.place w).included r m d reference = w.included r m d reference := rfl

theorem variableText_place (w : Walk) (m : Marker) (name : String) :
    (c.place w).variableText m name = w.variableText m name := rfl

theorem emit_place (w : Walk) (text : String) :
    (c.place w).emit text = c.place (w.emit text) := by
  by_cases h : w.visible <;> simp [Walk.emit, place, h, String.append_assoc]

theorem advance_place {node : Node} (h : w.tape.rest = node :: tail) :
    (c.place w).advance = c.place w.advance := by
  simp [Walk.advance, Tape.advance, place, h]

theorem atTag_place (h : w.AtTag m name d tail) : (c.place w).AtTag m name d (tail ++ c.tail) := by
  obtain ⟨d₂, d₃, h⟩ := h
  exact ⟨d₂, d₃, by rw [place, h]; rfl⟩

theorem skipTag_place (h : w.AtTag m name d tail) :
    (c.place w).skipTag = c.place w.skipTag := by
  obtain ⟨d₂, d₃, h⟩ := h
  have hname := Tape.rest_advance h
  have hclose := Tape.rest_advance hname
  rw [Walk.skipTag, c.advance_place h, c.advance_place (w := w.advance) hname,
    c.advance_place (w := w.advance.advance) hclose]
  rfl

theorem enter_place (w : Walk) (m : Marker) (name : String) (lookup : Lookup) :
    (c.place w).enter m name lookup = c.place (w.enter m name lookup) := by
  unfold Walk.enter
  split
  · rfl
  · rfl
  · rfl

/-- The frame of an open section is one of the part. -/
theorem drop_under (h : w.Nested visible) {region : Region} {outer : List OpenSection}
    (ho : w.opened = ⟨name, region⟩ :: outer) (hframed : region.framed) :
    (c.under w.scopes).drop = c.under w.scopes.drop := by
  obtain ⟨frame, below, hbelow, -⟩ := h.exists_below ho hframed
  simp [Scopes.drop, Scopes.pop?, under, hbelow]

/-- A section of the part puts back what is the part's own. -/
theorem leave_place (h : w.Nested visible) {region : Region} {outer : List OpenSection}
    (ho : w.opened = ⟨name, region⟩ :: outer) :
    (c.place w).leave region (outer ++ c.opened) = c.place (w.leave region outer) := by
  cases region with
  | once outerVisible framed =>
    cases framed with
    | false => rfl
    | true => simp only [Walk.leave, place, c.drop_under h ho rfl, if_true]
  | loop outerPassed pass remaining =>
    simp only [Walk.leave, place, c.drop_under h ho rfl]
    rfl

theorem nextPass_place (h : w.Nested visible) {outerPassed : List Node} {pass next : Nat}
    {v : Value} {remaining remaining' : List Value} {outer : List OpenSection}
    (ho : w.opened = ⟨name, .loop outerPassed pass remaining⟩ :: outer) :
    (c.place w).nextPass name outerPassed next v remaining' (outer ++ c.opened) =
      c.place (w.nextPass name outerPassed next v remaining' outer) := by
  simp only [Walk.nextPass, place, c.drop_under h ho rfl, ← List.append_assoc]
  rfl

/-! ### Steps -/

theorem step_place_of_opensSingle (htag : w.AtTag m name d tail) (hm : m.opensSingle) :
    (c.place w).step r = Option.map c.place <$> c.lift (w.step r) := by
  have htag' := c.atTag_place htag
  obtain (hvariable | rfl) | hpartial : (m.opensVariable ∨ m = .comment) ∨ m.opensPartial := by
    simpa [Marker.opensSingle] using hm
  · rw [step_variable hvariable htag, step_variable hvariable htag', attempt_place, attempt_place,
      variableText_place, skipTag_place c htag]
    cases checkTagName name with
    | error e => rfl
    | ok u =>
      cases w.variableText m name with
      | error e => rfl
      | ok text => simp [emit_place]
  · rw [step_comment htag, step_comment htag', skipTag_place c htag]
    rfl
  · rw [step_partial hpartial htag, step_partial hpartial htag', attempt_place, attempt_place,
      included_place]
    cases checkReference name with
    | error e => rfl
    | ok u =>
      cases w.included r m d name with
      | error e => rfl
      | ok nodes => simp [place]

theorem step_place_of_opensSection (htag : w.AtTag m name d tail) (hm : m.opensSection) :
    (c.place w).step r = Option.map c.place <$> c.lift (w.step r) := by
  have htag' := c.atTag_place htag
  rw [step_section hm htag, step_section hm htag', attempt_place, attempt_place, resolve_place,
    skipTag_place c htag]
  cases checkTagName name with
  | error e => rfl
  | ok u =>
    cases w.scopes.resolve name with
    | error e => rfl
    | ok lookup => simp [enter_place]

theorem step_place_of_text {s : String} (hrest : w.tape.rest = ⟨.text s, d⟩ :: tail) :
    (c.place w).step r = Option.map c.place <$> c.lift (w.step r) := by
  have hplaced : (c.place w).tape.rest = ⟨.text s, d⟩ :: (tail ++ c.tail) := by
    rw [place, hrest]
    rfl
  have hemit : (w.emit s).tape.rest = ⟨.text s, d⟩ :: tail := by rw [tape_emit, hrest]
  rw [step_text hrest, step_text hplaced, emit_place, advance_place c hemit]
  rfl

/-- At the end of a pass, the tokens of the pass are all from the part. -/
theorem step_place_of_nextPass (hn : w.Nested visible) {outerPassed : List Node} {pass : Nat}
    {v : Value} {remaining : List Value} {outer : List OpenSection}
    (hrest : w.tape.rest = ⟨.marker .sectionClose, d⟩ :: tail)
    (ho : w.opened = ⟨name, .loop outerPassed pass (v :: remaining)⟩ :: outer) :
    (c.place w).step r = Option.map c.place <$> c.lift (w.step r) := by
  have hplaced : (c.place w).tape.rest = ⟨.marker .sectionClose, d⟩ :: (tail ++ c.tail) := by
    rw [place, hrest]
    rfl
  have hopened : (c.place w).opened =
      ⟨name, .loop outerPassed pass (v :: remaining)⟩ :: (outer ++ c.opened) := by
    rw [place, ho]
    rfl
  rw [step_nextPass (.inr ⟨d, tail, hrest⟩) ho, step_nextPass (.inr ⟨d, _, hplaced⟩) hopened,
    nextPass_place c hn ho]
  rfl

theorem step_place_of_sectionClose (hn : w.Nested visible)
    (htag : w.AtTag .sectionClose name d tail) (ho : w.opened ≠ []) :
    (c.place w).step r = Option.map c.place <$> c.lift (w.step r) := by
  have htag' := c.atTag_place htag
  match ho' : w.opened, ho with
  | ⟨opening, region⟩ :: outer, _ =>
    have hplaced : (c.place w).opened = ⟨opening, region⟩ :: (outer ++ c.opened) := by
      rw [place, ho']
      rfl
    obtain hdone | ⟨outerPassed, pass, v, remaining, rfl⟩ := region.isDone_or
    · rw [step_close htag ho' hdone, step_close htag' hplaced hdone, attempt_place,
        leave_place c hn ho', skipTag_place c (htag.leave region outer)]
      cases checkEndName opening name with
      | error e => rfl
      | ok u => rfl
    · obtain ⟨d₂, d₃, hrest⟩ := htag
      exact c.step_place_of_nextPass hn hrest ho'

/-- **A step in surroundings is a step of the part**, if it is over tokens of the part. -/
theorem step_place (hn : w.Nested visible) (h : w.Ahead) :
    (c.place w).step r = Option.map c.place <$> c.lift (w.step r) := by
  cases h with
  | text htext => exact c.step_place_of_text htext
  | tag htag hm =>
    obtain hm | hm | ⟨rfl, ho⟩ := hm
    · exact c.step_place_of_opensSingle htag hm
    · exact c.step_place_of_opensSection htag hm
    · exact c.step_place_of_sectionClose hn htag ho
  | nextPass hend ho => exact c.step_place_of_nextPass hn hend ho

/-- A step of a part over some of its tokens is a step in all surroundings. -/
theorem next_place (hn : w.Nested visible) (hrest : w.tape.rest ≠ []) (hnext : Next r w w') :
    Next r (c.place w) (c.place w') := by
  rw [Next, c.step_place hn (ahead_of_next hrest hnext), hnext]
  rfl

/-! ### Runs -/

/-- **A run in surroundings runs through the part first.** -/
theorem run_place (hr : r.LoadsSentences) (hb : w.Balanced) (hn : w.Nested visible) :
    (c.place w).run r = (do (c.place (← c.lift (w.finish r))).run r) := by
  induction w using run.induct r with
  | case1 w next hnext ih =>
    have hrest : w.tape.rest ≠ [] := by
      intro hrest
      simp [hb.step_end hrest] at hnext
    rw [finish_of_next hnext, ← ih (hb.next hr hnext) (hn.next hnext)]
    exact run_of_next (c.next_place hn hrest hnext)
  -- Behind its last token the part has come to its end, and the surroundings go on.
  | case2 w hend =>
    rw [finish_of_end hend]
    rfl
  | case3 w f hf =>
    have hrest : w.tape.rest ≠ [] := by
      intro hrest
      simp [hb.step_end hrest] at hf
    rw [finish_of_failure hf]
    refine run_of_failure ?_
    rw [c.step_place hn (hb.ahead hrest), hf]
    rfl

end Surroundings

end Mustache
