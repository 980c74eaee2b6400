import Mustache.Proofs.Tag
/-!
# Frames and visibility in open sections

An open section keeps what is to be put back at its end: the visibility around it, and whether a
frame of its own is on the stack. `Walk.Nested visible w` says that frames and visibility go with
the open sections: there is one frame on top of the context for each section that put one there, and
outside of all sections the visibility is `visible`. Each step keeps it (`Nested.next`), so it holds
of every walk that a render comes to (`nested_of_reaches`).

In particular a walk that is in no open section has the context as its only frame.
-/

namespace Mustache

/-- Whether the section has a frame of its own. -/
def Region.framed : Region → Bool
  | .once _ framed => framed
  | .loop _ _ _ => true

namespace Walk

variable {r : Renderer} {w w' : Walk} {visible : Bool} {m : Marker} {name : String} {d : Nat}
  {tail : List Node}

/-- The number of frames that open sections have put on the stack. -/
def frameCount (opened : List OpenSection) : Nat := opened.countP fun s => s.region.framed

/-- The visibility outside of all open sections, where `visible` is the one inside. -/
def visibleOutside (visible : Bool) : List OpenSection → Bool
  | [] => visible
  | ⟨_, .once outerVisible _⟩ :: outer => visibleOutside outerVisible outer
  | ⟨_, .loop _ _ _⟩ :: outer => visibleOutside visible outer

/-- A section that is entered keeps the visibility around it, or it is a loop with the tokens that
have been passed before its body. -/
theorem opened_enter (w : Walk) (m : Marker) (name : String) (lookup : Lookup) :
    (∃ framed, (w.enter m name lookup).opened = ⟨name, .once w.visible framed⟩ :: w.opened) ∨
      ∃ remaining, (w.enter m name lookup).opened =
        ⟨name, .loop w.tape.passed 0 remaining⟩ :: w.opened ∧ shows m lookup = true := by
  unfold enter
  split
  · rename_i v vs
    exact .inr ⟨vs, rfl, rfl⟩
  · exact .inl ⟨true, rfl⟩
  · exact .inl ⟨false, rfl⟩

theorem visible_enter (w : Walk) (m : Marker) (name : String) (lookup : Lookup) :
    (w.enter m name lookup).visible = (w.visible && shows m lookup) := by
  unfold enter
  split
  -- A loop has elements, so that its value is truthy.
  · exact (Bool.and_true w.visible).symm
  · rfl
  · rfl

/-- Frames and visibility go with the open sections. -/
structure Nested (visible : Bool) (w : Walk) : Prop where
  /-- There is a frame for each section that has one. -/
  frames : w.scopes.below.length = frameCount w.opened
  /-- The visibility outside of all sections. -/
  outside : visibleOutside w.visible w.opened = visible

theorem nested_start (template : String) (context : Value) :
    (start template context).Nested true := ⟨rfl, rfl⟩

theorem Nested.emit (h : w.Nested visible) (text : String) : (w.emit text).Nested visible := by
  constructor
  · rw [scopes_emit, opened_emit]
    exact h.frames
  · rw [visible_emit, opened_emit]
    exact h.outside

theorem Nested.enter (h : w.Nested visible) (m : Marker) (name : String) (lookup : Lookup) :
    (w.enter m name lookup).Nested visible := by
  have hframes := h.frames
  unfold Walk.enter
  split
  · refine ⟨?_, h.outside⟩
    simp [Scopes.push, Scopes.setIndex, Scopes.frames, frameCount, Region.framed, hframes]
  · refine ⟨?_, h.outside⟩
    simp [Scopes.push, Scopes.frames, frameCount, Region.framed, hframes]
  · refine ⟨?_, h.outside⟩
    simp [frameCount, Region.framed, hframes]

/-- In a section with a frame of its own there is a frame to take off. -/
theorem Nested.exists_below (h : w.Nested visible) {region : Region} {outer : List OpenSection}
    (ho : w.opened = ⟨name, region⟩ :: outer) (hframed : region.framed) :
    ∃ frame below, w.scopes.below = frame :: below ∧ below.length = frameCount outer := by
  have hframes := h.frames
  have hcount : frameCount (⟨name, region⟩ :: outer) = frameCount outer + 1 :=
    List.countP_cons_of_pos (p := fun s : OpenSection => s.region.framed) hframed
  rw [ho, hcount] at hframes
  -- The count is positive, so the context is not the only frame.
  match w.scopes.below, hframes with
  | frame :: below, hframes => exact ⟨frame, below, rfl, by simpa using hframes⟩

theorem Nested.below_drop (h : w.Nested visible) {region : Region} {outer : List OpenSection}
    (ho : w.opened = ⟨name, region⟩ :: outer) (hframed : region.framed) :
    w.scopes.drop.below.length = frameCount outer := by
  obtain ⟨frame, below, hbelow, hlength⟩ := h.exists_below ho hframed
  have hdrop : w.scopes.drop.below = below := by simp [Scopes.drop, Scopes.pop?, hbelow]
  rw [hdrop, hlength]

theorem Nested.nextPass (h : w.Nested visible) {outerPassed : List Node} {pass next : Nat}
    {v : Value} {remaining remaining' : List Value} {outer : List OpenSection}
    (ho : w.opened = ⟨name, .loop outerPassed pass remaining⟩ :: outer) :
    (w.nextPass name outerPassed next v remaining' outer).Nested visible := by
  have hdrop := h.below_drop ho rfl
  have houtside := h.outside
  rw [ho] at houtside
  refine ⟨?_, houtside⟩
  simpa [Walk.nextPass, Scopes.push, Scopes.setIndex, Scopes.frames, frameCount, Region.framed]
    using hdrop

theorem Nested.leave (h : w.Nested visible) {region : Region} {outer : List OpenSection}
    (ho : w.opened = ⟨name, region⟩ :: outer) : (w.leave region outer).Nested visible := by
  have houtside := h.outside
  rw [ho] at houtside
  cases region with
  | once outerVisible framed =>
    cases framed with
    | false =>
      have hframes := h.frames
      rw [ho] at hframes
      exact ⟨hframes, houtside⟩
    | true => exact ⟨h.below_drop ho rfl, houtside⟩
  | loop outerPassed pass remaining => exact ⟨h.below_drop ho rfl, houtside⟩

/-- **A step keeps frames and visibility with the open sections.** -/
theorem Nested.next (h : w.Nested visible) (hnext : Next r w w') : w'.Nested visible := by
  have hskip : w.skipTag.Nested visible := ⟨h.frames, h.outside⟩
  cases move_of_next hnext with
  | @text s =>
    have hemit := h.emit s
    exact ⟨hemit.frames, hemit.outside⟩
  | print hm htag hname htext => exact hskip.emit _
  | comment htag => exact hskip
  | enter hm htag hname hlookup => exact hskip.enter _ _ _
  -- A partial comes in without a frame of its own.
  | splice hm htag hreference hnodes => exact ⟨h.frames, h.outside⟩
  | nextPass hend ho => exact h.nextPass ho
  | close htag ho hr =>
    have hleave := h.leave ho
    exact ⟨hleave.frames, hleave.outside⟩

/-- **In every walk that a render comes to, frames and visibility go with the open sections.** -/
theorem nested_of_reaches {template : String} {context : Value}
    (h : Reaches r (start template context) w) : w.Nested true :=
  h.preserves (nested_start template context) Nested.next

end Walk

end Mustache
