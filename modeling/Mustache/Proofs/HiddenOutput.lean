import Mustache.Proofs.Halt
import Mustache.Proofs.Restoration
/-!
# Hidden regions write nothing

Only a text and a variable tag write something, and they do so only where the walk is visible. What has
to be shown is that nothing in a hidden region makes the walk visible again: not a section whose test
passes, not the end of one, not a pass of a loop, and not a tag that a partial brought in.

* `Walk.message r w`: walks on to the end of the message that the walk is in, over whole sections with
  all their passes. It is the first part of the run (`run_eq_messageIn`) and stays in the sections
  that are open at its start (`within_of_messageIn`).
* `output_of_next`, `output_of_failure`: an invisible step writes nothing, whether it goes on or fails,
  and whatever tokens stand ahead.
* `hidden_regions_write_nothing`: no message that begins invisibly writes anything, and a render has
  written the same at each point between the start and the end of a section whose test fails.
-/

namespace Mustache

namespace Walk

variable {r : Renderer} {first u b w w' : Walk} {f : RenderFailure} {m : Marker} {name : String}

/-! ### The message that a walk is in -/

/-- Whether nothing is ahead, or an end tag. -/
def endsMessage (w : Walk) : Bool :=
  match w.tape.rest with
  | [] | ⟨.marker .sectionClose, _⟩ :: _ => true
  | _ => false

theorem endsMessage_iff : w.endsMessage = true ↔ w.AtEnd := by
  unfold endsMessage AtEnd
  split <;> simp_all

instance (w : Walk) : Decidable w.AtEnd := decidable_of_iff _ endsMessage_iff

/-- Walks on to the end of a message, in the given number of open sections. -/
def messageIn (r : Renderer) (sections : Nat) (w : Walk) : Except RenderFailure Walk :=
  if w.AtEnd ∧ w.opened.length = sections then .ok w
  else
    match _h : w.step r with
    | .ok (some next) => next.messageIn r sections
    | .ok none => .ok w
    | .error failure => .error failure
termination_by w.workload r.options.maxPartialDepth
decreasing_by exact step_decreases _h

/-- Walks on to the end of the message that the walk is in. -/
def message (r : Renderer) (w : Walk) : Except RenderFailure Walk :=
  w.messageIn r w.opened.length

/-- **A run goes on behind the message that it is in.** -/
theorem run_eq_messageIn (r : Renderer) (sections : Nat) (w : Walk) :
    w.run r = w.messageIn r sections >>= run r := by
  fun_induction messageIn r sections w with
  | case1 => rfl
  | case2 w _ next hnext ih => rw [run_of_next hnext, ih]
  | case3 => rfl
  | case4 w _ failure hf => rw [run_of_failure hf, error_bind]

theorem Within.suffix (h : Within r b w) : b.opened <:+ w.opened := by
  cases h with
  | refl => exact List.suffix_rfl
  | step _ _ hinside => exact hinside

/-- Open sections are left by a step only where a message in them ends. -/
theorem suffix_of_next {opened : List OpenSection} (hnext : Next r w w')
    (hsub : opened <:+ w.opened) (hinside : ¬ (w.AtEnd ∧ w.opened.length = opened.length)) :
    opened <:+ w'.opened := by
  -- At the end of a message in further sections, it is one of these that is left or begun anew.
  have hinner {s : OpenSection} {outer : List OpenSection} (hend : w.AtEnd)
      (ho : w.opened = s :: outer) : opened <:+ outer := by
    rw [ho] at hsub
    obtain rfl | hsub := List.suffix_cons_iff.mp hsub
    · exact absurd ⟨hend, congrArg List.length ho⟩ hinside
    · exact hsub
  cases move_of_next hnext with
  | @text s => exact (opened_emit w s).symm ▸ hsub
  | @print m name text => exact (opened_emit w.skipTag text).symm ▸ hsub
  | comment | splice => exact hsub
  | @enter m name lookup =>
    obtain ⟨framed, ho⟩ | ⟨remaining, ho, -⟩ := opened_enter w.skipTag m name lookup
    · exact ho ▸ hsub.trans (List.suffix_cons _ _)
    · exact ho ▸ hsub.trans (List.suffix_cons _ _)
  | nextPass hend ho => exact (hinner hend ho).trans (List.suffix_cons _ _)
  | @close name region outer d tail htag ho hr =>
    show opened <:+ (w.leave region outer).opened
    rw [opened_leave]
    exact hinner htag.atEnd ho

/-- **A message is walked in the sections around it**, to its end or to an error. -/
theorem within_of_messageIn (h : Within r b w) :
    (∀ w', w.messageIn r b.opened.length = .ok w' →
        Within r b w' ∧ w'.AtEnd ∧ w'.opened = b.opened) ∧
      ∀ f, w.messageIn r b.opened.length = .error f →
        ∃ last, Within r b last ∧ last.step r = .error f := by
  fun_induction messageIn r b.opened.length w with
  | case1 w hend =>
    refine ⟨?_, nofun⟩
    intro w' hw
    obtain rfl := Except.ok.inj hw
    exact ⟨h, hend.1, (h.suffix.eq_of_length hend.2.symm).symm⟩
  | case2 w hend next hnext ih => exact ih (h.step hnext (suffix_of_next hnext h.suffix hend))
  | case3 w hend hstep =>
    -- A walk ends in no section, and so the message has ended before.
    obtain ⟨hrest, ho⟩ := of_step_end hstep
    have hlength := h.suffix.length_le
    rw [ho, List.length_nil, Nat.le_zero] at hlength
    exact absurd ⟨.inl hrest, by rw [ho, hlength, List.length_nil]⟩ hend
  | case4 w hend f hf =>
    refine ⟨nofun, ?_⟩
    intro f' hf'
    obtain rfl := Except.error.inj hf'
    exact ⟨w, h, hf⟩

/-! ### Invisible steps -/

/-- Whatever the computation comes to, nothing has been written since `w`. -/
def WritesNothing (w : Walk) (result : Except RenderFailure Walk) : Prop :=
  written (output <$> result) = w.output

theorem emit_of_invisible (h : w.visible = false) (text : String) : w.emit text = w := by
  rw [emit, h]
  rfl

/-- A part that fails writes nothing, so that it is the rest that counts. -/
theorem writesNothing_bind {α : Type} {x : Except RenderError α} {g : α → Except RenderFailure Walk}
    (hu : u.output = w.output) (hrest : ∀ a, w.WritesNothing (g a)) :
    w.WritesNothing (u.attempt x >>= g) := by
  cases x with
  | ok a => exact hrest a
  | error e => exact hu

theorem writesNothing_walkVariableBy (h : w.visible = false) (answers : Answers) (m : Marker) :
    w.WritesNothing (w.walkVariableBy answers m) := by
  unfold walkVariableBy
  refine writesNothing_bind rfl fun ⟨name, tape⟩ => ?_
  refine writesNothing_bind rfl fun _ => ?_
  refine writesNothing_bind rfl fun text => ?_
  -- The text would be written here.
  have hemit : ({ w with tape } : Walk).emit text = { w with tape } :=
    emit_of_invisible (w := { w with tape }) h text
  simp only [hemit]
  exact writesNothing_bind rfl fun tape => rfl

theorem writesNothing_walkComment (w : Walk) : w.WritesNothing w.walkComment := by
  unfold walkComment
  exact writesNothing_bind rfl fun ⟨_, tape⟩ => writesNothing_bind rfl fun tape => rfl

theorem writesNothing_walkSectionBy (w : Walk) (answers : Answers) (m : Marker) :
    w.WritesNothing (w.walkSectionBy answers m) := by
  unfold walkSectionBy
  refine writesNothing_bind rfl fun ⟨name, tape⟩ => ?_
  refine writesNothing_bind rfl fun _ => ?_
  refine writesNothing_bind rfl fun lookup => ?_
  refine writesNothing_bind rfl fun tape => ?_
  exact output_enter _ m name lookup

theorem writesNothing_walkPartialBy (w : Walk) (answers : Answers) (r : Renderer) (tag : Tape)
    (m : Marker) (depth : Nat) : w.WritesNothing (w.walkPartialBy answers r tag m depth) := by
  unfold walkPartialBy
  refine writesNothing_bind rfl fun ⟨reference, tape⟩ => ?_
  refine writesNothing_bind rfl fun _ => ?_
  refine writesNothing_bind rfl fun tape => ?_
  exact writesNothing_bind rfl fun nodes => rfl

theorem writesNothing_walkEnd (w : Walk) (name : String) : w.WritesNothing (w.walkEnd name) := by
  unfold walkEnd
  refine writesNothing_bind rfl fun tape => ?_
  refine writesNothing_bind rfl fun ⟨found, tape⟩ => ?_
  refine writesNothing_bind rfl fun _ => ?_
  exact writesNothing_bind rfl fun tape => rfl

/-- Where a message ends, nothing is written, be the walk visible or not. -/
theorem endMessage_writesNothing (w : Walk) :
    w.endMessage = .ok none ∨ ∃ c, w.endMessage = some <$> c ∧ w.WritesNothing c := by
  unfold endMessage
  split
  · split
    · exact .inl rfl
    · exact .inr ⟨.error _, rfl, rfl⟩
  · exact .inr ⟨.ok _, rfl, rfl⟩
  · rename_i name region outer _ _
    have houtput := output_leave w region outer
    refine .inr ⟨_, rfl, ?_⟩
    rw [WritesNothing, ← houtput]
    exact writesNothing_walkEnd _ name

/-- **An invisible step writes nothing**, whatever stands ahead. -/
theorem step_writesNothing (h : w.visible = false) :
    w.step r = .ok none ∨ ∃ c, w.step r = some <$> c ∧ w.WritesNothing c := by
  unfold step stepBy
  split
  · exact endMessage_writesNothing w
  · rename_i s d tail hrest
    refine .inr ⟨.ok _, rfl, ?_⟩
    show (w.emit s).output = w.output
    rw [emit_of_invisible h]
  · split
    · exact endMessage_writesNothing w
    · exact .inr ⟨.error _, rfl, rfl⟩
    · exact .inr ⟨.error _, rfl, rfl⟩
    · exact .inr ⟨_, rfl, writesNothing_walkVariableBy (w := w.advance) h _ _⟩
    · exact .inr ⟨_, rfl, writesNothing_walkVariableBy (w := w.advance) h _ _⟩
    · exact .inr ⟨_, rfl, writesNothing_walkComment w.advance⟩
    · exact .inr ⟨_, rfl, writesNothing_walkPartialBy w.advance _ r _ _ _⟩
    · exact .inr ⟨_, rfl, writesNothing_walkPartialBy w.advance _ r _ _ _⟩
    all_goals exact .inr ⟨_, rfl, writesNothing_walkSectionBy w.advance _ _⟩

theorem output_of_next (h : w.visible = false) (hnext : Next r w w') : w'.output = w.output := by
  obtain hend | ⟨c, hc, hwrites⟩ := step_writesNothing (r := r) h
  · rw [Next, hend] at hnext
    simp at hnext
  · rw [Next, hc, map_some_eq_ok_iff] at hnext
    subst hnext
    exact hwrites

theorem output_of_failure (h : w.visible = false) (hf : w.step r = .error f) :
    f.output = w.output := by
  obtain hend | ⟨c, hc, hwrites⟩ := step_writesNothing (r := r) h
  · simp [hend] at hf
  · rw [hc, map_some_eq_error_iff] at hf
    subst hf
    exact hwrites

/-! ### Hidden regions -/

/-- **Inside of what is hidden nothing is written.** -/
theorem output_of_within (h : Within r b w) (hb : b.visible = false) : w.output = b.output := by
  induction h with
  | refl => rfl
  | step hwithin hnext _ ih => exact (output_of_next (dark_of_within hwithin hb).here hnext).trans ih

theorem output_of_message (h : w.visible = false) : written (output <$> w.message r) = w.output := by
  have hwithin := within_of_messageIn (w := w) (.refl (r := r))
  unfold message
  cases hmessage : w.messageIn r w.opened.length with
  | ok last => exact output_of_within (hwithin.1 last hmessage).1 h
  | error f =>
    obtain ⟨last, hlast, hf⟩ := hwithin.2 f hmessage
    have hhidden := (dark_of_within hlast h).here
    exact (output_of_failure hhidden hf).trans (output_of_within hlast h)

/-- **Hidden regions write nothing.**

* Each walk begins with the message that it is in, which ends in the sections in which it began. A
  message that begins invisibly has written nothing when it has come to its end or to an error, whatever
  the walk is otherwise.
* From the start of a section whose test fails to the end of it, each walk has written what was written
  in front of the section. So has the walk behind the end of the section, and if the render fails in
  between, this is its output. -/
theorem hidden_regions_write_nothing (r : Renderer) :
    (∀ w : Walk, w.run r = w.message r >>= run r ∧
        (∀ last, w.message r = .ok last → last.AtEnd ∧ last.opened = w.opened) ∧
        (w.visible = false → written (output <$> w.message r) = w.output)) ∧
      ∀ (template : String) (context : Value) (u b w : Walk),
        Reaches r (start template context) u → Hides r u b → Within r b w →
          w.output = u.output ∧
            (∀ w', Next r w w' → w'.output = u.output) ∧
            ∀ f, w.step r = .error f →
              r.render template context = .error ⟨u.output, f.error⟩ := by
  constructor
  · intro w
    refine ⟨run_eq_messageIn r w.opened.length w, ?_, output_of_message⟩
    intro last hlast
    exact ((within_of_messageIn .refl).1 last hlast).2
  intro template context u b w hu hhides hwithin
  have hhidden := (dark_of_within hwithin hhides.visible).here
  -- The first tag of the section writes nothing itself.
  have hstart : b.output = u.output := by
    cases hhides with
    | mk hm htag hname hlookup hfails => exact output_enter u.skipTag _ _ _
  have houtput : w.output = u.output := (output_of_within hwithin hhides.visible).trans hstart
  refine ⟨houtput, ?_, ?_⟩
  · intro w' hnext
    exact (output_of_next hhidden hnext).trans houtput
  · intro f hf
    have hreaches : Reaches r (start template context) w :=
      (hu.tail hhides.next).trans hwithin.reaches
    rw [Renderer.render, hreaches.run_eq, run_of_failure hf, ← houtput,
      ← output_of_failure hhidden hf]

/-- A section that is hidden, with a loop over a partial in it, and not closed. -/
def hiddenLoop : String :=
  "x\x7b\x7b=t\x7d\x7dy\x7b\x7b#l\x7d\x7d\x7b\x7b\x7b.\x7d\x7d\x7d\x7b\x7b>p\x7d\x7d\x7b\x7b/l\x7d\x7d"

/-- The partial in it. -/
def shownPartial : Renderer := ⟨(Store.mk [("p.mustache", "\x7b\x7b.\x7d\x7dz")]).loader, {}⟩

/-- The elements of the loop. -/
def twoElements : Value := .object [("l", .array [.bool true, .bool true])]

/-- What a render of it has written in front of the section is all that it writes. -/
theorem render_hiddenLoop : ∃ u b, Reaches shownPartial (start hiddenLoop twoElements) u ∧
    Hides shownPartial u b ∧ u.output = "x" ∧ written (output <$> b.message shownPartial) = "x" ∧
    shownPartial.render hiddenLoop twoElements = .error ⟨"x", .missing .sectionClose⟩ := by
  have hwalk : ((start hiddenLoop twoElements).after shownPartial 22).map
      (fun w => (w.visible, w.output, w.halted? shownPartial)) =
      some (false, "x", some ⟨"x", .missing .sectionClose⟩) := by
    decide +kernel
  obtain ⟨w, hw, heq⟩ := Option.map_eq_some_iff.mp hwalk
  obtain ⟨hvisible, heq⟩ := Prod.mk.inj heq
  obtain ⟨houtput, hfailure⟩ := Prod.mk.inj heq
  obtain ⟨u, b, hu, hhides, hwithin⟩ := (visible_eq_false_iff (reaches_of_after hw)).mp hvisible
  obtain ⟨hmessage, hregion⟩ := hidden_regions_write_nothing shownPartial
  obtain ⟨hsame, -, hrender⟩ := hregion hiddenLoop twoElements u b w hu hhides hwithin
  have hstart := hregion hiddenLoop twoElements u b b hu hhides .refl
  rw [houtput] at hsame
  refine ⟨u, b, hu, hhides, hsame.symm, ?_, ?_⟩
  · rw [(hmessage b).2.2 hhides.visible, hstart.1, hsame]
  · rw [hrender _ (halted?_eq_some_iff.mp hfailure), ← hsame]

end Walk

end Mustache
