import Mustache.Proofs.HiddenRegion
import Mustache.Proofs.LoopIndex
/-!
# What a section puts back

A section changes the frames, the visibility and the index for its body, and a walk that has come
through it finds them as they were, but for the index: behind a loop it is zero. This holds of every
part of a template that leaves no section which was open before it, be it a whole message or a single
section, and wherever the tags of the part come from.

* `Walk.PutsOn r u v b`: one step puts the frame `v` on the stack, where a section or a pass begins.
  `Walk.TakesOff w`: the walk stands at the end of a section or a pass with a frame, which is taken off
  there. No other step takes a frame off (`FrameMove.suffix`).
* `Walk.Above b inner w`: what a walk `w` has beyond `b`, namely the sections `inner`, a frame for each
  of them that has one, and their part in the visibility. Every step keeps it (`Above.next`) that
  leaves none of the sections open in `b`.
* `Walk.Stretch r b looped w`: a run from `b` to `w` that leaves none of the sections open in `b`, and
  whether it has begun a loop.
* `scope_discipline`: the context stays at the bottom, each frame that is taken off is the one that was
  put on where its section or pass began, and frames, visibility and index are as they should be
  wherever a walk has come back to the sections that it was in.
-/

namespace Mustache

/-- The frame that a section starts with which steps into what has been found: the first element of an
array that has one, or the value itself. -/
def Lookup.firstFrame : Lookup → Value
  | found (.array (v :: _)) => v
  | lookup => lookup.valueOrNull

namespace Scopes

variable {s : Scopes} {frame : Value} {below : List Value}

/-- A frame that is not the only one can be taken off. -/
theorem exists_pop? (h : s.frames = frame :: below) (hbelow : below ≠ []) :
    ∃ rest, s.pop? = some (frame, rest) ∧ rest.frames = below := by
  obtain ⟨top, others, index⟩ := s
  obtain ⟨rfl, rfl⟩ := List.cons.inj h
  cases others with
  | nil => exact absurd rfl hbelow
  | cons next others => exact ⟨⟨next, others, index⟩, rfl, rfl⟩

theorem frames_drop (h : s.frames = frame :: below) (hbelow : below ≠ []) :
    s.drop.frames = below := by
  obtain ⟨rest, hpop, hrest⟩ := exists_pop? h hbelow
  rw [drop, hpop, hrest]

end Scopes

namespace Walk

variable {r : Renderer} {b u w w' : Walk} {v : Value} {m : Marker} {name : String} {lookup : Lookup}
  {s : OpenSection} {inner outer : List OpenSection}

/-! ### Putting frames on and taking them off -/

/-- One step into a section that steps into its value. -/
inductive StepsInto (r : Renderer) (u : Walk) : Lookup → Walk → Prop where
  /-- The section is opened under a name that was looked up. -/
  | mk {name : String} {lookup : Lookup} {d : Nat} {tail : List Node}
    (htag : u.AtTag .sectionOpen name d tail) (hname : checkTagName name = .ok ())
    (hlookup : u.scopes.resolve name = .ok lookup) :
    StepsInto r u lookup (u.skipTag.enter .sectionOpen name lookup)

/-- One step into a loop: the value of the section is an array with elements. -/
def BeginsLoop (r : Renderer) (u b : Walk) : Prop :=
  ∃ v vs, StepsInto r u (.found (.array (v :: vs))) b

/-- One step that puts a frame on the stack. -/
inductive PutsOn (r : Renderer) (u : Walk) : Value → Walk → Prop where
  /-- Where a section begins. -/
  | enter {lookup : Lookup} {b : Walk} (h : StepsInto r u lookup b) : PutsOn r u lookup.firstFrame b
  /-- Where a loop begins its next pass. The frame of the pass before is taken off first. -/
  | nextPass {name : String} {outerPassed : List Node} {pass : Nat} {v : Value}
    {remaining : List Value} {outer : List OpenSection} (h : u.AtEnd)
    (ho : u.opened = ⟨name, .loop outerPassed pass (v :: remaining)⟩ :: outer) :
    PutsOn r u v (u.nextPass name outerPassed (pass + 1) v remaining outer)

/-- The walk stands at the end of a section or a pass with a frame, and takes it off. -/
def TakesOff (w : Walk) : Prop :=
  w.AtEnd ∧ ∃ s outer, w.opened = s :: outer ∧ s.region.framed

theorem frames_enter_sectionOpen (w : Walk) (name : String) (lookup : Lookup) :
    (w.enter .sectionOpen name lookup).scopes.frames = lookup.firstFrame :: w.scopes.frames := by
  unfold enter Lookup.firstFrame
  split <;> simp_all

theorem PutsOn.top (h : PutsOn r u v b) : b.scopes.top = v := by
  cases h with
  | enter h =>
    cases h with
    | mk htag hname hlookup => exact (List.cons.inj (frames_enter_sectionOpen _ _ _)).1
  | nextPass hend ho => rfl

/-! ### One step -/

/-- What a step does to the open sections, the frames and the visibility. -/
inductive FrameMove (w w' : Walk) : Prop where
  /-- Nothing. -/
  | stay (ho : w'.opened = w.opened) (hf : w'.scopes.frames = w.scopes.frames)
    (hv : w'.visible = w.visible)
  /-- A section is opened. -/
  | opens {s : OpenSection} {put : List Value} (ho : w'.opened = s :: w.opened)
    (hf : w'.scopes.frames = put ++ w.scopes.frames) (hput : put.length = frameCount [s])
    (hv : visibleOutside w'.visible [s] = w.visible)
  /-- The innermost loop goes on to its next pass. -/
  | again {s s' : OpenSection} {outer : List OpenSection} {v : Value} (hend : w.AtEnd)
    (ho : w.opened = s :: outer) (ho' : w'.opened = s' :: outer) (hne : s ≠ s')
    (hs : s.region.framed) (hs' : s'.region.framed)
    (hf : w'.scopes.frames = v :: w.scopes.drop.frames)
    (hv : visibleOutside w'.visible [s'] = visibleOutside w.visible [s])
  /-- A section is left. -/
  | closes {s : OpenSection} (hend : w.AtEnd) (ho : w.opened = s :: w'.opened)
    (hf : w'.scopes.frames =
      if s.region.framed then w.scopes.drop.frames else w.scopes.frames)
    (hv : w'.visible = visibleOutside w.visible [s])

theorem exists_enter (w : Walk) (m : Marker) (name : String) (lookup : Lookup) :
    ∃ region put, (w.enter m name lookup).opened = ⟨name, region⟩ :: w.opened ∧
      (w.enter m name lookup).scopes.frames = put ++ w.scopes.frames ∧
      put.length = frameCount [⟨name, region⟩] ∧
      visibleOutside (w.enter m name lookup).visible [⟨name, region⟩] = w.visible ∧
      (region.framed → m = .sectionOpen) := by
  unfold enter
  split
  · exact ⟨_, [_], rfl, rfl, rfl, rfl, fun _ => rfl⟩
  · exact ⟨_, [_], rfl, rfl, rfl, rfl, fun _ => rfl⟩
  · exact ⟨_, [], rfl, rfl, rfl, rfl, nofun⟩

theorem opened_leave (w : Walk) (region : Region) (outer : List OpenSection) :
    (w.leave region outer).opened = outer := by
  cases region <;> rfl

theorem frameMove_of_next (h : Next r w w') : FrameMove w w' := by
  cases move_of_next h with
  | @text s =>
    exact .stay (opened_emit w s) (congrArg Scopes.frames (scopes_emit w s)) (visible_emit w s)
  | @print m name text =>
    exact .stay (opened_emit w.skipTag text) (congrArg Scopes.frames (scopes_emit w.skipTag text))
      (visible_emit w.skipTag text)
  | comment htag => exact .stay rfl rfl rfl
  | @enter m name lookup =>
    obtain ⟨region, put, ho, hf, hput, hv, -⟩ := exists_enter w.skipTag m name lookup
    exact .opens ho hf hput hv
  | splice hm htag hreference hnodes => exact .stay rfl rfl rfl
  | nextPass hend ho => exact .again hend ho rfl (by simp) rfl rfl rfl rfl
  | @close name region outer d tail htag ho hr =>
    have hopened : (w.leave region outer).skipTag.opened = outer := opened_leave w region outer
    refine .closes htag.atEnd (hopened.symm ▸ ho) ?_ ?_
    · cases region with
      | once outerVisible framed => cases framed <;> rfl
      | loop outerPassed pass remaining => rfl
    · cases region <;> rfl

/-- **No other step takes a frame off.** -/
theorem FrameMove.suffix (h : FrameMove w w') (hw : ¬ w.TakesOff) :
    w.scopes.frames <:+ w'.scopes.frames := by
  cases h with
  | stay ho hf hv => exact hf ▸ List.suffix_rfl
  | opens ho hf hput hv => exact hf ▸ List.suffix_append _ _
  | again hend ho ho' hne hs => exact absurd ⟨hend, _, _, ho, hs⟩ hw
  | @closes s hend ho hf hv =>
    have hs : ¬ s.region.framed := fun hs => hw ⟨hend, _, _, ho, hs⟩
    exact (hf.trans (if_neg hs)).symm ▸ List.suffix_rfl

/-! ### What a walk has beyond another one -/

theorem visibleOutside_cons (visible : Bool) (s : OpenSection) (outer : List OpenSection) :
    visibleOutside visible (s :: outer) = visibleOutside (visibleOutside visible [s]) outer := by
  obtain ⟨name, region⟩ := s
  cases region <;> rfl

theorem frameCount_cons (s : OpenSection) (outer : List OpenSection) :
    frameCount (s :: outer) = frameCount [s] + frameCount outer := by
  rw [← List.singleton_append, frameCount, List.countP_append]
  rfl

theorem frameCount_singleton_of_framed (h : s.region.framed) : frameCount [s] = 1 :=
  List.countP_singleton.trans (if_pos h)

/-- The walk `w` is in the sections `inner` beyond those of `b`, and its frames and its visibility are
those of `b` with the part of these sections. -/
structure Above (b : Walk) (inner : List OpenSection) (w : Walk) : Prop where
  /-- The sections. -/
  opened : w.opened = inner ++ b.opened
  /-- There is a frame for each of the sections that has one. -/
  frames : ∃ put, w.scopes.frames = put ++ b.scopes.frames ∧ put.length = frameCount inner
  /-- The visibility outside of the sections. -/
  visible : visibleOutside w.visible inner = b.visible

theorem above_refl (b : Walk) : Above b [] b := ⟨rfl, ⟨[], rfl, rfl⟩, rfl⟩

/-- The innermost section is one of those beyond `b`, as long as none of `b` has been left. -/
theorem Above.exists_cons (h : Above b inner w) (ho : w.opened = s :: outer)
    (hb : ¬ b.opened = s :: outer) : ∃ rest, inner = s :: rest ∧ outer = rest ++ b.opened := by
  have hopened := h.opened
  rw [ho] at hopened
  cases inner with
  | nil => exact absurd hopened.symm hb
  | cons s' rest =>
    obtain ⟨rfl, rfl⟩ := List.cons.inj hopened
    exact ⟨rest, rfl, rfl⟩

/-- Without the frame of the innermost section, there are those of the others. -/
theorem Above.exists_drop (h : Above b (s :: inner) w) (hs : s.region.framed) :
    ∃ put, w.scopes.drop.frames = put ++ b.scopes.frames ∧ put.length = frameCount inner := by
  obtain ⟨put, hframes, hlength⟩ := h.frames
  rw [frameCount_cons, frameCount_singleton_of_framed hs, Nat.add_comm] at hlength
  cases put with
  | nil => exact absurd hlength.symm (Nat.succ_ne_zero _)
  | cons frame put =>
    have hbelow : put ++ b.scopes.frames ≠ [] := List.append_ne_nil_of_right_ne_nil put nofun
    exact ⟨put, Scopes.frames_drop hframes hbelow, Nat.succ.inj hlength⟩

/-- **What a walk has beyond another one goes with the sections beyond it.** -/
theorem Above.next (h : Above b inner w) (hnext : Next r w w') (hinside : b.opened <:+ w'.opened) :
    ∃ inner', Above b inner' w' := by
  obtain ⟨put, hframes, hlength⟩ := h.frames
  cases frameMove_of_next hnext with
  | stay ho hf hv =>
    exact ⟨inner, ho.trans h.opened, ⟨put, hf.trans hframes, hlength⟩, hv.symm ▸ h.visible⟩
  | @opens s put' ho hf hput hv =>
    refine ⟨s :: inner, ?_, ⟨put' ++ put, ?_, ?_⟩, ?_⟩
    · rw [ho, h.opened, List.cons_append]
    · rw [hf, hframes, List.append_assoc]
    · rw [List.length_append, hput, hlength, ← frameCount_cons]
    · rw [visibleOutside_cons, hv, h.visible]
  | @again s s' outer v hend ho ho' hne hs hs' hf hv =>
    -- Were the loop one of those of `b`, its next pass would leave it.
    have hb : ¬ b.opened = s :: outer := by
      intro hb
      rw [hb, ho'] at hinside
      exact hne (List.cons.inj (hinside.eq_of_length rfl)).1
    obtain ⟨rest, rfl, rfl⟩ := h.exists_cons ho hb
    obtain ⟨put', hdrop, hlength'⟩ := h.exists_drop hs
    refine ⟨s' :: rest, ho', ⟨v :: put', ?_, ?_⟩, ?_⟩
    · rw [hf, hdrop, List.cons_append]
    · rw [List.length_cons, hlength', frameCount_cons, frameCount_singleton_of_framed hs',
        Nat.add_comm]
    · rw [visibleOutside_cons, hv, ← visibleOutside_cons, h.visible]
  | @closes s hend ho hf hv =>
    have hb : ¬ b.opened = s :: w'.opened := by
      intro hb
      have hlength := (hb ▸ hinside).length_le
      exact absurd hlength (Nat.not_succ_le_self _)
    obtain ⟨rest, rfl, hrest⟩ := h.exists_cons ho hb
    have hvisible : visibleOutside w'.visible rest = b.visible := by
      rw [hv, ← visibleOutside_cons, h.visible]
    refine ⟨rest, hrest, ?_, hvisible⟩
    rw [hf]
    split
    · rename_i hs
      exact h.exists_drop hs
    -- A section without a frame counts for nothing.
    · rename_i hs
      have hcount : frameCount (s :: rest) = frameCount rest :=
        List.countP_cons_of_neg (p := fun s : OpenSection => s.region.framed) hs
      exact ⟨put, hframes, hlength.trans hcount⟩

theorem exists_above (h : Within r b w) : ∃ inner, Above b inner w := by
  induction h with
  | refl => exact ⟨[], above_refl b⟩
  | step _ hnext hinside ih =>
    obtain ⟨inner, habove⟩ := ih
    exact habove.next hnext hinside

/-- **Back in the sections that it was in, a walk has the frames and the visibility that it had.** -/
theorem frames_eq_of_within (h : Within r b w) (ho : w.opened = b.opened) :
    w.scopes.frames = b.scopes.frames ∧ w.visible = b.visible := by
  obtain ⟨inner, hopened, ⟨put, hframes, hlength⟩, hvisible⟩ := exists_above h
  obtain rfl : inner = [] := by simpa [ho] using hopened
  obtain rfl : put = [] := List.length_eq_zero_iff.mp hlength
  exact ⟨hframes, hvisible⟩

/-- A run from the start leaves no section that was open there. -/
theorem within_of_reaches {template : String} {context : Value}
    (h : Reaches r (start template context) w) : Within r (start template context) w := by
  induction h with
  | refl => exact .refl
  | tail _ hnext ih => exact ih.step hnext (List.nil_suffix)

/-! ### Where an open section has begun -/

/-- One step with which the section `s`, or its running pass, begins. -/
inductive Begins (r : Renderer) (w : Walk) (s : OpenSection) : Walk → Prop where
  /-- The section is entered at its tag. -/
  | enter {m : Marker} {lookup : Lookup} {d : Nat} {tail : List Node} (hm : m.opensSection)
    (htag : w.AtTag m s.name d tail) (hname : checkTagName s.name = .ok ())
    (hlookup : w.scopes.resolve s.name = .ok lookup) (hframed : s.region.framed → m = .sectionOpen)
    (ho : (w.skipTag.enter m s.name lookup).opened = s :: w.opened) :
    Begins r w s (w.skipTag.enter m s.name lookup)
  /-- The section is a loop, and goes on to its next pass. -/
  | nextPass {outerPassed : List Node} {pass : Nat} {v : Value} {remaining : List Value}
    {outer : List OpenSection} (hend : w.AtEnd)
    (ho : w.opened = ⟨s.name, .loop outerPassed pass (v :: remaining)⟩ :: outer)
    (hs : s.region = .loop outerPassed (pass + 1) remaining) :
    Begins r w s (w.nextPass s.name outerPassed (pass + 1) v remaining outer)

/-- A section that is not open before a step and open behind it begins with the step. -/
theorem begins_of_next (hnext : Next r w w') (hbefore : ¬ s :: outer <:+ w.opened)
    (hafter : s :: outer <:+ w'.opened) : Begins r w s w' ∧ w'.opened = s :: outer := by
  have hnot (hopened : w'.opened = w.opened) : False := hbefore (hopened ▸ hafter)
  cases move_of_next hnext with
  | @text s => exact (hnot (opened_emit w s)).elim
  | @print m name text => exact (hnot (opened_emit w.skipTag text)).elim
  | comment htag => exact (hnot rfl).elim
  | splice hm htag hreference hnodes => exact (hnot rfl).elim
  | @enter m name lookup d tail hm htag hname hlookup =>
    obtain ⟨region, put, ho, -, -, -, hframed⟩ := exists_enter w.skipTag m name lookup
    rw [ho] at hafter
    obtain heq | hsub := List.suffix_cons_iff.mp hafter
    · obtain ⟨rfl, rfl⟩ := List.cons.inj heq
      exact ⟨.enter hm htag hname hlookup hframed ho, ho⟩
    · exact absurd hsub hbefore
  | @nextPass name outerPassed pass v remaining outer' hend ho =>
    obtain heq | hsub := List.suffix_cons_iff.mp hafter
    · obtain ⟨rfl, rfl⟩ := List.cons.inj heq
      exact ⟨.nextPass hend ho rfl, rfl⟩
    · exact absurd (ho ▸ hsub.trans (List.suffix_cons _ outer')) hbefore
  | @close name region outer' d tail htag ho hr =>
    have hopened : (w.leave region outer').skipTag.opened = outer' := opened_leave w region outer'
    rw [hopened] at hafter
    exact absurd (ho ▸ hafter.trans (List.suffix_cons _ outer')) hbefore

theorem Begins.exists_putsOn (h : Begins r w s w') (hs : s.region.framed) :
    ∃ v, PutsOn r w v w' := by
  cases h with
  | @enter m lookup d tail hm htag hname hlookup hframed =>
    obtain rfl := hframed hs
    exact ⟨lookup.firstFrame, .enter (.mk htag hname hlookup)⟩
  | @nextPass outerPassed pass v remaining outer hend ho => exact ⟨v, .nextPass hend ho⟩

/-- **A section that is open has begun**, and so has its running pass. -/
theorem exists_begins {template : String} {context : Value}
    (h : Reaches r (start template context) w) (hsub : s :: outer <:+ w.opened) :
    ∃ u b, Reaches r (start template context) u ∧ Begins r u s b ∧ Within r b w ∧
      b.opened = s :: outer := by
  induction h with
  | refl => simp [start] at hsub
  | @tail w w' hreaches hnext ih =>
    -- A section that has been open before the last step goes on, any other one begins with it.
    by_cases hbefore : s :: outer <:+ w.opened
    · obtain ⟨u, b, hu, hbegins, hwithin, ho⟩ := ih hbefore
      exact ⟨u, b, hu, hbegins, hwithin.step hnext (ho ▸ hsub), ho⟩
    · obtain ⟨hbegins, ho⟩ := begins_of_next hnext hbefore hsub
      exact ⟨w, w', hreaches, hbegins, .refl, ho⟩

/-- **A section that is open has been entered at its tag**, in the sections around it. -/
theorem exists_section {template : String} {context : Value}
    (h : Reaches r (start template context) w) (hsub : s :: outer <:+ w.opened) :
    ∃ a m d tail, Reaches r (start template context) a ∧ m.opensSection ∧
      a.AtTag m s.name d tail ∧ Within r a w ∧ a.opened = outer := by
  induction h generalizing s with
  | refl => simp [start] at hsub
  | @tail w w' hreaches hnext ih =>
    have houter : outer <:+ w'.opened := (List.suffix_cons s outer).trans hsub
    -- A step inside of the section, or on to its next pass, leaves none of those around it.
    have hgoOn {s' : OpenSection} (hbefore : s' :: outer <:+ w.opened) (hname : s'.name = s.name) :
        ∃ a m d tail, Reaches r (start template context) a ∧ m.opensSection ∧
          a.AtTag m s.name d tail ∧ Within r a w' ∧ a.opened = outer := by
      obtain ⟨a, m, d, tail, ha, hm, htag, hwithin, ho⟩ := ih hbefore
      exact ⟨a, m, d, tail, ha, hm, hname ▸ htag, hwithin.step hnext (ho ▸ houter), ho⟩
    by_cases hbefore : s :: outer <:+ w.opened
    · exact hgoOn hbefore rfl
    · obtain ⟨hbegins, ho⟩ := begins_of_next hnext hbefore hsub
      cases hbegins with
      | @enter m lookup d tail hm htag hname hlookup hframed hopened =>
        have hw : w.opened = outer := (List.cons.inj (hopened.symm.trans ho)).2
        exact ⟨w, m, d, tail, hreaches, hm, htag, .step .refl hnext (hw ▸ houter), hw⟩
      | nextPass hend hloop hs =>
        obtain ⟨-, rfl⟩ := List.cons.inj ho
        exact hgoOn ⟨[], hloop.symm⟩ rfl

/-- **The frame that is taken off is the one that was put on** where its section or pass began. -/
theorem pop?_of_takesOff {template : String} {context : Value}
    (h : Reaches r (start template context) w) (hw : w.TakesOff) :
    ∃ u v b rest, Reaches r (start template context) u ∧ PutsOn r u v b ∧ Within r b w ∧
      b.opened = w.opened ∧ w.scopes.pop? = some (v, rest) ∧ rest.frames = b.scopes.below := by
  obtain ⟨-, s, outer, hopened, hs⟩ := hw
  have hsub : s :: outer <:+ w.opened := hopened.symm ▸ List.suffix_rfl
  obtain ⟨u, b, hu, hbegins, hwithin, ho⟩ := exists_begins h hsub
  obtain ⟨v, hputs⟩ := hbegins.exists_putsOn hs
  rw [← hopened] at ho
  have hframes := (frames_eq_of_within hwithin ho.symm).1
  obtain ⟨htop, hbelow⟩ := List.cons.inj hframes
  -- The context is not the only frame, since the section has one of its own.
  obtain ⟨frame, below, hcons, -⟩ := (nested_of_reaches h).exists_below hopened hs
  have hpop : w.scopes.frames = v :: w.scopes.below := by
    rw [Scopes.frames, htop, hputs.top]
  obtain ⟨rest, hrest, hframesRest⟩ := Scopes.exists_pop? hpop (by simp [hcons])
  exact ⟨u, v, b, rest, hu, hputs, hwithin, ho, hrest, hframesRest.trans hbelow⟩

/-! ### Loops and the index -/

/-- A run from `b` that leaves none of the sections open there, and whether it has begun a loop. -/
inductive Stretch (r : Renderer) (b : Walk) : Bool → Walk → Prop where
  /-- No step. -/
  | refl : Stretch r b false b
  /-- One step more, which begins no loop. -/
  | step {looped : Bool} {w w' : Walk} (h : Stretch r b looped w) (hnext : Next r w w')
    (hinside : b.opened <:+ w'.opened) (hloop : ¬ BeginsLoop r w w') : Stretch r b looped w'
  /-- One step more, into a loop. -/
  | loop {looped : Bool} {w w' : Walk} (h : Stretch r b looped w) (hnext : Next r w w')
    (hinside : b.opened <:+ w'.opened) (hloop : BeginsLoop r w w') : Stretch r b true w'

theorem Stretch.within {looped : Bool} (h : Stretch r b looped w) : Within r b w := by
  induction h with
  | refl => exact .refl
  | step _ hnext hinside _ ih | loop _ hnext hinside _ ih => exact ih.step hnext hinside

theorem exists_stretch (h : Within r b w) : ∃ looped, Stretch r b looped w := by
  induction h with
  | refl => exact ⟨false, .refl⟩
  | @step w w' _ hnext hinside ih =>
    obtain ⟨looped, hstretch⟩ := ih
    by_cases hloop : BeginsLoop r w w'
    · exact ⟨true, hstretch.loop hnext hinside hloop⟩
    · exact ⟨looped, hstretch.step hnext hinside hloop⟩

theorem passes_enter (w : Walk) (m : Marker) (name : String) (lookup : Lookup) :
    (w.enter m name lookup).passes = w.passes ∨
      m = .sectionOpen ∧ ∃ v vs, lookup = .found (.array (v :: vs)) := by
  unfold enter
  split
  · exact .inr ⟨rfl, _, _, rfl⟩
  · exact .inl rfl
  · exact .inl rfl

/-- Another pass is running after a step only if the step has begun a loop. -/
theorem beginsLoop_of_passes {pass : Nat} (hnext : Next r w w')
    (hpasses : w'.passes = pass :: w.passes) : BeginsLoop r w w' := by
  -- Every other step leaves as many passes running as before, or one less.
  have hnot (hlength : w'.passes.length ≤ w.passes.length) : False :=
    Nat.not_succ_le_self _ (hpasses ▸ hlength)
  cases move_of_next hnext with
  | @text s => exact (hnot (passes_emit w s ▸ Nat.le_refl _)).elim
  | @print m name text => exact (hnot (passes_emit w.skipTag text ▸ Nat.le_refl _)).elim
  | comment htag => exact (hnot (Nat.le_refl _)).elim
  | splice hm htag hreference hnodes => exact (hnot (Nat.le_refl _)).elim
  | @enter m name lookup d tail hm htag hname hlookup =>
    obtain heq | ⟨rfl, v, vs, rfl⟩ := passes_enter w.skipTag m name lookup
    · exact (hnot (heq ▸ Nat.le_refl _)).elim
    · exact ⟨v, vs, .mk htag hname hlookup⟩
  | @nextPass name outerPassed pass v remaining outer hend ho =>
    refine (hnot ?_).elim
    rw [passes, passes, ho]
    exact Nat.le_refl _
  | @close name region outer d tail htag ho hr =>
    refine (hnot ?_).elim
    have hopened : (w.leave region outer).skipTag.opened = outer := opened_leave w region outer
    rw [passes, passes, hopened, ho]
    exact ((List.sublist_cons_self _ outer).filterMap _).length_le

theorem BeginsLoop.passes (h : BeginsLoop r w w') : w'.passes = 0 :: w.passes := by
  obtain ⟨v, vs, h⟩ := h
  cases h with
  | mk htag hname hlookup => rfl

/-- The index since a walk with the running passes `base` and the index `first`: the passes `inner` run
beyond those, and only a loop can have begun them. Without them the index is what it was, or zero
behind a loop. -/
structure IndexSince (base : List Nat) (first : Nat) (looped : Bool) (inner passes : List Nat)
    (index : Nat) : Prop where
  /-- The running passes. -/
  running : passes = inner ++ base
  /-- Without a loop there are no others. -/
  begun : looped = false → inner = []
  /-- The index where no others are running. -/
  restored : inner = [] → index = if looped then 0 else first

theorem IndexSince.begin {base inner passes : List Nat} {first i j : Nat} {looped : Bool}
    (h : IndexSince base first looped inner passes i) :
    IndexSince base first true (0 :: inner) (0 :: passes) j :=
  ⟨by rw [h.running, List.cons_append], nofun, nofun⟩

/-- **A step that begins no loop** leaves the index where it was, or ends a loop that has begun
since. -/
theorem IndexSince.move {base inner before after : List Nat} {first i j : Nat} {looped : Bool}
    (h : IndexSince base first looped inner before i) (hmove : PassMove before i after j)
    (hinside : base <:+ after) (hbegins : ∀ pass, after ≠ pass :: before) :
    ∃ inner', IndexSince base first looped inner' after j := by
  obtain ⟨hpasses, hinner, hindex⟩ := h
  have hlooped {pass : Nat} {rest : List Nat} (hcons : inner = pass :: rest) : looped = true := by
    cases looped with
    | false => exact absurd (hinner rfl) (by simp [hcons])
    | true => rfl
  cases hmove with
  | stay => exact ⟨inner, hpasses, hinner, hindex⟩
  | begins => exact absurd rfl (hbegins 0)
  | next pass outer =>
    cases inner with
    -- A pass that ran before does not go on to the next one.
    | nil =>
      obtain rfl : pass :: outer = base := hpasses
      have heq := (List.cons.inj (hinside.eq_of_length rfl)).1
      exact absurd heq (Nat.ne_of_lt (Nat.lt_succ_self pass))
    | cons p rest =>
      obtain ⟨rfl, rfl⟩ := List.cons.inj hpasses
      obtain rfl := hlooped rfl
      exact ⟨(pass + 1) :: rest, rfl, nofun, nofun⟩
  | ends pass =>
    cases inner with
    | nil =>
      obtain rfl : pass :: after = base := hpasses
      exact absurd hinside.length_le (Nat.not_succ_le_self _)
    | cons p rest =>
      obtain ⟨rfl, rfl⟩ := List.cons.inj hpasses
      obtain rfl := hlooped rfl
      exact ⟨rest, rfl, nofun, fun _ => rfl⟩

theorem exists_indexSince {looped : Bool} (h : Stretch r b looped w) :
    ∃ inner, IndexSince b.passes b.scopes.index looped inner w.passes w.scopes.index := by
  induction h with
  | refl => exact ⟨[], rfl, fun _ => rfl, fun _ => rfl⟩
  | @step looped w w' _ hnext hinside hloop ih =>
    obtain ⟨inner, hsince⟩ := ih
    exact hsince.move (passMove_of_next hnext) (hinside.filterMap _)
      fun pass hpasses => hloop (beginsLoop_of_passes hnext hpasses)
  | loop _ hnext hinside hloop ih =>
    obtain ⟨inner, hsince⟩ := ih
    exact ⟨0 :: inner, hloop.passes ▸ hsince.begin⟩

/-- **Back in the sections that it was in, a walk has the index that it had, or zero behind a
loop.** -/
theorem index_of_stretch {looped : Bool} (h : Stretch r b looped w) (ho : w.opened = b.opened) :
    w.scopes.index = if looped then 0 else b.scopes.index := by
  obtain ⟨inner, hsince⟩ := exists_indexSince h
  have hpasses : w.passes = b.passes := by rw [passes, passes, ho]
  refine hsince.restored ?_
  simpa [hpasses] using hsince.running

/-! ### The discipline -/

/-- The walk `w` has the frames and the visibility of `b`, and the index of `b` unless there was a loop
in between. -/
structure Restored (b : Walk) (looped : Bool) (w : Walk) : Prop where
  /-- The frames are the same. -/
  frames : w.scopes.frames = b.scopes.frames
  /-- So is the visibility. -/
  visible : w.visible = b.visible
  /-- Behind a loop the index is zero. -/
  index : w.scopes.index = if looped then 0 else b.scopes.index

theorem restored_of_stretch {looped : Bool} (h : Stretch r b looped w) (ho : w.opened = b.opened) :
    Restored b looped w :=
  ⟨(frames_eq_of_within h.within ho).1, (frames_eq_of_within h.within ho).2,
    index_of_stretch h ho⟩

/-- The end of a section finds what its first tag has found. -/
theorem exists_restored {template : String} {context : Value}
    (h : Reaches r (start template context) w) (hnext : Next r w w')
    (hclose : w.opened = s :: w'.opened) :
    ∃ a m d tail looped, Reaches r (start template context) a ∧ m.opensSection ∧
      a.AtTag m s.name d tail ∧ Stretch r a looped w' ∧ w'.opened = a.opened ∧
      Restored a looped w' := by
  obtain ⟨a, m, d, tail, ha, hm, htag, hwithin, ho⟩ := exists_section h ⟨[], hclose.symm⟩
  obtain ⟨looped, hstretch⟩ := exists_stretch (hwithin.step hnext (ho ▸ List.suffix_rfl))
  exact ⟨a, m, d, tail, looped, ha, hm, htag, hstretch, ho.symm,
    restored_of_stretch hstretch ho.symm⟩

/-- **The discipline of frames, visibility and index.** In every walk that a render comes to

* the context is the frame at the bottom;
* a step takes a frame off only at the end of a section or of a pass that has one, and that frame is
  the one that was put on where the section or the pass began;
* a walk that is back in the sections in which it was at `b`, without having left one of them, has the
  frames and the visibility of `b`, and the index of `b` unless there was a loop in between. So it is
  from the beginning to the end of each message;
* and each section that ends began at a tag from which this holds as well. -/
theorem scope_discipline {template : String} {context : Value}
    (h : Reaches r (start template context) w) :
    (∃ above, w.scopes.frames = above ++ [context]) ∧
      (∀ w', Next r w w' → ¬ w.TakesOff → w.scopes.frames <:+ w'.scopes.frames) ∧
      (w.TakesOff → ∃ u v b rest, Reaches r (start template context) u ∧ PutsOn r u v b ∧
        Within r b w ∧ b.opened = w.opened ∧ w.scopes.pop? = some (v, rest) ∧
        rest.frames = b.scopes.below) ∧
      (∀ b looped, Stretch r b looped w → w.opened = b.opened → Restored b looped w) ∧
      ∀ w' s, Next r w w' → w.opened = s :: w'.opened →
        ∃ a m d tail looped, Reaches r (start template context) a ∧ m.opensSection ∧
          a.AtTag m s.name d tail ∧ Stretch r a looped w' ∧ w'.opened = a.opened ∧
          Restored a looped w' := by
  refine ⟨?_, fun w' hnext => (frameMove_of_next hnext).suffix, pop?_of_takesOff h,
    fun b looped => restored_of_stretch, fun w' s => exists_restored h⟩
  obtain ⟨inner, -, ⟨put, hframes, -⟩, -⟩ := exists_above (within_of_reaches h)
  exact ⟨put, hframes⟩

/-- A loop with another one in it, whose own end tag comes from a partial. -/
def closedByPartial : String :=
  "\x7b\x7b#a\x7d\x7d\x7b\x7b#b\x7d\x7d\x7b\x7b/b\x7d\x7d\x7b\x7b>end\x7d\x7d"

/-- The partial with the end tag. -/
def endTag : Renderer := ⟨(Store.mk [("end.mustache", "\x7b\x7b/a\x7d\x7d")]).loader, {}⟩

/-- At the end of the second pass of the outer loop. -/
theorem exists_closedByPartial : ∃ w, Reaches endTag (start closedByPartial pairOfArrays) w ∧
    w.passes = [1] ∧ w.TakesOff := by
  have hwalk : ((start closedByPartial pairOfArrays).after endTag 16).map
      (fun w => (w.passes, w.tape.rest.head?.map Node.token,
        w.opened.head?.map fun s => s.region.framed)) =
      some ([1], some (.marker .sectionClose), some true) := by decide +kernel
  obtain ⟨w, hw, heq⟩ := Option.map_eq_some_iff.mp hwalk
  simp only [Prod.mk.injEq, Option.map_eq_some_iff, List.head?_eq_some_iff] at heq
  obtain ⟨hpasses, ⟨⟨token, d⟩, ⟨tail, hrest⟩, rfl⟩, s, ⟨outer, hopened⟩, hframed⟩ := heq
  exact ⟨w, reaches_of_after hw, hpasses, .inr ⟨d, tail, hrest⟩, s, outer, hopened, hframed⟩

/-- The frame that is taken off there was put on at the beginning of the pass. -/
theorem takesOff_closedByPartial : ∃ w u v b rest,
    Reaches endTag (start closedByPartial pairOfArrays) w ∧ w.passes = [1] ∧
      PutsOn endTag u v b ∧ Within endTag b w ∧ b.opened = w.opened ∧
      w.scopes.pop? = some (v, rest) := by
  obtain ⟨w, hw, hpasses, htakes⟩ := exists_closedByPartial
  obtain ⟨u, v, b, rest, -, hputs, hwithin, ho, hpop, -⟩ := (scope_discipline hw).2.2.1 htakes
  exact ⟨w, u, v, b, rest, hw, hpasses, hputs, hwithin, ho, hpop⟩

end Walk

end Mustache
