import Mustache.Proofs.Nesting
/-!
# Hidden regions

A walk keeps one visibility, which it takes down at the start of a section whose test fails and puts
back at the end of the section. What this comes to is said here without it, by the way that the walk
has come.

* `Walk.Hides r u b`: one step takes the walk `u` into a section whose test fails.
* `Walk.Within r b w`: a run from `b` to `w` leaves none of the sections that `b` has open.
* `Walk.InHidden r first w`: a run from `first` has entered a section whose test fails and has not
  left it again. Other sections may have been entered since, shown ones and loops among them.
* `visible_eq_false_iff`: a walk that a render comes to is invisible exactly if it is in a hidden
  region.

`Walk.SectionMove` lists what a step does to the open sections and to the visibility, and both
directions go by it. Towards a hidden region, the invariant `Concealed` follows each invisible stretch
back to the section that hides it; a section that was entered invisibly hands this over to the sections
around it. Away from a hidden region, `Dark` says that no section inside of it puts the visibility
back.
-/

namespace Mustache

namespace Walk

variable {r : Renderer} {first u b w w' : Walk}

/-- One step into a section whose test fails. -/
inductive Hides (r : Renderer) (u : Walk) : Walk → Prop where
  /-- The section is opened by `m` under a name that was looked up. -/
  | mk {m : Marker} {name : String} {lookup : Lookup} {d : Nat} {tail : List Node}
    (hm : m.opensSection) (htag : u.AtTag m name d tail) (hname : checkTagName name = .ok ())
    (hlookup : u.scopes.resolve name = .ok lookup) (hhides : shows m lookup = false) :
    Hides r u (u.skipTag.enter m name lookup)

/-- Any number of steps that leave none of the sections open at the start. -/
inductive Within (r : Renderer) (b : Walk) : Walk → Prop where
  /-- No step. -/
  | refl : Within r b b
  /-- One step more. -/
  | step {w w' : Walk} (h : Within r b w) (hnext : Next r w w') (hinside : b.opened <:+ w'.opened) :
    Within r b w'

/-- The run from `first` to `w` has entered a section whose test fails, and has not left it. -/
def InHidden (r : Renderer) (first w : Walk) : Prop :=
  ∃ u b, Reaches r first u ∧ Hides r u b ∧ Within r b w

theorem Hides.visible (h : Hides r u b) : b.visible = false := by
  cases h with
  | mk hm htag hname hlookup hhides => rw [visible_enter, hhides, Bool.and_false]

/-- A section whose test fails is no loop. -/
theorem Hides.opened (h : Hides r u b) :
    ∃ name framed, b.opened = ⟨name, .once u.visible framed⟩ :: u.opened := by
  cases h with
  | @mk m name lookup d tail hm htag hname hlookup hhides =>
    obtain ⟨framed, hopened⟩ | ⟨remaining, -, hshows⟩ := opened_enter u.skipTag m name lookup
    · exact ⟨name, framed, hopened⟩
    · rw [hhides] at hshows
      exact absurd hshows Bool.false_ne_true

theorem Hides.next (h : Hides r u b) : Next r u b := by
  cases h with
  | mk hm htag hname hlookup hhides =>
    rw [Next, step_section hm htag, hname, hlookup]
    rfl

theorem Within.reaches (h : Within r b w) : Reaches r b w := by
  induction h with
  | refl => exact .refl b
  | step h hnext hinside ih => exact ih.tail hnext

/-- A walk in a hidden region is one that the run comes to. -/
theorem InHidden.reaches (h : InHidden r first w) : Reaches r first w := by
  obtain ⟨u, b, hfirst, hhides, hwithin⟩ := h
  exact (hfirst.tail hhides.next).trans hwithin.reaches

/-! ### One step -/

/-- What a step does to the open sections and to the visibility. -/
inductive SectionMove (r : Renderer) (w w' : Walk) : Prop where
  /-- Nothing. -/
  | stay (ho : w'.opened = w.opened) (hv : w'.visible = w.visible)
  /-- A section is opened that is passed once. -/
  | opens {name : String} {framed : Bool}
    (ho : w'.opened = ⟨name, .once w.visible framed⟩ :: w.opened)
    (hv : w'.visible = false → w.visible = false ∨ Hides r w w')
    (hkeeps : w.visible = false → w'.visible = false)
  /-- A loop begins. -/
  | begins {name : String} {outerPassed : List Node} {pass : Nat} {remaining : List Value}
    (ho : w'.opened = ⟨name, .loop outerPassed pass remaining⟩ :: w.opened)
    (hv : w'.visible = w.visible)
  /-- The innermost loop goes on to its next pass. -/
  | again {name : String} {outerPassed : List Node} {pass pass' : Nat}
    {remaining remaining' : List Value} {outer : List OpenSection}
    (ho : w.opened = ⟨name, .loop outerPassed pass remaining⟩ :: outer)
    (ho' : w'.opened = ⟨name, .loop outerPassed pass' remaining'⟩ :: outer)
    (hv : w'.visible = w.visible)
  /-- A section is left that is passed once. -/
  | closes {name : String} {framed : Bool}
    (ho : w.opened = ⟨name, .once w'.visible framed⟩ :: w'.opened)
  /-- A loop ends. -/
  | ends {name : String} {outerPassed : List Node} {pass : Nat} {remaining : List Value}
    (ho : w.opened = ⟨name, .loop outerPassed pass remaining⟩ :: w'.opened)
    (hv : w'.visible = w.visible)

theorem sectionMove_of_next (hnext : Next r w w') : SectionMove r w w' := by
  cases move_of_next hnext with
  | @text s d tail hrest => exact .stay (opened_emit w s) (visible_emit w s)
  | @print m name text => exact .stay (opened_emit w.skipTag text) (visible_emit w.skipTag text)
  | comment htag => exact .stay rfl rfl
  | @enter m name lookup d tail hm htag hname hlookup =>
    have hvisible := visible_enter w.skipTag m name lookup
    obtain ⟨framed, hopened⟩ | ⟨remaining, hopened, hshows⟩ := opened_enter w.skipTag m name lookup
    · refine .opens hopened ?_ ?_
      -- An invisible walk was so before, or the test of the section has failed.
      · intro hhidden
        rw [hvisible, Bool.and_eq_false_iff] at hhidden
        exact hhidden.imp_right fun hhides => .mk hm htag hname hlookup hhides
      · intro hhidden
        rw [hvisible]
        exact Bool.and_eq_false_iff.mpr (.inl hhidden)
    · refine .begins hopened ?_
      rw [hvisible, hshows, Bool.and_true]
      rfl
  | splice hm htag hreference hnodes => exact .stay rfl rfl
  | nextPass hend ho => exact .again ho rfl rfl
  | @close name region outer d tail htag ho hr =>
    cases region with
    | once outerVisible framed => exact .closes ho
    | loop outerPassed pass remaining => exact .ends ho rfl

/-- A section that is passed once is not the loop that stands first. -/
theorem suffix_of_loop {name name' : String} {outerVisible framed : Bool}
    {outerPassed : List Node} {pass : Nat} {remaining : List Value} {outer opened : List OpenSection}
    (h : ⟨name, .once outerVisible framed⟩ :: outer <:+
      ⟨name', .loop outerPassed pass remaining⟩ :: opened) :
    ⟨name, .once outerVisible framed⟩ :: outer <:+ opened := by
  obtain heq | hsub := List.suffix_cons_iff.mp h
  · simp at heq
  · exact hsub

/-! ### From an invisible walk to what hides it -/

/-- One of these sections hides the walk: the run has entered it, its test has failed, and it has not
been left. -/
def HiddenBy (r : Renderer) (first w : Walk) (opened : List OpenSection) : Prop :=
  ∃ u b, Reaches r first u ∧ Hides r u b ∧ Within r b w ∧ b.opened <:+ opened

namespace HiddenBy

variable {opened opened' : List OpenSection}

theorem mono (h : HiddenBy r first w opened) (hsub : opened <:+ opened') :
    HiddenBy r first w opened' := by
  obtain ⟨u, b, hfirst, hhides, hwithin, hopened⟩ := h
  exact ⟨u, b, hfirst, hhides, hwithin, hopened.trans hsub⟩

/-- A step that leaves none of the sections. -/
theorem next (h : HiddenBy r first w opened) (hnext : Next r w w') (hsub : opened <:+ w'.opened) :
    HiddenBy r first w' opened := by
  obtain ⟨u, b, hfirst, hhides, hwithin, hopened⟩ := h
  exact ⟨u, b, hfirst, hhides, hwithin.step hnext (hopened.trans hsub), hopened⟩

/-- A loop hides nothing. -/
theorem of_loop {name : String} {outerPassed : List Node} {pass : Nat} {remaining : List Value}
    (h : HiddenBy r first w (⟨name, .loop outerPassed pass remaining⟩ :: opened)) :
    HiddenBy r first w opened := by
  obtain ⟨u, b, hfirst, hhides, hwithin, hopened⟩ := h
  refine ⟨u, b, hfirst, hhides, hwithin, ?_⟩
  obtain ⟨name', framed, hb⟩ := hhides.opened
  rw [hb] at hopened ⊢
  exact suffix_of_loop hopened

end HiddenBy

/-- What is invisible is hidden by an open section. -/
structure Concealed (r : Renderer) (first w : Walk) : Prop where
  /-- The walk is. -/
  here : w.visible = false → HiddenBy r first w w.opened
  /-- A section that was entered invisibly is hidden by one of those around it. -/
  around : ∀ {name : String} {framed : Bool} {outer : List OpenSection},
    ⟨name, .once false framed⟩ :: outer <:+ w.opened → HiddenBy r first w outer

theorem concealed_start (r : Renderer) (template : String) (context : Value) :
    Concealed r (start template context) (start template context) where
  here h := absurd h (by simp [start])
  around h := by simp [start] at h

/-- A section that stays open stays hidden by those around it. -/
theorem Concealed.around_next {name : String} {framed : Bool} {outer : List OpenSection}
    (h : Concealed r first w) (hnext : Next r w w')
    (hbefore : ⟨name, .once false framed⟩ :: outer <:+ w.opened)
    (hafter : ⟨name, .once false framed⟩ :: outer <:+ w'.opened) : HiddenBy r first w' outer :=
  (h.around hbefore).next hnext ((List.suffix_cons _ outer).trans hafter)

/-- **Each step keeps what is invisible hidden by an open section.** -/
theorem Concealed.next (hfirst : Reaches r first w) (h : Concealed r first w)
    (hnext : Next r w w') : Concealed r first w' := by
  cases sectionMove_of_next hnext with
  | stay ho hv =>
    constructor
    · intro hhidden
      rw [ho]
      exact (h.here (hv ▸ hhidden)).next hnext (ho ▸ List.suffix_rfl)
    · intro name framed outer hsub
      exact h.around_next hnext (ho ▸ hsub) hsub
  | @opens name framed ho hv hkeeps =>
    have hopened : w.opened <:+ w'.opened := ho ▸ List.suffix_cons _ _
    constructor
    -- Either the walk was hidden before, or it is the new section that hides it.
    · intro hhidden
      obtain hhidden | hhides := hv hhidden
      · exact ((h.here hhidden).next hnext hopened).mono hopened
      · exact ⟨w, w', hfirst, hhides, .refl, List.suffix_rfl⟩
    · intro name' framed' outer hsub
      rw [ho] at hsub
      obtain heq | hsub := List.suffix_cons_iff.mp hsub
      · simp only [List.cons.injEq, OpenSection.mk.injEq, Region.once.injEq] at heq
        obtain ⟨⟨-, hhidden, -⟩, rfl⟩ := heq
        exact (h.here hhidden.symm).next hnext hopened
      · exact h.around_next hnext hsub (hsub.trans hopened)
  | begins ho hv =>
    have hopened : w.opened <:+ w'.opened := ho ▸ List.suffix_cons _ _
    constructor
    · intro hhidden
      exact ((h.here (hv ▸ hhidden)).next hnext hopened).mono hopened
    · intro name' framed' outer hsub
      rw [ho] at hsub
      have hbefore := suffix_of_loop hsub
      exact h.around_next hnext hbefore (hbefore.trans hopened)
  | @again name outerPassed pass pass' remaining remaining' outer ho ho' hv =>
    have houter : outer <:+ w'.opened := ho' ▸ List.suffix_cons _ _
    constructor
    · intro hhidden
      have hhere := h.here (hv ▸ hhidden)
      rw [ho] at hhere
      exact (hhere.of_loop.next hnext houter).mono houter
    · intro name' framed' outer' hsub
      rw [ho'] at hsub
      have hinner := suffix_of_loop hsub
      exact h.around_next hnext (ho ▸ hinner.trans (List.suffix_cons _ outer))
        (hinner.trans houter)
  | @closes name framed ho =>
    constructor
    -- The visibility that is put back is one that the section was entered with.
    · intro hhidden
      rw [hhidden] at ho
      -- What hides the section from outside hides the walk behind it.
      have hleft : ⟨name, .once false framed⟩ :: w'.opened <:+ w.opened := ⟨[], ho.symm⟩
      exact (h.around hleft).next hnext List.suffix_rfl
    · intro name' framed' outer hsub
      exact h.around_next hnext (ho ▸ hsub.trans (List.suffix_cons _ w'.opened)) hsub
  | ends ho hv =>
    constructor
    · intro hhidden
      have hhere := h.here (hv ▸ hhidden)
      rw [ho] at hhere
      exact hhere.of_loop.next hnext List.suffix_rfl
    · intro name' framed' outer hsub
      exact h.around_next hnext (ho ▸ hsub.trans (List.suffix_cons _ w'.opened)) hsub

theorem concealed_of_reaches {template : String} {context : Value}
    (h : Reaches r (start template context) w) : Concealed r (start template context) w := by
  induction h with
  | refl => exact concealed_start r template context
  | tail hreaches hnext ih => exact ih.next hreaches hnext

/-! ### From a hidden region to an invisible walk -/

/-- The walk is invisible, and no section inside of those that `b` has open puts the visibility
back. -/
structure Dark (b w : Walk) : Prop where
  /-- The walk is invisible. -/
  here : w.visible = false
  /-- So was each walk that has entered a section further in. -/
  inside : ∀ {name : String} {outerVisible framed : Bool} {outer : List OpenSection},
    ⟨name, .once outerVisible framed⟩ :: outer <:+ w.opened → b.opened <:+ outer →
      outerVisible = false

/-- **A hidden region is invisible all along.** -/
theorem Dark.next (h : Dark b w) (hnext : Next r w w') (hinside : b.opened <:+ w'.opened) :
    Dark b w' := by
  cases sectionMove_of_next hnext with
  | stay ho hv => exact ⟨hv.trans h.here, fun hsub => h.inside (ho ▸ hsub)⟩
  | opens ho hv hkeeps =>
    -- A section in a hidden region keeps that it was entered invisibly.
    refine ⟨hkeeps h.here, ?_⟩
    intro name outerVisible framed outer hsub hb
    rw [ho] at hsub
    obtain heq | hsub := List.suffix_cons_iff.mp hsub
    · simp only [List.cons.injEq, OpenSection.mk.injEq, Region.once.injEq] at heq
      exact heq.1.2.1.trans h.here
    · exact h.inside hsub hb
  | begins ho hv =>
    refine ⟨hv.trans h.here, ?_⟩
    intro name outerVisible framed outer hsub hb
    rw [ho] at hsub
    exact h.inside (suffix_of_loop hsub) hb
  | again ho ho' hv =>
    refine ⟨hv.trans h.here, ?_⟩
    intro name outerVisible framed outer hsub hb
    rw [ho'] at hsub
    exact h.inside (ho ▸ (suffix_of_loop hsub).trans (List.suffix_cons _ _)) hb
  | @closes name framed ho =>
    -- The section that is left lies inside, since those of `b` are still open around it.
    have hleft : ⟨name, .once w'.visible framed⟩ :: w'.opened <:+ w.opened := ⟨[], ho.symm⟩
    refine ⟨h.inside hleft hinside, ?_⟩
    intro name' outerVisible framed' outer hsub hb
    exact h.inside (ho ▸ hsub.trans (List.suffix_cons _ _)) hb
  | ends ho hv =>
    refine ⟨hv.trans h.here, ?_⟩
    intro name outerVisible framed outer hsub hb
    exact h.inside (ho ▸ hsub.trans (List.suffix_cons _ _)) hb

theorem dark_of_within (h : Within r b w) (hb : b.visible = false) : Dark b w := by
  induction h with
  | refl =>
    refine ⟨hb, ?_⟩
    intro name outerVisible framed outer hsub hinside
    -- A section cannot be outside of itself.
    have hlength := (hsub.trans hinside).length_le
    exact absurd hlength (Nat.not_succ_le_self outer.length)
  | step h hnext hinside ih => exact ih.next hnext hinside

/-- **A walk that a render comes to is invisible exactly if it is in a hidden region.** -/
theorem visible_eq_false_iff {template : String} {context : Value}
    (h : Reaches r (start template context) w) :
    w.visible = false ↔ InHidden r (start template context) w := by
  constructor
  · intro hhidden
    obtain ⟨u, b, hfirst, hhides, hwithin, -⟩ := (concealed_of_reaches h).here hhidden
    exact ⟨u, b, hfirst, hhides, hwithin⟩
  · rintro ⟨u, b, -, hhides, hwithin⟩
    exact (dark_of_within hwithin hhides.visible).here

end Walk

end Mustache
