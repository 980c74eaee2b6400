import Mustache.Proofs.Halt
import Mustache.Proofs.Nesting
import Mustache.Proofs.PlainName
import Mustache.Proofs.Scan
import Mustache.Proofs.StaticWalk
/-!
# A walk comes to what a scan comes to

A walk hides regions, steps into values and goes back for each element of an array, all of it by the
context. How it ends is nevertheless in the tokens alone: a single scan over the expansion of the
template comes to the same end, or to the same error.

* `Walk.Traced w`: a scan over the tokens that the walk has passed leads to inside the sections that
  the walk has open. The same holds of the tokens in front of the body of each loop that is still
  running, which is what a loop needs to go back (`Traced.next`).
* `Walk.Plain w`: the walk can be expanded (`Walk.Expandable`), and no name in it asks for an element
  of an array, so that no lookup fails.
* `scan_of_failure`: what stops a plain walk is what stops a scan of the tokens ahead, from inside
  the open sections.
* `ending_run`: where all walks of a run are plain, the run ends as the scan does.

The passed tokens link the two halves. They hold no partial tag, so they are their own expansion, and
the scan of all tokens comes down to the scan of those ahead (`Traced.scan_stream`).
-/

namespace Mustache

namespace Walk

variable {r : Renderer} {w w' : Walk} {m : Marker} {name : String} {d : Nat} {tail : List Node}

/-! ### What has been passed -/

/-- The names of open sections. -/
def names (opened : List OpenSection) : List String := opened.map OpenSection.name

/-- Scans lead to where the walk is, and to the body of each running loop. -/
structure Traced (w : Walk) : Prop where
  /-- The tokens passed lead to inside the open sections. -/
  behind : Leads [] w.behind.reverse (names w.opened)
  /-- The tokens in front of a loop lead to inside it and the sections around it. -/
  loops : ∀ {name : String} {outerPassed : List Node} {pass : Nat} {remaining : List Value}
    {outer : List OpenSection}, ⟨name, .loop outerPassed pass remaining⟩ :: outer <:+ w.opened →
      Leads [] (passedBehind outerPassed outer).reverse (name :: names outer)

theorem traced_start (template : String) (context : Value) : (start template context).Traced where
  behind := .nil []
  loops h := by simp [start] at h

/-- Passing more tokens leaves the loops alone. -/
theorem Traced.pass {u : Walk} {nodes : List Node} (h : w.Traced) (hopened : u.opened = w.opened)
    (hbehind : u.behind = nodes.reverse ++ w.behind)
    (hleads : Leads (names w.opened) nodes (names w.opened)) : u.Traced where
  behind := by
    rw [hbehind, hopened, List.reverse_append, List.reverse_reverse]
    exact h.behind.append hleads
  loops hsuffix := h.loops (hopened ▸ hsuffix)

/-- Over a whole tag that opens and closes nothing. -/
theorem Traced.skipTag (h : w.Traced) (htag : w.AtTag m name d tail)
    (hscan : Item.scanTag (names w.opened) m name = .ok (names w.opened)) : w.skipTag.Traced := by
  obtain ⟨nodes, hnodes, hbehind⟩ := behind_skipTag htag
  exact h.pass rfl hbehind (.tag hnodes hscan)

theorem Traced.emit (h : w.Traced) (text : String) : (w.emit text).Traced := by
  refine h.pass (opened_emit w text) ?_ (.nil _)
  rw [behind_emit]
  rfl

theorem names_enter (w : Walk) (m : Marker) (name : String) (lookup : Lookup) :
    names (w.enter m name lookup).opened = name :: names w.opened := by
  obtain ⟨framed, hopened⟩ | ⟨remaining, hopened, -⟩ := w.opened_enter m name lookup
  · rw [hopened]
    rfl
  · rw [hopened]
    rfl

/-- Into a section. If it is a loop, its body begins where the walk is now. -/
theorem Traced.enter (h : w.Traced) (hm : m.opensSection) (htag : w.AtTag m name d tail)
    (hname : checkTagName name = .ok ()) (lookup : Lookup) :
    (w.skipTag.enter m name lookup).Traced := by
  obtain ⟨nodes, hnodes, hbehind⟩ := behind_skipTag htag
  have hscan : Item.scanTag (names w.opened) m name = .ok (name :: names w.opened) := by
    rw [Item.scanTag_of_opensSection hm, hname]
    rfl
  have hleads : Leads [] w.skipTag.behind.reverse (name :: names w.opened) := by
    rw [hbehind, List.reverse_append, List.reverse_reverse]
    exact h.behind.append (.tag hnodes hscan)
  constructor
  · rw [behind_enter, names_enter]
    exact hleads
  · intro name' outerPassed pass remaining outer hsuffix
    obtain ⟨framed, hopened⟩ | ⟨rest, hopened, -⟩ := opened_enter w.skipTag m name lookup
    all_goals
      rw [hopened] at hsuffix
      obtain heq | hsuffix := List.suffix_cons_iff.mp hsuffix
    · simp at heq
    · exact h.loops hsuffix
    -- The loop that has just been opened.
    · obtain ⟨hsection, rfl⟩ := List.cons.inj heq
      obtain ⟨rfl, hloop⟩ := OpenSection.mk.inj hsection
      obtain ⟨rfl, -, -⟩ := Region.loop.inj hloop
      exact hleads
    · exact h.loops hsuffix

theorem Traced.nextPass {outerPassed : List Node} {pass next : Nat} {v : Value}
    {remaining remaining' : List Value} {outer : List OpenSection} (h : w.Traced)
    (ho : w.opened = ⟨name, .loop outerPassed pass remaining⟩ :: outer) :
    (w.nextPass name outerPassed next v remaining' outer).Traced := by
  -- The walk is again where the body of the loop began.
  have hbody : Leads [] (passedBehind outerPassed outer).reverse (name :: names outer) := by
    have hsuffix : ⟨name, .loop outerPassed pass remaining⟩ :: outer <:+ w.opened := ⟨[], ho.symm⟩
    exact h.loops hsuffix
  constructor
  · exact hbody
  · intro name' outerPassed' pass' remaining'' outer' hsuffix
    obtain heq | hsuffix := List.suffix_cons_iff.mp hsuffix
    · obtain ⟨hsection, rfl⟩ := List.cons.inj heq
      obtain ⟨rfl, hloop⟩ := OpenSection.mk.inj hsection
      obtain ⟨rfl, -, -⟩ := Region.loop.inj hloop
      exact hbody
    · exact h.loops (ho ▸ hsuffix.trans (List.suffix_cons _ _))

/-- Out of a section, over its end tag. -/
theorem Traced.close {region : Region} {outer : List OpenSection} (h : w.Traced)
    (htag : w.AtTag .sectionClose name d tail) (ho : w.opened = ⟨name, region⟩ :: outer) :
    (w.leave region outer).skipTag.Traced := by
  obtain ⟨nodes, hnodes, hbehind⟩ := behind_skipTag (htag.leave region outer)
  have hopened : (w.leave region outer).skipTag.opened = outer := by
    cases region <;> rfl
  have hscan : Item.scanTag (names w.opened) .sectionClose name = .ok (names outer) := by
    rw [ho]
    exact Item.scanTag_sectionClose (names outer) name
  constructor
  · rw [hbehind, behind_leave ho, hopened, List.reverse_append, List.reverse_reverse]
    exact h.behind.append (.tag hnodes hscan)
  -- The loops that are still running are those around the section.
  · intro name' outerPassed pass remaining outer' hsuffix
    rw [hopened] at hsuffix
    exact h.loops (ho ▸ hsuffix.trans (List.suffix_cons _ _))

/-- **A step keeps a walk traced**, wherever it takes the walk. -/
theorem Traced.next (h : w.Traced) (hnext : Next r w w') : w'.Traced := by
  cases move_of_next hnext with
  | @text s d tail hrest =>
    have hemit : (w.emit s).tape.rest = ⟨.text s, d⟩ :: tail := by rw [tape_emit, hrest]
    -- What is written has no part in what is passed.
    refine (h.emit s).pass rfl ?_ (.text _ s d)
    rw [behind_advance hemit]
    rfl
  | @print m name text d tail hm htag hname htext =>
    refine (h.skipTag htag ?_).emit text
    rw [Item.scanTag_of_opensVariable hm, hname]
    rfl
  | comment htag => exact h.skipTag htag rfl
  | @enter m name lookup d tail hm htag hname hlookup => exact h.enter hm htag hname lookup
  -- What comes in with a partial is ahead.
  | splice hm htag hreference hnodes => exact ⟨h.behind, h.loops⟩
  | nextPass hend ho => exact h.nextPass ho
  | close htag ho hr => exact h.close htag ho

/-- **The scan of all tokens comes down to the scan of the tokens ahead**, from inside the open
sections. -/
theorem Traced.scan_stream (h : w.Traced) (hexpandable : w.Expandable) :
    Item.scan [] (r.expandNodes w.stream) =
      Item.scan (names w.opened) (r.expandNodes w.tape.rest) := by
  have hbehind : ∀ node ∈ w.behind.reverse, node.token ≠ .marker .partialTag := by
    intro node hnode
    exact ne_partialTag_of_includes (hexpandable.behind node (List.mem_reverse.mp hnode))
  rw [stream, Renderer.expandNodes_append_left hbehind]
  exact h.behind _

/-! ### What is ahead -/

/-- The walk can be expanded, and its names ask for no element of an array. -/
structure Plain (w : Walk) : Prop extends Expandable w where
  /-- No variable or section has a name with an opening bracket. -/
  plainNames : PlainNames (Node.tokens w.stream)

/-- The tag that a plain walk stands in front of has a name that can be looked up. -/
theorem Plain.exists_resolve (h : w.Plain) (hat : w.AtName m name d tail)
    (hm : m.opensVariable ∨ m.opensSection) : ∃ lookup, w.scopes.resolve name = .ok lookup := by
  obtain ⟨d₂, hrest⟩ := hat
  have hspaced : Spaced (Node.tokens w.behind.reverse ++ Node.tokens w.tape.rest) := by
    have hstream := h.spaced
    rwa [stream, Node.tokens_append] at hstream
  have hmem : (m, name) ∈ tagNames (Node.tokens w.stream) := by
    rw [stream, Node.tokens_append]
    refine tagNames_right hspaced ?_
    simp [hrest]
  exact Scopes.exists_resolve w.scopes (h.plainNames (m, name) hmem hm)

/-- In front of anything but a whole partial tag, the marker and the name stay in the expansion. -/
theorem expandNodes_of_atName (hat : w.AtName m name d tail)
    (hpartial : ¬ StartsWithPartial w.tape.rest) :
    r.expandNodes w.tape.rest =
      .token (.marker m) :: .token (.text name) :: r.expandNodes tail := by
  obtain ⟨d₂, hrest⟩ := hat
  rw [hrest] at hpartial ⊢
  rw [Renderer.expandNodes_cons hpartial, Renderer.expandNodes_cons not_startsWithPartial_text]

theorem not_startsWithPartial_of_atName (hat : w.AtName m name d tail) (hm : m ≠ .partialTag) :
    ¬ StartsWithPartial w.tape.rest := by
  obtain ⟨d₂, hrest⟩ := hat
  rw [hrest]
  exact not_startsWithPartial_marker hm

/-- With the marker that closes it, the tag would be whole. -/
theorem not_startsWithPartial_of_unclosed (hat : w.AtName m name d tail)
    (hclose : ∀ d₃ tail', tail ≠ ⟨.marker m.closing, d₃⟩ :: tail') :
    ¬ StartsWithPartial w.tape.rest := by
  rintro ⟨reference, d', d₂', d₃, tail', hpartial⟩
  obtain ⟨d₂, hrest⟩ := hat
  rw [hrest] at hpartial
  simp only [List.cons.injEq, Node.mk.injEq, Token.marker.injEq] at hpartial
  obtain ⟨⟨rfl, -⟩, -, htail⟩ := hpartial
  exact hclose d₃ tail' htail

/-- Of the tags that include a partial, a plain walk meets only those that name their file. -/
theorem Expandable.eq_partialTag (h : w.Expandable) (hm : m.opensPartial)
    (hat : w.AtName m name d tail) : m = .partialTag := by
  have hdirect := h.direct_rest
  obtain ⟨d₂, hrest⟩ := hat
  cases m with
  | partialTag => rfl
  | partialByVariable => simp [hrest] at hdirect
  | _ => simp [Marker.opensPartial] at hm

/-- Where a whole partial tag stops a walk, a scan finds the stopping point. -/
theorem scan_of_inclusion {reference : String} {e : RenderError} (opened : List String)
    (htag : w.AtTag .partialTag reference d tail)
    (he : (do checkReference reference; w.included r .partialTag d reference) = .error e) :
    Item.scan opened (r.expandNodes w.tape.rest) = .error e := by
  obtain ⟨d₂, d₃, hrest⟩ := htag
  rw [hrest]
  show Item.scan opened (r.expandNodes (⟨.marker .partialTag, d⟩ :: ⟨.text reference, d₂⟩ ::
    ⟨.marker .close, d₃⟩ :: tail)) = .error e
  rw [Renderer.expandNodes_tag, r.inclusion_eq_stop he]
  rfl

/-- A reference that is not allowed stops a scan, be the tag whole or not. -/
theorem scan_of_reference {reference : String} {e : RenderError} (opened : List String)
    (hat : w.AtName .partialTag reference d tail) (hreference : checkReference reference = .error e) :
    Item.scan opened (r.expandNodes w.tape.rest) = .error e := by
  -- A whole tag has become a stopping point; any other is still there for the scan to check.
  by_cases hwhole : ∃ d₃ tail', tail = ⟨.marker .close, d₃⟩ :: tail'
  · obtain ⟨d₃, tail', rfl⟩ := hwhole
    obtain ⟨d₂, hrest⟩ := hat
    refine scan_of_inclusion opened ⟨d₂, d₃, hrest⟩ ?_
    rw [hreference]
    rfl
  · rw [expandNodes_of_atName hat (not_startsWithPartial_of_unclosed hat fun d₃ tail' htail =>
      hwhole ⟨d₃, tail', htail⟩)]
    refine Item.scan_of_scanTag ?_
    rw [Item.scanTag_of_opensPartial rfl, hreference]
    rfl

/-- What a walk accepts a scan accepts, up to the marker that closes the tag. -/
theorem Accepts.scanTag {text : String} (h : w.Accepts m name text) :
    (do
      let _ ← Item.scanTag (names w.opened) m name
      .error (.missing m.closing) : Except RenderError Unit) = .error (.missing m.closing) := by
  cases h with
  | printing hm hname htext =>
    rw [Item.scanTag_of_opensVariable hm, hname]
    rfl
  | comment text => rfl
  | opening hm hname hlookup =>
    rw [Item.scanTag_of_opensSection hm, hname]
    rfl
  | @ending name region outer ho hr =>
    have hscan : Item.scanTag (names w.opened) .sectionClose name = .ok (names outer) := by
      rw [ho]
      exact Item.scanTag_sectionClose (names outer) name
    rw [hscan]
    rfl
  -- A scan gives up on a partial tag that is not whole, for the same reason.
  | reference hm hreference =>
    rw [Item.scanTag_of_opensPartial hm, hreference, Marker.closing_of_opensPartial hm]
    rfl

/-- A marker that is not ahead is not next in the expansion. -/
theorem expandNodes_ne_marker (h : ∀ d tail', tail ≠ ⟨.marker m, d⟩ :: tail') :
    ∀ items, r.expandNodes tail ≠ .token (.marker m) :: items := by
  intro items hitems
  have hahead : r.ahead tail = ⟨.marker m, 0⟩ :: Node.ofTokens 0 (Item.tokens items) := by
    rw [Renderer.ahead, hitems]
    rfl
  obtain ⟨d', tail', htail⟩ := Renderer.eq_of_ahead_eq_marker hahead
  exact h d' tail' htail

/-- **What stops a plain walk stops a scan of the tokens ahead.** -/
theorem Plain.scan_of_failure {f : RenderFailure} (h : w.Plain) (hf : w.step r = .error f) :
    Item.scan (names w.opened) (r.expandNodes w.tape.rest) = .error f.error := by
  -- First the failures that are in the markers, then those in the names.
  cases halt_of_failure h.spaced_rest hf with
  | @unexpected m d tail hm hrest =>
    obtain ⟨name, tail', hat⟩ := atName_of_spaced h.spaced_rest hrest
    have hpartial : m ≠ .partialTag := by rintro rfl; simp [Marker.isClose] at hm
    rw [expandNodes_of_atName hat (not_startsWithPartial_of_atName hat hpartial)]
    exact Item.scan_of_scanTag (Item.scanTag_of_isClose hm _ _)
  | @unopened d tail hrest ho =>
    obtain ⟨name, tail', hat⟩ := atName_of_spaced h.spaced_rest hrest
    rw [expandNodes_of_atName hat (not_startsWithPartial_of_atName hat (by simp)), ho]
    exact Item.scan_of_scanTag rfl
  | unclosed hrest ho hr =>
    rw [hrest, ho]
    rfl
  | @mismatched name found region outer d tail e hat ho hr hname =>
    rw [expandNodes_of_atName hat (not_startsWithPartial_of_atName hat (by simp)), ho]
    refine Item.scan_of_scanTag ?_
    show (do checkEndName name found; return names outer) = Except.error e
    rw [hname]
    rfl
  | @name m name d tail e hm hat hname =>
    have hpartial : m ≠ .partialTag := by
      rintro rfl
      simp [Marker.opensVariable, Marker.opensSection] at hm
    rw [expandNodes_of_atName hat (not_startsWithPartial_of_atName hat hpartial)]
    refine Item.scan_of_scanTag ?_
    obtain hm | hm := hm
    · rw [Item.scanTag_of_opensVariable hm, hname]
      rfl
    · rw [Item.scanTag_of_opensSection hm, hname]
      rfl
  -- A plain name can be looked up in any frame.
  | @print m name d tail e hm hat hname htext =>
    obtain ⟨lookup, hlookup⟩ := h.exists_resolve hat (.inl hm)
    exfalso
    rw [variableText_eq] at htext
    rw [hlookup] at htext
    split at htext <;> simp at htext
  | @enter m name d tail e hm hat hname hlookup =>
    obtain ⟨lookup, hfound⟩ := h.exists_resolve hat (.inr hm)
    rw [hfound] at hlookup
    exact absurd hlookup (by simp)
  | @reference m reference d tail e hm hat hreference =>
    obtain rfl := h.eq_partialTag hm hat
    exact scan_of_reference _ hat hreference
  -- A partial that does not come in is a stopping point of the expansion.
  | @splice m reference d tail e hm htag hreference hnodes =>
    obtain ⟨d₃, hat⟩ := htag.atName
    obtain rfl := h.eq_partialTag hm hat
    refine scan_of_inclusion _ htag ?_
    rw [hreference]
    exact hnodes
  -- Walk and scan get as far as the name, and both miss the marker behind it.
  | @unfinished m name text d tail hat haccepts hclose =>
    rw [expandNodes_of_atName hat (not_startsWithPartial_of_unclosed hat hclose),
      Item.scan_unfinished (expandNodes_ne_marker hclose)]
    exact haccepts.scanTag

/-! ### Runs -/

/-- **A run over plain walks ends as a scan of its tokens does.** -/
theorem ending_run (h : w.Traced) (hplain : ∀ u, Reaches r w u → u.Plain) :
    ending (w.run r) = Item.scan [] (r.expandNodes w.stream) := by
  -- The invariants go along with the run, and neither changes the expansion.
  induction w using run.induct r with
  | case1 w next hnext ih =>
    have hnext' : Next r w next := hnext
    rw [run_of_next hnext, ih (h.next hnext') fun u hu => hplain u (.head hnext' hu),
      (hplain w (.refl w)).expandNodes_next hnext']
  | case2 w hend =>
    obtain ⟨hrest, hopened⟩ := of_step_end hend
    rw [run_of_end hend, h.scan_stream (hplain w (.refl w)).toExpandable, hrest, hopened]
    rfl
  | case3 w f hf =>
    have hw := hplain w (.refl w)
    rw [run_of_failure hf, h.scan_stream hw.toExpandable, hw.scan_of_failure hf]
    rfl

end Walk

/-- **A render whose walks are plain ends as a scan of the expansion of its template does.** -/
theorem Renderer.ending_render {r : Renderer} {template : String} {context : Value}
    (h : ∀ u, Walk.Reaches r (Walk.start template context) u → u.Plain) :
    ending (r.render template context) = Item.scan [] (r.expand (tokenize template)) := by
  rw [render, Walk.ending_run (Walk.traced_start template context) h, Walk.stream_start,
    expandNodes_ofTokens]
  rfl

end Mustache
