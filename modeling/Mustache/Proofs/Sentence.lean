import Mustache.Proofs.Spacing
/-!
# Sentences

A sentence is a list of tokens that reads as a message: texts, whole tags, and sections that are
closed. `Sentence` says so along the grammar. A name need not be one that a tag may have, and a
section may be closed under any name; a walk finds that out by itself.

A walk does not go along the tree. What it goes along is `Reads a tokens b`: the tokens lead from
inside `a` open sections to inside `b`, with every tag whole on the way. A sentence leads from any
depth back to this depth (`Sentence.reads`).

* `Walk.Balanced w`: the tokens ahead close just the sections that are open, and the tokens passed
  in each running pass lead from the start of the body to where they end.
* `Balanced.next`: a step keeps a walk balanced, where all partials are sentences.

So a balanced walk that goes back to the start of a body reads it once more, and it comes to the end
of its tokens in no open section.
-/

namespace Mustache

/-- Whether the marker opens a tag that is no part of a section. -/
def Marker.opensSingle (m : Marker) : Bool :=
  m.opensVariable || m == .comment || m.opensPartial

/-- The first tag of a section is no single one. -/
theorem Marker.not_opensSingle_of_opensSection {m : Marker} (hm : m.opensSection) :
    ¬ m.opensSingle := by
  cases m <;> simp_all [opensSection, opensSingle, opensVariable, opensPartial]

/-- A list of tokens that reads as a message. -/
inductive Sentence : List Token → Prop where
  /-- Nothing more. -/
  | nil : Sentence []
  /-- A text, and what follows it. -/
  | text (s : String) {ts : List Token} (h : Sentence ts) : Sentence (.text s :: ts)
  /-- A tag that is no part of a section, and what follows it. -/
  | single {m : Marker} (hm : m.opensSingle) (name : String) {ts : List Token} (h : Sentence ts) :
    Sentence (m.tag name ++ ts)
  /-- A section with its body, and what follows it. -/
  | block {m : Marker} (hm : m.opensSection) (name name' : String) {body ts : List Token}
    (hbody : Sentence body) (h : Sentence ts) :
    Sentence (m.tag name ++ (body ++ (Marker.sectionClose.tag name' ++ ts)))

/-- The tokens lead from inside so many open sections to inside so many. -/
inductive Reads : Nat → List Token → Nat → Prop where
  /-- There is no token. -/
  | nil (a : Nat) : Reads a [] a
  /-- Over a text. -/
  | text (s : String) {a b : Nat} {ts : List Token} (h : Reads a ts b) : Reads a (.text s :: ts) b
  /-- Over a tag that is no part of a section. -/
  | single {m : Marker} (hm : m.opensSingle) (name : String) {a b : Nat} {ts : List Token}
    (h : Reads a ts b) : Reads a (.marker m :: .text name :: .marker m.closing :: ts) b
  /-- Into a section. -/
  | opens {m : Marker} (hm : m.opensSection) (name : String) {a b : Nat} {ts : List Token}
    (h : Reads (a + 1) ts b) : Reads a (.marker m :: .text name :: .marker m.closing :: ts) b
  /-- Out of a section. -/
  | closes (name : String) {a b : Nat} {ts : List Token} (h : Reads a ts b) :
    Reads (a + 1) (.marker .sectionClose :: .text name :: .marker .close :: ts) b

namespace Reads

variable {a b c : Nat} {ts us : List Token} {m : Marker} {s : String}

theorem append (h : Reads a ts b) (h' : Reads b us c) : Reads a (ts ++ us) c := by
  induction h with
  | nil => exact h'
  | text s _ ih => exact .text s (ih h')
  | single hm name _ ih => exact .single hm name (ih h')
  | opens hm name _ ih => exact .opens hm name (ih h')
  | closes name _ ih => exact .closes name (ih h')

theorem of_text (h : Reads a (.text s :: ts) b) : Reads a ts b := by
  cases h with
  | text s h => exact h

/-- A marker starts a whole tag. -/
theorem of_marker (h : Reads a (.marker m :: ts) b) :
    ∃ name us, ts = .text name :: .marker m.closing :: us ∧
      (m.opensSingle ∧ Reads a us b ∨ m.opensSection ∧ Reads (a + 1) us b ∨
        m = .sectionClose ∧ ∃ outer, a = outer + 1 ∧ Reads outer us b) := by
  cases h with
  | single hm name h => exact ⟨name, _, rfl, .inl ⟨hm, h⟩⟩
  | opens hm name h => exact ⟨name, _, rfl, .inr (.inl ⟨hm, h⟩)⟩
  | closes name h => exact ⟨name, _, rfl, .inr (.inr ⟨rfl, _, rfl, h⟩)⟩

end Reads

/-- **A sentence leads back to the depth that it starts from.** -/
theorem Sentence.reads {ts : List Token} (h : Sentence ts) (a : Nat) : Reads a ts a := by
  induction h generalizing a with
  | nil => exact .nil a
  | text s _ ih => exact .text s (ih a)
  | single hm name _ ih => exact .single hm name (ih a)
  | block hm name name' _ _ ihbody ih =>
    -- The body is read one section further in.
    exact .opens hm name ((ihbody (a + 1)).append (.closes name' (ih a)))

/-! ### Parameters -/

namespace BindingTable

theorem apply_marker (t : BindingTable) {m : Marker} (hm : m ≠ .escaped) (ts : List Token) :
    t.apply (.marker m :: ts) = .marker m :: t.apply ts := by
  rw [apply]
  rintro rest name h -
  exact hm (Token.marker.inj h)

/-- A tag that does not print a value stays. -/
theorem apply_tag (t : BindingTable) {m : Marker} (hm : m ≠ .escaped) (name : String)
    (ts : List Token) :
    t.apply (.marker m :: .text name :: .marker m.closing :: ts) =
      .marker m :: .text name :: .marker m.closing :: t.apply ts := by
  have hclosing : m.closing ≠ .escaped := by cases m <;> simp [Marker.closing]
  rw [apply_marker t hm, apply_text, apply_marker t hclosing]

/-- **Parameters lead where the tokens lead.** -/
theorem reads_apply (t : BindingTable) {a b : Nat} {ts : List Token} (h : Reads a ts b) :
    Reads a (t.apply ts) b := by
  induction h with
  | nil a => exact .nil a
  | text s _ ih =>
    rw [apply_text]
    exact .text s ih
  | @single m hm name a b ts h ih =>
    by_cases hescaped : m = .escaped
    · subst hescaped
      simp only [Marker.closing, apply]
      -- A tag with the name of a parameter becomes a text.
      split
      · exact .text _ ih
      · exact .single hm name ih
    · rw [apply_tag t hescaped]
      exact .single hm name ih
  | @opens m hm name a b ts h ih =>
    have hescaped : m ≠ .escaped := by
      rintro rfl
      simp [Marker.opensSection] at hm
    rw [apply_tag t hescaped]
    exact .opens hm name ih
  | @closes name a b ts h ih =>
    have htag := t.apply_tag (m := .sectionClose) (by simp) name ts
    simp only [Marker.closing] at htag
    rw [htag]
    exact .closes name ih

end BindingTable

/-- Every text that can be loaded as a partial is a sentence. -/
def Renderer.LoadsSentences (r : Renderer) : Prop :=
  ∀ file text, r.loader file r.options.partialExtension = .ok text → Sentence (tokenize text)

theorem Renderer.loadsSentences_of_entries {s : Store} {options : Options}
    (h : ∀ entry ∈ s.entries, Sentence (tokenize entry.2)) :
    (⟨s.loader, options⟩ : Renderer).LoadsSentences := by
  intro file text hload
  obtain ⟨key, hentry⟩ := Store.exists_entry hload
  exact h (key, text) hentry

theorem Renderer.reads_of_partialTokens {r : Renderer} (hr : r.LoadsSentences) {file : String}
    {parameters : List String} {ts : List Token} (h : r.partialTokens file parameters = .ok ts)
    (a : Nat) : Reads a ts a := by
  obtain ⟨text, table, hload, rfl⟩ := exists_of_partialTokens h
  exact table.reads_apply ((hr file text hload).reads a)

/-! ### Balanced walks -/

namespace Walk

variable {r : Renderer} {w w' : Walk} {m : Marker} {name : String} {d : Nat} {tail : List Node}

/-- The tokens passed in each running pass, and those passed outside all loops, lead from where they
begin to where they end: the innermost ones to inside `depth` open sections, the others to inside
the section that is the next loop. -/
def Tracks (passed : List Node) (depth : Nat) : List OpenSection → Prop
  | [] => Reads 0 (Node.tokens passed.reverse) depth
  | ⟨_, .once _ _⟩ :: outer => Tracks passed depth outer
  | ⟨_, .loop outerPassed _ _⟩ :: outer =>
    Reads (outer.length + 1) (Node.tokens passed.reverse) depth ∧
      Tracks outerPassed (outer.length + 1) outer

theorem tracks_append {passed nodes : List Node} {depth depth' : Nat} {opened : List OpenSection}
    (h : Tracks passed depth opened) (hnodes : Reads depth (Node.tokens nodes) depth') :
    Tracks (nodes.reverse ++ passed) depth' opened := by
  -- Only the innermost running pass, or what is outside of all loops, gets longer.
  induction opened with
  | nil =>
    rw [Tracks, List.reverse_append, List.reverse_reverse, Node.tokens_append]
    exact h.append hnodes
  | cons s outer ih =>
    obtain ⟨name, region⟩ := s
    cases region with
    | once outerVisible framed => exact ih h
    | loop outerPassed pass remaining =>
      obtain ⟨hpassed, houter⟩ := h
      refine ⟨?_, houter⟩
      rw [List.reverse_append, List.reverse_reverse, Node.tokens_append]
      exact hpassed.append hnodes

/-- The tokens ahead close the open sections, and the tokens passed lead here. -/
structure Balanced (w : Walk) : Prop where
  /-- The tokens ahead close the open sections. -/
  rest : Reads w.opened.length (Node.tokens w.tape.rest) 0
  /-- The tokens passed lead to inside the open sections. -/
  passed : Tracks w.tape.passed w.opened.length w.opened

/-- A balanced walk meets whole tags. -/
theorem Balanced.of_marker (h : w.Balanced) (hrest : w.tape.rest = ⟨.marker m, d⟩ :: tail) :
    ∃ name tail', w.AtTag m name d tail' ∧
      (m.opensSingle ∧ Reads w.opened.length (Node.tokens tail') 0 ∨
        m.opensSection ∧ Reads (w.opened.length + 1) (Node.tokens tail') 0 ∨
          m = .sectionClose ∧ ∃ outer, w.opened.length = outer + 1 ∧
            Reads outer (Node.tokens tail') 0) := by
  have hreads := h.rest
  rw [hrest, Node.tokens_cons] at hreads
  obtain ⟨name, us, htail, hcases⟩ := hreads.of_marker
  -- The tokens say what the nodes hold; the depths come with the nodes.
  match tail, htail with
  | ⟨t₂, d₂⟩ :: ⟨t₃, d₃⟩ :: tail', htail =>
    simp only [Node.tokens_cons, List.cons.injEq] at htail
    obtain ⟨rfl, rfl, rfl⟩ := htail
    exact ⟨name, tail', ⟨d₂, d₃, hrest⟩, hcases⟩

/-- Behind a whole tag, a balanced walk is where the kind of the tag says. -/
theorem Balanced.of_atTag (h : w.Balanced) (htag : w.AtTag m name d tail) :
    m.opensSingle ∧ Reads w.opened.length (Node.tokens tail) 0 ∨
      m.opensSection ∧ Reads (w.opened.length + 1) (Node.tokens tail) 0 ∨
        m = .sectionClose ∧ ∃ outer, w.opened.length = outer + 1 ∧
          Reads outer (Node.tokens tail) 0 := by
  obtain ⟨d₂, d₃, hrest⟩ := htag
  obtain ⟨name', tail', ⟨d₂', d₃', hrest'⟩, hcases⟩ := h.of_marker hrest
  rw [hrest] at hrest'
  simp only [List.cons.injEq] at hrest'
  obtain ⟨-, -, -, rfl⟩ := hrest'
  exact hcases

theorem tracks_skipTag {depth depth' : Nat} (htag : w.AtTag m name d tail)
    (h : Tracks w.tape.passed depth w.opened) (hreads : Reads depth (m.tag name) depth') :
    Tracks w.skipTag.tape.passed depth' w.opened := by
  obtain ⟨nodes, hnodes, htape⟩ := htag.tape_skipTag
  rw [htape]
  exact tracks_append h (hnodes ▸ hreads)

theorem Balanced.emit (h : w.Balanced) (text : String) : (w.emit text).Balanced := by
  constructor
  · rw [tape_emit, opened_emit]
    exact h.rest
  · rw [tape_emit, opened_emit]
    exact h.passed

/-- Over a text. -/
theorem Balanced.text {s : String} (h : w.Balanced) (hrest : w.tape.rest = ⟨.text s, d⟩ :: tail) :
    (w.emit s).advance.Balanced := by
  have hreads := h.rest
  rw [hrest, Node.tokens_cons] at hreads
  have htape : w.advance.tape = ⟨⟨.text s, d⟩ :: w.tape.passed, tail⟩ := by
    simp [advance, Tape.advance, hrest]
  have hadvance : w.advance.Balanced := by
    constructor
    · rw [htape]
      exact hreads.of_text
    · rw [htape]
      have htext : Reads w.opened.length (Node.tokens [⟨.text s, d⟩]) w.opened.length :=
        .text s (.nil _)
      exact tracks_append h.passed htext
  rw [advance_emit]
  exact hadvance.emit s

/-- Over a tag that is no part of a section. -/
theorem Balanced.skipTag (h : w.Balanced) (htag : w.AtTag m name d tail) (hm : m.opensSingle) :
    w.skipTag.Balanced where
  rest := by
    obtain ⟨-, hreads⟩ | ⟨hsection, -⟩ | ⟨rfl, -⟩ := h.of_atTag htag
    · rw [htag.rest_skipTag]
      exact hreads
    · exact absurd hm (Marker.not_opensSingle_of_opensSection hsection)
    · simp [Marker.opensSingle, Marker.opensVariable, Marker.opensPartial] at hm
  passed := tracks_skipTag htag h.passed (.single hm name (.nil _))

/-- Into a section. -/
theorem Balanced.enter (h : w.Balanced) (htag : w.AtTag m name d tail) (hm : m.opensSection)
    (lookup : Lookup) : (w.skipTag.enter m name lookup).Balanced := by
  have htail : Reads (w.opened.length + 1) (Node.tokens w.skipTag.tape.rest) 0 := by
    rw [htag.rest_skipTag]
    obtain ⟨hsingle, -⟩ | ⟨-, hreads⟩ | ⟨rfl, -⟩ := h.of_atTag htag
    · exact absurd hsingle (Marker.not_opensSingle_of_opensSection hm)
    · exact hreads
    · simp [Marker.opensSection] at hm
  have hpassed : Tracks w.skipTag.tape.passed (w.opened.length + 1) w.opened :=
    tracks_skipTag htag h.passed (.opens hm name (.nil _))
  unfold Walk.enter
  split
  · exact ⟨htail, .nil _, hpassed⟩
  · exact ⟨htail, hpassed⟩
  · exact ⟨htail, hpassed⟩

/-- A partial that is a sentence comes in. -/
theorem Balanced.splice (hr : r.LoadsSentences) (h : w.Balanced) {reference : String}
    {nodes : List Node} (hm : m.opensPartial) (htag : w.AtTag m reference d tail)
    (hnodes : w.included r m d reference = .ok nodes) :
    Balanced { w with tape := ⟨w.tape.passed, nodes ++ tail⟩ } where
  rest := by
    obtain ⟨file, ts, -, -, hts, rfl⟩ := exists_of_included hnodes
    rw [Node.tokens_append, Node.tokens_ofTokens]
    have hbody := Renderer.reads_of_partialTokens hr hts w.opened.length
    obtain ⟨-, hreads⟩ | ⟨hsection, -⟩ | ⟨rfl, -⟩ := h.of_atTag htag
    · exact hbody.append hreads
    · exact absurd (by simp [Marker.opensSingle, hm])
        (Marker.not_opensSingle_of_opensSection hsection)
    · simp [Marker.opensPartial] at hm
  passed := h.passed

/-- Back to the start of a body. -/
theorem Balanced.nextPass (h : w.Balanced) {outerPassed : List Node} {pass : Nat} {v : Value}
    {remaining : List Value} {outer : List OpenSection}
    (ho : w.opened = ⟨name, .loop outerPassed pass (v :: remaining)⟩ :: outer) :
    (w.nextPass name outerPassed (pass + 1) v remaining outer).Balanced := by
  have hpassed := h.passed
  have hrest := h.rest
  rw [ho] at hpassed hrest
  obtain ⟨hbody, houter⟩ := hpassed
  constructor
  -- What this pass has passed is ahead once more, in front of what was ahead.
  · rw [Walk.nextPass, Node.tokens_append]
    exact hbody.append hrest
  · exact ⟨.nil _, houter⟩

/-- Out of a section. -/
theorem Balanced.close (h : w.Balanced) {region : Region} {outer : List OpenSection}
    (htag : w.AtTag .sectionClose name d tail) (ho : w.opened = ⟨name, region⟩ :: outer) :
    (w.leave region outer).skipTag.Balanced := by
  have htail : Reads outer.length (Node.tokens tail) 0 := by
    obtain ⟨hsingle, -⟩ | ⟨hsection, -⟩ | ⟨-, n, hn, hreads⟩ := h.of_atTag htag
    · simp [Marker.opensSingle, Marker.opensVariable, Marker.opensPartial] at hsingle
    · simp [Marker.opensSection] at hsection
    · obtain rfl : n = outer.length := by simpa [ho] using hn.symm
      exact hreads
  have hpassed := h.passed
  rw [ho] at hpassed
  have hclose : Reads (outer.length + 1) (Marker.sectionClose.tag name) outer.length :=
    .closes name (.nil _)
  have htag' := htag.leave region outer
  have hleave : Tracks (w.leave region outer).tape.passed (outer.length + 1)
      (w.leave region outer).opened := by
    cases region with
    | once outerVisible framed => exact hpassed
    | loop outerPassed pass remaining =>
      -- What the last pass has passed goes behind what was passed before the loop.
      have htracks := tracks_append hpassed.2 hpassed.1
      rwa [List.reverse_reverse] at htracks
  have hopened : (w.leave region outer).opened = outer := by cases region <;> rfl
  have htracks := tracks_skipTag htag' hleave hclose
  rw [hopened] at htracks
  constructor
  · rw [htag'.rest_skipTag]
    have hlength : (w.leave region outer).skipTag.opened.length = outer.length :=
      congrArg List.length hopened
    rw [hlength]
    exact htail
  · have hskip : (w.leave region outer).skipTag.opened = outer := hopened
    rw [hskip]
    exact htracks

/-- **A step keeps a walk balanced.** -/
theorem Balanced.next (hr : r.LoadsSentences) (h : w.Balanced) (hnext : Next r w w') :
    w'.Balanced := by
  cases move_of_next hnext with
  | text hrest => exact h.text hrest
  | print hm htag hname htext => exact (h.skipTag htag (by simp [Marker.opensSingle, hm])).emit _
  | comment htag => exact h.skipTag htag rfl
  | enter hm htag hname hlookup => exact h.enter htag hm _
  | splice hm htag hreference hnodes => exact h.splice hr hm htag hnodes
  | nextPass hend ho => exact h.nextPass ho
  | close htag ho hr => exact h.close htag ho

/-- A balanced walk is at its end once no token is ahead. -/
theorem Balanced.step_end (h : w.Balanced) (hrest : w.tape.rest = []) : w.step r = .ok none := by
  have hreads := h.rest
  rw [hrest, Node.tokens_nil] at hreads
  -- Without tokens no section can be closed, so there is none.
  cases hlength : w.opened.length with
  | zero => exact Walk.step_end hrest (List.length_eq_zero_iff.mp hlength)
  | succ n =>
    rw [hlength] at hreads
    cases hreads

theorem Balanced.start {template : String} (context : Value) (h : Sentence (tokenize template)) :
    (start template context).Balanced where
  rest := by
    simp only [Walk.start, Node.tokens_ofTokens]
    exact h.reads 0
  passed := .nil 0

end Walk

end Mustache
