import Mustache.Proofs.Chain
import Mustache.Proofs.Spacing
/-!
# Walking over a token stream

A walk has the tokens on both sides in lists. Here they lie in one `TokenStream`, and the walk holds
handles into it: the node that comes next, and for each loop that is running the node where its body
begins. A later pass starts by going back to such a node, and a partial is put in by a splice of its
tag, so the handles have to outlive the splices.

* `StreamCursor.Holds c w`: from the handles of `c` the links lead over the tokens of `w`.
* `Holds.forward`, `Holds.begin`, `Holds.again`, `Holds.leave`, `Holds.splice`: what the walk does
  to its lists is done to the stream by moving handles, and by splices whose runs the chain holds.
* `Holds.next`: so it is for every step (`StreamCursor.Turn`).
* `exists_holds_of_reaches`: every walk that a render comes to has its tokens in a stream that has
  come about by such splices.

No handle is ever changed by a splice. The node of the tag takes the first token of the partial, so
a body that begins with the tag begins with the partial from then on.
-/

namespace Mustache

open TokenStream

/-! ### Nodes of a stream as nodes of a walk -/

/-- The node without its link. -/
def StreamNode.toNode (node : StreamNode) : Node := ⟨node.token, node.depth⟩

namespace TokenStream

variable {s s' : TokenStream} {nodes : Array StreamNode} {here? there? stop? : Option Nat}
  {entries xs ys : List (Nat × StreamNode)} {first : Nat}

/-- Some nodes without their numbers and links. -/
def laid (entries : List (Nat × StreamNode)) : List Node := entries.map fun entry => entry.2.toNode

@[simp] theorem laid_nil : laid [] = [] := rfl

@[simp] theorem laid_cons (entry : Nat × StreamNode) (entries : List (Nat × StreamNode)) :
    laid (entry :: entries) = entry.2.toNode :: laid entries := rfl

@[simp] theorem laid_append (xs ys : List (Nat × StreamNode)) :
    laid (xs ++ ys) = laid xs ++ laid ys := List.map_append

theorem tokens_laid (entries : List (Nat × StreamNode)) :
    Node.tokens (laid entries) = entries.map fun entry => entry.2.token := by
  rw [Node.tokens, laid, List.map_map]
  rfl

/-- Nodes of one depth are tokens that come in at this depth. -/
theorem laid_eq_ofTokens {tokens : List Token} {depth : Nat}
    (htokens : entries.map (fun entry => entry.2.token) = tokens)
    (hdepth : ∀ entry ∈ entries, entry.2.depth = depth) :
    laid entries = Node.ofTokens depth tokens := by
  rw [← htokens, Node.ofTokens, List.map_map]
  refine List.map_congr_left fun entry hentry => ?_
  rw [StreamNode.toNode, hdepth entry hentry]
  rfl

/-! ### What lies behind a handle -/

/-- The tokens passed lie in front of the handle: back to the body of the innermost loop, from there
back to the body of the loop around it, and so on to the head. -/
inductive LiesBehind (s : TokenStream) :
    Option Nat → List Node → List OpenSection → List (Option Nat) → Prop where
  /-- In no loop, the tokens lie between the head and the handle. -/
  | start {here? : Option Nat} {passed : List Node} {xs : List (Nat × StreamNode)}
    (h : Leads s.nodes s.head? xs here?) (hx : laid xs = passed.reverse) :
    LiesBehind s here? passed [] []
  /-- A section that is no loop holds no handle. -/
  | once {here? : Option Nat} {passed : List Node} {name : String} {outerVisible framed : Bool}
    {outer : List OpenSection} {bodies : List (Option Nat)}
    (h : LiesBehind s here? passed outer bodies) :
    LiesBehind s here? passed (⟨name, .once outerVisible framed⟩ :: outer) bodies
  /-- In a loop, they lie between the body and the handle. -/
  | loop {here? body? : Option Nat} {passed outerPassed : List Node} {name : String} {pass : Nat}
    {remaining : List Value} {outer : List OpenSection} {bodies : List (Option Nat)}
    {xs : List (Nat × StreamNode)} (h : Leads s.nodes body? xs here?)
    (hx : laid xs = passed.reverse) (houter : LiesBehind s body? outerPassed outer bodies) :
    LiesBehind s here? passed (⟨name, .loop outerPassed pass remaining⟩ :: outer) (body? :: bodies)

namespace LiesBehind

variable {passed : List Node} {opened : List OpenSection} {bodies : List (Option Nat)}

/-- Nodes on the way to a later handle are passed. -/
theorem extend (h : s.LiesBehind here? passed opened bodies) (hx : Leads s.nodes here? xs there?) :
    s.LiesBehind there? ((laid xs).reverse ++ passed) opened bodies := by
  induction h with
  | start h hlaid => exact .start (h.append hx) (by simp [hlaid])
  | once _ ih => exact .once (ih hx)
  | loop h hlaid houter => exact .loop (h.append hx) (by simp [hlaid]) houter

/-- All in all, the tokens passed lie between the head and the handle. -/
theorem exists_leads (h : s.LiesBehind here? passed opened bodies) :
    ∃ xs, Leads s.nodes s.head? xs here? ∧ laid xs = (Walk.passedBehind passed opened).reverse := by
  induction h with
  | start h hlaid => exact ⟨_, h, hlaid⟩
  | once _ ih => exact ih
  | @loop _ _ passed outerPassed name pass remaining outer bodies xs h hlaid _ ih =>
    obtain ⟨ys, hys, hlaid'⟩ := ih
    refine ⟨ys ++ xs, hys.append h, ?_⟩
    rw [laid_append, hlaid, hlaid', Walk.passedBehind, Walk.passedBehind_append,
      List.reverse_append]

/-- **What lies behind a handle stays there** when a run ahead of it is replaced. -/
theorem splice (h : s.LiesBehind here? passed opened bodies) (hahead : Leads s.nodes here? ys none)
    (hfirst : first ∈ numbers ys) (last : Nat) (tokens : List Token) (depth : Nat) :
    (s.splice first last tokens depth).LiesBehind here? passed opened bodies := by
  induction h generalizing ys with
  | start h hlaid => exact .start (h.splice_ahead hahead hfirst last tokens depth) hlaid
  | once _ ih => exact .once (ih hahead hfirst)
  | loop h hlaid _ ih =>
    refine .loop (h.splice_ahead hahead hfirst last tokens depth) hlaid (ih (h.append hahead) ?_)
    rw [numbers_append]
    exact List.mem_append_right _ hfirst

end LiesBehind

end TokenStream

/-! ### Handles of a walk -/

/-- A token stream with the handles that a walk over it holds. -/
structure StreamCursor where
  /-- The stream. -/
  stream : TokenStream
  /-- The node that comes next. -/
  here? : Option Nat
  /-- The nodes where the bodies of the running loops begin, the innermost loop first. -/
  bodies : List (Option Nat)

namespace StreamCursor

variable {c c' : StreamCursor} {w w' : Walk} {r : Renderer} {m : Marker} {name reference : String}
  {d : Nat} {tail : List Node} {region : Region} {outer : List OpenSection}

/-- The links lead over the tokens of the walk. -/
structure Holds (c : StreamCursor) (w : Walk) : Prop where
  /-- From the node that comes next to the end lie the tokens ahead. -/
  ahead : ∃ entries, TokenStream.Leads c.stream.nodes c.here? entries none ∧
    laid entries = w.tape.rest
  /-- In front of it lie the tokens passed. -/
  behind : c.stream.LiesBehind c.here? w.tape.passed w.opened c.bodies

/-- The cursor behind the next node. -/
def forward (c : StreamCursor) : StreamCursor := { c with here? := c.here?.bind c.stream.next? }

/-- Keeps the next node as the one where the body of a loop begins. -/
def begin (c : StreamCursor) : StreamCursor := { c with bodies := c.here? :: c.bodies }

/-- The cursor at a node that has been kept. -/
def goTo (c : StreamCursor) (body? : Option Nat) : StreamCursor := { c with here? := body? }

/-- Gives the node back that was kept last. -/
def drop (c : StreamCursor) : StreamCursor := { c with bodies := c.bodies.tail }

/-- Replaces a run of the stream. All handles stay as they are. -/
def splice (c : StreamCursor) (first last : Nat) (tokens : List Token) (depth : Nat) :
    StreamCursor :=
  { c with stream := c.stream.splice first last tokens depth }

namespace Holds

theorem isChain (h : c.Holds w) :
    ∃ entries, c.stream.IsChain entries ∧ laid entries = w.stream := by
  obtain ⟨xs, hxs, hbehind⟩ := h.behind.exists_leads
  obtain ⟨ys, hys, hahead⟩ := h.ahead
  refine ⟨xs ++ ys, hxs.append hys, ?_⟩
  rw [laid_append, hbehind, hahead]
  rfl

/-- The stream has the tokens of the walk. -/
theorem tokens_eq (h : c.Holds w) : c.stream.tokens = Node.tokens w.stream := by
  obtain ⟨entries, hchain, hlaid⟩ := h.isChain
  rw [TokenStream.tokens, hchain.toList_eq, ← hlaid, tokens_laid]

theorem congr (h : c.Holds w) (htape : w'.tape = w.tape) (hopened : w'.opened = w.opened) :
    c.Holds w' :=
  ⟨htape ▸ h.ahead, by rw [htape, hopened]; exact h.behind⟩

theorem emit (h : c.Holds w) (text : String) : c.Holds (w.emit text) :=
  h.congr (Walk.tape_emit w text) (Walk.opened_emit w text)

/-- Passing a token is following a link. -/
theorem forward {node : Node} (h : c.Holds w) (hrest : w.tape.rest = node :: tail) :
    c.forward.Holds w.advance := by
  obtain ⟨entries, hleads, hlaid⟩ := h.ahead
  rw [hrest] at hlaid
  match entries, hleads, hlaid with
  | (id, streamNode) :: entries, hleads, hlaid =>
    obtain ⟨rfl, rfl⟩ := List.cons.inj hlaid
    have hnext : c.forward.here? = c.stream.next? id := by
      rw [StreamCursor.forward, hleads.start?_eq, Option.bind_some]
    have hadvance : w.advance.tape = ⟨streamNode.toNode :: w.tape.passed, laid entries⟩ := by
      simp only [Walk.advance, Tape.advance, hrest]
      rfl
    constructor
    · rw [hadvance, hnext]
      exact ⟨entries, hleads.tail, rfl⟩
    · rw [hadvance, hnext]
      exact h.behind.extend hleads.head

theorem forward_tag (h : c.Holds w) (htag : w.AtTag m name d tail) :
    c.forward.forward.forward.Holds w.skipTag := by
  obtain ⟨d₂, d₃, hrest⟩ := htag
  have hrest₂ := Tape.rest_advance hrest
  exact ((h.forward hrest).forward hrest₂).forward (Tape.rest_advance hrest₂)

/-- A loop keeps the node behind its tag. -/
theorem enter (h : c.Holds w) (m : Marker) (name : String) (lookup : Lookup) :
    ∃ c', (c' = c ∨ c' = c.begin) ∧ c'.Holds (w.enter m name lookup) := by
  simp only [Walk.enter]
  split
  · refine ⟨c.begin, .inr rfl, h.ahead, ?_⟩
    exact .loop (.nil c.here?) rfl h.behind
  · exact ⟨c, .inl rfl, h.ahead, .once h.behind⟩
  · exact ⟨c, .inl rfl, h.ahead, .once h.behind⟩

/-- **The next pass of a loop starts at the node that the loop has kept**, whatever has been
spliced in since. -/
theorem again {outerPassed : List Node} {pass next : Nat} {v : Value}
    {remaining remaining' : List Value}
    (h : c.Holds w) (ho : w.opened = ⟨name, .loop outerPassed pass remaining⟩ :: outer) :
    ∃ body? bodies, c.bodies = body? :: bodies ∧
      (c.goTo body?).Holds (w.nextPass name outerPassed next v remaining' outer) := by
  obtain ⟨entries, hleads, hlaid⟩ := h.ahead
  have hbehind := h.behind
  rw [ho] at hbehind
  generalize hbodies : c.bodies = bodies at hbehind
  cases hbehind with
  | @loop _ body? _ _ _ _ _ _ bodies xs hxs hlaid' houter =>
    refine ⟨body?, bodies, rfl, ⟨xs ++ entries, hxs.append hleads, ?_⟩, ?_⟩
    · rw [laid_append, hlaid', hlaid]
      rfl
    · rw [goTo, hbodies]
      exact .loop (.nil body?) rfl houter

/-- A section that is left gives its node back, if it is a loop. -/
theorem leave (h : c.Holds w) (ho : w.opened = ⟨name, region⟩ :: outer) :
    ∃ c', (c' = c ∨ c' = c.drop) ∧ c'.Holds (w.leave region outer) := by
  have hbehind := h.behind
  rw [ho] at hbehind
  generalize hbodies : c.bodies = bodies at hbehind
  cases hbehind with
  | once hbehind => exact ⟨c, .inl rfl, h.ahead, hbodies ▸ hbehind⟩
  | loop hxs hlaid houter =>
    refine ⟨c.drop, .inr rfl, h.ahead, ?_⟩
    have hjoined := houter.extend hxs
    rw [hlaid, List.reverse_reverse] at hjoined
    rwa [drop, hbodies]

/-- **A partial is put in by one splice**, from the node of the opening marker to that of the
closing one. The chain holds this run, and behind the splice the cursor stands at the first token of
the partial. -/
theorem splice {ts : List Token} (h : c.Holds w) (htag : w.AtTag m reference d tail)
    (hts : ts ≠ []) :
    ∃ first last, c.here? = some first ∧ c.forward.forward.here? = some last ∧
      c.stream.Reachable first ∧ c.stream.Precedes first last ∧
      (c.splice first last ts (d + 1)).Holds
        { w with tape := ⟨w.tape.passed, Node.ofTokens (d + 1) ts ++ tail⟩ } := by
  obtain ⟨d₂, d₃, hrest⟩ := htag
  obtain ⟨entries, hleads, hlaid⟩ := h.ahead
  rw [hrest] at hlaid
  obtain ⟨⟨first, node₁⟩, _, rfl, -, hlaid⟩ := List.map_eq_cons_iff.mp hlaid
  obtain ⟨⟨middle, node₂⟩, _, rfl, -, hlaid⟩ := List.map_eq_cons_iff.mp hlaid
  obtain ⟨⟨last, node₃⟩, after, rfl, -, rfl⟩ := List.map_eq_cons_iff.mp hlaid
  have hhere := hleads.start?_eq
  have hmiddle := hleads.tail.start?_eq
  have hlast := hleads.tail.tail.start?_eq
  have hmem : first ∈ numbers ((first, node₁) :: (middle, node₂) :: (last, node₃) :: after) :=
    List.mem_cons_self
  have hrun : TokenStream.Leads c.stream.nodes c.here?
    ([(first, node₁), (middle, node₂), (last, node₃)] ++ after) none := hleads
  obtain ⟨fresh, hfresh, hfills⟩ := hrun.exists_splice ts (d + 1) rfl rfl
  have hlaid : laid fresh = Node.ofTokens (d + 1) ts := by
    refine laid_eq_ofTokens (hfills.holds.trans ?_) hfills.deep
    rw [filling, List.isEmpty_eq_false_iff.mpr hts, if_neg Bool.false_ne_true]
  refine ⟨first, last, hhere, ?_, ?_, ?_, ⟨fresh ++ after, hfresh, ?_⟩, ?_⟩
  · rw [StreamCursor.forward, StreamCursor.forward, hhere, Option.bind_some, hmiddle,
      Option.bind_some, hlast]
  · obtain ⟨xs, hxs, -⟩ := h.behind.exists_leads
    refine (IsChain.reachable_iff (hxs.append hleads)).mpr ?_
    rw [numbers_append]
    exact List.mem_append_right _ hmem
  · exact (hhere ▸ hleads).precedes (by simp)
  · rw [laid_append, hlaid]
    rfl
  · exact h.behind.splice hleads hmem last ts (d + 1)

end Holds

/-! ### Steps -/

/-- What a step does to the handles and to the stream. -/
inductive Turn (c : StreamCursor) : StreamCursor → Prop where
  /-- A token is passed. -/
  | text : Turn c c.forward
  /-- A tag is passed. -/
  | tag : Turn c c.forward.forward.forward
  /-- A tag is passed, and the node behind it is kept. -/
  | begin : Turn c c.forward.forward.forward.begin
  /-- The walk goes back to the node that was kept last. -/
  | again {body? : Option Nat} {bodies : List (Option Nat)} (h : c.bodies = body? :: bodies) :
    Turn c (c.goTo body?)
  /-- A tag is passed, and the node that was kept last is given back. -/
  | leave : Turn c c.drop.forward.forward.forward
  /-- The nodes of the tag that comes next are replaced. -/
  | splice {first last : Nat} (hhere : c.here? = some first)
    (hclose : c.forward.forward.here? = some last) (hfirst : c.stream.Reachable first)
    (hlast : c.stream.Precedes first last) (tokens : List Token) (depth : Nat) :
    Turn c (c.splice first last tokens depth)

/-- **A step of the walk is a turn of the cursor.** -/
theorem Holds.next (h : c.Holds w) (hnext : Walk.Next r w w') : ∃ c', c.Turn c' ∧ c'.Holds w' := by
  cases Walk.move_of_next hnext with
  | @text s d tail hrest =>
    have hrest' : (w.emit s).tape.rest = ⟨.text s, d⟩ :: tail := by rw [Walk.tape_emit, hrest]
    exact ⟨_, .text, (h.emit s).forward hrest'⟩
  | print hm htag hname htext => exact ⟨_, .tag, (h.forward_tag htag).emit _⟩
  | comment htag => exact ⟨_, .tag, h.forward_tag htag⟩
  | @enter m name lookup d tail hm htag hname hlookup =>
    obtain ⟨c', rfl | rfl, hc'⟩ := (h.forward_tag htag).enter m name lookup
    · exact ⟨_, .tag, hc'⟩
    · exact ⟨_, .begin, hc'⟩
  | splice hm htag hreference hnodes =>
    obtain ⟨file, ts, -, -, hts, rfl⟩ := Walk.exists_of_included hnodes
    obtain ⟨first, last, hhere, hclose, hfirst, hlast, hc'⟩ :=
      h.splice htag (Renderer.ne_nil_of_partialTokens hts)
    exact ⟨_, .splice hhere hclose hfirst hlast ts _, hc'⟩
  | nextPass hend ho =>
    obtain ⟨body?, bodies, hbodies, hc'⟩ := h.again ho
    exact ⟨_, .again hbodies, hc'⟩
  | close htag ho hr =>
    obtain ⟨c', rfl | rfl, hc'⟩ := h.leave ho
    · exact ⟨_, .tag, hc'.forward_tag (htag.leave _ _)⟩
    · exact ⟨_, .leave, hc'.forward_tag (htag.leave _ _)⟩

/-- A turn makes a stream that grows grow on. -/
theorem Turn.grows {tokens : List Token} (h : c.Turn c') (hgrows : Grows tokens c.stream) :
    Grows tokens c'.stream := by
  cases h with
  | text | tag | begin | again | leave => exact hgrows
  | splice hhere hclose hfirst hlast new depth => exact hgrows.splice hfirst hlast new depth

/-- The cursor in front of the tokens of a template. -/
def start (template : String) : StreamCursor where
  stream := ofTokens (tokenize template)
  here? := (ofTokens (tokenize template)).head?
  bodies := []

theorem holds_start (template : String) (context : Value) :
    (start template).Holds (Walk.start template context) := by
  obtain ⟨entries, hchain, -, htokens, hdepth⟩ := exists_isChain_ofTokens (tokenize template)
  exact ⟨⟨entries, hchain, laid_eq_ofTokens htokens hdepth⟩, .start (.nil _) rfl⟩

/-- **Every walk of a render has its tokens in one stream.** The handles come by turns from those in
front of the template. So the stream has come about by splices of runs that it held, and its chain
has the tokens of the walk. -/
theorem exists_holds_of_reaches {template : String} {context : Value}
    (h : Walk.Reaches r (Walk.start template context) w) :
    ∃ c : StreamCursor, Relation.ReflTransGen Turn (start template) c ∧ c.Holds w ∧
      Grows (tokenize template) c.stream ∧ c.stream.tokens = Node.tokens w.stream := by
  obtain ⟨c, hturns, hholds, hgrows⟩ : ∃ c : StreamCursor,
      Relation.ReflTransGen Turn (start template) c ∧ c.Holds w ∧
        Grows (tokenize template) c.stream := by
    refine h.preserves (P := fun u => ∃ c : StreamCursor,
      Relation.ReflTransGen Turn (start template) c ∧ c.Holds u ∧
        Grows (tokenize template) c.stream) ?_ ?_
    · exact ⟨start template, .refl, holds_start template context, .start⟩
    · rintro u u' ⟨c, hturns, hholds, hgrows⟩ hnext
      obtain ⟨c', hturn, hholds'⟩ := hholds.next hnext
      exact ⟨c', hturns.tail hturn, hholds', hturn.grows hgrows⟩
  exact ⟨c, hturns, hholds, hgrows, hholds.tokens_eq⟩

end StreamCursor

end Mustache
