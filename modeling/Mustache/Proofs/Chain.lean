import Mathlib.Data.List.Nodup
import Mathlib.Data.List.Perm.Subperm
import Mathlib.Logic.Relation
import Mustache.Stream
/-!
# Streams as lists

The nodes of a token stream are linked by their numbers, and a splice relinks them in place. The
nodes of the run that it replaces stay behind and go on pointing into the chain. This file shows
that they do no harm: from the head on, a stream is a list, and a splice replaces a part of this
list.

* `TokenStream.Leads nodes start? entries stop?`: from `start?` the links lead over these nodes, in
  this order, to `stop?`. What leads nowhere in the end meets no node twice (`Leads.nodup`).
* `TokenStream.IsChain s entries`: the links lead from the head over these nodes and end there. The
  view `TokenStream.toList` is this list (`IsChain.toList_eq`), and nothing else can be reached
  (`IsChain.reachable_iff`).
* `isChain_splice`: the chain after a splice is what stood before the run, the new nodes, and what
  stood behind the run.
* `splice_replaces_run`: so it is in every stream that has come about by splices.
-/

namespace Mustache

namespace TokenStream

variable {s : TokenStream} {nodes nodes' : Array StreamNode} {start? stop? after? : Option Nat}
  {entries before run after : List (Nat × StreamNode)} {first last id depth : Nat}
  {tokens : List Token}

/-! ### Following links -/

/-- From `start?` the links lead over these nodes, in this order, to `stop?`. -/
inductive Leads (nodes : Array StreamNode) :
    Option Nat → List (Nat × StreamNode) → Option Nat → Prop where
  /-- Over no nodes. -/
  | nil (here? : Option Nat) : Leads nodes here? [] here?
  /-- Over a node, and on from there. -/
  | cons {id : Nat} {node : StreamNode} {entries : List (Nat × StreamNode)} {stop? : Option Nat}
    (hnode : nodes[id]? = some node) (h : Leads nodes node.next? entries stop?) :
    Leads nodes (some id) ((id, node) :: entries) stop?

/-- The numbers of some nodes. -/
def numbers (entries : List (Nat × StreamNode)) : List Nat := entries.map Prod.fst

@[simp] theorem numbers_nil : numbers [] = [] := rfl

@[simp] theorem numbers_cons (entry : Nat × StreamNode) (entries : List (Nat × StreamNode)) :
    numbers (entry :: entries) = entry.1 :: numbers entries := rfl

@[simp] theorem numbers_append (xs ys : List (Nat × StreamNode)) :
    numbers (xs ++ ys) = numbers xs ++ numbers ys := List.map_append

namespace Leads

variable {middle? : Option Nat} {xs ys : List (Nat × StreamNode)}

theorem append (hx : Leads nodes start? xs middle?) (hy : Leads nodes middle? ys stop?) :
    Leads nodes start? (xs ++ ys) stop? := by
  induction hx with
  | nil => exact hy
  | cons hnode _ ih => exact .cons hnode (ih hy)

theorem exists_of_append (h : Leads nodes start? (xs ++ ys) stop?) :
    ∃ middle?, Leads nodes start? xs middle? ∧ Leads nodes middle? ys stop? := by
  induction xs generalizing start? with
  | nil => exact ⟨start?, .nil start?, h⟩
  | cons x xs ih =>
    cases h with
    | cons hnode h =>
      obtain ⟨middle?, hx, hy⟩ := ih h
      exact ⟨middle?, .cons hnode hx, hy⟩

theorem start?_eq {entry : Nat × StreamNode} (h : Leads nodes start? (entry :: xs) stop?) :
    start? = some entry.1 := by
  cases h
  rfl

theorem head {node : StreamNode} (h : Leads s.nodes start? ((id, node) :: xs) stop?) :
    Leads s.nodes start? [(id, node)] (s.next? id) := by
  cases h with
  | cons hnode h =>
    rw [next?, hnode]
    exact .cons hnode (.nil _)

/-- The way goes on by the link out of its first node. -/
theorem tail {node : StreamNode} (h : Leads s.nodes start? ((id, node) :: xs) stop?) :
    Leads s.nodes (s.next? id) xs stop? := by
  cases h with
  | cons hnode h =>
    rw [next?, hnode]
    exact h

theorem eq_of_nil (h : Leads nodes start? [] stop?) : start? = stop? := by
  cases h
  rfl

/-- The link out of the last node leads to the end. -/
theorem stop?_eq {node : StreamNode} (h : Leads nodes start? (xs ++ [(id, node)]) stop?) :
    stop? = nodes[id]?.bind StreamNode.next? := by
  obtain ⟨middle?, -, hlast⟩ := h.exists_of_append
  cases hlast with
  | cons hnode h =>
    rw [hnode, ← h.eq_of_nil]
    rfl

/-- Only the nodes on the way count. -/
theorem congr (h : Leads nodes start? entries stop?)
    (hkept : ∀ id ∈ numbers entries, nodes'[id]? = nodes[id]?) :
    Leads nodes' start? entries stop? := by
  induction h with
  | nil here? => exact .nil here?
  | @cons id node entries stop? hnode _ ih =>
    refine .cons ((hkept id List.mem_cons_self).trans hnode) (ih ?_)
    exact fun id' hid => hkept id' (List.mem_cons_of_mem id hid)

theorem lt_size (h : Leads nodes start? entries stop?) (hid : id ∈ numbers entries) :
    id < nodes.size := by
  induction h with
  | nil => simp at hid
  | cons hnode _ ih =>
    obtain rfl | hid := List.mem_cons.mp hid
    · exact (Array.getElem?_eq_some_iff.mp hnode).1
    · exact ih hid

/-- From one place there is one way that ends. -/
theorem unique (hx : Leads nodes start? xs none) (hy : Leads nodes start? ys none) : xs = ys := by
  induction xs generalizing start? ys with
  | nil =>
    cases hx
    cases hy
    rfl
  | cons x xs ih =>
    cases hx with
    | cons hnode hx =>
      cases hy with
      | cons hnode' hy =>
        obtain rfl := Option.some.inj (hnode.symm.trans hnode')
        rw [ih hx hy]

/-- **A way that ends meets no node twice.** -/
theorem nodup (h : Leads nodes start? entries none) : (numbers entries).Nodup := by
  induction entries generalizing start? with
  | nil => exact List.nodup_nil
  | cons entry entries ih =>
    obtain ⟨id, node⟩ := entry
    cases h with
    | cons hnode h =>
      refine List.nodup_cons.mpr ⟨?_, ih h⟩
      intro hid
      -- If it came by again, the rest of the way would be the whole of it.
      obtain ⟨⟨id', node'⟩, hentry, rfl⟩ := List.mem_map.mp hid
      obtain ⟨front, back, rfl⟩ := List.append_of_mem hentry
      obtain ⟨middle?, -, hback⟩ := h.exists_of_append
      obtain rfl := hback.start?_eq
      have heq := (Leads.cons hnode h).unique hback
      have hlength := congrArg List.length heq
      simp only [List.length_cons, List.length_append] at hlength
      omega

end Leads

/-! ### Chains -/

/-- The links lead from the head over these nodes, in this order, and end there. -/
def IsChain (s : TokenStream) (entries : List (Nat × StreamNode)) : Prop :=
  Leads s.nodes s.head? entries none

/-- A link leads from one node to the other. -/
def Linked (s : TokenStream) (id id' : Nat) : Prop := s.next? id = some id'

/-- The second node is the first one or comes after it. -/
def Precedes (s : TokenStream) : Nat → Nat → Prop := Relation.ReflTransGen s.Linked

/-- Links lead from the head to the node. -/
def Reachable (s : TokenStream) (id : Nat) : Prop := ∃ head, s.head? = some head ∧ s.Precedes head id

theorem follow_eq {bound : Nat} (h : Leads s.nodes start? entries none)
    (hbound : entries.length ≤ bound) : s.follow bound start? = entries := by
  induction entries generalizing start? bound with
  | nil =>
    cases h
    cases bound <;> rfl
  | cons entry entries ih =>
    obtain ⟨id, node⟩ := entry
    cases h with
    | cons hnode h =>
      cases bound with
      | zero => exact absurd hbound (Nat.not_succ_le_zero entries.length)
      | succ bound => simp only [follow, hnode, ih h (Nat.le_of_succ_le_succ hbound)]

/-- No way that ends is longer than the number of nodes. -/
theorem Leads.length_le (h : Leads nodes start? entries none) : entries.length ≤ nodes.size := by
  have hsub : numbers entries ⊆ List.range nodes.size := fun id hid =>
    List.mem_range.mpr (h.lt_size hid)
  simpa [numbers] using (List.subperm_of_subset h.nodup hsub).length_le

theorem IsChain.toList_eq (h : s.IsChain entries) : s.toList = entries :=
  follow_eq h h.length_le

/-- Links lead only to nodes that are on the way. -/
theorem Leads.exists_of_precedes {id' : Nat} (h : Leads s.nodes (some id) entries none)
    (hpath : s.Precedes id id') : ∃ front node back, entries = front ++ (id', node) :: back := by
  induction hpath with
  | refl =>
    cases h with
    | @cons id node entries stop? hnode h => exact ⟨[], node, entries, rfl⟩
  | @tail b c _ hlink ih =>
    obtain ⟨front, node, back, rfl⟩ := ih
    obtain ⟨middle?, hfront, hback⟩ := h.exists_of_append
    cases hback with
    | cons hnode hback =>
      -- The link out of the node is the one by which the way goes on.
      have hnext : node.next? = some c := by
        rw [Linked, next?, hnode] at hlink
        exact hlink
      rw [hnext] at hback
      cases hback with
      | @cons _ node' back' _ _ _ => exact ⟨front ++ [(b, node)], node', back', by simp⟩

theorem Leads.precedes (h : Leads s.nodes (some id) entries none) {id' : Nat}
    (hid : id' ∈ numbers entries) : s.Precedes id id' := by
  induction entries generalizing id with
  | nil => simp at hid
  | cons entry entries ih =>
    cases h with
    | @cons _ node _ _ hnode h =>
      obtain rfl | hid := List.mem_cons.mp hid
      · exact .refl
      · match entries, h with
        | [], _ => simp at hid
        | next :: entries, h =>
          have hnext := h.start?_eq
          have hlink : s.Linked id next.1 := by
            rw [Linked, next?, hnode]
            exact hnext
          exact .head hlink (ih (hnext ▸ h) hid)

/-- **What links lead to from the head is what the chain holds.** -/
theorem IsChain.reachable_iff (h : s.IsChain entries) :
    s.Reachable id ↔ id ∈ numbers entries := by
  constructor
  · rintro ⟨head, hhead, hpath⟩
    rw [IsChain, hhead] at h
    obtain ⟨front, node, back, rfl⟩ := h.exists_of_precedes hpath
    simp
  · intro hid
    match entries, h with
    | [], _ => simp at hid
    | entry :: entries, h =>
      have hhead := h.start?_eq
      rw [IsChain, hhead] at h
      exact ⟨entry.1, hhead, h.precedes hid⟩

/-- Two nodes of a chain, one of them not after the other, are the ends of a run in it. -/
theorem IsChain.exists_run (h : s.IsChain entries) (hfirst : s.Reachable first)
    (hlast : s.Precedes first last) : ∃ before run after, entries = before ++ run ++ after ∧
      (numbers run).head? = some first ∧ (numbers run).getLast? = some last := by
  obtain ⟨head, hhead, hpath⟩ := hfirst
  rw [IsChain, hhead] at h
  obtain ⟨before, node, back, rfl⟩ := h.exists_of_precedes hpath
  obtain ⟨middle?, -, hback⟩ := h.exists_of_append
  obtain rfl := hback.start?_eq
  obtain ⟨front, node', after, hsplit⟩ := hback.exists_of_precedes hlast
  refine ⟨before, front ++ [(last, node')], after, ?_, ?_, ?_⟩
  · rw [hsplit]
    simp
  · cases front with
    | nil =>
      obtain ⟨heq, -⟩ := List.cons.inj hsplit
      simp [← heq]
    | cons entry front =>
      obtain ⟨heq, -⟩ := List.cons.inj hsplit
      simp [← heq]
  · simp

/-! ### New nodes -/

theorem size_chain (nodes : Array StreamNode) (depth : Nat) (after? : Option Nat)
    (tokens : List Token) : (chain nodes depth after? tokens).size = nodes.size + tokens.length := by
  fun_induction chain nodes depth after? tokens with
  | case1 => rfl
  | case2 nodes token => simp
  | case3 nodes token tokens hne ih =>
    rw [ih, Array.size_push, List.length_cons]
    omega

/-- Nodes that are there already stay as they are. -/
theorem getElem?_chain (nodes : Array StreamNode) (depth : Nat) (after? : Option Nat)
    (tokens : List Token) (hid : id < nodes.size) :
    (chain nodes depth after? tokens)[id]? = nodes[id]? := by
  have hpush (nodes : Array StreamNode) (node : StreamNode) (hid : id < nodes.size) :
      (nodes.push node)[id]? = nodes[id]? := by
    rw [Array.getElem?_push, if_neg (Nat.ne_of_lt hid)]
  fun_induction chain nodes depth after? tokens with
  | case1 => rfl
  | case2 nodes token => exact hpush nodes _ hid
  | case3 nodes token tokens hne ih =>
    rw [ih (Nat.lt_trans hid (by simp)), hpush nodes _ hid]

/-- **New nodes lead from one to the next** and then to where they are told to. -/
theorem exists_leads_chain (nodes : Array StreamNode) (depth : Nat) (after? : Option Nat)
    (tokens : List Token) :
    ∃ fresh, Leads (chain nodes depth after? tokens)
        (if tokens.isEmpty then after? else some nodes.size) fresh after? ∧
      numbers fresh = List.range' nodes.size tokens.length ∧
      fresh.map (fun entry => entry.2.token) = tokens ∧
      ∀ entry ∈ fresh, entry.2.depth = depth := by
  fun_induction chain nodes depth after? tokens with
  | case1 => exact ⟨[], .nil after?, rfl, rfl, nofun⟩
  | case2 nodes token =>
    refine ⟨[(nodes.size, ⟨token, depth, after?⟩)], ?_, rfl, rfl, by simp⟩
    exact .cons Array.getElem?_push_size (.nil after?)
  | case3 nodes token tokens hne ih =>
    obtain ⟨fresh, hleads, hnumbers, htokens, hdepth⟩ := ih
    refine ⟨(nodes.size, ⟨token, depth, some (nodes.size + 1)⟩) :: fresh, ?_, ?_, ?_, ?_⟩
    · refine .cons ?_ ?_
      · rw [getElem?_chain _ _ _ _ (by simp), Array.getElem?_push_size]
      · rw [List.isEmpty_eq_false_iff.mpr hne, Array.size_push] at hleads
        exact hleads
    · rw [numbers_cons, hnumbers, Array.size_push, List.length_cons, List.range'_succ]
    · rw [List.map_cons, htokens]
    · exact List.forall_mem_cons.mpr ⟨rfl, hdepth⟩

/-! ### Splices -/

/-- The tokens that take the place of a run: an empty text, if there are none. -/
def filling (tokens : List Token) : List Token :=
  if tokens.isEmpty then [.text ""] else tokens

theorem filling_eq (tokens : List Token) :
    filling tokens = tokens.headD (.text "") :: tokens.tail := by
  cases tokens <;> rfl

/-- The new nodes of a splice at node `first`. -/
structure Fills (s : TokenStream) (first : Nat) (tokens : List Token) (depth : Nat)
    (fresh : List (Nat × StreamNode)) : Prop where
  /-- The first one keeps the number of the node that it replaces, the others are counted on. -/
  numbered : numbers fresh = first :: List.range' s.nodes.size ((filling tokens).length - 1)
  /-- They hold the new tokens. -/
  holds : fresh.map (fun entry => entry.2.token) = filling tokens
  /-- They have the new depth. -/
  deep : ∀ entry ∈ fresh, entry.2.depth = depth

theorem exists_getLast_of_numbers (hlast : (numbers run).getLast? = some last) :
    ∃ front node, run = front ++ [(last, node)] := by
  rw [numbers, List.getLast?_map, Option.map_eq_some_iff] at hlast
  obtain ⟨⟨id, node⟩, hentry, rfl⟩ := hlast
  obtain ⟨front, rfl⟩ := List.getLast?_eq_some_iff.mp hentry
  exact ⟨front, node, rfl⟩

theorem size_splice (s : TokenStream) (first last : Nat) (tokens : List Token) (depth : Nat) :
    (s.splice first last tokens depth).nodes.size =
      s.nodes.size + ((filling tokens).length - 1) := by
  rw [filling_eq, List.length_cons, Nat.add_sub_cancel]
  show (chain _ _ _ _).size = _
  rw [size_chain, Array.size_setIfInBounds]

/-- A splice overwrites no other node than the first one of its run. -/
theorem getElem?_splice (last : Nat) (tokens : List Token) (depth : Nat) (hid : id < s.nodes.size)
    (hne : id ≠ first) : (s.splice first last tokens depth).nodes[id]? = s.nodes[id]? := by
  show (chain _ _ _ _)[id]? = _
  rw [getElem?_chain _ _ _ _ (by rwa [Array.size_setIfInBounds]),
    Array.getElem?_setIfInBounds_ne hne.symm]

/-- The new nodes lead from the first node of the run to where its last one pointed. -/
theorem exists_fills (last : Nat) (tokens : List Token) (depth : Nat)
    (hsize : first < s.nodes.size) :
    ∃ fresh, Leads (s.splice first last tokens depth).nodes (some first) fresh (s.next? last) ∧
      s.Fills first tokens depth fresh := by
  let start : StreamNode := ⟨tokens.headD (.text ""), depth,
    if tokens.tail.isEmpty then s.next? last else some s.nodes.size⟩
  let base := s.nodes.setIfInBounds first start
  have hbase : base.size = s.nodes.size := Array.size_setIfInBounds
  obtain ⟨rest, hrest, hnumbers, htokens, hdepth⟩ :=
    exists_leads_chain base depth (s.next? last) tokens.tail
  rw [hbase] at hrest hnumbers
  -- The first node is there already and is overwritten, so it is not among the nodes that are added.
  have hstart : (s.splice first last tokens depth).nodes[first]? = some start := by
    show (chain base depth _ _)[first]? = _
    rw [getElem?_chain _ _ _ _ (hbase ▸ hsize), Array.getElem?_setIfInBounds_self_of_lt hsize]
  refine ⟨(first, start) :: rest, .cons hstart hrest, ?_⟩
  constructor
  · rw [numbers_cons, hnumbers, filling_eq, List.length_cons, Nat.add_sub_cancel]
  · rw [List.map_cons, htokens, filling_eq]
  · exact List.forall_mem_cons.mpr ⟨rfl, hdepth⟩

/-- In front of the run, the links are as they were. -/
theorem Leads.splice_ahead (h : Leads s.nodes start? before stop?)
    (hahead : Leads s.nodes stop? after none) (hfirst : first ∈ numbers after) (last : Nat)
    (tokens : List Token) (depth : Nat) :
    Leads (s.splice first last tokens depth).nodes start? before stop? := by
  have hnodup := (h.append hahead).nodup
  rw [numbers_append] at hnodup
  refine h.congr fun id hid => getElem?_splice last tokens depth (h.lt_size hid) ?_
  rintro rfl
  exact List.disjoint_of_nodup_append hnodup hid hfirst

/-- From the run on, the links lead over the new nodes and then over what stood behind the run. -/
theorem Leads.exists_splice (tokens : List Token) (depth : Nat)
    (h : Leads s.nodes start? (run ++ after) none) (hfirst : (numbers run).head? = some first)
    (hlast : (numbers run).getLast? = some last) :
    ∃ fresh, Leads (s.splice first last tokens depth).nodes start? (fresh ++ after) none ∧
      s.Fills first tokens depth fresh := by
  have hnodup := h.nodup
  obtain ⟨to?, hrun, hafter⟩ := h.exists_of_append
  have hmem : first ∈ numbers run := List.mem_of_mem_head? hfirst
  -- The run leads from its first node to where its last one points.
  have hstart : start? = some first := by
    match run, hrun with
    | entry :: run, hrun => rw [hrun.start?_eq, ← hfirst, numbers_cons, List.head?_cons]
  have hto : to? = s.next? last := by
    obtain ⟨front, node, rfl⟩ := exists_getLast_of_numbers hlast
    exact hrun.stop?_eq
  obtain ⟨fresh, hfresh, hfills⟩ := exists_fills last tokens depth (hrun.lt_size hmem)
  -- Behind the run no node is overwritten.
  rw [numbers_append] at hnodup
  have hkept : ∀ id ∈ numbers after,
      (s.splice first last tokens depth).nodes[id]? = s.nodes[id]? := by
    intro id hid
    refine getElem?_splice last tokens depth (hafter.lt_size hid) ?_
    rintro rfl
    exact List.disjoint_of_nodup_append hnodup hmem hid
  subst hstart hto
  exact ⟨fresh, hfresh.append (hafter.congr hkept), hfills⟩

/-- **The chain after a splice.** -/
theorem isChain_splice (tokens : List Token) (depth : Nat) (h : s.IsChain (before ++ run ++ after))
    (hfirst : (numbers run).head? = some first) (hlast : (numbers run).getLast? = some last) :
    ∃ fresh, (s.splice first last tokens depth).IsChain (before ++ fresh ++ after) ∧
      s.Fills first tokens depth fresh := by
  rw [List.append_assoc] at h
  obtain ⟨from?, hbefore, hrest⟩ := h.exists_of_append
  have hmem : first ∈ numbers (run ++ after) := by
    rw [numbers_append]
    exact List.mem_append_left _ (List.mem_of_mem_head? hfirst)
  obtain ⟨fresh, hfresh, hfills⟩ := hrest.exists_splice tokens depth hfirst hlast
  refine ⟨fresh, ?_, hfills⟩
  rw [List.append_assoc]
  exact (hbefore.splice_ahead hrest hmem last tokens depth).append hfresh

/-! ### Streams that come about by splices -/

/-- The streams that come about from some tokens by splices, each of a run of the chain. -/
inductive Grows (tokens : List Token) : TokenStream → Prop where
  /-- The stream of the tokens. -/
  | start : Grows tokens (ofTokens tokens)
  /-- One splice more. -/
  | splice {s : TokenStream} {first last : Nat} (h : Grows tokens s) (hfirst : s.Reachable first)
    (hlast : s.Precedes first last) (new : List Token) (depth : Nat) :
    Grows tokens (s.splice first last new depth)

/-- The stream of some tokens is the chain of them, with numbers from zero on. -/
theorem exists_isChain_ofTokens (tokens : List Token) :
    ∃ entries, (ofTokens tokens).IsChain entries ∧ numbers entries = List.range tokens.length ∧
      entries.map (fun entry => entry.2.token) = tokens ∧ ∀ entry ∈ entries, entry.2.depth = 0 := by
  obtain ⟨entries, hleads, hnumbers, htokens, hdepth⟩ := exists_leads_chain #[] 0 none tokens
  refine ⟨entries, hleads, ?_, htokens, hdepth⟩
  rw [hnumbers, List.range_eq_range', Array.size_empty]

/-- **Whatever is spliced, the links form a chain.** -/
theorem Grows.isChain (h : Grows tokens s) : s.IsChain s.toList := by
  induction h with
  | start =>
    obtain ⟨entries, hchain, -⟩ := exists_isChain_ofTokens tokens
    rwa [hchain.toList_eq]
  | splice _ hfirst hlast new depth ih =>
    obtain ⟨before, run, after, hold, hstart, hend⟩ := ih.exists_run hfirst hlast
    rw [hold] at ih
    obtain ⟨fresh, hchain, -⟩ := isChain_splice new depth ih hstart hend
    rwa [hchain.toList_eq]

/-- What a splice makes of a stream: in place of the run from `first` to `last` there are the new
nodes, and all other nodes of the chain are as they were. -/
structure Replaces (s : TokenStream) (first last : Nat) (new : List Token) (depth : Nat)
    (before run fresh after : List (Nat × StreamNode)) : Prop where
  /-- The chain before the splice. -/
  old : s.toList = before ++ run ++ after
  /-- The run starts at its first node. -/
  starts : (numbers run).head? = some first
  /-- It ends at its last node. -/
  ends : (numbers run).getLast? = some last
  /-- The chain after the splice. -/
  spliced : (s.splice first last new depth).toList = before ++ fresh ++ after
  /-- What the new nodes are. -/
  fills : s.Fills first new depth fresh
  /-- Each of them but the first one takes a number of its own. -/
  size : (s.splice first last new depth).nodes.size = s.nodes.size + ((filling new).length - 1)
  /-- The tokens of the chain after the splice. -/
  tokens : (s.splice first last new depth).tokens =
    before.map (fun entry => entry.2.token) ++ filling new ++
      after.map (fun entry => entry.2.token)

theorem exists_replaces (h : s.IsChain s.toList) (hfirst : s.Reachable first)
    (hlast : s.Precedes first last) (new : List Token) (depth : Nat) :
    ∃ before run fresh after, s.Replaces first last new depth before run fresh after := by
  obtain ⟨before, run, after, hold, hstart, hend⟩ := h.exists_run hfirst hlast
  rw [hold] at h
  obtain ⟨fresh, hchain, hfills⟩ := isChain_splice new depth h hstart hend
  have hspliced := hchain.toList_eq
  refine ⟨before, run, fresh, after, hold, hstart, hend, hspliced, hfills,
    s.size_splice first last new depth, ?_⟩
  rw [TokenStream.tokens, hspliced, List.map_append, List.map_append, hfills.holds]

/-- **A stream is a list, and a splice replaces a part of it.** In every stream that comes about
from some tokens by splices

* the links lead from the head over finitely many nodes, over none of them twice, and end there;
* these are all nodes that can be reached, and their numbers have all been given out;
* a splice puts the new nodes in place of the run and keeps the rest of the chain. -/
theorem splice_replaces_run (h : Grows tokens s) :
    (numbers (ofTokens tokens).toList = List.range tokens.length ∧
        (ofTokens tokens).tokens = tokens ∧
        ∀ entry ∈ (ofTokens tokens).toList, entry.2.depth = 0) ∧
      (s.IsChain s.toList ∧ (numbers s.toList).Nodup) ∧
      (∀ id, s.Reachable id ↔ id ∈ numbers s.toList) ∧
      (∀ id, s.Reachable id → id < s.nodes.size) ∧
      ∀ first last new depth, s.Reachable first → s.Precedes first last →
        ∃ before run fresh after, s.Replaces first last new depth before run fresh after := by
  have hchain := h.isChain
  refine ⟨?_, ⟨hchain, hchain.nodup⟩, fun id => hchain.reachable_iff, ?_, ?_⟩
  · obtain ⟨entries, hentries, hnumbers, htokens, hdepth⟩ := exists_isChain_ofTokens tokens
    rw [TokenStream.tokens, hentries.toList_eq]
    exact ⟨hnumbers, htokens, hdepth⟩
  · intro id hid
    exact hchain.lt_size (hchain.reachable_iff.mp hid)
  · intro first last new depth hfirst hlast
    exact exists_replaces hchain hfirst hlast new depth

/-- A text, a partial tag and a text. -/
def tagBetween : List Token :=
  [.text "x", .marker .partialTag, .text "p", .marker .close, .text "y"]

/-- The tag is replaced by three tokens. -/
def tagReplaced : TokenStream :=
  (ofTokens tagBetween).splice 1 3 [.text "1", .marker .escaped, .text "v"] 1

theorem grows_tagReplaced : Grows tagBetween tagReplaced := by
  have hfirst : (ofTokens tagBetween).Reachable 1 := ⟨0, rfl, .single rfl⟩
  have hlast : (ofTokens tagBetween).Precedes 1 3 := .head (b := 2) rfl (.single rfl)
  exact .splice .start hfirst hlast _ 1

/-- A run that starts in what came in, ends with the chain and is replaced by nothing. -/
theorem replaces_tagReplaced : ∃ before run fresh after,
    tagReplaced.Replaces 5 4 [] 2 before run fresh after ∧ numbers fresh = [5] ∧
      (tagReplaced.splice 5 4 [] 2).tokens = [.text "x", .text "1", .text ""] := by
  have hfirst : tagReplaced.Reachable 5 := ⟨0, rfl, .head (b := 1) rfl (.single rfl)⟩
  have hlast : tagReplaced.Precedes 5 4 := .head (b := 6) rfl (.single rfl)
  obtain ⟨before, run, fresh, after, hreplaces⟩ :=
    (splice_replaces_run grows_tagReplaced).2.2.2.2 5 4 [] 2 hfirst hlast
  exact ⟨before, run, fresh, after, hreplaces, hreplaces.fills.numbered, rfl⟩

end TokenStream

end Mustache
