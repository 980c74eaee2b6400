import Mustache.Proofs.Tag
/-!
# Texts behind markers

Cutting a template puts a text behind every marker, an empty one if need be, and a text in front of
the first marker. Both stay so in every list of tokens that a walk comes to: parameters put texts in
place of whole tags, and what takes the place of a partial tag starts and ends with a text.

* `Spaced tokens`: every marker among the tokens is directly followed by a text.
* `Walk.stream w`: all tokens on both sides of a walk, those that open loops have put aside
  included.
* `Walk.Inclusion r w rest`: the walk stands at a tag that includes a partial, and with the partial
  in its place `rest` is ahead. On the stream this is a `Splice`.
* `stream_eq_or_inclusion`: a step leaves the stream as it is, or makes such an inclusion.
* `Reaches.inclusions`: so a run changes the stream by inclusions, each of them at a walk of the
  run.
* `spaced_of_reaches`: the stream of every walk that a render comes to is spaced.
-/

namespace Mustache

/-- Every marker is directly followed by a text. -/
inductive Spaced : List Token → Prop where
  /-- There is no token. -/
  | nil : Spaced []
  /-- A text comes first. -/
  | text (s : String) {ts : List Token} (h : Spaced ts) : Spaced (.text s :: ts)
  /-- A marker comes first, with its text. -/
  | marker (m : Marker) (s : String) {ts : List Token} (h : Spaced ts) :
    Spaced (.marker m :: .text s :: ts)

/-- The first token is a text. -/
def StartsWithText (ts : List Token) : Prop := ∃ s rest, ts = .text s :: rest

namespace Spaced

variable {t : Token} {ts us : List Token} {m : Marker}

theorem append (h : Spaced ts) (h' : Spaced us) : Spaced (ts ++ us) := by
  induction h with
  | nil => exact h'
  | text s _ ih => exact .text s ih
  | marker m s _ ih => exact .marker m s ih

theorem tail (h : Spaced (t :: ts)) : Spaced ts := by
  cases h with
  | text s h => exact h
  | marker m s h => exact .text s h

theorem right (h : Spaced (ts ++ us)) : Spaced us := by
  induction ts with
  | nil => exact h
  | cons t ts ih => exact ih h.tail

/-- Behind a marker comes a text. -/
theorem exists_text (h : Spaced (.marker m :: ts)) : ∃ s rest, ts = .text s :: rest := by
  cases h with
  | marker m s h => exact ⟨s, _, rfl⟩

/-- What stands in front of a marker is spaced by itself. -/
theorem left : ∀ {ts : List Token}, Spaced (ts ++ .marker m :: us) → Spaced ts
  | [], _ => .nil
  | .text s :: _, h => .text s (left h.tail)
  | [.marker _], h => by
    obtain ⟨s, rest, hs⟩ := exists_text h
    simp at hs
  | .marker m' :: t :: ts, h => by
    obtain ⟨s, rest, hs⟩ := exists_text h
    obtain ⟨rfl, -⟩ := List.cons.inj hs
    exact .marker m' s (left h.tail.tail)

end Spaced

/-! ### Cutting and parameters -/

namespace Spans

theorem spaced_tokensFrom (text : List Char) (rest : List (Marker × List Char)) :
    Spaced (tokensFrom text rest) := by
  induction rest generalizing text with
  | nil => exact .text _ .nil
  | cons p rest ih =>
    obtain ⟨m, next⟩ := p
    -- Each span gives a text, so that a marker always has the text of the next span behind it.
    refine .text _ ?_
    cases rest with
    | nil => exact .marker m _ .nil
    | cons p' rest =>
      obtain ⟨m', next'⟩ := p'
      exact .marker m _ (ih next).tail

theorem startsWithText_tokensFrom (text : List Char) (rest : List (Marker × List Char)) :
    StartsWithText (tokensFrom text rest) := by
  cases rest with
  | nil => exact ⟨_, _, rfl⟩
  | cons p rest => exact ⟨_, _, rfl⟩

end Spans

theorem spaced_tokenize (template : String) : Spaced (tokenize template) :=
  Spans.spaced_tokensFrom _ _

theorem startsWithText_tokenize (template : String) : StartsWithText (tokenize template) :=
  Spans.startsWithText_tokensFrom _ _

namespace BindingTable

variable (t : BindingTable) {ts : List Token}

theorem apply_text (s : String) (rest : List Token) :
    t.apply (.text s :: rest) = .text s :: t.apply rest := by
  simp [apply]

theorem apply_ne_close (h : ∀ rest, ts ≠ .marker .close :: rest) (rest : List Token) :
    t.apply ts ≠ .marker .close :: rest := by
  fun_cases apply t ts with
  | case1 | case2 | case4 => simp
  | case3 token rest' =>
    intro heq
    obtain ⟨rfl, -⟩ := List.cons.inj heq
    exact h rest' rfl

theorem startsWithText_apply (h : StartsWithText ts) : StartsWithText (t.apply ts) := by
  obtain ⟨s, rest, rfl⟩ := h
  exact ⟨s, t.apply rest, t.apply_text s rest⟩

theorem spaced_apply (h : Spaced ts) : Spaced (t.apply ts) := by
  fun_induction apply t ts with
  | case1 name rest s hs ih => exact .text s (ih h.tail.tail.tail)
  | case2 name rest hs ih =>
    -- The closing marker comes before a text, which `apply` leaves where it is.
    obtain ⟨s, rest, rfl⟩ := h.tail.tail.exists_text
    have hrest := ih h.tail.tail.tail
    rw [apply_text] at hrest ⊢
    exact .marker _ _ (.marker _ s hrest.tail)
  | case3 token rest hne ih =>
    cases token with
    | text s => exact .text s (ih h.tail)
    | marker m =>
      obtain ⟨s, rest, rfl⟩ := h.exists_text
      have hrest := ih h.tail
      rw [apply_text] at hrest ⊢
      exact .marker m s hrest.tail
  | case4 => exact .nil

/-- Parameters bring in no markers. -/
theorem marker_mem_of_mem_apply {m : Marker} (h : .marker m ∈ t.apply ts) : .marker m ∈ ts := by
  fun_induction apply t ts with
  | case1 name rest s hs ih =>
    simp only [List.mem_cons, reduceCtorEq, false_or] at h
    simp [ih h]
  | case2 name rest hs ih =>
    simp only [List.mem_cons] at h ⊢
    grind
  | case3 token rest hne ih =>
    simp only [List.mem_cons] at h ⊢
    exact h.imp_right ih
  | case4 => exact h

end BindingTable

/-- A text that comes from a store is one of its entries. -/
theorem Store.exists_entry {s : Store} {name extension text : String}
    (h : s.loader name extension = .ok text) : ∃ key, (key, text) ∈ s.entries := by
  simp only [loader, get?] at h
  split at h
  · rename_i found hlookup
    obtain rfl := Except.ok.inj h
    obtain ⟨before, behind, hentries, -⟩ := List.lookup_eq_some_iff.mp hlookup
    exact ⟨fileName name extension, hentries ▸ List.mem_append_right before List.mem_cons_self⟩
  · simp at h

namespace Renderer

variable {r : Renderer} {file : String} {parameters : List String} {ts : List Token}

/-- The tokens of a partial are those of a text with the table of its parameters put in. -/
theorem exists_table_of_partialTokens (h : r.partialTokens file parameters = .ok ts) :
    ∃ text table, r.loader file r.options.partialExtension = .ok text ∧
      BindingTable.parse parameters = .ok table ∧ ts = BindingTable.apply table (tokenize text) := by
  simp only [partialTokens, Walk.bind_eq_ok_iff] at h
  obtain ⟨text, htext, table, htable, h⟩ := h
  refine ⟨text, table, ?_, htable, (Except.ok.inj h).symm⟩
  cases hload : r.loader file r.options.partialExtension with
  | error e => simp [hload] at htext
  | ok loaded => simpa [hload] using htext

theorem exists_of_partialTokens (h : r.partialTokens file parameters = .ok ts) :
    ∃ text table, r.loader file r.options.partialExtension = .ok text ∧
      ts = BindingTable.apply table (tokenize text) := by
  obtain ⟨text, table, hload, -, hts⟩ := exists_table_of_partialTokens h
  exact ⟨text, table, hload, hts⟩

/-- A partial brings in at least one token. -/
theorem ne_nil_of_partialTokens (h : r.partialTokens file parameters = .ok ts) : ts ≠ [] := by
  obtain ⟨text, table, -, rfl⟩ := exists_of_partialTokens h
  exact table.apply_ne_nil (tokenize_ne_nil text)

theorem spaced_of_partialTokens (h : r.partialTokens file parameters = .ok ts) : Spaced ts := by
  obtain ⟨text, table, -, rfl⟩ := exists_of_partialTokens h
  exact table.spaced_apply (spaced_tokenize text)

theorem startsWithText_of_partialTokens (h : r.partialTokens file parameters = .ok ts) :
    StartsWithText ts := by
  obtain ⟨text, table, -, rfl⟩ := exists_of_partialTokens h
  exact table.startsWithText_apply (startsWithText_tokenize text)

end Renderer

/-- Whether the token opens a tag that includes a partial. -/
def Token.includes : Token → Bool
  | .marker m => m.opensPartial
  | .text _ => false

/-! ### The stream -/

namespace Node

/-- The tokens of some nodes. -/
def tokens (nodes : List Node) : List Token := nodes.map Node.token

@[simp] theorem tokens_nil : tokens [] = [] := rfl

@[simp] theorem tokens_cons (node : Node) (nodes : List Node) :
    tokens (node :: nodes) = node.token :: tokens nodes := rfl

@[simp] theorem tokens_append (a b : List Node) : tokens (a ++ b) = tokens a ++ tokens b :=
  List.map_append

@[simp] theorem tokens_ofTokens (d : Nat) (ts : List Token) : tokens (ofTokens d ts) = ts := by
  simp [tokens, ofTokens, Function.comp_def]

end Node

namespace Walk

variable {r : Renderer} {w w' : Walk} {m : Marker} {name : String} {d : Nat} {tail : List Node}

/-- All tokens passed, the nearest first: those passed in the running pass of the innermost loop,
and those that open loops have put aside. -/
def passedBehind (passed : List Node) : List OpenSection → List Node
  | [] => passed
  | ⟨_, .once _ _⟩ :: outer => passedBehind passed outer
  | ⟨_, .loop outerPassed _ _⟩ :: outer => passedBehind (passed ++ outerPassed) outer

theorem passedBehind_append (a b : List Node) (opened : List OpenSection) :
    passedBehind (a ++ b) opened = a ++ passedBehind b opened := by
  induction opened generalizing b with
  | nil => rfl
  | cons s outer ih =>
    obtain ⟨name, region⟩ := s
    cases region with
    | once outerVisible framed => exact ih b
    | loop outerPassed pass remaining =>
      simp only [passedBehind]
      rw [List.append_assoc, ih]

/-- All tokens passed, the nearest first. -/
def behind (w : Walk) : List Node := passedBehind w.tape.passed w.opened

/-- All tokens of the walk. -/
def stream (w : Walk) : List Node := w.behind.reverse ++ w.tape.rest

theorem stream_start (template : String) (context : Value) :
    (start template context).stream = Node.ofTokens 0 (tokenize template) := rfl

theorem behind_advance {node : Node} (h : w.tape.rest = node :: tail) :
    w.advance.behind = node :: w.behind := by
  have hpassed : w.advance.tape.passed = node :: w.tape.passed := by
    simp only [advance, Tape.advance, h]
  rw [behind, hpassed, ← List.singleton_append, passedBehind_append]
  rfl

theorem stream_advance (w : Walk) : w.advance.stream = w.stream := by
  match h : w.tape.rest with
  | [] => rw [advance, Tape.advance, h]
  | node :: tail =>
    have hrest : w.advance.tape.rest = tail := Tape.rest_advance h
    rw [stream, stream, behind_advance h, hrest, h, List.reverse_cons, List.append_assoc]
    rfl

theorem stream_skipTag (w : Walk) : w.skipTag.stream = w.stream := by
  simp only [skipTag, stream_advance]

theorem behind_emit (w : Walk) (text : String) : (w.emit text).behind = w.behind := by
  rw [behind, tape_emit, opened_emit]
  rfl

theorem stream_emit (w : Walk) (text : String) : (w.emit text).stream = w.stream := by
  rw [stream, behind_emit, tape_emit]
  rfl

theorem behind_enter (w : Walk) (m : Marker) (name : String) (lookup : Lookup) :
    (w.enter m name lookup).behind = w.behind := by
  simp only [enter]
  split <;> rfl

theorem rest_enter (w : Walk) (m : Marker) (name : String) (lookup : Lookup) :
    (w.enter m name lookup).tape.rest = w.tape.rest := by
  simp only [enter]
  split <;> rfl

theorem behind_leave {region : Region} {outer : List OpenSection}
    (ho : w.opened = ⟨name, region⟩ :: outer) : (w.leave region outer).behind = w.behind := by
  rw [behind, behind, ho]
  cases region <;> rfl

theorem behind_nextPass {outerPassed : List Node} {pass next : Nat} {v : Value}
    {remaining remaining' : List Value} {outer : List OpenSection}
    (ho : w.opened = ⟨name, .loop outerPassed pass remaining⟩ :: outer) :
    w.behind = w.tape.passed ++ (w.nextPass name outerPassed next v remaining' outer).behind := by
  rw [behind, ho]
  exact passedBehind_append _ _ _

/-- The tokens of a whole tag are passed together. -/
theorem AtTag.tape_skipTag (h : w.AtTag m name d tail) :
    ∃ nodes, Node.tokens nodes = m.tag name ∧
      w.skipTag.tape = ⟨nodes.reverse ++ w.tape.passed, tail⟩ := by
  obtain ⟨d₂, d₃, h⟩ := h
  refine ⟨[⟨.marker m, d⟩, ⟨.text name, d₂⟩, ⟨.marker m.closing, d₃⟩], rfl, ?_⟩
  simp [skipTag, advance, Tape.advance, h]

theorem behind_skipTag (h : w.AtTag m name d tail) :
    ∃ nodes, Node.tokens nodes = m.tag name ∧ w.skipTag.behind = nodes.reverse ++ w.behind := by
  obtain ⟨nodes, hnodes, htape⟩ := h.tape_skipTag
  refine ⟨nodes, hnodes, ?_⟩
  rw [behind, htape, passedBehind_append]
  rfl

theorem AtTag.rest_skipTag (h : w.AtTag m name d tail) : w.skipTag.tape.rest = tail := by
  obtain ⟨d₃, h⟩ := h.atName
  exact Tape.rest_advance h.rest_skipName

/-- Behind a marker that the walk meets there is the text that is its name. -/
theorem atName_of_spaced (hspaced : Spaced (Node.tokens w.tape.rest))
    (h : w.tape.rest = ⟨.marker m, d⟩ :: tail) : ∃ name tail', w.AtName m name d tail' := by
  rw [h] at hspaced
  obtain ⟨name, rest, htail⟩ := hspaced.exists_text
  match tail, htail with
  | ⟨token, d₂⟩ :: tail', htail =>
    obtain ⟨rfl, -⟩ := List.cons.inj htail
    exact ⟨name, tail', d₂, h⟩

end Walk

/-! ### Splices -/

/-- The tokens of a partial take the place of a tag, one level deeper than the tag. Which file a tag
names that asks a variable is left open, as it depends on the frames (`Walk.Inclusion`). -/
inductive Splice (r : Renderer) : List Node → List Node → Prop where
  /-- Some tokens stand in front of the tag, and some behind it. -/
  | mk (before : List Node) {m : Marker} {reference : String} {d d₂ d₃ : Nat} {tail : List Node}
    {file : String} {ts : List Token} (hm : m.opensPartial)
    (hreference : checkReference reference = .ok ())
    (hfile : m = .partialTag → file = (PartialReference.parse reference).file)
    (hdepth : d + 1 ≤ r.options.maxPartialDepth)
    (hts : r.partialTokens file (PartialReference.parse reference).parameters = .ok ts) :
    Splice r
      (before ++ (⟨.marker m, d⟩ :: ⟨.text reference, d₂⟩ :: ⟨.marker .close, d₃⟩ :: tail))
      (before ++ (Node.ofTokens (d + 1) ts ++ tail))

namespace Splice

variable {r : Renderer} {a b : List Node}

theorem append_left (h : Splice r a b) (before : List Node) :
    Splice r (before ++ a) (before ++ b) := by
  cases h with
  | mk before' hm hreference hfile hdepth hts =>
    rw [← List.append_assoc, ← List.append_assoc]
    exact .mk (before ++ before') hm hreference hfile hdepth hts

/-- There is a tag that the splice replaces. -/
theorem exists_includes (h : Splice r a b) : ∃ node ∈ a, node.token.includes = true := by
  cases h with
  | @mk before m reference d d₂ d₃ tail file ts hm =>
    exact ⟨⟨.marker m, d⟩, List.mem_append_right _ List.mem_cons_self, hm⟩

/-- **A splice keeps a text behind each marker.** -/
theorem spaced (h : Splice r a b) (ha : Spaced (Node.tokens a)) : Spaced (Node.tokens b) := by
  cases h with
  | mk before hm hreference hfile hdepth hts =>
    simp only [Node.tokens_append, Node.tokens_cons, Node.tokens_ofTokens] at ha ⊢
    -- In front of the tag, the partial, and behind the tag: each is spaced by itself.
    have htail := ha.right.tail.tail.tail
    exact ha.left.append ((Renderer.spaced_of_partialTokens hts).append htail)

/-- A splice brings in only markers of a partial that can be loaded. -/
theorem marker_mem {m : Marker} (h : Splice r a b) (hm : .marker m ∈ Node.tokens b) :
    .marker m ∈ Node.tokens a ∨ ∃ file text,
      r.loader file r.options.partialExtension = .ok text ∧ .marker m ∈ tokenize text := by
  cases h with
  | mk before hopens hreference hfile hdepth hts =>
    obtain ⟨text, table, hload, rfl⟩ := Renderer.exists_of_partialTokens hts
    simp only [Node.tokens_append, Node.tokens_ofTokens, List.mem_append] at hm
    obtain hm | hm | hm := hm
    · exact .inl (by simp [hm])
    · exact .inr ⟨_, _, hload, table.marker_mem_of_mem_apply hm⟩
    · exact .inl (by simp [hm])

end Splice

namespace Walk

variable {r : Renderer} {w w' : Walk} {m : Marker} {name : String} {d : Nat} {tail : List Node}

/-- **The partial that the tag in front of the walk names comes in.** The frames of the walk say
which file this is, if the tag asks a variable. What is ahead then is `rest`. -/
inductive Inclusion (r : Renderer) (w : Walk) : (rest : List Node) → Prop where
  /-- The tag, the file that it names, and the tokens of the partial. -/
  | mk {m : Marker} {reference : String} {d : Nat} {tail : List Node} {file : String}
    {ts : List Token} (hm : m.opensPartial) (htag : w.AtTag m reference d tail)
    (hreference : checkReference reference = .ok ())
    (hfile : w.partialFile m (PartialReference.parse reference).file = .ok file)
    (hdepth : d + 1 ≤ r.options.maxPartialDepth)
    (hts : r.partialTokens file (PartialReference.parse reference).parameters = .ok ts) :
    Inclusion r w (Node.ofTokens (d + 1) ts ++ tail)

theorem exists_of_included {reference : String} {nodes : List Node}
    (h : w.included r m d reference = .ok nodes) : ∃ file ts,
      w.partialFile m (PartialReference.parse reference).file = .ok file ∧
      d + 1 ≤ r.options.maxPartialDepth ∧
      r.partialTokens file (PartialReference.parse reference).parameters = .ok ts ∧
      nodes = Node.ofTokens (d + 1) ts := by
  simp only [included_eq, bind_eq_ok_iff] at h
  obtain ⟨file, hfile, _, hdepth, ts, hts, h⟩ := h
  exact ⟨file, ts, hfile, Renderer.checkDepth_eq_ok_iff.mp hdepth, hts, (Except.ok.inj h).symm⟩

theorem inclusion_of_included {reference : String} {nodes : List Node} (hm : m.opensPartial)
    (htag : w.AtTag m reference d tail) (hreference : checkReference reference = .ok ())
    (h : w.included r m d reference = .ok nodes) : w.Inclusion r (nodes ++ tail) := by
  obtain ⟨file, ts, hfile, hdepth, hts, rfl⟩ := exists_of_included h
  exact .mk hm htag hreference hfile hdepth hts

/-- An inclusion is a splice of what is ahead. -/
theorem Inclusion.splice {rest : List Node} (h : w.Inclusion r rest) :
    Splice r w.tape.rest rest := by
  cases h with
  | @mk m reference d tail file ts hm htag hreference hfile hdepth hts =>
    obtain ⟨d₂, d₃, hrest⟩ := htag
    rw [Marker.closing_of_opensPartial hm] at hrest
    rw [hrest]
    refine .mk [] hm hreference ?_ hdepth hts
    rintro rfl
    simpa [partialFile, partialFileBy] using hfile.symm

/-- **A step leaves the stream as it is, or makes one inclusion.** -/
theorem stream_eq_or_inclusion (h : Next r w w') : w'.stream = w.stream ∨
    ∃ rest, w.Inclusion r rest ∧ w'.stream = w.behind.reverse ++ rest := by
  cases move_of_next h with
  | text h => exact .inl (by rw [stream_advance, stream_emit])
  | print hm htag hname htext => exact .inl (by rw [stream_emit, stream_skipTag])
  | comment htag => exact .inl (stream_skipTag w)
  | enter hm htag hname hlookup =>
    refine .inl ?_
    rw [stream, behind_enter, rest_enter]
    exact stream_skipTag w
  | splice hm htag hreference hnodes =>
    exact .inr ⟨_, inclusion_of_included hm htag hreference hnodes, rfl⟩
  | nextPass hend ho =>
    refine .inl ?_
    -- What the pass has passed is only moved, from behind the walk to ahead of it.
    rw [stream, stream, behind_nextPass ho, List.reverse_append, List.append_assoc]
    rfl
  | close htag ho hr =>
    refine .inl ?_
    rw [stream_skipTag, stream, behind_leave ho, rest_leave]
    rfl

/-- **A step leaves the stream as it is, or makes one splice.** -/
theorem stream_eq_or_splice (h : Next r w w') :
    w'.stream = w.stream ∨ Splice r w.stream w'.stream := by
  refine (stream_eq_or_inclusion h).imp_right ?_
  -- An inclusion changes what is ahead, and what is behind stands in front of it.
  rintro ⟨rest, hinclusion, hstream⟩
  rw [hstream]
  exact hinclusion.splice.append_left w.behind.reverse

/-- An inclusion that is made on the way from a walk: the run comes to a walk at the tag, and the
tag names its file there. -/
def IncludedFrom (r : Renderer) (w : Walk) (a b : List Node) : Prop :=
  ∃ u rest, Reaches r w u ∧ u.Inclusion r rest ∧ a = u.stream ∧ b = u.behind.reverse ++ rest

theorem IncludedFrom.splice {a b : List Node} (h : IncludedFrom r w a b) : Splice r a b := by
  obtain ⟨u, rest, -, hinclusion, rfl, rfl⟩ := h
  exact hinclusion.splice.append_left u.behind.reverse

/-- **A run changes the stream by inclusions on its way**, and in no other manner. -/
theorem Reaches.inclusions (h : Reaches r w w') :
    Relation.ReflTransGen (IncludedFrom r w) w.stream w'.stream := by
  induction h with
  | refl => exact .refl
  | @tail u u' hu hnext ih =>
    obtain heq | ⟨rest, hinclusion, hstream⟩ := stream_eq_or_inclusion hnext
    · rwa [heq]
    · exact ih.tail ⟨u, rest, hu, hinclusion, rfl, hstream⟩

/-- What is ahead of a spaced stream is spaced by itself. -/
theorem spaced_rest (h : Spaced (Node.tokens w.stream)) : Spaced (Node.tokens w.tape.rest) := by
  rw [stream, Node.tokens_append] at h
  exact h.right

/-- **A step keeps the stream spaced.** -/
theorem spaced_stream_next (h : Spaced (Node.tokens w.stream)) (hnext : Next r w w') :
    Spaced (Node.tokens w'.stream) := by
  obtain heq | hsplice := stream_eq_or_splice hnext
  · rw [heq]
    exact h
  · exact hsplice.spaced h

/-- Over a whole tag of another kind, no tag is passed that includes a partial. -/
theorem behind_skipTag_includes (htag : w.AtTag m name d tail) (hm : m.opensPartial = false)
    (h : ∀ node ∈ w.behind, node.token.includes = false) :
    ∀ node ∈ w.skipTag.behind, node.token.includes = false := by
  obtain ⟨nodes, hnodes, hbehind⟩ := behind_skipTag htag
  have hclosing : m.closing.opensPartial = false := by cases m <;> rfl
  intro node hnode
  rw [hbehind, List.mem_append, List.mem_reverse] at hnode
  obtain hnode | hnode := hnode
  · have htoken : node.token ∈ m.tag name := hnodes ▸ List.mem_map_of_mem hnode
    simp only [Marker.tag, List.mem_cons, List.not_mem_nil, or_false] at htoken
    obtain htoken | htoken | htoken := htoken <;> rw [htoken]
    · exact hm
    · rfl
    · exact hclosing
  · exact h node hnode

/-- **No tag that includes a partial is ever passed**, since the partial takes its place. -/
theorem behind_includes_next (h : ∀ node ∈ w.behind, node.token.includes = false)
    (hnext : Next r w w') : ∀ node ∈ w'.behind, node.token.includes = false := by
  cases move_of_next hnext with
  | @text s d tail hrest =>
    have hemit : (w.emit s).tape.rest = ⟨.text s, d⟩ :: tail := by rw [tape_emit, hrest]
    rw [behind_advance hemit, behind_emit]
    exact List.forall_mem_cons.mpr ⟨rfl, h⟩
  | @print m name text d tail hm htag hname htext =>
    rw [behind_emit]
    exact behind_skipTag_includes htag (Marker.opensPartial_of_opensVariable hm) h
  | comment htag => exact behind_skipTag_includes htag rfl h
  | @enter m name lookup d tail hm htag hname hlookup =>
    rw [behind_enter]
    exact behind_skipTag_includes htag (Marker.opensPartial_of_opensSection hm) h
  -- The tag is still ahead when the partial takes its place.
  | splice hm htag hreference hnodes => exact h
  | nextPass hend ho =>
    rw [behind_nextPass ho] at h
    exact fun node hnode => h node (List.mem_append_right _ hnode)
  | close htag ho hr =>
    refine behind_skipTag_includes (htag.leave _ _) rfl ?_
    rw [behind_leave ho]
    exact h

/-- What each splice keeps, a run keeps of the stream. -/
theorem Reaches.stream {P : List Node → Prop} (h : Reaches r w w') (first : P w.stream)
    (splice : ∀ {a b : List Node}, P a → Splice r a b → P b) : P w'.stream := by
  refine h.preserves (P := fun u => P u.stream) first fun {u u'} hu hnext => ?_
  obtain heq | hsplice := stream_eq_or_splice hnext
  · rw [heq]
    exact hu
  · exact splice hu hsplice

/-- **In the stream of every walk that a render comes to, each marker is directly followed by a
text.** -/
theorem spaced_of_reaches {template : String} {context : Value}
    (h : Reaches r (start template context) w) : Spaced (Node.tokens w.stream) := by
  refine h.stream (P := fun nodes => Spaced (Node.tokens nodes)) ?_ fun hu hsplice =>
    hsplice.spaced hu
  rw [stream_start, Node.tokens_ofTokens]
  exact spaced_tokenize template

end Walk

end Mustache
