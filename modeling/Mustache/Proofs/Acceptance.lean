import Mustache.Proofs.Message
import Mustache.Proofs.Retrace
/-!
# A render accepts the messages

A template without partial tags renders over a context exactly if it reads as a message, as long as
no name in it asks for an element of an array. The walk finds this out while it hides regions and
goes back in loops; the scan of the tokens finds it out at once.

* `Closes opened tokens`: the tokens take a walk out of the sections `opened`. In front of the end tag
  of each of them, and behind the last one, they read as a message.
* `Item.scan_message`: a scan passes over the tokens of a message, whatever comes behind.
* `Closes.of_scan`: tokens that a scan passes over to their end take it out of all open sections.
* `render_isOk_iff`: a template renders without an error if and only if it reads as a message.

The two directions of the last fact are inductions of different kinds: one goes down the tree of the
message, and the other goes along the tokens and builds the tree from their end.
-/

namespace Mustache

/-! ### Messages pass a scan -/

section Scan

variable {opened opened' : List String} {m : Marker} {name : String} {ts us : List Token}

/-- Over the tokens of a whole tag. -/
theorem Item.scan_tag_append (h : Item.scanTag opened m name = .ok opened') (items : List Item) :
    Item.scan opened ((m.tag name).map .token ++ items) = Item.scan opened' items := by
  show Item.scan opened (.token (.marker m) :: .token (.text name) ::
    .token (.marker m.closing) :: items) = Item.scan opened' items
  rw [Item.scan_tag, h, ok_bind]

theorem Item.scanTag_variableMarker (opened : List String) (escaped : Bool) (name : TagName) :
    Item.scanTag opened (Message.variableMarker escaped) name.text = .ok opened := by
  have hm : (Message.variableMarker escaped).opensVariable := by cases escaped <;> rfl
  rw [Item.scanTag_of_opensVariable hm, name.check]
  rfl

theorem Item.scanTag_marker (opened : List String) (kind : SectionKind) (name : TagName) :
    Item.scanTag opened kind.marker name.text = .ok (name.text :: opened) := by
  have hm : kind.marker.opensSection := by cases kind <;> rfl
  rw [Item.scanTag_of_opensSection hm, name.check]
  rfl

/-- **A scan passes over a message.** -/
theorem Item.scan_message (message : Message) (opened : List String) (items : List Item) :
    Item.scan opened (message.tokens.map .token ++ items) = Item.scan opened items := by
  -- What is behind the message is left open: behind a body come an end tag and the rest.
  induction message generalizing opened items with
  | nil => rfl
  | text s next ih =>
    rw [Message.tokens, List.map_cons, List.cons_append, Item.scan_text]
    exact ih opened items
  | print escaped name next ih =>
    rw [Message.tokens, List.map_append, List.append_assoc,
      Item.scan_tag_append (Item.scanTag_variableMarker opened escaped name)]
    exact ih opened items
  | comment s next ih =>
    have hcomment : Item.scanTag opened .comment s = .ok opened := rfl
    rw [Message.tokens, List.map_append, List.append_assoc, Item.scan_tag_append hcomment]
    exact ih opened items
  | block kind name body next ihbody ihnext =>
    simp only [Message.tokens, List.map_append, List.append_assoc]
    rw [Item.scan_tag_append (Item.scanTag_marker opened kind name), ihbody,
      Item.scan_tag_append (Item.scanTag_sectionClose opened name.text)]
    exact ihnext opened items

/-! ### What passes a scan is a message -/

/-- The tokens take a walk out of the sections of these names, the innermost first, and through a
message behind the last of them. -/
def Closes : List String → List Token → Prop
  | [], ts => ∃ message : Message, ts = message.tokens
  | name :: outer, ts => ∃ (message : Message) (rest : List Token),
    ts = message.tokens ++ (Marker.sectionClose.tag name ++ rest) ∧ Closes outer rest

namespace Closes

/-- What a message can start with can come in front. -/
theorem prepend (h : Closes opened ts)
    (hus : ∀ next : Message, ∃ message : Message, message.tokens = us ++ next.tokens) :
    Closes opened (us ++ ts) := by
  cases opened with
  | nil =>
    obtain ⟨next, rfl⟩ := h
    obtain ⟨message, hmessage⟩ := hus next
    exact ⟨message, hmessage.symm⟩
  | cons name outer =>
    obtain ⟨next, rest, rfl, hrest⟩ := h
    obtain ⟨message, hmessage⟩ := hus next
    refine ⟨message, rest, ?_, hrest⟩
    rw [hmessage, List.append_assoc]

theorem text (h : Closes opened ts) (s : String) : Closes opened (.text s :: ts) := by
  have hnext (next : Message) : ∃ message : Message, message.tokens = [.text s] ++ next.tokens :=
    ⟨.text s next, rfl⟩
  exact h.prepend hnext

theorem comment (h : Closes opened ts) (s : String) : Closes opened (Marker.comment.tag s ++ ts) :=
  h.prepend fun next => ⟨.comment s next, rfl⟩

/-- A name that passes its check is one that a tag may have. -/
theorem exists_tagName (h : checkTagName name = .ok ()) : ∃ n : TagName, n.text = name := by
  refine ⟨⟨name, ?_⟩, rfl⟩
  unfold checkTagName at h
  split at h
  · rename_i hwhole
    exact .inl hwhole
  · exact .inr (checkCharacters_eq_ok_iff.mp h)

theorem print (h : Closes opened ts) (hm : m.opensVariable) (hname : checkTagName name = .ok ()) :
    Closes opened (m.tag name ++ ts) := by
  obtain ⟨n, rfl⟩ := exists_tagName hname
  obtain ⟨escaped, rfl⟩ : ∃ escaped, Message.variableMarker escaped = m := by
    cases m with
    | escaped => exact ⟨true, rfl⟩
    | unescaped => exact ⟨false, rfl⟩
    | _ => simp [Marker.opensVariable] at hm
  exact h.prepend fun next => ⟨.print escaped n next, rfl⟩

/-- A section whose end is ahead is opened. -/
theorem enter (h : Closes (name :: opened) ts) (hm : m.opensSection)
    (hname : checkTagName name = .ok ()) : Closes opened (m.tag name ++ ts) := by
  obtain ⟨n, rfl⟩ := exists_tagName hname
  obtain ⟨kind, rfl⟩ : ∃ kind, SectionKind.marker kind = m := by
    cases m with
    | sectionOpen => exact ⟨.steppingIn, rfl⟩
    | shownIf => exact ⟨.shownIf, rfl⟩
    | shownUnless => exact ⟨.shownUnless, rfl⟩
    | shownIfFound => exact ⟨.shownIfFound, rfl⟩
    | _ => simp [Marker.opensSection] at hm
  obtain ⟨body, rest, rfl, hrest⟩ := h
  -- The whole section is one block, in front of what is behind its end tag.
  have hblock : kind.marker.tag n.text ++
      (body.tokens ++ (Marker.sectionClose.tag n.text ++ rest)) =
        (kind.marker.tag n.text ++ (body.tokens ++ Marker.sectionClose.tag n.text)) ++ rest := by
    simp only [List.append_assoc]
  rw [hblock]
  refine hrest.prepend fun next => ⟨.block kind n body next, ?_⟩
  simp only [Message.tokens, List.append_assoc]

/-- The end tag of a section is met. -/
theorem close (h : Closes opened ts) (name : String) :
    Closes (name :: opened) (Marker.sectionClose.tag name ++ ts) := ⟨.nil, ts, rfl, h⟩

/-- **A tag that a scan passes over leads back from where it has led to.** -/
theorem of_scanTag (hscan : Item.scanTag opened m name = .ok opened') (h : Closes opened' ts) :
    Closes opened (m.tag name ++ ts) := by
  cases m with
  | close | closeUnescaped => simp [Item.scanTag] at hscan
  -- A scan meets a partial tag only where it is not whole.
  | partialTag | partialByVariable =>
    rw [Item.scanTag_of_opensPartial rfl, Walk.bind_eq_ok_iff] at hscan
    obtain ⟨_, _, hthrow⟩ := hscan
    simp [throw, throwThe, MonadExceptOf.throw] at hthrow
  | comment =>
    obtain rfl := Except.ok.inj hscan
    exact h.comment name
  | escaped | unescaped =>
    rw [Item.scanTag_of_opensVariable rfl, Walk.bind_eq_ok_iff] at hscan
    obtain ⟨_, hname, hopened⟩ := hscan
    obtain rfl := Except.ok.inj hopened
    exact h.print rfl hname
  | sectionOpen | shownIf | shownUnless | shownIfFound =>
    rw [Item.scanTag_of_opensSection rfl, Walk.bind_eq_ok_iff] at hscan
    obtain ⟨_, hname, hopened⟩ := hscan
    obtain rfl := Except.ok.inj hopened
    exact h.enter rfl hname
  | sectionClose =>
    cases opened with
    | nil => simp [Item.scanTag] at hscan
    | cons opening outer =>
      simp only [Item.scanTag, Walk.bind_eq_ok_iff] at hscan
      obtain ⟨_, hname, hopened⟩ := hscan
      obtain rfl := Except.ok.inj hopened
      obtain rfl := Walk.eq_of_checkEndName hname
      exact h.close name

/-- **Tokens that pass a scan take it out of all open sections.** -/
theorem of_scan {items : List Item} (h : Item.scan opened items = .ok ()) :
    ∃ ts, items = ts.map .token ∧ Closes opened ts := by
  fun_induction Item.scan opened items with
  | case1 opened hopened =>
    obtain rfl := List.isEmpty_iff.mp hopened
    exact ⟨[], rfl, .nil, rfl⟩
  -- Inside a section the tokens may not end, and a stopping point is an error.
  | case2 opened hopened => simp at h
  | case3 opened e items => simp at h
  | case4 opened s items ih =>
    obtain ⟨ts, rfl, hts⟩ := ih h
    exact ⟨.text s :: ts, rfl, hts.text s⟩
  | case5 opened m name found items ih =>
    rw [Walk.bind_eq_ok_iff] at h
    obtain ⟨opened', hscan, h⟩ := h
    split at h
    · rename_i hfound
      obtain ⟨ts, rfl, hts⟩ := ih opened' h
      -- The three tokens are a whole tag, behind which the tree is known already.
      exact ⟨m.tag name ++ ts, by rw [hfound]; rfl, .of_scanTag hscan hts⟩
    · simp at h
  | case6 opened m name items hitems =>
    rw [Walk.bind_eq_ok_iff] at h
    obtain ⟨_, _, h⟩ := h
    simp at h
  | case7 => simp at h

end Closes

/-- **Tokens pass a scan exactly if they read as a message.** -/
theorem Item.scan_eq_ok_iff :
    Item.scan [] (ts.map .token) = .ok () ↔ ∃ message : Message, ts = message.tokens := by
  constructor
  · intro h
    obtain ⟨us, heq, hus⟩ := Closes.of_scan h
    obtain rfl := (List.map_inj_right fun _ _ => Item.token.inj).mp heq
    exact hus
  · rintro ⟨message, rfl⟩
    have hscan := Item.scan_message message [] []
    rw [List.append_nil] at hscan
    exact hscan

end Scan

/-! ### Templates without partial tags -/

/-- No token opens a tag that includes a partial. -/
def NoPartials (ts : List Token) : Prop := ∀ t ∈ ts, t.includes = false

instance (ts : List Token) : Decidable (NoPartials ts) :=
  inferInstanceAs (Decidable (∀ t ∈ ts, _))

namespace NoPartials

variable {r : Renderer} {template : String} {context : Value} {w : Walk} {ts : List Token}

theorem not_mem (h : NoPartials ts) {m : Marker} (hm : m.opensPartial) : .marker m ∉ ts := by
  intro hmem
  have hincludes := h _ hmem
  rw [Token.includes, hm] at hincludes
  exact Bool.false_ne_true hincludes.symm

/-- There is nothing to expand. -/
theorem expand (h : NoPartials ts) : r.expand ts = ts.map .token := by
  have hpartial : ∀ node ∈ Node.ofTokens 0 ts, node.token ≠ .marker .partialTag := by
    intro node hnode htoken
    refine h.not_mem (m := .partialTag) rfl ?_
    rw [← htoken, ← Node.tokens_ofTokens 0 ts]
    exact List.mem_map_of_mem hnode
  calc r.expand ts
      = r.expandNodes (Node.ofTokens 0 ts ++ []) := by
        rw [List.append_nil, Renderer.expandNodes_ofTokens]
        rfl
    _ = ts.map .token := by
        rw [Renderer.expandNodes_append_left hpartial, Node.tokens_ofTokens]
        exact List.append_nil _

/-- A walk goes over the tokens of the template all along. -/
theorem stream_of_reaches (h : NoPartials (tokenize template))
    (hw : Walk.Reaches r (Walk.start template context) w) :
    Node.tokens w.stream = tokenize template := by
  refine hw.stream (P := fun nodes => Node.tokens nodes = tokenize template) ?_ ?_
  · rw [Walk.stream_start, Node.tokens_ofTokens]
  · intro a b ha hsplice
    -- There is no tag to replace.
    obtain ⟨node, hnode, hincludes⟩ := hsplice.exists_includes
    have hmem : node.token ∈ tokenize template := ha ▸ List.mem_map_of_mem hnode
    rw [h _ hmem] at hincludes
    exact absurd hincludes Bool.false_ne_true

/-- **All walks of the render are plain** where the names are. -/
theorem plain (h : NoPartials (tokenize template)) (hnames : PlainNames (tokenize template))
    (hw : Walk.Reaches r (Walk.start template context) w) : w.Plain where
  spaced := Walk.spaced_of_reaches hw
  direct := by
    rw [h.stream_of_reaches hw]
    exact h.not_mem rfl
  behind := by
    refine hw.preserves (P := fun u => ∀ node ∈ u.behind, node.token.includes = false) ?_
      Walk.behind_includes_next
    intro node hnode
    simp [Walk.behind, Walk.start, Walk.passedBehind] at hnode
  plainNames := by
    rw [h.stream_of_reaches hw]
    exact hnames

end NoPartials

/-- **A template without partial tags renders exactly if it reads as a message.** Its names must not
ask for an element of an array; the context has no part in it. -/
theorem render_isOk_iff {template : String} (hpartials : NoPartials (tokenize template))
    (hnames : PlainNames (tokenize template)) (r : Renderer) (context : Value) :
    (∃ output, r.render template context = .ok output) ↔
      ∃ message : Message, tokenize template = message.tokens := by
  rw [← ending_eq_ok_iff, Renderer.ending_render fun u hu => hpartials.plain hnames hu,
    hpartials.expand]
  exact Item.scan_eq_ok_iff

/-- A section inside a loop, over a context that hides the one and runs through the other. -/
theorem render_isOk_of_section_in_loop :
    let r : Renderer := ⟨(∅ : Store).loader, {}⟩
    let template :=
      "\x7b\x7b#xs\x7d\x7d\x7b\x7b^a\x7d\x7d\x7b\x7b.\x7d\x7d\x7b\x7b/a\x7d\x7d\x7b\x7b/xs\x7d\x7d"
    let context : Value := .object [("xs", .array [.object [("a", .bool true)], .object []])]
    ∃ output, r.render template context = .ok output := by
  intro r template context
  have hpartials : NoPartials (tokenize template) := by decide +kernel
  have hnames : PlainNames (tokenize template) := by decide +kernel
  have hxs : checkTagName "xs" = .ok () := by decide +kernel
  have ha : checkTagName "a" = .ok () := by decide +kernel
  obtain ⟨xs, hxs⟩ := Closes.exists_tagName hxs
  obtain ⟨a, ha⟩ := Closes.exists_tagName ha
  refine (render_isOk_iff hpartials hnames r context).mpr
    ⟨.text "" (.block .steppingIn xs
      (.text "" (.block .shownUnless a
        (.text "" (.print true ⟨".", .inl rfl⟩ (.text "" .nil)))
        (.text "" .nil)))
      (.text "" .nil)), ?_⟩
  simp only [Message.tokens, hxs, ha]
  decide +kernel

end Mustache
