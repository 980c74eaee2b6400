import Mustache.Proofs.ErrorClass
import Mustache.Proofs.InclusionHeight
import Mustache.Proofs.Retrace
/-!
# The depth limit and the longest chain of inclusions

Where no tag asks a variable for its file, what a render does about the depth limit is up to the texts
alone. The limit is compared with the length of the longest chain of inclusions (`Renderer.height`),
whatever the context is, since a section that is hidden is walked like any other.

* `Renderer.height_le_of_stop?` and `Renderer.lt_height_of_stop?`: the expansion of some tokens has no
  stopping point only if all chains fit below the limit, and it has one for the depth first only if
  some chain does not.
* `Walk.Expandable.stop?_of_depth`: a walk that stops for the depth has come to such a point.
* `Renderer.Fits`: no token ever stands deeper than the longest chain, however many tags stand side by
  side and however often a loop takes the walk back; each splice keeps it.
* `render_height`: what comes of it for renders.
-/

namespace Mustache

/-! ### Stopping points of an expansion -/

/-- The first tag that leads to a stopping point gives the reason. -/
theorem stop?_expandTags (inclusion : String → List Item) (ts : List Token) :
    Item.stop? (expandTags inclusion ts) =
      (references ts).findSome? fun reference => Item.stop? (inclusion reference) := by
  fun_induction expandTags inclusion ts with
  | case1 reference rest ih =>
    rw [Item.stop?_append_eq_or, ih, references, List.findSome?_cons]
    cases Item.stop? (inclusion reference) <;> rfl
  | case2 t rest hne ih =>
    rw [Item.stop?, ih, references]
    exact hne
  | case3 => rfl

namespace Renderer

variable {r : Renderer} {ts : List Token} {levels : Nat}

/-- Where no further level may come in, each tag is a stopping point. -/
theorem exists_stop_inclusion_zero (r : Renderer) (reference : String) :
    ∃ e, r.inclusion 0 reference = [.stop e] := by
  rw [inclusion]
  cases checkReference reference with
  | error e => exact ⟨e, rfl⟩
  | ok u => exact ⟨_, rfl⟩

/-- A partial that may come in does so, or it is a stopping point for a reason of its own. -/
theorem inclusion_succ_cases (r : Renderer) (levels : Nat) (reference : String) :
    (∃ ts parameters, r.partialTokens (fileOf reference) parameters = .ok ts ∧
      r.inclusion (levels + 1) reference = expandTags (r.inclusion levels) ts) ∨
    ∃ e, r.inclusion (levels + 1) reference = [.stop e] ∧ e.kind ≠ .depth := by
  rw [inclusion]
  cases hreference : checkReference reference with
  | error e =>
    have hkind := kind_of_checkReference hreference
    exact .inr ⟨e, rfl, by rw [hkind]; decide⟩
  | ok u =>
    cases hts : r.partialTokens (PartialReference.parse reference).file
      (PartialReference.parse reference).parameters with
    | error e =>
      refine .inr ⟨e, by simp [hts], ?_⟩
      obtain hkind | hkind := kind_of_partialTokens hts <;> rw [hkind] <;> decide
    | ok ts => exact .inl ⟨ts, _, hts, by simp [hts]⟩

/-- **Without a stopping point, all chains fit below the limit.** -/
theorem height_le_of_stop? (h : Item.stop? (expandTags (r.inclusion levels) ts) = none) :
    r.height ts ≤ levels := by
  -- Each level of the expansion is one file of a chain.
  induction levels generalizing ts with
  | zero =>
    rw [stop?_expandTags, List.findSome?_eq_none_iff] at h
    refine height_le_iff.mpr fun reference hreference => ?_
    have hstop := h reference hreference
    obtain ⟨e, he⟩ := r.exists_stop_inclusion_zero reference
    simp [he, Item.stop?] at hstop
  | succ levels ih =>
    rw [stop?_expandTags, List.findSome?_eq_none_iff] at h
    refine height_le_iff.mpr fun reference hreference => ?_
    have hstop := h reference hreference
    obtain ⟨us, parameters, hus, hexpand⟩ | ⟨e, he, -⟩ := r.inclusion_succ_cases levels reference
    · rw [hexpand] at hstop
      rw [← height_congr (includedFiles_of_partialTokens hus)]
      exact_mod_cast add_le_add_left (ih hstop) 1
    · simp [he, Item.stop?] at hstop

/-- **With a stopping point for the depth, some chain does not fit below the limit.** -/
theorem lt_height_of_stop? {e : RenderError} (hkind : e.kind = .depth)
    (h : Item.stop? (expandTags (r.inclusion levels) ts) = some e) : levels < r.height ts := by
  induction levels generalizing ts with
  | zero =>
    rw [stop?_expandTags] at h
    obtain ⟨reference, hreference, -⟩ := List.exists_of_findSome?_eq_some h
    exact (add_pos_of_right one_pos _).trans_le (height_fileOf_add_one_le hreference)
  | succ levels ih =>
    rw [stop?_expandTags] at h
    obtain ⟨reference, hreference, hstop⟩ := List.exists_of_findSome?_eq_some h
    obtain ⟨us, parameters, hus, hexpand⟩ | ⟨e', he, hother⟩ :=
      r.inclusion_succ_cases levels reference
    · rw [hexpand] at hstop
      have hlt := ih hstop
      rw [height_congr (includedFiles_of_partialTokens hus)] at hlt
      have hlt' : ((levels + 1 : Nat) : ℕ∞) < r.height (r.body (fileOf reference)) + 1 := by
        exact_mod_cast (ENat.add_lt_add_iff_right ENat.one_ne_top).mpr hlt
      exact hlt'.trans_le (height_fileOf_add_one_le hreference)
    · simp only [he, Item.stop?, Option.some.injEq] at hstop
      exact absurd (hstop ▸ hkind) hother

end Renderer

/-! ### Where renders end -/

namespace Walk

variable {r : Renderer} {w : Walk} {f : RenderFailure} {template : String} {context : Value}

/-- **A walk that stops for the depth has come to a stopping point of the expansion.** -/
theorem Expandable.stop?_of_depth (h : w.Expandable) (hf : w.step r = .error f)
    (hdepth : f.error.kind = .depth) :
    Item.stop? (r.expandNodes w.stream) = some f.error := by
  obtain ⟨m, reference, d, tail, hm, htag, hreference, hnodes⟩ :=
    (halt_of_failure h.spaced_rest hf).exists_partial (by rw [hdepth]; decide)
  obtain ⟨d₃, hat⟩ := htag.atName
  obtain rfl := h.eq_partialTag hm hat
  have hstopped := stopped?_expanded h htag (by rw [hreference]; exact hnodes)
  unfold stopped? at hstopped
  split at hstopped
  · exact hstopped
  · simp at hstopped

/-- **A walk that has come to its end has no stopping point in its expansion.** -/
theorem Expandable.stop?_of_end (h : w.Expandable) (hend : w.step r = .ok none) :
    Item.stop? (r.expandNodes w.stream) = none := by
  rw [h.stop?_stream, (of_step_end hend).1]
  rfl

/-- All walks that a render comes to have the expansion of the template. -/
theorem expandable_of_reaches (hr : r.IsDirect)
    (htemplate : .marker .partialByVariable ∉ tokenize template)
    (h : Reaches r (start template context) w) :
    w.Expandable ∧ r.expandNodes w.stream = r.expand (tokenize template) := by
  refine h.preserves (P := fun u => u.Expandable ∧ r.expandNodes u.stream =
    r.expand (tokenize template)) ⟨expandable_start context htemplate, ?_⟩ ?_
  · rw [stream_start, Renderer.expandNodes_ofTokens]
    rfl
  · rintro u u' ⟨hu, heq⟩ hnext
    exact ⟨hu.next hr hnext, (hu.expandNodes_next hnext).trans heq⟩

end Walk

namespace Renderer

variable {r : Renderer} {template : String} {context : Value}

section Direct

variable (hr : r.IsDirect) (htemplate : .marker .partialByVariable ∉ tokenize template)

include hr htemplate

theorem stop?_expand_of_ok {output : String} (h : r.render template context = .ok output) :
    Item.stop? (r.expand (tokenize template)) = none := by
  obtain ⟨last, hreaches, hend⟩ := Walk.exists_of_run_eq_ok h
  obtain ⟨hlast, hexpand⟩ := Walk.expandable_of_reaches hr htemplate hreaches
  rw [← hexpand, hlast.stop?_of_end hend]

theorem stop?_expand_of_depth {f : RenderFailure} (h : r.render template context = .error f)
    (hdepth : f.error.kind = .depth) :
    Item.stop? (r.expand (tokenize template)) = some f.error := by
  obtain ⟨last, hreaches, hf⟩ := Walk.exists_of_run_eq_error h
  obtain ⟨hlast, hexpand⟩ := Walk.expandable_of_reaches hr htemplate hreaches
  rw [← hexpand, hlast.stop?_of_depth hf hdepth]

end Direct

end Renderer

/-! ### Depths of tokens -/

namespace Node

/-- The whole tags that name their partial, each with its depth and its text. -/
def tags : List Node → List (Nat × String)
  | ⟨.marker .partialTag, d⟩ :: ⟨.text reference, _⟩ :: ⟨.marker .close, _⟩ :: rest =>
    (d, reference) :: tags rest
  | _ :: rest => tags rest
  | [] => []

/-- A token that does not start a whole partial tag does not count. -/
theorem tags_cons {node : Node} {rest : List Node} (h : ¬ StartsWithPartial (node :: rest)) :
    tags (node :: rest) = tags rest := by
  rw [tags]
  rintro d reference d₂ d₃ tail rfl rfl
  exact h ⟨reference, d, d₂, d₃, tail, rfl⟩

theorem tags_ofTokens (d : Nat) (ts : List Token) :
    tags (ofTokens d ts) = (references ts).map (d, ·) := by
  fun_induction references ts with
  | case1 reference rest ih =>
    rw [List.map_cons, ← ih]
    rfl
  | case2 t rest hne ih =>
    rw [← ih, ofTokens_cons, tags_cons]
    intro hpartial
    obtain ⟨reference, us, rfl, rfl⟩ := exists_of_startsWithPartial_ofTokens hpartial
    exact hne reference us rfl rfl
  | case3 => rfl

/-- Tokens that stand apart have their tags apart. -/
theorem tags_append {a b : List Node} (ha : Spaced (tokens a))
    (hb : ∀ d tail, b ≠ ⟨.marker .close, d⟩ :: tail) : tags (a ++ b) = tags a ++ tags b := by
  fun_induction tags a with
  | case1 d reference d₂ d₃ rest ih =>
    exact congrArg ((d, reference) :: ·) (ih ha.tail.tail.tail)
  | case2 node rest hne ih =>
    rw [List.cons_append, tags_cons, ih ha.tail]
    intro hpartial
    obtain ⟨reference, d, d₂, d₃, tail, htag⟩ := hpartial.of_append ha hb
    obtain ⟨rfl, rfl⟩ := List.cons.inj htag
    exact hne d reference d₂ d₃ tail rfl rfl
  | case3 => rfl

end Node

/-- What a splice does to the tags: those of the partial take the place of one tag, one level deeper,
as all tokens of the partial do. -/
theorem Splice.exists_tags {r : Renderer} {a b : List Node} (h : Splice r a b)
    (ha : Spaced (Node.tokens a)) (hdirect : .marker .partialByVariable ∉ Node.tokens a) :
    ∃ d reference parameters ts before tail,
      r.partialTokens (fileOf reference) parameters = .ok ts ∧
      Node.tags a = before ++ (d, reference) :: tail ∧
      Node.tags b = before ++ ((references ts).map (d + 1, ·) ++ tail) ∧
      ∀ node ∈ b, node ∈ a ∨ node.depth = d + 1 := by
  cases h.apart ha hdirect with
  | @mk before tail reference d d₂ d₃ ts hreference hdepth hts hbefore hpartial htail =>
    have hspaced := Renderer.spaced_of_partialTokens hts
    refine ⟨d, reference, _, ts, Node.tags before, Node.tags tail, hts, ?_, ?_, ?_⟩
    · rw [Node.tags_append hbefore (by simp)]
      rfl
    · rw [Node.tags_append hbefore hpartial, Node.tags_append (by simpa using hspaced) htail,
        Node.tags_ofTokens]
    · intro node hnode
      obtain hnode | hnode | hnode := by simpa only [List.mem_append] using hnode
      · exact .inl (List.mem_append_left _ hnode)
      · obtain ⟨t, -, rfl⟩ := List.mem_map.mp hnode
        exact .inr rfl
      · exact .inl (by simp [hnode])

/-- No token stands deeper than `h`, and none will stand deeper when partials take the place of their
tags. -/
structure Renderer.Fits (r : Renderer) (h : ℕ∞) (nodes : List Node) : Prop where
  /-- The depths of tokens. -/
  depth : ∀ node ∈ nodes, (node.depth : ℕ∞) ≤ h
  /-- The depths that whole tags lead to. -/
  tags : ∀ tag ∈ Node.tags nodes, (tag.1 : ℕ∞) + 1 + r.height (r.body (fileOf tag.2)) ≤ h

/-- **A splice keeps within the height**, since what a file includes is less high than a tag that
names the file. -/
theorem Splice.fits {r : Renderer} {a b : List Node} {h : ℕ∞} (hsplice : Splice r a b)
    (ha : Spaced (Node.tokens a)) (hdirect : .marker .partialByVariable ∉ Node.tokens a)
    (hfits : r.Fits h a) : r.Fits h b := by
  obtain ⟨d, reference, parameters, ts, before, tail, hts, htagsA, htagsB, hnodes⟩ :=
    hsplice.exists_tags ha hdirect
  have htag : (d : ℕ∞) + 1 + r.height (r.body (fileOf reference)) ≤ h :=
    hfits.tags (d, reference) (by rw [htagsA]; simp)
  constructor
  · intro node hnode
    obtain hnode | hdepth := hnodes node hnode
    · exact hfits.depth node hnode
    · rw [hdepth, Nat.cast_succ]
      exact le_self_add.trans htag
  · intro tag hmem
    rw [htagsB, List.mem_append, List.mem_append] at hmem
    obtain hmem | hmem | hmem := hmem
    · exact hfits.tags tag (by rw [htagsA]; exact List.mem_append_left _ hmem)
    · obtain ⟨reference', hreference', rfl⟩ := List.mem_map.mp hmem
      have hle := r.height_fileOf_add_one_le hreference'
      rw [Renderer.height_congr (Renderer.includedFiles_of_partialTokens hts)] at hle
      calc ((d + 1 : Nat) : ℕ∞) + 1 + r.height (r.body (fileOf reference'))
          = (d : ℕ∞) + 1 + (r.height (r.body (fileOf reference')) + 1) := by
            rw [Nat.cast_succ, add_assoc _ 1, add_comm 1]
        _ ≤ (d : ℕ∞) + 1 + r.height (r.body (fileOf reference)) := by gcongr
        _ ≤ h := htag
    · exact hfits.tags tag (by rw [htagsA]; simp [hmem])

/-- **No token of any walk stands deeper than the longest chain.** -/
theorem Walk.fits_of_reaches {r : Renderer} {template : String} {context : Value} {w : Walk}
    (hr : r.IsDirect) (htemplate : .marker .partialByVariable ∉ tokenize template)
    (h : Reaches r (start template context) w) :
    r.Fits (r.height (tokenize template)) w.stream := by
  -- What the splices rely on goes through the run together with the depths.
  refine (h.preserves (P := fun u => u.Expandable ∧ r.Fits (r.height (tokenize template)) u.stream)
    ⟨expandable_start context htemplate, ?_, ?_⟩ ?_).2
  · intro node hnode
    obtain ⟨t, -, rfl⟩ := List.mem_map.mp (stream_start template context ▸ hnode)
    exact zero_le
  · intro tag htag
    rw [stream_start, Node.tags_ofTokens] at htag
    obtain ⟨reference, hreference, rfl⟩ := List.mem_map.mp htag
    simpa [add_comm] using r.height_fileOf_add_one_le hreference
  · rintro u u' ⟨hu, hfits⟩ hnext
    refine ⟨hu.next hr hnext, ?_⟩
    obtain heq | hsplice := stream_eq_or_splice hnext
    · rw [heq]
      exact hfits
    · exact hsplice.fits hu.spaced hu.direct hfits

/-! ### The limit and the longest chain -/

/-- **The depth limit is a limit on chains of inclusions, hidden or not.** Where no tag asks a
variable for its file, whatever the context is:

* a render that succeeds has all chains within the limit, and a render that fails for the depth has a
  chain beyond it;
* from a template that leads to a partial that includes itself, no render succeeds, whatever sections
  stand around the tags;
* of tags side by side only the one that leads deepest counts, and no walk has a token deeper than the
  longest chain, however often a loop takes it back. -/
theorem render_height {r : Renderer} (hr : r.IsDirect) {template : String}
    (htemplate : .marker .partialByVariable ∉ tokenize template) :
    (∀ context output, r.render template context = .ok output →
        r.height (tokenize template) ≤ r.options.maxPartialDepth) ∧
      (∀ context output file limit,
        r.render template context = .error ⟨output, .tooDeep file limit⟩ →
        r.options.maxPartialDepth < r.height (tokenize template)) ∧
      (∀ first file, first ∈ includedFiles (tokenize template) →
        Relation.ReflTransGen r.Includes first file → Relation.TransGen r.Includes file file →
        r.height (tokenize template) = ⊤ ∧
          ∀ context output, r.render template context ≠ .ok output) ∧
      r.height (tokenize template) =
        ⨆ file ∈ includedFiles (tokenize template), (r.height (r.body file) + 1) ∧
      ∀ context w, Walk.Reaches r (Walk.start template context) w →
        ∀ node ∈ w.stream, (node.depth : ℕ∞) ≤ r.height (tokenize template) := by
  have hsuccess (context : Value) (output : String)
      (hok : r.render template context = .ok output) :
      r.height (tokenize template) ≤ r.options.maxPartialDepth :=
    Renderer.height_le_of_stop? (Renderer.stop?_expand_of_ok hr htemplate hok)
  refine ⟨hsuccess, ?_, ?_, r.height_eq _, ?_⟩
  · intro context output file limit herror
    exact Renderer.lt_height_of_stop? rfl
      (Renderer.stop?_expand_of_depth hr htemplate herror rfl)
  · intro first file hfirst hreach hcycle
    have htop := Renderer.height_eq_top_of_reaches_cycle hfirst hreach hcycle
    refine ⟨htop, fun context output hok => ?_⟩
    have hle := hsuccess context output hok
    rw [htop, top_le_iff] at hle
    exact ENat.natCast_ne_top _ hle
  · exact fun context w hw => (Walk.fits_of_reaches hr htemplate hw).depth

/-- Partials in sections that are never shown. One of them leads one level deeper than the limit of
one lets in, and not deeper than a limit of two with two more partials beside it; the other one
includes itself. -/
theorem render_hidden_partials :
    let store : Store := ⟨[
      ("p.mustache", "\x7b\x7b#never\x7d\x7d\x7b\x7b>q\x7d\x7d\x7b\x7b/never\x7d\x7d"),
      ("q.mustache", "c"),
      ("s.mustache", "\x7b\x7b#never\x7d\x7d\x7b\x7b>s\x7d\x7d\x7b\x7b/never\x7d\x7d")]⟩
    let r (limit : Nat) : Renderer := ⟨store.loader, { maxPartialDepth := limit }⟩
    let siblings := "\x7b\x7b>p\x7d\x7d\x7b\x7b>q\x7d\x7d\x7b\x7b>q\x7d\x7d"
    let recursion := "\x7b\x7b>s\x7d\x7d"
    (∀ limit, (r limit).IsDirect) ∧ .marker .partialByVariable ∉ tokenize siblings ∧
      .marker .partialByVariable ∉ tokenize recursion ∧
      1 < (r 1).height (tokenize siblings) ∧ (r 2).height (tokenize siblings) ≤ 2 ∧
      ∀ limit context output, (r limit).render recursion context ≠ .ok output := by
  intro store r siblings recursion
  have hr (limit : Nat) : (r limit).IsDirect := Renderer.isDirect_of_entries (by decide +kernel)
  have hsiblings : .marker .partialByVariable ∉ tokenize siblings := by decide +kernel
  have hrecursion : .marker .partialByVariable ∉ tokenize recursion := by decide +kernel
  have hone : (r 1).render siblings .null = .error ⟨"", .tooDeep "q" 1⟩ :=
    Walk.run_eq_error_of_after (n := 5) (by decide +kernel)
  have htwo : (r 2).render siblings .null = .ok "cc" :=
    Walk.run_eq_of_after (n := 17) (by decide +kernel)
  refine ⟨hr, hsiblings, hrecursion, ?_, ?_, fun limit => ?_⟩
  · exact (render_height (hr 1) hsiblings).2.1 .null _ _ _ hone
  · exact (render_height (hr 2) hsiblings).1 .null _ htwo
  · have hfirst : "s" ∈ includedFiles (tokenize recursion) := by decide +kernel
    have hbody : (r limit).body "s" = tokenize
        "\x7b\x7b#never\x7d\x7d\x7b\x7b>s\x7d\x7d\x7b\x7b/never\x7d\x7d" := by
      rfl
    have hcycle : (r limit).Includes "s" "s" := by
      rw [Renderer.Includes, hbody]
      decide +kernel
    exact ((render_height (hr limit) hrecursion).2.2.1 "s" "s" hfirst .refl (.single hcycle)).2

end Mustache
