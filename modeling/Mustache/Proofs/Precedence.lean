import Mathlib.Data.List.Induction
import Mathlib.Data.List.Nodup
import Mustache.Proofs.Parameters
/-!
# Which parameter counts

The parameters of a partial are bound from left to right. Each of them is read by itself, so that the
first one that cannot be read gives the error, wherever it stands. Of several for one key the first one
counts. A word stands for what it has been bound to so far, and for itself if that is nothing: what
comes later does not reach back.

What a key amounts to can be said without a table (`StandsFor`): look for its first parameter; a text
is what it is, and a word is looked up among the parameters in front of this one only. Following a word
therefore leads to shorter and shorter lists, and ends at a text or at a word that nothing was bound to.

* `fault?`, `bindAll_eq_error_iff`: when parameters cannot be bound, and what the error is.
* `bindRead`: the table of parameters that have been read.
* `get?_bindRead_iff`: the table has what the keys stand for.
* `prefix_bindRead`: more parameters only add entries at the end.
* `parse_first_counts`: all of this.
-/

namespace Mustache

/-- What is wrong with a parameter, taken by itself. -/
def fault? (parameter : String) : Option RenderError :=
  match parseParameter parameter with
  | .ok _ => none
  | .error e => some e

theorem fault?_eq_some_iff {parameter : String} {e : RenderError} :
    fault? parameter = some e ↔ parseParameter parameter = .error e := by
  rw [fault?]
  cases parseParameter parameter <;> simp

/-- What a key stands for among parameters that have been read, by its first one. -/
inductive StandsFor : List (String × Binding) → String → Binding → Prop where
  /-- It has a text. -/
  | literal {before after : List (String × Binding)} {key s : String}
    (hfirst : key ∉ before.map Prod.fst) :
    StandsFor (before ++ (key, .literal s) :: after) key (.literal s)
  /-- It has a word that stands for something already. -/
  | known {before after : List (String × Binding)} {key word : String} {b : Binding}
    (hfirst : key ∉ before.map Prod.fst) (h : StandsFor before word b) :
    StandsFor (before ++ (key, .bare word) :: after) key b
  /-- It has a word that nothing was bound to. -/
  | unknown {before after : List (String × Binding)} {key word : String}
    (hfirst : key ∉ before.map Prod.fst) (hword : word ∉ before.map Prod.fst) :
    StandsFor (before ++ (key, .bare word) :: after) key (.bare word)

theorem StandsFor.append {ds : List (String × Binding)} {key : String} {b : Binding}
    (h : StandsFor ds key b) (more : List (String × Binding)) : StandsFor (ds ++ more) key b := by
  cases h with
  | literal hfirst =>
    rw [List.append_assoc, List.cons_append]
    exact .literal hfirst
  | known hfirst h =>
    rw [List.append_assoc, List.cons_append]
    exact .known hfirst h
  | unknown hfirst hword =>
    rw [List.append_assoc, List.cons_append]
    exact .unknown hfirst hword

namespace BindingTable

variable {t t' : BindingTable} {ds : List (String × Binding)} {parameters : List String}
  {key : String} {b : Binding} {e : RenderError}

/-- The keys, in their order. -/
def keys (t : BindingTable) : List String := t.entries.map Prod.fst

/-- Binds what parameters that have been read say, from left to right. -/
def bindRead (t : BindingTable) (ds : List (String × Binding)) : BindingTable :=
  ds.foldl (fun t d => t.bind d.1 d.2) t

/-! ### Reading -/

theorem bindAll_eq_error_iff : t.bindAll parameters = .error e ↔ parameters.findSome? fault? = some e := by
  induction parameters generalizing t with
  | nil => simp [bindAll]
  | cons p ps ih =>
    rw [bindAll, List.findSome?_cons, fault?]
    cases hp : parseParameter p with
    | ok d =>
      rw [ok_bind]
      exact ih
    | error e' => simp

theorem bindAll_of_read (h : parameters.map parseParameter = ds.map .ok) :
    t.bindAll parameters = .ok (t.bindRead ds) := by
  induction parameters generalizing t ds with
  | nil =>
    obtain rfl := List.map_eq_nil_iff.mp h.symm
    rfl
  | cons p ps ih =>
    obtain ⟨d, ds, rfl, hd, hds⟩ := List.map_eq_cons_iff.mp h.symm
    rw [bindAll, ← hd, ok_bind]
    exact ih hds.symm

theorem exists_read (h : t.bindAll parameters = .ok t') :
    ∃ ds, parameters.map parseParameter = ds.map .ok ∧ t' = t.bindRead ds := by
  induction parameters generalizing t with
  | nil => exact ⟨[], rfl, (Except.ok.inj h).symm⟩
  | cons p ps ih =>
    rw [bindAll] at h
    cases hp : parseParameter p with
    | error e => rw [hp] at h; cases h
    | ok d =>
      rw [hp, ok_bind] at h
      obtain ⟨ds, hds, rfl⟩ := ih h
      exact ⟨d :: ds, by simp [hp, hds], rfl⟩

theorem bindAll_append (t : BindingTable) (ps qs : List String) :
    t.bindAll (ps ++ qs) = t.bindAll ps >>= fun t' => t'.bindAll qs := by
  induction ps generalizing t with
  | nil => rfl
  | cons p ps ih =>
    rw [List.cons_append, bindAll, bindAll]
    cases parseParameter p with
    | error e => rfl
    | ok d => exact ih (t.bind d.1 d.2)

/-! ### Keys -/

theorem get?_eq_none_iff : t.get? key = none ↔ key ∉ t.keys := by
  rw [get?, List.lookup_eq_none_iff, keys]
  constructor
  · intro h hmem
    obtain ⟨p, hp, rfl⟩ := List.mem_map.mp hmem
    simpa using h p hp
  · intro h p hp
    rw [bne_iff_ne]
    rintro rfl
    exact h (List.mem_map_of_mem hp)

theorem keys_bind (t : BindingTable) (key : String) (b : Binding) :
    (t.bind key b).keys = if key ∈ t.keys then t.keys else t.keys ++ [key] := by
  rw [bind]
  cases hkey : t.get? key with
  | none =>
    rw [if_neg (get?_eq_none_iff.mp hkey), keys, List.map_append]
    rfl
  | some found =>
    have hsome : t.get? key ≠ none := by
      rw [hkey]
      exact Option.some_ne_none found
    rw [if_pos (not_imp_comm.mp get?_eq_none_iff.mpr hsome)]

theorem nodup_keys_bind (h : t.keys.Nodup) (key : String) (b : Binding) :
    (t.bind key b).keys.Nodup := by
  rw [keys_bind]
  split_ifs with hmem
  · exact h
  · exact h.append (List.nodup_singleton key) (List.disjoint_singleton.mpr hmem)

theorem bindRead_append (t : BindingTable) (ds es : List (String × Binding)) :
    t.bindRead (ds ++ es) = (t.bindRead ds).bindRead es :=
  List.foldl_append

theorem bindRead_singleton (t : BindingTable) (d : String × Binding) :
    t.bindRead [d] = t.bind d.1 d.2 := rfl

theorem nodup_keys_bindRead (h : t.keys.Nodup) (ds : List (String × Binding)) :
    (t.bindRead ds).keys.Nodup := by
  induction ds generalizing t with
  | nil => exact h
  | cons d ds ih => exact ih (nodup_keys_bind h d.1 d.2)

theorem eraseDups_concat (ks : List String) (k : String) :
    (ks ++ [k]).eraseDups = if k ∈ ks then ks.eraseDups else ks.eraseDups ++ [k] := by
  rw [List.eraseDups_append]
  split_ifs with h
  · have hnone : [k].removeAll ks = [] := by simpa [List.removeAll] using h
    rw [hnone, List.eraseDups_nil, List.append_nil]
  · have hself : [k].removeAll ks = [k] := by simpa [List.removeAll] using h
    rw [hself, List.eraseDups_cons, List.filter_nil, List.eraseDups_nil]

/-- **The keys stand in the order in which they first came.** -/
theorem keys_bindRead (ds : List (String × Binding)) :
    ((∅ : BindingTable).bindRead ds).keys = (ds.map Prod.fst).eraseDups := by
  -- The last parameter adds its key if no parameter in front of it has it, on either side.
  induction ds using List.reverseRecOn with
  | nil => rfl
  | append_singleton ds d ih =>
    rw [bindRead_append, bindRead_singleton, keys_bind, ih, List.map_append, List.map_singleton,
      eraseDups_concat]
    simp only [List.mem_eraseDups]

/-! ### Values -/

theorem prefix_bind (t : BindingTable) (key : String) (b : Binding) :
    t.entries <+: (t.bind key b).entries := by
  rw [bind]
  cases t.get? key with
  | none => exact List.prefix_append _ _
  | some found => exact List.prefix_rfl

/-- **More parameters only add entries at the end.** -/
theorem prefix_bindRead (t : BindingTable) (ds : List (String × Binding)) :
    t.entries <+: (t.bindRead ds).entries := by
  induction ds generalizing t with
  | nil => exact List.prefix_rfl
  | cons d ds ih => exact (t.prefix_bind d.1 d.2).trans (ih (t.bind d.1 d.2))

theorem get?_of_prefix (h : t.entries <+: t'.entries) (hkey : t.get? key = some b) :
    t'.get? key = some b := by
  obtain ⟨more, hmore⟩ := h
  rw [get?] at hkey
  rw [get?, ← hmore, List.lookup_append, hkey]
  rfl

/-- A key that was not bound is bound to what its first parameter amounts to there. -/
theorem get?_bindRead_of_first {before after : List (String × Binding)}
    (hfirst : key ∉ before.map Prod.fst) (d : Binding) :
    ((∅ : BindingTable).bindRead (before ++ (key, d) :: after)).get? key =
      some (((∅ : BindingTable).bindRead before).settle d) := by
  have hnone : ((∅ : BindingTable).bindRead before).get? key = none := by
    rw [get?_eq_none_iff, keys_bindRead, List.mem_eraseDups]
    exact hfirst
  have hbound : ((∅ : BindingTable).bindRead (before ++ [(key, d)])).get? key =
      some (((∅ : BindingTable).bindRead before).settle d) := by
    rw [bindRead_append, bindRead_singleton, get?_bind, hnone, if_pos rfl]
    rfl
  rw [List.append_cons, bindRead_append]
  exact get?_of_prefix (prefix_bindRead _ _) hbound

/-- **The table has what the keys stand for.** -/
theorem get?_bindRead_iff :
    ((∅ : BindingTable).bindRead ds).get? key = some b ↔ StandsFor ds key b := by
  constructor
  · intro h
    -- From the last parameter to the first, since a word looks at those in front of it.
    induction ds using List.reverseRecOn generalizing key b with
    | nil => cases h
    | append_singleton ds d ih =>
      obtain ⟨key', d⟩ := d
      rw [bindRead_append, bindRead_singleton, get?_bind, Option.or_eq_some_iff] at h
      obtain h | ⟨hnone, h⟩ := h
      · exact (ih h).append _
      · -- The last parameter is the first one for this key.
        split_ifs at h with hkey
        subst hkey
        obtain rfl := Option.some.inj h
        rw [get?_eq_none_iff, keys_bindRead, List.mem_eraseDups] at hnone
        cases d with
        | literal s => exact .literal hnone
        | bare word =>
          rw [settle]
          cases hword : ((∅ : BindingTable).bindRead ds).get? word with
          | some found => exact .known hnone (ih hword)
          | none =>
            rw [get?_eq_none_iff, keys_bindRead, List.mem_eraseDups] at hword
            exact .unknown hnone hword
  · intro h
    -- Along the words that are followed: each is looked up in the table as it was at that place.
    induction h with
    | literal hfirst => exact get?_bindRead_of_first hfirst _
    | known hfirst h ih => rw [get?_bindRead_of_first hfirst, settle, ih, Option.getD_some]
    | unknown hfirst hword =>
      rw [← List.mem_eraseDups, ← keys_bindRead, ← get?_eq_none_iff] at hword
      rw [get?_bindRead_of_first hfirst, settle, hword, Option.getD_none]

/-- **Parameters are bound from left to right, and the first one for a key counts.**

* They cannot be bound exactly if one of them cannot be read by itself, and the first such one gives
  the error.
* Otherwise the table has each key once, in the order in which they first came, with what the key
  stands for.
* What is bound by some parameters stays bound, in its place, when more of them follow. -/
theorem parse_first_counts :
    (∀ parameters e, parse parameters = .error e ↔ parameters.findSome? fault? = some e) ∧
    (∀ parameters, (∃ e, parse parameters = .error e) ↔ ∃ p ∈ parameters, (fault? p).isSome) ∧
    (∀ parameters (ds : List (String × Binding)), parameters.map parseParameter = ds.map .ok →
      ∃ t, parse parameters = .ok t ∧ t.keys = (ds.map Prod.fst).eraseDups ∧ t.keys.Nodup ∧
        ∀ key b, t.get? key = some b ↔ StandsFor ds key b) ∧
    ∀ ps qs t', parse (ps ++ qs) = .ok t' →
      ∃ t, parse ps = .ok t ∧ t.entries <+: t'.entries ∧
        ∀ key b, t.get? key = some b → t'.get? key = some b := by
  refine ⟨fun parameters e => bindAll_eq_error_iff, ?_, ?_, ?_⟩
  · intro parameters
    rw [← List.findSome?_isSome_iff, Option.isSome_iff_exists]
    exact exists_congr fun e => bindAll_eq_error_iff
  · intro parameters ds hread
    have hnodup : (∅ : BindingTable).keys.Nodup := List.nodup_nil
    exact ⟨(∅ : BindingTable).bindRead ds, bindAll_of_read hread, keys_bindRead ds,
      nodup_keys_bindRead hnodup ds, fun key b => get?_bindRead_iff⟩
  · intro ps qs t' h
    rw [parse, bindAll_append] at h
    obtain ⟨t, ht, hqs⟩ := Walk.bind_eq_ok_iff.mp h
    obtain ⟨ds, -, rfl⟩ := exists_read hqs
    have hprefix := prefix_bindRead t ds
    exact ⟨t, ht, hprefix, fun key b => get?_of_prefix hprefix⟩

/-- A text that is passed on twice, a second text for its key, a word that is bound only later, and one
that is its own key. -/
def chained : List String :=
  ["one='x'", "two=one", "three = two", "one=\"y\"", "four=five", "five='z'", "six=six"]

/-- What they are read as. -/
def chainedRead : List (String × Binding) :=
  [("one", .literal "x"), ("two", .bare "one"), ("three", .bare "two"), ("one", .literal "y"),
    ("four", .bare "five"), ("five", .literal "z"), ("six", .bare "six")]

theorem parse_chained : ∃ t t', parse (chained.take 3) = .ok t ∧ parse chained = .ok t' ∧
    t.entries <+: t'.entries ∧ t'.keys = ["one", "two", "three", "four", "five", "six"] ∧
    t'.get? "three" = some (.literal "x") ∧ t'.get? "four" = some (.bare "five") ∧
    t'.get? "six" = some (.bare "six") ∧
    parse ["one='x'", "one=", "two"] = .error (.missingValue "one=") := by
  obtain ⟨herror, -, hread, hmore⟩ := parse_first_counts
  obtain ⟨t', ht', hkeys, -, hget⟩ := hread chained chainedRead rfl
  obtain ⟨t, ht, hprefix, -⟩ := hmore (chained.take 3) (chained.drop 3) t' ht'
  have hone : StandsFor (chainedRead.take 1) "one" (.literal "x") :=
    @StandsFor.literal [] [] _ _ (by decide)
  have htwo : StandsFor (chainedRead.take 2) "two" (.literal "x") :=
    @StandsFor.known (chainedRead.take 1) [] _ _ _ (by decide) hone
  have hthree : StandsFor chainedRead "three" (.literal "x") :=
    @StandsFor.known (chainedRead.take 2) (chainedRead.drop 3) _ _ _ (by decide) htwo
  have hfour : StandsFor chainedRead "four" (.bare "five") :=
    @StandsFor.unknown (chainedRead.take 4) (chainedRead.drop 5) _ _ (by decide) (by decide)
  have hsix : StandsFor chainedRead "six" (.bare "six") :=
    @StandsFor.unknown (chainedRead.take 6) (chainedRead.drop 7) _ _ (by decide) (by decide)
  exact ⟨t, t', ht, ht', hprefix, hkeys, (hget _ _).mpr hthree, (hget _ _).mpr hfour,
    (hget _ _).mpr hsix, (herror _ _).mpr rfl⟩

end BindingTable

end Mustache
