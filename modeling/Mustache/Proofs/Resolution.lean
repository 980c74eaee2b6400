import Mathlib.Tactic.SplitIfs
import Mustache.Proofs.Run
import Mustache.Proofs.Selection
/-!
# What names stand for

Three names are answered by the stack itself, and any other one is looked up in the top frame. What
comes of it is said here as a relation, and the lookup is shown to follow it.

A stack need not have its frames to itself. Most of them are parts of the context document, and only
what has been computed belongs to the stack. An element of an array that is shared is read where it
stands, while it is taken out of a copy of an array that the stack has for itself, where the last
element comes to stand in its place. `Frames` tells these frames apart and looks names up in both ways.

* `Scopes.Answers frame selection result`: what a frame answers to a selection.
* `Scopes.Resolves s name result`: what a name stands for in a stack.
* `Frames.resolve`: the lookup in a stack that shares some of its frames.
* `resolve_shared_or_own`: both lookups give the one result that the relation allows, whatever is shared.
-/

namespace Mustache

/-! ### Lookups in a frame -/

/-- The value is an object that holds the field under the key. -/
def Value.HasField (v : Value) (key : String) (field : Value) : Prop :=
  ∃ fields, v = .object fields ∧ fields.lookup key = some field

theorem Value.get?_eq_some_iff {v field : Value} {key : String} :
    v.get? key = some field ↔ v.HasField key field := by
  cases v <;> simp [Value.get?, HasField]

/-- There is nothing under a key in what is no object, and in an object without the key. -/
theorem Value.get?_eq_none_iff {v : Value} {key : String} :
    v.get? key = none ↔ ∀ fields, v = .object fields → key ∉ fields.map Prod.fst := by
  cases v with
  | object fields =>
    simp only [Value.get?, List.lookup_eq_none_iff, Value.object.injEq, forall_eq', List.mem_map,
      bne_iff_ne, not_exists, not_and]
    exact forall₂_congr fun _ _ => ne_comm
  | _ => simp [Value.get?]

namespace Scopes

/-- What a frame answers to a selection. -/
inductive Answers (frame : Value) : Selection → Except RenderError Lookup → Prop where
  /-- The frame is no object, or it does not have the key. -/
  | missing {selection : Selection}
    (h : ∀ fields, frame = .object fields → selection.key ∉ fields.map Prod.fst) :
    Answers frame selection (.ok .missing)
  /-- The value under the key. -/
  | value {key : String} {v : Value} (h : frame.HasField key v) :
    Answers frame ⟨key, none⟩ (.ok (.found v))
  /-- The element at the position, of the array under the key. -/
  | element {key : String} {items : List Value} {index : Nat} {v : Value}
    (h : frame.HasField key (.array items)) (hitem : items[index]? = some v) :
    Answers frame ⟨key, some index⟩ (.ok (.found v))
  /-- The array under the key is not so long. -/
  | outOfRange {key : String} {items : List Value} {index : Nat}
    (h : frame.HasField key (.array items)) (hindex : items.length ≤ index) :
    Answers frame ⟨key, some index⟩ (.ok (.outOfRange index items.length))
  /-- The value under the key is no array. -/
  | notAnArray {key : String} {v : Value} {index : Nat} (h : frame.HasField key v)
    (harray : ∀ items, v ≠ .array items) :
    Answers frame ⟨key, some index⟩ (.error (.notAnArray key v.kind))

/-- The names that a stack answers itself. -/
def ownNames : List String := [indexName, firstName, wholeFrame]

/-- What a name stands for in a stack. -/
inductive Resolves (s : Scopes) : String → Except RenderError Lookup → Prop where
  /-- The position in the running iteration. -/
  | index : Resolves s indexName (.ok (.found (.number (.int s.index))))
  /-- Whether it is the first one. -/
  | first : Resolves s firstName (.ok (.found (.bool (decide (s.index = 0)))))
  /-- The top frame. -/
  | whole : Resolves s wholeFrame (.ok (.found s.top))
  /-- What the top frame answers to the selection that the name is read as. -/
  | selected {name : String} {selection : Selection} {result : Except RenderError Lookup}
    (hname : name ∉ ownNames) (hreads : Selection.Reads name (.ok selection))
    (hanswers : Answers s.top selection result) : Resolves s name result
  /-- A malformed name is not looked up. -/
  | malformed {name : String} {e : RenderError} (hname : name ∉ ownNames)
    (hreads : Selection.Reads name (.error e)) : Resolves s name (.error e)

variable {s : Scopes} {selection : Selection} {name : String} {result : Except RenderError Lookup}

theorem select_of_ne_array {key : String} {index : Nat} {v : Value} (h : ∀ items, v ≠ .array items) :
    select key index v = .error (.notAnArray key v.kind) := by
  cases v with
  | array items => exact absurd rfl (h items)
  | _ => rfl

theorem lookup_of_answers (h : Answers s.top selection result) : s.lookup selection = result := by
  cases h with
  | missing h => rw [lookup, Value.get?_eq_none_iff.mpr h]
  | value h => rw [lookup, Value.get?_eq_some_iff.mpr h]
  | element h hitem => simp only [lookup, Value.get?_eq_some_iff.mpr h, select, hitem]
  | outOfRange h hindex =>
    simp only [lookup, Value.get?_eq_some_iff.mpr h, select, List.getElem?_eq_none hindex]
  | notAnArray h harray =>
    simp only [lookup, Value.get?_eq_some_iff.mpr h, select_of_ne_array harray]

theorem exists_answers (frame : Value) (selection : Selection) :
    ∃ result, Answers frame selection result := by
  obtain ⟨key, index?⟩ := selection
  match hfield : frame.get? key, index? with
  | none, index? => exact ⟨_, .missing (Value.get?_eq_none_iff.mp hfield)⟩
  | some v, none => exact ⟨_, .value (Value.get?_eq_some_iff.mp hfield)⟩
  | some v, some index =>
    have hfield := Value.get?_eq_some_iff.mp hfield
    by_cases harray : ∃ items, v = .array items
    · obtain ⟨items, rfl⟩ := harray
      match hitem : items[index]? with
      | some v => exact ⟨_, .element hfield hitem⟩
      | none => exact ⟨_, .outOfRange hfield (List.getElem?_eq_none_iff.mp hitem)⟩
    · exact ⟨_, .notAnArray hfield (not_exists.mp harray)⟩

theorem resolve_of_not_mem (h : name ∉ ownNames) :
    s.resolve name = Selection.parse name >>= s.lookup := by
  simp only [ownNames, List.mem_cons, List.not_mem_nil, or_false, not_or] at h
  obtain ⟨hindex, hfirst, hwhole⟩ := h
  rw [resolve, if_neg hindex, if_neg hfirst, if_neg hwhole]

theorem resolve_of_resolves (h : s.Resolves name result) : s.resolve name = result := by
  cases h with
  | index => rfl
  | first => rfl
  | whole => rfl
  | selected hname hreads hanswers =>
    rw [resolve_of_not_mem hname, Selection.parse_of_reads hreads, ok_bind,
      lookup_of_answers hanswers]
  | malformed hname hreads =>
    rw [resolve_of_not_mem hname, Selection.parse_of_reads hreads, error_bind]

theorem exists_resolves (s : Scopes) (name : String) : ∃ result, s.Resolves name result := by
  by_cases hown : name ∈ ownNames
  · simp only [ownNames, List.mem_cons, List.not_mem_nil, or_false] at hown
    obtain rfl | rfl | rfl := hown
    · exact ⟨_, .index⟩
    · exact ⟨_, .first⟩
    · exact ⟨_, .whole⟩
  · obtain ⟨e | selection, hreads⟩ := Selection.exists_reads name
    · exact ⟨_, .malformed hown hreads⟩
    · obtain ⟨result, hanswers⟩ := exists_answers s.top selection
      exact ⟨result, .selected hown hreads hanswers⟩

/-- **A name stands for one thing.** -/
theorem resolve_eq_iff : s.resolve name = result ↔ s.Resolves name result := by
  constructor
  · rintro rfl
    obtain ⟨result, h⟩ := s.exists_resolves name
    rwa [resolve_of_resolves h]
  · exact resolve_of_resolves

end Scopes

/-! ### Frames that are shared -/

/-- A frame of a stack. -/
inductive Frame where
  /-- A part of the context document, which others share. -/
  | shared (v : Value)
  /-- A value that the stack has for itself. -/
  | own (v : Value)

/-- What a name stands for, and whether that is shared. -/
inductive SharedLookup where
  /-- The value. -/
  | found (frame : Frame)
  /-- The top frame has no such key. -/
  | missing
  /-- The key holds an array, and the index lies past its end. -/
  | outOfRange (index length : Nat)

/-- The frames of a render, each of them shared or not, and the position in the running iteration. -/
structure Frames where
  /-- The frame that names are looked up in. -/
  top : Frame
  /-- The frames below, the nearest first. -/
  below : List Frame
  /-- The position in the running iteration, counted from zero. -/
  index : Nat

/-- Takes an element out of an array. The last element comes to stand in its place. -/
def takeOut {α : Type} (items : Array α) (i : Nat) (h : i < items.size) : α × Array α :=
  let (item, rest) := items.swapAt i items[items.size - 1] h
  (item, rest.pop)

theorem fst_takeOut {α : Type} (items : Array α) (i : Nat) (h : i < items.size) :
    (takeOut items i h).1 = items[i] := rfl

namespace Frame

/-- The value, whoever has it. -/
def value : Frame → Value
  | shared v | own v => v

/-- The value under a key. That of a shared frame is shared, and of the others there is a copy. -/
def get? (frame : Frame) (key : String) : Option Frame :=
  match frame with
  | shared v => (v.get? key).map shared
  | own v => (v.get? key).map own

/-- The element that an index selects: one that stays where it is, or one that is taken out. -/
def select (key : String) (index : Nat) : Frame → Except RenderError SharedLookup
  | shared (.array items) =>
    match items[index]? with
    | some v => .ok (.found (shared v))
    | none => .ok (.outOfRange index items.length)
  | own (.array items) =>
    if h : index < items.toArray.size then .ok (.found (own (takeOut items.toArray index h).1))
    else .ok (.outOfRange index items.length)
  | frame => .error (.notAnArray key frame.value.kind)

end Frame

/-- What a name stands for, whoever has it. -/
def SharedLookup.values : SharedLookup → Lookup
  | found frame => .found frame.value
  | missing => .missing
  | outOfRange index length => .outOfRange index length

namespace Frames

/-- The stack of the values. -/
def values (s : Frames) : Scopes := ⟨s.top.value, s.below.map Frame.value, s.index⟩

/-- Looks a selection up in the top frame. -/
def lookup (s : Frames) (selection : Selection) : Except RenderError SharedLookup :=
  match s.top.get? selection.key, selection.index? with
  | none, _ => .ok .missing
  | some frame, none => .ok (.found frame)
  | some frame, some index => frame.select selection.key index

/-- What a name stands for. Whatever is not in a frame is computed, and is the stack's own. -/
def resolve (s : Frames) (name : String) : Except RenderError SharedLookup :=
  if name = indexName then .ok (.found (.own (.number (.int s.index))))
  else if name = firstName then .ok (.found (.own (.bool (s.index == 0))))
  else if name = wholeFrame then .ok (.found s.top)
  else do s.lookup (← Selection.parse name)

end Frames

/-! ### Sharing does not count -/

theorem Frame.map_value_get? (frame : Frame) (key : String) :
    (frame.get? key).map Frame.value = frame.value.get? key := by
  cases frame with
  | shared v | own v =>
    rw [get?, Option.map_map]
    exact Option.map_id' ..

/-- **The element is the same, whether it stays or is taken out.** -/
theorem Frame.map_values_select (frame : Frame) (key : String) (index : Nat) :
    SharedLookup.values <$> frame.select key index = Scopes.select key index frame.value := by
  cases frame with
  | shared v =>
    cases v with
    | array items =>
      simp only [select, Scopes.select, value]
      cases items[index]? <;> rfl
    | _ => rfl
  | own v =>
    cases v with
    | array items =>
      simp only [select, Scopes.select, value]
      by_cases h : index < items.toArray.size
      · have hitem : items[index]? = some (takeOut items.toArray index h).1 := by
          rw [fst_takeOut]
          exact List.getElem?_eq_getElem h
        rw [dif_pos h, hitem]
        rfl
      · rw [dif_neg h, List.getElem?_eq_none (Nat.le_of_not_lt h)]
        rfl
    | _ => rfl

theorem Frames.map_values_lookup (s : Frames) (selection : Selection) :
    SharedLookup.values <$> s.lookup selection = s.values.lookup selection := by
  have hget := s.top.map_value_get? selection.key
  rw [lookup, Scopes.lookup, show s.values.top = s.top.value from rfl, ← hget]
  match s.top.get? selection.key, selection.index? with
  | none, _ => rfl
  | some frame, none => rfl
  | some frame, some index => exact frame.map_values_select selection.key index

theorem Frames.map_values_resolve (s : Frames) (name : String) :
    SharedLookup.values <$> s.resolve name = s.values.resolve name := by
  rw [resolve, Scopes.resolve]
  split_ifs with hindex hfirst hwhole
  · rfl
  · rfl
  · rfl
  · cases Selection.parse name with
    | error e => rfl
    | ok selection => exact s.map_values_lookup selection

/-- **What a name stands for**, in every stack: the one thing that the relation says, and the same,
whoever has the frames. -/
theorem resolve_shared_or_own (name : String) :
    (∀ (s : Scopes) (result : Except RenderError Lookup),
      s.resolve name = result ↔ s.Resolves name result) ∧
    ∀ s : Frames, SharedLookup.values <$> s.resolve name = s.values.resolve name :=
  ⟨fun _ _ => Scopes.resolve_eq_iff, fun s => s.map_values_resolve name⟩

end Mustache
