/-!
# Context values

What a template is rendered against is a tree of values. This file holds the type and what a template
asks of a value: its kind, whether a section over it is hidden, and the value under a key.

Fields keep the order in which their keys first came. Giving a key again changes its value and not
its place (`map_fst_setField_of_mem`), a new key goes to the end (`map_fst_setField_of_not_mem`).
-/

namespace Mustache

/-- A number. Integers keep every digit; all other numbers are binary floating point. -/
inductive Number where
  /-- An integer. -/
  | int (n : Int)
  /-- A floating point number of 64 bits. -/
  | float (x : Float)

/-- Whether the number equals zero, of either sign. -/
def Number.isZero : Number → Bool
  | int n => n == 0
  | float x => x == 0.0

/-- A node of the tree that a template is rendered against. -/
inductive Value where
  /-- The absent value. -/
  | null
  /-- A truth value. -/
  | bool (b : Bool)
  /-- A number. -/
  | number (n : Number)
  /-- A text. -/
  | string (s : String)
  /-- A list of values. -/
  | array (items : List Value)
  /-- Values under keys, in the order in which the keys first came. -/
  | object (fields : List (String × Value))

instance : Inhabited Value := ⟨.null⟩

namespace Value

/-- The kind of a value. -/
inductive Kind where
  /-- The kind of `Value.null`. -/
  | null
  /-- The kind of `Value.bool`. -/
  | boolean
  /-- The kind of `Value.number`. -/
  | number
  /-- The kind of `Value.string`. -/
  | string
  /-- The kind of `Value.array`. -/
  | array
  /-- The kind of `Value.object`. -/
  | object
deriving DecidableEq, Repr

/-- The word for a kind. -/
def Kind.name : Kind → String
  | null => "null"
  | boolean => "boolean"
  | number => "number"
  | string => "string"
  | array => "array"
  | object => "object"

/-- The kind of the value. -/
def kind : Value → Kind
  | null => .null
  | bool _ => .boolean
  | number _ => .number
  | string _ => .string
  | array _ => .array
  | object _ => .object

/-- Whether a section over the value is hidden: null, false, zero, and whatever is empty. -/
def isFalsy : Value → Bool
  | null => true
  | bool b => !b
  | number n => n.isZero
  | string s => s.isEmpty
  | array items => items.isEmpty
  | object fields => fields.isEmpty

/-- The value under a key. Only objects have keys. -/
def get? (v : Value) (key : String) : Option Value :=
  match v with
  | object fields => fields.lookup key
  | _ => none

/-- The fields with `value` under `key`. -/
def setField (key : String) (value : Value) : List (String × Value) → List (String × Value)
  | [] => [(key, value)]
  | (k, v) :: fields =>
    if k = key then (key, value) :: fields else (k, v) :: setField key value fields

theorem map_fst_setField_of_mem {key : String} {fields : List (String × Value)} (value : Value)
    (h : key ∈ fields.map Prod.fst) :
    (setField key value fields).map Prod.fst = fields.map Prod.fst := by
  induction fields with
  | nil => simp at h
  | cons f fields ih =>
    simp only [setField]
    split
    · rename_i hk
      simp [hk]
    · rename_i hk
      have hne : key ≠ f.1 := fun e => hk e.symm
      simp only [List.map_cons, List.mem_cons, hne, false_or] at h
      simp [ih h]

theorem map_fst_setField_of_not_mem {key : String} {fields : List (String × Value)} (value : Value)
    (h : key ∉ fields.map Prod.fst) :
    (setField key value fields).map Prod.fst = fields.map Prod.fst ++ [key] := by
  induction fields with
  | nil => rfl
  | cons f fields ih =>
    simp only [List.map_cons, List.mem_cons, not_or] at h
    have hk : f.1 ≠ key := fun e => h.1 e.symm
    simp [setField, hk, ih h.2]

theorem lookup_setField_self (key : String) (value : Value) (fields : List (String × Value)) :
    (setField key value fields).lookup key = some value := by
  induction fields with
  | nil => simp [setField]
  | cons f fields ih =>
    obtain ⟨k, v⟩ := f
    simp only [setField]
    split
    · simp
    · rename_i hk
      have : (key == k) = false := by simpa using fun e => hk e.symm
      simp [List.lookup_cons, this, ih]

end Value

end Mustache
