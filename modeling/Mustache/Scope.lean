import Mustache.Error
import Mustache.Name
import Mustache.Text.Digit
/-!
# Frames and names

A render looks names up in a stack of frames. Only the top frame is asked: a name that it does not
hold is missing, whatever the frames below hold. The bottom frame is the context document and is never
taken off, which is why a stack is a top frame with a list below it.

A name is a key, or a key with the index of an array element in brackets. Three names are answered
without a key: the position in the running iteration, whether that position is the first, and the
whole frame.

* `Selection.parse` tells the two forms of a name apart.
* `Scopes.resolve` answers a name.
-/

namespace Mustache

/-- The name of the position in the running iteration. -/
def indexName : String := "@index"

/-- The name of the test for the first position. -/
def firstName : String := "@first"

/-- A key, and the array element to take of its value if there is an index. -/
structure Selection where
  /-- The key. -/
  key : String
  /-- The position of the element. -/
  index? : Option Nat
deriving DecidableEq, Repr

/-- Reads an index: digits, with a plus sign before them or not, of a value that fits 64 bits. -/
def parseIndex? (text : List Char) : Option Nat :=
  (Text.unsigned? text).filter (· < Text.wordLimit)

/-- Reads a name as a key with or without an index. The index ends at the first closing bracket, and
nothing may follow it. -/
def Selection.parse (name : String) : Except RenderError Selection :=
  let text := name.toList
  match text.dropWhile (· != '[') with
  | [] => .ok ⟨name, none⟩
  | _ :: inner =>
    let digits := inner.takeWhile (· != ']')
    match inner.dropWhile (· != ']') with
    | [] => .error (.missingBracket name)
    | _ :: trailing =>
      if digits.isEmpty then .error (.emptyIndex name)
      else if !trailing.isEmpty then .error (.trailingIndex name)
      else
        match parseIndex? digits with
        | none => .error (.invalidIndex name (String.ofList digits))
        | some i => .ok ⟨String.ofList (text.takeWhile (· != '[')), some i⟩

/-- What a name stands for. -/
inductive Lookup where
  /-- The value. -/
  | found (v : Value)
  /-- The top frame has no such key. -/
  | missing
  /-- The key holds an array, and the index lies past its end. -/
  | outOfRange (index length : Nat)

namespace Lookup

/-- Whether there is a value. -/
def isFound : Lookup → Bool
  | found _ => true
  | _ => false

/-- The value, if there is one. -/
def value? : Lookup → Option Value
  | found v => some v
  | _ => none

/-- The value, or null. -/
def valueOrNull : Lookup → Value
  | found v => v
  | _ => .null

end Lookup

/-- The frames of a render, and the position in the running iteration. -/
structure Scopes where
  /-- The frame that names are looked up in. -/
  top : Value
  /-- The frames below, the nearest first; the last one of all is the context document. -/
  below : List Value
  /-- The position in the running iteration, counted from zero. -/
  index : Nat

namespace Scopes

/-- The context document as the only frame. -/
def ofRoot (root : Value) : Scopes := ⟨root, [], 0⟩

/-- All frames, the top one first. -/
def frames (s : Scopes) : List Value := s.top :: s.below

/-- The number of frames. -/
def depth (s : Scopes) : Nat := s.frames.length

/-- Puts a frame on top. -/
def push (s : Scopes) (frame : Value) : Scopes := ⟨frame, s.frames, s.index⟩

/-- The top frame and the stack without it, if it is not the only one. -/
def pop? (s : Scopes) : Option (Value × Scopes) :=
  match s.below with
  | [] => none
  | frame :: below => some (s.top, ⟨frame, below, s.index⟩)

/-- The stack without its top frame. The only frame stays. -/
def drop (s : Scopes) : Scopes :=
  match s.pop? with
  | some (_, rest) => rest
  | none => s

/-- The stack at another position of the running iteration. -/
def setIndex (s : Scopes) (index : Nat) : Scopes := { s with index }

/-- The element of a value that an index selects. -/
def select (key : String) (index : Nat) : Value → Except RenderError Lookup
  | .array items =>
    match items[index]? with
    | some v => .ok (.found v)
    | none => .ok (.outOfRange index items.length)
  | v => .error (.notAnArray key v.kind)

/-- Looks a selection up in the top frame. -/
def lookup (s : Scopes) (selection : Selection) : Except RenderError Lookup :=
  match s.top.get? selection.key, selection.index? with
  | none, _ => .ok .missing
  | some v, none => .ok (.found v)
  | some v, some index => select selection.key index v

/-- What a name stands for. -/
def resolve (s : Scopes) (name : String) : Except RenderError Lookup :=
  if name = indexName then .ok (.found (.number (.int s.index)))
  else if name = firstName then .ok (.found (.bool (s.index == 0)))
  else if name = wholeFrame then .ok (.found s.top)
  else do s.lookup (← Selection.parse name)

@[simp] theorem frames_ofRoot (root : Value) : (ofRoot root).frames = [root] := rfl

@[simp] theorem frames_push (s : Scopes) (frame : Value) :
    (s.push frame).frames = frame :: s.frames := rfl

@[simp] theorem index_push (s : Scopes) (frame : Value) : (s.push frame).index = s.index := rfl

@[simp] theorem pop?_push (s : Scopes) (frame : Value) : (s.push frame).pop? = some (frame, s) := rfl

@[simp] theorem drop_push (s : Scopes) (frame : Value) : (s.push frame).drop = s := rfl

@[simp] theorem frames_setIndex (s : Scopes) (index : Nat) :
    (s.setIndex index).frames = s.frames := rfl

theorem pop?_eq_none_iff (s : Scopes) : s.pop? = none ↔ s.depth = 1 := by
  obtain ⟨top, below, index⟩ := s
  cases below <;> simp [pop?, depth, frames]

end Scopes

end Mustache
