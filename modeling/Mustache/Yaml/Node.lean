import Mustache.Yaml.Lexeme
/-!
# Nodes of a YAML document

The root of a document is a tree of texts, lists and mappings. Some of its nodes are numbered, and an
alias is a `reference` to the node of a number. It may stand before that node or inside it: the numbers
are only looked up in the whole document. A reference itself has no number, so one look leads to a
text, list or mapping.
-/

namespace Mustache.Yaml

/-- A node of a document. -/
inductive Node where
  /-- A text. -/
  | scalar (place : Place) (tag? : Option Tag) (style : Style) (text : String)
  /-- A list of nodes. -/
  | list (place : Place) (tag? : Option Tag) (items : List Node)
  /-- Nodes under nodes. -/
  | mapping (place : Place) (tag? : Option Tag) (entries : List (Node × Node))
  /-- The node with a number. -/
  | reference (place : Place) (number : Nat)

namespace Node

instance : Inhabited Node := ⟨.reference .start 0⟩

/-- The node that stands where nothing is written. -/
def empty (place : Place) (tag? : Option Tag) : Node :=
  .scalar place tag? .plain ""

/-- Where the node starts. -/
def place : Node → Place
  | scalar place .. | list place .. | mapping place .. | reference place _ => place

/-- The tag of the node. -/
def tag? : Node → Option Tag
  | scalar _ tag? .. | list _ tag? _ | mapping _ tag? _ => tag?
  | reference .. => none

/-- The step to the value of a key as it is written; only a text is written out. -/
def step : Node → Step
  | scalar _ _ _ text => .field text
  | _ => .field "?"

mutual

/-- How many marks it takes to write the node down: one for a text or reference, one at either end of a
list or mapping. -/
def size : Node → Nat
  | scalar .. | reference .. => 1
  | list _ _ items => 2 + sizeItems items
  | mapping _ _ entries => 2 + sizeEntries entries

/-- The marks of the items of a list. -/
def sizeItems : List Node → Nat
  | [] => 0
  | item :: items => item.size + sizeItems items

/-- The marks of the entries of a mapping. -/
def sizeEntries : List (Node × Node) → Nat
  | [] => 0
  | (key, value) :: entries => key.size + value.size + sizeEntries entries

end

end Node

/-- A document. -/
structure Document where
  /-- The node that holds all others. -/
  root : Node
  /-- The nodes with numbers. Where a number is given again, the one that starts last comes first. -/
  numbered : List (Nat × Node)

namespace Document

/-- The node that a reference stands for; any other node stands for itself. -/
def resolve (d : Document) : Node → Node
  | .reference place number => (d.numbered.lookup number).getD (.reference place number)
  | node => node

@[simp] theorem resolve_scalar (d : Document) (place : Place) (tag? : Option Tag) (style : Style)
    (text : String) : d.resolve (.scalar place tag? style text) = .scalar place tag? style text :=
  rfl

/-- The latest node of a number counts. -/
theorem resolve_reference_cons (root node : Node) (numbered : List (Nat × Node)) (place : Place)
    (number : Nat) :
    (Document.mk root ((number, node) :: numbered)).resolve (.reference place number) = node := by
  simp [resolve]

end Document

end Mustache.Yaml
