import Mustache.Value
import Mustache.Yaml.Node.Reader
import Mustache.Yaml.Scalar
/-!
# Values from YAML

A list becomes an array and a mapping an object; a later entry of the same key takes the place of an
earlier one. A tag of one's own has no meaning here and is refused. Numbers that are not finite become
null, and so does a text without a document.

An alias gives the value of the node that it stands for. A small text could get very large this way, so
only so many aliases are followed; what contains itself is nested too deeply.
-/

namespace Mustache.Yaml

/-- How many lists and mappings may stand around one another. -/
def maxDepth : Nat := 128

/-- How many aliases are followed in a document. -/
def Document.maxAliases (d : Document) : Nat := 100 * d.root.size

/-- Reading that follows aliases; the state counts how many more may be followed. -/
abbrev Following := StateT Nat (Except DocumentFault)

/-- The node that a node stands for. -/
def Document.follow (d : Document) : Node → Following Node
  | .reference place number => do
    match ← get with
    | 0 => throw ⟨[], .tooManyAliases, .start⟩
    | left + 1 =>
      set left
      return d.resolve (.reference place number)
  | node => return node

/-- The number that stands for an integer. -/
def numberOfInt (n : Int) : Except Problem Number :=
  if Int64.minValue.toInt ≤ n ∧ n < Text.wordLimit then .ok (.int n) else .error .numberOutOfRange

/-- The value that a text stands for. -/
def Meaning.toValue (s : String) : Meaning → Except Problem Value
  | .null => .ok .null
  | .bool b => .ok (.bool b)
  | .int n => (numberOfInt n).map .number
  | .float x => .ok (if x.isFinite then .number (.float x) else .null)
  | .text => .ok (.string s)

/-- Refuses a tag of one's own; one that is no text is passed over. -/
def Node.checkTag (node : Node) : Except Problem Unit :=
  if node.tag?.any fun tag => isOwnTag tag && tag.isText then .error (.wrongType "enum" "any valid JSON value") else .ok ()

/-- The value of a node, which some steps lead to. `depth` is how many more lists and mappings may
stand around one another. -/
def Document.valueAt (d : Document) (depth : Nat) (steps : List Step) (node : Node) :
    Following Value := do
  let node ← d.follow node
  let located {α : Type} (result : Except Problem α) : Except DocumentFault α :=
    withSteps steps (result.mapError (⟨·, node.place⟩))
  located node.checkTag
  match node, depth with
  | .scalar _ tag? style s, _ => located do (← meaning tag? style s).toValue s
  | .list place .., 0 | .mapping place .., 0 => throw ⟨[], .tooDeep, place⟩
  | .list _ _ items, depth + 1 =>
    return .array (← items.zipIdx.mapM fun (item, i) => d.valueAt depth (.item i :: steps) item)
  | .mapping _ _ entries, depth + 1 =>
    return .object (← entries.foldlM (fun fields (key, node) => do
      let expected := if fields.isEmpty then "a string key" else "a string"
      let name ← withSteps steps ((← d.follow key).text expected)
      let value ← d.valueAt depth (key.step :: steps) node
      return Value.setField name value fields) [])
  | .reference .., _ => located (.error .unknownAnchor)

/-- The value of a document. -/
def Document.value (d : Document) : Except DocumentFault Value :=
  (d.valueAt maxDepth [] d.root).run' d.maxAliases

/-- Reads a text as one value. -/
def parse (s : String) : Except DocumentFault Value := do
  match ← withSteps [] (document? s) with
  | some document => document.value
  | none => return .null

end Mustache.Yaml
