import Mustache.Load
import Mustache.Options
import Mustache.Text.Blank
import Mustache.Yaml.Node.Reader
import Mustache.Yaml.Scalar
/-!
# Options from a file

Options are written as a YAML mapping. Fields that are not known are passed over, and what is not given
keeps its default; so a text without a document gives the default options, and so does a document in
which nothing is written.
-/

namespace Mustache

/-- Why options cannot be loaded. -/
inductive OptionsError where
  /-- The file cannot be read. -/
  | unreadable (path : String) (cause : ReadError)
  /-- The file does not give options. -/
  | malformed (path : String) (fault : Yaml.DocumentFault)
deriving DecidableEq, Repr

/-- What stands behind the error, in words. -/
def OptionsError.cause : OptionsError → String
  | unreadable _ cause => cause.message
  | malformed _ fault => fault.message

/-- The error in words. -/
def OptionsError.message : OptionsError → String
  | unreadable path cause => s!"I/O error at {path}: {cause.message}"
  | malformed path fault => s!"failed to parse config at {path}: {fault.message}"

namespace Options

/-- The number that a node gives: an unsigned number of 64 bits without quotes, or in a block whose
tag says that it is an integer. -/
def depthOf (node : Yaml.Node) : Except Yaml.Fault Nat :=
  let number? := match node with
    | .scalar _ _ .plain s => Yaml.unsigned? s
    | .scalar _ tag? .literal s => if tag? = some (Yaml.coreTag "int") then Yaml.unsigned? s else none
    | _ => none
  match number?.filter (· < Text.wordLimit) with
  | some n => .ok n
  | none => .error (node.mismatch "usize")

/-- The fields of options that are given so far. -/
structure Fields where
  /-- The extension of templates and partials. -/
  partialExtension? : Option String := none
  /-- The extension of context documents. -/
  contextExtension? : Option String := none
  /-- The greatest number of partials in a chain. -/
  maxPartialDepth? : Option Nat := none
deriving DecidableEq, Repr

/-- The options that the fields give. -/
def Fields.toOptions (fields : Fields) : Options :=
  let default : Options := {}
  { partialExtension := fields.partialExtension?.getD default.partialExtension
    contextExtension := fields.contextExtension?.getD default.contextExtension
    maxPartialDepth := fields.maxPartialDepth?.getD default.maxPartialDepth }

/-- Reads the value of a field that must not have been given before. -/
def readField {α : Type} (name : String) (place : Yaml.Place) (step : Yaml.Step) (given? : Option α)
    (value : Except Yaml.Fault α) : Except Yaml.DocumentFault (Option α) :=
  match given? with
  | some _ => .error ⟨[], .repeatedField name, place⟩
  | none => Yaml.withSteps [step] (value.map some)

/-- Adds an entry of the mapping at a place. -/
def Fields.add (document : Yaml.Document) (place : Yaml.Place) (fields : Fields)
    (entry : Yaml.Node × Yaml.Node) : Except Yaml.DocumentFault Fields := do
  let step := entry.1.step
  let name ← Yaml.withSteps [] ((document.resolve entry.1).text "field identifier")
  let node := document.resolve entry.2
  match name with
  | "partial_extension" =>
    let given? := fields.partialExtension?
    let partialExtension? ← readField name place step given? (node.text "a string")
    return { fields with partialExtension? }
  | "context_extension" =>
    let given? := fields.contextExtension?
    let contextExtension? ← readField name place step given? (node.text "a string")
    return { fields with contextExtension? }
  | "max_partial_depth" =>
    let given? := fields.maxPartialDepth?
    let maxPartialDepth? ← readField name place step given? (depthOf node)
    return { fields with maxPartialDepth? }
  | _ => return fields

/-- The options that a document gives. -/
def ofDocument (document : Yaml.Document) : Except Yaml.DocumentFault Options :=
  match document.root with
  | .mapping place _ entries => do
    return (← entries.foldlM (Fields.add document place) {}).toOptions
  | .scalar _ _ .plain "" => .ok {}
  | node => .error ⟨[], node.mismatch "struct RenderOptions"⟩

/-- Reads options from a text. -/
def parse (text : String) : Except Yaml.DocumentFault Options := do
  if (Text.trim text).isEmpty then return {}
  match ← Yaml.withSteps [] (Yaml.document? text) with
  | none => return {}
  | some document => ofDocument document

/-- Loads options from the file at a path. -/
def load (files : Files) (path : String) : Except OptionsError Options := do
  let text ← (files.readText path).mapError (.unreadable path)
  (parse text).mapError (.malformed path)

end Options

end Mustache
