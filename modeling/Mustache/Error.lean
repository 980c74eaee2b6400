import Mustache.Json.Fault
import Mustache.Load
import Mustache.Token
import Mustache.Value
/-!
# What can go wrong in a render

Every cause that stops a render is a constructor of `RenderError`. `RenderError.message` puts it into
words and `RenderError.kind` sorts the causes into a few broad classes.
-/

namespace Mustache

/-- The broad classes of causes. -/
inductive ErrorKind where
  /-- A marker is missing, unexpected or does not match. -/
  | markup
  /-- A name holds a character that is not allowed. -/
  | identifier
  /-- The variable that should name a partial is missing or holds no text. -/
  | valueType
  /-- A parameter of a partial is malformed. -/
  | substitution
  /-- A template or document cannot be loaded. -/
  | resource
  /-- The selection of an array element is malformed. -/
  | context
  /-- Partials include one another too deeply. -/
  | depth
  /-- The context document is not JSON. -/
  | json
deriving DecidableEq, Repr

/-- Why a render stops. -/
inductive RenderError where
  /-- The marker should come next and does not. -/
  | missing (m : Marker)
  /-- The marker closes nothing. -/
  | unexpected (m : Marker)
  /-- The template ends inside a tag. -/
  | endOfTemplate
  /-- Another marker stands where the name of a tag should. -/
  | missingName (m : Marker)
  /-- A section is closed under another name. -/
  | mismatchedClose (expected found : String)
  /-- The character at a byte offset of the name is not allowed. -/
  | badCharacter (name : String) (c : Char) (offset : Nat)
  /-- The variable that should name a partial is missing or null. -/
  | missingPartialVariable (name : String)
  /-- The variable that should name a partial is of another kind than text. -/
  | wrongPartialVariable (name : String) (kind : Value.Kind)
  /-- No single equals sign separates a key from its value. -/
  | missingSeparator (parameter : String)
  /-- A parameter has no key. -/
  | missingKey (parameter : String)
  /-- A parameter has no value. -/
  | missingValue (parameter : String)
  /-- A quoted value has no closing quote. -/
  | unclosedLiteral (value : String)
  /-- A template or document cannot be loaded. -/
  | load (e : LoadError)
  /-- No closing bracket ends an index. -/
  | missingBracket (name : String)
  /-- Nothing stands between the brackets. -/
  | emptyIndex (name : String)
  /-- What stands between the brackets is no index. -/
  | invalidIndex (name index : String)
  /-- Something follows the closing bracket. -/
  | trailingIndex (name : String)
  /-- The value to take an element of is no array. -/
  | notAnArray (name : String) (kind : Value.Kind)
  /-- Partials include one another too deeply. -/
  | tooDeep (name : String) (limit : Nat)
  /-- The context document is not JSON. -/
  | json (e : Json.Error)
deriving DecidableEq, Repr

namespace RenderError

/-- The cause in words. -/
def message : RenderError → String
  | missing m => s!"Missing {m.symbol}"
  | unexpected m => s!"Unexpected {m.symbol}"
  | endOfTemplate => "Unexpected end of template"
  | missingName m => s!"Missing tag name after {m.symbol}"
  | mismatchedClose expected found =>
    s!"Expected '{expected}' in closing block (found '{found}')"
  | badCharacter name c offset => s!"Invalid identifier '{name}': bad char '{c}' at index {offset}"
  | missingPartialVariable name => s!"Missing template variable: {name}"
  | wrongPartialVariable name _ => s!"Wrong template variable type: {name} must be a string"
  | missingSeparator parameter => s!"Bad substitution string: missing separator in {parameter}"
  | missingKey parameter => s!"Bad substitution string: missing key in {parameter}"
  | missingValue parameter => s!"Bad substitution string: missing value in {parameter}"
  | unclosedLiteral value => s!"Substitution string {value} not properly closed"
  | load e => e.message
  | missingBracket name => s!"Missing ] in array selection: {name}"
  | emptyIndex name => s!"Index is empty: {name}"
  | invalidIndex name index => s!"Invalid array index '{index}' in {name}"
  | trailingIndex name => s!"Unexpected characters after ] in {name}"
  | notAnArray name kind =>
    s!"Variable '{name}' must be an array to be indexed (found {kind.name})"
  | tooDeep name limit => s!"Partial '{name}' exceeds maximum inclusion depth of {limit}"
  | json e => s!"Invalid context JSON: {e.message}"

/-- The class of the cause. -/
def kind : RenderError → ErrorKind
  | missing _ | unexpected _ | endOfTemplate | missingName _ | mismatchedClose _ _ => .markup
  | badCharacter _ _ _ => .identifier
  | missingPartialVariable _ | wrongPartialVariable _ _ => .valueType
  | missingSeparator _ | missingKey _ | missingValue _ | unclosedLiteral _ => .substitution
  | load _ => .resource
  | missingBracket _ | emptyIndex _ | invalidIndex _ _ | trailingIndex _ | notAnArray _ _ => .context
  | tooDeep _ _ => .depth
  | json _ => .json

end RenderError

/-- A render that stopped at its first error. -/
structure RenderFailure where
  /-- What had been written before. -/
  output : String
  /-- Why it stopped. -/
  error : RenderError
deriving DecidableEq, Repr

/-- A failure before anything was written. -/
def RenderFailure.early (error : RenderError) : RenderFailure :=
  ⟨"", error⟩

end Mustache
