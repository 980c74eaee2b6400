import Mustache.Command
import Mustache.Error
import Mustache.Options.Reader
/-!
# Why a command fails

Every cause is a constructor of `CommandError`. `CommandError.message` puts it into words: what the
command could not do, and behind colons what stands behind that.
-/

namespace Mustache

/-- What stands behind the error of a render, in words, if anything does. -/
def RenderError.cause? : RenderError → Option String
  | load e => e.cause?
  | json e => some e.message
  | _ => none

/-- Why a command fails. -/
inductive CommandError where
  /-- No runs are asked for. -/
  | noRuns
  /-- The options cannot be loaded. -/
  | options (path : String) (cause : OptionsError)
  /-- The view cannot be loaded. -/
  | view (name : String) (cause : LoadError)
  /-- The context document cannot be loaded. -/
  | context (name : String) (cause : LoadError)
  /-- The context document is not JSON. -/
  | contextSyntax (name : String) (cause : Json.Error)
  /-- The file of the context cannot be read. -/
  | contextFile (path : String) (cause : ReadError)
  /-- The file of the context is not JSON. -/
  | contextFileJson (path : String) (cause : Json.Error)
  /-- The file of the context is not YAML. -/
  | contextFileYaml (path : String) (cause : Yaml.DocumentFault)
  /-- The render fails. -/
  | render (target : View) (cause : RenderError)
  /-- A render that is measured fails. What stands behind its error is not told. -/
  | measuredRender (name : String) (cause : RenderError)
deriving DecidableEq, Repr

/-- The view in words. -/
def View.label : View → String
  | named name => s!"'{name}'"
  | inline _ => "inline template"

namespace CommandError

/-- What failed, what stands behind it, and so on, each in words. -/
def chain : CommandError → List String
  | noRuns => ["--runs must be at least 1"]
  | options path cause => [s!"failed to load config '{path}'", cause.message, cause.cause]
  | view name cause => s!"failed to load view '{name}'" :: cause.message :: cause.cause?.toList
  | context name cause =>
    s!"failed to load context '{name}'" :: cause.message :: cause.cause?.toList
  | contextSyntax name cause => [s!"failed to parse context '{name}'", cause.message]
  | contextFile path cause => [s!"failed to read context '{path}'", cause.message]
  | contextFileJson path cause => [s!"failed to parse JSON context '{path}'", cause.message]
  | contextFileYaml path cause => [s!"failed to parse YAML context '{path}'", cause.message]
  | render target cause =>
    s!"failed to render {target.label}" :: cause.message :: cause.cause?.toList
  | measuredRender name cause => [s!"failed to render {(View.named name).label}", cause.message]

/-- The error in words. -/
def message (e : CommandError) : String :=
  ": ".intercalate e.chain

/-- Why the file behind the error cannot be read, with its path. -/
def readError? : CommandError → Option (String × ReadError)
  | options _ (.unreadable path cause) => some (path, cause)
  | view _ cause | context _ cause | render _ (.load cause) | measuredRender _ (.load cause) =>
    cause.readError?
  | contextFile path cause => some (path, cause)
  | _ => none

end CommandError

end Mustache
