import Mustache.Command.Arguments
import Mustache.Command.Failure
import Mustache.Render
import Mustache.Text.Shown
import Mustache.Text.Table
import Mustache.Yaml.Value
/-!
# Running a command

What a command does depends on the files that it can read, and on nothing else: `Command.run` gives
its outcome for any `Files`. The outcome leaves open how long a render took; whoever measures that
supplies it when the outcome is written.

The options are loaded first. With a context in a file, that file is read before the view; otherwise
the view is loaded first.
-/

namespace Mustache

/-- What a command that succeeded tells. -/
inductive Report where
  /-- A text. -/
  | text (s : String)
  /-- How long a render of a view took, in the mean over a number of runs, and how many bytes it
  wrote. -/
  | timing (runs : Nat) (view : String) (bytes : Nat)
deriving DecidableEq, Repr

/-- The report as it is written, given the mean time of a render in microseconds. -/
def Report.write (time : String) : Report → String
  | text s => s
  | timing runs view bytes => s!"{runs} runs of '{view}' ({bytes} bytes): {time} µs/render\n"

/-- What becomes of a command. -/
inductive Outcome where
  /-- It succeeds. -/
  | success (report : Report)
  /-- It fails after some output. -/
  | failure (output : String) (error : CommandError)
  /-- Its arguments are refused. -/
  | refusal
deriving DecidableEq, Repr

namespace Outcome

/-- What is written, given the mean time of a render in microseconds. -/
def output (time : String) : Outcome → String
  | success report => report.write time
  | failure output _ => output
  | refusal => ""

/-- What is written about an error. -/
def message? : Outcome → Option String
  | failure _ error => some s!"error: {error.message}\n"
  | success _ | refusal => none

/-- The exit code. -/
def exitCode : Outcome → Nat
  | success _ => 0
  | failure .. => 1
  | refusal => 2

/-- The outcome of what fails before any output. -/
def ofExcept : Except CommandError Report → Outcome
  | .ok report => .success report
  | .error error => .failure "" error

end Outcome

namespace Source

/-- The options that a source gives. -/
def options (files : Files) (s : Source) : Except CommandError Options := do
  let options ← match s.config? with
    | some path => (Options.load files path).mapError (.options path)
    | none => pure {}
  return { options with
    partialExtension := s.extension?.getD options.partialExtension }

/-- The renderer for a source. -/
def renderer (files : Files) (s : Source) : Except CommandError Renderer := do
  return ⟨Loader.ofDirectory files s.base, ← s.options files⟩

end Source

/-- The template of a view. -/
def View.template (r : Renderer) : View → Except CommandError String
  | inline text => .ok text
  | named name => (r.loader name r.options.partialExtension).mapError (.view name)

/-- The extension of the last segment of a path: what follows its last dot, unless nothing else
stands before that dot. -/
def extension? (path : String) : Option String :=
  let name := (path.toList.reverse.takeWhile (· != '/'))
  let extension := name.takeWhile (· != '.')
  if name.length ≤ extension.length + 1 then none
  else some (String.ofList extension.reverse)

/-- Whether the file at a path holds YAML, by its extension. -/
def isYaml (path : String) : Bool :=
  extension? path == some "yaml" || extension? path == some "yml"

/-- The context in the file at a path: YAML or JSON. -/
def readContext (files : Files) (path : String) : Except CommandError Value := do
  let text ← (files.readText path).mapError (.contextFile path)
  if isYaml path then (Yaml.parse text).mapError (.contextFileYaml path)
  else (Json.parse text).mapError (.contextFileJson path)

/-- The object without fields. -/
def Value.emptyObject : Value := .object []

namespace Command

/-- What a render gives, with the label of the view on its error. -/
def rendered (view : View) : Except RenderFailure String → Outcome
  | .ok text => .success (.text text)
  | .error failure => .failure failure.output (.render view failure.error)

/-- The version that the program tells. -/
def versionText : String := "stache 0.1.0\n"

/-- How the program is used. -/
def helpText : String :=
  "Render templates with JSON or YAML contexts\n\n" ++
  "Usage: stache [-v] render VIEW [CONTEXT] [--context-file PATH] [--inline] [SOURCE]\n" ++
  "       stache [-v] tokens VIEW [--inline] [SOURCE]\n" ++
  "       stache [-v] bench VIEW [CONTEXT] [--runs RUNS] [SOURCE]\n" ++
  "       stache --version\n\n" ++
  "SOURCE: [--base DIR] [--ext EXT] [--config FILE]\n"

/-- Renders a view of which the template has to be loaded first. -/
def renderView (r : Renderer) (view : View) (context : Value) : Outcome :=
  match view.template r with
  | .error error => .failure "" error
  | .ok template => rendered view (r.render template context)

/-- Renders a view. -/
def runRender (files : Files) (r : Renderer) (view : View) : ContextChoice → Outcome
  | .file path =>
    match readContext files path with
    | .error error => .failure "" error
    | .ok context => renderView r view context
  | .document context =>
    match view with
    | .inline template => rendered view (r.renderJson template context)
    | .named name => rendered view (r.renderFiles name context)
  | .empty => renderView r view .emptyObject

/-- The row of a token in a listing. -/
def tokenRow (token : Token) (index : Nat) : List String :=
  let text := match token with
    | .text s => Text.shown s
    | .marker m => m.symbol
  [toString index, token.label, text]

/-- The listing of the tokens of a template. -/
def tokenTable (template : String) : String :=
  Text.table ["#", "kind", "text"] ((tokenize template).zipIdx.map fun (t, i) => tokenRow t i)

/-- The context document with a name. -/
def loadContext (r : Renderer) (name : String) : Except CommandError Value := do
  let text ← (r.loader name r.options.contextExtension).mapError (.context name)
  (Json.parse text).mapError (.contextSyntax name)

/-- Renders a view for its length. All runs write the same. -/
def runBench (r : Renderer) (name : String) (context? : Option String) (runs : Nat) :
    Except CommandError Report := do
  let template ← View.template r (.named name)
  let context ← match context? with
    | some context => loadContext r context
    | none => pure Value.emptyObject
  let text ← (r.render template context).mapError fun failure => .measuredRender name failure.error
  return .timing runs name text.utf8ByteSize

/-- What becomes of a command. -/
def run (files : Files) : Command → Outcome
  | .version => .success (.text versionText)
  | .help => .success (.text helpText)
  | .render source view context =>
    match source.renderer files with
    | .error error => .failure "" error
    | .ok r => runRender files r view context
  | .tokens source view => .ofExcept do
    let r ← source.renderer files
    return .text (tokenTable (← view.template r) ++ "\n")
  | .bench source name context? runs => .ofExcept do
    if runs = 0 then throw .noRuns
    let r ← source.renderer files
    runBench r name context? runs

/-- What becomes of the command that arguments make. -/
def runArguments (files : Files) (arguments : List String) : Outcome :=
  match ofArguments? arguments with
  | some command => command.run files
  | none => .refusal

end Command

end Mustache
