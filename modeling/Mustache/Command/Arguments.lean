import Mustache.Command
import Mustache.Text.Digit
/-!
# Commands from arguments

The first argument names a kind of command, and those after it are its positional arguments and its
options. An option starts with two dashes. Its value is joined to it by an equals sign or is the next
argument, which then may not look like an option. Behind two dashes alone all arguments are
positional. How much is logged can be said anywhere, and says nothing about the command.

Arguments from which no command can be made are refused.
-/

namespace Mustache.Command

/-- The kinds of commands that take arguments. -/
inductive Kind where
  /-- To render a template. -/
  | render
  /-- To list tokens. -/
  | tokens
  /-- To measure a render. -/
  | bench
deriving DecidableEq, Repr

/-- The kind of command that a word names. -/
def Kind.ofString? : String → Option Kind
  | "render" => some render
  | "tokens" => some tokens
  | "bench" => some bench
  | _ => none

/-- The greatest number of positional arguments. -/
def Kind.arity : Kind → Nat
  | render => 2
  | tokens => 1
  | bench => 2

/-- The options with a value. -/
inductive Setting where
  /-- The directory that names are relative to. -/
  | base
  /-- The extension of templates. -/
  | extension
  /-- The file that holds the options of a render. -/
  | config
  /-- The file that holds the context. -/
  | contextFile
  /-- The number of runs. -/
  | runs
deriving DecidableEq, Repr

/-- The option with a value that a name stands for, in a kind of command. -/
def Setting.ofName? (kind : Kind) : String → Option Setting
  | "base" => some base
  | "ext" => some extension
  | "config" => some config
  | "context-file" => if kind = .render then some contextFile else none
  | "runs" => if kind = .bench then some runs else none
  | _ => none

/-- The number of runs that a text gives, at most 32 bits long. A minus sign may stand before a zero. -/
def runs? (s : String) : Option Nat :=
  match s.toList with
  | '-' :: cs => (Text.number? 10 cs).filter (· = 0)
  | cs => (Text.unsigned? cs).filter (· < UInt32.size)

example : runs? "+2" = some 2 ∧ runs? "-0" = some 0 ∧ runs? "-1" = none := by decide +kernel

/-- Whether the option may have the value: a path is not empty, and a number of runs is a number. -/
def Setting.accepts : Setting → String → Bool
  | extension, _ => true
  | runs, value => (runs? value).isSome
  | _, value => !value.isEmpty

/-- An argument, by its shape. -/
inductive Shape where
  /-- Two dashes alone. -/
  | terminator
  /-- Two dashes and a name, and maybe an equals sign and a value. -/
  | long (name : String) (value? : Option String)
  /-- A dash and letters. -/
  | short (letters : List Char)
  /-- Anything else. -/
  | plain
deriving DecidableEq, Repr

/-- The shape of an argument. -/
def Shape.ofChars : List Char → Shape
  | ['-', '-'] => .terminator
  | '-' :: '-' :: cs =>
    let name := cs.takeWhile (· != '=')
    match cs.drop name.length with
    | [] => .long (String.ofList name) none
    | _ :: value => .long (String.ofList name) (some (String.ofList value))
  | ['-'] => .plain
  | '-' :: cs => .short cs
  | _ => .plain

/-- The shape of an argument. -/
def Shape.of (argument : String) : Shape :=
  Shape.ofChars argument.toList

/-- Why the arguments are not read to their end. -/
inductive Halt where
  /-- No command can be made of them. -/
  | refused
  /-- They ask how the program is used. -/
  | help
  /-- They ask for the version. -/
  | version
deriving DecidableEq, Repr

/-- The arguments of a command that are read so far. -/
structure Arguments where
  /-- The positional arguments. -/
  positional : List String := []
  /-- Whether the template is given itself. -/
  inline : Bool := false
  /-- The options with a value, each given once. -/
  settings : List (Setting × String) := []
deriving DecidableEq, Repr

namespace Arguments

/-- The value of an option. -/
def get? (a : Arguments) (setting : Setting) : Option String :=
  a.settings.lookup setting

/-- Adds a positional argument. -/
def addPositional (kind : Kind) (a : Arguments) (argument : String) : Except Halt Arguments :=
  if a.positional.length < kind.arity then
    .ok { a with positional := a.positional ++ [argument] }
  else .error .refused

/-- Adds an option with a value. -/
def addSetting (a : Arguments) (setting : Setting) (value : String) : Except Halt Arguments :=
  if (a.get? setting).isSome || !setting.accepts value then .error .refused
  else .ok { a with settings := a.settings ++ [(setting, value)] }

/-- Adds the option that the template is given itself. -/
def addInline (kind : Kind) (a : Arguments) : Except Halt Arguments :=
  if kind = .bench || a.inline then .error .refused else .ok { a with inline := true }

end Arguments

/-- Reads letters behind a dash. Only those about logging do not halt. -/
def readLetters (hasVersion : Bool) (letters : List Char) : Except Halt Unit :=
  match letters.dropWhile (· == 'v') with
  | [] => .ok ()
  | 'h' :: _ => .error .help
  | 'V' :: _ => .error (if hasVersion then .version else .refused)
  | _ => .error .refused

/-- Reads the arguments behind the kind of a command. -/
def readArguments (kind : Kind) (a : Arguments) : List String → Except Halt Arguments
  | [] => .ok a
  | argument :: rest =>
    match Shape.of argument with
    | .terminator => rest.foldlM (Arguments.addPositional kind) a
    | .plain => do readArguments kind (← a.addPositional kind argument) rest
    | .short letters => do
      readLetters false letters
      readArguments kind a rest
    | .long "verbose" none => readArguments kind a rest
    | .long "help" none => .error .help
    | .long "inline" none => do readArguments kind (← a.addInline kind) rest
    | .long name value? =>
      match Setting.ofName? kind name, value?, rest with
      | none, _, _ => .error .refused
      | some setting, some value, rest => do
        readArguments kind (← a.addSetting setting value) rest
      | some _, none, [] => .error .refused
      | some setting, none, value :: rest =>
        if Shape.of value = .plain then do readArguments kind (← a.addSetting setting value) rest
        else .error .refused

/-- Where templates come from, by the arguments. -/
def Arguments.source (a : Arguments) : Source :=
  let default : Source := {}
  { base := (a.get? .base).getD default.base
    extension? := a.get? .extension
    config? := a.get? .config }

/-- The view that the first positional argument stands for. -/
def Arguments.view (a : Arguments) (argument : String) : View :=
  if a.inline then .inline argument else .named argument

/-- The number of runs if none is given. -/
def defaultRuns : Nat := 1000

/-- The command that all its arguments make. -/
def ofParts (kind : Kind) (a : Arguments) : Except Halt Command :=
  match kind, a.positional with
  | _, [] => .error .refused
  | .render, view :: context =>
    match context.head?, a.get? .contextFile with
    | some _, some _ => .error .refused
    | some context, none => .ok (.render a.source (a.view view) (.document context))
    | none, some path => .ok (.render a.source (a.view view) (.file path))
    | none, none => .ok (.render a.source (a.view view) .empty)
  | .tokens, view :: _ => .ok (.tokens a.source (a.view view))
  | .bench, view :: context =>
    .ok (.bench a.source view context.head? (((a.get? .runs).bind runs?).getD defaultRuns))

/-- What follows from a request for help: there is help on the program, on each kind of command and on
help itself. -/
def helpOn : List String → Halt
  | [] | ["help"] => .help
  | [name] => if (Kind.ofString? name).isSome then .help else .refused
  | _ => .refused

/-- Reads arguments up to the kind of the command, and then all that follow it. -/
def readCommand : List String → Except Halt Command
  | [] => .error .refused
  | argument :: rest =>
    match Shape.of argument with
    | .short letters => do
      readLetters true letters
      readCommand rest
    | .long "verbose" none => readCommand rest
    | .long "help" none => .error .help
    | .long "version" none => .error .version
    | .plain =>
      if argument == "help" then .error (helpOn rest)
      else
        match Kind.ofString? argument with
        | some kind => do ofParts kind (← readArguments kind {} rest)
        | none => .error .refused
    | _ => .error .refused

/-- The command that arguments make, or `none` if they are refused. -/
def ofArguments? (arguments : List String) : Option Command :=
  match readCommand arguments with
  | .ok command => some command
  | .error .help => some .help
  | .error .version => some .version
  | .error .refused => none

end Mustache.Command
