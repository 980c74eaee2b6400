/-!
# Commands

What the program is asked to do: to render a view, to list its tokens, or to measure how long a render
takes.
-/

namespace Mustache

/-- Where templates come from. -/
structure Source where
  /-- The directory that names are relative to. -/
  base : String := "."
  /-- The extension of templates and partials, if it is not that of the options. -/
  extension? : Option String := none
  /-- The file that holds the options. -/
  config? : Option String := none
deriving DecidableEq, Repr

/-- The template that a command is about. -/
inductive View where
  /-- The template with a name. -/
  | named (name : String)
  /-- The template itself. -/
  | inline (text : String)
deriving DecidableEq, Repr

/-- What a template is rendered against. -/
inductive ContextChoice where
  /-- An object without fields. -/
  | empty
  /-- The document with a name, or the document itself for a template that is given itself. -/
  | document (text : String)
  /-- The document in the file at a path. -/
  | file (path : String)
deriving DecidableEq, Repr

/-- What the program is asked to do. -/
inductive Command where
  /-- To render a template. -/
  | render (source : Source) (view : View) (context : ContextChoice)
  /-- To list the tokens of a template. -/
  | tokens (source : Source) (view : View)
  /-- To measure the time that a render takes, over a number of runs. -/
  | bench (source : Source) (view : String) (context? : Option String) (runs : Nat)
  /-- To tell its version. -/
  | version
  /-- To tell how it is used. -/
  | help
deriving DecidableEq, Repr

end Mustache
