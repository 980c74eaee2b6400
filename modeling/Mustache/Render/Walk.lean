import Mustache.Html
import Mustache.Load
import Mustache.Name
import Mustache.Options
import Mustache.Partial.Binding
import Mustache.Partial.Reference
import Mustache.Scope
import Mustache.Token.Lexer
import Mustache.Value.Printer
/-!
# Walking over a template

A render walks over the tokens of a template from left to right and writes text. `Walk` is a state
of it: the tokens passed and the tokens ahead, the frames, whether the text around is visible, what
has been written, and the sections that are open, the innermost first. `Walk.step` takes the walk
over one text, tag or end of a section.

The tokens read as

    message  = (text | variable | comment | section | partial) message, or nothing
    variable = open name close
    comment  = open text close
    section  = open name close message open-of-end name close
    partial  = open reference close

and the walk checks this on its way. Three things make it more than a pass over a fixed list.

* A section over an array with elements is a loop: at the end of its body the walk goes back to
  where the body began, until each element has had its pass.
* A hidden section is walked all the same, so that what is malformed in it is noticed; it only
  writes nothing.
* A partial tag is replaced by the tokens of the partial, one level deeper than the tag, and the
  walk goes on at the first of them. A later pass of a loop meets these tokens and not the tag.

A step is taken with `Answers` for the names that it looks up (`Walk.stepBy`). Those of a render are
given by its frames (`Walk.step`).
-/

namespace Mustache

/-- A token ahead of or behind the walk. -/
structure Node where
  /-- The token. -/
  token : Token
  /-- How many partials around it brought the token in. -/
  depth : Nat
deriving DecidableEq, Repr

/-- Tokens that come in at a depth. -/
def Node.ofTokens (depth : Nat) (tokens : List Token) : List Node :=
  tokens.map fun token => ⟨token, depth⟩

/-- The tokens on both sides of the walk. -/
structure Tape where
  /-- The tokens passed since the innermost running loop began its pass, the nearest first. -/
  passed : List Node
  /-- The tokens ahead. -/
  rest : List Node
deriving DecidableEq, Repr

namespace Tape

/-- The tape past its next token. -/
def advance (t : Tape) : Tape :=
  match t.rest with
  | [] => t
  | node :: rest => ⟨node :: t.passed, rest⟩

/-- Takes the name that has to follow marker `m`. -/
def takeName (t : Tape) (m : Marker) : Except RenderError (String × Tape) :=
  match t.rest with
  | [] => .error .endOfTemplate
  | ⟨.text name, _⟩ :: _ => .ok (name, t.advance)
  | ⟨.marker _, _⟩ :: _ => .error (.missingName m)

/-- Takes marker `m`, which has to come next. -/
def takeMarker (t : Tape) (m : Marker) : Except RenderError Tape :=
  match t.rest with
  | ⟨.marker found, _⟩ :: _ => if found = m then .ok t.advance else .error (.missing m)
  | _ => .error (.missing m)

end Tape

/-- How a section that is open came to be, and what is to be done at its end. -/
inductive Region where
  /-- Its body is walked once. Kept are the visibility around it, and whether it put a frame on the
  stack. -/
  | once (outerVisible framed : Bool)
  /-- Its body is walked for each element of an array. Kept are the tokens passed before the body,
  the number of the running pass, and the elements still to come. -/
  | loop (outerPassed : List Node) (pass : Nat) (remaining : List Value)

/-- A section whose end has not come yet. -/
structure OpenSection where
  /-- The name it was opened under. -/
  name : String
  /-- How it was opened. -/
  region : Region

/-- A state of the walk over a template. -/
structure Walk where
  /-- The tokens on both sides. -/
  tape : Tape
  /-- The frames. -/
  scopes : Scopes
  /-- Whether text is written. -/
  visible : Bool
  /-- What has been written. -/
  output : String
  /-- The sections that are open, the innermost first. -/
  opened : List OpenSection

/-- What a render needs besides a template and a context. -/
structure Renderer where
  /-- Where partials come from. -/
  loader : Loader
  /-- The options. -/
  options : Options

namespace Renderer

/-- Checks that a partial may come in at the given depth. -/
def checkDepth (r : Renderer) (file : String) (depth : Nat) : Except RenderError Unit :=
  if depth ≤ r.options.maxPartialDepth then .ok ()
  else .error (.tooDeep file r.options.maxPartialDepth)

/-- The tokens of a partial with its parameters put in. -/
def partialTokens (r : Renderer) (file : String) (parameters : List String) :
    Except RenderError (List Token) := do
  let text ← (r.loader file r.options.partialExtension).mapError .load
  let table ← BindingTable.parse parameters
  return table.apply (tokenize text)

end Renderer

/-- Answers for the names that are looked up in some frames. -/
abbrev Answers := Scopes → String → Except RenderError Lookup

namespace Walk

/-- The start of a walk. -/
def start (template : String) (context : Value) : Walk where
  tape := ⟨[], Node.ofTokens 0 (tokenize template)⟩
  scopes := .ofRoot context
  visible := true
  output := ""
  opened := []

/-- The failure that stops the walk here. -/
def failure (w : Walk) (e : RenderError) : RenderFailure := ⟨w.output, e⟩

/-- Goes on with a result, or stops the walk here. -/
def attempt {α : Type} (w : Walk) (result : Except RenderError α) : Except RenderFailure α :=
  result.mapError w.failure

/-- The walk after its next token. -/
def advance (w : Walk) : Walk := { w with tape := w.tape.advance }

/-- Writes a text if the walk is visible. -/
def emit (w : Walk) (text : String) : Walk :=
  if w.visible then { w with output := w.output ++ text } else w

/-! ### Variables and comments -/

/-- What a variable tag opened by `m` writes for a value. -/
def printedBy (m : Marker) (v : Value) : String :=
  let text := v.printed?.getD ""
  if m = .unescaped then text else Html.escape text

/-- What a variable tag writes. A hidden tag does not look its name up. -/
def variableTextBy (answers : Answers) (w : Walk) (m : Marker) (name : String) :
    Except RenderError String :=
  if w.visible then do return printedBy m (← answers w.scopes name).valueOrNull
  else .ok ""

/-- Walks over a variable tag, after its marker `m`. Its text is written before its end is
checked. -/
def walkVariableBy (answers : Answers) (w : Walk) (m : Marker) : Except RenderFailure Walk := do
  let (name, tape) ← w.attempt (w.tape.takeName m)
  w.attempt (checkTagName name)
  let text ← w.attempt (w.variableTextBy answers m name)
  let w := { w with tape }.emit text
  let tape ← w.attempt (w.tape.takeMarker m.closing)
  return { w with tape }

/-- Walks over a comment, after its marker. -/
def walkComment (w : Walk) : Except RenderFailure Walk := do
  let (_, tape) ← w.attempt (w.tape.takeName .comment)
  let tape ← w.attempt (tape.takeMarker .close)
  return { w with tape }

/-! ### Sections -/

/-- Whether a section opened by `m` shows its body. -/
def shows (m : Marker) (lookup : Lookup) : Bool :=
  match m with
  | .shownIfFound => lookup.isFound
  | .shownUnless => lookup.valueOrNull.isFalsy
  | _ => !lookup.valueOrNull.isFalsy

/-- Opens a section. Only the section that steps into its value puts a frame on the stack, and it
alone can be a loop. -/
def enter (w : Walk) (m : Marker) (name : String) (lookup : Lookup) : Walk :=
  match m, lookup with
  | .sectionOpen, .found (.array (v :: vs)) =>
    { w with
      tape := ⟨[], w.tape.rest⟩
      scopes := (w.scopes.push v).setIndex 0
      opened := ⟨name, .loop w.tape.passed 0 vs⟩ :: w.opened }
  | .sectionOpen, _ =>
    { w with
      scopes := w.scopes.push lookup.valueOrNull
      visible := w.visible && shows m lookup
      opened := ⟨name, .once w.visible true⟩ :: w.opened }
  | _, _ =>
    { w with
      visible := w.visible && shows m lookup
      opened := ⟨name, .once w.visible false⟩ :: w.opened }

/-- Walks into a section, after its marker `m`. -/
def walkSectionBy (answers : Answers) (w : Walk) (m : Marker) : Except RenderFailure Walk := do
  let (name, tape) ← w.attempt (w.tape.takeName m)
  w.attempt (checkTagName name)
  let lookup ← w.attempt (answers w.scopes name)
  let tape ← w.attempt (tape.takeMarker .close)
  return { w with tape }.enter m name lookup

/-- Leaves the innermost section, whose body has been walked for the last time. -/
def leave (w : Walk) (region : Region) (outer : List OpenSection) : Walk :=
  match region with
  | .once outerVisible framed =>
    { w with
      scopes := if framed then w.scopes.drop else w.scopes
      visible := outerVisible
      opened := outer }
  | .loop outerPassed _ _ =>
    { w with
      tape := ⟨w.tape.passed ++ outerPassed, w.tape.rest⟩
      scopes := w.scopes.drop.setIndex 0
      opened := outer }

/-- Checks that a section is closed under the name it was opened under. -/
def checkEndName (name found : String) : Except RenderError Unit :=
  if found = name then .ok () else .error (.mismatchedClose name found)

/-- Walks over the end tag of a section opened under `name`. -/
def walkEnd (w : Walk) (name : String) : Except RenderFailure Walk := do
  let tape ← w.attempt (w.tape.takeMarker .sectionClose)
  let (found, tape) ← w.attempt (tape.takeName .sectionClose)
  w.attempt (checkEndName name found)
  let tape ← w.attempt (tape.takeMarker .close)
  return { w with tape }

/-- Goes back to where the body of the innermost loop began, for its next pass. -/
def nextPass (w : Walk) (name : String) (outerPassed : List Node) (pass : Nat) (v : Value)
    (remaining : List Value) (outer : List OpenSection) : Walk :=
  { w with
    tape := ⟨[], w.tape.passed.reverse ++ w.tape.rest⟩
    scopes := (w.scopes.drop.push v).setIndex pass
    opened := ⟨name, .loop outerPassed pass remaining⟩ :: outer }

/-- What the walk does where a message ends: at the end of the tokens, or before the end tag of a
section. The result is `none` if the template has been walked to its end. -/
def endMessage (w : Walk) : Except RenderFailure (Option Walk) :=
  match w.opened with
  | [] => if w.tape.rest.isEmpty then .ok none else .error (w.failure (.unexpected .sectionClose))
  | ⟨name, .loop outerPassed pass (v :: remaining)⟩ :: outer =>
    .ok (some (w.nextPass name outerPassed (pass + 1) v remaining outer))
  | ⟨name, region⟩ :: outer => some <$> (w.leave region outer).walkEnd name

/-! ### Partials -/

/-- The file that a partial tag names, directly or through a variable. -/
def partialFileBy (answers : Answers) (w : Walk) (m : Marker) (name : String) :
    Except RenderError String :=
  if m = .partialByVariable then do
    match ← answers w.scopes name with
    | .found (.string file) => return file
    | .found .null | .missing | .outOfRange _ _ => throw (.missingPartialVariable name)
    | .found v => throw (.wrongPartialVariable name v.kind)
  else .ok name

/-- The tokens that take the place of a partial tag at the given depth. -/
def includedBy (answers : Answers) (w : Walk) (r : Renderer) (m : Marker) (depth : Nat)
    (reference : String) : Except RenderError (List Node) := do
  let reference := PartialReference.parse reference
  let file ← w.partialFileBy answers m reference.file
  r.checkDepth file (depth + 1)
  return Node.ofTokens (depth + 1) (← r.partialTokens file reference.parameters)

/-- Replaces a partial tag at the given depth, after its marker `m`; `tag` is the tape before it. -/
def walkPartialBy (answers : Answers) (w : Walk) (r : Renderer) (tag : Tape) (m : Marker)
    (depth : Nat) : Except RenderFailure Walk := do
  let (reference, tape) ← w.attempt (w.tape.takeName m)
  w.attempt (checkReference reference)
  let tape ← w.attempt (tape.takeMarker .close)
  let nodes ← w.attempt (w.includedBy answers r m depth reference)
  return { w with tape := ⟨tag.passed, nodes ++ tape.rest⟩ }

/-! ### One step -/

/-- Takes the walk over the next text or tag. The result is `none` if the template has been walked
to its end. -/
def stepBy (answers : Answers) (r : Renderer) (w : Walk) : Except RenderFailure (Option Walk) :=
  match w.tape.rest with
  | [] => w.endMessage
  | ⟨.text s, _⟩ :: _ => .ok (some (w.emit s).advance)
  | ⟨.marker m, depth⟩ :: _ =>
    match m with
    | .sectionClose => w.endMessage
    | .close | .closeUnescaped => .error (w.failure (.unexpected m))
    | .escaped | .unescaped => some <$> w.advance.walkVariableBy answers m
    | .comment => some <$> w.advance.walkComment
    | .partialTag | .partialByVariable => some <$> w.advance.walkPartialBy answers r w.tape m depth
    | .sectionOpen | .shownIf | .shownUnless | .shownIfFound =>
      some <$> w.advance.walkSectionBy answers m

/-! ### With the answers of the frames -/

/-- What a variable tag of a render writes. -/
def variableText (w : Walk) (m : Marker) (name : String) : Except RenderError String :=
  w.variableTextBy Scopes.resolve m name

/-- The file that a partial tag of a render names. -/
def partialFile (w : Walk) (m : Marker) (name : String) : Except RenderError String :=
  w.partialFileBy Scopes.resolve m name

/-- The tokens that take the place of a partial tag of a render. -/
def included (w : Walk) (r : Renderer) (m : Marker) (depth : Nat) (reference : String) :
    Except RenderError (List Node) :=
  w.includedBy Scopes.resolve r m depth reference

/-- The next step of a render. -/
def step (r : Renderer) (w : Walk) : Except RenderFailure (Option Walk) :=
  w.stepBy Scopes.resolve r

theorem variableText_eq (w : Walk) (m : Marker) (name : String) :
    w.variableText m name =
      if w.visible then do return printedBy m (← w.scopes.resolve name).valueOrNull
      else .ok "" := rfl

theorem included_eq (w : Walk) (r : Renderer) (m : Marker) (depth : Nat) (reference : String) :
    w.included r m depth reference = (do
      let file ← w.partialFile m (PartialReference.parse reference).file
      r.checkDepth file (depth + 1)
      return Node.ofTokens (depth + 1)
        (← r.partialTokens file (PartialReference.parse reference).parameters)) := rfl

end Walk

end Mustache
