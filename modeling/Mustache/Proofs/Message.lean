import Mustache.Proofs.Tag
/-!
# Messages as trees

A template without partial tags that reads as a message is a tree of texts, variables, comments and
sections. `Message` is that tree, along the grammar

    message  = (text | variable | comment | section) message, or nothing
    variable = open name close
    comment  = open text close
    section  = open name close message open-of-end name close

where a name is one that a tag may have (`TagName`) and a section is closed under the name it was
opened under. `Message.tokens` writes the tree as the tokens it was read from, so a list of tokens
reads as the message `m` if it is `m.tokens`.

`Message.emission` says what a message writes in a frame, without a cursor, a stack or a way back:
it goes down the tree with the frame, the visibility and the index at hand.

* A section over an array with elements has one pass for each element, in their order, with the
  element as frame and its position as index, and leaves the index at zero.
* The body of every other section is passed once. It is visible if the region around it is and the
  test of the section's kind passes, and only `SectionKind.steppingIn` changes the frame.
-/

namespace Mustache

/-! ### Emissions -/

/-- What a part of a template comes to: the text it writes and the index it leaves, or a failure
with the text written before it. -/
abbrev Emission := Except RenderFailure (String × Nat)

namespace Emission

/-- One emission behind another, which starts at the index that the first one leaves. -/
def andThen (e : Emission) (next : Nat → Emission) : Emission := do
  let (text, index) ← e
  let (more, index) ← (next index).mapError (·.after text)
  return (text ++ more, index)

/-- One pass for each element, with its position; the index ends at zero. -/
def forEach (pass : Value → Nat → Emission) : List Value → Nat → Emission
  | [], _ => .ok ("", 0)
  | v :: vs, i => (pass v i).andThen fun _ => forEach pass vs (i + 1)

/-- The emission where a text has been written already. -/
def onto (e : Emission) (written : String) : Emission := do
  let (text, index) ← e.mapError (·.after written)
  return (written ++ text, index)

@[simp] theorem onto_ok (text written : String) (index : Nat) :
    onto (.ok (text, index)) written = .ok (written ++ text, index) := rfl

@[simp] theorem onto_error (f : RenderFailure) (written : String) :
    onto (.error f) written = .error (f.after written) := rfl

/-- **Emissions are added to what has been written one after the other.** -/
theorem onto_andThen (e : Emission) (next : Nat → Emission) (written : String) :
    (e.andThen next).onto written = (do
      let p ← e.onto written
      (next p.2).onto p.1) := by
  cases e with
  | error f => rfl
  | ok p =>
    obtain ⟨text, index⟩ := p
    cases hnext : next index with
    | error f => simp [andThen, onto, hnext, RenderFailure.after, String.append_assoc]
    | ok q => simp [andThen, onto, hnext, String.append_assoc]

/-- An emission that writes nothing has been written already where it starts. -/
theorem onto_empty (e : Emission) : e.onto "" = e := by
  cases e with
  | error f => simp [RenderFailure.after]
  | ok p => rw [onto_ok, String.empty_append]

end Emission

/-! ### The tree -/

/-- A name that a variable or section tag may have: a single point, or allowed characters only. -/
structure TagName where
  /-- The name. -/
  text : String
  /-- The name is allowed. -/
  allowed : text = wholeFrame ∨ ∀ c ∈ text.toList, isAllowed tagSigns c = true

theorem TagName.check (name : TagName) : checkTagName name.text = .ok () := by
  simp only [checkTagName]
  split
  · rfl
  · rename_i hne
    exact checkCharacters_eq_ok_iff.mpr (name.allowed.resolve_left hne)

/-- The kinds of sections. -/
inductive SectionKind where
  /-- Steps into its value, once for each element of an array. -/
  | steppingIn
  /-- Shown when its value is truthy. -/
  | shownIf
  /-- Shown when its value is falsy. -/
  | shownUnless
  /-- Shown when its name is found. -/
  | shownIfFound
deriving DecidableEq, Repr

namespace SectionKind

/-- The marker that opens a section of the kind. -/
def marker : SectionKind → Marker
  | steppingIn => .sectionOpen
  | shownIf => .shownIf
  | shownUnless => .shownUnless
  | shownIfFound => .shownIfFound

/-- The test of the kind. What is not found is falsy. -/
def passes : SectionKind → Lookup → Bool
  | steppingIn, lookup | shownIf, lookup => lookup.value?.any fun v => !v.isFalsy
  | shownUnless, lookup => lookup.value?.all Value.isFalsy
  | shownIfFound, lookup => lookup.isFound

/-- The elements that a section of the kind goes through. Without any, its body is passed once. -/
def elements : SectionKind → Lookup → List Value
  | steppingIn, .found (.array items) => items
  | _, _ => []

/-- The frame inside a section of the kind that is passed once. -/
def innerFrame (kind : SectionKind) (lookup : Lookup) (frame : Value) : Value :=
  match kind with
  | steppingIn => lookup.valueOrNull
  | _ => frame

/-- What a section of the kind writes where `body` says what its body writes in a frame, seen or
hidden, from an index on. -/
def emission (kind : SectionKind) (lookup : Lookup) (body : Value → Bool → Nat → Emission)
    (frame : Value) (visible : Bool) (index : Nat) : Emission :=
  match kind.elements lookup with
  | [] => body (kind.innerFrame lookup frame) (visible && kind.passes lookup) index
  | v :: vs => .forEach (fun v i => body v visible i) (v :: vs) 0

end SectionKind

/-- A message. -/
inductive Message where
  /-- Nothing more. -/
  | nil
  /-- A text, and what follows it. -/
  | text (s : String) (next : Message)
  /-- A variable tag, whose value is printed escaped or as it is, and what follows it. -/
  | print (escaped : Bool) (name : TagName) (next : Message)
  /-- A comment, and what follows it. -/
  | comment (s : String) (next : Message)
  /-- A section with its body, and what follows it. -/
  | block (kind : SectionKind) (name : TagName) (body next : Message)

namespace Message

/-- The marker that opens a variable tag. -/
def variableMarker (escaped : Bool) : Marker :=
  if escaped then .escaped else .unescaped

/-- The tokens that the message is read from. -/
def tokens : Message → List Token
  | nil => []
  | text s next => .text s :: next.tokens
  | print escaped name next => (variableMarker escaped).tag name.text ++ next.tokens
  | comment s next => Marker.comment.tag s ++ next.tokens
  | block kind name body next =>
    kind.marker.tag name.text ++
      (body.tokens ++ (Marker.sectionClose.tag name.text ++ next.tokens))

/-! ### What a message writes -/

/-- What a name stands for in a frame, at an index. -/
def lookUp (frame : Value) (index : Nat) (name : TagName) : Except RenderFailure Lookup :=
  (Scopes.resolve ⟨frame, [], index⟩ name.text).mapError .early

/-- What a variable tag prints for what was looked up. -/
def printed (escaped : Bool) (lookup : Lookup) : String :=
  match lookup.valueOrNull.printed? with
  | none => ""
  | some s => if escaped then Html.escape s else s

/-- What a variable tag writes. A hidden tag does not look its name up. -/
def variableEmission (escaped : Bool) (name : TagName) (frame : Value) (visible : Bool)
    (index : Nat) : Emission :=
  if visible then do
    return (printed escaped (← lookUp frame index name), index)
  else .ok ("", index)

/-- What a message writes in a frame, seen or hidden, from an index on. -/
def emission : Message → Value → Bool → Nat → Emission
  | nil, _, _, index => .ok ("", index)
  | text s next, frame, visible, index =>
    Emission.andThen (.ok (if visible then s else "", index)) (next.emission frame visible)
  | print escaped name next, frame, visible, index =>
    (variableEmission escaped name frame visible index).andThen (next.emission frame visible)
  | comment _ next, frame, visible, index => next.emission frame visible index
  | block kind name body next, frame, visible, index => do
    let lookup ← lookUp frame index name
    (kind.emission lookup body.emission frame visible index).andThen (next.emission frame visible)

/-- What a message renders to against a context. -/
def render (message : Message) (context : Value) : Except RenderFailure String :=
  Prod.fst <$> message.emission context true 0

end Message

end Mustache
