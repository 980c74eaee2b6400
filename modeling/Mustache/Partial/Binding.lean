import Mustache.Error
import Mustache.Text.Blank
import Mustache.Token
/-!
# Parameters of a partial

A parameter binds a key to a quoted text or to a bare word. A bare word that is bound already stands
for what it is bound to. The first parameter for a key counts; later ones are read, so that they can
be wrong, and then left out.

Inside the partial, a variable tag whose name is bound to a text becomes that text. Every other token
stays as it is, and what has been put in is not looked at again.
-/

namespace Mustache

/-- What a key is bound to. -/
inductive Binding where
  /-- The text between quotes. -/
  | literal (s : String)
  /-- A word that nothing was bound to. -/
  | bare (word : String)
deriving DecidableEq, Repr

/-- What the keys of a partial are bound to, in the order in which the keys first came. -/
structure BindingTable where
  /-- The keys and what they are bound to. -/
  entries : List (String × Binding)
deriving DecidableEq, Repr

/-- Reads what is bound to a key: a text in single or double quotes with nothing after it, or a word
without blanks and equals signs. -/
def Binding.parse (parameter : String) (value : List Char) : Except RenderError Binding :=
  match value with
  | [] => .error (.missingValue parameter)
  | c :: body =>
    if c = '\'' || c = '"' then
      match body.dropWhile (· != c) with
      | [] => .error (.unclosedLiteral (String.ofList value))
      | [_] => .ok (.literal (String.ofList (body.takeWhile (· != c))))
      | _ => .error (.missingSeparator parameter)
    else if value.any fun c => c == '=' || Text.isBlank c then .error (.missingSeparator parameter)
    else .ok (.bare (String.ofList value))

/-- Reads a parameter: a key, an equals sign and a value, with blanks around either. -/
def parseParameter (parameter : String) : Except RenderError (String × Binding) := do
  let text := parameter.toList
  match text.dropWhile (· != '=') with
  | [] => throw (.missingSeparator parameter)
  | _ :: value =>
    let key := Text.trimBlanks (text.takeWhile (· != '='))
    if key.isEmpty then throw (.missingKey parameter)
    return (String.ofList key, ← Binding.parse parameter (Text.trimBlanks value))

namespace BindingTable

/-- The table without entries. -/
def empty : BindingTable := ⟨[]⟩

instance : EmptyCollection BindingTable := ⟨empty⟩

/-- The number of keys. -/
def size (t : BindingTable) : Nat := t.entries.length

/-- Whether there are no keys. -/
def isEmpty (t : BindingTable) : Bool := t.entries.isEmpty

/-- What a key is bound to. -/
def get? (t : BindingTable) (key : String) : Option Binding := t.entries.lookup key

/-- What a binding amounts to where the table is known: a bare word that is bound stands for what it
is bound to. -/
def settle (t : BindingTable) : Binding → Binding
  | .literal s => .literal s
  | .bare word => (t.get? word).getD (.bare word)

/-- Binds a key, unless it is bound already. -/
def bind (t : BindingTable) (key : String) (binding : Binding) : BindingTable :=
  match t.get? key with
  | some _ => t
  | none => ⟨t.entries ++ [(key, t.settle binding)]⟩

/-- Binds what the parameters say, from left to right. -/
def bindAll (t : BindingTable) : List String → Except RenderError BindingTable
  | [] => .ok t
  | parameter :: parameters => do
    let (key, binding) ← parseParameter parameter
    (t.bind key binding).bindAll parameters

/-- Reads the parameters of a partial. -/
def parse (parameters : List String) : Except RenderError BindingTable :=
  (∅ : BindingTable).bindAll parameters

/-- The text that a name is bound to, if it is bound to a text. -/
def literal? (t : BindingTable) (name : String) : Option String :=
  match t.get? name with
  | some (.literal s) => some s
  | _ => none

theorem literal?_eq_some_iff {t : BindingTable} {name s : String} :
    t.literal? name = some s ↔ t.get? name = some (.literal s) := by
  unfold literal?
  split
  · rename_i found hget
    rw [hget, Option.some.injEq, Option.some.injEq, Binding.literal.injEq]
  · rename_i hget
    exact ⟨fun h => (Option.some_ne_none s h.symm).elim, fun h => absurd h (hget s)⟩

/-- Puts the bound texts in place of the variable tags that name them. -/
def apply (t : BindingTable) : List Token → List Token
  | .marker .escaped :: .text name :: .marker .close :: rest =>
    match t.literal? name with
    | some s => .text s :: t.apply rest
    | none => .marker .escaped :: .text name :: .marker .close :: t.apply rest
  | token :: rest => token :: t.apply rest
  | [] => []

theorem apply_ne_nil (t : BindingTable) {tokens : List Token} (h : tokens ≠ []) :
    t.apply tokens ≠ [] := by
  fun_cases apply t tokens <;> simp_all

end BindingTable

end Mustache
