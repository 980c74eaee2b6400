import Mustache.Yaml.Lexeme.Lexer
import Mustache.Yaml.Node
/-!
# Nodes from lexemes

Nodes are read from the row of lexemes by recursive descent. What is not written is an empty text: an
item, key or value may be left out. A list may stand in a mapping without being indented any further,
and then has no start and no end of its own.

An anchor gives its node a name and a number: the number of names that are known before it. A name is
known from there on, also inside the node that it names, and an alias stands for the number that its
name has at this point. A name that is given again changes its number, but is no new name; so two
anchors can get one number, and then the later of their nodes has it, even for an alias before both.
-/

namespace Mustache.Yaml

/-- The lexemes that are left, and what is known from those before. -/
structure Reading where
  /-- The lexemes that are left. -/
  rest : List Located
  /-- The names given so far, each once, with their numbers. -/
  names : List (String × Nat) := []
  /-- The numbers given so far with their nodes; a node that is not yet read as a whole is missing. -/
  numbered : Array (Nat × Option Node) := #[]

/-- What was read, and what is left, which is less. -/
structure Found (α : Type) (r : Reading) where
  /-- What was read. -/
  value : α
  /-- What is left. -/
  next : Reading
  /-- Something was read. -/
  shorter : next.rest.length < r.rest.length

/-- What was read, and what is left; maybe nothing was read. -/
structure Passed (α : Type) (r : Reading) where
  /-- What was read. -/
  value : α
  /-- What is left. -/
  next : Reading
  /-- Nothing was put back. -/
  notLonger : next.rest.length ≤ r.rest.length

/-- Where a node stands. -/
inductive Position where
  /-- Between brackets or braces. -/
  | flow
  /-- In a document or list in block style. -/
  | block
  /-- In a mapping in block style. -/
  | entry
deriving DecidableEq, Repr

/-- The handles of tags, each with the start of a tag that it stands for. -/
abbrev Handles := List (String × Tag)

/-- The tag that is written as a name, or `none` if it has an unknown handle. -/
def Handles.resolve? (handles : Handles) : TagName → Option Tag
  | .full tag => some tag
  | .short handle suffix => (handles.lookup handle).map (· ++ suffix)

namespace Reading

/-- The place of the next lexeme. -/
def place (r : Reading) : Place :=
  (r.rest.head?.map Located.place).getD .start

/-- A problem at the next lexeme. -/
def fault (r : Reading) (problem : Problem) : Fault := ⟨problem, r.place⟩

/-- Gives a name and a number to the node that is about to be read. -/
def declare (r : Reading) : Option String → Reading
  | some name =>
    let number := r.names.length
    { r with
      names := (name, number) :: r.names.filter (·.1 != name)
      numbered := r.numbered.push (number, none) }
  | none => r

/-- Completes the number at an index, if one was given, by its node. -/
def complete (r : Reading) (index : Nat) (node : Node) : Option String → Reading
  | some _ => { r with numbered := r.numbered.modify index fun (number, _) => (number, some node) }
  | none => r

/-- The reference that an alias of this name at the next lexeme is. -/
def referenceTo (r : Reading) (name : String) : Except Fault Node :=
  match r.names.lookup name with
  | some number => .ok (.reference r.place number)
  | none => .error (r.fault .unknownAnchor)

/-- The document whose root is read. -/
def document (r : Reading) (root : Node) : Document :=
  ⟨root, r.numbered.toList.reverse.filterMap fun (number, node?) => node?.map (number, ·)⟩

@[simp] theorem rest_declare (r : Reading) (name? : Option String) :
    (r.declare name?).rest = r.rest := by
  cases name? <;> rfl

@[simp] theorem rest_complete (r : Reading) (index : Nat) (node : Node) (name? : Option String) :
    (r.complete index node name?).rest = r.rest := by
  cases name? <;> rfl

end Reading

/-- The anchor and the tag in front of a node. -/
structure Properties where
  /-- The name that an anchor gives to the node. -/
  anchor? : Option String := none
  /-- The tag of the node. -/
  tag? : Option TagName := none

/-- The properties at the start of a row of lexemes, and how many lexemes they take. -/
def Properties.ofLexemes : List Lexeme → Properties × Nat
  | .anchor name :: .tag tag :: _ => (⟨some name, some tag⟩, 2)
  | .tag tag :: .anchor name :: _ => (⟨some name, some tag⟩, 2)
  | .anchor name :: _ => (⟨some name, none⟩, 1)
  | .tag tag :: _ => (⟨none, some tag⟩, 1)
  | _ => (⟨none, none⟩, 0)

/-- Whether a node may be left out before this lexeme in an item of a list in block style. -/
def endsItem : Lexeme → Bool
  | .item | .blockEnd => true
  | _ => false

/-- The same in an item of a list that is not indented. -/
def endsPlainItem : Lexeme → Bool
  | .item | .key | .value | .blockEnd => true
  | _ => false

/-- The same in a mapping in block style. -/
def endsEntry : Lexeme → Bool
  | .key | .value | .blockEnd => true
  | _ => false

/-- The same for a key between braces. -/
def endsFlowKey : Lexeme → Bool
  | .value | .comma | .closeBrace => true
  | _ => false

/-- The same for a value between braces. -/
def endsFlowValue : Lexeme → Bool
  | .comma | .closeBrace => true
  | _ => false

/-- The same between brackets. -/
def endsFlowItem : Lexeme → Bool
  | .comma | .closeBracket => true
  | _ => false

/-- Moves over a comma, which has to stand here unless the list or mapping ends. -/
def skipComma (closing : Lexeme) (problem : Problem) (r : Reading) :
    Except Fault (Passed Unit r) :=
  match h : r.rest with
  | ⟨.comma, _⟩ :: rest => .ok ⟨(), { r with rest }, by simp [h]⟩
  | l :: _ => if l.lexeme = closing then .ok ⟨(), r, Nat.le_refl _⟩ else .error (r.fault problem)
  | [] => .error (r.fault problem)

mutual

/-- Reads a node, which has to stand here. -/
def readNode (handles : Handles) (position : Position) (r : Reading) :
    Except Fault (Found Node r) := do
  let (properties, n) := Properties.ofLexemes (r.rest.map Located.lexeme)
  let start := r.place
  let index := r.numbered.size
  let tag? ← match properties.tag? with
    | none => pure none
    | some name =>
      match handles.resolve? name with
      | some tag => pure (some tag)
      | none => throw (r.fault .unknownTagHandle)
  let inner := Reading.declare { r with rest := r.rest.drop n } properties.anchor?
  have hinner : inner.rest.length = r.rest.length - n := by simp [inner]
  let done (node : Node) (next : Reading) (h : next.rest.length < r.rest.length) : Found Node r :=
    ⟨node, next.complete index node properties.anchor?, by simpa using h⟩
  let omitted : Except Fault (Found Node r) :=
    if h : 0 < n ∧ n ≤ r.rest.length then
      return done (.empty start tag?) inner (by omega)
    else throw (inner.fault .expectedContent)
  match h : inner.rest with
  | [] => omitted
  | ⟨lexeme, _⟩ :: rest =>
    have hrest : rest.length < r.rest.length := by
      have := congrArg List.length h
      simp only [List.length_cons] at this
      omega
    let behind : Reading := { inner with rest }
    match lexeme with
    | .alias name =>
      if n = 0 then return ⟨← r.referenceTo name, behind, hrest⟩ else omitted
    | .scalar style text => return done (.scalar start tag? style text) behind hrest
    | .openBracket => do
      let items ← readFlowItems handles [] behind
      return done (.list start tag? items.value) items.next (Nat.lt_trans items.shorter hrest)
    | .openBrace => do
      let entries ← readFlowEntries handles [] behind
      return done (.mapping start tag? entries.value) entries.next
        (Nat.lt_trans entries.shorter hrest)
    | .listStart =>
      if position = .flow then omitted
      else do
        let items ← readItems handles [] behind
        return done (.list start tag? items.value) items.next (Nat.lt_trans items.shorter hrest)
    | .mappingStart =>
      if position = .flow then omitted
      else do
        let entries ← readEntries handles [] behind
        return done (.mapping start tag? entries.value) entries.next
          (Nat.lt_trans entries.shorter hrest)
    | .item =>
      if position = .entry then do
        let first ← readOptional handles .block endsPlainItem inner.place behind
        have hfirst : first.next.rest.length ≤ rest.length := first.notLonger
        let items ← readPlainItems handles [first.value] first.next
        return done (.list start tag? items.value) items.next
          (Nat.lt_of_le_of_lt (Nat.le_trans items.notLonger hfirst) hrest)
      else omitted
    | _ => omitted
termination_by 3 * r.rest.length
decreasing_by all_goals omega

/-- Reads a node, or the empty node if what follows ends the place for it. The empty node stands behind
the mark at `place`, or in flow style at what follows. -/
def readOptional (handles : Handles) (position : Position) (ends : Lexeme → Bool) (place : Place)
    (r : Reading) : Except Fault (Passed Node r) := do
  if r.rest.head?.any (ends ·.lexeme) then
    let omitted := if position = .flow then r.place else place.behindMark
    return ⟨.empty omitted none, r, Nat.le_refl _⟩
  else
    let node ← readNode handles position r
    return ⟨node.value, node.next, Nat.le_of_lt node.shorter⟩
termination_by 3 * r.rest.length + 1

/-- Reads a colon and the value behind it, or the empty node if there is no colon. -/
def readEntryValue (handles : Handles) (position : Position) (ends : Lexeme → Bool) (r : Reading) :
    Except Fault (Passed Node r) := do
  match h : r.rest with
  | ⟨.value, place⟩ :: rest =>
    let node ← readOptional handles position ends place { r with rest }
    return ⟨node.value, node.next, Nat.le_trans node.notLonger (by simp [h])⟩
  | _ => return ⟨.empty r.place none, r, Nat.le_refl _⟩
termination_by 3 * r.rest.length + 2
decreasing_by simp only [h, List.length_cons]; omega

/-- Reads the items of a list in block style up to and with its end; `read` holds those so far, the
last first. -/
def readItems (handles : Handles) (read : List Node) (r : Reading) :
    Except Fault (Found (List Node) r) := do
  match h : r.rest with
  | ⟨.item, place⟩ :: rest =>
    let item ← readOptional handles .block endsItem place { r with rest }
    have := item.notLonger
    let items ← readItems handles (item.value :: read) item.next
    return ⟨items.value, items.next, by
      have := items.shorter
      simp only [h, List.length_cons] at *; omega⟩
  | ⟨.blockEnd, _⟩ :: rest => return ⟨read.reverse, { r with rest }, by simp [h]⟩
  | _ => throw (r.fault .expectedItem)
termination_by 3 * r.rest.length + 2
decreasing_by all_goals simp only [h, List.length_cons] at *; omega

/-- Reads the items of a list that is not indented. -/
def readPlainItems (handles : Handles) (read : List Node) (r : Reading) :
    Except Fault (Passed (List Node) r) := do
  match h : r.rest with
  | ⟨.item, place⟩ :: rest =>
    let item ← readOptional handles .block endsPlainItem place { r with rest }
    have := item.notLonger
    let items ← readPlainItems handles (item.value :: read) item.next
    return ⟨items.value, items.next, by
      have := items.notLonger
      simp only [h, List.length_cons] at *; omega⟩
  | _ => return ⟨read.reverse, r, Nat.le_refl _⟩
termination_by 3 * r.rest.length + 2
decreasing_by all_goals simp only [h, List.length_cons] at *; omega

/-- Reads the entries of a mapping in block style up to and with its end. -/
def readEntries (handles : Handles) (read : List (Node × Node)) (r : Reading) :
    Except Fault (Found (List (Node × Node)) r) := do
  match h : r.rest with
  | ⟨.key, place⟩ :: rest =>
    let key ← readOptional handles .entry endsEntry place { r with rest }
    have := key.notLonger
    let value ← readEntryValue handles .entry endsEntry key.next
    have := value.notLonger
    let entries ← readEntries handles ((key.value, value.value) :: read) value.next
    return ⟨entries.value, entries.next, by
      have := entries.shorter
      simp only [h, List.length_cons] at *; omega⟩
  | ⟨.blockEnd, _⟩ :: rest => return ⟨read.reverse, { r with rest }, by simp [h]⟩
  | _ => throw (r.fault .expectedKey)
termination_by 3 * r.rest.length + 2
decreasing_by all_goals simp only [h, List.length_cons] at *; omega

/-- Reads the items of a list in flow style up to and with its bracket. A single entry may stand for
the mapping that holds it; its key may not be left out, and whatever stands in place of the key is
passed over. -/
def readFlowItems (handles : Handles) (read : List Node) (r : Reading) :
    Except Fault (Found (List Node) r) := do
  match h : r.rest with
  | ⟨.closeBracket, _⟩ :: rest => return ⟨read.reverse, { r with rest }, by simp [h]⟩
  | ⟨.key, place⟩ :: rest =>
    let key ←
      match h' : rest with
      | l :: behind =>
        if l.lexeme = .value || endsFlowItem l.lexeme then
          pure (Passed.mk (r := { r with rest }) (.empty l.place.behindMark none)
            { r with rest := behind } (by simp [h']))
        else do
          let node ← readNode handles .flow { r with rest }
          pure ⟨node.value, node.next, Nat.le_of_lt node.shorter⟩
      | [] => throw (r.fault .expectedContent)
    have := key.notLonger
    let value ← readEntryValue handles .flow endsFlowItem key.next
    have := value.notLonger
    let next ← skipComma .closeBracket .expectedCommaOrBracket value.next
    have := next.notLonger
    let pair := Node.mapping place none [(key.value, value.value)]
    let items ← readFlowItems handles (pair :: read) next.next
    return ⟨items.value, items.next, by
      have := items.shorter
      simp only [h, List.length_cons] at *; omega⟩
  | _ =>
    let item ← readNode handles .flow r
    have := item.shorter
    let next ← skipComma .closeBracket .expectedCommaOrBracket item.next
    have := next.notLonger
    let items ← readFlowItems handles (item.value :: read) next.next
    return ⟨items.value, items.next, by
      have := items.shorter
      omega⟩
termination_by 3 * r.rest.length + 2
decreasing_by all_goals simp only [h, List.length_cons] at *; omega

/-- Reads the entries of a mapping in flow style up to and with its brace. A key without a mark has no
value. -/
def readFlowEntries (handles : Handles) (read : List (Node × Node)) (r : Reading) :
    Except Fault (Found (List (Node × Node)) r) := do
  match h : r.rest with
  | ⟨.closeBrace, _⟩ :: rest => return ⟨read.reverse, { r with rest }, by simp [h]⟩
  | ⟨.key, place⟩ :: rest =>
    let key ← readOptional handles .flow endsFlowKey place { r with rest }
    have := key.notLonger
    let value ← readEntryValue handles .flow endsFlowValue key.next
    have := value.notLonger
    let next ← skipComma .closeBrace .expectedCommaOrBrace value.next
    have := next.notLonger
    let entries ← readFlowEntries handles ((key.value, value.value) :: read) next.next
    return ⟨entries.value, entries.next, by
      have := entries.shorter
      simp only [h, List.length_cons] at *; omega⟩
  | _ =>
    let key ← readNode handles .flow r
    have := key.shorter
    let value := Node.empty key.next.place none
    let next ← skipComma .closeBrace .expectedCommaOrBrace key.next
    have := next.notLonger
    let entries ← readFlowEntries handles ((key.value, value) :: read) next.next
    return ⟨entries.value, entries.next, by
      have := entries.shorter
      omega⟩
termination_by 3 * r.rest.length + 2
decreasing_by all_goals simp only [h, List.length_cons] at *; omega

end

/-! ### Documents -/

/-- Reads the directives in front of a document. -/
def readDirectives (version? : Option (Nat × Nat)) (handles : Handles) :
    List Located → Except Fault (Handles × List Located)
  | ⟨.version major minor, place⟩ :: rest =>
    if version?.isSome then .error ⟨.repeatedDirective, place⟩
    else if major = 1 && (minor = 1 || minor = 2) then
      readDirectives (some (major, minor)) handles rest
    else .error ⟨.unknownVersion, place⟩
  | ⟨.tagHandle handle start, place⟩ :: rest =>
    if (handles.lookup handle).isSome then .error ⟨.repeatedDirective, place⟩
    else readDirectives version? (handles ++ [(handle, start)]) rest
  | rest => .ok (handles, rest)

/-- The handles that have a meaning without a directive. -/
def defaultHandles : Handles := [("!", .ofString "!"), ("!!", .ofString "tag:yaml.org,2002:")]

/-- Whether a lexeme starts or ends a document, so that one before it is empty. -/
def endsDocument : Lexeme → Bool
  | .version .. | .tagHandle .. | .documentStart | .documentEnd => true
  | _ => false

/-- Reads the node of a document. -/
def readContent (handles : Handles) (place : Place) (rest : List Located) :
    Except Fault (Document × List Located) :=
  if rest.head?.all (endsDocument ·.lexeme) then .ok (⟨.empty place none, []⟩, rest)
  else do
    let root ← readNode handles .block { rest }
    return (root.next.document root.value, root.next.rest)

/-- Whether a lexeme is the mark that ends a document. -/
def isDocumentEnd (l : Located) : Bool := l.lexeme == .documentEnd

/-- The only document of a text, or `none` if the text holds no document. -/
def document? (text : String) : Except Fault (Option Document) := do
  let ls ← lexemes text
  match ls with
  | [] => return none
  | first :: _ =>
    let (document, rest) ←
      if endsDocument first.lexeme && !isDocumentEnd first then do
        let (handles, rest) ← readDirectives none [] ls
        match rest with
        | ⟨.documentStart, place⟩ :: rest => readContent (handles ++ defaultHandles) place rest
        | rest => throw (Reading.fault { rest } .expectedDocument)
      else do
        let root ← readNode defaultHandles .block { rest := ls }
        pure (root.next.document root.value, root.next.rest)
    match rest.dropWhile isDocumentEnd with
    | [] => return some document
    | l :: _ =>
      if endsDocument l.lexeme then throw ⟨.moreThanOneDocument, .start⟩
      else throw ⟨.expectedDocument, l.place⟩

end Mustache.Yaml
