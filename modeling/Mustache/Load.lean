import Mustache.Text.Utf8
/-!
# Loading by name

Templates and context documents are known by a logical name and an extension, and a `Loader` answers
such a pair with a text. There are two kinds: a `Store` keeps its texts in memory, and
`Loader.ofDirectory` takes them from the files below a directory. Names are used as they are: no
segment of a path is resolved or dropped.
-/

namespace Mustache

/-- Why a file cannot be read. -/
inductive ReadError where
  /-- There is no such file. -/
  | notFound
  /-- A file stands where the path needs a directory. -/
  | notDirectory
  /-- The path leads to a directory. -/
  | isDirectory
  /-- A segment of the path is too long for a file name. -/
  | nameTooLong
  /-- The path contains the NUL character. -/
  | nulInName
  /-- The file is not UTF-8 text, and only text was asked for. -/
  | notText
  /-- The file has not been read yet: who keeps the files has to read it and to ask again. -/
  | unread
  /-- Any other cause, in words. -/
  | other (cause : String)
deriving DecidableEq, Repr

/-- The cause in words. -/
def ReadError.message : ReadError → String
  | notFound => "No such file or directory (os error 2)"
  | notDirectory => "Not a directory (os error 20)"
  | isDirectory => "Is a directory (os error 21)"
  | nameTooLong => "File name too long (os error 36)"
  | nulInName => "file name contained an unexpected NUL byte"
  | notText => "stream did not contain valid UTF-8"
  | unread => "file has not been read"
  | other cause => cause

/-- What can be read: the bytes of the file at each path. -/
abbrev Files := String → Except ReadError ByteArray

/-- The text of the file at a path. -/
def Files.readText (files : Files) (path : String) : Except ReadError String := do
  match Text.Utf8.decode (← files path) with
  | .ok text => return text
  | .error _ => throw .notText

/-- Why a name cannot be loaded. -/
inductive LoadError where
  /-- Nothing is there, or it cannot be read. -/
  | cannotOpen (path : String) (cause : Option ReadError)
  /-- What is there is no text. -/
  | notUtf8 (path : String) (fault : Text.Utf8.Fault)
deriving DecidableEq, Repr

/-- The error in words. -/
def LoadError.message : LoadError → String
  | cannotOpen path _ => s!"Cannot open file: {path}"
  | notUtf8 path _ => s!"File is not valid UTF-8: {path}"

/-- What stands behind the error, in words, if anything does. -/
def LoadError.cause? : LoadError → Option String
  | cannotOpen _ cause => cause.map ReadError.message
  | notUtf8 _ fault => some fault.message

/-- The text under each name and extension. -/
abbrev Loader := String → String → Except LoadError String

/-- Why the file behind the error cannot be read, with its path. -/
def LoadError.readError? : LoadError → Option (String × ReadError)
  | cannotOpen path cause => cause.map (path, ·)
  | notUtf8 .. => none

/-- The file name of a logical name. An empty extension adds nothing. -/
def fileName (name extension : String) : String :=
  if extension.isEmpty then name else s!"{name}.{extension}"

/-! ### In memory -/

/-- Texts in memory, under their file names. -/
structure Store where
  /-- The file names and texts. -/
  entries : List (String × String)
deriving DecidableEq, Repr

namespace Store

/-- The store that holds nothing. -/
def empty : Store := ⟨[]⟩

instance : EmptyCollection Store := ⟨empty⟩

/-- The number of texts. -/
def size (s : Store) : Nat := s.entries.length

/-- Whether there is no text. -/
def isEmpty (s : Store) : Bool := s.entries.isEmpty

/-- The text under a file name. -/
def get? (s : Store) (key : String) : Option String := s.entries.lookup key

/-- Puts a text under a name and extension, in place of the one that is there. -/
def insert (s : Store) (name extension text : String) : Store :=
  let key := fileName name extension
  ⟨(key, text) :: s.entries.filter fun entry => entry.1 != key⟩

/-- The store that holds the given texts, each under a name and an extension; a later one takes the
place of an earlier one. -/
def ofList (texts : List (String × String × String)) : Store :=
  texts.foldl (fun s (name, extension, text) => s.insert name extension text) ∅

/-- Loads from the store. -/
def loader (s : Store) : Loader := fun name extension =>
  match s.get? (fileName name extension) with
  | some text => .ok text
  | none => .error (.cannotOpen (fileName name extension) none)

@[simp] theorem get?_empty (key : String) : (∅ : Store).get? key = none := rfl

@[simp] theorem get?_insert_self (s : Store) (name extension text : String) :
    (s.insert name extension text).get? (fileName name extension) = some text := by
  simp [insert, get?]

theorem get?_insert_of_ne (s : Store) {name extension key : String} (text : String)
    (h : key ≠ fileName name extension) : (s.insert name extension text).get? key = s.get? key := by
  simp only [insert, get?, List.lookup_cons, beq_eq_false_iff_ne.mpr h]
  induction s.entries with
  | nil => rfl
  | cons entry entries ih =>
    obtain ⟨k, v⟩ := entry
    by_cases hk : k = fileName name extension
    · simp [hk, List.lookup_cons, beq_eq_false_iff_ne.mpr h, ih]
    · simp [hk, List.lookup_cons, ih]

end Store

/-! ### In a directory -/

/-- Whether a path starts at the root. -/
def isAbsolute (path : String) : Bool :=
  path.toList.head? == some '/'

/-- The path of a file below a directory. An absolute file name stands for itself, and an empty
directory adds nothing. -/
def joinPath (directory file : String) : String :=
  if isAbsolute file || directory.isEmpty then file
  else if directory.toList.getLast? == some '/' then directory ++ file
  else directory ++ "/" ++ file

/-- The path of a name and extension below a directory. -/
def pathFor (directory name extension : String) : String :=
  joinPath directory (fileName name extension)

/-- Loads from the files below a directory. -/
def Loader.ofDirectory (files : Files) (directory : String) : Loader := fun name extension =>
  let path := pathFor directory name extension
  match files path with
  | .error cause => .error (.cannotOpen path (some cause))
  | .ok bytes =>
    match Text.Utf8.decode bytes with
    | .ok text => .ok text
    | .error fault => .error (.notUtf8 path fault)

end Mustache
