import Mustache.Load
/-!
# A directory tree in memory

A `Tree` holds files under relative paths, and answers paths the way a file system does whose
working directory is the top of the tree: empty segments and single dots count for nothing, two dots
lead to the directory above, and every segment but the last has to be a directory. Nothing is known
of what lies outside the tree, so nothing is found there.

A tree stands for the files of a program where there is no file system. The tree of some texts is a
directory that holds them (`Store.holds_tree`).
-/

namespace Mustache

/-- The segments of a path as they stand between slashes. -/
def rawSegments (path : String) : List String :=
  (path.toList.splitOn '/').map String.ofList

/-- The segments of a path that count for something. -/
def segments (path : String) : List String :=
  (rawSegments path).filter fun s => s != "" && s != "."

/-- Files under the segments of their paths; the first one of a path counts. -/
structure Tree where
  /-- The paths and contents. -/
  files : List (List String × ByteArray)

namespace Tree

/-- The tree that holds the given files; a later one takes the place of an earlier one. -/
def ofList (files : List (String × ByteArray)) : Tree :=
  ⟨(files.map fun (path, bytes) => (segments path, bytes)).reverse⟩

/-- Whether a directory of the tree has this path, given as segments. -/
def isDirectory (t : Tree) (path : List String) : Bool :=
  path.isEmpty || t.files.any fun (file, _) => path.isPrefixOf file && path != file

/-- A directory on the way along a path. -/
inductive Directory where
  /-- A directory of the tree, by its segments. -/
  | inside (path : List String)
  /-- A directory above the tree. -/
  | above
deriving DecidableEq, Repr

/-- The longest name of a file or directory, in bytes. -/
def maxName : Nat := 255

/-- The longest path, in bytes. -/
def maxPath : Nat := 4095

/-- Reads the file at the end of some segments, starting in a directory. `needsDirectory` says
whether the end has to be a directory. -/
def walk (t : Tree) (needsDirectory : Bool) :
    Directory → List String → Except ReadError ByteArray
  | _, [] => .error .isDirectory
  | .above, ".." :: rest => t.walk needsDirectory .above rest
  | .above, name :: _ => .error (if maxName < name.utf8ByteSize then .nameTooLong else .notFound)
  | .inside path, ".." :: rest =>
    t.walk needsDirectory (if path.isEmpty then .above else .inside path.dropLast) rest
  | .inside path, name :: rest =>
    let path := path ++ [name]
    if maxName < name.utf8ByteSize then .error .nameTooLong
    else if t.isDirectory path then t.walk needsDirectory (.inside path) rest
    else
      match t.files.lookup path with
      | none => .error .notFound
      | some bytes => if rest.isEmpty && !needsDirectory then .ok bytes else .error .notDirectory

/-- Whether the path can only lead to a directory. -/
def endsInDirectory (path : String) : Bool :=
  match (rawSegments path).getLast? with
  | some last => last == "" || last == "." || last == ".."
  | none => false

/-- Reads the file at a path. -/
def read (t : Tree) : Files := fun path =>
  if path.toList.contains (Char.ofNat 0) then .error .nulInName
  else if path.isEmpty then .error .notFound
  else if maxPath < path.utf8ByteSize then .error .nameTooLong
  else
    t.walk (endsInDirectory path) (if isAbsolute path then .above else .inside []) (segments path)

end Tree

end Mustache
