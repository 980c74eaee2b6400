import Mustache.Load.Tree
import Mustache.Proofs.Directory
/-!
# A tree that holds the texts of a store

A `Tree` answers paths from files in memory. On a path that may be the one of a file it does so by a
look-up of the segments alone, and what it finds there it gives unless the segments are those of a
directory as well.

* `Tree.read_eq_ok_iff`: this look-up.
* `Store.holds_tree`: the tree of the texts of a store, each put below the directory, holds the
  store there, if the texts can be files: no file name is too long, and no text lies below another
  one.
-/

namespace Mustache

/-! ### Segments -/

variable {path key : String} {bytes : ByteArray}

theorem rawSegments_append (front back : String) :
    rawSegments (front ++ "/" ++ back) = rawSegments front ++ rawSegments back := by
  have hchars : (front ++ "/" ++ back).toList = front.toList ++ '/' :: back.toList := by simp
  rw [rawSegments, hchars, List.splitOn_append_cons_self, List.map_append]
  rfl

theorem segments_append (front back : String) :
    segments (front ++ "/" ++ back) = segments front ++ segments back := by
  rw [segments, rawSegments_append, List.filter_append]
  rfl

theorem IsPlainPath.ne_of_mem (h : IsPlainPath path) {segment : String}
    (hsegment : segment ∈ rawSegments path) : segment ≠ "" ∧ segment ≠ "." ∧ segment ≠ ".." := by
  obtain ⟨cs, hcs, rfl⟩ := List.mem_map.mp hsegment
  obtain ⟨hempty, hdot, hdots⟩ := h cs hcs
  refine ⟨?_, ?_, ?_⟩
  all_goals
    intro heq
    have hchars := congrArg String.toList heq
    rw [String.toList_ofList] at hchars
    first
    | exact hempty hchars
    | exact hdot hchars
    | exact hdots hchars

/-- All segments of a plain path count. -/
theorem IsPlainPath.segments_eq (h : IsPlainPath path) : segments path = rawSegments path := by
  refine List.filter_eq_self.mpr fun segment hsegment => ?_
  obtain ⟨hempty, hdot, -⟩ := h.ne_of_mem hsegment
  simp [hempty, hdot]

theorem rawSegments_inj {path' : String} (h : rawSegments path = rawSegments path') :
    path = path' := by
  have hsplit : path.toList.splitOn '/' = path'.toList.splitOn '/' :=
    List.map_injective_iff.mpr (fun _ _ => String.ofList_injective) h
  have hjoin := congrArg ['/'].intercalate hsplit
  rwa [List.intercalate_splitOn, List.intercalate_splitOn, String.toList_inj] at hjoin

theorem isAbsolute_append {front : String} (h : front.isEmpty = false) (back : String) :
    isAbsolute (front ++ back) = isAbsolute front := by
  have hchars : front.toList ≠ [] := by
    intro hnil
    rw [String.toList_eq_nil_iff.mp hnil] at h
    exact absurd h (by decide)
  rw [isAbsolute, isAbsolute, String.toList_append, List.head?_append_of_ne_nil _ hchars]

/-- A plain path below a directory leads where the directory does, and its segments come behind
those of the directory. -/
theorem IsPlainPath.joinPath {directory : String} (hkey : IsPlainPath key)
    (hdirectory : isAbsolute directory = false) :
    isAbsolute (joinPath directory key) = false ∧
      segments (joinPath directory key) = segments directory ++ segments key := by
  rw [Mustache.joinPath, hkey.not_isAbsolute, Bool.false_or]
  cases hempty : directory.isEmpty with
  | true =>
    obtain rfl := String.isEmpty_iff.mp hempty
    exact ⟨hkey.not_isAbsolute, rfl⟩
  | false =>
    rw [if_neg Bool.false_ne_true]
    split
    · rename_i hslash
      -- The slash is there already, with nothing behind it.
      obtain ⟨cs, hcs⟩ := List.getLast?_eq_some_iff.mp (eq_of_beq hslash)
      have hdirectory' : directory = String.ofList cs ++ "/" := by
        rw [← String.toList_inj, hcs]
        simp
      have hsegments := segments_append (String.ofList cs) ""
      rw [String.append_empty, ← hdirectory'] at hsegments
      refine ⟨(isAbsolute_append hempty key).trans hdirectory, ?_⟩
      rw [hsegments, hdirectory', segments_append]
      simp [segments, rawSegments]
    · refine ⟨?_, segments_append directory key⟩
      rw [String.append_assoc, isAbsolute_append hempty, hdirectory]

/-! ### Walking down a tree -/

namespace Tree

variable {t : Tree} {needsDirectory : Bool} {front rest : List String}

/-- In front of the last segment of a file stands a directory. -/
theorem isDirectory_of_lookup (h : t.files.lookup (front ++ rest) = some bytes)
    (hrest : rest ≠ []) : t.isDirectory front = true := by
  obtain ⟨before, behind, hfiles, -⟩ := List.lookup_eq_some_iff.mp h
  rw [isDirectory, Bool.or_eq_true, List.any_eq_true]
  refine .inr ⟨(front ++ rest, bytes), hfiles ▸ List.mem_append_right before List.mem_cons_self, ?_⟩
  simp [List.isPrefixOf_iff_prefix, hrest]

/-- A walk goes down by a name, or is over. -/
theorem walk_cons {name : String} (hname : name ≠ "..") :
    t.walk needsDirectory (.inside front) (name :: rest) =
      if maxName < name.utf8ByteSize then .error .nameTooLong
      else if t.isDirectory (front ++ [name]) then
        t.walk needsDirectory (.inside (front ++ [name])) rest
      else
        match t.files.lookup (front ++ [name]) with
        | none => .error .notFound
        | some bytes =>
          if rest.isEmpty && !needsDirectory then .ok bytes else .error .notDirectory := by
  rw [walk]
  all_goals first | rfl | exact hname

/-- **What a walk finds** without going up is what is held under its segments. -/
theorem lookup_of_walk (hdots : ".." ∉ rest)
    (h : t.walk needsDirectory (.inside front) rest = .ok bytes) :
    t.files.lookup (front ++ rest) = some bytes ∧ t.isDirectory (front ++ rest) = false := by
  induction rest generalizing front with
  | nil => simp [walk] at h
  | cons name rest ih =>
    obtain ⟨hname, hrest⟩ := not_or.mp (mt List.mem_cons.mpr hdots)
    rw [walk_cons (Ne.symm hname)] at h
    split at h
    · cases h
    · split at h
      · simpa using ih hrest h
      · rename_i hdirectory
        -- No directory is here, so this is the last name.
        split at h
        · cases h
        · rename_i found hfound
          split at h
          · rename_i hlast
            obtain rfl : rest = [] := by simp_all
            obtain rfl := Except.ok.inj h
            exact ⟨hfound, Bool.eq_false_iff.mpr hdirectory⟩
          · cases h

/-- **A walk finds what is held under its segments**, unless they lead to a directory too. -/
theorem walk_of_lookup (hdots : ".." ∉ rest) (hnames : ∀ name ∈ rest, name.utf8ByteSize ≤ maxName)
    (hrest : rest ≠ []) (h : t.files.lookup (front ++ rest) = some bytes)
    (hfile : t.isDirectory (front ++ rest) = false) :
    t.walk false (.inside front) rest = .ok bytes := by
  induction rest generalizing front with
  | nil => exact absurd rfl hrest
  | cons name rest ih =>
    obtain ⟨hname, hdots'⟩ := not_or.mp (mt List.mem_cons.mpr hdots)
    obtain ⟨hshort, hnames'⟩ := List.forall_mem_cons.mp hnames
    rw [walk_cons (Ne.symm hname), if_neg (Nat.not_lt.mpr hshort)]
    cases rest with
    | nil => simp [hfile, h]
    | cons next rest =>
      -- More names come, so this one is of a directory.
      have hassoc : front ++ name :: next :: rest = front ++ [name] ++ (next :: rest) := by simp
      rw [hassoc] at h hfile
      rw [if_pos (isDirectory_of_lookup h (List.cons_ne_nil next rest))]
      exact ih hdots' hnames' (List.cons_ne_nil next rest) h hfile

end Tree

/-- A path that may be the one of a file in a tree: it does not lead up, it does not end as the path
of a directory does, and it keeps the limits. -/
structure IsFilePath (path : String) : Prop where
  /-- The path starts at the top of the tree. -/
  relative : isAbsolute path = false
  /-- No segment leads up. -/
  noDots : ".." ∉ segments path
  /-- The last segment is a name. -/
  isFile : Tree.endsInDirectory path = false
  /-- The path can be passed on. -/
  noNul : Char.ofNat 0 ∉ path.toList
  /-- The path is not too long. -/
  short : path.utf8ByteSize ≤ Tree.maxPath
  /-- No name is too long. -/
  names : ∀ name ∈ segments path, name.utf8ByteSize ≤ Tree.maxName

/-- The last segment is among those that count. -/
theorem IsFilePath.segments_ne_nil (h : IsFilePath path) : segments path ≠ [] := by
  have hraw : rawSegments path ≠ [] := by simp [rawSegments, List.splitOn_ne_nil]
  have hlast := h.isFile
  rw [Tree.endsInDirectory, List.getLast?_eq_some_getLast hraw] at hlast
  simp only [Bool.or_eq_false_iff] at hlast
  refine List.ne_nil_of_mem (a := (rawSegments path).getLast hraw) ?_
  refine List.mem_filter.mpr ⟨List.getLast_mem hraw, ?_⟩
  simp [bne, hlast]

theorem IsFilePath.isEmpty_eq_false (h : IsFilePath path) : path.isEmpty = false := by
  refine Bool.eq_false_iff.mpr fun hempty => h.segments_ne_nil ?_
  rw [String.isEmpty_iff.mp hempty]
  simp [segments, rawSegments]

namespace Tree

variable {t : Tree}

theorem lookup_of_read (hrelative : isAbsolute path = false) (hdots : ".." ∉ segments path)
    (h : t.read path = .ok bytes) :
    t.files.lookup (segments path) = some bytes ∧ t.isDirectory (segments path) = false := by
  rw [read] at h
  split at h
  · cases h
  · split at h
    · cases h
    · split at h
      · cases h
      · rw [hrelative] at h
        exact lookup_of_walk hdots h

/-- **Reading a file is a look-up.** -/
theorem read_eq_ok_iff (h : IsFilePath path) : t.read path = .ok bytes ↔
    t.files.lookup (segments path) = some bytes ∧ t.isDirectory (segments path) = false := by
  constructor
  · exact lookup_of_read h.relative h.noDots
  · rintro ⟨hlookup, hfile⟩
    have hnul : path.toList.contains (Char.ofNat 0) = false := by simpa using h.noNul
    rw [read, hnul, h.isEmpty_eq_false, if_neg Bool.false_ne_true, if_neg Bool.false_ne_true,
      if_neg (Nat.not_lt.mpr h.short), h.isFile, h.relative]
    exact walk_of_lookup h.noDots h.names h.segments_ne_nil hlookup hfile

end Tree

/-! ### The tree of a store -/

/-- The texts of a store as the files of a tree, below a directory. -/
def Store.tree (s : Store) (directory : String) : Tree :=
  Tree.ofList (s.entries.map fun (key, text) => (joinPath directory key, text.toUTF8)).reverse

/-- The texts of a store can be files below a directory. -/
structure Store.FitsBelow (s : Store) (directory : String) : Prop where
  /-- The directory lies at the top of the tree or below it. -/
  relative : isAbsolute directory = false
  /-- No segment of the directory leads up. -/
  noDots : ".." ∉ segments directory
  /-- The names of the texts are plain. -/
  plain : ∀ entry ∈ s.entries, IsPlainPath entry.1
  /-- Below the directory they may be those of files. -/
  files : ∀ entry ∈ s.entries, IsFilePath (joinPath directory entry.1)
  /-- No text lies below another one. -/
  apart : ∀ entry ∈ s.entries, ∀ entry' ∈ s.entries,
    segments entry.1 <+: segments entry'.1 → entry.1 = entry'.1

theorem segments_joinPath_inj {directory key' : String} (hdirectory : isAbsolute directory = false)
    (hkey : IsPlainPath key) (hkey' : IsPlainPath key')
    (h : segments (joinPath directory key) = segments (joinPath directory key')) : key = key' := by
  rw [(hkey.joinPath hdirectory).2, (hkey'.joinPath hdirectory).2, List.append_cancel_left_eq,
    hkey.segments_eq, hkey'.segments_eq] at h
  exact rawSegments_inj h

namespace Store

variable {s : Store} {directory : String}

theorem files_tree (s : Store) (directory : String) : (s.tree directory).files =
    s.entries.map fun (key, text) => (segments (joinPath directory key), text.toUTF8) := by
  simp [tree, Tree.ofList, Function.comp_def]

/-- The tree holds under the segments of a plain path what the store holds under the path. -/
theorem FitsBelow.lookup_tree (h : s.FitsBelow directory) (hkey : IsPlainPath key) :
    (s.tree directory).files.lookup (segments (joinPath directory key)) =
      (s.get? key).map String.toUTF8 := by
  rw [files_tree, get?]
  have hplain := h.plain
  generalize s.entries = entries at hplain ⊢
  induction entries with
  | nil => rfl
  | cons entry entries ih =>
    obtain ⟨key', text⟩ := entry
    obtain ⟨hkey', hentries⟩ := List.forall_mem_cons.mp hplain
    rw [List.map_cons, List.lookup_cons, List.lookup_cons]
    by_cases heq : key = key'
    · subst heq
      simp
    · have hne : segments (joinPath directory key) ≠ segments (joinPath directory key') :=
        fun hsegments => heq (segments_joinPath_inj h.relative hkey hkey' hsegments)
      rw [beq_eq_false_iff_ne.mpr hne, beq_eq_false_iff_ne.mpr heq]
      exact ih hentries

/-- No file of the tree is a directory. -/
theorem FitsBelow.isDirectory_tree (h : s.FitsBelow directory) {entry : String × String}
    (hentry : entry ∈ s.entries) :
    (s.tree directory).isDirectory (segments (joinPath directory entry.1)) = false := by
  rw [Tree.isDirectory, Bool.or_eq_false_iff, List.isEmpty_eq_false_iff, List.any_eq_false,
    files_tree]
  refine ⟨(h.files entry hentry).segments_ne_nil, fun file hfile habove => ?_⟩
  obtain ⟨entry', hentry', rfl⟩ := List.mem_map.mp hfile
  simp only [Bool.and_eq_true, List.isPrefixOf_iff_prefix, bne_iff_ne, ne_eq,
    ((h.plain entry hentry).joinPath h.relative).2,
    ((h.plain entry' hentry').joinPath h.relative).2, List.prefix_append_right_inj] at habove
  exact habove.2 (by rw [h.apart entry hentry entry' hentry' habove.1])

/-- **The tree of a store holds the store.** -/
theorem holds_tree (h : s.FitsBelow directory) :
    Files.Holds (s.tree directory).read directory s where
  present key text htext := by
    obtain ⟨before, behind, hentries, -⟩ := List.lookup_eq_some_iff.mp htext
    have hentry : (key, text) ∈ s.entries :=
      hentries ▸ List.mem_append_right before List.mem_cons_self
    refine (Tree.read_eq_ok_iff (h.files _ hentry)).mpr ⟨?_, h.isDirectory_tree hentry⟩
    rw [h.lookup_tree (h.plain _ hentry), htext]
    rfl
  absent key hkey hnone := by
    cases hread : (s.tree directory).read (joinPath directory key) with
    | error cause => exact ⟨cause, rfl⟩
    | ok bytes =>
      obtain ⟨hrelative, hsegments⟩ := hkey.joinPath h.relative
      have hdots : ".." ∉ segments (joinPath directory key) := by
        rw [hsegments, hkey.segments_eq, List.mem_append]
        rintro (hdots | hdots)
        · exact h.noDots hdots
        · exact (hkey.ne_of_mem hdots).2.2 rfl
      obtain ⟨hlookup, -⟩ := Tree.lookup_of_read hrelative hdots hread
      rw [h.lookup_tree hkey, hnone] at hlookup
      cases hlookup

/-- Two texts next to each other, one of them in a directory of its own. -/
example : (⟨[("p.mustache", "A"), ("q/p.mustache", "B")]⟩ : Store).FitsBelow "./t/" where
  relative := rfl
  noDots := by decide +kernel
  plain := by decide +kernel
  files := by
    intro entry hentry
    simp only [List.mem_cons, List.not_mem_nil, or_false] at hentry
    obtain rfl | rfl := hentry
    all_goals constructor <;> decide +kernel
  apart := by decide +kernel

end Store

end Mustache
