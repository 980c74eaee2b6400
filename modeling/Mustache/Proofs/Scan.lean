import Mustache.Proofs.Expansion
/-!
# Scanning an expansion

A scan goes over the tokens of an expansion once, from left to right, and remembers the names of the
sections that are open. It knows no context: it hides nothing, goes back to nothing and prints
nothing, and it comes to an end or to the first error that is in the tokens alone.

* `Item.scan opened items` is the scan from inside the sections `opened`, the innermost first, and
  `Item.scanTag` says what one tag does to them.
* `Leads a nodes b`: a scan over these tokens leads from inside the sections `a` to inside the
  sections `b`, whatever comes behind.
-/

namespace Mustache

namespace Item

/-- What a tag does to the names of the open sections, before the marker that closes it is looked
at. A tag that includes a partial is left in an expansion only if it is not whole. -/
def scanTag (opened : List String) (m : Marker) (name : String) :
    Except RenderError (List String) :=
  match m with
  | .close | .closeUnescaped => .error (.unexpected m)
  | .comment => .ok opened
  | .escaped | .unescaped => do
    checkTagName name
    return opened
  | .sectionOpen | .shownIf | .shownUnless | .shownIfFound => do
    checkTagName name
    return name :: opened
  | .sectionClose =>
    match opened with
    | [] => .error (.unexpected .sectionClose)
    | opening :: outer => do
      Walk.checkEndName opening name
      return outer
  | .partialTag | .partialByVariable => do
    checkReference name
    throw (.missing .close)

/-- Scans an expansion from inside some sections. -/
def scan (opened : List String) : List Item → Except RenderError Unit
  | [] => if opened.isEmpty then .ok () else .error (.missing .sectionClose)
  | .stop e :: _ => .error e
  | .token (.text _) :: items => scan opened items
  | .token (.marker m) :: .token (.text name) :: .token (.marker found) :: items => do
    let opened ← scanTag opened m name
    if found = m.closing then scan opened items else .error (.missing m.closing)
  | .token (.marker m) :: .token (.text name) :: _ => do
    let _ ← scanTag opened m name
    .error (.missing m.closing)
  | .token (.marker m) :: _ => .error (.missingName m)

variable {opened : List String} {m : Marker} {name : String} {items : List Item}

@[simp] theorem scan_text (opened : List String) (s : String) (items : List Item) :
    scan opened (.token (.text s) :: items) = scan opened items := rfl

/-- Over a whole tag. -/
theorem scan_tag (opened : List String) (m : Marker) (name : String) (items : List Item) :
    scan opened (.token (.marker m) :: .token (.text name) :: .token (.marker m.closing) :: items) =
      (do scan (← scanTag opened m name) items) := by
  rw [scan]
  simp only [if_true]

/-- A tag that is not closed. -/
theorem scan_unfinished (h : ∀ rest, items ≠ .token (.marker m.closing) :: rest) :
    scan opened (.token (.marker m) :: .token (.text name) :: items) = (do
      let _ ← scanTag opened m name
      .error (.missing m.closing)) := by
  match items with
  | [] => rfl
  | .stop e :: items => rfl
  | .token (.text s) :: items => rfl
  | .token (.marker found) :: items =>
    have hfound : found ≠ m.closing := by
      rintro rfl
      exact h items rfl
    simp only [scan, if_neg hfound]

/-- A tag with an error in its name. -/
theorem scan_of_scanTag {e : RenderError} (h : scanTag opened m name = .error e) :
    scan opened (.token (.marker m) :: .token (.text name) :: items) = .error e := by
  by_cases hclose : ∃ rest, items = .token (.marker m.closing) :: rest
  · obtain ⟨rest, rfl⟩ := hclose
    rw [scan_tag, h]
    rfl
  · rw [scan_unfinished fun rest hrest => hclose ⟨rest, hrest⟩, h]
    rfl

theorem scanTag_of_opensVariable (hm : m.opensVariable) (opened : List String) (name : String) :
    scanTag opened m name = (do
      checkTagName name
      return opened) := by
  cases m <;> simp_all [Marker.opensVariable, scanTag]

theorem scanTag_of_opensSection (hm : m.opensSection) (opened : List String) (name : String) :
    scanTag opened m name = (do
      checkTagName name
      return name :: opened) := by
  cases m <;> simp_all [Marker.opensSection, scanTag]

theorem scanTag_of_opensPartial (hm : m.opensPartial) (opened : List String) (name : String) :
    scanTag opened m name = (do
      checkReference name
      throw (.missing .close)) := by
  cases m <;> simp_all [Marker.opensPartial, scanTag]

theorem scanTag_sectionClose (outer : List String) (name : String) :
    scanTag (name :: outer) .sectionClose name = .ok outer := by
  show (do Walk.checkEndName name name; return outer) = Except.ok outer
  rw [Walk.checkEndName_self]
  rfl

theorem scanTag_of_isClose (hm : m.isClose) (opened : List String) (name : String) :
    scanTag opened m name = .error (.unexpected m) := by
  cases m <;> simp_all [Marker.isClose, scanTag]

end Item

/-! ### Passed tokens -/

/-- A scan over the tokens leads from inside the sections `a` to inside the sections `b`. -/
def Leads (a : List String) (nodes : List Node) (b : List String) : Prop :=
  ∀ items, Item.scan a ((Node.tokens nodes).map .token ++ items) = Item.scan b items

namespace Leads

variable {a b c : List String} {nodes more : List Node} {m : Marker} {name : String}

theorem nil (a : List String) : Leads a [] a := fun _ => rfl

theorem append (h : Leads a nodes b) (h' : Leads b more c) : Leads a (nodes ++ more) c := by
  intro items
  rw [Node.tokens_append, List.map_append, List.append_assoc, h, h']

theorem text (a : List String) (s : String) (d : Nat) : Leads a [⟨.text s, d⟩] a := fun _ => rfl

theorem tag (hnodes : Node.tokens nodes = m.tag name) (h : Item.scanTag a m name = .ok b) :
    Leads a nodes b := by
  intro items
  rw [hnodes]
  exact (Item.scan_tag a m name items).trans (by rw [h, ok_bind])

end Leads

end Mustache
