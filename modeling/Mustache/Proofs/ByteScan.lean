import Mustache.Proofs.Cutting
/-!
# Cutting in one pass over the bytes

`tokenize` finds the markers of a template first and trims the names afterwards, and it does so on
characters. Both can be done in one pass over the bytes that keeps three things: the place where the
running text begins, the place where it looks, and the marker in front of the text if it opens a
tag.

* `ByteScan.scan`: this pass. It takes each text out of the template by the places of its ends,
  which gives nothing if one of them is inside a character.
* `ByteScan.scan_eq_tokenize`: the pass gives the tokens of the template, so all its places are
  between characters.

Braces and the characters that select a marker are single bytes, and no byte of a longer character
is one of them. So the pass goes through the template as `Spans.cut_induction` does.
-/

namespace Mustache

namespace ByteScan

/-- The byte at a place. -/
def byte? (s : String) (i : Nat) : Option UInt8 := s.toByteArray[i]?

/-- The text between two places, if characters begin there. -/
def slice? (s : String) (start stop : Nat) : Option String :=
  if start ≤ stop ∧ (⟨start⟩ : String.Pos.Raw).IsValid s ∧ (⟨stop⟩ : String.Pos.Raw).IsValid s then
    String.fromUTF8? (s.toByteArray.extract start stop)
  else none

/-- The byte of a brace comes twice. -/
def Doubles (s : String) (pos : Nat) (brace : Char) : Prop :=
  byte? s pos = some brace.toUInt8 ∧ byte? s (pos + 1) = some brace.toUInt8

instance (s : String) (pos : Nat) (brace : Char) : Decidable (Doubles s pos brace) :=
  inferInstanceAs (Decidable (_ ∧ _))

/-- The marker of two opening braces with a byte behind them. -/
def openMarker (b? : Option UInt8) : Marker :=
  (b?.bind fun b => Marker.ofSelector? (Char.ofUInt8 b)).getD .escaped

/-- The marker of two closing braces with a byte behind them. -/
def closeMarker (last? : Option Marker) (b? : Option UInt8) : Marker :=
  if last? = some .unescaped ∧ b? = some '}'.toUInt8 then .closeUnescaped else .close

/-- The number of bytes of a marker. -/
def width : Marker → Nat
  | .escaped | .close => 2
  | _ => 3

theorem width_pos (m : Marker) : 0 < width m := by cases m <;> decide

theorem width_eq (m : Marker) : width m = m.symbol.utf8ByteSize := by cases m <;> rfl

/-- The pass from the place `pos` on, with the running text from `start` on. `last?` is the marker
in front of this text, if it opens a tag. -/
def scanFrom (s : String) (start pos : Nat) (last? : Option Marker) : Option (List Token) :=
  if pos < s.utf8ByteSize then
    if Doubles s pos '{' then do
      let m := openMarker (byte? s (pos + 2))
      let text ← slice? s start pos
      let tokens ← scanFrom s (pos + width m) (pos + width m) (some m)
      return .text text :: .marker m :: tokens
    else if Doubles s pos '}' then do
      let m := closeMarker last? (byte? s (pos + 2))
      let text ← slice? s start pos
      let tokens ← scanFrom s (pos + width m) (pos + width m) none
      return .text (Text.trim text) :: .marker m :: tokens
    else scanFrom s start (pos + 1) last?
  else do
    let text ← slice? s start s.utf8ByteSize
    return [.text text]
termination_by s.utf8ByteSize - pos
decreasing_by
  · have := width_pos (openMarker (byte? s (pos + 2)))
    omega
  · have := width_pos (closeMarker last? (byte? s (pos + 2)))
    omega
  · omega

/-- The tokens of a template in one pass over its bytes. -/
def scan (template : String) : Option (List Token) := scanFrom template 0 0 none

/-! ### Bytes and characters -/

variable {c : Char} {cs : List Char}

theorem le_toNat_of_utf8Size (hsize : c.utf8Size ≠ 1) : 128 ≤ c.toNat := by
  refine Nat.lt_of_not_le fun hsmall => hsize ?_
  exact Char.utf8Size_eq_one_iff.mpr (UInt32.le_iff_toNat_le.mpr hsmall)

/-- The bytes of a character that takes more than one are all above the ASCII codes. -/
theorem le_toNat_of_mem {b : UInt8} (hsize : c.utf8Size ≠ 1) (hb : b ∈ String.utf8EncodeChar c) :
    128 ≤ b.toNat := by
  have hlarge : ¬ c.val.toNat ≤ 127 := Nat.not_le.mpr (le_toNat_of_utf8Size hsize)
  rw [String.utf8EncodeChar] at hb
  simp only [hlarge, if_false] at hb
  split at hb
  · simp only [List.mem_cons, List.not_mem_nil, or_false] at hb
    rcases hb with rfl | rfl <;> rw [UInt8.toNat_ofNat'] <;> omega
  · split at hb
    · simp only [List.mem_cons, List.not_mem_nil, or_false] at hb
      rcases hb with rfl | rfl | rfl <;> rw [UInt8.toNat_ofNat'] <;> omega
    · simp only [List.mem_cons, List.not_mem_nil, or_false] at hb
      rcases hb with rfl | rfl | rfl | rfl <;> rw [UInt8.toNat_ofNat'] <;> omega

theorem toNat_toUInt8 (hsize : c.utf8Size = 1) : c.toUInt8.toNat = c.toNat ∧ c.toNat ≤ 127 := by
  have hsmall : c.toNat ≤ 127 := UInt32.le_iff_toNat_le.mp (Char.utf8Size_eq_one_iff.mp hsize)
  refine ⟨?_, hsmall⟩
  show c.toNat % 256 = c.toNat
  omega

/-- The bytes of a text are those of its characters. -/
theorem byte?_eq (s : String) (i : Nat) :
    byte? s i = (s.toList.flatMap String.utf8EncodeChar)[i]? := by
  have hbytes : s.toByteArray = (s.toList.flatMap String.utf8EncodeChar).toByteArray :=
    String.utf8Encode_toList.symm
  rw [byte?, hbytes]
  by_cases hi : i < (s.toList.flatMap String.utf8EncodeChar).length
  · have hi' : i < (s.toList.flatMap String.utf8EncodeChar).toByteArray.size := by
      rwa [List.size_toByteArray]
    rw [getElem?_pos _ i hi', getElem?_pos _ i hi, List.getElem_toByteArray]
  · have hi' : ¬ i < (s.toList.flatMap String.utf8EncodeChar).toByteArray.size := by
      rwa [List.size_toByteArray]
    rw [getElem?_neg _ i hi', getElem?_neg _ i hi]

theorem utf8ByteSize_eq (s : String) :
    s.utf8ByteSize = (s.toList.flatMap String.utf8EncodeChar).length := by
  rw [← String.size_toByteArray, ← String.utf8Encode_toList]
  exact List.size_toByteArray

theorem byte?_append (before text : String) (k : Nat) :
    byte? (before ++ text) (before.utf8ByteSize + k) = byte? text k := by
  rw [byte?_eq, byte?_eq, utf8ByteSize_eq, String.toList_append, List.flatMap_append,
    List.getElem?_append_right (Nat.le_add_right _ _), Nat.add_sub_cancel_left]

theorem slice?_append (before text behind : String) :
    slice? (before ++ text ++ behind) before.utf8ByteSize (before ++ text).utf8ByteSize =
      some text := by
  have hstart : (⟨before.utf8ByteSize⟩ : String.Pos.Raw).IsValid (before ++ text ++ behind) :=
    String.Pos.Raw.isValid_iff_exists_append.mpr
      ⟨before, text ++ behind, String.append_assoc, rfl⟩
  have hstop : (⟨(before ++ text).utf8ByteSize⟩ : String.Pos.Raw).IsValid
      (before ++ text ++ behind) :=
    String.Pos.Raw.isValid_iff_exists_append.mpr ⟨before ++ text, behind, rfl, rfl⟩
  have hextract : (before ++ text ++ behind).toByteArray.extract before.utf8ByteSize
      (before ++ text).utf8ByteSize = text.toByteArray := by
    rw [String.toByteArray_append, ← String.size_toByteArray, ← String.size_toByteArray,
      ByteArray.extract_append_size_left, String.toByteArray_append]
    exact ByteArray.extract_append_eq_right rfl ByteArray.size_append
  rw [slice?, if_pos ⟨by simp, hstart, hstop⟩, hextract]
  exact dif_pos text.isValidUTF8

theorem byte?_cons (hsize : c.utf8Size = 1) :
    byte? (String.ofList (c :: cs)) 0 = some c.toUInt8 := by
  rw [byte?_eq, String.toList_ofList, List.flatMap_cons, String.utf8EncodeChar_eq_singleton hsize]
  rfl

/-- The places behind the first character of a text are those of its other characters. -/
theorem byte?_cons_add (c : Char) (cs : List Char) (k : Nat) :
    byte? (String.ofList (c :: cs)) (c.utf8Size + k) = byte? (String.ofList cs) k := by
  rw [byte?_eq, byte?_eq, String.toList_ofList, String.toList_ofList, List.flatMap_cons,
    ← String.length_utf8EncodeChar, List.getElem?_append_right (Nat.le_add_right _ _),
    Nat.add_sub_cancel_left]

/-- **A byte below 128 is a character.** -/
theorem exists_of_byte? {b : UInt8} {k : Nat} (hk : k < c.utf8Size)
    (hb : byte? (String.ofList (c :: cs)) k = some b) (hsmall : b.toNat < 128) :
    k = 0 ∧ c.utf8Size = 1 ∧ b = c.toUInt8 := by
  by_cases hsize : c.utf8Size = 1
  · obtain rfl : k = 0 := by omega
    rw [byte?_cons hsize] at hb
    exact ⟨rfl, hsize, (Option.some.inj hb).symm⟩
  · rw [byte?_eq, String.toList_ofList, List.flatMap_cons,
      List.getElem?_append_left (by rwa [String.length_utf8EncodeChar])] at hb
    have := le_toNat_of_mem hsize (List.mem_of_getElem? hb)
    omega

theorem toUInt8_inj {d : Char} (hc : c.utf8Size = 1) (hd : d.utf8Size = 1)
    (h : c.toUInt8 = d.toUInt8) : c = d := by
  have hcode : c.toNat = d.toNat := by
    rw [← (toNat_toUInt8 hc).1, ← (toNat_toUInt8 hd).1, h]
  rw [← Char.ofNat_toNat c, ← Char.ofNat_toNat d, hcode]

/-- The byte of a brace begins a text just if the brace does. -/
theorem byte?_eq_some_iff {brace : Char} (hbrace : brace.utf8Size = 1) :
    byte? (String.ofList cs) 0 = some brace.toUInt8 ↔ cs.head? = some brace := by
  cases cs with
  | nil => simp [byte?_eq]
  | cons c cs =>
    constructor
    · intro hbyte
      have hcode := toNat_toUInt8 hbrace
      obtain ⟨-, hc, heq⟩ := exists_of_byte? c.utf8Size_pos hbyte (by omega)
      rw [toUInt8_inj hbrace hc heq]
      rfl
    · intro hhead
      obtain rfl := Option.some.inj hhead
      exact byte?_cons hbrace

theorem doubles_iff {brace : Char} (hbrace : brace.utf8Size = 1) (before : String) :
    Doubles (before ++ String.ofList cs) before.utf8ByteSize brace ↔ [brace, brace] <+: cs := by
  have hfirst : byte? (before ++ String.ofList cs) before.utf8ByteSize =
      byte? (String.ofList cs) 0 := byte?_append before (String.ofList cs) 0
  rw [Doubles, hfirst, byte?_append, byte?_eq_some_iff hbrace]
  cases cs with
  | nil => simp
  | cons c cs =>
    rw [List.head?_cons, Option.some.injEq, List.cons_prefix_cons, eq_comm]
    refine and_congr_right ?_
    rintro rfl
    have hsecond : byte? (String.ofList (brace :: cs)) 1 = byte? (String.ofList cs) 0 := by
      rw [← byte?_cons_add brace cs 0, hbrace]
    rw [hsecond, byte?_eq_some_iff hbrace]
    cases cs <;> simp [eq_comm]

theorem toNat_ofUInt8 (b : UInt8) : (Char.ofUInt8 b).toNat = b.toNat := rfl

/-- What selects a marker is an ASCII character. -/
theorem ofSelector?_of_le (h : 128 ≤ c.toNat) : Marker.ofSelector? c = none := by
  unfold Marker.ofSelector?
  split
  all_goals
    first
    | exact absurd h (by decide)
    | rfl

/-- The byte behind two opening braces selects what the character there selects. -/
theorem openMarker_eq (cs : List Char) : openMarker (byte? (String.ofList cs) 0) =
    (cs.head?.bind Marker.ofSelector?).getD .escaped := by
  cases cs with
  | nil => simp [byte?_eq, openMarker]
  | cons c cs =>
    by_cases hsize : c.utf8Size = 1
    · obtain ⟨hcode, -⟩ := toNat_toUInt8 hsize
      have hchar : Char.ofUInt8 c.toUInt8 = c := by
        rw [← Char.ofNat_toNat (Char.ofUInt8 c.toUInt8), toNat_ofUInt8, hcode, Char.ofNat_toNat]
      rw [byte?_cons hsize, openMarker, Option.bind_some, hchar, List.head?_cons, Option.bind_some]
    · -- Neither the character nor its first byte selects anything.
      obtain ⟨b, bytes, hbytes⟩ :=
        List.exists_cons_of_ne_nil (String.utf8EncodeChar_ne_nil (c := c))
      have hb : 128 ≤ b.toNat := le_toNat_of_mem hsize (hbytes ▸ List.mem_cons_self)
      have hbyte : byte? (String.ofList (c :: cs)) 0 = some b := by
        rw [byte?_eq, String.toList_ofList, List.flatMap_cons, hbytes]
        rfl
      rw [hbyte, openMarker, Option.bind_some, List.head?_cons, Option.bind_some,
        ofSelector?_of_le (by rwa [toNat_ofUInt8]), ofSelector?_of_le (le_toNat_of_utf8Size hsize)]

section Scan

variable {before text : String} {start : Nat} {last? : Option Marker} {unescaped : Bool}

theorem scanFrom_of_not_doubles {s : String} {pos : Nat} (hpos : pos < s.utf8ByteSize)
    (hopen : ¬ Doubles s pos '{') (hclose : ¬ Doubles s pos '}') :
    scanFrom s start pos last? = scanFrom s start (pos + 1) last? := by
  rw [scanFrom, if_pos hpos, if_neg hopen, if_neg hclose]

/-- No byte of a character is the first of two braces if the character is none. -/
theorem not_doubles (h : ¬ MakesDouble c cs) {brace : Char} (hbrace : brace = '{' ∨ brace = '}')
    {k : Nat} (hk : k < c.utf8Size) (before : String) :
    ¬ Doubles (before ++ String.ofList (c :: cs)) (before.utf8ByteSize + k) brace := by
  intro hdoubles
  have hsize : brace.utf8Size = 1 := by
    rcases hbrace with rfl | rfl <;> rfl
  have hsmall : brace.toUInt8.toNat < 128 := by
    have hcode := toNat_toUInt8 hsize
    omega
  have hbyte := hdoubles.1
  rw [byte?_append] at hbyte
  obtain ⟨rfl, hc, heq⟩ := exists_of_byte? hk hbyte hsmall
  obtain rfl := toUInt8_inj hsize hc heq
  obtain ⟨rest, hrest⟩ := (doubles_iff hsize before).mp hdoubles
  obtain rfl := (List.cons.inj hrest).2
  exact h ⟨hbrace, rfl⟩

/-- **A character that makes no double brace is passed.** -/
theorem scanFrom_character (h : ¬ MakesDouble c cs) (before : String) :
    scanFrom (before ++ String.ofList (c :: cs)) start before.utf8ByteSize last? =
      scanFrom (before ++ String.ofList (c :: cs)) start (before.utf8ByteSize + c.utf8Size)
        last? := by
  -- It is passed byte by byte.
  have hpass : ∀ k ≤ c.utf8Size,
      scanFrom (before ++ String.ofList (c :: cs)) start before.utf8ByteSize last? =
        scanFrom (before ++ String.ofList (c :: cs)) start (before.utf8ByteSize + k) last? := by
    intro k hk
    induction k with
    | zero => rfl
    | succ k ih =>
      have hpos : before.utf8ByteSize + k < (before ++ String.ofList (c :: cs)).utf8ByteSize := by
        simp
        omega
      rw [ih (Nat.le_of_succ_le hk)]
      exact scanFrom_of_not_doubles hpos (not_doubles h (.inl rfl) hk before)
        (not_doubles h (.inr rfl) hk before)
  exact hpass _ (Nat.le_refl _)

/-- What an opening marker starts with, and what selects it. -/
theorem exists_of_open {m : Marker} (hm : m.isClose = false) (hfits : m.Fits unescaped cs) :
    ∃ tail, m.symbol.toList ++ cs = '{' :: '{' :: tail ∧
      openMarker (byte? (String.ofList tail) 0) = m := by
  simp only [openMarker_eq]
  cases m with
  | escaped =>
    refine ⟨cs, rfl, ?_⟩
    cases cs with
    | nil => rfl
    | cons c cs =>
      rw [List.head?_cons, Option.bind_some, Marker.ofSelector?_eq_none_iff.mpr (hfits c rfl)]
      rfl
  | close | closeUnescaped => simp [Marker.isClose] at hm
  | unescaped | comment | sectionOpen | sectionClose | shownIf | shownUnless | shownIfFound
  | partialTag | partialByVariable => exact ⟨_, rfl, rfl⟩

/-- What a closing marker starts with, and what tells how long it is. -/
theorem exists_of_close {m : Marker} (hm : m.isClose = true) (hfits : m.Fits unescaped cs)
    (hlast : last? = some .unescaped ↔ unescaped = true) :
    ∃ tail, m.symbol.toList ++ cs = '}' :: '}' :: tail ∧
      closeMarker last? (byte? (String.ofList tail) 0) = m := by
  have hbrace : ('}' : Char).utf8Size = 1 := rfl
  simp only [closeMarker, byte?_eq_some_iff hbrace]
  cases m with
  | close =>
    refine ⟨cs, rfl, if_neg ?_⟩
    rintro ⟨hu, hhead⟩
    exact hfits (hlast.mp hu) hhead
  | closeUnescaped => exact ⟨'}' :: cs, rfl, if_pos ⟨hlast.mpr hfits, rfl⟩⟩
  | _ => simp [Marker.isClose] at hm

/-- The place behind a double brace. -/
theorem byte?_third (brace : Char) (hbrace : brace.utf8Size = 1) (before : String) :
    byte? (before ++ String.ofList (brace :: brace :: cs)) (before.utf8ByteSize + 2) =
      byte? (String.ofList cs) 0 := by
  rw [byte?_append, ← byte?_cons_add brace cs 0, ← byte?_cons_add brace (brace :: cs), hbrace]

theorem lt_utf8ByteSize (before : String) (c : Char) (cs : List Char) :
    before.utf8ByteSize < (before ++ String.ofList (c :: cs)).utf8ByteSize := by
  have hsize := c.utf8Size_pos
  simp
  omega

/-- With the marker, what is behind it stands behind more. -/
theorem append_marker (before : String) (m : Marker) (cs : List Char) :
    before ++ m.symbol ++ String.ofList cs = before ++ String.ofList (m.symbol.toList ++ cs) := by
  rw [String.ofList_append, String.ofList_toList, String.append_assoc]

theorem utf8ByteSize_append_marker (before : String) (m : Marker) :
    (before ++ m.symbol).utf8ByteSize = before.utf8ByteSize + width m := by
  rw [String.utf8ByteSize_append, width_eq]

/-- **The pass at an opening marker** takes the text in front of it as it is. -/
theorem scanFrom_open {m : Marker} (hm : m.isClose = false) (hfits : m.Fits unescaped cs) :
    scanFrom (before ++ text ++ String.ofList (m.symbol.toList ++ cs)) before.utf8ByteSize
        (before ++ text).utf8ByteSize last? = do
      let tokens ← scanFrom (before ++ text ++ m.symbol ++ String.ofList cs)
        (before ++ text ++ m.symbol).utf8ByteSize (before ++ text ++ m.symbol).utf8ByteSize (some m)
      return .text text :: .marker m :: tokens := by
  obtain ⟨tail, htail, hmarker⟩ := exists_of_open hm hfits
  have hdoubles : Doubles (before ++ text ++ String.ofList ('{' :: '{' :: tail))
      (before ++ text).utf8ByteSize '{' := (doubles_iff rfl _).mpr ⟨tail, rfl⟩
  rw [append_marker, utf8ByteSize_append_marker, htail, scanFrom, if_pos (lt_utf8ByteSize _ _ _),
    if_pos hdoubles]
  simp only [byte?_third '{' rfl, hmarker, slice?_append]
  rfl

/-- **The pass at a closing marker** takes the blanks off the text in front of it. -/
theorem scanFrom_close {m : Marker} (hm : m.isClose = true) (hfits : m.Fits unescaped cs)
    (hlast : last? = some .unescaped ↔ unescaped = true) :
    scanFrom (before ++ text ++ String.ofList (m.symbol.toList ++ cs)) before.utf8ByteSize
        (before ++ text).utf8ByteSize last? = do
      let tokens ← scanFrom (before ++ text ++ m.symbol ++ String.ofList cs)
        (before ++ text ++ m.symbol).utf8ByteSize (before ++ text ++ m.symbol).utf8ByteSize none
      return .text (Text.trim text) :: .marker m :: tokens := by
  obtain ⟨tail, htail, hmarker⟩ := exists_of_close hm hfits hlast
  have hdoubles : Doubles (before ++ text ++ String.ofList ('}' :: '}' :: tail))
      (before ++ text).utf8ByteSize '}' := (doubles_iff rfl _).mpr ⟨tail, rfl⟩
  have hopen : ¬ Doubles (before ++ text ++ String.ofList ('}' :: '}' :: tail))
      (before ++ text).utf8ByteSize '{' := by
    rw [doubles_iff rfl]
    simp
  rw [append_marker, utf8ByteSize_append_marker, htail, scanFrom, if_pos (lt_utf8ByteSize _ _ _),
    if_neg hopen, if_pos hdoubles]
  simp only [byte?_third '}' rfl, hmarker, slice?_append]
  rfl

/-- **The pass cuts what is ahead of it**, with the running text in front. -/
theorem scanFrom_eq (unescaped : Bool) (rest : List Char) : ∀ (before text : String)
    (last? : Option Marker), (last? = some .unescaped ↔ unescaped = true) →
    scanFrom (before ++ text ++ String.ofList rest) before.utf8ByteSize
        (before ++ text).utf8ByteSize last? =
      some (Spans.tokens ⟨text.toList ++ (Spans.ofChars unescaped rest).head,
        (Spans.ofChars unescaped rest).tail⟩) := by
  induction unescaped, rest using Spans.cut_induction with
  | nil unescaped =>
    intro before text last? hlast
    have hslice : slice? (before ++ text) before.utf8ByteSize (before ++ text).utf8ByteSize =
        some text := by simpa using slice?_append before text ""
    rw [String.ofList_nil, String.append_empty, scanFrom, if_neg (Nat.lt_irrefl _), hslice,
      Spans.ofChars_nil, List.append_nil]
    simp [Spans.tokens, Spans.tokensFrom]
  | cons unescaped c cs h ih =>
    intro before text last? hlast
    have hnext := ih before (text ++ String.singleton c) last? hlast
    have hs : before ++ (text ++ String.singleton c) ++ String.ofList cs =
        before ++ text ++ String.ofList (c :: cs) := by
      rw [← List.singleton_append, String.ofList_append, ← String.singleton_eq_ofList]
      simp only [String.append_assoc]
    have hplace : (before ++ (text ++ String.singleton c)).utf8ByteSize =
        (before ++ text).utf8ByteSize + c.utf8Size := by simp [Nat.add_assoc]
    rw [hs, hplace, ← scanFrom_character h] at hnext
    rw [hnext, Spans.ofChars_cons h]
    simp [Spans.cons]
  | marker unescaped m cs hfits ih =>
    intro before text last? hlast
    rw [Spans.ofChars_marker hfits, Spans.tokens_append_mark]
    cases hm : m.isClose with
    | false =>
      have hnext := ih (before ++ text ++ m.symbol) "" (some m) (by simp)
      rw [String.append_empty] at hnext
      rw [scanFrom_open hm hfits, hnext]
      simp
    | true =>
      have hopen : m ≠ .unescaped := by
        rintro rfl
        cases hm
      have hnext := ih (before ++ text ++ m.symbol) "" none (by simp [hopen])
      rw [String.append_empty] at hnext
      rw [scanFrom_close hm hfits hlast, hnext]
      simp [Text.trim]

end Scan

/-- **Cutting is one pass over the bytes.** The pass takes no text whose ends are not between
characters. -/
theorem scan_eq_tokenize (template : String) : scan template = some (tokenize template) := by
  have h := scanFrom_eq false template.toList "" "" none (by simp)
  rw [String.append_empty, String.ofList_toList, String.empty_append] at h
  exact h

end ByteScan

end Mustache
