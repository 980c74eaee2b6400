import Mustache.Json.Number
import Mustache.Json.Text
/-!
# Reading JSON

`Json.parse` reads a whole text as one value. Blanks are the space, the tab, the line feed and the
carriage return. Fields keep the order in which their keys first came, and a key given again takes
the later value. Arrays and objects may be nested up to `maxDepth` deep.
-/

namespace Mustache.Json

/-- How deep arrays and objects may be nested. -/
def maxDepth : Nat := 127

/-- The blanks between the parts of a text. -/
def isSpace (c : Char) : Bool :=
  c == ' ' || c == '\t' || c == '\n' || c == '\r'

/-- The text after the blanks at its start. -/
def skipSpace (text : List Char) : List Char :=
  text.dropWhile isSpace

theorem length_le_of_skipSpace {text rest : List Char} (h : skipSpace text = rest) :
    rest.length ≤ text.length :=
  h ▸ length_dropWhile_le _ _

/-- Reads the letters of a literal that has to follow. -/
def readLiteral (value : Value) : (letters text : List Char) → Except Fault (Value × List Char)
  | [], text => .ok (value, text)
  | _ :: _, [] => .error (.before [] .endInValue)
  | l :: letters, c :: text =>
    if c = l then readLiteral value letters text else .error (.past (c :: text) .expectedLiteral)

theorem length_le_of_readLiteral {value v : Value} {letters text rest : List Char}
    (h : readLiteral value letters text = .ok (v, rest)) : rest.length ≤ text.length := by
  induction letters generalizing text with
  | nil =>
    simp only [readLiteral, Except.ok.injEq, Prod.mk.injEq] at h
    exact h.2 ▸ Nat.le_refl _
  | cons l letters ih =>
    cases text with
    | nil => simp [readLiteral] at h
    | cons c text =>
      simp only [readLiteral] at h
      split at h
      · exact Nat.le_succ_of_le (ih h)
      · simp at h

/-- A literal, after its first letter. -/
def parseLiteral (value : Value) (letters text : List Char) (first : Char) :
    Except Fault (Parsed Value (first :: text)) :=
  match h : readLiteral value letters text with
  | .ok (v, rest) => .ok ⟨v, rest, Nat.lt_succ_of_le (length_le_of_readLiteral h)⟩
  | .error e => .error e

/-- A number, after its sign. -/
def parseNumber (negative : Bool) (text : List Char) : Except Fault (Parsed Value text) :=
  match h : readNumber negative text with
  | .ok (n, rest) => .ok ⟨.number n, rest, length_lt_of_readNumber h⟩
  | .error e => .error e

/-- What comes next inside an array or an object: another element, or the text after the end. -/
inductive Continuation (text : List Char) where
  /-- Another element starts at `rest`. -/
  | element (rest : List Char) (le : rest.length ≤ text.length)
  /-- The end has been read and `rest` is left. -/
  | finished (rest : List Char) (lt : rest.length < text.length)

/-- Reads up to the next element, or up to and with the closing character. `first` says whether no
element has come yet; `ended` is the problem if the text ends, `missing` the problem if there is
neither a comma nor the end. -/
def readContinuation (close : Char) (ended missing : Problem) (first : Bool) (text : List Char) :
    Except Fault (Continuation text) :=
  match h : skipSpace text with
  | [] => .error (.before [] ended)
  | c :: rest =>
    have hle : (c :: rest).length ≤ text.length := length_le_of_skipSpace h
    if c = close then .ok (.finished rest hle)
    else if first then .ok (.element (c :: rest) hle)
    else if c = ',' then
      match h' : skipSpace rest with
      | [] => .error (.before [] .endInValue)
      | d :: after =>
        if d = close then .error (.past (d :: after) .trailingComma)
        else .ok (.element (d :: after)
          (Nat.le_trans (length_le_of_skipSpace h') (Nat.le_of_succ_le hle)))
    else .error (.past (c :: rest) missing)

/-- Reads the key of a field and the colon after it. -/
def readKey (text : List Char) : Except Fault (Parsed String text) :=
  match text with
  | '"' :: rest => do
    let key ← readString [] rest
    match h : skipSpace key.rest with
    | ':' :: after => return ⟨key.value, after, by
        have h₁ := key.shorter
        have h₂ := length_le_of_skipSpace h
        simp only [List.length_cons] at h₂ ⊢
        omega⟩
    | [] => throw (.before [] .endInObject)
    | after => throw (.past after .expectedColon)
  | text => .error (.past text .keyNotString)

/-- Reads a value that is neither an array nor an object, from its first character on. -/
def readScalar (c : Char) (rest : List Char) : Except Fault (Parsed Value (c :: rest)) :=
  match c with
  | 'n' => parseLiteral .null "ull".toList rest 'n'
  | 't' => parseLiteral (.bool true) "rue".toList rest 't'
  | 'f' => parseLiteral (.bool false) "alse".toList rest 'f'
  | '"' => do
    let s ← readString [] rest
    return ⟨.string s.value, s.rest, Nat.lt_succ_of_lt s.shorter⟩
  | '-' => do
    let n ← parseNumber true rest
    return ⟨n.value, n.rest, Nat.lt_succ_of_lt n.shorter⟩
  | c =>
    if c.isDigit then parseNumber false (c :: rest) else .error (.past (c :: rest) .expectedValue)

mutual

/-- Reads a value. `depth` is how many more arrays and objects may be opened around one another. -/
def readValue (depth : Nat) (text : List Char) : Except Fault (Parsed Value text) :=
  match h : skipSpace text with
  | [] => .error (.before [] .endInValue)
  | c :: rest => do
    have hle : rest.length + 1 ≤ text.length := length_le_of_skipSpace h
    if c = '[' then
      match depth with
      | 0 => .error (.past ('[' :: rest) .tooDeep)
      | depth + 1 =>
        let items ← readItems depth true [] rest
        return ⟨.array items.value, items.rest,
          Nat.lt_of_lt_of_le (Nat.lt_succ_of_lt items.shorter) hle⟩
    else if c = '{' then
      match depth with
      | 0 => .error (.past ('{' :: rest) .tooDeep)
      | depth + 1 =>
        let fields ← readFields depth true [] rest
        return ⟨.object fields.value, fields.rest,
          Nat.lt_of_lt_of_le (Nat.lt_succ_of_lt fields.shorter) hle⟩
    else return (← readScalar c rest).widen hle
termination_by 2 * text.length
decreasing_by all_goals omega

/-- Reads the elements of an array up to and with its closing bracket; `read` holds those so far, the
last first. -/
def readItems (depth : Nat) (first : Bool) (read : List Value) (text : List Char) :
    Except Fault (Parsed (List Value) text) := do
  match ← readContinuation ']' .endInArray .expectedCommaOrBracket first text with
  | .finished rest lt => return ⟨read.reverse, rest, lt⟩
  | .element rest le =>
    let v ← readValue depth rest
    have hv := v.shorter
    let items ← readItems depth false (v.value :: read) v.rest
    return items.widen (Nat.le_trans (Nat.le_of_lt hv) le)
termination_by 2 * text.length + 1
decreasing_by all_goals omega

/-- Reads the fields of an object up to and with its closing brace; `read` holds those so far. -/
def readFields (depth : Nat) (first : Bool) (read : List (String × Value)) (text : List Char) :
    Except Fault (Parsed (List (String × Value)) text) := do
  match ← readContinuation '}' .endInObject .expectedCommaOrBrace first text with
  | .finished rest lt => return ⟨read, rest, lt⟩
  | .element rest le =>
    let key ← readKey rest
    have hkey := key.shorter
    let v ← readValue depth key.rest
    have hv := v.shorter
    let fields ← readFields depth false (Value.setField key.value v.value read) v.rest
    return fields.widen
      (Nat.le_trans (Nat.le_of_lt (Nat.lt_trans hv hkey)) le)
termination_by 2 * text.length + 1
decreasing_by all_goals omega

end

/-- Reads a whole text as one value. -/
def parse (text : String) : Except Error Value :=
  let chars := text.toList
  match readValue maxDepth chars with
  | .error fault => .error (fault.locate chars)
  | .ok v =>
    match skipSpace v.rest with
    | [] => .ok v.value
    | rest => .error (Fault.locate (.past rest .trailingCharacters) chars)

theorem parse_of_readValue {text : String} {v : Parsed Value text.toList}
    (h : readValue maxDepth text.toList = .ok v) (hrest : skipSpace v.rest = []) :
    parse text = .ok v.value := by
  simp only [parse, h, hrest]

theorem readFields_close (depth : Nat) :
    readFields depth true [] ['\x7d'] = .ok ⟨[], [], Nat.one_pos⟩ := by
  rw [readFields]
  rfl

theorem readValue_emptyObject (depth : Nat) :
    readValue (depth + 1) ['\x7b', '\x7d'] = .ok ⟨.object [], [], Nat.two_pos⟩ := by
  rw [readValue]
  split
  · rename_i h
    exact absurd h (by decide)
  · rename_i c rest h
    obtain ⟨rfl, rfl⟩ : '\x7b' = c ∧ ['\x7d'] = rest := List.cons.inj h
    simp only [readFields_close]
    rfl

/-- A pair of braces is the object without fields. -/
theorem parse_emptyObject : parse "\x7b\x7d" = .ok (.object []) := by
  have hvalue : readValue maxDepth "\x7b\x7d".toList = .ok ⟨.object [], [], Nat.two_pos⟩ :=
    readValue_emptyObject 126
  exact parse_of_readValue hvalue rfl

end Mustache.Json
