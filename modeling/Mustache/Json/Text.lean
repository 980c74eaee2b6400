import Mustache.Json.Fault
import Mustache.Text.Digit
/-!
# Strings in JSON

A string ends at its closing quote. Inside it a backslash starts an escape: a letter for a character,
or the code of one in four hexadecimal digits. A character beyond the first 65,536 takes two such
codes, and a code of such a pair never stands alone. Control characters below the space have to be
escaped.
-/

namespace Mustache.Json

/-- What was read from a text, and what is left of it, which is shorter. -/
structure Parsed (α : Type) (text : List Char) where
  /-- What was read. -/
  value : α
  /-- What is left. -/
  rest : List Char
  /-- Something was read. -/
  shorter : rest.length < text.length

/-- Reads from a longer text what can be read from a shorter one. -/
def Parsed.widen {α : Type} {short long : List Char} (p : Parsed α short)
    (h : short.length ≤ long.length) : Parsed α long :=
  ⟨p.value, p.rest, Nat.lt_of_lt_of_le p.shorter h⟩

/-- Reads four hexadecimal digits. They are looked for in the next four bytes. -/
def readHexCode (text : List Char) : Except Fault (Parsed Nat text) :=
  match text with
  | a :: b :: c :: d :: rest =>
    match Text.number? 16 [a, b, c, d] with
    | some n => .ok ⟨n, rest, by simp; omega⟩
    | none => .error ⟨.badEscape, Text.byteCount text - 4⟩
  | _ =>
    if Text.byteCount text < 4 then .error ⟨.endInString, 0⟩
    else .error ⟨.badEscape, Text.byteCount text - 4⟩

/-- The character that a letter after a backslash stands for. -/
def escapedChar? : Char → Option Char
  | '"' => some '"'
  | '\\' => some '\\'
  | '/' => some '/'
  | 'b' => some (Char.ofNat 0x08)
  | 'f' => some (Char.ofNat 0x0C)
  | 'n' => some '\n'
  | 'r' => some '\r'
  | 't' => some '\t'
  | _ => none

/-- Whether the number is the first half of a surrogate pair. -/
def isLeading (n : Nat) : Bool := 0xD800 ≤ n && n ≤ 0xDBFF

/-- Whether the number is the second half of a surrogate pair. -/
def isTrailing (n : Nat) : Bool := 0xDC00 ≤ n && n ≤ 0xDFFF

/-- Reads the second half of a surrogate pair. -/
def readTrailing (leading : Nat) (text : List Char) : Except Fault (Parsed Char text) :=
  match text with
  | [] => .error (.before [] .endInString)
  | '\\' :: [] => .error (.before [] .endInString)
  | '\\' :: 'u' :: rest => do
    let code ← readHexCode rest
    if isTrailing code.value then
      let n := 0x10000 + (leading - 0xD800) * 0x400 + (code.value - 0xDC00)
      return ⟨Char.ofNat n, code.rest, by have := code.shorter; simp; omega⟩
    else throw (.before code.rest .loneSurrogate)
  | '\\' :: rest => .error (.past rest .endInEscape)
  | text => .error (.past text .endInEscape)

/-- Reads an escape, after its backslash. -/
def readEscape (text : List Char) : Except Fault (Parsed Char text) :=
  match text with
  | [] => .error (.before [] .endInString)
  | 'u' :: rest => do
    let code ← readHexCode rest
    if isTrailing code.value then throw (.before code.rest .loneSurrogate)
    else if isLeading code.value then
      let c ← readTrailing code.value code.rest
      return c.widen (by have := code.shorter; simp; omega)
    else return ⟨Char.ofNat code.value, code.rest, by have := code.shorter; simp; omega⟩
  | c :: rest =>
    match escapedChar? c with
    | some c => .ok ⟨c, rest, by simp⟩
    | none => .error (.past (c :: rest) .badEscape)

/-- Reads a string up to and with its closing quote; `read` holds its characters so far, the last
first. -/
def readString (read : List Char) (text : List Char) : Except Fault (Parsed String text) :=
  match text with
  | [] => .error (.before [] .endInString)
  | '"' :: rest => .ok ⟨String.ofList read.reverse, rest, by simp⟩
  | '\\' :: rest => do
    let c ← readEscape rest
    let s ← readString (c.value :: read) c.rest
    return s.widen (by have := c.shorter; simp; omega)
  | c :: rest =>
    if c.toNat < 0x20 then .error (.before rest .controlCharacter)
    else do
      let s ← readString (c :: read) rest
      return s.widen (by simp)
termination_by text.length
decreasing_by
  · have := c.shorter; simp; omega
  · simp

end Mustache.Json
