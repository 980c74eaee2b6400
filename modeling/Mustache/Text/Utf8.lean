/-!
# Bytes as text

`byteCount` counts the bytes of a text, and `Utf8.decode` reads bytes as UTF-8 text. If they are
none, it says where the first malformed sequence starts, and how many bytes of it no continuation can
mend; that number is missing if the bytes merely end too early.
-/

namespace Mustache.Text

/-- The number of bytes that a text takes in UTF-8. -/
def byteCount (cs : List Char) : Nat :=
  cs.foldl (fun n c => n + c.utf8Size) 0

namespace Utf8

/-- Why bytes are not UTF-8 text. -/
structure Fault where
  /-- The number of bytes before the malformed sequence, all of them well formed. -/
  start : Nat
  /-- The length of the malformed sequence, or `none` if the bytes end inside a sequence. -/
  length? : Option Nat
deriving DecidableEq, Repr

/-- The fault in words. -/
def Fault.message (fault : Fault) : String :=
  match fault.length? with
  | some n => s!"invalid utf-8 sequence of {n} bytes from index {fault.start}"
  | none => s!"incomplete utf-8 byte sequence from index {fault.start}"

/-- Whether a byte may follow the first byte of a sequence somewhere. -/
def isContinuation (b : Nat) : Bool := 0x80 ≤ b && b ≤ 0xBF

/-- The number of bytes of the sequence that a byte starts, if it starts one. -/
def sequenceLength? (lead : Nat) : Option Nat :=
  if lead < 0x80 then some 1
  else if 0xC2 ≤ lead ∧ lead ≤ 0xDF then some 2
  else if 0xE0 ≤ lead ∧ lead ≤ 0xEF then some 3
  else if 0xF0 ≤ lead ∧ lead ≤ 0xF4 then some 4
  else none

/-- Whether a byte may come second after `lead`. This leaves out overlong sequences, surrogates and
what lies beyond the last code point. -/
def isSecond (lead b : Nat) : Bool :=
  if lead = 0xE0 then 0xA0 ≤ b && b ≤ 0xBF
  else if lead = 0xED then 0x80 ≤ b && b ≤ 0x9F
  else if lead = 0xF0 then 0x90 ≤ b && b ≤ 0xBF
  else if lead = 0xF4 then 0x80 ≤ b && b ≤ 0x8F
  else isContinuation b

/-- What the bytes after the first one of a sequence amount to: `none` if the sequence is well formed,
else the length of its malformed part. `seen` bytes came before and `owed` are still to come. -/
def checkTail (lead seen : Nat) : (owed : Nat) → List Nat → Option (Option Nat)
  | 0, _ => none
  | _ + 1, [] => some none
  | owed + 1, b :: bytes =>
    if (if seen = 1 then isSecond lead b else isContinuation b) then
      checkTail lead (seen + 1) owed bytes
    else some (some seen)

/-- The first fault of the bytes, which stand `start` bytes into the text; `skip` of them belong to a
sequence that is known to be well formed. -/
def firstFault? (start skip : Nat) : List Nat → Option Fault
  | [] => none
  | b :: bytes =>
    match skip with
    | skip + 1 => firstFault? (start + 1) skip bytes
    | 0 =>
      match sequenceLength? b with
      | none => some ⟨start, some 1⟩
      | some n =>
        match checkTail b 1 (n - 1) bytes with
        | some length? => some ⟨start, length?⟩
        | none => firstFault? (start + 1) (n - 1) bytes

/-- Reads bytes as UTF-8 text. -/
def decode (bytes : ByteArray) : Except Fault String :=
  match String.fromUTF8? bytes with
  | some s => .ok s
  | none => .error ((firstFault? 0 0 (bytes.toList.map UInt8.toNat)).getD ⟨0, none⟩)

/-- The bytes of a text are read back as the text. -/
@[simp] theorem decode_toUTF8 (s : String) : decode s.toUTF8 = .ok s := by
  have hbytes : String.fromUTF8? s.toUTF8 = some s := dif_pos s.isValidUTF8
  rw [decode, hbytes]

end Utf8

end Mustache.Text
