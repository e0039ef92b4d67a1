/-!
# Text in bytes

Reads UTF-8. `Utf8.decode` gives the characters or the first place where the bytes are no UTF-8, with the number of
bytes that belong to the fault. `Utf8.unifyLineEnds` turns the three kinds of line ends into one.
-/

namespace SlideFill

namespace Utf8

/-- What can be wrong with a sequence of bytes. -/
inductive Problem where
  /-- No character starts with this byte. -/
  | badStart
  /-- The character begun is not continued. -/
  | badContinuation
  /-- The bytes end within a character. -/
  | cutShort
deriving DecidableEq

/-- The first fault of a sequence of bytes: its offset, how many bytes it covers, and the first of them. -/
structure Fault where
  problem : Problem
  offset : Nat
  width : Nat
  byte : UInt8
deriving DecidableEq

/-- The wording of a problem. -/
def Problem.message : Problem → String
  | .badStart => "invalid start byte"
  | .badContinuation => "invalid continuation byte"
  | .cutShort => "unexpected end of data"

/-- How many bytes follow a first byte, and the range that the second one must lie in; none for a byte that starts no
character. The range keeps out overlong forms, surrogates and code points beyond the last. -/
def lead? (b : UInt8) : Option (Nat × UInt8 × UInt8) :=
  if b < 0x80 then some (0, 0, 0)
  else if b < 0xC2 then none
  else if b < 0xE0 then some (1, 0x80, 0xBF)
  else if b = 0xE0 then some (2, 0xA0, 0xBF)
  else if b = 0xED then some (2, 0x80, 0x9F)
  else if b < 0xF0 then some (2, 0x80, 0xBF)
  else if b = 0xF0 then some (3, 0x90, 0xBF)
  else if b < 0xF4 then some (3, 0x80, 0xBF)
  else if b = 0xF4 then some (3, 0x80, 0x8F)
  else none

/-- The payload of a first byte that `more` bytes follow. -/
def leadBits (b : UInt8) (more : Nat) : Nat :=
  match more with
  | 0 => b.toNat
  | 1 => b.toNat % 32
  | 2 => b.toNat % 16
  | _ => b.toNat % 8

/-- Reads `more` continuation bytes, the first of them within `lo` and `hi`, onto the payload read so far. The failure
says how many bytes were good. -/
def continuation (lo hi : UInt8) (payload : Nat) : Nat → Nat → List UInt8 → Except (Problem × Nat) Nat
  | _, 0, _ => .ok payload
  | good, _ + 1, [] => .error (.cutShort, good)
  | good, more + 1, b :: rest =>
    if lo ≤ b && b ≤ hi then continuation 0x80 0xBF (payload * 64 + b.toNat % 64) (good + 1) more rest
    else .error (.badContinuation, good)

/-- The first character of a sequence of bytes and the number of bytes after its first. -/
def first (b : UInt8) (rest : List UInt8) : Except (Problem × Nat) (Char × Nat) :=
  match lead? b with
  | none => .error (.badStart, 1)
  | some (more, lo, hi) => (continuation lo hi (leadBits b more) 1 more rest).map fun code => (Char.ofNat code, more)

/-- Reads on at an offset, past as many bytes as are to be skipped. -/
def decodeFrom : Nat → Nat → List UInt8 → Except Fault (List Char)
  | _, _, [] => .ok []
  | offset, skip + 1, _ :: rest => decodeFrom (offset + 1) skip rest
  | offset, 0, b :: rest =>
    match first b rest with
    | .error (problem, width) => .error { problem, offset, width, byte := b }
    | .ok (c, more) => (decodeFrom (offset + 1) more rest).map (c :: ·)

/-- The characters that bytes stand for. -/
def decode (bytes : List UInt8) : Except Fault (List Char) :=
  decodeFrom 0 0 bytes

/-- Every line end as a single line feed. -/
def unifyLineEnds : List Char → List Char
  | '\r' :: '\n' :: rest => '\n' :: unifyLineEnds rest
  | c :: rest => (if c = '\r' then '\n' else c) :: unifyLineEnds rest
  | [] => []

end Utf8

end SlideFill
