/-
# UTF-8

`encode` writes characters as bytes.  `decodeLossy` reads bytes of any kind:
each longest piece that begins no character is replaced by one U+FFFD, so that
a cut or damaged text still shows what is left of it.
-/
import ControllerLink.Bytes

set_option autoImplicit false

namespace ControllerLink.Text.Utf8

/-- A byte that continues a character: six bits of it. -/
def trailing (bits : Nat) : UInt8 :=
  UInt8.ofNat (0x80 + bits % 64)

/-- The bytes of one character. -/
def encodeChar (c : Char) : Bytes :=
  let n := c.toNat
  if n < 0x80 then [UInt8.ofNat n]
  else if n < 0x800 then [UInt8.ofNat (0xc0 + n / 64), trailing n]
  else if n < 0x10000 then [UInt8.ofNat (0xe0 + n / 4096), trailing (n / 64), trailing n]
  else [UInt8.ofNat (0xf0 + n / 262144), trailing (n / 4096), trailing (n / 64), trailing n]

/-- The bytes of a text. -/
def encode (cs : List Char) : Bytes :=
  cs.flatMap encodeChar

/-- What stands for bytes that are no character. -/
def replacement : Char := '\ufffd'

/-- A character that has begun but is not complete. -/
structure Partial where
  /-- The least byte that may follow. -/
  low : Nat
  /-- The greatest byte that may follow. -/
  high : Nat
  /-- How many more bytes come after the next one. -/
  rest : Nat
  /-- The number that the bits read so far make. -/
  bits : Nat

/-- What a byte means at its place. -/
inductive Meaning where
  /-- It completes a character. -/
  | char (c : Char)
  /-- It begins or continues a character. -/
  | more (p : Partial)
  /-- It belongs to no character. -/
  | stray

/-- The meaning of a byte where a character may begin. -/
def lead (b : UInt8) : Meaning :=
  let n := b.toNat
  if n < 0x80 then .char (Char.ofNat n)
  else if n < 0xc2 then .stray
  else if n < 0xe0 then .more ⟨0x80, 0xbf, 0, n - 0xc0⟩
  else if n = 0xe0 then .more ⟨0xa0, 0xbf, 1, 0⟩
  else if n = 0xed then .more ⟨0x80, 0x9f, 1, n - 0xe0⟩
  else if n < 0xf0 then .more ⟨0x80, 0xbf, 1, n - 0xe0⟩
  else if n = 0xf0 then .more ⟨0x90, 0xbf, 2, 0⟩
  else if n < 0xf4 then .more ⟨0x80, 0xbf, 2, n - 0xf0⟩
  else if n = 0xf4 then .more ⟨0x80, 0x8f, 2, n - 0xf0⟩
  else .stray

/-- Whether a byte may follow the begun character. -/
def Partial.allows (p : Partial) (b : UInt8) : Bool :=
  p.low ≤ b.toNat && b.toNat ≤ p.high

/-- The meaning of a byte that the begun character allows. -/
def Partial.next (p : Partial) (b : UInt8) : Meaning :=
  let bits := p.bits * 64 + b.toNat % 64
  match p.rest with
  | 0 => .char (Char.ofNat bits)
  | rest + 1 => .more ⟨0x80, 0xbf, rest, bits⟩

/-- Decode from the middle of a text, `begun` being the character under way. -/
def decodeFrom : Option Partial → Bytes → List Char
  | none, [] => []
  | some _, [] => [replacement]
  | none, b :: bs =>
    match lead b with
    | .char c => c :: decodeFrom none bs
    | .more p => decodeFrom (some p) bs
    | .stray => replacement :: decodeFrom none bs
  | some p, b :: bs =>
    if p.allows b then
      match p.next b with
      | .char c => c :: decodeFrom none bs
      | .more p' => decodeFrom (some p') bs
      | .stray => replacement :: decodeFrom none bs
    else
      match lead b with
      | .char c => replacement :: c :: decodeFrom none bs
      | .more p' => replacement :: decodeFrom (some p') bs
      | .stray => replacement :: replacement :: decodeFrom none bs

/-- The characters of a byte string, U+FFFD standing for what is no UTF-8. -/
def decodeLossy (bytes : Bytes) : List Char :=
  decodeFrom none bytes

end ControllerLink.Text.Utf8
