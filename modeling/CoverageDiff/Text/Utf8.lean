/-!
# CoverageDiff.Text.Utf8

Texts as bytes.  A character takes one to four bytes; only the shortest form
is accepted, and no form of a surrogate.
-/

namespace CoverageDiff.Text

/-! ## Decoding -/

/-- The six bits of a continuation byte. -/
def continuation? (b : UInt8) : Option Nat :=
  if 0x80 ≤ b && b ≤ 0xbf then some (b.toNat - 0x80) else none

/-- The value of continuation bytes after the bits of a first byte. -/
def joinContinuations? (first : Nat) (bytes : List UInt8) : Option Nat :=
  bytes.foldlM (fun n b => (continuation? b).map fun d => 64 * n + d) first

/-- The character with a code point, if it needs at least `least`. -/
def charOf? (least n : Nat) : Option Char :=
  if least ≤ n && n.isValidChar then some (Char.ofNat n) else none

/-- How many bytes follow a first byte, its own bits, and the least code point of such a form. -/
def firstByte? (b : UInt8) : Option (Nat × Nat × Nat) :=
  if b ≤ 0x7f then some (0, b.toNat, 0)
  else if 0xc0 ≤ b && b ≤ 0xdf then some (1, b.toNat - 0xc0, 0x80)
  else if 0xe0 ≤ b && b ≤ 0xef then some (2, b.toNat - 0xe0, 0x800)
  else if 0xf0 ≤ b && b ≤ 0xf7 then some (3, b.toNat - 0xf0, 0x10000)
  else none

/-- The text that bytes stand for. -/
def decodeUtf8? (bytes : List UInt8) : Option (List Char) :=
  match bytes with
  | [] => some []
  | b :: more =>
    match firstByte? b with
    | none => none
    | some (count, bits, least) =>
      let tail := more.take count
      if tail.length < count then none
      else
        match (joinContinuations? bits tail).bind (charOf? least) with
        | none => none
        | some c => (decodeUtf8? (more.drop count)).map (c :: ·)
termination_by bytes.length
decreasing_by
  rw [List.length_drop, List.length_cons]
  omega

/-! ## Encoding -/

/-- The bytes of a character. -/
def encodeChar (c : Char) : List UInt8 :=
  let n := c.toNat
  if n < 0x80 then [n.toUInt8]
  else if n < 0x800 then [(0xc0 + n / 64).toUInt8, (0x80 + n % 64).toUInt8]
  else if n < 0x10000 then
    [(0xe0 + n / 4096).toUInt8, (0x80 + n / 64 % 64).toUInt8, (0x80 + n % 64).toUInt8]
  else
    [(0xf0 + n / 262144).toUInt8, (0x80 + n / 4096 % 64).toUInt8, (0x80 + n / 64 % 64).toUInt8,
      (0x80 + n % 64).toUInt8]

/-- The bytes of a text. -/
def encodeUtf8 (text : List Char) : List UInt8 :=
  text.flatMap encodeChar

end CoverageDiff.Text
