/-! Decoding never fails. What makes no character is kept as one gap, so that readers can tell a
damaged text from a sound one and still see where ASCII characters stand. -/

namespace ArchiveCatalog.Text

def encodeChar (c : Char) : List UInt8 :=
  let n := c.toNat
  if n < 0x80 then [UInt8.ofNat n]
  else if n < 0x800 then [UInt8.ofNat (0xC0 + n / 64), UInt8.ofNat (0x80 + n % 64)]
  else if n < 0x10000 then
    [UInt8.ofNat (0xE0 + n / 4096), UInt8.ofNat (0x80 + n / 64 % 64), UInt8.ofNat (0x80 + n % 64)]
  else
    [UInt8.ofNat (0xF0 + n / 262144), UInt8.ofNat (0x80 + n / 4096 % 64),
      UInt8.ofNat (0x80 + n / 64 % 64), UInt8.ofNat (0x80 + n % 64)]

def encode (text : List Char) : List UInt8 := text.flatMap encodeChar

/-- A character, or a gap where the bytes make none. -/
abbrev Glyph := Option Char

/-- Where a decoder stands: between characters, or inside one that still needs `needed` bytes,
the next of them from `low` to `high`, with the bits read so far in `bits`. -/
inductive Decoder.State where
  | between
  | inside (needed low high bits : Nat)

def Decoder.first (byte : Nat) (read : List Glyph) : State × List Glyph :=
  if byte < 0x80 then (.between, some (Char.ofNat byte) :: read)
  else if byte < 0xC2 then (.between, none :: read)
  else if byte < 0xE0 then (.inside 1 0x80 0xBF (byte - 0xC0), read)
  else if byte = 0xE0 then (.inside 2 0xA0 0xBF 0, read)
  else if byte = 0xED then (.inside 2 0x80 0x9F 0xD, read)
  else if byte < 0xF0 then (.inside 2 0x80 0xBF (byte - 0xE0), read)
  else if byte = 0xF0 then (.inside 3 0x90 0xBF 0, read)
  else if byte < 0xF4 then (.inside 3 0x80 0xBF (byte - 0xF0), read)
  else if byte = 0xF4 then (.inside 3 0x80 0x8F 4, read)
  else (.between, none :: read)

/-- Take one byte. A byte that cannot continue the open character closes it as a gap and starts
the next one. -/
def Decoder.step : State × List Glyph → UInt8 → State × List Glyph
  | (.between, read), byte => first byte.toNat read
  | (.inside needed low high bits, read), byte =>
    if low ≤ byte.toNat ∧ byte.toNat ≤ high then
      let bits := bits * 64 + (byte.toNat - 0x80)
      if needed ≤ 1 then (.between, some (Char.ofNat bits) :: read)
      else (.inside (needed - 1) 0x80 0xBF bits, read)
    else first byte.toNat (none :: read)

def Decoder.finish : State × List Glyph → List Glyph
  | (.between, read) => read.reverse
  | (.inside .., read) => (none :: read).reverse

/-- The characters of a byte sequence, with a gap for each part that is no character. -/
def decode (bytes : List UInt8) : List Glyph :=
  Decoder.finish (bytes.foldl Decoder.step (.between, []))

def replaceGaps (glyphs : List Glyph) : List Char :=
  glyphs.map (·.getD (Char.ofNat 0xFFFD))

end ArchiveCatalog.Text
