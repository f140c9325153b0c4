import ArchiveCatalog.Text.Utf8

namespace ArchiveCatalog.Text

open Decoder

theorem toNat_valid (c : Char) : c.toNat < 0xD800 ∨ (0xDFFF < c.toNat ∧ c.toNat < 0x110000) :=
  c.valid

theorem toNat_ofNat_byte {n : Nat} (small : n < 256) : (UInt8.ofNat n).toNat = n := by
  simp [UInt8.toNat_ofNat', Nat.mod_eq_of_lt small]

/-- A byte in the range that the decoder waits for adds six bits. -/
theorem step_inside {needed low high bits byte : Nat} (read : List Glyph) (small : byte < 256)
    (above : low ≤ byte) (below : byte ≤ high) (more : 1 < needed) :
    step (.inside needed low high bits, read) (UInt8.ofNat byte) =
      (.inside (needed - 1) 0x80 0xBF (bits * 64 + (byte - 0x80)), read) := by
  have notLast : ¬needed ≤ 1 := by omega
  simp [step, toNat_ofNat_byte small, above, below, notLast]

theorem step_last {low high bits byte : Nat} (read : List Glyph) (small : byte < 256)
    (above : low ≤ byte) (below : byte ≤ high) :
    step (.inside 1 low high bits, read) (UInt8.ofNat byte) =
      (.between, some (Char.ofNat (bits * 64 + (byte - 0x80))) :: read) := by
  simp [step, toNat_ofNat_byte small, above, below]

theorem step_between {byte : Nat} (read : List Glyph) (small : byte < 256) :
    step (.between, read) (UInt8.ofNat byte) = first byte read := by
  simp [step, toNat_ofNat_byte small]

private theorem first_two {byte : Nat} (read : List Glyph) (above : 0xC2 ≤ byte)
    (below : byte < 0xE0) :
    first byte read = (.inside 1 0x80 0xBF (byte - 0xC0), read) := by
  have notOne : ¬byte < 0x80 := by omega
  have notTail : ¬byte < 0xC2 := by omega
  simp [first, notOne, notTail, below]

private theorem first_three {byte : Nat} (read : List Glyph) (above : 0xE0 ≤ byte)
    (below : byte < 0xF0) :
    first byte read = (.inside 2 (if byte = 0xE0 then 0xA0 else 0x80)
      (if byte = 0xED then 0x9F else 0xBF) (byte - 0xE0), read) := by
  have notOne : ¬byte < 0x80 := by omega
  have notTail : ¬byte < 0xC2 := by omega
  have notTwo : ¬byte < 0xE0 := by omega
  by_cases lowest : byte = 0xE0
  · simp [first, lowest]
  · by_cases surrogates : byte = 0xED
    · simp [first, surrogates]
    · simp [first, notOne, notTail, notTwo, lowest, surrogates, below]

private theorem first_four {byte : Nat} (read : List Glyph) (above : 0xF0 ≤ byte)
    (below : byte < 0xF5) :
    first byte read = (.inside 3 (if byte = 0xF0 then 0x90 else 0x80)
      (if byte = 0xF4 then 0x8F else 0xBF) (byte - 0xF0), read) := by
  have notOne : ¬byte < 0x80 := by omega
  have notTail : ¬byte < 0xC2 := by omega
  have notTwo : ¬byte < 0xE0 := by omega
  have notThree : ¬byte < 0xF0 := by omega
  by_cases lowest : byte = 0xF0
  · simp [first, lowest]
  · by_cases highest : byte = 0xF4
    · simp [first, highest]
    · have middle : byte < 0xF4 := by omega
      have notLow : byte ≠ 0xE0 ∧ byte ≠ 0xED := by omega
      simp [first, notOne, notTail, notTwo, notThree, notLow, lowest, highest, middle]

/-- The bytes of a character are read as that character. -/
theorem foldl_step_encodeChar (c : Char) (read : List Glyph) :
    (encodeChar c).foldl step (.between, read) = (.between, some c :: read) := by
  have valid := toNat_valid c
  have value : Char.ofNat c.toNat = c := Char.ofNat_toNat c
  simp only [encodeChar]
  split
  case isTrue one =>
    simp only [List.foldl_cons, List.foldl_nil]
    rw [step_between read (by omega)]
    simp [first, one, value]
  split
  case isTrue two =>
    simp only [List.foldl_cons, List.foldl_nil]
    rw [step_between read (by omega), first_two read (by omega) (by omega),
      step_last read (by omega) (by omega) (by omega)]
    have bits : (0xC0 + c.toNat / 64 - 0xC0) * 64 + (0x80 + c.toNat % 64 - 0x80) = c.toNat := by
      omega
    rw [bits, value]
  split
  case isTrue three =>
    simp only [List.foldl_cons, List.foldl_nil]
    rw [step_between read (by omega), first_three read (by omega) (by omega),
      step_inside read (by omega) (by split <;> omega) (by split <;> omega) (by omega),
      step_last read (by omega) (by omega) (by omega)]
    have bits : ((0xE0 + c.toNat / 4096 - 0xE0) * 64 + (0x80 + c.toNat / 64 % 64 - 0x80)) * 64 +
        (0x80 + c.toNat % 64 - 0x80) = c.toNat := by omega
    rw [bits, value]
  case isFalse four =>
    simp only [List.foldl_cons, List.foldl_nil]
    rw [step_between read (by omega), first_four read (by omega) (by omega),
      step_inside read (by omega) (by split <;> omega) (by split <;> omega) (by omega),
      step_inside read (by omega) (by omega) (by omega) (by omega),
      step_last read (by omega) (by omega) (by omega)]
    have bits : (((0xF0 + c.toNat / 262144 - 0xF0) * 64 +
        (0x80 + c.toNat / 4096 % 64 - 0x80)) * 64 + (0x80 + c.toNat / 64 % 64 - 0x80)) * 64 +
        (0x80 + c.toNat % 64 - 0x80) = c.toNat := by omega
    rw [bits, value]

theorem decode_encode (text : List Char) : decode (encode text) = text.map some := by
  have general (read : List Glyph) :
      (encode text).foldl step (.between, read) = (.between, (text.map some).reverse ++ read) := by
    unfold encode
    induction text generalizing read with
    | nil => rfl
    | cons c rest ih =>
      rw [List.flatMap_cons, List.foldl_append, foldl_step_encodeChar, ih]
      simp
  rw [decode, general]
  simp [finish]

end ArchiveCatalog.Text
