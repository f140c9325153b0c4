import ArchiveCatalog.Proofs.Utf8RoundTrip

namespace ArchiveCatalog.Text

private theorem ofNat_byte_lt_iff {m n : Nat} (left : m < 256) (right : n < 256) :
    UInt8.ofNat m < UInt8.ofNat n ↔ m < n := by
  rw [UInt8.lt_iff_toNat_lt, toNat_ofNat_byte left, toNat_ofNat_byte right]

private theorem ofNat_byte_inj {m n : Nat} (left : m < 256) (right : n < 256) :
    UInt8.ofNat m = UInt8.ofNat n ↔ m = n := by
  rw [← UInt8.toNat_inj, toNat_ofNat_byte left, toNat_ofNat_byte right]

theorem encodeChar_cases (c : Char) :
    (c.toNat < 0x80 ∧ encodeChar c = [UInt8.ofNat c.toNat]) ∨
    (0x80 ≤ c.toNat ∧ c.toNat < 0x800 ∧ encodeChar c =
      [UInt8.ofNat (0xC0 + c.toNat / 64), UInt8.ofNat (0x80 + c.toNat % 64)]) ∨
    (0x800 ≤ c.toNat ∧ c.toNat < 0x10000 ∧ encodeChar c =
      [UInt8.ofNat (0xE0 + c.toNat / 4096), UInt8.ofNat (0x80 + c.toNat / 64 % 64),
        UInt8.ofNat (0x80 + c.toNat % 64)]) ∨
    (0x10000 ≤ c.toNat ∧ encodeChar c =
      [UInt8.ofNat (0xF0 + c.toNat / 262144), UInt8.ofNat (0x80 + c.toNat / 4096 % 64),
        UInt8.ofNat (0x80 + c.toNat / 64 % 64), UInt8.ofNat (0x80 + c.toNat % 64)]) := by
  simp only [encodeChar]
  split
  case isTrue one => exact .inl ⟨one, rfl⟩
  case isFalse notOne =>
    split
    case isTrue two => exact .inr (.inl ⟨by omega, two, rfl⟩)
    case isFalse notTwo =>
      split
      case isTrue three => exact .inr (.inr (.inl ⟨by omega, three, rfl⟩))
      case isFalse notThree => exact .inr (.inr (.inr ⟨by omega, rfl⟩))

/-- The bytes of a lesser character are less, whatever follows. -/
theorem encodeChar_lt {c d : Char} (less : c < d) (rest other : List UInt8) :
    encodeChar c ++ rest < encodeChar d ++ other := by
  have order : c.toNat < d.toNat := less
  have bound := toNat_valid d
  -- of characters of different lengths the first bytes decide
  rcases encodeChar_cases c with
    ⟨high, left⟩ | ⟨low, high, left⟩ | ⟨low, high, left⟩ | ⟨low, left⟩ <;>
  rcases encodeChar_cases d with
    ⟨above, right⟩ | ⟨below, above, right⟩ | ⟨below, above, right⟩ | ⟨below, right⟩ <;>
  · rw [left, right]
    simp (disch := omega) only [List.cons_append, List.nil_append, List.cons_lt_cons_iff,
      ofNat_byte_lt_iff, ofNat_byte_inj]
    omega

private theorem encodeChar_ne_nil (c : Char) : encodeChar c ≠ [] := by
  rcases encodeChar_cases c with ⟨-, one⟩ | ⟨-, -, two⟩ | ⟨-, -, three⟩ | ⟨-, four⟩
  · simp [one]
  · simp [two]
  · simp [three]
  · simp [four]

private theorem append_lt_append (front : List UInt8) {first second : List UInt8}
    (less : first < second) : front ++ first < front ++ second := by
  induction front with
  | nil => exact less
  | cons byte front ih => exact List.cons_lt_cons_iff.2 (.inr ⟨rfl, ih⟩)

/-- The order of texts is that of their bytes. -/
theorem encode_lt {first second : List Char} (less : first < second) :
    encode first < encode second := by
  induction first generalizing second with
  | nil =>
    cases second with
    | nil => exact absurd less (List.lt_irrefl [])
    | cons d second =>
      have bytes : encode (d :: second) ≠ [] := by simp [encode, encodeChar_ne_nil]
      obtain ⟨byte, rest, eq⟩ := List.exists_cons_of_ne_nil bytes
      rw [eq]
      exact List.nil_lt_cons ..
  | cons c first ih =>
    cases second with
    | nil => exact absurd less (List.not_lt_nil _)
    | cons d second =>
      -- the first characters decide, or are the same and have the same bytes
      rcases List.cons_lt_cons_iff.1 less with least | ⟨rfl, later⟩
      · exact encodeChar_lt least (encode first) (encode second)
      · exact append_lt_append (encodeChar c) (ih later)

theorem encode_toList_lt {first second : String} (less : first < second) :
    encode first.toList < encode second.toList :=
  encode_lt (String.lt_iff.1 less)

theorem le_of_prefix {start text : String} (begins : start.toList <+: text.toList) :
    start ≤ text :=
  String.not_lt.1 fun less => begins.le (String.lt_iff.1 less)

theorem empty_le (text : String) : "" ≤ text := le_of_prefix List.nil_prefix

/-- What stands between a text and one that starts with it starts with it, too. -/
theorem prefix_of_between {start first second : List Char} (least : ¬first < start)
    (below : ¬second < first) (begins : start <+: second) : start <+: first := by
  induction start generalizing first second with
  | nil => exact List.nil_prefix
  | cons c start ih =>
    obtain ⟨rest, rfl⟩ := begins
    cases first with
    | nil => exact absurd (List.nil_lt_cons ..) least
    | cons d first =>
      rw [List.cons_lt_cons_iff, not_or, not_and] at least
      rw [List.cons_append, List.cons_lt_cons_iff, not_or, not_and] at below
      have same : c = d := Char.le_antisymm (Char.not_lt.1 least.1) (Char.not_lt.1 below.1)
      subst same
      exact List.cons_prefix_cons.2
        ⟨rfl, ih (least.2 rfl) (below.2 rfl) (List.prefix_append ..)⟩

end ArchiveCatalog.Text
