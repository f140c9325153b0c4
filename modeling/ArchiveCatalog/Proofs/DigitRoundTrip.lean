import ArchiveCatalog.Text.Digits
import Mathlib.Algebra.Group.Nat.Defs

namespace ArchiveCatalog.Text

def digitText (digits : List Nat) : List Char := digits.map Nat.digitChar

private theorem hexValue?_digitChar :
    ∀ digit < 16, hexValue? (Nat.digitChar digit) = some digit := by
  decide

theorem decimalValue?_digitChar :
    ∀ digit < 10, decimalValue? (Nat.digitChar digit) = some digit := by
  decide

theorem isDecimal_digitChar {digit : Nat} (small : digit < 10) :
    isDecimal (Nat.digitChar digit) = true := by
  rw [isDecimal, decimalValue?_digitChar digit small, Option.isSome_some]

theorem ofDigits_append (base : Nat) (high low : List Nat) :
    ofDigits base (high ++ low) = ofDigits base high * base ^ low.length + ofDigits base low := by
  have general (start : Nat) (digits : List Nat) :
      digits.foldl (fun value digit => value * base + digit) start =
        start * base ^ digits.length + ofDigits base digits := by
    induction digits generalizing start with
    | nil => simp [ofDigits]
    | cons digit rest ih =>
      unfold ofDigits
      rw [List.foldl_cons, ih, List.foldl_cons, ih, List.length_cons, Nat.pow_succ]
      simp only [Nat.zero_mul, Nat.zero_add, Nat.add_mul, Nat.mul_assoc, Nat.add_assoc,
        Nat.mul_comm base]
  rw [ofDigits, List.foldl_append, general]
  rfl

theorem ofDigits_singleton (base digit : Nat) : ofDigits base [digit] = digit := by
  simp [ofDigits]

theorem ofDigits_replicate_zero (base count : Nat) (digits : List Nat) :
    ofDigits base (List.replicate count 0 ++ digits) = ofDigits base digits := by
  have zeros : ofDigits base (List.replicate count 0) = 0 := by
    induction count with
    | zero => rfl
    | succ count ih => rw [List.replicate_succ', ofDigits_append, ih, ofDigits_singleton]; simp
  rw [ofDigits_append, zeros, Nat.zero_mul, Nat.zero_add]

@[simp] theorem length_lastDigits (base width n : Nat) :
    (lastDigits base width n).length = width := by
  induction width generalizing n with
  | zero => rfl
  | succ width ih => simp [lastDigits, ih]

theorem lastDigits_lt {base width n digit : Nat} (positive : 0 < base)
    (member : digit ∈ lastDigits base width n) : digit < base := by
  induction width generalizing n with
  | zero => simp [lastDigits] at member
  | succ width ih =>
    rcases List.mem_append.1 member with early | last
    · exact ih early
    · rw [List.mem_singleton.1 last]
      exact Nat.mod_lt _ positive

/-- The last digits of a number write its remainder. -/
theorem ofDigits_lastDigits (base width n : Nat) :
    ofDigits base (lastDigits base width n) = n % base ^ width := by
  induction width generalizing n with
  | zero => simp [lastDigits, ofDigits, Nat.mod_one]
  | succ width ih =>
    rw [lastDigits, ofDigits_append, ih, ofDigits_singleton, List.length_singleton, Nat.pow_one,
      Nat.pow_succ, Nat.mul_comm (base ^ width), Nat.mod_mul, Nat.mul_comm, Nat.add_comm]

theorem ofDigits_lastDigits_of_lt {base width n : Nat} (fits : n < base ^ width) :
    ofDigits base (lastDigits base width n) = n :=
  (ofDigits_lastDigits base width n).trans (Nat.mod_eq_of_lt fits)

theorem lastDigits_ofDigits {base width : Nat} {digits : List Nat} (length : digits.length = width)
    (small : ∀ digit ∈ digits, digit < base) :
    lastDigits base width (ofDigits base digits) = digits := by
  induction width generalizing digits with
  | zero => exact (List.length_eq_zero_iff.1 length).symm
  | succ width ih =>
    rcases List.eq_nil_or_concat digits with rfl | ⟨high, last, rfl⟩
    · cases length
    · have lastSmall : last < base := small last (by simp)
      have shorter : high.length = width := by simpa using length
      have higher := ih shorter fun digit member => small digit (by simp [member])
      have positive : 0 < base := Nat.zero_lt_of_lt lastSmall
      rw [List.concat_eq_append, ofDigits_append, ofDigits_singleton, List.length_singleton,
        Nat.pow_one, lastDigits, Nat.add_comm, Nat.add_mul_div_right last _ positive,
        Nat.div_eq_of_lt lastSmall, Nat.zero_add, higher, Nat.add_mul_mod_self_right,
        Nat.mod_eq_of_lt lastSmall]

theorem ofDigits_lt {base : Nat} {digits : List Nat} (positive : 0 < base)
    (small : ∀ digit ∈ digits, digit < base) : ofDigits base digits < base ^ digits.length := by
  have same := ofDigits_lastDigits base digits.length (ofDigits base digits)
  rw [lastDigits_ofDigits rfl small] at same
  rw [same]
  exact Nat.mod_lt _ (Nat.pow_pos positive)

private theorem padded_eq (base width n : Nat) :
    padded base width n = digitText (lastDigits base width n) := rfl

@[simp] theorem length_padded (base width n : Nat) : (padded base width n).length = width := by
  simp [padded]

private theorem mapM_hexValue? {digits : List Nat} (small : ∀ digit ∈ digits, digit < 16) :
    (digitText digits).mapM hexValue? = some digits := by
  induction digits with
  | nil => rfl
  | cons digit rest ih =>
    have first := hexValue?_digitChar digit (small digit List.mem_cons_self)
    have later := ih fun other member => small other (List.mem_cons_of_mem digit member)
    unfold digitText at later ⊢
    rw [List.map_cons, List.mapM_cons, first, later]
    rfl

theorem ofHex?_padded (width n : Nat) : ofHex? (padded 16 width n) = some (n % 16 ^ width) := by
  rw [ofHex?, padded_eq, mapM_hexValue? fun _ => lastDigits_lt (by decide), Option.map_some,
    ofDigits_lastDigits]

/-- A row of decimal digits that writes a number in the fewest places. -/
structure Writes (digits : List Nat) (n : Nat) : Prop where
  small : ∀ digit ∈ digits, digit < 10
  value : ofDigits 10 digits = n
  leading : digits = [0] ∨ ∃ first rest, digits = first :: rest ∧ first ≠ 0

theorem Writes.ne_nil {digits : List Nat} {n : Nat} (writes : Writes digits n) : digits ≠ [] := by
  rcases writes.leading with zero | ⟨first, rest, same, -⟩
  · simp [zero]
  · simp [same]

/-- The decimal text of a number is a row that writes it. -/
theorem exists_decimal (n : Nat) : ∃ digits, decimal n = digitText digits ∧ Writes digits n := by
  induction n using Nat.strongRecOn with
  | ind n ih =>
    by_cases below : n < 10
    · refine ⟨[n], by simp [decimal, below, digitText], by simpa using below,
        ofDigits_singleton 10 n, ?_⟩
      by_cases zero : n = 0
      · exact .inl (by rw [zero])
      · exact .inr ⟨n, [], rfl, zero⟩
    · obtain ⟨high, text, writes⟩ := ih (n / 10) (by omega)
      refine ⟨high ++ [n % 10], ?_, ?_, ?_, ?_⟩
      · rw [decimal, dif_neg below, text]
        simp [digitText]
      · intro digit member
        rcases List.mem_append.1 member with early | last
        · exact writes.small digit early
        · rw [List.mem_singleton.1 last]
          omega
      · rw [ofDigits_append, writes.value, ofDigits_singleton, List.length_singleton]
        omega
      · rcases writes.leading with zero | ⟨first, rest, same, nonzero⟩
        · have value := writes.value
          rw [zero, ofDigits_singleton] at value
          omega
        · exact .inr ⟨first, rest ++ [n % 10], by rw [same, List.cons_append], nonzero⟩

theorem filterMap_decimalValue? {digits : List Nat} (small : ∀ digit ∈ digits, digit < 10) :
    (digitText digits).filterMap decimalValue? = digits := by
  induction digits with
  | nil => rfl
  | cons digit rest ih =>
    have first := decimalValue?_digitChar digit (small digit List.mem_cons_self)
    have later := ih fun other member => small other (List.mem_cons_of_mem digit member)
    unfold digitText at later ⊢
    simp only [List.map_cons, List.filterMap_cons, first, later]

theorem all_isDecimal {digits : List Nat} (small : ∀ digit ∈ digits, digit < 10) {c : Char}
    (member : c ∈ digitText digits) : isDecimal c = true := by
  obtain ⟨digit, present, rfl⟩ := List.mem_map.1 member
  exact isDecimal_digitChar (small digit present)

/-- A row of digits is taken whole, up to what follows it. -/
theorem takeWhile_isDecimal {digits : List Nat} {rest : List Char}
    (small : ∀ digit ∈ digits, digit < 10) (ends : ∀ c ∈ rest.head?, isDecimal c = false) :
    (digitText digits ++ rest).takeWhile isDecimal = digitText digits := by
  rw [List.takeWhile_append_of_pos fun c => all_isDecimal small]
  cases rest with
  | nil => simp
  | cons c rest => simp [ends c rfl]

end ArchiveCatalog.Text
