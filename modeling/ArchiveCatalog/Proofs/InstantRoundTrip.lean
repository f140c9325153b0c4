import ArchiveCatalog.Instant.Printer
import ArchiveCatalog.Instant.Reader
import ArchiveCatalog.Proofs.CalendarRoundTrip
import ArchiveCatalog.Proofs.DigitRoundTrip

namespace ArchiveCatalog

namespace Text

theorem skipBlank_cons {c : Char} (rest : List Char) (solid : isBlank c = false) :
    skipBlank (c :: rest) = c :: rest := by
  simp [skipBlank, solid]

private theorem digitChar_solid : ∀ digit < 10, isBlank (Nat.digitChar digit) = false := by
  decide

private theorem skipBlank_digitText {row : List Nat} (rest : List Char)
    (small : ∀ digit ∈ row, digit < 10)
    (written : row ≠ []) : skipBlank (digitText row ++ rest) = digitText row ++ rest := by
  obtain ⟨first, later, rfl⟩ := List.exists_cons_of_ne_nil written
  exact skipBlank_cons _ (digitChar_solid first (small first List.mem_cons_self))

private theorem lastDigits_ne_nil {width : Nat} (n : Nat) (positive : 0 < width) :
    lastDigits 10 width n ≠ [] := by
  rw [← List.length_pos_iff, length_lastDigits]
  exact positive

private theorem lastDigits_small {width n : Nat} : ∀ digit ∈ lastDigits 10 width n, digit < 10 :=
  fun _ => lastDigits_lt (by decide)

end Text

namespace Instant

namespace Reader

open Text

theorem digits_digitText {width : Nat} {row : List Nat} {rest : List Char}
    (small : ∀ digit ∈ row, digit < 10) (written : row ≠ []) (fits : row.length ≤ width)
    (ends : row.length = width ∨ ∀ c ∈ rest.head?, isDecimal c = false) :
    digits width (digitText row ++ rest) = some (row, rest) := by
  have length : (digitText row).length = row.length := by simp [digitText]
  have run : ((digitText row ++ rest).take width).takeWhile isDecimal = digitText row := by
    rw [List.take_append, List.take_of_length_le (by omega)]
    refine takeWhile_isDecimal small ?_
    rcases ends with full | stops
    · simp [length, full]
    · cases rest with
      | nil => simp
      | cons c rest =>
        cases width - (digitText row).length with
        | zero => simp
        | succ more => simpa using stops
  have values := filterMap_decimalValue? small
  have nonempty : (digitText row).isEmpty = false := by
    simpa [digitText] using written
  simp only [digits, run, values, nonempty, List.drop_left]
  rfl

theorem digits_padded {width : Nat} (least n : Nat) {rest : List Char} (positive : 0 < least)
    (fits : least ≤ width) (ends : least = width ∨ ∀ c ∈ rest.head?, isDecimal c = false) :
    digits width (padded 10 least n ++ rest) = some (lastDigits 10 least n, rest) := by
  have length := length_lastDigits 10 least n
  exact digits_digitText lastDigits_small (lastDigits_ne_nil n positive) (by omega)
    (by rwa [length])

private theorem skipBlank_padded {least : Nat} (n : Nat) (rest : List Char) (positive : 0 < least) :
    skipBlank (padded 10 least n ++ rest) = padded 10 least n ++ rest :=
  skipBlank_digitText rest lastDigits_small (lastDigits_ne_nil n positive)

theorem number_padded {n : Nat} (rest : List Char) (small : n < 100) :
    number 2 (padded 10 2 n ++ rest) = some (n, rest) := by
  have read : digits 2 (padded 10 2 n ++ rest) = some (lastDigits 10 2 n, rest) :=
    digits_padded 2 n (by decide) (Nat.le_refl 2) (.inl rfl)
  have value : ofDigits 10 (lastDigits 10 2 n) = n := ofDigits_lastDigits_of_lt small
  simp only [number, skipBlank_padded n rest (show 0 < 2 by decide), read, value,
    Option.bind_eq_bind, Option.bind_some]
  rfl

private theorem separator_self {mark : Char} (rest : List Char) (solid : isBlank mark = false) :
    separator mark (mark :: rest) = some ((), rest) := by
  simp [separator, skipBlank_cons rest solid]

private theorem widened_eq (width n : Nat) : ∃ row, widened width n = digitText row ∧
    (∀ digit ∈ row, digit < 10) ∧ row ≠ [] ∧ ofDigits 10 row = n := by
  obtain ⟨row, text, writes⟩ := exists_decimal n
  refine ⟨List.replicate (width - row.length) 0 ++ row, ?_, ?_, ?_, ?_⟩
  · simp [widened, text, digitText, Nat.digitChar]
  · intro digit member
    rcases List.mem_append.1 member with zero | written
    · rw [List.eq_of_mem_replicate zero]
      decide
    · exact writes.small digit written
  · simp [writes.ne_nil]
  · rw [ofDigits_replicate_zero, writes.value]

private theorem digits_widened (width n : Nat) (rest : List Char)
    (ends : ∀ c ∈ rest.head?, isDecimal c = false) :
    ∃ row, digits (widened width n ++ rest).length (widened width n ++ rest) = some (row, rest) ∧
      ofDigits 10 row = n := by
  obtain ⟨row, text, small, written, value⟩ := widened_eq width n
  refine ⟨row, ?_, value⟩
  rw [text]
  exact digits_digitText small written (by simp [digitText]) (.inr ends)

private theorem digitChar_unsigned :
    ∀ digit < 10, Nat.digitChar digit ≠ '-' ∧ Nat.digitChar digit ≠ '+' := by
  decide

private theorem year_padded (n : Nat) (rest : List Char) (small : n < 10000)
    (ends : ∀ c ∈ rest.head?, isDecimal c = false) :
    year (padded 10 4 n ++ rest) = some ((n : Int), rest) := by
  have read := digits_padded 4 n (by decide) (Nat.le_refl 4) (.inr ends)
  have value : ofDigits 10 (lastDigits 10 4 n) = n := ofDigits_lastDigits_of_lt small
  have unsigned : ∀ c ∈ (padded 10 4 n ++ rest).head?, c ≠ '-' ∧ c ≠ '+' := by
    rintro _ ⟨⟩
    exact digitChar_unsigned _ (Nat.mod_lt _ (by decide))
  unfold year
  rw [skipBlank_padded n rest (by decide)]
  split
  case h_1 start => exact absurd rfl (unsigned '-' (by rw [start]; rfl)).1
  case h_2 start => exact absurd rfl (unsigned '+' (by rw [start]; rfl)).2
  case h_3 => simp [read, value]

private theorem year_yearChars (value : Int) (rest : List Char) :
    year (yearChars value ++ '-' :: rest) = some (value, '-' :: rest) := by
  have ends : ∀ c ∈ ('-' :: rest).head?, isDecimal c = false := by
    rintro _ ⟨⟩
    decide
  unfold yearChars
  split
  case isTrue plain =>
    rw [year_padded value.toNat _ (by omega) ends, Int.toNat_of_nonneg plain.1]
  case isFalse signed =>
    obtain ⟨row, read, size⟩ := digits_widened 4 value.natAbs ('-' :: rest) ends
    split
    case isTrue negative =>
      simp only [List.cons_append, year, skipBlank_cons _ (show isBlank '-' = false from rfl), read]
      simp only [Option.bind_eq_bind, Option.bind_some, size,
        Int.ofNat_natAbs_of_nonpos (Int.le_of_lt negative), Int.neg_neg]
      rfl
    case isFalse positive =>
      simp only [List.cons_append, year, skipBlank_cons _ (show isBlank '+' = false from rfl), read]
      simp only [Option.bind_eq_bind, Option.bind_some, size,
        Int.natAbs_of_nonneg (Int.not_lt.1 positive)]
      rfl

theorem fraction_padded {least n : Nat} (rest : List Char) (positive : 0 < least)
    (fits : least ≤ 9) (small : n < 10 ^ least)
    (ends : ∀ c ∈ rest.head?, isDecimal c = false) :
    fraction ('.' :: padded 10 least n ++ rest) = some (n * 10 ^ (9 - least), rest) := by
  have read := digits_padded least n positive fits (.inr ends)
  have zeros : ∀ count, ofDigits 10 (List.replicate count 0) = 0 := by
    intro count
    have empty := ofDigits_replicate_zero 10 count []
    rwa [List.append_nil] at empty
  have stop : rest.dropWhile isDecimal = rest := by
    cases rest with
    | nil => rfl
    | cons c rest => simp [ends c rfl]
  simp only [List.cons_append, fraction, read, Option.bind_eq_bind, Option.bind_some,
    length_lastDigits, ofDigits_append, ofDigits_lastDigits_of_lt small, zeros,
    List.length_replicate, stop, Nat.add_zero]
  rfl

private theorem fraction_fractionChars {nano : Nat} (rest : List Char) (small : nano < 1000000000)
    (notPoint : rest.head? ≠ some '.') (ends : ∀ c ∈ rest.head?, isDecimal c = false) :
    fraction (fractionChars nano ++ rest) = some (nano, rest) := by
  unfold fractionChars
  split
  case isTrue whole =>
    rw [List.nil_append, whole]
    unfold fraction
    split
    case h_1 => exact absurd rfl notPoint
    case h_2 => rfl
  split
  case isTrue milli =>
    rw [fraction_padded rest (by decide) (by decide) (by omega) ends]
    simp only [Nat.reduceSub, Nat.reducePow]
    congr 2
    omega
  split
  case isTrue micro =>
    rw [fraction_padded rest (by decide) (by decide) (by omega) ends]
    simp only [Nat.reduceSub, Nat.reducePow]
    congr 2
    omega
  case isFalse =>
    rw [fraction_padded rest (by decide) (by decide) (by omega) ends]
    simp only [Nat.reduceSub, Nat.reducePow, Nat.mul_one]

private theorem day_lt_hundred {civil : CivilDate} (found : civil.Exists) : civil.day < 100 := by
  obtain ⟨-, -, -, last⟩ := found
  have length : CivilDate.daysInMonth civil.year civil.month ≤ 31 := by
    unfold CivilDate.daysInMonth
    repeat' split
    all_goals decide
  omega

def dateChars (civil : CivilDate) : List Char :=
  yearChars civil.year ++ '-' :: (padded 10 2 civil.month ++ '-' :: padded 10 2 civil.day)

def clockChars (second nano : Nat) : List Char :=
  padded 10 2 (second / 3600) ++ ':' :: (padded 10 2 (second / 60 % 60) ++
    ':' :: (padded 10 2 (second % 60 + nano / 1000000000) ++ fractionChars (nano % 1000000000)))

private theorem date_dateChars {civil : CivilDate} (rest : List Char) (found : civil.Exists)
    (low : -262143 ≤ civil.year) (high : civil.year ≤ 262142) :
    date (dateChars civil ++ rest) = some (civil.toDay, rest) := by
  have month : civil.month < 100 := Nat.lt_of_le_of_lt found.2.1 (by decide)
  have day := day_lt_hundred found
  have mark : ∀ rest, separator '-' ('-' :: rest) = some ((), rest) :=
    fun rest => separator_self rest (by decide)
  simp only [dateChars, List.append_assoc, List.cons_append, date, year_yearChars, mark,
    number_padded _ month, number_padded rest day, Option.bind_eq_bind, Option.bind_some]
  rw [if_pos ⟨low, high, found⟩]
  rfl

/-- A second of a day and nanoseconds are read back from hours, minutes, seconds and a fraction. -/
theorem time_clockChars {second nano : Nat} (rest : List Char) (inDay : second < 86400)
    (small : nano < 2000000000) (leap : 1000000000 ≤ nano → second % 60 = 59)
    (notPoint : rest.head? ≠ some '.') (ends : ∀ c ∈ rest.head?, isDecimal c = false) :
    time (clockChars second nano ++ rest) = some ((second, nano), rest) := by
  have mark : ∀ rest, separator ':' (':' :: rest) = some ((), rest) :=
    fun rest => separator_self rest (by decide)
  have last : second % 60 + nano / 1000000000 ≤ 60 := by omega
  have part := fraction_fractionChars rest (Nat.mod_lt nano (show 1000000000 > 0 by decide))
    notPoint ends
  simp only [clockChars, List.append_assoc, List.cons_append, time, mark,
    number_padded _ (show second / 3600 < 100 by omega),
    number_padded _ (show second / 60 % 60 < 100 by omega),
    number_padded _ (show second % 60 + nano / 1000000000 < 100 by omega), part,
    Option.bind_eq_bind, Option.bind_some]
  rw [if_pos (by omega)]
  by_cases sixty : second % 60 + nano / 1000000000 = 60
  · have whole : second / 3600 * 3600 + second / 60 % 60 * 60 + (60 - 1) = second := by omega
    have leapNano : nano % 1000000000 + 1 * 1000000000 = nano := by omega
    simp only [sixty, if_true, whole, leapNano]
    rfl
  · have whole : second / 3600 * 3600 + second / 60 % 60 * 60 +
        (second % 60 + nano / 1000000000 - 0) = second := by omega
    have plainNano : nano % 1000000000 + 0 * 1000000000 = nano := by omega
    simp only [sixty, if_false, whole, plainNano]
    rfl

private theorem shift_zero (instant : Instant) :
    shift instant.day instant.secondOfDay instant.nano 0 = some instant := by
  have inDay : instant.secondOfDay < 86400 := instant.sound.2.1
  have day : (instant.day * 86400 + instant.secondOfDay - 0 * 60) / 86400 = instant.day := by
    omega
  have second : ((instant.day * 86400 + instant.secondOfDay - 0 * 60) % 86400).toNat =
      instant.secondOfDay := by
    omega
  rw [shift]
  simp only [day, second]
  exact of?_self instant

end Reader

open Reader

private theorem chars_eq (instant : Instant) :
    instant.chars = dateChars (CivilDate.ofDay instant.day) ++
      'T' :: (clockChars instant.secondOfDay instant.nano ++ ['Z']) := by
  simp [chars, dateChars, clockChars]

/-- An instant is read back from its written form. -/
theorem ofChars?_chars (instant : Instant) : ofChars? instant.chars = some instant := by
  obtain ⟨⟨low, high⟩, inDay, small, leap⟩ := instant.sound
  obtain ⟨first, last⟩ := CivilDate.ofDay_year low high
  have ends : ∀ c ∈ ['Z'].head?, Text.isDecimal c = false := by
    rintro _ ⟨⟩
    decide
  have day := date_dateChars ('T' :: (clockChars instant.secondOfDay instant.nano ++ ['Z']))
    (CivilDate.ofDay_exists instant.day) first last
  have clock := time_clockChars ['Z'] inDay small leap (by decide) ends
  have zone : offset (Text.skipBlank ['Z']) = some (0, []) := by decide
  rw [chars_eq, ofChars?, day]
  simp only [Option.bind_eq_bind, Option.bind_some, dateEnd, clock, CivilDate.toDay_ofDay, zone]
  rw [if_pos (by decide)]
  exact shift_zero instant

theorem ofText?_text (instant : Instant) : ofText? instant.text = some instant := by
  rw [ofText?, text, String.toList_ofList]
  exact ofChars?_chars instant

end Instant

end ArchiveCatalog
