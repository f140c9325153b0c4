import ArchiveCatalog.Json.Printer
import ArchiveCatalog.Json.Reader
import ArchiveCatalog.Proofs.DigitRoundTrip
import ArchiveCatalog.Proofs.Utf8RoundTrip

namespace ArchiveCatalog.Json

namespace Reader

def spelled (text : List Char) : Input := text.map some

@[simp] theorem spelled_nil : spelled [] = [] := rfl

@[simp] theorem spelled_cons (c : Char) (text : List Char) :
    spelled (c :: text) = some c :: spelled text := rfl

@[simp] theorem spelled_append (first second : List Char) :
    spelled (first ++ second) = spelled first ++ spelled second := List.map_append

private theorem stringRest_char {c : Char} (sound : Bool) (read : List Char) (rest : Input)
    (notQuote : c ≠ '"') (notEscape : c ≠ '\\') (printable : ¬c.toNat < 0x20) :
    stringRest sound read (some c :: rest) = stringRest sound (c :: read) rest := by
  rw [stringRest]
  · simp [printable]
  all_goals simp_all

theorem stringRest_escape {c escape : Char} (sound : Bool) (read : List Char) (rest : Input)
    (known : escaped? escape = some c) :
    stringRest sound read (some '\\' :: some escape :: rest) =
      stringRest sound (c :: read) rest := by
  rw [stringRest]
  · simp [known]
  · rintro _ _ _ _ _ _ rfl
    simp [escaped?] at known

private theorem stringRest_control {c : Char} (sound : Bool) (read : List Char) (rest : Input)
    (control : c.toNat < 0x20) :
    stringRest sound read
        (spelled ('\\' :: 'u' :: Text.padded 16 4 c.toNat) ++ rest) =
      stringRest sound (c :: read) rest := by
  have digits : Text.padded 16 4 c.toNat = [Nat.digitChar (c.toNat / 16 / 16 / 16 % 16),
      Nat.digitChar (c.toNat / 16 / 16 % 16), Nat.digitChar (c.toNat / 16 % 16),
      Nat.digitChar (c.toNat % 16)] := rfl
  have value := Text.ofHex?_padded 4 c.toNat
  rw [Nat.mod_eq_of_lt (by omega), digits] at value
  have notHigh : isHighSurrogate c.toNat = false := by simp [isHighSurrogate]; omega
  have notLow : isLowSurrogate c.toNat = false := by simp [isLowSurrogate]; omega
  rw [digits]
  simp only [spelled_cons, spelled_nil, List.cons_append, List.nil_append]
  rw [stringRest]
  have unit : unit? (some (Nat.digitChar (c.toNat / 16 / 16 / 16 % 16)))
      (some (Nat.digitChar (c.toNat / 16 / 16 % 16))) (some (Nat.digitChar (c.toNat / 16 % 16)))
      (some (Nat.digitChar (c.toNat % 16))) = some c.toNat := value
  simp [unit, notHigh, notLow]

private theorem stringRest_escapeChar (c : Char) (sound : Bool) (read : List Char) (rest : Input) :
    stringRest sound read (spelled (escapeChar c) ++ rest) = stringRest sound (c :: read) rest := by
  unfold escapeChar
  split
  case isTrue quote => subst quote; exact stringRest_escape _ _ _ rfl
  split
  case isTrue escape => subst escape; exact stringRest_escape _ _ _ rfl
  split
  case isTrue backspace => subst backspace; exact stringRest_escape _ _ _ rfl
  split
  case isTrue tab => subst tab; exact stringRest_escape _ _ _ rfl
  split
  case isTrue newline => subst newline; exact stringRest_escape _ _ _ rfl
  split
  case isTrue feed => subst feed; exact stringRest_escape _ _ _ rfl
  split
  case isTrue carriage => subst carriage; exact stringRest_escape _ _ _ rfl
  split
  case isTrue control => exact stringRest_control sound read rest control
  case isFalse notQuote notEscape _ _ _ _ _ printable =>
    exact stringRest_char sound read rest notQuote notEscape printable

private theorem stringRest_quoted (content : List Char) (sound : Bool) (read : List Char)
    (rest : Input) :
    stringRest sound read (spelled (content.flatMap escapeChar ++ ['"']) ++ rest) =
      some (if sound then some (String.ofList (read.reverse ++ content)) else none, rest) := by
  induction content generalizing read with
  | nil => simp [stringRest]
  | cons c later ih =>
    rw [List.flatMap_cons, List.append_assoc, spelled_append, List.append_assoc,
      stringRest_escapeChar, ih]
    simp

/-- The written form of a string, its opening mark apart, is read as that string. -/
theorem stringRest_string (content : String) (rest : Input) :
    stringRest true [] (spelled (content.toList.flatMap escapeChar ++ ['"']) ++ rest) =
      some (some content, rest) := by
  rw [stringRest_quoted]
  simp

/-- What may follow a number without continuing it. -/
def Ends (rest : Input) : Prop :=
  ∀ c, rest.head? = some (some c) → Text.isDecimal c = false ∧ c ≠ '.' ∧ c ≠ 'e' ∧ c ≠ 'E'

theorem digits_digitText {row : List Nat} {rest : Input} (small : ∀ digit ∈ row, digit < 10)
    (ends : Ends rest) : digits (spelled (Text.digitText row) ++ rest) = (row, rest) := by
  have read : ∀ digit ∈ row, (some (Nat.digitChar digit)).bind Text.decimalValue? = some digit :=
    fun digit member => Text.decimalValue?_digitChar digit (small digit member)
  have run : (spelled (Text.digitText row) ++ rest).takeWhile
      (fun glyph => (glyph.bind Text.decimalValue?).isSome) = spelled (Text.digitText row) := by
    rw [List.takeWhile_append_of_pos]
    · cases rest with
      | nil => simp
      | cons glyph rest =>
        cases glyph with
        | none => simp
        | some c =>
          have stop := (ends c rfl).1
          unfold Text.isDecimal at stop
          simp [stop]
    · intro glyph member
      obtain ⟨c, present, rfl⟩ := List.mem_map.1 member
      exact Text.all_isDecimal small present
  have values : (spelled (Text.digitText row)).filterMap (·.bind Text.decimalValue?) = row := by
    rw [spelled, List.filterMap_map]
    exact Text.filterMap_decimalValue? small
  simp only [digits, run, values, List.drop_left]

private theorem wholePart_writes {row : List Nat} {n : Nat} {rest : Input}
    (writes : Text.Writes row n)
    (ends : Ends rest) : wholePart (spelled (Text.digitText row) ++ rest) = some (row, rest) := by
  have read := digits_digitText writes.small ends
  rcases writes.leading with zero | ⟨first, later, same, nonzero⟩
  · subst zero
    rfl
  · subst same
    have small : first < 10 := writes.small first List.mem_cons_self
    have notZero : Nat.digitChar first ≠ '0' := by
      intro zero
      have value := Text.decimalValue?_digitChar first small
      rw [zero] at value
      exact nonzero (Option.some.inj value).symm
    unfold wholePart
    split
    case h_1 start =>
      simp only [Text.digitText, List.map_cons, spelled_cons, List.cons_append] at start
      exact absurd (Option.some.inj (List.cons.inj start).1) notZero
    case h_2 => simp [read]

private theorem fractionPart_ends {rest : Input} (ends : Ends rest) :
    fractionPart rest = some (none, rest) := by
  unfold fractionPart
  split
  case h_1 later => exact absurd rfl (ends '.' rfl).2.1
  case h_2 => rfl

private theorem exponentPart_ends {rest : Input} (ends : Ends rest) :
    exponentPart rest = some (none, rest) := by
  unfold exponentPart
  split
  case h_1 later => exact absurd rfl (ends 'e' rfl).2.2.1
  case h_2 later => exact absurd rfl (ends 'E' rfl).2.2.2
  case h_3 => rfl

private theorem unsigned_writes {row : List Nat} {n : Nat} {rest : Input}
    (writes : Text.Writes row n)
    (ends : Ends rest) (negative : Bool) :
    unsigned negative (spelled (Text.digitText row) ++ rest) =
      some (makeNumber negative row none none, rest) := by
  simp [unsigned, wholePart_writes writes ends, fractionPart_ends ends, exponentPart_ends ends]

/-- Integers that the reader does not take for reals. -/
def Fits (value : Int) : Prop := Int64.minValue.toInt ≤ value ∧ value < UInt64.size

private theorem makeNumber_fits {negative : Bool} {row : List Nat} {value : Int} (fits : Fits value)
    (same : value = if negative then -(Text.ofDigits 10 row : Int) else Text.ofDigits 10 row)
    (notMinusZero : negative = true → Text.ofDigits 10 row ≠ 0) :
    makeNumber negative row none none = .integer value := by
  obtain ⟨low, high⟩ := fits
  unfold makeNumber
  simp only [← same]
  rw [if_neg]
  rintro (⟨minus, zero⟩ | below | above)
  · exact notMinusZero minus zero
  · omega
  · omega

private theorem number_of_ne_minus {input : Input} (notMinus : input.head? ≠ some (some '-')) :
    number input = unsigned false input := by
  unfold number
  split
  case h_1 => simp at notMinus
  case h_2 => rfl

def numberStarts : List Char := ['-', '0', '1', '2', '3', '4', '5', '6', '7', '8', '9']

private theorem digitChar_starts :
    ∀ digit < 10, Nat.digitChar digit ∈ numberStarts ∧ Nat.digitChar digit ≠ '-' := by
  decide

private theorem digitText_starts {row : List Nat} {n : Nat} (writes : Text.Writes row n) :
    ∃ c later, Text.digitText row = c :: later ∧ c ∈ numberStarts ∧ c ≠ '-' := by
  obtain ⟨first, later, same⟩ := List.exists_cons_of_ne_nil writes.ne_nil
  have small : first < 10 := writes.small first (same ▸ List.mem_cons_self)
  exact ⟨_, Text.digitText later, by rw [same]; rfl, digitChar_starts first small⟩

private theorem signedDecimal_starts (value : Int) :
    ∃ c later, Text.signedDecimal value = c :: later ∧ c ∈ numberStarts := by
  cases value with
  | ofNat n =>
    obtain ⟨row, text, writes⟩ := Text.exists_decimal n
    obtain ⟨c, later, same, starts, -⟩ := digitText_starts writes
    exact ⟨c, later, by rw [Text.signedDecimal, text, same], starts⟩
  | negSucc n => exact ⟨'-', _, rfl, by decide⟩

private theorem number_signedDecimal {value : Int} {rest : Input} (fits : Fits value)
    (ends : Ends rest) :
    number (spelled (Text.signedDecimal value) ++ rest) = some (.integer value, rest) := by
  cases value with
  | ofNat n =>
    obtain ⟨row, text, writes⟩ := Text.exists_decimal n
    have made : makeNumber false row none none = .integer (Int.ofNat n) :=
      makeNumber_fits fits (by simp [writes.value]) (by simp)
    have notMinus : (spelled (Text.digitText row) ++ rest).head? ≠ some (some '-') := by
      obtain ⟨c, later, same, -, other⟩ := digitText_starts writes
      simp [same, other]
    rw [Text.signedDecimal, text, number_of_ne_minus notMinus, unsigned_writes writes ends, made]
  | negSucc n =>
    obtain ⟨row, text, writes⟩ := Text.exists_decimal (n + 1)
    have made : makeNumber true row none none = .integer (Int.negSucc n) :=
      makeNumber_fits fits (by simp [writes.value, Int.negSucc_eq]) (by simp [writes.value])
    rw [Text.signedDecimal, text, spelled_cons, List.cons_append, number,
      unsigned_writes writes ends true, made]

theorem skipBlank_cons {c : Char} (rest : Input) (solid : isBlank (some c) = false) :
    skipBlank (some c :: rest) = some c :: rest := by
  simp [skipBlank, solid]

theorem ends_cons {c : Char} (rest : Input) (stops : Text.isDecimal c = false)
    (others : c ≠ '.' ∧ c ≠ 'e' ∧ c ≠ 'E') : Ends (some c :: rest) := by
  rintro _ ⟨⟩
  exact ⟨stops, others⟩

private theorem value_number {fuel : Nat} {c : Char} {later : Input} (starts : c ∈ numberStarts) :
    value (fuel + 1) (some c :: later) =
      (number (some c :: later)).map fun (number, rest) => (.number number, rest) := by
  simp only [numberStarts, List.mem_cons, List.not_mem_nil, or_false] at starts
  rcases starts with rfl | rfl | rfl | rfl | rfl | rfl | rfl | rfl | rfl | rfl | rfl <;>
    simp [value, skipBlank, isBlank]

end Reader

/-- Values that a text keeps: integers of at most 64 bits, and strings that stand for characters. -/
inductive Plain : Json → Prop where
  | null : Plain .null
  | bool (value : Bool) : Plain (.bool value)
  | integer (fits : Reader.Fits value) : Plain (.ofInt value)
  | string (content : String) : Plain (.ofString content)
  | array (items : ∀ item ∈ list, Plain item) : Plain (.array list)
  | record (fields : ∀ field ∈ list, Plain field.2) : Plain (.record list)

namespace Reader

/-- A value is read back from its written form, whatever stops it and follows. -/
def Reads (json : Json) : Prop :=
  ∀ fuel rest, 2 * json.chars.length ≤ fuel → Ends rest →
    value fuel (spelled json.chars ++ rest) = some (json, rest)

theorem Reads.of_succ {json : Json} (written : json.chars ≠ [])
    (read : ∀ fuel rest, 2 * json.chars.length ≤ fuel + 1 → Ends rest →
      value (fuel + 1) (spelled json.chars ++ rest) = some (json, rest)) : Reads json := by
  intro fuel rest enough ends
  have positive := List.length_pos_iff.2 written
  obtain ⟨fuel, rfl⟩ := Nat.exists_eq_succ_of_ne_zero (show fuel ≠ 0 by omega)
  exact read fuel rest enough ends

private theorem reads_null : Reads .null :=
  .of_succ (by simp [chars]) fun fuel rest _ _ => by simp [chars, value, skipBlank, isBlank]

private theorem reads_bool (truth : Bool) : Reads (.bool truth) := by
  cases truth with
  | false =>
    exact .of_succ (by simp [chars]) fun fuel rest _ _ => by simp [chars, value, skipBlank, isBlank]
  | true =>
    exact .of_succ (by simp [chars]) fun fuel rest _ _ => by simp [chars, value, skipBlank, isBlank]

private theorem reads_integer {n : Int} (fits : Fits n) : Reads (.ofInt n) := by
  obtain ⟨c, later, text, starts⟩ := signedDecimal_starts n
  have written : (ofInt n).chars = c :: later := by rw [← text]; simp [ofInt, chars, Number.chars]
  refine .of_succ (by simp [written]) fun fuel rest _ ends => ?_
  have read := number_signedDecimal fits ends
  rw [text] at read
  rw [written]
  simp only [spelled_cons, List.cons_append] at read ⊢
  rw [value_number starts, read]
  rfl

theorem ofString_chars (content : String) :
    (ofString content).chars = '"' :: (content.toList.flatMap escapeChar ++ ['"']) := by
  simp [ofString, chars, stringChars, quote]

private theorem reads_string (content : String) : Reads (.ofString content) := by
  refine .of_succ (by simp [ofString_chars]) fun fuel rest _ _ => ?_
  rw [ofString_chars, spelled_cons, List.cons_append, value, skipBlank_cons _ rfl]
  simp only [stringRest_string, Option.map_some]
  rfl

/-- The items of an array are read up to its end, from any of them on. -/
theorem items_chars {list : List Json} (reads : ∀ item ∈ list, Reads item) {first : Json}
    (readsFirst : Reads first) (read : List Json) (fuel : Nat) (rest : Input)
    (enough : 2 * (first.chars.length + (laterItems list).length) ≤ fuel) :
    items fuel read (spelled (first.chars ++ laterItems list) ++ rest) =
      some (.array (read.reverse ++ first :: list), rest) := by
  induction list generalizing first read fuel with
  | nil =>
    obtain ⟨fuel, rfl⟩ := Nat.exists_eq_succ_of_ne_zero
      (show fuel ≠ 0 by simp only [laterItems, List.length_singleton] at enough; omega)
    simp only [laterItems, List.length_singleton] at enough
    have item := readsFirst fuel (some ']' :: rest) (by omega) (ends_cons rest rfl (by decide))
    simp only [laterItems, spelled_append, spelled_cons, spelled_nil, List.append_assoc,
      List.cons_append, List.nil_append, items, item]
    rw [skipBlank_cons rest rfl]
    simp
  | cons second list ih =>
    obtain ⟨fuel, rfl⟩ := Nat.exists_eq_succ_of_ne_zero
      (show fuel ≠ 0 by simp only [laterItems, List.length_cons, List.cons_append] at enough; omega)
    simp only [laterItems, List.length_cons, List.length_append, List.cons_append] at enough
    have item := readsFirst fuel
      (some ',' :: (spelled (second.chars ++ laterItems list) ++ rest)) (by omega)
      (ends_cons _ rfl (by decide))
    have later := ih (fun other member => reads other (List.mem_cons_of_mem second member))
      (reads second List.mem_cons_self) (first :: read) fuel (by omega)
    have text : spelled (first.chars ++ laterItems (second :: list)) ++ rest =
        spelled first.chars ++ some ',' :: (spelled (second.chars ++ laterItems list) ++ rest) := by
      simp [laterItems]
    rw [text, items, item]
    simp only [skipBlank_cons _ (show isBlank (some ',') = false from rfl), later]
    simp

def fieldChars (field : String × Json) : List Char :=
  stringChars (some field.1) ++ ':' :: field.2.chars

/-- The fields after the first one, with the end of their record. -/
def laterNamed (list : List (String × Json)) : List Char :=
  laterFields (list.map fun field => (some field.1, field.2))

private theorem laterNamed_cons (field : String × Json) (list : List (String × Json)) :
    laterNamed (field :: list) = ',' :: (fieldChars field ++ laterNamed list) := by
  simp [laterNamed, laterFields, fieldChars]

/-- Reading on after a field, from what stands behind its value. -/
def afterField (fuel : Nat) (read : List (Option String × Json)) : Input → Option (Json × Input)
  | some ',' :: rest => fields fuel read rest
  | some '\x7d' :: rest => some (.object read.reverse, rest)
  | _ => none

/-- One field of a record is read up to what stands behind its value. -/
theorem fields_field {field : String × Json} (reads : Reads field.2)
    (read : List (Option String × Json)) (fuel : Nat) (rest : Input)
    (enough : 2 * field.2.chars.length ≤ fuel) (ends : Ends rest) :
    fields (fuel + 1) read (spelled (fieldChars field) ++ rest) =
      afterField fuel ((some field.1, field.2) :: read) (skipBlank rest) := by
  have text : spelled (fieldChars field) ++ rest =
      some '"' :: (spelled (field.1.toList.flatMap escapeChar ++ ['"']) ++
        some ':' :: (spelled field.2.chars ++ rest)) := by
    simp [fieldChars, stringChars, quote]
  rw [text, fields, skipBlank_cons _ rfl]
  simp only [stringRest_string, skipBlank_cons _ (show isBlank (some ':') = false from rfl),
    reads fuel rest enough ends]
  rfl

private theorem fields_chars {list : List (String × Json)} (reads : ∀ field ∈ list, Reads field.2)
    {first : String × Json} (readsFirst : Reads first.2) (read : List (Option String × Json))
    (fuel : Nat) (rest : Input)
    (enough : 2 * ((fieldChars first).length + (laterNamed list).length) ≤ fuel) :
    fields fuel read (spelled (fieldChars first ++ laterNamed list) ++ rest) =
      some (.object (read.reverse ++
        (first :: list).map fun field => (some field.1, field.2)), rest) := by
  -- the fuel bounds the number of steps: a field takes more room than its value alone
  have longer : ∀ field : String × Json, field.2.chars.length < (fieldChars field).length := by
    intro field
    simp only [fieldChars, List.length_append, List.length_cons]
    omega
  have bound := longer first
  induction list generalizing first read fuel with
  | nil =>
    obtain ⟨fuel, rfl⟩ := Nat.exists_eq_succ_of_ne_zero (show fuel ≠ 0 by omega)
    have field := fields_field readsFirst read fuel (some '\x7d' :: rest) (by omega)
      (ends_cons rest rfl (by decide))
    have text : spelled (fieldChars first ++ laterNamed []) ++ rest =
        spelled (fieldChars first) ++ some '\x7d' :: rest := by
      simp [laterNamed, laterFields]
    rw [text, field, skipBlank_cons rest rfl]
    simp [afterField]
  | cons second list ih =>
    obtain ⟨fuel, rfl⟩ := Nat.exists_eq_succ_of_ne_zero (show fuel ≠ 0 by omega)
    simp only [laterNamed_cons, List.length_cons, List.length_append] at enough
    have field := fields_field readsFirst read fuel
      (some ',' :: (spelled (fieldChars second ++ laterNamed list) ++ rest)) (by omega)
      (ends_cons _ rfl (by decide))
    have later := ih (fun other member => reads other (List.mem_cons_of_mem second member))
      (reads second List.mem_cons_self) ((some first.1, first.2) :: read) fuel (by omega)
      (longer second)
    have text : spelled (fieldChars first ++ laterNamed (second :: list)) ++ rest =
        spelled (fieldChars first) ++
          some ',' :: (spelled (fieldChars second ++ laterNamed list) ++ rest) := by
      simp [laterNamed_cons]
    rw [text, field, skipBlank_cons _ rfl]
    simp only [afterField, later]
    simp

end Reader

namespace Plain

open Reader

theorem chars_starts {json : Json} (plain : Plain json) :
    ∃ c later, json.chars = c :: later ∧ isBlank (some c) = false ∧ c ≠ ']' := by
  cases plain with
  | null => exact ⟨_, _, rfl, by decide, by decide⟩
  | bool truth => cases truth <;> exact ⟨_, _, rfl, by decide, by decide⟩
  | @integer n fits =>
    obtain ⟨c, later, text, starts⟩ := signedDecimal_starts n
    have solid : ∀ c ∈ numberStarts, isBlank (some c) = false ∧ c ≠ ']' := by
      simp [numberStarts, isBlank]
    refine ⟨c, later, ?_, solid c starts⟩
    rw [← text]
    simp [ofInt, chars, Number.chars]
  | string content => exact ⟨_, _, ofString_chars content, by decide, by decide⟩
  | @array list items => cases list <;> exact ⟨_, _, rfl, by decide, by decide⟩
  | @record list fields => cases list <;> exact ⟨_, _, rfl, by decide, by decide⟩

private theorem chars_ne_nil {json : Json} (plain : Plain json) : json.chars ≠ [] := by
  obtain ⟨c, later, text, -⟩ := plain.chars_starts
  simp [text]

private theorem reads_array {list : List Json} (plain : ∀ item ∈ list, Plain item)
    (reads : ∀ item ∈ list, Reads item) : Reads (.array list) := by
  refine .of_succ (Plain.array plain).chars_ne_nil fun fuel rest enough _ => ?_
  cases list with
  | nil => simp [chars, value, skipBlank, isBlank]
  | cons first list =>
    obtain ⟨c, later, text, solid, notEnd⟩ := (plain first List.mem_cons_self).chars_starts
    simp only [chars, List.length_cons, List.length_append, List.cons_append] at enough
    have body := items_chars (fun item member => reads item (List.mem_cons_of_mem first member))
      (reads first List.mem_cons_self) [] fuel rest (by omega)
    simp only [text, chars, spelled_cons, List.cons_append] at body ⊢
    rw [value, skipBlank_cons _ rfl]
    simp only [skipBlank_cons _ solid]
    split
    case h_1 start =>
      exact absurd (Option.some.inj (List.cons.inj start).1) notEnd
    case h_2 => simpa using body

private theorem reads_record {list : List (String × Json)} (plain : ∀ field ∈ list, Plain field.2)
    (reads : ∀ field ∈ list, Reads field.2) : Reads (.record list) := by
  refine .of_succ (Plain.record plain).chars_ne_nil fun fuel rest enough _ => ?_
  cases list with
  | nil => simp [Json.record, chars, value, skipBlank, isBlank]
  | cons first list =>
    have text : (Json.record (first :: list)).chars =
        '\x7b' :: (fieldChars first ++ laterNamed list) := by
      simp [Json.record, chars, fieldChars, laterNamed]
    rw [text] at enough ⊢
    simp only [List.length_cons, List.length_append] at enough
    have body := fields_chars (fun field member => reads field (List.mem_cons_of_mem first member))
      (reads first List.mem_cons_self) [] fuel rest (by omega)
    have start : spelled (fieldChars first ++ laterNamed list) ++ rest = some '"' ::
        (spelled (first.1.toList.flatMap escapeChar ++ '"' :: ':' :: first.2.chars ++
          laterNamed list) ++ rest) := by
      simp [fieldChars, stringChars, quote]
    rw [start] at body
    rw [spelled_cons, List.cons_append, start, value, skipBlank_cons _ rfl]
    simp only [skipBlank_cons _ (show isBlank (some '"') = false from rfl)]
    exact body

theorem reads {json : Json} (plain : Plain json) : Reads json := by
  induction plain with
  | null => exact reads_null
  | bool truth => exact reads_bool truth
  | integer fits => exact reads_integer fits
  | string content => exact reads_string content
  | array plain ih => exact reads_array plain ih
  | record plain ih => exact reads_record plain ih

/-- A plain value is read back from its written form. -/
theorem ofGlyphs?_chars {json : Json} (plain : Plain json) :
    ofGlyphs? (json.chars.map some) = some json := by
  have ends : Ends [] := by simp [Ends]
  have read := plain.reads (2 * (json.chars.map some).length + 2) [] (by simp) ends
  rw [List.append_nil] at read
  unfold ofGlyphs?
  rw [show json.chars.map some = spelled json.chars from rfl] at read ⊢
  simp [read, skipBlank]

theorem ofBytes?_encode {json : Json} (plain : Plain json) :
    ofBytes? (Text.encode json.chars) = some json := by
  rw [ofBytes?, Text.decode_encode]
  exact plain.ofGlyphs?_chars

end Plain

end ArchiveCatalog.Json
