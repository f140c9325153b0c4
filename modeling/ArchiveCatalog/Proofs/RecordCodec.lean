import ArchiveCatalog.Artifact.Json
import ArchiveCatalog.Local.Records
import ArchiveCatalog.Proofs.InstantRoundTrip
import ArchiveCatalog.Proofs.JsonRoundTrip

namespace ArchiveCatalog

namespace Uuid

private theorem value_lt (uuid : Uuid) : uuid.value.toNat < 16 ^ 32 := uuid.value.isLt

private theorem ofNat_value (uuid : Uuid) : ofNat uuid.value.toNat = uuid := by
  cases uuid
  simp [ofNat]

private theorem ofDigits?_digits (uuid : Uuid) : ofDigits? uuid.digits = some uuid := by
  rw [ofDigits?, digits, if_pos (Text.length_padded 16 32 _), Text.ofHex?_padded,
    Nat.mod_eq_of_lt uuid.value_lt, Option.map_some, ofNat_value]

private theorem ofHyphenated?_hyphenate {digits : List Char} (length : digits.length = 32) :
    ofHyphenated? (hyphenate digits) = ofDigits? digits := by
  obtain ⟨a, rest, rfl, first⟩ : ∃ a rest, digits = a ++ rest ∧ a.length = 8 :=
    ⟨digits.take 8, digits.drop 8, by simp, by simp [length]⟩
  obtain ⟨b, rest, rfl, second⟩ : ∃ b later, rest = b ++ later ∧ b.length = 4 :=
    ⟨rest.take 4, rest.drop 4, by simp, by simp at length ⊢; omega⟩
  obtain ⟨c, rest, rfl, third⟩ : ∃ c later, rest = c ++ later ∧ c.length = 4 :=
    ⟨rest.take 4, rest.drop 4, by simp, by simp at length ⊢; omega⟩
  obtain ⟨d, rest, rfl, fourth⟩ : ∃ d later, rest = d ++ later ∧ d.length = 4 :=
    ⟨rest.take 4, rest.drop 4, by simp, by simp at length ⊢; omega⟩
  have last : rest.length = 12 := by simp at length; omega
  have text : hyphenate (a ++ (b ++ (c ++ (d ++ rest)))) =
      a ++ '-' :: (b ++ '-' :: (c ++ '-' :: (d ++ '-' :: rest))) := by
    simp (disch := omega) [hyphenate, List.drop_append, List.drop_eq_nil_of_le, first, second,
      third]
  rw [text, ofHyphenated?]
  simp (disch := omega) [List.drop_append, List.drop_eq_nil_of_le, List.getElem?_append_right,
    List.getElem?_cons_zero, first, second, third, fourth, last]

private theorem hexDigit_starts :
    ∀ digit < 16, Nat.digitChar digit ≠ '\x7b' ∧ Nat.digitChar digit ≠ 'u' := by
  decide

theorem chars_starts (uuid : Uuid) :
    ∃ first rest, uuid.chars = first :: rest ∧ first ≠ '\x7b' ∧ first ≠ 'u' := by
  have length := Text.length_lastDigits 16 32 uuid.value.toNat
  obtain ⟨first, rest, row⟩ := List.exists_cons_of_length_pos (by rw [length]; decide)
  have member : first ∈ Text.lastDigits 16 32 uuid.value.toNat := by
    rw [row]
    exact List.mem_cons_self
  have start : uuid.chars = Nat.digitChar first :: uuid.chars.tail := by
    rw [chars, digits, Text.padded, row]
    rfl
  exact ⟨_, _, start, hexDigit_starts first (Text.lastDigits_lt (by decide) member)⟩

theorem ofChars?_chars (uuid : Uuid) : ofChars? uuid.chars = some uuid := by
  have read : ofHyphenated? uuid.chars = some uuid := by
    have length : uuid.digits.length = 32 := Text.length_padded 16 32 _
    rw [chars, ofHyphenated?_hyphenate length, ofDigits?_digits]
  have long : uuid.chars.length ≠ 32 := by
    simp [chars, hyphenate, digits]
  obtain ⟨first, rest, text, notBrace, notUrn⟩ := uuid.chars_starts
  unfold ofChars?
  split
  case h_1 start => exact absurd (List.cons.inj (text.symm.trans start)).1 notBrace
  case h_2 start => exact absurd (List.cons.inj (text.symm.trans start)).1 notUrn
  case h_3 => rw [if_neg long, read]

theorem ofText?_text (uuid : Uuid) : ofText? uuid.text = some uuid := by
  rw [ofText?, text, String.toList_ofList]
  exact uuid.ofChars?_chars

private theorem toNat_bytes (uuid : Uuid) :
    uuid.bytes.map (·.toNat) = Text.lastDigits 256 16 uuid.value.toNat := by
  rw [bytes, Text.lastBytes, List.map_map, List.map_congr_left, List.map_id]
  intro digit member
  have small : digit < 256 := Text.lastDigits_lt (by decide) member
  simp [Nat.mod_eq_of_lt small]

theorem ofBytes?_bytes (uuid : Uuid) : ofBytes? uuid.bytes = some uuid := by
  have length : uuid.bytes.length = 16 := by simp [bytes, Text.lastBytes]
  have value : Text.ofDigits 256 (Text.lastDigits 256 16 uuid.value.toNat) = uuid.value.toNat :=
    Text.ofDigits_lastDigits_of_lt uuid.value_lt
  rw [ofBytes?, if_pos length, toNat_bytes, value, ofNat_value]

/-- Only the sixteen bytes of an identifier are read as that identifier. -/
theorem bytes_of_ofBytes? {bytes : List UInt8} {uuid : Uuid} (read : ofBytes? bytes = some uuid) :
    uuid.bytes = bytes := by
  unfold ofBytes? at read
  split at read
  case isFalse => cases read
  case isTrue length =>
    cases read
    have count : (bytes.map (·.toNat)).length = 16 := by rw [List.length_map, length]
    have small : ∀ digit ∈ bytes.map (·.toNat), digit < 256 := by
      intro digit member
      obtain ⟨byte, -, rfl⟩ := List.mem_map.1 member
      exact byte.toNat_lt
    have fits := Text.ofDigits_lt (by decide) small
    rw [count] at fits
    have value : (ofNat (Text.ofDigits 256 (bytes.map (·.toNat)))).value.toNat =
        Text.ofDigits 256 (bytes.map (·.toNat)) := by
      rw [ofNat, BitVec.toNat_ofNat]
      exact Nat.mod_eq_of_lt fits
    rw [Uuid.bytes, value, Text.lastBytes, Text.lastDigits_ofDigits count small, List.map_map]
    exact (List.map_congr_left fun byte _ => UInt8.ofNat_toNat).trans (List.map_id bytes)

theorem bytes_injective {first second : Uuid} (same : first.bytes = second.bytes) :
    first = second := by
  have read := ofBytes?_bytes first
  rw [same, ofBytes?_bytes second] at read
  exact (Option.some.inj read).symm

end Uuid

theorem int32?_toInt (value : Int32) : int32? value.toInt = some value := by
  rw [int32?, if_pos ⟨value.minValue_le_toInt, value.toInt_le⟩, Int32.ofInt_toInt]

theorem int64?_toInt (value : Int64) : int64? value.toInt = some value := by
  rw [int64?, if_pos ⟨value.minValue_le_toInt, value.toInt_le⟩, Int64.ofInt_toInt]

namespace Json

theorem Reader.fits_int64 (value : Int64) : Reader.Fits value.toInt := by
  have low := value.minValue_le_toInt
  have high := value.toInt_lt
  refine ⟨low, ?_⟩
  simp only [UInt64.size]
  omega

theorem Reader.fits_int32 (value : Int32) : Reader.Fits value.toInt := by
  have low := value.minValue_le_toInt
  have high := value.toInt_lt
  have bound : Int64.minValue.toInt ≤ Int32.minValue.toInt := by decide
  refine ⟨by omega, ?_⟩
  simp only [UInt64.size]
  omega

private theorem single?_of_mem {list : List (String × Json)} (distinct : (list.map (·.1)).Nodup)
    {field : String × Json} (member : field ∈ list) :
    single? field.1 (list.map fun field => (some field.1, field.2)) = some (some field.2) := by
  have one : (list.map fun field => (some field.1, field.2)).filter (·.1 == some field.1) =
      [(some field.1, field.2)] := by
    induction list with
    | nil => simp at member
    | cons first list ih =>
      simp only [List.map_cons, List.nodup_cons] at distinct
      obtain ⟨fresh, distinct⟩ := distinct
      rcases List.mem_cons.1 member with rfl | later
      · have others : (list.map fun field => (some field.1, field.2)).filter
            (·.1 == some field.1) = [] := by
          rw [List.filter_eq_nil_iff]
          rintro _ present same
          obtain ⟨other, known, rfl⟩ := List.mem_map.1 present
          have name : other.1 = field.1 := by simpa using same
          exact fresh (name ▸ List.mem_map_of_mem known)
        simp [others]
      · have other : first.1 ≠ field.1 := by
          intro same
          rw [same] at fresh
          exact fresh (List.mem_map_of_mem later)
        have rest := ih distinct later
        simp [other, rest]
  rw [single?, one]

theorem fields?_record {list : List (String × Json)} (distinct : (list.map (·.1)).Nodup) :
    (record list).fields? (list.map (·.1)) = some (list.map fun field => some field.2) := by
  have general (part : List (String × Json)) (within : part ⊆ list) :
      (part.map (·.1)).mapM (single? · (list.map fun field => (some field.1, field.2))) =
        some (part.map fun field => some field.2) := by
    induction part with
    | nil => rfl
    | cons field part ih =>
      have first := single?_of_mem distinct (within List.mem_cons_self)
      have later := ih fun other member => within (List.mem_cons_of_mem field member)
      rw [List.map_cons, List.mapM_cons, first, later]
      rfl
  rw [record, fields?, if_pos (by simp), general list (List.Subset.refl list)]

end Json

namespace Artifact

private theorem toJson_plain (artifact : Artifact) : artifact.toJson.Plain := by
  apply Json.Plain.record
  intro field member
  simp only [List.mem_cons, List.not_mem_nil, or_false] at member
  rcases member with rfl | rfl | rfl | rfl | rfl | rfl | rfl | rfl | rfl | rfl
  case inr.inr.inr.inr.inl => exact .integer (Json.Reader.fits_int32 artifact.version)
  case inr.inr.inr.inr.inr.inl => exact .bool artifact.committed
  case inr.inr.inr.inr.inr.inr.inr.inl =>
    exact .integer (Json.Reader.fits_int64 artifact.contentLength)
  all_goals exact .string _

private theorem ofJson?_toJson (artifact : Artifact) : ofJson? artifact.toJson = some artifact := by
  have fields : artifact.toJson.fields? ["uuid", "namespace", "auid", "url", "version",
      "committed", "storage_url", "content_length", "content_digest", "collection_date"] = some _ :=
    Json.fields?_record (by simp)
  rw [ofJson?, fields]
  simp [Json.required?, Uuid.ofJson?, Json.string?, Json.ofString, Uuid.ofText?_text, Json.int32?,
    Json.integer?, Json.ofInt, int32?_toInt, int64?_toInt, Json.int64?, Json.bool?,
    Instant.ofJson?, Instant.ofText?_text]

theorem ofBytes?_encode (artifact : Artifact) :
    (Json.ofBytes? artifact.encode).bind ofJson? = some artifact := by
  rw [encode, artifact.toJson_plain.ofBytes?_encode, Option.bind_some, ofJson?_toJson]

/-- A record is read back as the artifact that was written. -/
theorem decode?_encode (artifact : Artifact) :
    decode? artifact.uuid.bytes artifact.encode = some artifact := by
  simp [decode?, Uuid.ofBytes?_bytes, ofBytes?_encode]

end Artifact

end ArchiveCatalog
