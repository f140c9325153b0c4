import ArchiveCatalog.Config
import ArchiveCatalog.Proofs.RecordCodec

namespace ArchiveCatalog

namespace Json

/-- Whatever is written is read back from the text. -/
def RoundTrips (write : α → Json) (read : Json → Option α) : Prop :=
  ∀ value, (ofText? (write value).text).bind read = some value

/-- A form of values whose text keeps them, and the reader that undoes it. -/
structure Faithful (write : α → Json) (read : Json → Option α) : Prop where
  plain : ∀ value, (write value).Plain
  inverse : ∀ value, read (write value) = some value

theorem Faithful.roundTrips {write : α → Json} {read : Json → Option α}
    (faithful : Faithful write read) : RoundTrips write read := by
  intro value
  have parsed : ofText? (write value).text = some (write value) := by
    rw [ofText?, text, String.toList_ofList]
    exact (faithful.plain value).ofGlyphs?_chars
  rw [parsed, Option.bind_some, faithful.inverse value]

theorem Plain.natural {n : Nat} (fits : n < UInt64.size) : (ofNat n).Plain := by
  refine .integer ⟨?_, by omega⟩
  have low : Int64.minValue.toInt ≤ 0 := by decide
  omega

theorem naturalBelow?_ofNat {bound n : Nat} (below : n < bound) :
    naturalBelow? bound (ofNat n) = some n := by
  simp [naturalBelow?, ofNat, ofInt, integer?, below]

/-- An optional value may be `null` only where it is missing. -/
theorem optional?_ofOption {write : α → Json} {read : Json → Option α}
    (inverse : ∀ value, read (write value) = some value) (present : ∀ value, write value ≠ .null)
    (value : Option α) : optional? read (some (ofOption (value.map write))) = some value := by
  cases value with
  | none => rfl
  | some value =>
    have given := present value
    simp only [Option.map_some, ofOption, Option.getD_some]
    unfold optional?
    split
    case h_1 missing => cases missing
    case h_2 missing => exact absurd (Option.some.inj missing) given
    case h_3 found =>
      cases found
      rw [inverse value, Option.map_some]

private theorem Plain.optional {write : α → Json} (plain : ∀ value, (write value).Plain)
    (value : Option α) : (ofOption (value.map write)).Plain := by
  cases value with
  | none => exact .null
  | some value => exact plain value

end Json

namespace Stem

theorem faithful : Json.Faithful toJson ofJson? where
  plain stem := by
    apply Json.Plain.record
    simp only [List.forall_mem_cons]
    exact ⟨.string _, .string _, .string _, List.forall_mem_nil _⟩
  inverse stem := by
    have fields : stem.toJson.fields? ["namespace", "auid", "url"] = some _ :=
      Json.fields?_record (by simp)
    rw [ofJson?, fields]
    simp [Json.required?, Json.string?, Json.ofString]

end Stem

namespace ArtifactIdentifier

theorem faithful : Json.Faithful toJson ofJson? where
  plain identifier := by
    apply Json.Plain.record
    simp only [List.forall_mem_cons]
    exact ⟨.string _, Stem.faithful.plain _, .integer (Json.Reader.fits_int32 _),
      List.forall_mem_nil _⟩
  inverse identifier := by
    have fields : identifier.toJson.fields? ["uuid", "stem", "version"] = some _ :=
      Json.fields?_record (by simp)
    rw [ofJson?, fields]
    simp [Json.required?, Uuid.ofJson?, Json.string?, Json.ofString, Uuid.ofText?_text,
      Stem.faithful.inverse, Json.int32?, Json.integer?, Json.ofInt, int32?_toInt]

end ArtifactIdentifier

namespace AuSize

theorem faithful : Json.Faithful toJson ofJson? where
  plain size := by
    apply Json.Plain.record
    simp only [List.forall_mem_cons]
    exact ⟨.integer (Json.Reader.fits_int64 _), .integer (Json.Reader.fits_int64 _),
      .integer (Json.Reader.fits_int64 _), List.forall_mem_nil _⟩
  inverse size := by
    have fields : size.toJson.fields?
        ["total_latest_versions", "total_all_versions", "total_warc_size"] = some _ :=
      Json.fields?_record (by simp)
    rw [ofJson?, fields]
    simp [Json.required?, Json.int64?, Json.integer?, Json.ofInt, int64?_toInt]

end AuSize

namespace Duration

private theorem carrying?_parts (duration : Duration) :
    carrying? duration.secs.toNat duration.nanos.val = some duration := by
  obtain ⟨secs, nanos⟩ := duration
  have whole : nanos.val / 1000000000 = 0 := Nat.div_eq_of_lt nanos.isLt
  have fits : secs.toNat < UInt64.size := secs.toNat_lt
  simp [carrying?, whole, fits]

theorem ofJson?_of_fields {value secs nanos : Json} {wholeSecs restNanos : Nat}
    (fields : value.onlyFields? ["secs", "nanos"] = some [some secs, some nanos])
    (readSecs : secs.naturalBelow? UInt64.size = some wholeSecs)
    (readNanos : nanos.naturalBelow? UInt32.size = some restNanos) :
    ofJson? value = carrying? wholeSecs restNanos := by
  simp [ofJson?, fields, Json.required?, readSecs, readNanos]

theorem faithful : Json.Faithful toJson ofJson? where
  plain duration := by
    have nanos := duration.nanos.isLt
    apply Json.Plain.record
    simp only [List.forall_mem_cons]
    exact ⟨.natural duration.secs.toNat_lt_size, .natural (Nat.lt_trans nanos (by decide)),
      List.forall_mem_nil _⟩
  inverse duration := by
    have nanos := duration.nanos.isLt
    have only : duration.toJson.onlyFields? ["secs", "nanos"] =
        duration.toJson.fields? ["secs", "nanos"] := by
      simp [toJson, Json.record, Json.onlyFields?]
    have fields : duration.toJson.fields? ["secs", "nanos"] = some _ :=
      Json.fields?_record (by simp)
    -- to run the reader on the written form would compare each number with its bound by counting
    have read := ofJson?_of_fields (only.trans fields)
      (Json.naturalBelow?_ofNat duration.secs.toNat_lt_size)
      (Json.naturalBelow?_ofNat (Nat.lt_trans nanos (by decide)))
    rw [read, duration.carrying?_parts]

end Duration

namespace RetryConfig

theorem ofJson?_of_fields {value retries delay : Json} {maxRetries : Nat} {retryDelay : Duration}
    (fields : value.fields? ["max_retries", "retry_delay"] = some [some retries, some delay])
    (readRetries : retries.naturalBelow? UInt32.size = some maxRetries)
    (readDelay : Duration.ofJson? delay = some retryDelay) :
    ofJson? value = some ⟨UInt32.ofNat maxRetries, retryDelay⟩ := by
  simp [ofJson?, fields, Json.required?, readRetries, readDelay]

theorem faithful : Json.Faithful toJson ofJson? where
  plain config := by
    have retries := config.maxRetries.toNat_lt_size
    apply Json.Plain.record
    simp only [List.forall_mem_cons]
    exact ⟨.natural (Nat.lt_trans retries (by decide)), Duration.faithful.plain _,
      List.forall_mem_nil _⟩
  inverse config := by
    have fields : config.toJson.fields? ["max_retries", "retry_delay"] = some _ :=
      Json.fields?_record (by simp)
    have read := ofJson?_of_fields fields
      (Json.naturalBelow?_ofNat config.maxRetries.toNat_lt_size) (Duration.faithful.inverse _)
    rw [read, UInt32.ofNat_toNat]

end RetryConfig

namespace LocalConfig

theorem ofJson?_of_fields {value directory size : Json} {path : String} {maxSizeMb : Nat}
    (fields : value.fields? ["path", "max_size_mb"] = some [some directory, some size])
    (readPath : directory.string? = some path)
    (readSize : size.naturalBelow? UInt64.size = some maxSizeMb) :
    ofJson? value = some ⟨path, UInt64.ofNat maxSizeMb⟩ := by
  simp [ofJson?, fields, Json.required?, readPath, readSize]

theorem faithful : Json.Faithful toJson ofJson? where
  plain config := by
    apply Json.Plain.record
    simp only [List.forall_mem_cons]
    exact ⟨.string _, .natural config.maxSizeMb.toNat_lt_size, List.forall_mem_nil _⟩
  inverse config := by
    have fields : config.toJson.fields? ["path", "max_size_mb"] = some _ :=
      Json.fields?_record (by simp)
    have read := ofJson?_of_fields fields rfl
      (Json.naturalBelow?_ofNat config.maxSizeMb.toNat_lt_size)
    rw [read, UInt64.ofNat_toNat]

end LocalConfig

namespace SqlConfig

theorem ofJson?_of_fields {value port size timeout path policy : Json}
    {host dbname user password : String} {portNumber maxPoolSize : Nat} {connectTimeout : Duration}
    {searchPath : Option String} {retry : RetryConfig}
    (fields : value.fields? ["host", "port", "dbname", "user", "password", "max_pool_size",
      "connect_timeout", "search_path", "retry"] =
        some [some (.ofString host), some port, some (.ofString dbname), some (.ofString user),
          some (.ofString password), some size, some timeout, some path, some policy])
    (readPort : port.naturalBelow? UInt16.size = some portNumber)
    (readSize : size.naturalBelow? UInt64.size = some maxPoolSize)
    (readTimeout : Duration.ofJson? timeout = some connectTimeout)
    (readPath : Json.optional? Json.string? (some path) = some searchPath)
    (readRetry : RetryConfig.ofJson? policy = some retry) :
    ofJson? value = some ⟨host, UInt16.ofNat portNumber, dbname, user, password,
      UInt64.ofNat maxPoolSize, connectTimeout, searchPath, retry⟩ := by
  simp [ofJson?, fields, Json.required?, Json.string?, Json.ofString, readPort, readSize,
    readTimeout, readPath, readRetry]

theorem faithful : Json.Faithful toJson ofJson? where
  plain config := by
    have port := config.port.toNat_lt_size
    apply Json.Plain.record
    simp only [List.forall_mem_cons]
    exact ⟨.string _, .natural (Nat.lt_trans port (by decide)), .string _, .string _,
      .string _, .natural config.maxPoolSize.toNat_lt_size, Duration.faithful.plain _,
      .optional Json.Plain.string _, RetryConfig.faithful.plain _, List.forall_mem_nil _⟩
  inverse config := by
    have fields : config.toJson.fields? ["host", "port", "dbname", "user", "password",
        "max_pool_size", "connect_timeout", "search_path", "retry"] = some _ :=
      Json.fields?_record (by simp)
    have searchPath := @Json.optional?_ofOption _ Json.ofString Json.string? (fun _ => rfl)
      (fun _ => Json.noConfusion) config.searchPath
    have read := ofJson?_of_fields fields (Json.naturalBelow?_ofNat config.port.toNat_lt_size)
      (Json.naturalBelow?_ofNat config.maxPoolSize.toNat_lt_size) (Duration.faithful.inverse _)
      searchPath (RetryConfig.faithful.inverse _)
    rw [read, UInt16.ofNat_toNat, UInt64.ofNat_toNat]

end SqlConfig

namespace BackendKind

theorem faithful : Json.Faithful toJson ofJson? where
  plain kind := .string _
  inverse kind := by cases kind <;> rfl

end BackendKind

namespace CatalogConfig

theorem ofJson?_of_fields {value kind directory database timeout : Json} {backend : BackendKind}
    {localConfig : Option LocalConfig} {sqlConfig : Option SqlConfig} {readyTimeout : Duration}
    (fields : value.fields? ["backend", "local", "sql", "ready_timeout"] =
      some [some kind, some directory, some database, some timeout])
    (readKind : BackendKind.ofJson? kind = some backend)
    (readLocal : Json.optional? LocalConfig.ofJson? (some directory) = some localConfig)
    (readSql : Json.optional? SqlConfig.ofJson? (some database) = some sqlConfig)
    (readTimeout : Duration.ofJson? timeout = some readyTimeout) :
    ofJson? value = some ⟨backend, localConfig, sqlConfig, readyTimeout⟩ := by
  simp [ofJson?, fields, Json.required?, readKind, readLocal, readSql, readTimeout]

theorem faithful : Json.Faithful toJson ofJson? where
  plain config := by
    apply Json.Plain.record
    simp only [List.forall_mem_cons]
    exact ⟨BackendKind.faithful.plain _, .optional LocalConfig.faithful.plain _,
      .optional SqlConfig.faithful.plain _, Duration.faithful.plain _, List.forall_mem_nil _⟩
  inverse config := by
    have fields : config.toJson.fields? ["backend", "local", "sql", "ready_timeout"] = some _ :=
      Json.fields?_record (by simp)
    exact ofJson?_of_fields fields (BackendKind.faithful.inverse _)
      (Json.optional?_ofOption LocalConfig.faithful.inverse (fun _ => Json.noConfusion) _)
      (Json.optional?_ofOption SqlConfig.faithful.inverse (fun _ => Json.noConfusion) _)
      (Duration.faithful.inverse _)

end CatalogConfig

namespace Artifact

/-- The value of a record is read under no key but the identifier of its artifact. -/
theorem decode?_encode_of_ne {artifact : Artifact} {key : Bytes}
    (other : key ≠ artifact.uuid.bytes) : decode? key artifact.encode = none := by
  cases read : Uuid.ofBytes? key with
  | none => simp [decode?, read]
  | some uuid =>
    have differs : artifact.uuid ≠ uuid := by
      rintro rfl
      exact other (Uuid.bytes_of_ofBytes? read).symm
    simp [decode?, read, ofBytes?_encode, differs]

end Artifact

/-- Every artifact is read back from its record, with the bytes of its identifier as key and with
no other key; and names, sizes and settings, whatever their values, are read back from their
texts. -/
theorem texts_read_back :
    (∀ (artifact : Artifact) (key : Bytes), Artifact.decode? key artifact.encode =
      if key = artifact.uuid.bytes then some artifact else none) ∧
    Json.RoundTrips Stem.toJson Stem.ofJson? ∧
    Json.RoundTrips ArtifactIdentifier.toJson ArtifactIdentifier.ofJson? ∧
    Json.RoundTrips AuSize.toJson AuSize.ofJson? ∧
    Json.RoundTrips RetryConfig.toJson RetryConfig.ofJson? ∧
    Json.RoundTrips LocalConfig.toJson LocalConfig.ofJson? ∧
    Json.RoundTrips SqlConfig.toJson SqlConfig.ofJson? ∧
    Json.RoundTrips CatalogConfig.toJson CatalogConfig.ofJson? := by
  refine ⟨fun artifact key => ?_, Stem.faithful.roundTrips, ArtifactIdentifier.faithful.roundTrips,
    AuSize.faithful.roundTrips, RetryConfig.faithful.roundTrips, LocalConfig.faithful.roundTrips,
    SqlConfig.faithful.roundTrips, CatalogConfig.faithful.roundTrips⟩
  split
  case isTrue own => exact own ▸ artifact.decode?_encode
  case isFalse other => exact Artifact.decode?_encode_of_ne other

end ArchiveCatalog
