import ArchiveCatalog.Proofs.LostReplies
import ArchiveCatalog.Proofs.PendingChanges

namespace ArchiveCatalog

/-- An argument that has to be looked at. -/
inductive Argument where
  | uuid (value : Uuid)
  | text (field value : String)
  | version (value : Int32)
  | contentLength (value : Int64)

namespace Argument

def field : Argument → String
  | .uuid _ => "uuid"
  | .text field _ => field
  | .version _ => "version"
  | .contentLength _ => "content_length"

def fieldOrder : List String :=
  ["uuid", "namespace", "auid", "url", "prefix", "storage_url", "version", "content_length"]

def mistake? : Argument → Option ValidationError
  | .uuid value => if value = .nil then some (.requiredFieldMissing "uuid") else none
  | .text field value => if value = "" then some (.requiredFieldMissing field) else none
  | .version value =>
    if value.toInt < 1 then
      some (.invalidValue "version" ("version must be positive, got " ++ numeral value.toInt))
    else none
  | .contentLength value =>
    if value.toInt < 0 then
      some (.invalidValue "content_length"
        ("content_length must be non-negative, got " ++ numeral value.toInt))
    else none

def firstMistake? (arguments : List Argument) : Option ValidationError :=
  arguments.findSome? mistake?

end Argument

/-- The arguments that an operation looks at, in order. The version that is looked up may be any
number, and what a search within one archival unit starts with may be any text. -/
def Operation.arguments : Operation → List Argument
  | .index artifact =>
    [.uuid artifact.uuid, .text "namespace" artifact.ns, .text "auid" artifact.auid,
      .text "url" artifact.url, .version artifact.version, .contentLength artifact.contentLength]
  | .commit uuid => [.uuid uuid]
  | .delete uuid => [.uuid uuid]
  | .relocate uuid storageUrl => [.uuid uuid, .text "storage_url" storageUrl]
  | .find uuid => [.uuid uuid]
  | .contains uuid => [.uuid uuid]
  | .latest ns auid url _ => [.text "namespace" ns, .text "auid" auid, .text "url" url]
  | .version ns auid url _ _ => [.text "namespace" ns, .text "auid" auid, .text "url" url]
  | .namespaces => []
  | .auIds ns => [.text "namespace" ns]
  | .listLatest ns auid _ => [.text "namespace" ns, .text "auid" auid]
  | .listAll ns auid _ => [.text "namespace" ns, .text "auid" auid]
  | .listUrl ns auid url _ => [.text "namespace" ns, .text "auid" auid, .text "url" url]
  | .searchLatest ns auid _ => [.text "namespace" ns, .text "auid" auid]
  | .searchAll ns auid _ => [.text "namespace" ns, .text "auid" auid]
  | .acrossAusByUrl ns url _ => [.text "namespace" ns, .text "url" url]
  | .acrossAusByStart ns start _ => [.text "namespace" ns, .text "prefix" start]
  | .auSize ns auid => [.text "namespace" ns, .text "auid" auid]

/-- Every operation looks at its arguments in the order of the fields. -/
theorem Operation.arguments_ordered (operation : Operation) :
    (operation.arguments.map Argument.field).Sublist Argument.fieldOrder := by
  cases operation <;> exact List.isSublist_iff_sublist.1 rfl

namespace Argument

def report : Option ValidationError → Except ValidationError Unit
  | some mistake => .error mistake
  | none => .ok ()

private theorem report_single (argument : Argument) :
    report (firstMistake? [argument]) = report argument.mistake? := by
  rw [firstMistake?, List.findSome?_singleton]

private theorem report_cons (first next : Argument) (rest : List Argument) :
    report (firstMistake? (first :: next :: rest)) = (do
      report first.mistake?
      report (firstMistake? (next :: rest))) := by
  rw [firstMistake?, List.findSome?_cons]
  cases first.mistake? <;> rfl

private theorem requireUuid_eq (value : Uuid) :
    requireUuid value = report (Argument.uuid value).mistake? := by
  rcases requireUuid_cases value with ⟨nil, refused⟩ | ⟨named, accepted⟩
  · rw [refused, mistake?, if_pos nil, report]
  · rw [accepted, mistake?, if_neg named, report]

private theorem requireNonEmpty_eq (field value : String) :
    requireNonEmpty field value = report (Argument.text field value).mistake? := by
  rcases requireNonEmpty_cases field value with ⟨empty, refused⟩ | ⟨given, accepted⟩
  · rw [refused, mistake?, if_pos empty, report]
  · rw [accepted, mistake?, if_neg given, report]

end Argument

open Argument in
private theorem Artifact.validate_eq (artifact : Artifact) :
    artifact.validate = report (firstMistake? (Operation.index artifact).arguments) := by
  have version : artifact.version < 1 ↔ artifact.version.toInt < 1 := Int32.lt_iff_toInt_lt
  have length : artifact.contentLength < 0 ↔ artifact.contentLength.toInt < 0 :=
    Int64.lt_iff_toInt_lt
  simp only [validate, requireUuid_eq, requireNonEmpty_eq, Operation.arguments, report_cons,
    report_single, version, length]
  -- The texts and the identifier are checked alike; what is left are the two numbers.
  refine bind_congr fun _ => bind_congr fun _ => bind_congr fun _ => bind_congr fun _ => ?_
  simp only [mistake?]
  split <;> split <;> rfl

open Argument in
/-- The check of the arguments of an operation reports the first mistake in them. -/
theorem Operation.checkArguments_eq (operation : Operation) :
    operation.checkArguments = report (firstMistake? operation.arguments) := by
  cases operation with
  | index artifact => exact artifact.validate_eq
  | namespaces => rfl
  | _ =>
    simp only [checkArguments, requireStem, requireAu, requireAcrossAus, requireUuid_eq,
      requireNonEmpty_eq, arguments, report_cons, report_single, bind_assoc]

theorem Operation.accepted_iff {operation : Operation} : operation.checkArguments = .ok () ↔
    ∀ argument ∈ operation.arguments, argument.mistake? = none := by
  rw [operation.checkArguments_eq, ← List.findSome?_eq_none_iff, ← Argument.firstMistake?]
  cases Argument.firstMistake? operation.arguments <;> simp [Argument.report]

theorem Argument.faultless_text {field value : String} :
    (Argument.text field value).mistake? = none ↔ value ≠ "" := by
  simp [mistake?]

/-- An artifact is accepted that is named in full, with a version and a length that can be. -/
theorem Artifact.accepted_iff {artifact : Artifact} : artifact.validate = .ok () ↔
    artifact.uuid ≠ .nil ∧ artifact.ns ≠ "" ∧ artifact.auid ≠ "" ∧ artifact.url ≠ "" ∧
      1 ≤ artifact.version.toInt ∧ 0 ≤ artifact.contentLength.toInt := by
  rw [show artifact.validate = (Operation.index artifact).checkArguments from rfl,
    Operation.accepted_iff]
  simp [Operation.arguments, Argument.mistake?]

/-- A catalog of each kind, all in one state. The one with a store has the records of the store
and a decision on its transactions. -/
structure Kinds where
  state : State
  inMemory : Volatile
  onDisk : Local
  permit : Permit
  records : Records
  inDatabase : Sql
  inMemory_state : inMemory.state = state
  onDisk_state : onDisk.state = state
  inDatabase_state : inDatabase.state = state

namespace Kinds

/-- Every kind refuses an operation with one error. No table, no pending change and no record of
a store is another one then, and a database is asked nothing. -/
def Refuse (kinds : Kinds) (operation : Operation) (error : CatalogError) : Prop :=
  kinds.inMemory.run operation = (.refuse error, kinds.inMemory) ∧
    kinds.onDisk.run kinds.permit kinds.records operation =
      (.refuse error, kinds.onDisk, kinds.records) ∧
    kinds.inDatabase.run operation = .done (.refuse error)

/-- Every kind carries out an operation: on its table, or with its statements. -/
def CarryOut (kinds : Kinds) (operation : Operation) : Prop :=
  (kinds.inMemory.run operation).1 =
      (kinds.inMemory.table.perform kinds.inMemory.dataStore operation).1 ∧
    (kinds.onDisk.run kinds.permit kinds.records operation).1 =
      (kinds.onDisk.memory.table.perform kinds.onDisk.memory.dataStore operation).1 ∧
    kinds.inDatabase.run operation =
      Sql.perform kinds.inDatabase.retryConfig kinds.inDatabase.dataStore operation

variable (kinds : Kinds) (operation : Operation)

private theorem onDisk_refuses {error : CatalogError}
    (refused : kinds.onDisk.memory.run operation = (.refuse error, kinds.onDisk.memory)) :
    kinds.onDisk.run kinds.permit kinds.records operation =
      (.refuse error, kinds.onDisk, kinds.records) := by
  rw [Local.run_eq_delegate, Local.delegate, refused]
  rfl

/-- What is not let through is refused by every kind. -/
theorem refuse_of_accept {error : CatalogError}
    (refused : kinds.state.accept operation.checkArguments = .error error) :
    kinds.Refuse operation error := by
  have memory (catalog : Volatile) (state : catalog.state = kinds.state) :
      catalog.run operation = (.refuse error, catalog) := by
    rw [Volatile.run_eq, Volatile.guarded, state, refused]
  refine ⟨memory _ kinds.inMemory_state, ?_, ?_⟩
  · exact kinds.onDisk_refuses operation (memory _ kinds.onDisk_state)
  · rw [Sql.run_eq, Sql.guarded, kinds.inDatabase_state, refused]

/-- What is let through is carried out by every kind. -/
theorem carryOut_of_accept (accepted : kinds.state.accept operation.checkArguments = .ok ()) :
    kinds.CarryOut operation := by
  have memory (catalog : Volatile) (state : catalog.state = kinds.state) :
      (catalog.run operation).1 = (catalog.table.perform catalog.dataStore operation).1 := by
    rw [Volatile.run_eq, Volatile.guarded, state, accepted]
  refine ⟨memory _ kinds.inMemory_state, ?_, ?_⟩
  · rw [(Local.run_memory ..).1]
    exact memory _ kinds.onDisk_state
  · rw [Sql.run_eq, Sql.guarded, kinds.inDatabase_state, accepted]

theorem carryOut_of_faultless (ready : kinds.state = .ready)
    (faultless : Argument.firstMistake? operation.arguments = none) :
    kinds.CarryOut operation := by
  apply kinds.carryOut_of_accept
  rw [ready, operation.checkArguments_eq, faultless]
  rfl

/-- The kinds guard all operations alike. While a catalog is not ready it names its state, whatever
the arguments are. When it is ready it reports the first mistake in the order of the fields. Neither
changes or asks anything. Without a mistake the operation is carried out; an empty start within an
archival unit is none, and no version is one. -/
theorem guards_agree :
    (operation.arguments.map Argument.field).Sublist Argument.fieldOrder ∧
    (kinds.state ≠ .ready →
      kinds.Refuse operation (.lifecycle (.notReady kinds.state.name))) ∧
    (kinds.state = .ready → ∀ mistake,
      Argument.firstMistake? operation.arguments = some mistake →
        kinds.Refuse operation (.validation mistake)) ∧
    (kinds.state = .ready → Argument.firstMistake? operation.arguments = none →
      kinds.CarryOut operation) ∧
    (kinds.state = .ready → ∀ ns auid, ns ≠ "" → auid ≠ "" →
      kinds.CarryOut (.searchLatest ns auid "") ∧ kinds.CarryOut (.searchAll ns auid "") ∧
      ∀ url number uncommitted, url ≠ "" →
        kinds.CarryOut (.version ns auid url number uncommitted)) := by
  refine ⟨operation.arguments_ordered, fun unready => ?_, fun ready mistake first => ?_,
    kinds.carryOut_of_faultless operation, fun ready ns auid named unit => ?_⟩
  · apply kinds.refuse_of_accept
    simp only [State.accept, State.ensureReady, if_neg unready]
  · apply kinds.refuse_of_accept
    rw [ready, operation.checkArguments_eq, first]
    rfl
  · have faultless : Argument.firstMistake?
        [.text "namespace" ns, .text "auid" auid] = none := by
      simp [Argument.firstMistake?, Argument.mistake?, named, unit]
    refine ⟨kinds.carryOut_of_faultless _ ready faultless,
      kinds.carryOut_of_faultless _ ready faultless, fun url number uncommitted located => ?_⟩
    apply kinds.carryOut_of_faultless _ ready
    simp [Operation.arguments, Argument.firstMistake?, Argument.mistake?, named, unit, located]

def bare (state : State) : Kinds where
  state
  inMemory := { Volatile.new with state }
  onDisk := { Local.new ⟨"store", 1⟩ with memory := { Volatile.new with state } }
  permit _ := none
  records := .empty
  inDatabase := ⟨⟨1, Duration.ofSecs 1⟩, none, state, none⟩
  inMemory_state := rfl
  onDisk_state := rfl
  inDatabase_state := rfl

/-- Of an artifact with four mistakes every kind reports the missing archival unit when it is
ready, and otherwise its state. A search for all URLs of an archival unit is carried out. -/
theorem guards_agree_of_four_mistakes :
    let artifact := { Artifact.make (.ofNat 1) "ns" "" "" 0 with contentLength := -1 }
    (bare .ready).Refuse (.index artifact) (.validation (.requiredFieldMissing "auid")) ∧
      (bare .stopped).Refuse (.index artifact) (.lifecycle (.notReady "stopped")) ∧
      (bare .ready).CarryOut (.find (.ofNat 1)) ∧
      (bare .ready).CarryOut (.searchLatest "ns" "au" "") := by
  intro artifact
  obtain ⟨-, -, mistaken, -, search⟩ := guards_agree (bare .ready) (.index artifact)
  obtain ⟨-, unready, -⟩ := guards_agree (bare .stopped) (.index artifact)
  obtain ⟨-, -, -, carried, -⟩ := guards_agree (bare .ready) (.find (.ofNat 1))
  refine ⟨mistaken rfl _ (by decide), unready (by decide), carried rfl (by decide), ?_⟩
  exact (search rfl "ns" "au" (by decide) (by decide)).1

end Kinds

end ArchiveCatalog
