import ArchiveCatalog.Proofs.Recovery
import ArchiveCatalog.Proofs.SizeTotals

namespace ArchiveCatalog

private theorem addLengths_of_overflow {first second : Int64}
    (large : Int64.maxValue.toInt < first.toInt + second.toInt) :
    addLengths first second = .error .additionOverflow := by
  rw [addLengths, int64?, if_neg fun inRange => absurd inRange.2 (Int.not_le.2 large)]

/-- Lengths that are not negative cannot be added up if their sum does not fit: at the latest the
last of them overflows. -/
theorem foldlM_addLengths_of_overflow {length : α → Int64} {entries : List α} (start : Int64)
    (natural : ∀ entry ∈ entries, 0 ≤ (length entry).toInt) (begun : 0 ≤ start.toInt)
    (large : Int64.maxValue.toInt <
      start.toInt + (entries.map fun entry => (length entry).toInt).sum) :
    entries.foldlM (fun sum entry => addLengths sum (length entry)) start =
      .error .additionOverflow := by
  induction entries generalizing start with
  | nil =>
    -- a number alone is never too large
    have small := start.toInt_le
    rw [List.map_nil, List.sum_nil, Int.add_zero] at large
    omega
  | cons entry rest ih =>
    have here := natural entry List.mem_cons_self
    have later : ∀ entry ∈ rest, 0 ≤ (length entry).toInt := fun other member =>
      natural other (List.mem_cons_of_mem _ member)
    rw [List.map_cons, List.sum_cons] at large
    rw [List.foldlM_cons]
    by_cases fits : start.toInt + (length entry).toInt ≤ Int64.maxValue.toInt
    · have exact : (Int64.ofInt (start.toInt + (length entry).toInt)).toInt =
          start.toInt + (length entry).toInt := toInt_ofInt (by omega) fits
      rw [addLengths_of_fits begun here fits]
      exact ih _ later (by omega) (by omega)
    · rw [addLengths_of_overflow (Int.not_le.1 fits)]
      rfl

private theorem sum_lengths_of_overflow {artifacts : List Artifact}
    (natural : ∀ artifact ∈ artifacts, 0 ≤ artifact.contentLength.toInt)
    (large : Int64.maxValue.toInt < totalLength artifacts) :
    artifacts.foldlM (fun sum artifact => addLengths sum artifact.contentLength) 0 =
      .error .additionOverflow :=
  foldlM_addLengths_of_overflow 0 natural (by simp) (by rwa [Int64.toInt_zero, Int.zero_add])

namespace LatestLengths

def total (latest : LatestLengths) : Int := (latest.map fun entry => entry.2.2.toInt).sum

variable {latest : LatestLengths} {artifact : Artifact}

private theorem natural_note (natural : ∀ entry ∈ latest, 0 ≤ entry.2.2.toInt)
    (length : 0 ≤ artifact.contentLength.toInt) :
    ∀ entry ∈ latest.note artifact, 0 ≤ entry.2.2.toInt := by
  intro entry member
  rcases mem_note member with rfl | old
  · exact length
  · exact natural entry old

private theorem total_note_le (natural : ∀ entry ∈ latest, 0 ≤ entry.2.2.toInt)
    (length : 0 ≤ artifact.contentLength.toInt) :
    total (latest.note artifact) ≤ latest.total + artifact.contentLength.toInt := by
  induction latest with
  | nil => simp [note, total]
  | cons first rest ih =>
    obtain ⟨url, version, old⟩ := first
    have here : 0 ≤ old.toInt := natural _ List.mem_cons_self
    have later := ih fun entry member => natural entry (List.mem_cons_of_mem _ member)
    unfold note
    split
    · split <;> simp only [total, List.map_cons, List.sum_cons] <;> omega
    · simp only [total, List.map_cons, List.sum_cons] at later ⊢
      omega

private theorem total_foldl_le {artifacts : List Artifact}
    (natural : ∀ entry ∈ latest, 0 ≤ entry.2.2.toInt)
    (lengths : ∀ artifact ∈ artifacts, 0 ≤ artifact.contentLength.toInt) :
    (∀ entry ∈ artifacts.foldl note latest, 0 ≤ entry.2.2.toInt) ∧
      total (artifacts.foldl note latest) ≤ latest.total + totalLength artifacts := by
  induction artifacts generalizing latest with
  | nil => simpa [totalLength] using natural
  | cons artifact rest ih =>
    have here := lengths artifact List.mem_cons_self
    obtain ⟨kept, below⟩ := ih (natural_note natural here)
      fun other member => lengths other (List.mem_cons_of_mem _ member)
    refine ⟨kept, below.trans ?_⟩
    have added := total_note_le natural here
    simp only [totalLength, List.map_cons, List.sum_cons] at added ⊢
    omega

end LatestLengths

section Totals

variable {artifacts : List Artifact}
  (natural : ∀ artifact ∈ artifacts.filter (·.committed), 0 ≤ artifact.contentLength.toInt)
include natural

/-- If the lengths of all versions can be added up, so can those of the latest versions, in whatever
order they come. -/
theorem exists_sum_notes
    (fits : totalLength (artifacts.filter (·.committed)) ≤ Int64.maxValue.toInt)
    {notes : LatestLengths}
    (order : notes.Perm ((artifacts.filter (·.committed)).foldl LatestLengths.note [])) :
    ∃ total, notes.foldlM (fun sum entry => addLengths sum entry.2.2) 0 = .ok total := by
  have nothing : ∀ entry ∈ ([] : LatestLengths), 0 ≤ entry.2.2.toInt := by simp
  obtain ⟨noted, below⟩ := LatestLengths.total_foldl_le nothing natural
  have same : notes.total = LatestLengths.total _ := (order.map _).sum_eq
  have none : LatestLengths.total [] = 0 := rfl
  refine ⟨_, foldlM_addLengths 0 (fun entry member => noted entry (order.mem_iff.1 member))
    (by simp) ?_⟩
  change (0 : Int64).toInt + notes.total ≤ _
  rw [Int64.toInt_zero]
  omega

private theorem committedSizeTotals_eq_error_iff {abort : Abort} :
    committedSizeTotals artifacts = .error abort ↔ abort = .additionOverflow ∧
      Int64.maxValue.toInt < totalLength (artifacts.filter (·.committed)) := by
  by_cases fits : totalLength (artifacts.filter (·.committed)) ≤ Int64.maxValue.toInt
  · obtain ⟨latest, summed⟩ := exists_sum_notes natural fits (.refl _)
    simp only [committedSizeTotals, sum_lengths natural fits, summed, bind, Except.bind]
    constructor
    · intro failed
      cases failed
    · rintro ⟨-, large⟩
      omega
  · have large := Int.not_le.1 fits
    simp only [committedSizeTotals, sum_lengths_of_overflow natural large, bind, Except.bind,
      Except.error.injEq]
    exact ⟨fun same => ⟨same.symm, large⟩, fun same => same.1.symm⟩

end Totals

namespace Table

theorem natural_empty : Live.Natural empty.get? := by
  rintro uuid artifact ⟨⟩

variable {table : Table} {ns auid : String} {abort : Abort}

private theorem Sound.sizeTotals_eq_error_iff (sound : table.Sound)
    (natural : Live.Natural table.get?) :
    table.sizeTotals ns auid = .error abort ↔ abort = .additionOverflow ∧
      Int64.maxValue.toInt < totalLength (table.auAllVersions ns auid false) := by
  have lengths : ∀ artifact ∈ (table.auRange ns auid).filter (·.committed),
      0 ≤ artifact.contentLength.toInt := by
    intro artifact member
    rw [auRange_committed] at member
    exact Int64.le_iff_toInt_le.1 (sound.natural_listed natural ns auid artifact member)
  rw [← auRange_committed]
  exact committedSizeTotals_eq_error_iff lengths

theorem auSize_eq_aborted_iff (table : Table) (store : Option DataStore) :
    table.auSize store ns auid = .error (.aborted abort) ↔
      table.sizeTotals ns auid = .error abort := by
  unfold auSize
  cases table.sizeTotals ns auid with
  | error other => simp
  | ok totals => cases DataStore.sizeIn store ns auid <;> simp [Outcome.refuse]

end Table

theorem Volatile.auSize_eq_aborted_iff {catalog : Volatile} (sound : catalog.table.Sound)
    (natural : catalog.live.Natural) {ns auid : String} {abort : Abort} :
    (catalog.run (.auSize ns auid)).1 = .error (.aborted abort) ↔
      abort = .additionOverflow ∧ catalog.state = .ready ∧ Operation.requireAu ns auid = .ok () ∧
        Int64.maxValue.toInt < totalLength (catalog.table.auAllVersions ns auid false) := by
  by_cases ready : catalog.state = .ready
  · cases accepted : Operation.requireAu ns auid with
    | error error =>
      rw [run_of_refused (.auSize ns auid) ready accepted]
      simp [Outcome.refuse]
    | ok =>
      rw [run_of_accepted (.auSize ns auid) ready accepted]
      simp only [Table.perform, Table.auSize_eq_aborted_iff, sound.sizeTotals_eq_error_iff natural,
        ready, true_and]
  · rw [run_of_unready (.auSize ns auid) ready]
    simp [Outcome.refuse, ready]

namespace Site

/-- A store is open or has been, and no length in it or in memory is negative. -/
def Measured (site : Site) : Prop :=
  ∃ base, Backed base site ∧ Live.Natural base.get? ∧ Live.Natural site.table.get?

section Measured

variable {base : Table} {site : Site}

private theorem Backed.natural_step (backed : Backed base site)
    (natural : Live.Natural site.table.get?)
    (call : LocalCall) : Live.Natural (site.step call).table.get? := by
  cases call with
  | init opening =>
    simp only [step, Local.init_of_begun backed.begun]
    exact natural
  | start opening =>
    simp only [step, Local.start_of_begun backed.begun]
    exact natural
  | stop permit =>
    rw [table_stop]
    exact natural
  | flush permit =>
    have memory := site.catalog.flush_memory permit site.records
    simp only [step, table, memory]
    exact natural
  | setDataStore store => exact natural
  | operate operation permit =>
    have memory := (site.catalog.run_memory permit site.records operation).2
    simp only [step, table, memory]
    exact Volatile.natural_run backed.sound natural operation

theorem Measured.step (measured : site.Measured) (call : LocalCall) :
    (site.step call).Measured := by
  obtain ⟨base, backed, stored, natural⟩ := measured
  have next := backed.natural_step natural call
  rcases backed.step_cases call with ⟨-, kept⟩ | ⟨-, -, kept⟩
  · exact ⟨base, kept, stored, next⟩
  · exact ⟨_, kept, next, next⟩

theorem Loaded.measured (loaded : Loaded base.encoded site) (sound : base.Sound)
    (natural : Live.Natural base.get?) : site.Measured := by
  obtain ⟨same, backed⟩ := loaded.backed sound
  exact ⟨base, backed, natural, same ▸ natural⟩

private theorem run_idle_or_measured (sound : base.Sound) (natural : Live.Natural base.get?)
    (calls : List LocalCall) (known : Idle base.encoded site ∨ site.Measured) :
    Idle base.encoded (site.run calls) ∨ (site.run calls).Measured := by
  induction calls generalizing site with
  | nil => exact known
  | cons call rest ih =>
    refine ih ?_
    rcases known with idle | measured
    · exact (idle.step call).imp_right fun loaded => loaded.measured sound natural
    · exact .inr (measured.step call)

end Measured

/-- What catalogs leave in a store is the records of a table without negative lengths. -/
theorem Written.exists_natural {records : Records} (written : Written records) :
    ∃ base : Table, base.Sound ∧ Live.Natural base.get? ∧ records = base.encoded := by
  induction written with
  | nothing => exact ⟨.empty, Table.sound_empty, Table.natural_empty, rfl⟩
  | later _ config calls ih =>
    obtain ⟨base, sound, natural, rfl⟩ := ih
    rcases run_idle_or_measured sound natural calls (.inl (.fresh config base.encoded)) with
      idle | ⟨mark, backed, marked, -⟩
    · exact ⟨base, sound, natural, idle.stored⟩
    · exact ⟨mark, backed.based, marked, backed.stored⟩

theorem Written.natural_run {records : Records} (written : Written records) (config : LocalConfig)
    (calls : List LocalCall) :
    ((fresh config records).run calls).table.Sound ∧
      Live.Natural ((fresh config records).run calls).table.get? := by
  obtain ⟨base, sound, natural, rfl⟩ := written.exists_natural
  rcases run_idle_or_measured sound natural calls (.inl (.fresh config base.encoded)) with
    idle | ⟨mark, backed, -, measured⟩
  · rw [idle.empty]
    exact ⟨Table.sound_empty, Table.natural_empty⟩
  · exact ⟨backed.sound, measured⟩

end Site

open Volatile in
/-- The sizes of an archival unit, in every catalog in memory that calls lead to, and in every local
one, whatever catalogs have written its store. They are aborted exactly if the catalog is ready and
accepts the arguments, and the committed lengths add up to more than fits; whatever else is wrong is
refused. -/
theorem au_size_aborts_iff {records : Records} (written : Site.Written records)
    (config : LocalConfig) (calls : List CatalogCall) (localCalls : List LocalCall)
    (permit : Permit) (ns auid : String) (abort : Abort) :
    let catalog := new.after calls
    let site := (Site.fresh config records).run localCalls
    ((catalog.run (.auSize ns auid)).1 = .error (.aborted abort) ↔
      abort = .additionOverflow ∧ catalog.state = .ready ∧ Operation.requireAu ns auid = .ok () ∧
        Int64.maxValue.toInt < totalLength (catalog.table.auAllVersions ns auid false)) ∧
    ((site.catalog.run permit site.records (.auSize ns auid)).1 = .error (.aborted abort) ↔
      abort = .additionOverflow ∧ site.catalog.state = .ready ∧
        Operation.requireAu ns auid = .ok () ∧
        Int64.maxValue.toInt < totalLength (site.table.auAllVersions ns auid false)) := by
  intro catalog site
  constructor
  · have sound : catalog.table.Sound := sound_after Table.sound_empty calls
    have empty : new.live.Natural := Table.natural_empty
    have natural : catalog.live.Natural := natural_after Table.sound_empty empty calls
    exact auSize_eq_aborted_iff sound natural
  · obtain ⟨sound, natural⟩ := written.natural_run config localCalls
    rw [(site.catalog.run_memory permit site.records (.auSize ns auid)).1]
    exact auSize_eq_aborted_iff sound natural

/-- The largest length and one byte more are committed to two catalogs, of which the local one has a
full store. -/
theorem au_size_aborts_iff_of_largest_length :
    let made := Artifact.make (.ofNat 1) "ns" "au" "http://example.org/" 1
    let first := { made with contentLength := Int64.maxValue }
    let second := { made with uuid := .ofNat 2, version := 2, contentLength := 1 }
    let operations : List Operation :=
      [.index first, .index second, .commit first.uuid, .commit second.uuid]
    let full : Permit := fun _ => some .full
    let catalog := Volatile.new.after (.start :: operations.map .operate)
    let site := (Site.fresh (.ofPath "store") .empty).run
      (.start (.ok ()) :: operations.map fun operation => .operate operation full)
    (catalog.run (.auSize "ns" "au")).1 = .error (.aborted .additionOverflow) ∧
      (site.catalog.run full site.records (.auSize "ns" "au")).1 =
        .error (.aborted .additionOverflow) := by
  intro made first second operations full catalog site
  obtain ⟨inMemory, onDisk⟩ := au_size_aborts_iff .nothing (.ofPath "store")
    (.start :: operations.map .operate)
    (.start (.ok ()) :: operations.map fun operation => .operate operation full) full "ns" "au"
    .additionOverflow
  exact ⟨inMemory.2 ⟨rfl, by decide, by decide, by decide⟩,
    onDisk.2 ⟨rfl, by decide, by decide, by decide⟩⟩

/-- Two artifacts that are indexed and committed in memory are too long for their sizes, though each
length is accepted and the content store can answer. -/
theorem au_size_of_largest_length :
    let made := Artifact.make (.ofNat 1) "ns" "au" "http://example.org/" 1
    let first := { made with contentLength := Int64.maxValue }
    let second := { made with uuid := .ofNat 2, version := 2, contentLength := 1 }
    let catalog := Volatile.new.after [.start, .operate (.index first), .operate (.index second),
      .operate (.commit first.uuid), .operate (.commit second.uuid), .setDataStore (.sized [])]
    first.validate = .ok () ∧ second.validate = .ok () ∧
      catalog.state = .ready ∧ catalog.dataStore = some (.sized []) ∧
      (catalog.run (.auSize "ns" "au")).1 = .error (.aborted .additionOverflow) := by
  intro made first second catalog
  exact ⟨rfl, rfl, by decide, rfl, by decide +kernel⟩

end ArchiveCatalog
