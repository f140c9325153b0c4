import ArchiveCatalog.Proofs.StoreOpening

namespace ArchiveCatalog

namespace Local

/-- To stop succeeds exactly if nothing is left pending. -/
theorem stop_eq_ok_iff (permit : Permit) (catalog : Local) (records : Records) :
    (catalog.stop permit records).1 = .ok () ↔
      (catalog.stop permit records).2.1.pendingWrites = 0 := by
  simp only [stop, pendingWrites, OrderedMap.size_eq_zero_iff]
  rcases flush_cases permit { catalog with memory := catalog.memory.stop.2 } records with
    ⟨settled, result⟩ | ⟨pending, error, result⟩ | result
  · rw [result]
    exact ⟨fun _ => settled, fun _ => rfl⟩
  · rw [result]
    constructor
    · intro same
      cases same
    · intro settled
      exact absurd settled pending
  · rw [result]
    exact ⟨fun _ => rfl, fun _ => rfl⟩

end Local

namespace Site

theorem table_stop (site : Site) (permit : Permit) :
    (site.step (.stop permit)).table = site.table := by
  simp only [step, Local.stop, table]
  rcases Local.flush_cases permit { site.catalog with memory := site.catalog.memory.stop.2 }
    site.records with ⟨-, result⟩ | ⟨-, error, result⟩ | result <;>
    rw [result] <;> rfl

variable {base : Table} {site next : Site}

theorem Backed.reopened (backed : Backed base site) (opened : Begun site.records next) :
    next.table = base := by
  rw [backed.stored] at opened
  exact (opened.loaded.backed backed.based).1

/-- Each record of a store is read, and none of the artifacts is refused. -/
theorem Backed.loads (backed : Backed base site) :
    site.records.artifacts.length = site.records.size ∧
      site.records.artifacts.foldlM Table.restore .empty = .ok base := by
  rw [backed.stored]
  refine ⟨?_, backed.based.load_encoded.1⟩
  have keys := congrArg List.length backed.based.encoded_keys
  simpa [OrderedMap.keys, OrderedMap.size] using keys

private theorem Backed.reopened_after_stop {permit : Permit} (backed : Backed base site)
    (stopped : (site.catalog.stop permit site.records).1 = .ok ())
    (opened : Begun (site.step (.stop permit)).records next) : next.table = site.table := by
  rcases backed.step_cases (.stop permit) with ⟨fails, -⟩ | ⟨-, -, kept⟩
  · simp only [flushes, stopped] at fails
    cases fails
  · exact (kept.reopened opened).trans (site.table_stop permit)

/-- A catalog that is dropped after any calls, whichever of its transactions fail, leaves a store
from which the next catalog loads, without refusing a record, the table that was in memory at the
last flush that succeeded, or once the store was opened if none did. It is the last table if
nothing was pending, and after a stop that succeeds, which is one that leaves nothing pending. -/
theorem reopened_at_last_flush {records : Records} {begun : Site} (written : Written records)
    (opened : Begun records begun) (later : List LocalCall) :
    let ended := begun.run later
    let flushed := begun.lastFlushed begun.table later
    (ended.records.artifacts.length = ended.records.size ∧
      ended.records.artifacts.foldlM Table.restore .empty = .ok flushed) ∧
    (∀ next, Begun ended.records next → next.table = flushed ∧
      (ended.catalog.pendingWrites = 0 → next.table = ended.table)) ∧
    (∀ permit, (ended.catalog.stop permit ended.records).1 = .ok () ↔
      (ended.step (.stop permit)).catalog.pendingWrites = 0) ∧
    (∀ permit, (ended.catalog.stop permit ended.records).1 = .ok () →
      ∀ next, Begun (ended.step (.stop permit)).records next → next.table = ended.table) := by
  obtain ⟨base, sound, rfl⟩ := written.exists_table
  obtain ⟨table, backed⟩ := opened.loaded.backed sound
  have kept := backed.run later
  rw [← table] at kept
  refine ⟨kept.loads, fun next again => ?_, fun permit => Local.stop_eq_ok_iff permit _ _,
    fun permit stopped next again => kept.reopened_after_stop stopped again⟩
  have reopened := kept.reopened again
  refine ⟨reopened, fun nothing => ?_⟩
  rw [reopened, kept.table_eq (OrderedMap.size_eq_zero_iff.1 nothing)]

/-- An artifact that was indexed while the store was full is lost with the catalog that was
dropped then, and the one before it is found again. -/
theorem reopened_at_last_flush_of_full :
    let begun := (fresh (.ofPath "store") .empty).step (.start (.ok ()))
    let first := Artifact.make (.ofNat 1) "ns" "au" "http://example.org/" 1
    let second := Artifact.make (.ofNat 2) "ns" "au" "http://example.org/" 2
    let ended := begun.run [.operate (.index first) fun _ => none,
      .operate (.index second) fun _ => some .full]
    let next := (fresh (.ofPath "store") ended.records).step (.init (.ok ()))
    ended.catalog.pendingWrites = 1 ∧
      next.table = (begun.run [.operate (.index first) fun _ => none]).table := by
  intro begun first second ended next
  have opened : Begun .empty begun := ⟨.ofPath "store", [], .start (.ok ()), rfl, rfl, rfl⟩
  have again : Begun ended.records next := ⟨.ofPath "store", [], .init (.ok ()), rfl, rfl, rfl⟩
  have reopened := (reopened_at_last_flush .nothing opened
    [.operate (.index first) fun _ => none, .operate (.index second) fun _ => some .full]).2.1
  have written : begun.flushes (.operate (.index first) fun _ => none) = true := by decide
  have refused : (begun.step (.operate (.index first) fun _ => none)).flushes
      (.operate (.index second) fun _ => some .full) = false := by decide
  have last := (reopened next again).1
  simp only [lastFlushed, written, refused, if_true] at last
  exact ⟨by decide, last⟩

end Site

end ArchiveCatalog
