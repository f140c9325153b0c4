import ArchiveCatalog.Proofs.StoreOpening

namespace ArchiveCatalog

/-- A catalog reports itself healthy only if it has written everything. -/
theorem Local.pendingWrites_of_healthy {catalog : Local}
    (healthy : catalog.health.isHealthy = true) : catalog.pendingWrites = 0 := by
  unfold health at healthy
  by_cases ready : catalog.state = .ready
  · by_cases nothing : catalog.pendingWrites > 0
    · simp [ready, nothing, HealthCheck.isHealthy, HealthCheck.withMetadata,
        HealthCheck.withResponseTime, HealthCheck.degraded] at healthy
    · omega
  · have idle : (idleHealth component catalog.state).status ≠ .healthy := by
      cases state : catalog.state <;> simp [idleHealth, HealthCheck.unhealthy, HealthCheck.unknown]
    simp [ready, HealthCheck.isHealthy, HealthCheck.withMetadata,
      HealthCheck.withResponseTime, idle] at healthy

namespace Site

/-- What a run has flushed last is the table that was in memory after some of its calls. -/
theorem lastFlushed_passed (site : Site) (base : Table) (calls : List LocalCall) :
    site.lastFlushed base calls = base ∨
      ∃ earlier, earlier <+: calls ∧ site.lastFlushed base calls = (site.run earlier).table := by
  induction calls generalizing site base with
  | nil => exact .inl rfl
  | cons call rest ih =>
    rw [lastFlushed]
    rcases ih (site.step call) (if site.flushes call then (site.step call).table else base) with
      same | ⟨earlier, before, passed⟩
    · rw [same]
      split
      case isTrue => exact .inr ⟨[call], by simp, rfl⟩
      case isFalse => exact .inl rfl
    · exact .inr ⟨call :: earlier, by simpa using before, passed⟩

private theorem Backed.overlay_eq {base : Table} {site : Site} (backed : Backed base site)
    {order : List Operation.Change} (perm : order.Perm site.catalog.pending.entries) :
    Live.overlay site.records.artifact? order = site.table.get? := by
  rw [backed.stored, backed.based.artifact?_encoded]
  exact funext fun uuid =>
    (Live.overlay_pending base.get? perm uuid).trans (backed.overlaid uuid).symm

/-- From the call that opens its store on, whatever is called and whichever transactions fail:
the pending changes, in any order, lead from the stored artifacts to those in memory, and from the
stored records to theirs; each call leaves the store alone or leaves it with the records of what
is then in memory, and nothing pending; what is stored has been in memory before; and a catalog
with nothing pending, as every healthy one is, has stored what is in memory. -/
theorem store_in_step {records : Records} {begun : Site} (written : Written records)
    (opened : Begun records begun) (later : List LocalCall) :
    let site := begun.run later
    (∀ order : List Operation.Change, order.Perm site.catalog.pending.entries →
      Live.overlay site.records.artifact? order = site.table.get? ∧
        order.foldl Records.put site.records = site.table.encoded) ∧
    (∀ call, (site.step call).records = site.records ∨
      (site.step call).catalog.pending = .empty ∧
        (site.step call).records = (site.step call).table.encoded) ∧
    (∃ earlier, earlier <+: later ∧ site.records = (begun.run earlier).table.encoded) ∧
    (site.catalog.health.isHealthy = true → site.catalog.pendingWrites = 0) ∧
    (site.catalog.pendingWrites = 0 →
      site.records = site.table.encoded ∧ site.records.artifact? = site.table.get?) := by
  obtain ⟨base, sound, rfl⟩ := written.exists_table
  obtain ⟨table, backed⟩ := opened.loaded.backed sound
  have kept := backed.run later
  refine ⟨fun order perm => ⟨kept.overlay_eq perm, ?_⟩, fun call => ?_, ?_,
    Local.pendingWrites_of_healthy, fun nothing => ?_⟩
  · rw [kept.stored]
    exact Table.putAll_encoded perm kept.overlaid
  · rcases kept.step_cases call with ⟨-, next⟩ | ⟨-, settled, next⟩
    · exact .inl (next.stored.trans kept.stored.symm)
    · exact .inr ⟨settled, next.stored⟩
  · rw [kept.stored]
    rcases begun.lastFlushed_passed base later with same | ⟨earlier, before, passed⟩
    · exact ⟨[], List.nil_prefix, by rw [same, ← table]; rfl⟩
    · exact ⟨earlier, before, by rw [passed]⟩
  · have settled := OrderedMap.size_eq_zero_iff.1 nothing
    have same := kept.table_eq settled
    rw [same, kept.stored]
    exact ⟨rfl, kept.based.artifact?_encoded⟩

/-- An artifact that is indexed while the store is full is pending, and laid over the store it is
in memory. -/
theorem store_in_step_of_full :
    let begun := (fresh (.ofPath "store") .empty).step (.start (.ok ()))
    let artifact := Artifact.make (.ofNat 1) "ns" "au" "http://example.org/" 1
    let site := begun.run [.operate (.index artifact) fun _ => some .full]
    site.catalog.pendingWrites = 1 ∧
      Live.overlay site.records.artifact? site.catalog.pending.entries = site.table.get? := by
  intro begun artifact site
  have opened : Begun .empty begun := ⟨.ofPath "store", [], .start (.ok ()), rfl, rfl, rfl⟩
  have overlaid := (store_in_step .nothing opened
    [.operate (.index artifact) fun _ => some .full]).1
  exact ⟨by decide, (overlaid _ (.refl _)).1⟩

end Site

end ArchiveCatalog
