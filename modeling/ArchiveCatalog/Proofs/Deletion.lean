import ArchiveCatalog.Proofs.LiveArtifacts
import ArchiveCatalog.Proofs.LostReplies

namespace ArchiveCatalog.Sql

/-- A deletion that is repeated removes the artifact. It says so only if there was one, and it
says so if there was one and no reply can be lost. -/
theorem sure_delete (database : Database) (config : RetryConfig) (store : Option DataStore)
    (uuid : Uuid) (lossless : Prop) (rows : Rows) :
    Sure (.alone database fun delivery => lossless → delivery.losesReply = false)
      (fun outcome _ last => ∃ removed, outcome = .ok removed ∧ last = rows.erase uuid ∧
        (removed = true → (rows.get? uuid).isSome = true) ∧
        (lossless → removed = (rows.get? uuid).isSome))
      (perform config store (.delete uuid)) config.maxRetries.toNat rows := by
  -- Before each attempt the artifact is as it was, or gone with a reply that was lost.
  refine Sure.retryFrom
    (fun removed last => last = rows.erase uuid ∧
      (removed = true → (rows.get? uuid).isSome = true) ∧
      (lossless → removed = (rows.get? uuid).isSome))
    (fun _ seen => seen = rows ∨ ¬ lossless ∧ seen = rows.erase uuid)
    _ _ (fun _ => trivial) ?stable ?each (Nat.le_refl _) (.inl rfl)
  case stable =>
    rintro number before _ rfl known
    exact known
  case each =>
    intro number budget current known
    refine Sure.sole_query ?answered (fun _ _ passing less => ⟨passing, less, known⟩) ?unanswered
    case answered =>
      rcases known with rfl | ⟨lossy, rfl⟩
      · refine ⟨rfl, ?_, fun _ => ?_⟩ <;> cases current.get? uuid <;> simp
      · refine ⟨OrderedMap.erase_erase rows uuid, ?_, fun exact => absurd exact lossy⟩
        simp
    case unanswered =>
      intro error left fault occurs passing less
      have lossy : ¬ lossless := fun exact => Bool.noConfusion (occurs exact)
      refine ⟨passing, less, .inr ⟨lossy, ?_⟩⟩
      rcases known with rfl | ⟨-, rfl⟩
      · rfl
      · exact OrderedMap.erase_erase rows uuid

/-- A deletion with no more failures than retries always answers and leaves no artifact behind,
and other artifacts as they are. It answers that it has removed one only if there was one; and
exactly then, if no reply is lost after its statement was carried out. -/
theorem delete_reports (database : Database) {catalog : Sql} (ready : catalog.state = .ready)
    {uuid : Uuid} (named : uuid ≠ .nil) (rows : Rows) {schedule : List Delivery}
    (bounded : failures schedule ≤ catalog.retryConfig.maxRetries.toNat) :
    let result := (catalog.run (.delete uuid)).run database.serve (schedule, rows)
    ∃ removed, result.1 = .ok removed ∧ result.2.2 = rows.erase uuid ∧
      (removed = true → (rows.get? uuid).isSome = true) ∧
      ((∀ delivery ∈ schedule, delivery.losesReply = false) →
        removed = (rows.get? uuid).isSome) := by
  have accepted : (Operation.delete uuid).checkArguments = .ok () := by
    rcases requireUuid_cases uuid with ⟨nil, -⟩ | ⟨-, accepted⟩
    · exact absurd nil named
    · exact accepted
  rw [run_of_accepted (.delete uuid) ready accepted]
  obtain ⟨-, ended⟩ := (sure_delete database catalog.retryConfig catalog.dataStore uuid
    (∀ delivery ∈ schedule, delivery.losesReply = false) rows).run (fun _ => rfl)
    (fun delivery member lossless => lossless delivery member) bounded
  exact ended

/-- A deletion that finds an artifact removes it and says so, when its connection fails first. -/
theorem delete_reports_of_refused_connection :
    let catalog : Sql := ⟨⟨1, Duration.ofSecs 1⟩, none, .ready, none⟩
    let artifact := Artifact.make (.ofNat 1) "ns" "au" "http://example.org/" 1
    let rows := OrderedMap.empty.insert artifact.uuid artifact
    let result := (catalog.run (.delete artifact.uuid)).run Database.exact.serve
      ([.undelivered .lost], rows)
    result.1 = .ok true ∧ result.2.2 = rows.erase artifact.uuid := by
  intro catalog artifact rows result
  have ready : catalog.state = .ready := rfl
  have named : artifact.uuid ≠ .nil := by decide
  have bounded : failures [.undelivered .lost] ≤ catalog.retryConfig.maxRetries.toNat := by decide
  obtain ⟨removed, answered, last, -, lossless⟩ := delete_reports .exact ready named rows bounded
  have there : removed = (rows.get? artifact.uuid).isSome :=
    lossless (by simp [Delivery.losesReply])
  exact ⟨answered.trans (congrArg Except.ok there), last⟩

/-- A deletion that removes an artifact and loses the reply denies that there was one. -/
theorem delete_denies_after_lost_reply :
    let catalog : Sql := ⟨⟨1, Duration.ofSecs 1⟩, none, .ready, none⟩
    let artifact := Artifact.make (.ofNat 1) "ns" "au" "http://example.org/" 1
    let rows := OrderedMap.empty.insert artifact.uuid artifact
    let schedule := [.answered, .unanswered .lost]
    failures schedule ≤ catalog.retryConfig.maxRetries.toNat ∧
      (rows.get? artifact.uuid).isSome = true ∧
      ((catalog.run (.delete artifact.uuid)).run Database.exact.serve (schedule, rows)).1 =
        .ok false :=
  ⟨by decide, by decide, rfl⟩

end ArchiveCatalog.Sql
