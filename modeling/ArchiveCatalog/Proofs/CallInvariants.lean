import ArchiveCatalog.Proofs.Admission
import ArchiveCatalog.Proofs.IndependentChanges

namespace ArchiveCatalog

namespace Live

variable {live next : Live} {holds : Artifact → Prop}

/-- All live artifacts have a property. -/
def All (live : Live) (holds : Artifact → Prop) : Prop :=
  ∀ uuid artifact, live uuid = some artifact → holds artifact

theorem All.set (all : live.All holds) (uuid : Uuid) {record : Option Artifact}
    (new : ∀ artifact, record = some artifact → holds artifact) :
    (live.set uuid record).All holds := by
  intro other found known
  rw [Live.set] at known
  split at known
  case isTrue => exact new found known
  case isFalse => exact all other found known

/-- What is checked before an artifact becomes live stays true of it if neither a commit nor another
place of storage makes a difference: no other change is made to live artifacts. -/
theorem All.step {operation : Operation} {answer : Outcome operation.Answer}
    (all : live.All holds)
    (checked : ∀ artifact : Artifact, artifact.validate = .ok () → holds artifact.uncommitted)
    (committed : ∀ artifact, holds artifact → holds { artifact with committed := true })
    (moved : ∀ artifact storageUrl, holds artifact → holds { artifact with storageUrl })
    (step : live.Step operation answer next) : next.All holds := by
  cases step with
  | @index artifact valid =>
    apply all.set
    rintro _ ⟨⟩
    exact checked artifact valid
  | @commit uuid artifact named known =>
    apply all.set
    rintro _ ⟨⟩
    exact committed artifact (all _ _ known)
  | @relocate uuid storageUrl artifact named given known =>
    apply all.set
    rintro _ ⟨⟩
    exact moved artifact storageUrl (all _ _ known)
  | delete =>
    apply all.set
    rintro _ ⟨⟩
  | _ => exact all

/-- Every live artifact is in a named archival unit of a named namespace. -/
def Placed (live : Live) : Prop := live.All fun artifact => artifact.ns ≠ "" ∧ artifact.auid ≠ ""

theorem Placed.step {operation : Operation} {answer : Outcome operation.Answer}
    (placed : live.Placed) (step : live.Step operation answer next) : next.Placed := by
  apply All.step placed _ (fun _ => id) (fun _ _ => id) step
  intro artifact valid
  obtain ⟨-, ofNs, ofAuid, -⟩ := Artifact.accepted_iff.1 valid
  exact ⟨ofNs, ofAuid⟩

end Live

namespace Volatile

section Kept

variable {kept : Live → Prop} (step : ∀ {live next : Live} {operation : Operation}
  {answer : Outcome operation.Answer}, kept live → live.Step operation answer next → kept next)
include step

/-- What the rules of live artifacts preserve is kept by every operation, ready or not. -/
theorem keeps_run {catalog : Volatile} (sound : catalog.table.Sound) (holds : kept catalog.live)
    (operation : Operation) : kept (catalog.run operation).2.live := by
  by_cases ready : catalog.state = .ready
  · exact step holds (run_step ready sound operation)
  · rw [run_of_unready operation ready]
    exact holds

theorem keeps_after {catalog : Volatile} (sound : catalog.table.Sound) (holds : kept catalog.live)
    (calls : List CatalogCall) : kept (catalog.after calls).live := by
  induction calls generalizing catalog with
  | nil => exact holds
  | cons call later ih =>
    apply ih (sound_answer sound call)
    cases call with
    | start =>
      simp only [answer, start]
      split <;> exact holds
    | operate operation => exact keeps_run step sound holds operation
    | _ => exact holds

end Kept

theorem placed_after (calls : List CatalogCall) : (new.after calls).live.Placed := by
  apply keeps_after Live.Placed.step Table.sound_empty
  intro uuid artifact known
  cases known

end Volatile

end ArchiveCatalog
