import ArchiveCatalog.Proofs.StoreInvariant

namespace ArchiveCatalog

/-- Calls that every kind of catalog takes. -/
inductive CatalogCall where
  | init
  | start
  | stop
  | setDataStore (store : DataStore)
  | state
  | isReady
  | operate (operation : Operation)

/-- What is told of the answer to a call. The answer to a stop is left out, in which a local
catalog reports what it could not write. -/
@[reducible] def CatalogCall.Answer : CatalogCall → Type
  | .init => Outcome Unit
  | .start => Outcome Unit
  | .stop => Unit
  | .setDataStore _ => Unit
  | .state => State
  | .isReady => Bool
  | .operate operation => Outcome operation.Answer

namespace Volatile

def answer (catalog : Volatile) : (call : CatalogCall) → call.Answer × Volatile
  | .init => catalog.init
  | .start => catalog.start
  | .stop => ((), catalog.stop.2)
  | .setDataStore store => ((), catalog.setDataStore store)
  | .state => (catalog.state, catalog)
  | .isReady => (catalog.state.isReady, catalog)
  | .operate operation => catalog.run operation

/-- The answers to calls that are made one after the other. -/
def answers (catalog : Volatile) : List CatalogCall → List ((call : CatalogCall) × call.Answer)
  | [] => []
  | call :: later => ⟨call, (catalog.answer call).1⟩ :: (catalog.answer call).2.answers later

private theorem begun_answer {catalog : Volatile} (begun : catalog.state ≠ .constructed)
    (call : CatalogCall) : (catalog.answer call).2.state ≠ .constructed := by
  cases call with
  | init => exact State.toInitialized_ne begun
  | start =>
    simp only [answer, start, if_neg begun]
    exact State.toReady_ne begun
  | stop => exact State.noConfusion
  | operate operation => exact (run_state catalog operation).symm ▸ begun
  | _ => exact begun

end Volatile

namespace Site

/-- What happens outside a catalog during a call: how its store is opened, if it has to be, and
which transactions succeed. -/
structure Disk where
  opening : Except Failure Unit
  permit : Permit

def answer (site : Site) (disk : Disk) : (call : CatalogCall) → call.Answer × Site
  | .init => ((site.catalog.init disk.opening site.records).1, site.step (.init disk.opening))
  | .start => ((site.catalog.start disk.opening site.records).1, site.step (.start disk.opening))
  | .stop => ((), site.step (.stop disk.permit))
  | .setDataStore store => ((), site.step (.setDataStore store))
  | .state => (site.catalog.state, site)
  | .isReady => (site.catalog.state.isReady, site)
  | .operate operation =>
    ((site.catalog.run disk.permit site.records operation).1,
      site.step (.operate operation disk.permit))

/-- The answers to calls that are made one after the other, whatever happens outside. -/
def answers (site : Site) : List (CatalogCall × Disk) → List ((call : CatalogCall) × call.Answer)
  | [] => []
  | (call, disk) :: later =>
    ⟨call, (site.answer disk call).1⟩ :: (site.answer disk call).2.answers later

/-- A catalog whose store is open answers each call from its memory. -/
theorem answer_memory {site : Site} (begun : site.catalog.state ≠ .constructed) (disk : Disk)
    (call : CatalogCall) :
    (site.answer disk call).1 = (site.catalog.memory.answer call).1 ∧
      (site.answer disk call).2.catalog.memory = (site.catalog.memory.answer call).2 := by
  have same : site.catalog.memory.state ≠ .constructed := begun
  cases call with
  | init =>
    simp only [answer, step, Local.init, if_neg begun]
    exact ⟨rfl, rfl⟩
  | start =>
    simp only [answer, step, Local.start, if_neg begun, Volatile.answer, Volatile.start,
      if_neg same]
    exact ⟨rfl, rfl⟩
  | stop => exact ⟨rfl, Local.flush_memory disk.permit _ site.records⟩
  | setDataStore store => exact ⟨rfl, rfl⟩
  | state => exact ⟨rfl, rfl⟩
  | isReady => exact ⟨rfl, rfl⟩
  | operate operation => exact site.catalog.run_memory disk.permit site.records operation

private theorem answers_memory {site : Site} (begun : site.catalog.state ≠ .constructed)
    (calls : List (CatalogCall × Disk)) :
    site.answers calls = site.catalog.memory.answers (calls.map Prod.fst) := by
  induction calls generalizing site with
  | nil => rfl
  | cons first later ih =>
    obtain ⟨call, disk⟩ := first
    obtain ⟨answered, memory⟩ := answer_memory begun disk call
    have still : (site.answer disk call).2.catalog.state ≠ .constructed := by
      rw [Local.state, memory]
      exact Volatile.begun_answer begun call
    simp only [answers, List.map_cons, Volatile.answers, answered, ih still, memory]

/-- A local catalog that is started on an empty store gives the same answers as a catalog in
memory, refusals and aborted calls included, to every sequence of calls, before and after a stop,
whichever of its transactions succeed. -/
theorem answers_as_volatile (config : LocalConfig) (permit : Permit)
    (calls : List (CatalogCall × Disk)) :
    (fresh config .empty).answers ((.start, ⟨.ok (), permit⟩) :: calls) =
      Volatile.new.answers (.start :: calls.map Prod.fst) := by
  have started : ((fresh config .empty).step (.start (.ok ()))).catalog.state ≠ .constructed :=
    State.noConfusion
  have later := answers_memory started calls
  exact congrArg (List.cons ⟨.start, .ok ()⟩) later

end Site

end ArchiveCatalog
