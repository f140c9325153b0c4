import ArchiveCatalog.Catalog

namespace ArchiveCatalog

/-- How a method misbehaves. The method itself is still run, except where it is replaced. -/
inductive Effect where
  /-- It always answers with an error. -/
  | fail
  /-- It answers with nothing in place of what it found. -/
  | empty
  /-- It answers with nothing in place of an error. -/
  | swallow
  | reverse
  | firstOnly
  | includeUncommitted
  | committedOnly
  | swapVersions
  /-- A mutation is replaced by a lookup. -/
  | skip
  /-- A deletion always claims to have deleted. -/
  | claim
  /-- An insertion commits at once. -/
  | commit
  | swapTotals
  /-- Health is always good. -/
  | healthy
  /-- The state is always ready. -/
  | ready
  deriving DecidableEq

structure Fault where
  method : Method
  effect : Effect

/-- A catalog with a fault, or with none. -/
structure Subject where
  catalog : Catalog
  fault : Option Fault

namespace Operation

def nothing : (operation : Operation) → operation.Answer
  | .index artifact => artifact
  | .commit .. => none
  | .delete .. => false
  | .relocate uuid _ => Artifact.make uuid "ns" "au" "u" 1
  | .find .. => none
  | .contains .. => false
  | .latest .. => none
  | .version .. => none
  | .namespaces => []
  | .auIds .. => []
  | .listLatest .. => []
  | .listAll .. => []
  | .listUrl .. => []
  | .searchLatest .. => []
  | .searchAll .. => []
  | .acrossAusByUrl .. => []
  | .acrossAusByStart .. => []
  | .auSize .. => AuSize.zero

def reshape (change : {α : Type} → List α → List α) :
    (operation : Operation) → operation.Answer → operation.Answer
  | .namespaces, answer => change answer
  | .auIds .., answer => change answer
  | .listLatest .., answer => change answer
  | .listAll .., answer => change answer
  | .listUrl .., answer => change answer
  | .searchLatest .., answer => change answer
  | .searchAll .., answer => change answer
  | .acrossAusByUrl .., answer => change answer
  | .acrossAusByStart .., answer => change answer
  | _, answer => answer

end Operation

namespace VersionSelection

def other : VersionSelection → VersionSelection
  | .all => .latest
  | .latest => .all

end VersionSelection

namespace Fault

def failure : Outcome α := .refuse (.storage .lockPoisoned)

/-- Distort the result of a method whose empty answer is `nothing`. -/
def distort (effect : Effect) (nothing : α) (result : Outcome α) : Outcome α :=
  match effect, result with
  | .fail, _ => failure
  | .empty, .ok _ => .ok nothing
  | .swallow, .error _ => .ok nothing
  | _, result => result

def forced (uncommitted : Bool) (catalog : Catalog) :
    (operation : Operation) → Outcome operation.Answer × Catalog
  | .latest ns auid url _ => catalog.run (.latest ns auid url uncommitted)
  | .version ns auid url number _ => catalog.run (.version ns auid url number uncommitted)
  | .listLatest ns auid _ => catalog.run (.listLatest ns auid uncommitted)
  | .listAll ns auid _ => catalog.run (.listAll ns auid uncommitted)
  | .listUrl ns auid url _ => catalog.run (.listUrl ns auid url uncommitted)
  | operation => catalog.run operation

def swapped (catalog : Catalog) : (operation : Operation) → Outcome operation.Answer × Catalog
  | .acrossAusByUrl ns url selection => catalog.run (.acrossAusByUrl ns url selection.other)
  | .acrossAusByStart ns start selection => catalog.run (.acrossAusByStart ns start selection.other)
  | operation => catalog.run operation

/-- Serve a lookup in place of a mutation. -/
def skipped (catalog : Catalog) : (operation : Operation) → Outcome operation.Answer × Catalog
  | .commit uuid => catalog.run (.find uuid)
  | .delete uuid => catalog.run (.contains uuid)
  | .relocate uuid _ =>
    match catalog.run (.find uuid) with
    | (.ok (some artifact), catalog) => (.ok artifact, catalog)
    | (.ok none, catalog) => (.refuse (.storage (.notFound uuid)), catalog)
    | (.error failure, catalog) => (.error failure, catalog)
  | operation => catalog.run operation

def claimed (catalog : Catalog) : (operation : Operation) → Outcome operation.Answer × Catalog
  | .delete uuid =>
    match catalog.run (.delete uuid) with
    | (.ok _, catalog) => (.ok true, catalog)
    | (.error failure, catalog) => (.error failure, catalog)
  | operation => catalog.run operation

def committed (catalog : Catalog) : (operation : Operation) → Outcome operation.Answer × Catalog
  | .index artifact =>
    match catalog.run (.index artifact) with
    | (.error failure, catalog) => (.error failure, catalog)
    | (.ok stored, catalog) =>
      match catalog.run (.commit stored.uuid) with
      | (.ok result, catalog) => (.ok (result.getD stored), catalog)
      | (.error failure, catalog) => (.error failure, catalog)
  | operation => catalog.run operation

def exchanged (catalog : Catalog) : (operation : Operation) → Outcome operation.Answer × Catalog
  | .auSize ns auid =>
    match catalog.run (.auSize ns auid) with
    | (.ok size, catalog) =>
      (.ok { size with
        totalLatestVersions := size.totalAllVersions
        totalAllVersions := size.totalLatestVersions }, catalog)
    | (.error failure, catalog) => (.error failure, catalog)
  | operation => catalog.run operation

/-- Serve an operation of the faulty method. -/
def run (effect : Effect) (catalog : Catalog) (operation : Operation) :
    Outcome operation.Answer × Catalog :=
  match effect with
  | .reverse =>
    let (result, catalog) := catalog.run operation
    (result.map (operation.reshape List.reverse), catalog)
  | .firstOnly =>
    let (result, catalog) := catalog.run operation
    (result.map (operation.reshape (List.take 1)), catalog)
  | .includeUncommitted => forced true catalog operation
  | .committedOnly => forced false catalog operation
  | .swapVersions => swapped catalog operation
  | .skip => skipped catalog operation
  | .claim => claimed catalog operation
  | .commit => committed catalog operation
  | .swapTotals => exchanged catalog operation
  | effect =>
    let (result, catalog) := catalog.run operation
    (distort effect operation.nothing result, catalog)

end Fault

namespace Subject

def effectOn (subject : Subject) (method : Method) : Option Effect :=
  match subject.fault with
  | some fault => if fault.method = method then some fault.effect else none
  | none => none

def state (subject : Subject) : State :=
  if subject.effectOn .state = some .ready then .ready else subject.catalog.state

def isReady (subject : Subject) : Bool := subject.state.isReady

def settle (subject : Subject) (method : Method) (step : Outcome Unit × Catalog) :
    Outcome Unit × Subject :=
  (match subject.effectOn method with
    | some effect => Fault.distort effect () step.1
    | none => step.1, { subject with catalog := step.2 })

def start (subject : Subject) : Outcome Unit × Subject :=
  subject.settle .start subject.catalog.start

def stop (subject : Subject) : Outcome Unit × Subject :=
  if subject.effectOn .stop = some .empty then (.ok (), subject)
  else subject.settle .stop subject.catalog.stop

def waitReady (subject : Subject) (timeout : Duration) : Outcome Unit :=
  (subject.settle .waitReady (subject.catalog.waitReady timeout, subject.catalog)).1

def setDataStore (store : DataStore) (subject : Subject) : Subject :=
  if subject.effectOn .setDataStore = some .empty then subject
  else { subject with catalog := subject.catalog.setDataStore store }

def health (subject : Subject) : HealthCheck :=
  if subject.effectOn .health = some .healthy then HealthCheck.healthy subject.catalog.component
  else subject.catalog.health.1

def serve (subject : Subject) (operation : Operation) : Outcome operation.Answer × Subject :=
  let (result, catalog) := match subject.effectOn operation.method with
    | some effect => Fault.run effect subject.catalog operation
    | none => subject.catalog.run operation
  (result, { subject with catalog })

/-- Serve an operation. Whether an artifact is there is a matter of finding it. -/
def run (subject : Subject) : (operation : Operation) → Outcome operation.Answer × Subject
  | .contains uuid =>
    let (result, subject) := subject.serve (.find uuid)
    (result.map Option.isSome, subject)
  | operation => subject.serve operation

end Subject

end ArchiveCatalog
