import ArchiveCatalog.Conformance.Bench

namespace ArchiveCatalog.Suite

open Trial

def latestIsVisible : Trial Unit := do
  let url := "http://example.com/page"
  let first ← addNewCommitted "ns1" "au1" url 1
  let second ← addNew "ns1" "au1" url 2
  expectEq (← answer (.latest "ns1" "au1" url false)) (some first)
  expectEq (← answer (.latest "ns1" "au1" url true)) (some second)
  let committed ← answer (.commit second.uuid)
  expectEq (← answer (.latest "ns1" "au1" url false)) committed
  expectEq (← answer (.latest "ns1" "au1" url true)) committed

def latestMayBeAbsent : Trial Unit := do
  let url := "http://example.com/page"
  let first ← addNew "ns1" "au1" url 1
  expectEq (← answer (.latest "ns1" "au1" url false)) none
  expectEq (← answer (.latest "ns1" "au1" url true)) (some first)
  expectEq (← answer (.latest "ns1" "au1" "http://example.com/other" true)) none
  expectEq (← answer (.latest "ns1" "au2" url true)) none
  expectEq (← answer (.latest "ns2" "au1" url true)) none

def deletedLatestFallsBack : Trial Unit := do
  let url := "http://example.com/page"
  let first ← addNewCommitted "ns1" "au1" url 1
  let second ← addNewCommitted "ns1" "au1" url 2
  expect (← answer (.delete second.uuid))
  expectEq (← answer (.latest "ns1" "au1" url false)) (some first)
  expect (← answer (.delete first.uuid))
  expectEq (← answer (.latest "ns1" "au1" url true)) none

def versionIsFound : Trial Unit := do
  let url := "http://example.com/page"
  let first ← addNewCommitted "ns1" "au1" url 1
  let second ← addNew "ns1" "au1" url 2
  expectEq (← answer (.version "ns1" "au1" url 1 false)) (some first)
  expectEq (← answer (.version "ns1" "au1" url 1 true)) (some first)
  expectEq (← answer (.version "ns1" "au1" url 2 false)) none
  expectEq (← answer (.version "ns1" "au1" url 2 true)) (some second)
  expectEq (← answer (.version "ns1" "au1" url 3 true)) none

/-- Empty arguments are refused, by the name of the argument. -/
def emptyIsRefused : Trial Unit := do
  let url := "http://example.com/"
  refuses "namespace" (.latest "" "au1" url true)
  refuses "auid" (.latest "ns1" "" url true)
  refuses "url" (.latest "ns1" "au1" "" true)
  refuses "url" (.version "ns1" "au1" "" 1 true)
  refuses "namespace" (.auIds "")
  refuses "auid" (.listLatest "ns1" "" true)
  refuses "namespace" (.listAll "" "au1" true)
  refuses "url" (.listUrl "ns1" "au1" "" true)
  refuses "namespace" (.searchLatest "" "au1" "http")
  refuses "auid" (.auSize "ns1" "")
  for selection in [VersionSelection.all, VersionSelection.latest] do
    refuses "namespace" (.acrossAusByUrl "" url selection)
    refuses "url" (.acrossAusByUrl "ns1" "" selection)
    refuses "namespace" (.acrossAusByStart "" "http" selection)
    refuses "prefix" (.acrossAusByStart "ns1" "" selection)

/-- URLs far longer than an index entry are told apart. -/
def longUrlsAreDistinct : Trial Unit := do
  let url := Fixture.longUrl 30000
  let start (length : Nat) : String := String.ofList (url.toList.take length)
  let stored ← addNewCommitted "ns1" "au1" url 1
  let sibling ← addNewCommitted "ns1" "au1" (start 10000 ++ "~") 1
  expectEq (← answer (.latest "ns1" "au1" url false)) (some stored)
  expectEq (← answer (.version "ns1" "au1" url 1 false)) (some stored)
  meets (.searchLatest "ns1" "au1" (start 20000)) (lists [stored])
  meets (.acrossAusByUrl "ns1" url .latest) (lists [stored])
  meets (.acrossAusByStart "ns1" (start 20000) .all) (lists [stored])
  meets (.searchLatest "ns1" "au1" (start 5000)) (lists [stored, sibling])

def stoppedServesNothing : Trial Unit := do
  let artifact ← addNewCommitted "ns1" "au1" "http://example.com/" 1
  let stopped ← act (·.stop)
  expectOk stopped
  expect !(← get).subject.isReady
  meets (.find artifact.uuid) Expectation.notReady
  meets (.index (← fresh "ns1" "au1" "http://x.com/" 1)) Expectation.notReady
  meets .namespaces Expectation.notReady
  expect !((← get).subject.waitReady (Duration.ofMillis 50)).toBool
  expect !(← get).subject.health.isHealthy

end ArchiveCatalog.Suite
