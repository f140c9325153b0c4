import ArchiveCatalog.Conformance.Bench

namespace ArchiveCatalog.Suite

open Trial

/-- Namespaces and archival units are listed while they hold an artifact, committed or not. -/
def unitsAreListed : Trial Unit := do
  expectEq (← answer .namespaces) []
  let only ← addNew "ns2" "au2" "http://example.com/" 1
  let _ ← addNewCommitted "ns1" "au1" "http://example.com/" 1
  let _ ← addNew "ns1" "au0" "http://example.com/" 1
  let _ ← addNewCommitted "ns1" "au1" "http://example.com/x" 1
  expectEq (← answer .namespaces) ["ns1", "ns2"]
  expectEq (← answer (.auIds "ns1")) ["au0", "au1"]
  expectEq (← answer (.auIds "ns2")) ["au2"]
  expectEq (← answer (.auIds "ns3")) []
  expect (← answer (.delete only.uuid))
  expectEq (← answer .namespaces) ["ns1"]
  expectEq (← answer (.auIds "ns2")) []

def commitEntersListing : Trial Unit := do
  let first ← addNew "d" "a" "u" 1
  let second ← addNew "d" "a" "u" 2
  expectEq (← answer (.listLatest "d" "a" false)) []
  meets (.listLatest "d" "a" true) (lists [second])
  let first ← commit first
  meets (.listLatest "d" "a" false) (lists [first])
  let second ← commit second
  meets (.listLatest "d" "a" false) (lists [second])

def listingHoldsLatest : Trial Unit := do
  let b ← addNewCommitted "ns1" "au1" "http://b.com/" 1
  let former ← addNewCommitted "ns1" "au1" "http://a.com/" 1
  let a ← addNewCommitted "ns1" "au1" "http://a.com/" 2
  let c ← addNew "ns1" "au1" "http://c.com/" 3
  let _ ← addNewCommitted "ns1" "au2" "http://a.com/" 7
  let _ ← addNewCommitted "ns2" "au1" "http://a.com/" 9
  meets (.listLatest "ns1" "au1" false) (lists [a, b])
  let all ← answer (.listLatest "ns1" "au1" true)
  expect (Expectation.artifacts all [a, b, c])
  expect (Expectation.withinAuOrder all)
  expect (all.all (·.uuid != former.uuid))

/-- Versions are listed by URL, the highest first. -/
def versionsAreOrdered : Trial Unit := do
  let a1 ← addNewCommitted "ns1" "au1" "http://a.com/" 1
  let b2 ← addNewCommitted "ns1" "au1" "http://b.com/" 2
  let a3 ← addNew "ns1" "au1" "http://a.com/" 3
  let a2 ← addNewCommitted "ns1" "au1" "http://a.com/" 2
  let b1 ← addNewCommitted "ns1" "au1" "http://b.com/" 1
  let _ ← addNewCommitted "ns1" "au2" "http://a.com/" 4
  meets (.listAll "ns1" "au1" false) (lists [a2, a1, b2, b1])
  let all ← answer (.listAll "ns1" "au1" true)
  expect (Expectation.artifacts all [a3, a2, a1, b2, b1])
  expect (Expectation.withinAuOrder all)
  meets (.listUrl "ns1" "au1" "http://a.com/" false) (lists [a2, a1])
  meets (.listUrl "ns1" "au1" "http://a.com/" true) (lists [a3, a2, a1])
  expectEq (← answer (.listUrl "ns1" "au1" "http://c.com/" true)) []

def searchFindsLatest : Trial Unit := do
  let former ← addNewCommitted "ns1" "au1" "http://example.com/a/1" 1
  let first ← addNewCommitted "ns1" "au1" "http://example.com/a/1" 2
  let _ ← addNew "ns1" "au1" "http://example.com/a/1" 3
  let second ← addNewCommitted "ns1" "au1" "http://example.com/a/2" 1
  let _ ← addNew "ns1" "au1" "http://example.com/a/3" 1
  let _ ← addNewCommitted "ns1" "au1" "http://example.com/b/1" 1
  let _ ← addNewCommitted "ns1" "au2" "http://example.com/a/9" 1
  let found ← answer (.searchLatest "ns1" "au1" "http://example.com/a/")
  expect (Expectation.artifacts found [first, second])
  expect (found.all (·.uuid != former.uuid))
  expectEq (← answer (.searchLatest "ns1" "au1" "http://example.com/c")) []

/-- No character of a start stands for another one. -/
def searchIsLiteral : Trial Unit := do
  let percent ← addNewCommitted "ns1" "au1" "http://x.com/100%" 1
  let _ ← addNewCommitted "ns1" "au1" "http://x.com/1000" 1
  let underscore ← addNewCommitted "ns1" "au1" "http://x.com/a_b" 1
  let _ ← addNewCommitted "ns1" "au1" "http://x.com/axb" 1
  let backslash ← addNewCommitted "ns1" "au1" "http://x.com/back\\slash" 1
  let _ ← addNewCommitted "ns1" "au1" "http://x.com/backslash" 1
  meets (.searchLatest "ns1" "au1" "http://x.com/100%") (lists [percent])
  meets (.searchLatest "ns1" "au1" "http://x.com/a_") (lists [underscore])
  meets (.searchLatest "ns1" "au1" "http://x.com/back\\") (lists [backslash])
  meets (.acrossAusByStart "ns1" "http://x.com/a_" .all) (lists [underscore])

def searchFindsVersions : Trial Unit := do
  let a1 ← addNewCommitted "ns1" "au1" "http://s.com/a" 1
  let a2 ← addNewCommitted "ns1" "au1" "http://s.com/a" 2
  let _ ← addNew "ns1" "au1" "http://s.com/a" 3
  let b1 ← addNewCommitted "ns1" "au1" "http://s.com/b" 1
  let _ ← addNewCommitted "ns1" "au1" "http://t.com/a" 1
  let found ← answer (.searchAll "ns1" "au1" "http://s.com/")
  expect (Expectation.artifacts found [a2, a1, b1])
  expect (Expectation.withinAuOrder found)

def emptyStartFindsAll : Trial Unit := do
  let _ ← addNewCommitted "ns1" "au1" "http://a.com/" 1
  let _ ← addNewCommitted "ns1" "au1" "http://a.com/" 2
  let _ ← addNewCommitted "ns1" "au1" "https://b.com/" 1
  let _ ← addNew "ns1" "au1" "ftp://c.com/" 1
  let listed ← answer (.listLatest "ns1" "au1" false)
  let found ← answer (.searchLatest "ns1" "au1" "")
  expectEq found listed
  expectEq found.length 2
  let versions ← answer (.searchAll "ns1" "au1" "")
  expectEq versions.length 3

/-- A search by URL across archival units stays in its namespace and with its URL. -/
def crossSearchByUrl : Trial Unit := do
  let url := "http://example.com/shared"
  let former ← addNewCommitted "ns1" "au1" url 1
  let first ← addNewCommitted "ns1" "au1" url 2
  let _ ← addNew "ns1" "au1" url 3
  let second ← addNewCommitted "ns1" "au2" url 1
  let _ ← addNew "ns1" "au3" url 1
  let _ ← addNewCommitted "ns2" "au1" url 5
  let _ ← addNewCommitted "ns1" "au1" "http://example.com/shared2" 1
  meets (.acrossAusByUrl "ns1" url .latest) (lists [first, second])
  let all ← answer (.acrossAusByUrl "ns1" url .all)
  expect (Expectation.artifacts all [first, former, second])
  expect (Expectation.acrossAusOrder all)
  expectEq (← answer (.acrossAusByUrl "ns3" url .all)) []

/-- A search by the start of the URL across archival units lists by URL, then archival unit. -/
def crossSearchByStart : Trial Unit := do
  let other ← addNewCommitted "ns1" "au2" "http://site/a" 1
  let last ← addNewCommitted "ns1" "au1" "http://site/b" 1
  let former ← addNewCommitted "ns1" "au1" "http://site/a" 1
  let first ← addNewCommitted "ns1" "au1" "http://site/a" 2
  let _ ← addNew "ns1" "au1" "http://site/c" 1
  let _ ← addNewCommitted "ns1" "au1" "http://other/a" 1
  let _ ← addNewCommitted "ns2" "au1" "http://site/a" 3
  meets (.acrossAusByStart "ns1" "http://site/" .latest) (lists [first, other, last])
  let all ← answer (.acrossAusByStart "ns1" "http://site/" .all)
  expect (Expectation.artifacts all [first, former, other, last])
  expect (Expectation.acrossAusOrder all)

/-- Sizes add up, and a deletion takes its length back. -/
def sizesAddUp : Trial Unit := do
  setWarcSize "ns1" "au1" 4096
  let first ← addCommitted (← freshOfLength "ns1" "au1" "http://example.com/1" 1 100)
  let _ ← addCommitted (← freshOfLength "ns1" "au1" "http://example.com/2" 1 200)
  expectEq (← answer (.auSize "ns1" "au1")) ⟨300, 300, 4096⟩
  let _ ← addCommitted (← freshOfLength "ns1" "au1" "http://example.com/1" 2 50)
  let grown ← answer (.auSize "ns1" "au1")
  expectEq grown.totalAllVersions 350
  expectEq grown.totalLatestVersions 250
  expect (← answer (.delete first.uuid))
  expectEq (← answer (.auSize "ns1" "au1")) ⟨250, 250, 4096⟩

def emptyUnitHasNoSize : Trial Unit := do
  expectEq (← answer (.auSize "ns1" "au1")) AuSize.zero
  let _ ← addNewCommitted "ns1" "au1" "http://example.com/" 1
  expectEq (← answer (.auSize "ns2" "au1")) AuSize.zero
  expectEq (← answer (.auSize "ns1" "au2")) AuSize.zero

def sizesCountCommitted : Trial Unit := do
  let url := "http://example.com/"
  let _ ← addCommitted (← freshOfLength "ns1" "au1" url 1 10)
  let second ← add (← freshOfLength "ns1" "au1" url 2 1000)
  let _ ← add (← freshOfLength "ns1" "au1" "http://example.com/x" 1 500)
  let before ← answer (.auSize "ns1" "au1")
  expectEq before.totalLatestVersions 10
  expectEq before.totalAllVersions 10
  let _ ← answer (.commit second.uuid)
  let grown ← answer (.auSize "ns1" "au1")
  expectEq grown.totalLatestVersions 1000
  expectEq grown.totalAllVersions 1010

end ArchiveCatalog.Suite
