import ArchiveCatalog.Conformance.Bench

namespace ArchiveCatalog.Suite

open Trial

/-- A new artifact is found, and is uncommitted whatever the incoming record says. -/
def indexedIsUncommitted : Trial Unit := do
  let artifact ← fresh "ns1" "au1" "http://example.com/" 1
  let stored ← add { artifact with committed := true }
  expect !stored.committed
  expectEq stored { artifact with committed := false }
  expectEq (← answer (.find artifact.uuid)) (some stored)
  expect (← answer (.contains artifact.uuid))

def commitIsIdempotent : Trial Unit := do
  let artifact ← fresh "ns1" "au1" "http://example.com/" 1
  let _ ← add artifact
  let committed := { artifact with committed := true }
  expectEq (← answer (.commit artifact.uuid)) (some committed)
  expectEq (← answer (.commit artifact.uuid)) (some committed)
  expectEq (← answer (.find artifact.uuid)) (some committed)

def unknownIsNotFound : Trial Unit := do
  let unknown ← issue
  expectEq (← answer (.find unknown)) none
  expect !(← answer (.contains unknown))
  expectEq (← answer (.commit unknown)) none
  expect !(← answer (.delete unknown))

def deletedIsGone : Trial Unit := do
  let uncommitted ← fresh "ns1" "au1" "http://example.com/a" 1
  let committed ← fresh "ns1" "au1" "http://example.com/b" 1
  let _ ← add uncommitted
  let _ ← addCommitted committed
  for artifact in [uncommitted, committed] do
    expect (← answer (.delete artifact.uuid))
    expect !(← answer (.contains artifact.uuid))
    expectEq (← answer (.find artifact.uuid)) none
    expect !(← answer (.delete artifact.uuid))
    expectEq (← answer (.commit artifact.uuid)) none
    meets (.relocate artifact.uuid "file:///moved.warc") (Expectation.notFound artifact.uuid)
  expectEq (← answer .namespaces) []
  expectEq (← answer (.listLatest "ns1" "au1" true)) []

/-- A new storage place is recorded for committed and uncommitted artifacts. -/
def relocationIsRecorded : Trial Unit := do
  let uncommitted ← addNew "ns1" "au1" "http://example.com/a" 1
  let committed ← addNewCommitted "ns1" "au1" "http://example.com/b" 1
  for artifact in [uncommitted, committed] do
    let place := "file:///permanent/" ++ artifact.uuid.text ++ ".warc"
    let moved := { artifact with storageUrl := place }
    expectEq (← answer (.relocate artifact.uuid place)) moved
    expectEq (← answer (.find artifact.uuid)) (some moved)

def unknownIsNotRelocated : Trial Unit := do
  let unknown ← issue
  meets (.relocate unknown "file:///x.warc") (Expectation.notFound unknown)

def nilIsRefused : Trial Unit := do
  refuses "uuid" (.find .nil)
  refuses "uuid" (.contains .nil)
  refuses "uuid" (.commit .nil)
  refuses "uuid" (.delete .nil)
  refuses "uuid" (.relocate .nil "file:///x.warc")
  let artifact ← addNew "ns1" "au1" "http://example.com/" 1
  refuses "storage_url" (.relocate artifact.uuid "")

/-- An artifact that breaks a rule is refused for it, and leaves nothing behind. -/
def invalidArtifactIsRefused : Trial Unit := do
  let valid ← fresh "ns1" "au1" "http://example.com/" 1
  refuses "uuid" (.index { valid with uuid := .nil })
  refuses "namespace" (.index { valid with ns := "" })
  refuses "auid" (.index { valid with auid := "" })
  refuses "url" (.index { valid with url := "" })
  refuses "version" (.index { valid with version := 0 })
  refuses "content_length" (.index { valid with contentLength := -1 })
  expectEq (← answer .namespaces) []
  expect !(← answer (.contains valid.uuid))

def takenIdentifierIsRefused : Trial Unit := do
  let first ← addNewCommitted "ns1" "au1" "http://example.com/a" 1
  let second ← fresh "ns1" "au1" "http://example.com/b" 1
  meets (.index { second with uuid := first.uuid }) (Expectation.alreadyExists first.uuid)
  expectEq (← answer (.find first.uuid)) (some first)

/-- A version of a resource cannot be taken twice; elsewhere it is another resource. -/
def takenVersionIsRefused : Trial Unit := do
  let url := "http://example.com/a"
  let first ← addNew "ns1" "au1" url 1
  let second ← fresh "ns1" "au1" url 1
  meets (.index second) (Expectation.constraintViolation "artifact_stem_version")
  expect !(← answer (.contains second.uuid))
  let _ ← addNew "ns1" "au2" url 1
  let _ ← addNew "ns2" "au1" url 1
  expectEq (← answer (.latest "ns1" "au1" url true)) (some first)

end ArchiveCatalog.Suite
