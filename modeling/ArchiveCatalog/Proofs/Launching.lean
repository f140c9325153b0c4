import ArchiveCatalog.Catalog
import ArchiveCatalog.Proofs.StoreOpening

namespace ArchiveCatalog

private theorem Local.mapSize_of_small {config : LocalConfig}
    (small : config.maxSizeMb.toNat < 2 ^ 44) :
    mapSize config = .ok config.bytes := by
  apply if_pos
  rw [LocalConfig.bytes, UInt64.size]
  omega

private theorem Local.mapSize_of_large {config : LocalConfig}
    (large : 2 ^ 44 ≤ config.maxSizeMb.toNat) :
    mapSize config = .error .multiplicationOverflow := by
  apply if_neg
  rw [LocalConfig.bytes, UInt64.size]
  omega

private theorem CatalogConfig.exists_localConfig {config : CatalogConfig}
    (onDisk : config.backend = .local)
    (accepted : config.validate = .ok ()) : ∃ settings, config.localConfig = some settings := by
  cases known : config.localConfig with
  | some settings => exact ⟨settings, rfl⟩
  | none =>
    rw [validate, onDisk, known] at accepted
    cases accepted

namespace LocalSession

variable {directory : Directory} {settings : LocalConfig}

private theorem opening_of_blocked {error : StoreError}
    (blocked : (directory.create [] (Directory.pathOf settings.path)).1 = .error error) :
    (new directory settings).opening.1 = .error (.refused error.refusal) := by
  rcases created : directory.create [] (Directory.pathOf settings.path) with ⟨found, next⟩
  rw [created] at blocked
  obtain rfl : found = .error error := blocked
  have constructed : (new directory settings).state = .constructed := rfl
  have placed : (new directory settings).place = (.error error, ⟨next, .new settings, []⟩) := by
    simp only [place, new, Local.new, created]
  simp only [opening, if_pos constructed, placed]

section Placed

variable {place : Path}
  (free : (directory.create [] (Directory.pathOf settings.path)).1 = .ok place)
include free

private theorem opening_of_free : ∃ next : Directory,
    (new directory settings).opening.1 =
      match Local.mapSize settings with
      | .error abort => .error (.aborted abort)
      | .ok size =>
        match (next.openStore place size).1 with
        | .error error => .error (.refused error.refusal)
        | .ok _ => .ok () := by
  rcases created : directory.create [] (Directory.pathOf settings.path) with ⟨found, next⟩
  rw [created] at free
  obtain rfl : found = .ok place := free
  have constructed : (new directory settings).state = .constructed := rfl
  have placed : (new directory settings).place = (.ok place, ⟨next, .new settings, []⟩) := by
    simp only [LocalSession.place, new, Local.new, created]
  refine ⟨next, ?_⟩
  rw [opening, if_pos constructed, placed]
  -- the size is made opaque: checking must not multiply an unknown number by a large one
  obtain ⟨measure, same⟩ : ∃ measure, Local.mapSize = measure := ⟨_, rfl⟩
  rw [same]
  dsimp only [Local.new]
  cases measure settings with
  | error abort => rfl
  | ok size =>
    dsimp only
    obtain ⟨found, last⟩ := next.openStore place size
    cases found <;> rfl

private theorem opening_of_large (large : 2 ^ 44 ≤ settings.maxSizeMb.toNat) :
    (new directory settings).opening.1 = .error (.aborted .multiplicationOverflow) := by
  obtain ⟨next, opened⟩ := opening_of_free free
  rw [opened, Local.mapSize_of_large large]

private theorem opening_of_small (small : settings.maxSizeMb.toNat < 2 ^ 44) :
    (new directory settings).opening.1 = .ok () ∨ ∃ error : StoreError,
      (new directory settings).opening.1 = .error (.refused error.refusal) := by
  obtain ⟨next, opened⟩ := opening_of_free free
  rw [opened, Local.mapSize_of_small small]
  dsimp only
  cases (next.openStore place settings.bytes).1 with
  | error error => exact .inr ⟨error, rfl⟩
  | ok store => exact .inl rfl

end Placed

/-- The store of a size that is too large is not opened, if there is a directory for it. Else it is
opened, or what is wrong with the files refuses it. -/
theorem opening_cases (directory : Directory) (settings : LocalConfig) :
    (2 ^ 44 ≤ settings.maxSizeMb.toNat ∧
        (∃ place, (directory.create [] (Directory.pathOf settings.path)).1 = .ok place) ∧
        (new directory settings).opening.1 = .error (.aborted .multiplicationOverflow)) ∨
      ¬(2 ^ 44 ≤ settings.maxSizeMb.toNat ∧
          ∃ place, (directory.create [] (Directory.pathOf settings.path)).1 = .ok place) ∧
        ((new directory settings).opening.1 = .ok () ∨ ∃ error : StoreError,
          (new directory settings).opening.1 = .error (.refused error.refusal)) := by
  cases found : (directory.create [] (Directory.pathOf settings.path)).1 with
  | error error =>
    refine .inr ⟨?_, .inr ⟨error, opening_of_blocked found⟩⟩
    rintro ⟨-, place, free⟩
    cases free
  | ok place =>
    by_cases large : 2 ^ 44 ≤ settings.maxSizeMb.toNat
    · exact .inl ⟨large, ⟨place, rfl⟩, opening_of_large found large⟩
    · have small := opening_of_small found (Nat.lt_of_not_le large)
      exact .inr ⟨fun both => large both.1, small⟩

private theorem opening_catalog (session : LocalSession) :
    session.opening.2.catalog = session.catalog := by
  obtain ⟨measure, same⟩ : ∃ measure, Local.mapSize = measure := ⟨_, rfl⟩
  rw [opening, same]
  split
  · rw [place]
    obtain ⟨found, created⟩ := session.directory.create []
      (Directory.pathOf session.catalog.config.path)
    cases found with
    | error error => rfl
    | ok place =>
      dsimp only
      cases measure session.catalog.config with
      | error abort => rfl
      | ok size =>
        dsimp only
        obtain ⟨opened, last⟩ := created.openStore place size
        cases opened <;> rfl
  · rfl

/-- A session that is new answers a start as the opening of its store answers, and is ready if that
succeeds. -/
theorem start_of_constructed {session : LocalSession} (waiting : session.state = .constructed) :
    session.start.1 = session.opening.1 ∧
      (session.opening.1 = .ok () → session.start.2.state = .ready) := by
  have waits : session.opening.2.catalog.state = .constructed :=
    (congrArg Local.state session.opening_catalog).trans waiting
  rw [start]
  generalize session.opening = step at waits
  obtain ⟨opened, next⟩ := step
  cases opened with
  | error failure =>
    have failed := Local.start_of_failure waits next.records failure
    simp only [failed]
    exact ⟨trivial, fun succeeded => nomatch succeeded⟩
  | ok =>
    have started := Local.start_of_success waits next.records
    simp only [started]
    exact ⟨trivial, fun _ => rfl⟩

end LocalSession

namespace Catalog

variable {config : CatalogConfig} {settings : LocalConfig}

private theorem waitReady_of_ready {catalog : Catalog} (ready : catalog.state = .ready)
    (timeout : Duration) : catalog.waitReady timeout = .ok () := by
  rw [waitReady, ready]
  rfl

private theorem launch_of_built {built : Catalog} {directory : Directory}
    {server : Option Sql.Server}
    (builds : build config directory server = .ok built)
    (readies : built.start.1 = .ok () → built.start.2.state = .ready) :
    launch config directory server = built.start.1.map fun _ => built.start.2 := by
  simp only [launch, builds, bind, Except.bind]
  generalize built.start = step at readies
  obtain ⟨answer, started⟩ := step
  cases answer with
  | error failure => rfl
  | ok =>
    have waited := waitReady_of_ready (readies rfl) config.readyTimeout
    simp only [waited]
    rfl

/-- The launch of a local catalog ends as the opening of its store does. -/
theorem launch_of_session {session : LocalSession} {directory : Directory}
    {server : Option Sql.Server} (builds : build config directory server = .ok (.local session))
    (constructed : session.state = .constructed) :
    launch config directory server = (session.opening.1.map fun _ => .local session.start.2) ∧
      (session.opening.1 = .ok () → session.start.2.state = .ready) := by
  obtain ⟨answered, readies⟩ := LocalSession.start_of_constructed constructed
  have launched := launch_of_built builds fun succeeded =>
    readies (answered.symm.trans succeeded)
  have answer : (start (.local session)).1 = session.opening.1 := answered
  rw [answer] at launched
  exact ⟨launched, readies⟩

private theorem build_local (onDisk : config.backend = .local) (accepted : config.validate = .ok ())
    (known : config.localConfig = some settings) (directory : Directory)
    (server : Option Sql.Server) :
    build config directory server = .ok (.local (.new directory settings)) := by
  simp only [build, accepted, onDisk, known]

/-- The launch of a local catalog whose settings are accepted aborts exactly if the size of its
store is at least 2⁴⁴ megabytes, which makes more bytes than 64 bits can count, and the directory
of its store can be created. In every other case the catalog is ready, or the launch is refused
with what is wrong with the files. -/
theorem launch_aborts_iff (onDisk : config.backend = .local) (accepted : config.validate = .ok ())
    (directory : Directory) (server : Option Sql.Server) :
    ∃ settings, config.localConfig = some settings ∧
      (∀ abort, launch config directory server = .error (.aborted abort) ↔
        abort = .multiplicationOverflow ∧ 2 ^ 44 ≤ settings.maxSizeMb.toNat ∧
          ∃ place, (directory.create [] (Directory.pathOf settings.path)).1 = .ok place) ∧
      ((∀ abort, launch config directory server ≠ .error (.aborted abort)) →
        (∃ catalog, launch config directory server = .ok catalog ∧ catalog.state = .ready) ∨
          ∃ error : StoreError, launch config directory server = .refuse error.refusal) := by
  obtain ⟨settings, known⟩ := CatalogConfig.exists_localConfig onDisk accepted
  obtain ⟨launched, readies⟩ :=
    launch_of_session (build_local onDisk accepted known directory server) rfl
  refine ⟨settings, known, ?_⟩
  rw [launched]
  -- the directory comes before the size, so that an abort needs both
  rcases LocalSession.opening_cases directory settings with
    ⟨large, free, aborted⟩ | ⟨spared, opened | ⟨error, refused⟩⟩
  · rw [aborted]
    refine ⟨fun abort => ⟨?_, ?_⟩, fun never => absurd rfl (never .multiplicationOverflow)⟩
    · intro same
      cases same
      exact ⟨rfl, large, free⟩
    · rintro ⟨rfl, -⟩
      rfl
  · rw [opened]
    refine ⟨fun abort => iff_of_false ?_ fun excess => spared excess.2, ?_⟩
    · exact fun aborted => nomatch aborted
    · exact fun _ => .inl ⟨_, rfl, readies opened⟩
  · rw [refused]
    refine ⟨fun abort => iff_of_false ?_ fun excess => spared excess.2, ?_⟩
    · exact fun aborted => nomatch aborted
    · exact fun _ => .inr ⟨error, rfl⟩

/-- Of two sizes that are accepted, the larger one makes the launch abort. -/
theorem launch_aborts_of_sizes :
    let sized (megabytes : UInt64) := CatalogConfig.ofLocal ⟨"p", megabytes⟩
    (sized 17592186044416).validate = .ok () ∧
      launch (sized 17592186044416) .empty none = .error (.aborted .multiplicationOverflow) ∧
      ∀ abort, launch (sized 1024) .empty none ≠ .error (.aborted abort) := by
  intro sized
  have accepted : (sized 17592186044416).validate = .ok () := rfl
  have also : (sized 1024).validate = .ok () := rfl
  obtain ⟨_, known, large, -⟩ := launch_aborts_iff rfl accepted .empty none
  cases known
  obtain ⟨_, known, small, -⟩ := launch_aborts_iff rfl also .empty none
  cases known
  refine ⟨accepted, (large _).2 ⟨rfl, by decide, _, rfl⟩, ?_⟩
  intro abort aborted
  obtain ⟨-, big, -⟩ := (small abort).1 aborted
  exact absurd big (by decide)

/-- Settings that are accepted can make the launch abort. -/
theorem exists_accepted_launch_aborts :
    ¬ ∀ config : CatalogConfig, config.backend = .local → config.validate = .ok () →
      ∀ directory server abort, launch config directory server ≠ .error (.aborted abort) := by
  intro never
  exact never (.ofLocal ⟨"p", 17592186044416⟩) rfl rfl .empty none .multiplicationOverflow rfl

end Catalog

end ArchiveCatalog
