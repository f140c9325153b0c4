import ArchiveCatalog.Calendar

namespace ArchiveCatalog

/-- What a day, a second of it and nanoseconds must satisfy to be an instant: the calendar
reaches from the year -262143 to the year 262142, and only the last second of a minute can be a
leap second. -/
def Instant.Sound (day : Int) (secondOfDay nano : Nat) : Prop :=
  (-96465292 ≤ day ∧ day ≤ 95026236) ∧ secondOfDay < 86400 ∧ nano < 2000000000 ∧
    (1000000000 ≤ nano → secondOfDay % 60 = 59)

instance (day : Int) (secondOfDay nano : Nat) : Decidable (Instant.Sound day secondOfDay nano) := by
  unfold Instant.Sound
  infer_instance

/-- Days since 1970-01-01, a second of the day, and nanoseconds within that second. -/
structure Instant where
  day : Int
  secondOfDay : Nat
  nano : Nat
  sound : Instant.Sound day secondOfDay nano
  deriving DecidableEq

namespace Instant

def epoch : Instant := ⟨0, 0, 0, by decide⟩

instance : Inhabited Instant := ⟨epoch⟩

def of? (day : Int) (secondOfDay nano : Nat) : Option Instant :=
  if sound : Sound day secondOfDay nano then some ⟨day, secondOfDay, nano, sound⟩ else none

theorem of?_self (instant : Instant) :
    of? instant.day instant.secondOfDay instant.nano = some instant :=
  dif_pos instant.sound

/-- Microseconds since 2000-01-01, a leap second counted as the second after it, with the part
below a microsecond dropped towards 2000-01-01. -/
def micros2000 (instant : Instant) : Int :=
  Int.tdiv (((instant.day - 10957) * 86400 + instant.secondOfDay) * 1000000000 + instant.nano) 1000

def ofMicros2000? (micros : Int) : Option Instant :=
  let seconds := micros / 1000000
  of? (seconds / 86400 + 10957) (seconds % 86400).toNat ((micros % 1000000).toNat * 1000)

/-- The last whole microsecond at or before the instant; a leap second becomes the second after
it. -/
def microsFloor (instant : Instant) : Int :=
  (((instant.day - 10957) * 86400 + instant.secondOfDay) * 1000000000 + instant.nano) / 1000

end Instant

end ArchiveCatalog
