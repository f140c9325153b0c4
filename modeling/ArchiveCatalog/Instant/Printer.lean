import ArchiveCatalog.Instant.Basic
import ArchiveCatalog.Text.Digits

namespace ArchiveCatalog.Instant

/-- Years of four digits stand as they are; all others carry a sign. -/
def yearChars (year : Int) : List Char :=
  if 0 ≤ year ∧ year ≤ 9999 then Text.padded 10 4 year.toNat
  else (if year < 0 then '-' else '+') :: Text.widened 4 year.natAbs

/-- A fraction of a second with its point, in groups of three digits. -/
def fractionChars (nano : Nat) : List Char :=
  if nano = 0 then []
  else if nano % 1000000 = 0 then '.' :: Text.padded 10 3 (nano / 1000000)
  else if nano % 1000 = 0 then '.' :: Text.padded 10 6 (nano / 1000)
  else '.' :: Text.padded 10 9 nano

def chars (instant : Instant) : List Char :=
  let date := CivilDate.ofDay instant.day
  let second := instant.secondOfDay % 60 + instant.nano / 1000000000
  yearChars date.year ++ '-' :: Text.padded 10 2 date.month ++ '-' :: Text.padded 10 2 date.day ++
    'T' :: Text.padded 10 2 (instant.secondOfDay / 3600) ++
    ':' :: Text.padded 10 2 (instant.secondOfDay / 60 % 60) ++
    ':' :: Text.padded 10 2 second ++ fractionChars (instant.nano % 1000000000) ++ ['Z']

def text (instant : Instant) : String := String.ofList instant.chars

end ArchiveCatalog.Instant
