import ArchiveCatalog.Text.Digits

namespace ArchiveCatalog

/-- A length of time: whole seconds, and nanoseconds below one second. -/
structure Duration where
  secs : UInt64
  nanos : Fin 1000000000
  deriving DecidableEq, Inhabited

namespace Duration

def ofSecs (secs : UInt64) : Duration := ⟨secs, 0⟩

def ofMillis (millis : UInt64) : Duration :=
  ⟨millis / 1000, Fin.ofNat 1000000000 (millis.toNat % 1000 * 1000000)⟩

/-- Carry whole seconds out of `nanos`; none where the seconds do not fit in 64 bits. -/
def carrying? (secs nanos : Nat) : Option Duration :=
  let total := secs + nanos / 1000000000
  if total < UInt64.size then some ⟨UInt64.ofNat total, Fin.ofNat 1000000000 nanos⟩ else none

def isZero (duration : Duration) : Bool := duration.secs == 0 && duration.nanos == 0

def totalNanos (duration : Duration) : Nat := duration.secs.toNat * 1000000000 + duration.nanos.val

/-- The length in milliseconds, a begun one counted as whole. -/
def millisUp (duration : Duration) : Nat := (duration.totalNanos + 999999) / 1000000

/-- A whole part and a fraction of `places` digits without trailing zeros. -/
def withFraction (whole places fraction : Nat) : List Char :=
  let digits := ((Text.padded 10 places fraction).reverse.dropWhile (· == '0')).reverse
  Text.decimal whole ++ (if digits.isEmpty then [] else '.' :: digits)

def chars (duration : Duration) : List Char :=
  let nanos := duration.nanos.val
  if duration.secs > 0 then withFraction duration.secs.toNat 9 nanos ++ ['s']
  else if nanos ≥ 1000000 then withFraction (nanos / 1000000) 6 (nanos % 1000000) ++ ['m', 's']
  else if nanos ≥ 1000 then withFraction (nanos / 1000) 3 (nanos % 1000) ++ ['µ', 's']
  else Text.decimal nanos ++ ['n', 's']

/-- The text in messages, such as `0ns`, `1.5µs`, `250ms` and `60s`. -/
def text (duration : Duration) : String := String.ofList duration.chars

end Duration

end ArchiveCatalog
