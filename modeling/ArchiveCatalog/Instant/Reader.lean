import ArchiveCatalog.Instant.Basic
import ArchiveCatalog.Text.Blank
import ArchiveCatalog.Text.Digits

/-! Reading an instant. The reader is lenient: numbers may be shorter than their usual width, white
space may stand before a number, before a `-` or `:`, around the offset and at the end, and a `t` or
a space may stand for the `T`. -/

namespace ArchiveCatalog.Instant.Reader

/-- A reader of a part of a text: its value and what follows, or nothing. -/
abbrev Part (α : Type) := List Char → Option (α × List Char)

def digits (width : Nat) : Part (List Nat) := fun text =>
  let taken := (text.take width).takeWhile Text.isDecimal
  if taken.isEmpty then none
  else some (taken.filterMap Text.decimalValue?, text.drop taken.length)

/-- An unsigned number of at most `width` digits after optional white space. -/
def number (width : Nat) : Part Nat := fun text => do
  let (values, rest) ← digits width (Text.skipBlank text)
  return (Text.ofDigits 10 values, rest)

/-- A year: one to four digits, or a sign and any number of digits. -/
def year : Part Int := fun text =>
  match Text.skipBlank text with
  | '-' :: rest => do
    let (values, rest) ← digits rest.length rest
    return (-(Text.ofDigits 10 values : Int), rest)
  | '+' :: rest => do
    let (values, rest) ← digits rest.length rest
    return ((Text.ofDigits 10 values : Int), rest)
  | text => do
    let (values, rest) ← digits 4 text
    return ((Text.ofDigits 10 values : Int), rest)

def separator (mark : Char) : Part Unit := fun text =>
  match Text.skipBlank text with
  | c :: rest => if c = mark then some ((), rest) else none
  | [] => none

def dateEnd : Part Unit
  | 'T' :: rest => some ((), rest)
  | 't' :: rest => some ((), rest)
  | ' ' :: rest => some ((), rest)
  | _ => none

/-- An optional fraction of a second in nanoseconds; digits after the ninth are ignored. -/
def fraction : Part Nat
  | '.' :: text => do
    let (values, rest) ← digits 9 text
    let zeros := List.replicate (9 - values.length) 0
    return (Text.ofDigits 10 (values ++ zeros), rest.dropWhile Text.isDecimal)
  | text => some (0, text)

def twoDigits : Part Nat
  | high :: low :: rest => do
    return ((← Text.decimalValue? high) * 10 + (← Text.decimalValue? low), rest)
  | _ => none

def isOffsetSeparator (c : Char) : Bool := c == ':' || Text.isBlank c

def offsetMinutes : Part Nat := fun text => do
  let (hours, rest) ← twoDigits text
  let (minutes, rest) ← twoDigits (rest.dropWhile isOffsetSeparator)
  if minutes < 60 then return (hours * 60 + minutes, rest) else none

/-- The offset from universal time in minutes: `Z`, `UTC` in any case, or a sign, two digits of
hours and two digits of minutes. -/
def offset : Part Int := fun text =>
  if (text.take 3).map Char.toUpper = ['U', 'T', 'C'] then some (0, text.drop 3)
  else match text with
    | 'Z' :: rest => some (0, rest)
    | 'z' :: rest => some (0, rest)
    | '+' :: rest => do
      let (minutes, rest) ← offsetMinutes rest
      return ((minutes : Int), rest)
    | '-' :: rest => do
      let (minutes, rest) ← offsetMinutes rest
      return (-(minutes : Int), rest)
    | '\u2212' :: rest => do
      let (minutes, rest) ← offsetMinutes rest
      return (-(minutes : Int), rest)
    | _ => none

def date : Part Int := fun text => do
  let (year, rest) ← year text
  let (_, rest) ← separator '-' rest
  let (month, rest) ← number 2 rest
  let (_, rest) ← separator '-' rest
  let (day, rest) ← number 2 rest
  if -262143 ≤ year ∧ year ≤ 262142 ∧ (CivilDate.mk year month day).Exists then
    return ((CivilDate.mk year month day).toDay, rest)
  else none

/-- A time of day, as a second of the day and nanoseconds; second sixty is a leap second. -/
def time : Part (Nat × Nat) := fun text => do
  let (hour, rest) ← number 2 text
  let (_, rest) ← separator ':' rest
  let (minute, rest) ← number 2 rest
  let (_, rest) ← separator ':' rest
  let (second, rest) ← number 2 rest
  let (nano, rest) ← fraction rest
  if hour < 24 ∧ minute < 60 ∧ second ≤ 60 then
    let leap := if second = 60 then 1 else 0
    return ((hour * 3600 + minute * 60 + (second - leap), nano + leap * 1000000000), rest)
  else none

/-- The instant whose local date and time are given, `offset` minutes ahead of universal time. -/
def shift (day : Int) (secondOfDay nano : Nat) (offset : Int) : Option Instant :=
  let seconds := day * 86400 + secondOfDay - offset * 60
  of? (seconds / 86400) (seconds % 86400).toNat nano

end Reader

def ofChars? (text : List Char) : Option Instant := do
  let (day, rest) ← Reader.date text
  let (_, rest) ← Reader.dateEnd rest
  let ((second, nano), rest) ← Reader.time rest
  let (offset, rest) ← Reader.offset (Text.skipBlank rest)
  if (Text.skipBlank rest).isEmpty ∧ -1440 < offset ∧ offset < 1440 then
    Reader.shift day second nano offset
  else none

def ofText? (text : String) : Option Instant := ofChars? text.toList

end ArchiveCatalog.Instant
