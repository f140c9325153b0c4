import ArchiveCatalog.Text.Digits

namespace ArchiveCatalog

/-- A 128-bit identifier, ordered as a number, which is the order of its sixteen bytes. -/
structure Uuid where
  value : BitVec 128
  deriving DecidableEq

namespace Uuid

instance : Ord Uuid := ⟨fun a b => compare a.value b.value⟩

instance : Std.TransOrd Uuid where
  eq_swap {a b} :=
    (Std.OrientedCmp.eq_swap : compare a.value b.value = (compare b.value a.value).swap)
  isLE_trans {a _ c} first second :=
    (Std.TransCmp.isLE_trans first second : (compare a.value c.value).isLE)

instance : Std.LawfulEqOrd Uuid where
  compare_self {a} := (Std.ReflCmp.compare_self : compare a.value a.value = .eq)
  eq_of_compare {a b} same := by
    cases a; cases b
    exact congrArg Uuid.mk (Std.LawfulEqOrd.eq_of_compare same)

def ofNat (n : Nat) : Uuid := ⟨BitVec.ofNat 128 n⟩

def nil : Uuid := ofNat 0

instance : Inhabited Uuid := ⟨nil⟩

def isNil (uuid : Uuid) : Bool := uuid.value.toNat == 0

def digits (uuid : Uuid) : List Char := Text.padded 16 32 uuid.value.toNat

def hyphenate (digits : List Char) : List Char :=
  digits.take 8 ++ '-' :: (digits.drop 8).take 4 ++ '-' :: (digits.drop 12).take 4 ++
    '-' :: (digits.drop 16).take 4 ++ '-' :: digits.drop 20

/-- The written form: lower-case digits in five groups. -/
def chars (uuid : Uuid) : List Char := hyphenate uuid.digits

def text (uuid : Uuid) : String := String.ofList uuid.chars

/-- The last twelve digits, enough to tell a few identifiers apart. -/
def shortText (uuid : Uuid) : String := String.ofList (uuid.digits.drop 20)

def ofDigits? (text : List Char) : Option Uuid :=
  if text.length = 32 then (Text.ofHex? text).map ofNat else none

def ofHyphenated? (text : List Char) : Option Uuid :=
  if text.length = 36 then
    let digits := text.take 8 ++ (text.drop 9).take 4 ++ (text.drop 14).take 4 ++
      (text.drop 19).take 4 ++ text.drop 24
    if [text[8]?, text[13]?, text[18]?, text[23]?].all (· == some '-') then ofDigits? digits
    else none
  else none

/-- Read any accepted form: bare digits, hyphenated, hyphenated in braces, or a URN. -/
def ofChars? (text : List Char) : Option Uuid :=
  match text with
  | '\x7b' :: rest =>
    if rest.getLast? = some '\x7d' then ofHyphenated? rest.dropLast else none
  | 'u' :: 'r' :: 'n' :: ':' :: 'u' :: 'u' :: 'i' :: 'd' :: ':' :: rest => ofHyphenated? rest
  | _ => if text.length = 32 then ofDigits? text else ofHyphenated? text

def ofText? (text : String) : Option Uuid := ofChars? text.toList

/-- The sixteen bytes, most significant first. -/
def bytes (uuid : Uuid) : List UInt8 := Text.lastBytes 16 uuid.value.toNat

def ofBytes? (bytes : List UInt8) : Option Uuid :=
  if bytes.length = 16 then some (ofNat (Text.ofDigits 256 (bytes.map (·.toNat)))) else none

end Uuid

end ArchiveCatalog
