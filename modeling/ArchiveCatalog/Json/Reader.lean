import ArchiveCatalog.Json.Basic
import ArchiveCatalog.Text.Digits
import ArchiveCatalog.Text.Utf8

/-! Reading JSON from decoded text, in exactly the grammar of the format. A string with gaps of the
decoding, or with escapes that pair up to no character, is read as a string without content. -/

namespace ArchiveCatalog.Json.Reader

abbrev Input := List Text.Glyph

def isBlank (glyph : Text.Glyph) : Bool :=
  [some ' ', some '\n', some '\t', some '\r'].contains glyph

def skipBlank (input : Input) : Input := input.dropWhile isBlank

def escaped? (c : Char) : Option Char :=
  if c = '"' then some '"'
  else if c = '\\' then some '\\'
  else if c = '/' then some '/'
  else if c = 'b' then some '\x08'
  else if c = 'f' then some '\x0c'
  else if c = 'n' then some '\n'
  else if c = 'r' then some '\r'
  else if c = 't' then some '\t'
  else none

/-- The value of the four hexadecimal digits of an escape. -/
def unit? (a b c d : Text.Glyph) : Option Nat := do
  Text.ofHex? [← a, ← b, ← c, ← d]

def isHighSurrogate (unit : Nat) : Bool := 0xD800 ≤ unit && unit < 0xDC00

def isLowSurrogate (unit : Nat) : Bool := 0xDC00 ≤ unit && unit < 0xE000

def pair (high low : Nat) : Char :=
  Char.ofNat (0x10000 + (high - 0xD800) * 0x400 + (low - 0xDC00))

/-- The rest of a string after its opening mark. `read` holds the characters so far, last first;
`sound` says whether all of them made characters. -/
def stringRest (sound : Bool) (read : List Char) : Input → Option (Option String × Input)
  | some '"' :: rest => some (if sound then some (String.ofList read.reverse) else none, rest)
  | some '\\' :: some 'u' :: a :: b :: c :: d :: rest =>
    match unit? a b c d with
    | none => none
    | some unit =>
      if isHighSurrogate unit then
        match rest with
        | some '\\' :: some 'u' :: e :: f :: g :: h :: after =>
          match unit? e f g h with
          | none => none
          | some low =>
            if isLowSurrogate low then stringRest sound (pair unit low :: read) after
            else stringRest false read after
        | rest => stringRest false read rest
      else if isLowSurrogate unit then stringRest false read rest
      else stringRest sound (Char.ofNat unit :: read) rest
  | some '\\' :: some c :: rest =>
    match escaped? c with
    | none => none
    | some c => stringRest sound (c :: read) rest
  | some '\\' :: _ => none
  | some c :: rest => if c.toNat < 0x20 then none else stringRest sound (c :: read) rest
  | none :: rest => stringRest false read rest
  | [] => none

def digits (input : Input) : List Nat × Input :=
  let run := input.takeWhile fun glyph => (glyph.bind Text.decimalValue?).isSome
  (run.filterMap fun glyph => glyph.bind Text.decimalValue?, input.drop run.length)

/-- The digits before the point: a zero alone, or a run that starts with another digit. -/
def wholePart : Input → Option (List Nat × Input)
  | some '0' :: rest => some ([0], rest)
  | input =>
    let (run, rest) := digits input
    if run.isEmpty then none else some (run, rest)

def fractionPart : Input → Option (Option (List Nat) × Input)
  | some '.' :: rest =>
    let (run, rest) := digits rest
    if run.isEmpty then none else some (some run, rest)
  | input => some (none, input)

def exponentDigits (negative : Bool) (input : Input) : Option (Option Int × Input) :=
  let (run, rest) := digits input
  if run.isEmpty then none
  else
    let size : Int := Text.ofDigits 10 run
    some (some (if negative then -size else size), rest)

def exponentSigned : Input → Option (Option Int × Input)
  | some '-' :: rest => exponentDigits true rest
  | some '+' :: rest => exponentDigits false rest
  | input => exponentDigits false input

def exponentPart : Input → Option (Option Int × Input)
  | some 'e' :: rest => exponentSigned rest
  | some 'E' :: rest => exponentSigned rest
  | input => some (none, input)

/-- A numeral without fraction and exponent, minus zero apart, is an integer if it fits in 64
bits; every other one is a real number. -/
def makeNumber (negative : Bool) (whole : List Nat) (fraction : Option (List Nat))
    (exponent : Option Int) : Number :=
  match fraction, exponent with
  | none, none =>
    let size := Text.ofDigits 10 whole
    let value : Int := if negative then -(size : Int) else size
    if (negative ∧ size = 0) ∨ value < Int64.minValue.toInt ∨ UInt64.size ≤ value then
      .real negative size 0
    else .integer value
  | fraction, exponent =>
    let after := fraction.getD []
    .real negative (Text.ofDigits 10 (whole ++ after)) (exponent.getD 0 - after.length)

def unsigned (negative : Bool) (input : Input) : Option (Number × Input) := do
  let (whole, rest) ← wholePart input
  let (fraction, rest) ← fractionPart rest
  let (exponent, rest) ← exponentPart rest
  return (makeNumber negative whole fraction exponent, rest)

def number : Input → Option (Number × Input)
  | some '-' :: rest => unsigned true rest
  | input => unsigned false input

mutual

/-- A value and what follows it. `fuel` bounds the nesting and the number of steps. -/
def value : (fuel : Nat) → Input → Option (Json × Input)
  | 0, _ => none
  | fuel + 1, input =>
    match skipBlank input with
    | some 'n' :: some 'u' :: some 'l' :: some 'l' :: rest => some (.null, rest)
    | some 't' :: some 'r' :: some 'u' :: some 'e' :: rest => some (.bool true, rest)
    | some 'f' :: some 'a' :: some 'l' :: some 's' :: some 'e' :: rest => some (.bool false, rest)
    | some '"' :: rest =>
      (stringRest true [] rest).map fun (content, rest) => (.string content, rest)
    | some '[' :: rest =>
      match skipBlank rest with
      | some ']' :: rest => some (.array [], rest)
      | rest => items fuel [] rest
    | some '\x7b' :: rest =>
      match skipBlank rest with
      | some '\x7d' :: rest => some (.object [], rest)
      | rest => fields fuel [] rest
    | input => (number input).map fun (number, rest) => (.number number, rest)

/-- The items of an array from one of them on; `read` holds the earlier ones, last first. -/
def items : (fuel : Nat) → List Json → Input → Option (Json × Input)
  | 0, _, _ => none
  | fuel + 1, read, input =>
    match value fuel input with
    | none => none
    | some (item, rest) =>
      match skipBlank rest with
      | some ',' :: rest => items fuel (item :: read) rest
      | some ']' :: rest => some (.array (item :: read).reverse, rest)
      | _ => none

def fields : (fuel : Nat) → List (Option String × Json) → Input → Option (Json × Input)
  | 0, _, _ => none
  | fuel + 1, read, input =>
    match skipBlank input with
    | some '"' :: rest =>
      match stringRest true [] rest with
      | none => none
      | some (key, rest) =>
        match skipBlank rest with
        | some ':' :: rest =>
          match value fuel rest with
          | none => none
          | some (item, rest) =>
            match skipBlank rest with
            | some ',' :: rest => fields fuel ((key, item) :: read) rest
            | some '\x7d' :: rest => some (.object ((key, item) :: read).reverse, rest)
            | _ => none
        | _ => none
    | _ => none

end

end Reader

def ofGlyphs? (input : List Text.Glyph) : Option Json :=
  match Reader.value (2 * input.length + 2) input with
  | none => none
  | some (value, rest) => if (Reader.skipBlank rest).isEmpty then some value else none

def ofText? (text : String) : Option Json := ofGlyphs? (text.toList.map some)

def ofBytes? (bytes : List UInt8) : Option Json := ofGlyphs? (Text.decode bytes)

end ArchiveCatalog.Json
