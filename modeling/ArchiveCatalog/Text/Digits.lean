namespace ArchiveCatalog.Text

def decimal (n : Nat) : List Char :=
  if _ : n < 10 then [Nat.digitChar n]
  else decimal (n / 10) ++ [Nat.digitChar (n % 10)]
termination_by n
decreasing_by omega

/-- A signed decimal numeral; only negative numbers carry a sign. -/
def signedDecimal : Int → List Char
  | .ofNat n => decimal n
  | .negSucc n => '-' :: decimal (n + 1)

/-- The values of the last `width` digits of a number in a base, zeros included. -/
def lastDigits (base : Nat) : (width : Nat) → Nat → List Nat
  | 0, _ => []
  | width + 1, n => lastDigits base width (n / base) ++ [n % base]

def padded (base width n : Nat) : List Char := (lastDigits base width n).map Nat.digitChar

def lastBytes (width n : Nat) : List UInt8 := (lastDigits 256 width n).map UInt8.ofNat

/-- A decimal numeral of at least `width` digits. -/
def widened (width n : Nat) : List Char :=
  let digits := decimal n
  List.replicate (width - digits.length) '0' ++ digits

/-- The value of a digit; letters of either case stand for ten to fifteen. -/
def hexValue? (c : Char) : Option Nat :=
  if '0' ≤ c ∧ c ≤ '9' then some (c.toNat - 48)
  else if 'a' ≤ c ∧ c ≤ 'f' then some (c.toNat - 87)
  else if 'A' ≤ c ∧ c ≤ 'F' then some (c.toNat - 55)
  else none

def decimalValue? (c : Char) : Option Nat :=
  if '0' ≤ c ∧ c ≤ '9' then some (c.toNat - 48) else none

def isDecimal (c : Char) : Bool := (decimalValue? c).isSome

/-- The number that a row of digit values writes in a base. -/
def ofDigits (base : Nat) (digits : List Nat) : Nat :=
  digits.foldl (fun value digit => value * base + digit) 0

def ofHex? (text : List Char) : Option Nat :=
  (text.mapM hexValue?).map (ofDigits 16)

/-- Read a whole, possibly empty, text as decimal digits. -/
def ofDecimal? (text : List Char) : Option Nat :=
  (text.mapM decimalValue?).map (ofDigits 10)

/-- Read a numeral as a command setting spells it: an optional plus sign, then at least one
ASCII digit, and a value below `bound`. -/
def unsignedSetting? (bound : Nat) (text : String) : Option Nat :=
  let digits := match text.toList with
    | '+' :: rest => rest
    | all => all
  if digits.isEmpty then none
  else (ofDecimal? digits).filter (· < bound)

def hexOfBytes (bytes : List UInt8) : List Char :=
  bytes.flatMap fun byte => padded 16 2 byte.toNat

def bytesOfHex? : List Char → Option (List UInt8)
  | [] => some []
  | [_] => none
  | high :: low :: rest => do
    let value ← ofHex? [high, low]
    return UInt8.ofNat value :: (← bytesOfHex? rest)

end ArchiveCatalog.Text
