namespace ArchiveCatalog

/-- A number: an integer of at most 64 bits, or `±digits · 10 ^ exponent` for any other numeral,
minus zero included. -/
inductive Json.Number where
  | integer (value : Int)
  | real (negative : Bool) (digits : Nat) (exponent : Int)
  deriving DecidableEq

/-- A JSON value. Objects keep their fields in the order in which they are written. The content
of a string is missing where it is delimited but stands for no sequence of characters. -/
inductive Json where
  | null
  | bool (value : Bool)
  | number (value : Json.Number)
  | string (content : Option String)
  | array (items : List Json)
  | object (fields : List (Option String × Json))
  deriving Inhabited

namespace Json

def ofInt (value : Int) : Json := .number (.integer value)

def ofNat (value : Nat) : Json := ofInt value

def ofString (content : String) : Json := .string (some content)

def ofOption (value : Option Json) : Json := value.getD .null

def record (fields : List (String × Json)) : Json :=
  .object (fields.map fun field => (some field.1, field.2))

end Json

end ArchiveCatalog
