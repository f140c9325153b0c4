import ArchiveCatalog.FixedWidth
import ArchiveCatalog.Json.Basic

namespace ArchiveCatalog.Json

def string? : Json → Option String
  | .string content => content
  | _ => none

def bool? : Json → Option Bool
  | .bool value => some value
  | _ => none

def integer? : Json → Option Int
  | .number (.integer value) => some value
  | _ => none

def naturalBelow? (bound : Nat) (value : Json) : Option Nat := do
  let value ← value.integer?
  if 0 ≤ value ∧ value < bound then some value.toNat else none

def int32? (value : Json) : Option Int32 := value.integer?.bind ArchiveCatalog.int32?

def int64? (value : Json) : Option Int64 := value.integer?.bind ArchiveCatalog.int64?

/-- A missing field and `null` both stand for the absence of an optional value. -/
def optional? (read : Json → Option α) : Option Json → Option (Option α)
  | none => some none
  | some .null => some none
  | some value => (read value).map some

def required? (read : Json → Option α) (field : Option Json) : Option α := field.bind read

/-- The value of a field, if it is given at most once. -/
def single? (name : String) (fields : List (Option String × Json)) : Option (Option Json) :=
  match fields.filter (·.1 == some name) with
  | [] => some none
  | [(_, value)] => some (some value)
  | _ => none

def fields? (names : List String) : Json → Option (List (Option Json))
  | .object fields =>
    if fields.all (·.1.isSome) then names.mapM (single? · fields) else none
  | .array items => if items.length = names.length then some (items.map some) else none
  | _ => none

def onlyFields? (names : List String) (value : Json) : Option (List (Option Json)) :=
  match value with
  | .object fields =>
    if fields.all fun field => names.any (field.1 == some ·) then fields? names value else none
  | _ => fields? names value

/-- A name out of a fixed choice: the string, or an object of that one key with the value
`null`. -/
def choice? : Json → Option String
  | .string content => content
  | .object [(name, .null)] => name
  | _ => none

end ArchiveCatalog.Json
