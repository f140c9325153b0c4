import ArchiveCatalog.Json.Basic
import ArchiveCatalog.Text.Digits

namespace ArchiveCatalog.Json

def escapeChar (c : Char) : List Char :=
  if c = '"' then ['\\', '"']
  else if c = '\\' then ['\\', '\\']
  else if c = '\x08' then ['\\', 'b']
  else if c = '\t' then ['\\', 't']
  else if c = '\n' then ['\\', 'n']
  else if c = '\x0c' then ['\\', 'f']
  else if c = '\r' then ['\\', 'r']
  else if c.toNat < 0x20 then '\\' :: 'u' :: Text.padded 16 4 c.toNat
  else [c]

def quote (content : List Char) : List Char :=
  '"' :: content.flatMap escapeChar ++ ['"']

def Number.chars : Number → List Char
  | .integer value => Text.signedDecimal value
  | .real negative digits exponent =>
    (if negative then ['-'] else []) ++ Text.decimal digits ++ 'e' :: Text.signedDecimal exponent

/-- The written form of a string; one without content is written as the empty string. -/
def stringChars (content : Option String) : List Char :=
  quote ((content.map String.toList).getD [])

mutual

def chars : Json → List Char
  | .null => ['n', 'u', 'l', 'l']
  | .bool true => ['t', 'r', 'u', 'e']
  | .bool false => ['f', 'a', 'l', 's', 'e']
  | .number value => value.chars
  | .string content => stringChars content
  | .array [] => ['[', ']']
  | .array (item :: rest) => '[' :: chars item ++ laterItems rest
  | .object [] => ['\x7b', '\x7d']
  | .object ((key, value) :: rest) =>
    '\x7b' :: stringChars key ++ ':' :: chars value ++ laterFields rest

/-- The items of an array after its first, with its end. -/
def laterItems : List Json → List Char
  | [] => [']']
  | item :: rest => ',' :: chars item ++ laterItems rest

def laterFields : List (Option String × Json) → List Char
  | [] => ['\x7d']
  | (key, value) :: rest => ',' :: stringChars key ++ ':' :: chars value ++ laterFields rest

end

def text (value : Json) : String := String.ofList value.chars

end ArchiveCatalog.Json
