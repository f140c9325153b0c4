namespace ArchiveCatalog.Pattern

def isSpecial (c : Char) : Bool := c == '\\' || c == '%' || c == '_'

/-- The characters of a pattern that matches a text literally. -/
def literal : List Char → List Char
  | [] => []
  | c :: rest => if isSpecial c then '\\' :: c :: literal rest else c :: literal rest

def startsWith (start : List Char) : List Char := literal start ++ ['%']

/-- How many leading characters of a URL the search key keeps. -/
def keyLength : Nat := 2048

/-- The pattern for the search keys of all URLs that start with `start`. -/
def keyStartsWith (start : List Char) : List Char := startsWith (start.take keyLength)

end ArchiveCatalog.Pattern
