import ArchiveCatalog.Proofs.RangeScan
import ArchiveCatalog.Sql.Statement
import Mathlib.Data.List.Infix

namespace ArchiveCatalog.Pattern

/-- Whether a text is like a pattern. A percent sign stands for any text and an underscore for any
character; a backslash makes the character after it stand for itself. -/
inductive Like : (pattern text : List Char) → Prop where
  | nil : Like [] []
  | any {pattern text : List Char} (skipped rest : List Char) (parts : text = skipped ++ rest)
    (like : Like pattern rest) : Like ('%' :: pattern) text
  | one {pattern rest : List Char} (c : Char) (like : Like pattern rest) :
    Like ('_' :: pattern) (c :: rest)
  | escaped {pattern rest : List Char} (c : Char) (like : Like pattern rest) :
    Like ('\\' :: c :: pattern) (c :: rest)
  | plain {pattern rest : List Char} {c : Char} (ordinary : isSpecial c = false)
    (like : Like pattern rest) : Like (c :: pattern) (c :: rest)

variable {pattern text : List Char} {c : Char}

private theorem like_escaped_iff :
    Like ('\\' :: c :: pattern) text ↔ ∃ rest, text = c :: rest ∧ Like pattern rest := by
  constructor
  · intro like
    cases like with
    | escaped _ like => exact ⟨_, rfl, like⟩
    | plain ordinary => cases ordinary
  · rintro ⟨rest, rfl, like⟩
    exact .escaped c like

private theorem like_plain_iff (ordinary : isSpecial c = false) :
    Like (c :: pattern) text ↔ ∃ rest, text = c :: rest ∧ Like pattern rest := by
  constructor
  · intro like
    cases like with
    | plain _ like => exact ⟨_, rfl, like⟩
    | _ => cases ordinary
  · rintro ⟨rest, rfl, like⟩
    exact .plain ordinary like

/-- Compare from left to right, and try every rest of the text after a percent sign. -/
def isLike : (pattern text : List Char) → Bool
  | [], text => text.isEmpty
  | c :: pattern, text =>
    if c = '%' then text.tails.any fun rest => isLike pattern rest
    else match text with
      | [] => false
      | first :: rest =>
        if c = '_' then isLike pattern rest
        else if c = '\\' then
          match pattern with
          | [] => false
          | escaped :: pattern => first == escaped && isLike pattern rest
        else first == c && isLike pattern rest

/-- A text is like a pattern exactly if some trial succeeds. -/
theorem isLike_iff (pattern text : List Char) : isLike pattern text = true ↔ Like pattern text := by
  -- the cases of the comparison: no pattern, a percent sign, no text, an underscore, a backslash at
  -- the end, an escaped character and a plain one
  fun_induction isLike pattern text with
  | case1 text =>
    rw [List.isEmpty_iff]
    exact ⟨fun empty => empty ▸ .nil, fun like => by cases like; rfl⟩
  | case2 pattern text ih =>
    simp only [List.any_eq_true, List.mem_tails, ih]
    constructor
    · rintro ⟨rest, ⟨skipped, parts⟩, like⟩
      exact .any skipped rest parts.symm like
    · intro like
      cases like with
      | any skipped rest parts like => exact ⟨rest, ⟨skipped, parts.symm⟩, like⟩
      | plain ordinary => cases ordinary
  | case3 c pattern notAny =>
    refine ⟨fun impossible => (by cases impossible), fun like => ?_⟩
    cases like with
    | any => exact absurd rfl notAny
  | case4 pattern first rest _ ih =>
    rw [ih]
    constructor
    · exact .one first
    · intro like
      cases like with
      | one _ like => exact like
      | plain ordinary => cases ordinary
  | case5 first rest =>
    refine ⟨fun impossible => (by cases impossible), fun like => ?_⟩
    cases like with
    | plain ordinary => cases ordinary
  | case6 first rest escaped pattern _ _ ih =>
    rw [like_escaped_iff, Bool.and_eq_true, beq_iff_eq, ih]
    simp
  | case7 c pattern notAny first rest notOne notEscape ih =>
    have ordinary : isSpecial c = false := by simp [isSpecial, notAny, notOne, notEscape]
    rw [like_plain_iff ordinary, Bool.and_eq_true, beq_iff_eq, ih]
    simp

instance : Decidable (Like pattern text) := decidable_of_iff _ (isLike_iff pattern text)

variable {start : List Char}

/-- The pattern of a character, escaped if it has to be, stands for this character only. -/
theorem like_literal_cons_iff : Like (literal (c :: start) ++ pattern) text ↔
    ∃ rest, text = c :: rest ∧ Like (literal start ++ pattern) rest := by
  rw [literal]
  split
  case isTrue => exact like_escaped_iff
  case isFalse ordinary => exact like_plain_iff (eq_false_of_ne_true ordinary)

private theorem like_literal_append_iff : Like (literal start ++ pattern) text ↔
    ∃ rest, text = start ++ rest ∧ Like pattern rest := by
  induction start generalizing text with
  | nil => simp [literal]
  | cons c start ih =>
    rw [like_literal_cons_iff]
    constructor
    · rintro ⟨_, rfl, like⟩
      obtain ⟨rest, rfl, last⟩ := ih.1 like
      exact ⟨rest, rfl, last⟩
    · rintro ⟨rest, rfl, like⟩
      exact ⟨start ++ rest, rfl, ih.2 ⟨rest, rfl, like⟩⟩

private theorem like_any (text : List Char) : Like ['%'] text :=
  .any text [] (List.append_nil text).symm .nil

theorem like_startsWith_iff : Like (startsWith start) text ↔ start <+: text := by
  rw [startsWith, like_literal_append_iff]
  constructor
  · rintro ⟨rest, rfl, -⟩
    exact List.prefix_append start rest
  · rintro ⟨rest, rfl⟩
    exact ⟨rest, rfl, like_any rest⟩

/-- Special characters of a start stand for themselves. -/
example : Like (startsWith ['%', '_', '\\']) ['%', '_', '\\', 'x'] ∧
    ¬ Like (startsWith ['%', '_', '\\']) ['x', 'y', '\\', 'x'] := by decide

/-- The key of a text that starts so is like the pattern for keys. -/
theorem like_keyStartsWith (begins : start <+: text) :
    Like (keyStartsWith start) (text.take keyLength) := by
  rw [keyStartsWith, like_startsWith_iff]
  exact List.IsPrefix.take begins keyLength

end ArchiveCatalog.Pattern

namespace ArchiveCatalog.Sql

open Pattern

namespace Query

/-- The condition that the key of a URL, which is its first characters, and the URL itself are like
the patterns at two places of a statement, as the statement spells it. -/
def startCondition (keyPlace urlPlace : Nat) : String :=
  "left(uri, " ++ numeral keyLength ++ ") LIKE $" ++ numeral keyPlace ++
    " ESCAPE '\\' AND uri LIKE $" ++ numeral urlPlace ++ " ESCAPE '\\' "

/-- A statement puts URLs to the condition, with these patterns at the places that the condition
names. Places are counted from one. -/
def Tests (query : Query) (keyPattern pattern : List Char) : Prop :=
  ∃ before after keyPlace urlPlace,
    query.text = before ++ startCondition (keyPlace + 1) (urlPlace + 1) ++ after ∧
    query.parameters[keyPlace]? = some (.text (String.ofList keyPattern)) ∧
    query.parameters[urlPlace]? = some (.text (String.ofList pattern))

private theorem exists_startInAu_eq : ∃ before, startInAu = before ++ startCondition 4 3 :=
  ⟨" FROM artifact WHERE namespace = $1 AND auid = $2 AND committed AND ", by decide +kernel⟩

private theorem exists_startAnywhere_eq :
    ∃ before after, startAnywhere = before ++ startCondition 3 2 ++ after :=
  ⟨" FROM artifact WHERE namespace = $1 AND ", "AND committed ", by decide +kernel⟩

/-- The text that a statement searches for at the start of URLs, if it is such a search. -/
def start? : Query → Option String
  | .searchLatest _ _ start => some start
  | .searchAll _ _ start => some start
  | .acrossAusByStart _ start _ => some start
  | _ => none

private theorem tests_of_start? {query : Query} {start : String}
    (searches : query.start? = some start) :
    query.Tests (keyStartsWith start.toList) (startsWith start.toList) := by
  obtain ⟨inAu, ofAu⟩ := exists_startInAu_eq
  obtain ⟨anywhere, rest, ofNs⟩ := exists_startAnywhere_eq
  cases query with
  | searchLatest ns auid =>
    cases searches
    refine ⟨choose "uri" .latest ++ inAu, auOrder, 3, 2, ?_, rfl, rfl⟩
    change choose "uri" .latest ++ startInAu ++ auOrder = _
    rw [ofAu, ← String.append_assoc]
  | searchAll ns auid =>
    cases searches
    refine ⟨choose "uri" .all ++ inAu, auOrder, 3, 2, ?_, rfl, rfl⟩
    change choose "uri" .all ++ startInAu ++ auOrder = _
    rw [ofAu, ← String.append_assoc]
  | acrossAusByStart ns _ selection =>
    cases searches
    refine ⟨choose "uri, auid" selection ++ anywhere, rest ++ crossAuOrder, 2, 1, ?_, rfl, rfl⟩
    change choose "uri, auid" selection ++ startAnywhere ++ crossAuOrder = _
    rw [ofNs]
    simp only [String.append_assoc]
  | _ => cases searches

end Query

/-- Searches by the start of URLs take the start literally. A URL is like the pattern for a start
exactly if it starts so, and then its key is like the pattern for keys. So both conditions together
hold of the URLs that start so, and of no others; and every statement that searches by a start puts
URLs to these two conditions. -/
theorem start_patterns_literal (start url : String) :
    (Like (startsWith start.toList) url.toList ↔ start.toList <+: url.toList) ∧
    (Like (startsWith start.toList) url.toList →
      Like (keyStartsWith start.toList) (url.toList.take keyLength)) ∧
    (Like (keyStartsWith start.toList) (url.toList.take keyLength) ∧
      Like (startsWith start.toList) url.toList ↔ Table.startsWith url start = true) ∧
    ∀ query : Query, query.start? = some start →
      query.Tests (keyStartsWith start.toList) (startsWith start.toList) := by
  have key : Like (startsWith start.toList) url.toList →
      Like (keyStartsWith start.toList) (url.toList.take keyLength) :=
    fun like => like_keyStartsWith (like_startsWith_iff.1 like)
  refine ⟨like_startsWith_iff, key, ?_, fun query => Query.tests_of_start?⟩
  rw [startsWith_iff, ← like_startsWith_iff]
  exact ⟨fun both => both.2, fun like => ⟨key like, like⟩⟩

/-- A start of special characters that is longer than a key. -/
theorem start_patterns_literal_of_long_start :
    let start := String.ofList ('_' :: List.replicate keyLength '%')
    let url := start ++ "x"
    Like (startsWith start.toList) url.toList ∧
      Like (keyStartsWith start.toList) (url.toList.take keyLength) ∧
      (Query.searchAll "ns" "au" start).Tests (keyStartsWith start.toList)
        (startsWith start.toList) := by
  intro start url
  obtain ⟨whole, key, -, statements⟩ := start_patterns_literal start url
  have spelled : url.toList = start.toList ++ "x".toList := String.toList_append
  have begins : start.toList <+: url.toList := ⟨"x".toList, spelled.symm⟩
  exact ⟨whole.2 begins, key (whole.2 begins), statements (.searchAll "ns" "au" start) rfl⟩

end ArchiveCatalog.Sql
