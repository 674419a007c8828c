import Rowsmith.Text.Alphanumeric
import Rowsmith.Text.Basic
import Rowsmith.Text.CaseMapping

/-!
# Names and identifiers

The words of a name and the styles they are joined in, and the identifiers made from the names of a
database.
-/

namespace Rowsmith

/-!
# Words of a name and the styles they are joined in

A name is cut at every character that is neither letter nor digit, and then at changes of letter
case: after a small letter that a capital follows, and before the last capital of a run of
capitals that a small letter follows. `HTTPServer_id` has the words `HTTP`, `Server` and `id`.
-/

namespace Text

/-- What the current word showed last, digits and letters without case set aside. -/
inductive CaseTrend where
  | unknown
  | small
  | capital
  deriving DecidableEq, Repr

def CaseTrend.after (trend : CaseTrend) (c : Char) : CaseTrend :=
  if isLower c then .small else if isUpper c then .capital else trend

/-- The second argument is the word being read, last character first. -/
def splitByCase : CaseTrend → List Char → List Char → List (List Char)
  | _, [], [] => []
  | _, word, [] => [word.reverse]
  | _, word, [c] => [(c :: word).reverse]
  | trend, word, c :: next :: rest =>
      if trend.after c = .small ∧ isUpper next then
        (c :: word).reverse :: splitByCase .unknown [] (next :: rest)
      else if trend = .capital ∧ isUpper c ∧ isLower next then
        word.reverse :: splitByCase .unknown [c] (next :: rest)
      else
        splitByCase (trend.after c) (c :: word) (next :: rest)

/-- The maximal runs of letters and digits; the first argument is the run being read, last
character first. -/
def alphanumericRuns : List Char → List Char → List (List Char)
  | [], [] => []
  | run, [] => [run.reverse]
  | run, c :: rest =>
      if isAlphanumeric c then
        alphanumericRuns (c :: run) rest
      else if run.isEmpty then
        alphanumericRuns [] rest
      else
        run.reverse :: alphanumericRuns [] rest

def nameWords (cs : List Char) : List (List Char) :=
  (alphanumericRuns [] cs).flatMap (splitByCase .unknown [])

/-!
## Styles
-/

def capitalize : List Char → List Char
  | [] => []
  | c :: rest => toUpper c ++ rest.flatMap toLower

def snakeCase (cs : List Char) : List Char :=
  ['_'].intercalate ((nameWords cs).map (·.flatMap toLower))

def shoutySnakeCase (cs : List Char) : List Char :=
  ['_'].intercalate ((nameWords cs).map (·.flatMap toUpper))

def upperCamelCase (cs : List Char) : List Char :=
  (nameWords cs).flatMap capitalize

end Text

open Text

/-!
# Identifiers for names of the database

A database name may hold any character; the identifiers made from it consist of ASCII letters,
digits and underscores and do not begin with a digit. An identifier for a field or a module is in
snake case, and one that is a keyword is marked as raw. Three keywords cannot be marked and get an
underscore at the end.
-/

def isAsciiAlphanumeric (c : Char) : Bool :=
  isDigit c || ('a' ≤ c && c ≤ 'z') || ('A' ≤ c && c ≤ 'Z')

/-- Every other character becomes an underscore. -/
def asciiWord (name : List Char) : List Char :=
  name.map fun c => if isAsciiAlphanumeric c then c else '_'

def orElse (fallback : String) (word : List Char) : List Char :=
  if word.isEmpty then fallback.toList else word

def guardDigit : List Char → List Char
  | [] => []
  | c :: rest => if isDigit c then '_' :: c :: rest else c :: rest

def keywords : List String :=
  ["as", "async", "await", "break", "const", "continue", "dyn", "else", "enum", "extern", "false",
    "fn", "for", "gen", "if", "impl", "in", "let", "loop", "match", "mod", "move", "mut", "pub",
    "ref", "return", "static", "struct", "trait", "true", "type", "unsafe", "use", "where",
    "while"]

/-- The keywords that have no raw form. -/
def pathKeywords : List String := ["crate", "self", "super"]

structure Identifier where
  word : String
  raw : Bool
  deriving DecidableEq, Repr

def Identifier.text (identifier : Identifier) : String :=
  if identifier.raw then "r#" ++ identifier.word else identifier.word

/-- The word of a field or module before keywords are looked at. -/
def fieldWord (name : String) : String :=
  String.ofList (guardDigit (orElse "column" (snakeCase (asciiWord name.toList))))

def Identifier.ofName (name : String) : Identifier :=
  let word := fieldWord name
  if pathKeywords.contains word then ⟨word ++ "_", false⟩
  else ⟨word, keywords.contains word⟩

/-!
## Names of structs and constants
-/

def typeWord (name : List Char) : List Char :=
  guardDigit (orElse "_" (asciiWord name))

def structName (table : String) : String :=
  let camel := upperCamelCase table.toList
  let word := if camel.isEmpty then "Table" else String.ofList (typeWord camel)
  if word = "Self" then "Self_" else word

/-- The constant that holds the table itself is never the name of a column's. -/
def constantName (column : String) : String :=
  let word := String.ofList
    (guardDigit (orElse "COLUMN" (shoutySnakeCase (typeWord column.toList))))
  if word = "TABLE" then "TABLE_COLUMN" else word

end Rowsmith
