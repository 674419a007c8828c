import Rowsmith.Decimal
import Rowsmith.Statement.Builder
import Rowsmith.Text.Quoted
import Rowsmith.Value.Basic

/-!
# Texts for a programmer

How values and statements under construction are shown.
-/

namespace Rowsmith

open Text Decimal

/-!
# The text of a value

Texts are quoted, lists stand in square brackets, and an optional value says whether it is there.
-/

def bracketed (items : List String) : String :=
  "[" ++ ", ".intercalate items ++ "]"

def Datum.display : Datum → String
  | .bool b => if b then "true" else "false"
  | .int8 n => toString n.toInt
  | .int16 n => toString n.toInt
  | .int32 n => toString n.toInt
  | .int64 n => toString n.toInt
  | .oid n => toString n.toNat
  | .float32 bits => standardFormat.text binary32 bits.toNat
  | .float64 bits => standardFormat.text binary64 bits.toNat
  | .text s => quote s
  | .bytes octets => bracketed (octets.map fun octet => toString octet.toNat)
  | .int32List ns => bracketed (ns.map fun n => toString n.toInt)
  | .textList ss => bracketed (ss.map quote)

def Value.display : Value → String
  | .required d => d.display
  | .present d => "Some(" ++ d.display ++ ")"
  | .absent _ => "None"

/-!
# Summaries of statements for a programmer

One line that shows the state of a statement under construction: its columns, and the condition
tree of a SELECT or the count of rows of an INSERT.
-/

/-- A constructor with named parts. -/
def summaryOf (name : String) (parts : List (String × String)) : String :=
  name ++ " \x7b " ++ ", ".intercalate (parts.map fun (label, text) => label ++ ": " ++ text) ++
    " \x7d"

def Operand.summary : Operand → String
  | .value v => "Value(" ++ v.display ++ ")"
  | .group vs => "Group(" ++ bracketed (vs.map Value.display) ++ ")"

mutual

def Condition.summary : Condition → String
  | .compare operator column operand =>
      summaryOf "Compare"
        [("op", quote operator), ("column", quote column), ("operand", operand.summary)]
  | .logical operator conditions =>
      summaryOf "Logical"
        [("op", quote operator), ("conditions", bracketed (Condition.summaries conditions))]

def Condition.summaries : List Condition → List String
  | [] => []
  | c :: rest => c.summary :: Condition.summaries rest

end

def Select.summary (select : Select) : String :=
  summaryOf "SelectBuilder"
    [("columns", bracketed (select.columns.map quote)),
      ("has_from", if select.table.isSome then "true" else "false"),
      ("filter",
        match select.filter with
        | none => "None"
        | some condition => "Some(" ++ condition.summary ++ ")")]

def Insert.summary (insert : Insert) : String :=
  summaryOf "InsertBuilder"
    [("columns", bracketed (insert.columns.map quote)), ("rows", toString insert.rows.length)]

end Rowsmith
