import Rowsmith.Record.Scan
import Rowsmith.Statement.Fragment

/-!
# SELECT and INSERT statements

Either is put together by calls, in any order, and written at the end.
-/

namespace Rowsmith

/-!
# SELECT statements

Columns, an optional table and an optional condition, written in this order whatever the order of
the calls that set them. An empty column list selects everything.
-/

structure Select where
  columns : List String
  table : Option Table := none
  filter : Option Condition := none

namespace Select

def reading (select : Select) (table : Table) : Select :=
  { select with table := some table }

/-- The conjunction of the conditions takes the place of any earlier filter. -/
def filtering (select : Select) (conditions : List Condition) : Select :=
  { select with filter := some (Condition.all conditions) }

def writeTable : Option Table → Writing Unit
  | none => pure ()
  | some table => do
      Writing.put " FROM "
      table.write

def writeFilter : Option Condition → Writing Unit
  | none => pure ()
  | some condition => do
      Writing.put " WHERE "
      condition.write

def write (select : Select) : Writing Unit := do
  Writing.put
    ("SELECT " ++ if select.columns.isEmpty then "*" else ", ".intercalate select.columns)
  writeTable select.table
  writeFilter select.filter

def compile (select : Select) : Except Failure Statement :=
  Writing.compile select.write

end Select

/-- A SELECT as a table, in parentheses and named. -/
def Table.subquery (select : Select) (name : String) : Table :=
  Table.aliased select.write name

/-!
# INSERT statements

A table, a column list and rows. A row is a list of values, a record, or anything else of the
caller's own that can be asked for values; a row of the last two kinds is asked for the values of
the column list when the statement is written, so the last column list counts wherever it was set.
-/

/-- What is asked for the values of some columns; no names stand for all of them. -/
abbrev ValueSource := List String → Except Failure (List Value)

inductive InsertRow where
  | values (vs : List Value)
  | record (source : Record)
  | custom (source : ValueSource)

def InsertRow.pull (columns : List String) : InsertRow → Except Failure (List Value)
  | .values vs => .ok vs
  | .record source => source.values columns
  | .custom source => source columns

structure Insert where
  table : Table
  columns : List String := []
  rows : List InsertRow := []

namespace Insert

def withColumns (insert : Insert) (columns : List String) : Insert :=
  { insert with columns := columns }

def addValues (insert : Insert) (vs : List Value) : Insert :=
  { insert with rows := insert.rows ++ [.values vs] }

def addRecords (insert : Insert) (records : List Record) : Insert :=
  { insert with rows := insert.rows ++ records.map .record }

def addSources (insert : Insert) (sources : List ValueSource) : Insert :=
  { insert with rows := insert.rows ++ sources.map .custom }

def writeRow (columns : List String) (row : InsertRow) : Writing Unit :=
  match row.pull columns with
  | .error failure => throw failure
  | .ok vs => do
      Writing.put "("
      Writing.bindValues vs
      Writing.put ")"

def writeRows (columns : List String) : List InsertRow → Writing Unit
  | [] => pure ()
  | [row] => writeRow columns row
  | row :: rest => do
      writeRow columns row
      Writing.put ","
      writeRows columns rest

def columnList (columns : List String) : String :=
  if columns.isEmpty then "" else " (" ++ ",".intercalate columns ++ ")"

def write (insert : Insert) : Writing Unit := do
  if insert.rows.isEmpty then
    throw .noRows
  else
    Writing.put "INSERT INTO "
    insert.table.write
    Writing.put (columnList insert.columns ++ " VALUES ")
    writeRows insert.columns insert.rows

def compile (insert : Insert) : Except Failure Statement :=
  Writing.compile insert.write

end Insert

end Rowsmith
