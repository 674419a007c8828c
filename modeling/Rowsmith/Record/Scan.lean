import Rowsmith.Failure

/-!
# Records and result rows

Fields under their columns, requests for them, and the rows that are bound to them.
-/

namespace Rowsmith

/-!
# Fields and requests

A record is a list of fields, each registered under a column. A request names columns; an empty
request means every field. Where two fields have the same column, the first is the one found.

A request for targets hands every field out at most once, since two cells cannot be scanned into
one field; a request for values may name a column again. A record may withhold targets from the
end of what was requested.
-/

structure Field where
  column : String
  value : Value
  deriving DecidableEq, Repr

structure Record where
  fields : List Field
  withheld : Nat := 0
  deriving DecidableEq, Repr

namespace Record

def fieldValues (record : Record) : List Value :=
  record.fields.map (·.value)

/-- The position of the first field registered under the column. -/
def position? (record : Record) (column : String) : Option Nat :=
  record.fields.findIdx? (·.column == column)

def field? (record : Record) (column : String) : Option Field :=
  record.fields.find? (·.column == column)

/-!
## Targets
-/

/-- The first list holds the positions already handed out. -/
def claimTargets (record : Record) : List Nat → List String → Except Failure (List Nat)
  | _, [] => .ok []
  | claimed, column :: rest =>
      match record.position? column with
      | none => .error (.unknownColumn column)
      | some position =>
          if position ∈ claimed then .error (.duplicateColumn column)
          else (position :: ·) <$> claimTargets record (position :: claimed) rest

def selectTargets (record : Record) (columns : List String) : Except Failure (List Nat) :=
  if columns.isEmpty then .ok (List.range record.fields.length)
  else claimTargets record [] columns

/-- The positions of the fields a request scans into, in the order of the request. -/
def targets (record : Record) (columns : List String) : Except Failure (List Nat) :=
  (selectTargets record columns).map fun positions =>
    positions.take (positions.length - record.withheld)

/-!
## Values
-/

def pickValues (record : Record) : List String → Except Failure (List Value)
  | [] => .ok []
  | column :: rest =>
      match record.field? column with
      | none => .error (.unknownColumn column)
      | some field => (field.value :: ·) <$> pickValues record rest

def values (record : Record) (columns : List String) : Except Failure (List Value) :=
  if columns.isEmpty then .ok record.fieldValues
  else pickValues record columns

/-!
## Changing a field
-/

def setValue (record : Record) (position : Nat) (v : Value) : Record :=
  { record with fields := record.fields.modify position fun field => { field with value := v } }

end Record

open Text

/-!
# Binding result rows

The cells of a row are bound to the fields that have the names of their columns. All targets are
resolved before the first cell is scanned; after that the cells are scanned in order, and a failure
leaves the fields scanned so far with their new values.
-/

structure Cell where
  column : String
  type : PgType
  raw : Option Bytes
  deriving DecidableEq, Repr

abbrev Row := List Cell

def Row.columns (row : Row) : List String :=
  row.map (·.column)

abbrev Scanning := EStateM Failure Record

namespace Scanning

/-- The cell scanned into the field at the position; the column named in an error is the
requested one. -/
def scanCell (column : String) (position : Nat) (cell : Cell) : Scanning Unit := do
  let record ← get
  match record.fields[position]? with
  | none => pure ()
  | some field =>
      match field.value.scan cell.type cell.raw with
      | .ok v => set (record.setValue position v)
      | .error cause => throw (.decode column cause)

/-- The requested columns with their targets, against the cells that are left, the first of which
has the given index. -/
def scanCells : Nat → List (String × Nat) → Row → Scanning Unit
  | _, [], _ => pure ()
  | index, _ :: _, [] => throw (.columnIndex index)
  | index, (column, position) :: rest, cell :: cells => do
      scanCell column position cell
      scanCells (index + 1) rest cells

/-- How records answer a request for the targets of columns. -/
abbrev Resolver := Record → List String → Except Failure (List Nat)

def resolve (resolver : Resolver) (columns : List String) : Scanning (List Nat) := do
  match resolver (← get) columns with
  | .ok positions => pure positions
  | .error failure => throw failure

/-- One row under the given column names; no names bind nothing. -/
def scanRowWith (resolver : Resolver) (row : Row) (columns : List String) : Scanning Unit := do
  if columns.isEmpty then
    pure ()
  else
    let positions ← resolve resolver columns
    if positions.length = columns.length then
      scanCells 0 (columns.zip positions) row
    else
      throw (.targetCount columns.length positions.length)

def scanRow (row : Row) (columns : List String) : Scanning Unit :=
  scanRowWith Record.targets row columns

/-- The first row; later rows are ignored. -/
def scanFirst : List Row → Scanning Unit
  | [] => throw .noResult
  | first :: _ => scanRow first first.columns

end Scanning

/-!
## Scanning target by target

Each cell into its target, whatever became of the ones before it.
-/

def Record.scanEach (record : Record) : List Nat → Row → Record × List (Except ScanError Unit)
  | position :: positions, cell :: cells =>
      match record.fields[position]? with
      | none => record.scanEach positions cells
      | some field =>
          match field.value.scan cell.type cell.raw with
          | .ok v =>
              let (record, outcomes) := (record.setValue position v).scanEach positions cells
              (record, .ok () :: outcomes)
          | .error cause =>
              let (record, outcomes) := record.scanEach positions cells
              (record, .error cause :: outcomes)
  | _, _ => (record, [])

/-!
## Collecting rows
-/

abbrev Collecting := EStateM Failure (List Record)

namespace Collecting

/-- A fresh record bound to the row goes to the end of the list. -/
def collectRow (fresh : Record) (columns : List String) (row : Row) : Collecting Unit :=
  match (Scanning.scanRow row columns).run fresh with
  | .ok _ record => modify (· ++ [record])
  | .error failure _ => throw failure

def collectAll (fresh : Record) (columns : List String) : List Row → Collecting Unit
  | [] => pure ()
  | row :: rest => do
      collectRow fresh columns row
      collectAll fresh columns rest

/-- The names come from the first row and hold for all. -/
def scanRows (fresh : Record) : List Row → Collecting Unit
  | [] => pure ()
  | first :: rest => collectAll fresh first.columns (first :: rest)

end Collecting

end Rowsmith
