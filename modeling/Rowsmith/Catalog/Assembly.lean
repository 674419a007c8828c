import Rowsmith.NameMap

/-!
# Catalogs

What is known of the tables of a database: for every table name its columns, in order.
-/

namespace Rowsmith

structure Column where
  name : String
  /-- The database's name of the type; an array type is its element type followed by brackets. -/
  type : String
  nullable : Bool
  deriving DecidableEq, Repr

structure CatalogTable where
  name : String
  columns : List Column
  deriving DecidableEq, Repr

abbrev Catalog := NameMap (List Column)

namespace Catalog

def ofTables (tables : List CatalogTable) : Catalog :=
  NameMap.ofList (tables.map fun table => (table.name, table.columns))

def tables (catalog : Catalog) : List CatalogTable :=
  catalog.entries.map fun (name, columns) => ⟨name, columns⟩

def table? (catalog : Catalog) (name : String) : Option CatalogTable :=
  (catalog.find? name).map fun columns => ⟨name, columns⟩

end Catalog

/-!
# Assembling a catalog

The database lists its tables in one result and the columns of all tables in another, both in any
order. A table belongs to the schema it is listed with, and a name may be listed once only; a
column goes to the table with its name and its schema, at its ordinal position.
-/

structure TableRow where
  schema : String
  table : String
  deriving DecidableEq, Repr

structure ColumnRow where
  schema : String
  table : String
  column : String
  ordinal : Int32
  nullable : String
  dataType : String
  typeName : String
  deriving DecidableEq, Repr

/-- An array is reported without its element type, which is in the name of the array type after
the leading underscores; a type of the user's own is reported under its name only. -/
def ColumnRow.resolvedType (row : ColumnRow) : String :=
  if row.dataType = "ARRAY" then
    String.ofList (row.typeName.toList.dropWhile (· = '_')) ++ "[]"
  else if row.dataType = "USER-DEFINED" then
    row.typeName
  else
    row.dataType

def ColumnRow.toColumn (row : ColumnRow) : Column :=
  ⟨row.column, row.resolvedType, row.nullable = "YES"⟩

/-- A table name that two schemas have. -/
structure AmbiguousTable where
  table : String
  first : String
  second : String
  deriving DecidableEq, Repr

def AmbiguousTable.message (clash : AmbiguousTable) : String :=
  "table " ++ clash.table ++ " exists in schemas " ++ clash.first ++ " and " ++ clash.second

/-- The schema of every table. -/
abbrev Owners := NameMap String

def Owners.collect (owners : Owners) : List TableRow → Except AmbiguousTable Owners
  | [] => .ok owners
  | row :: rest =>
      match owners.find? row.table with
      | some first => .error ⟨row.table, first, row.schema⟩
      | none => Owners.collect (owners.insert row.table row.schema) rest

def ordinalOrder (a b : ColumnRow) : Bool :=
  a.ordinal ≤ b.ordinal

/-- The columns of one table in the order of their positions, and where these are equal in the
order of the rows. -/
def columnsOf (rows : List ColumnRow) (table schema : String) : List Column :=
  ((rows.filter fun row => row.table = table && row.schema = schema).mergeSort ordinalOrder).map
    ColumnRow.toColumn

def assemble (tables : List TableRow) (columns : List ColumnRow) :
    Except AmbiguousTable Catalog :=
  (Owners.collect .empty tables).map fun owners => owners.mapEntries (columnsOf columns)

end Rowsmith
