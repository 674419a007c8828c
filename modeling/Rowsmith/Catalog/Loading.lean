import Rowsmith.Catalog.Assembly
import Rowsmith.Session.Basic

/-!
# Loading a catalog

Two queries ask a database for the tables and the columns of the wanted schemas. The result of
each is bound to records like that of any other query.
-/

namespace Rowsmith

def textField (column : String) : Field :=
  ⟨column, .required (.text "")⟩

def TableRow.fresh : Record :=
  { fields := ["table_schema", "table_name"].map textField }

def TableRow.ofRecord? (record : Record) : Option TableRow :=
  match record.fieldValues with
  | [.required (.text schema), .required (.text table)] => some ⟨schema, table⟩
  | _ => none

def ColumnRow.fresh : Record :=
  { fields :=
      ["table_schema", "table_name", "column_name"].map textField ++
        ⟨"ordinal_position", .required (.int32 0)⟩ ::
          ["is_nullable", "data_type", "udt_name"].map textField }

def ColumnRow.ofRecord? (record : Record) : Option ColumnRow :=
  match record.fieldValues with
  | [.required (.text schema), .required (.text table), .required (.text column),
      .required (.int32 ordinal), .required (.text nullable), .required (.text dataType),
      .required (.text typeName)] =>
      some ⟨schema, table, column, ordinal, nullable, dataType, typeName⟩
  | _ => none

/-!
# Queries
-/

def inSchemas (schemas : List String) : Condition :=
  .isIn "table_schema::text" (schemas.map fun schema => .required (.text schema))

def tablesQuery (schemas : List String) : Select :=
  Select.filtering
    (Select.reading
      { columns := ["table_schema::text AS table_schema", "table_name::text AS table_name"] }
      (.named "information_schema.tables"))
    [inSchemas schemas]

def columnsQuery (schemas : List String) : Select :=
  Select.filtering
    (Select.reading
      { columns :=
          ["table_schema::text AS table_schema", "table_name::text AS table_name",
            "column_name::text AS column_name", "ordinal_position::int4 AS ordinal_position",
            "is_nullable::text AS is_nullable", "data_type::text AS data_type",
            "udt_name::text AS udt_name"] }
      (.named "information_schema.columns"))
    [inSchemas schemas]

/-!
# Loading
-/

inductive LoadError where
  | tables (failure : Failure)
  | columns (failure : Failure)
  | ambiguous (clash : AmbiguousTable)
  deriving DecidableEq, Repr

def LoadError.message : LoadError → String
  | .tables failure => "failed to load tables: " ++ failure.message
  | .columns failure => "failed to load columns: " ++ failure.message
  | .ambiguous clash => clash.message

/-- The replies of a server to the two queries. -/
structure CatalogReplies where
  tables : Reply
  columns : Reply
  deriving DecidableEq, Repr

structure LoadReport where
  result : Except LoadError Catalog
  deliveries : List Delivery

def loadCatalog (schemas : List String) (replies : CatalogReplies) : LoadReport :=
  let (tables, state) :=
    Database.server.query replies.tables (tablesQuery schemas) TableRow.fresh []
      Database.server.initial
  match tables.result with
  | .error failure => ⟨.error (.tables failure), tables.deliveries⟩
  | .ok () =>
      let (columns, _) :=
        Database.server.query replies.columns (columnsQuery schemas) ColumnRow.fresh [] state
      let deliveries := tables.deliveries ++ columns.deliveries
      match columns.result with
      | .error failure => ⟨.error (.columns failure), deliveries⟩
      | .ok () =>
          ⟨(assemble (tables.target.filterMap TableRow.ofRecord?)
              (columns.target.filterMap ColumnRow.ofRecord?)).mapError .ambiguous,
            deliveries⟩

end Rowsmith
