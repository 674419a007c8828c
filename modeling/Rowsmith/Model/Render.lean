import Rowsmith.Model.FieldType
import Rowsmith.Model.Identifier
import Rowsmith.Text.Basic
import Rowsmith.Text.Quoted

/-!
# Generated files

What is generated for a catalog, as data and as source text.
-/

namespace Rowsmith

open Text

/-!
# Generated source files

Every table has a model, a struct with one field per column, and a descriptor, an empty struct
with the table's name and columns as constants. An index declares the modules of several tables.
Each of these is data first; its source text is printed from it.
-/

structure ModelField where
  column : String
  identifier : Identifier
  fieldType : String
  deriving DecidableEq, Repr

structure Model where
  table : String
  name : String
  fields : List ModelField
  deriving DecidableEq, Repr

structure DescriptorColumn where
  column : String
  constant : String
  deriving DecidableEq, Repr

structure Descriptor where
  table : String
  name : String
  columns : List DescriptorColumn
  deriving DecidableEq, Repr

/-- The module of a table and the struct that it exports. -/
structure TableNames where
  module : Identifier
  struct : String
  deriving DecidableEq, Repr

def TableNames.of (table : String) : TableNames :=
  ⟨Identifier.ofName table, structName table⟩

/-!
## Parts of files
-/

def header : String :=
  line "// @generated by pggo (pggo-cli)" ++ blankLine

/-!
## Models
-/

/-- A field whose word is not the column's name says which column it holds. -/
def ModelField.lines (field : ModelField) : List String :=
  (if field.identifier.word = field.column then []
    else ["    #[pggo(column = " ++ quote field.column ++ ")]"]) ++
    ["    pub " ++ field.identifier.text ++ ": " ++ field.fieldType ++ ","]

def Model.text (model : Model) : String :=
  header ++
    lines
      (["/// " ++ model.name ++ " represents the " ++ model.table ++ " table.",
          "#[derive(Debug, Clone, Default, pggo::Entity)]",
          "pub struct " ++ model.name ++ " \x7b"] ++
        model.fields.flatMap ModelField.lines ++ ["\x7d"])

/-!
## Descriptors
-/

def Descriptor.tableLine (descriptor : Descriptor) : String :=
  "    pub const TABLE: pggo::TableDef = pggo::TableDef::new(" ++
    quote descriptor.table ++ ", &[" ++
    ", ".intercalate (descriptor.columns.map fun c => quote c.column) ++ "]);"

def DescriptorColumn.line (column : DescriptorColumn) : String :=
  "    pub const " ++ column.constant ++ ": &'static str = " ++ quote column.column ++ ";"

def Descriptor.constantLines (descriptor : Descriptor) : List String :=
  if descriptor.columns.isEmpty then [] else "" :: descriptor.columns.map DescriptorColumn.line

def Descriptor.text (descriptor : Descriptor) : String :=
  header ++
    lines
      (["/// " ++ descriptor.name ++ " describes the " ++ descriptor.table ++ " table.",
          "#[derive(Debug, Clone, Copy, Default)]",
          "pub struct " ++ descriptor.name ++ ";",
          "",
          "impl " ++ descriptor.name ++ " \x7b",
          descriptor.tableLine] ++
        descriptor.constantLines ++
        ["\x7d",
          "",
          "impl pggo::Build for " ++ descriptor.name ++ " \x7b",
          "    fn build(&self, sql: &mut String, args: &mut pggo::ParamList) -> pggo::OrmResult<()> \x7b",
          "        pggo::Build::build(&Self::TABLE, sql, args)",
          "    \x7d",
          "\x7d",
          "",
          "impl pggo::Table for " ++ descriptor.name ++ " \x7b\x7d"])

/-!
## Indexes
-/

def TableNames.moduleLine (names : TableNames) : String :=
  "pub mod " ++ names.module.text ++ ";"

def TableNames.exportLine (names : TableNames) : String :=
  "pub use " ++ names.module.text ++ "::" ++ names.struct ++ ";"

def indexText (tables : List TableNames) : String :=
  lines (tables.map TableNames.moduleLine) ++ (if tables.isEmpty then "" else blankLine) ++
    lines (tables.map TableNames.exportLine)

/-- The index of the models also declares the module of the descriptors. -/
def modelIndex (tables : List TableNames) : String :=
  header ++ line "pub mod schema;" ++ blankLine ++ indexText tables

def descriptorIndex (tables : List TableNames) : String :=
  header ++ indexText tables

/-!
# Rendering a catalog

The files for one table or for all tables of a catalog. Two names of the database may become one
identifier; then nothing is rendered, and the first identifier that comes twice is reported.
-/

structure GeneratedFile where
  path : String
  content : String
  deriving DecidableEq, Repr

inductive RenderError where
  | unknownTable (table : String)
  | duplicateModule (module : Identifier)
  | duplicateField (field : Identifier) (table : String)
  | duplicateConstant (constant table : String)
  deriving DecidableEq, Repr

def RenderError.message : RenderError → String
  | .unknownTable table => "generator: " ++ table ++ " couldn't be found in the schema"
  | .duplicateModule module => "duplicate module name after sanitization: " ++ module.text
  | .duplicateField field table =>
      "duplicate field name after sanitization: " ++ field.text ++ " (table: " ++ table ++ ")"
  | .duplicateConstant constant table =>
      "duplicate column constant after sanitization: " ++ constant ++ " (table: " ++ table ++ ")"

/-- The first member that equals an earlier one; the first list holds what was seen before. -/
def firstRepeated [BEq α] : List α → List α → Option α
  | _, [] => none
  | seen, a :: rest => if seen.contains a then some a else firstRepeated (a :: seen) rest

/-!
## One table
-/

def ModelField.ofColumn (overrides : Overrides) (column : Column) : ModelField :=
  ⟨column.name, Identifier.ofName column.name, overrides.columnType column⟩

def Model.ofTable (overrides : Overrides) (table : CatalogTable) : Except RenderError Model :=
  let fields := table.columns.map (ModelField.ofColumn overrides)
  match firstRepeated [] (fields.map (·.identifier)) with
  | some field => .error (.duplicateField field table.name)
  | none => .ok ⟨table.name, structName table.name, fields⟩

def Descriptor.ofTable (table : CatalogTable) : Except RenderError Descriptor :=
  let columns := table.columns.map fun c => DescriptorColumn.mk c.name (constantName c.name)
  match firstRepeated [] (columns.map (·.constant)) with
  | some constant => .error (.duplicateConstant constant table.name)
  | none => .ok ⟨table.name, structName table.name, columns⟩

def TableNames.modelPath (names : TableNames) : String :=
  names.module.word ++ ".rs"

def TableNames.descriptorPath (names : TableNames) : String :=
  "schema/" ++ names.module.word ++ ".rs"

/-- The model and the descriptor of a table. -/
def renderTable (overrides : Overrides) (table : CatalogTable) :
    Except RenderError (List GeneratedFile) := do
  let names := TableNames.of table.name
  let model ← Model.ofTable overrides table
  let descriptor ← Descriptor.ofTable table
  return [⟨names.modelPath, model.text⟩, ⟨names.descriptorPath, descriptor.text⟩]

/-!
## Several tables
-/

/-- The first list holds the modules of the tables before. -/
def renderTables (overrides : Overrides) :
    List Identifier → List CatalogTable → Except RenderError (List GeneratedFile)
  | _, [] => .ok []
  | seen, table :: rest =>
      let module := Identifier.ofName table.name
      if seen.contains module then
        .error (.duplicateModule module)
      else do
        let files ← renderTable overrides table
        let others ← renderTables overrides (module :: seen) rest
        return files ++ others

def indexFiles (tables : List CatalogTable) : List GeneratedFile :=
  let names := tables.map fun table => TableNames.of table.name
  [⟨"mod.rs", modelIndex names⟩, ⟨"schema/mod.rs", descriptorIndex names⟩]

def renderOne (overrides : Overrides) (catalog : Catalog) (table : String) :
    Except RenderError (List GeneratedFile) :=
  match catalog.table? table with
  | none => .error (.unknownTable table)
  | some table => renderTable overrides table

def renderAll (overrides : Overrides) (catalog : Catalog) :
    Except RenderError (List GeneratedFile) := do
  let files ← renderTables overrides [] catalog.tables
  return files ++ indexFiles catalog.tables

/-- Only a run over all tables writes the indexes. -/
def render (overrides : Overrides) (catalog : Catalog) (table : Option String) :
    Except RenderError (List GeneratedFile) :=
  match table with
  | some table => renderOne overrides catalog table
  | none => renderAll overrides catalog

end Rowsmith
