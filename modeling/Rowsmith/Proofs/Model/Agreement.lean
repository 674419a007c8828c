import Mathlib.Data.List.Nodup
import Rowsmith.Proofs.Derive.Implementation
import Rowsmith.Proofs.Model.Descriptor
import Rowsmith.Proofs.Model.FieldType
import Rowsmith.Proofs.Model.Identifier
import Rowsmith.Proofs.Model.Rendered

/-!
# Agreement of model and descriptor

The model of a table is a struct for which code is generated, and the descriptor holds constants.
All lists of columns in both are the columns of the table.
-/

namespace Rowsmith

open Text Derive

/-!
# What the files say
-/

def typeTokens? (text : String) : Option Tokens := do
  let tokens ← lexFrom text.toList.length {} text.toList
  match (Reader.type (Phrase.reader (16 * (text.length + 1))) true).run tokens with
  | some (type, []) => some type
  | _ => none

def Derive.Item.fieldTypes (item : Item) : List Tokens :=
  match item.body with
  | .named fields => fields.map fun entry => entry.value.type
  | _ => []

structure ListsColumns (code constants : Tokens) (columns : List String) : Prop where
  bound : boundColumns? code = some columns
  targets : registeredColumns? "Pointers" code = some columns
  values : registeredColumns? "Values" code = some columns
  table : tableColumns? constants = some columns
  single : columnConstants? constants = some columns

/-- Code can be generated for the struct in the model. All lists name the columns of the table, in
order, and every field has the type of its column. -/
def FilesAgree (overrides : Overrides) (table : CatalogTable) (model descriptor : String) : Prop :=
  ∃ item expansion code constants,
    Item.ofSource? model = some item ∧ item.expand = .ok expansion ∧
    tokensOf expansion.text = some code ∧ tokensOf descriptor = some constants ∧
    ListsColumns code constants (table.columns.map Column.name) ∧
    item.fieldTypes.map some =
      table.columns.map fun column => typeTokens? (overrides.columnType column)

/-- The struct and its fields have names that may be declared. -/
structure CatalogTable.IsLegal (table : CatalogTable) : Prop where
  struct : Rowsmith.IsLegal ⟨structName table.name, false⟩
  fields : ∀ column ∈ table.columns, Rowsmith.IsLegal (Identifier.ofName column.name)

instance (table : CatalogTable) : Decidable table.IsLegal :=
  decidable_of_iff (Rowsmith.IsLegal ⟨structName table.name, false⟩ ∧
      ∀ column ∈ table.columns, Rowsmith.IsLegal (Identifier.ofName column.name))
    ⟨fun h => ⟨h.left, h.right⟩, fun h => ⟨h.struct, h.fields⟩⟩

/-!
# Types
-/

theorem typeTokens?_of_readsAsType {text : String} {tokens : Bool → Tokens} {type : Tokens}
    (h : ReadsAsType text tokens type) : typeTokens? text = some type := by
  have hlex : lexFrom text.toList.length {} text.toList = some (tokens false) := by
    apply lexFrom_of_spells
    apply (h.lexed false).mono
    intro rest hrest
    rw [hrest]
    exact FollowsType.finish
  have hread : (Reader.type (Phrase.reader (16 * (text.length + 1))) true).run
      (tokens false ++ []) = some (type, []) := h.field (Nat.le_refl _) EndsType.finish
  rw [List.append_nil] at hread
  unfold typeTokens?
  rw [hlex]
  show (match (Reader.type (Phrase.reader (16 * (text.length + 1))) true).run (tokens false) with
    | some (type, []) => some type
    | _ => none) = _
  rw [hread]

section Expansion

variable {model : Model} {type : ModelField → Tokens}

theorem fieldTypes_item : (model.item type).fieldTypes = model.fields.map type := by
  show (model.fields.map fun field => (⟨declaredField type field, true⟩ : Entry Field)).map
    (fun entry => entry.value.type) = _
  rw [List.map_map]
  rfl

theorem typesOfFields
    (h : ∀ field ∈ model.fields, typeTokens? field.fieldType = some (type field)) :
    (model.item type).fieldTypes.map some =
      model.fields.map fun field => typeTokens? field.fieldType := by
  rw [fieldTypes_item, List.map_map]
  apply List.map_congr_left
  intro field hfield
  exact (h field hfield).symm

/-!
# Expansion
-/

def Model.bindings (model : Model) : List Binding :=
  model.fields.map fun field => ⟨field.column, field.identifier⟩

theorem expand_item (hdistinct : (model.fields.map ModelField.column).Nodup) :
    (model.item type).expand = .ok ⟨model.item type, model.bindings⟩ := by
  have hnamed : (model.item type).namedFields =
      .ok (model.fields.map (declaredField type)) := by
    show Except.ok (List.map Entry.value (model.fields.map _)) = _
    rw [List.map_map]
    rfl
  have hcolumns : ∀ field ∈ model.fields,
      (declaredField type field).column = .ok (some field.column) :=
    fun field _ => column_columnAttributes _ _ _ _
  have hbindings := bindFields_of_nodup hcolumns hdistinct
  apply bind_eq_ok_iff.mpr
  refine ⟨_, hnamed, ?_⟩
  apply bind_eq_ok_iff.mpr
  exact ⟨model.bindings, hbindings, rfl⟩

theorem columns_bindings (model : Model) :
    model.bindings.map Binding.column = model.fields.map ModelField.column := by
  unfold Model.bindings
  rw [List.map_map]
  rfl

theorem listsColumns {descriptor : Descriptor} {columns : List String}
    (hlegal : descriptor.IsLegal) (hmodel : model.fields.map ModelField.column = columns)
    (hdescriptor : descriptor.columnNames = columns) :
    ListsColumns (implementationTokens ⟨model.name, false⟩ model.bindings) descriptor.source
      columns := by
  have hbindings : model.bindings.map Binding.column = columns := by
    rw [columns_bindings, hmodel]
  constructor
  · rw [boundColumns?_implementation, hbindings]
  · rw [registeredColumns?_pointers, hbindings]
  · rw [registeredColumns?_values, hbindings]
  · rw [tableColumns?_source, hdescriptor]
  · rw [columnConstants?_source hlegal, hdescriptor]

end Expansion

/-!
# Tables
-/

section Tables

variable {overrides : Overrides} {table : CatalogTable} {model : Model} {descriptor : Descriptor}

theorem isLegal_model (hmodel : Model.ofTable overrides table = .ok model)
    (hlegal : table.IsLegal) (hline : IsOneLine table.name) : model.IsLegal := by
  rw [(ofTable_eq_ok_iff.mp hmodel).right]
  constructor
  · dsimp only
    exact hlegal.struct
  · intro field hfield
    rcases List.mem_map.mp hfield with ⟨column, hcolumn, rfl⟩
    rw [identifier_ofColumn]
    exact hlegal.fields column hcolumn
  · exact hline

theorem isLegal_descriptor (hdescriptor : Descriptor.ofTable table = .ok descriptor)
    (hlegal : table.IsLegal) (hline : IsOneLine table.name) : descriptor.IsLegal := by
  rw [(descriptorOfTable_eq_ok_iff.mp hdescriptor).right]
  constructor
  · dsimp only
    exact hlegal.struct
  · intro constant hconstant
    rcases List.mem_map.mp hconstant with ⟨column, _, rfl⟩
    dsimp only
    exact (isAsciiWord_constantName column.name).isWord
  · intro constant hconstant
    rcases List.mem_map.mp hconstant with ⟨column, _, rfl⟩
    dsimp only
    exact constantName_ne_table column.name
  · exact hline

theorem nodup_columns (hmodel : Model.ofTable overrides table = .ok model) :
    (table.columns.map Column.name).Nodup := by
  have hidentifiers := (ofTable_eq_ok_iff.mp hmodel).left
  have hsplit : (table.columns.map fun column => Identifier.ofName column.name) =
      (table.columns.map Column.name).map Identifier.ofName := by
    simp only [List.map_map, Function.comp_def]
  rw [hsplit] at hidentifiers
  exact List.Nodup.of_map _ hidentifiers

theorem filesAgree (hmodel : Model.ofTable overrides table = .ok model)
    (hdescriptor : Descriptor.ofTable table = .ok descriptor) (hlegal : table.IsLegal)
    (hline : IsOneLine table.name)
    (htypes : ∀ column ∈ table.columns, overrides.TypesColumn column) :
    FilesAgree overrides table model.text descriptor.text := by
  have hlegalModel := isLegal_model hmodel hlegal hline
  have hlegalDescriptor := isLegal_descriptor hdescriptor hlegal hline
  have hdistinct := nodup_columns hmodel
  have hform := (ofTable_eq_ok_iff.mp hmodel).right
  have hcolumns : model.fields.map ModelField.column = table.columns.map Column.name := by
    simp only [hform, List.map_map, Function.comp_def, column_ofColumn]
  have hnames : descriptor.columnNames = table.columns.map Column.name := by
    simp only [Descriptor.columnNames, (descriptorOfTable_eq_ok_iff.mp hdescriptor).right,
      List.map_map, Function.comp_def]
  have hfields : ∀ field ∈ model.fields, IsTypeText field.fieldType := by
    rw [hform]
    intro field hfield
    rcases List.mem_map.mp hfield with ⟨column, hcolumn, rfl⟩
    rw [fieldType_ofColumn]
    exact isTypeText_columnType (htypes column hcolumn)
  choose! source type hreads using hfields
  have hbindings : ∀ binding ∈ model.bindings, Writable binding.field := by
    intro binding hbinding
    rcases List.mem_map.mp hbinding with ⟨field, hfield, rfl⟩
    exact (hlegalModel.fields field hfield).writable
  refine ⟨model.item type, ⟨model.item type, model.bindings⟩,
    implementationTokens ⟨model.name, false⟩ model.bindings, descriptor.source,
    ofSource?_modelText hlegalModel hreads, ?_,
    tokensOf_expansionText hlegalModel.name.writable hbindings,
    tokensOf_descriptorText hlegalDescriptor, listsColumns hlegalDescriptor hcolumns hnames, ?_⟩
  · apply expand_item
    rw [hcolumns]
    exact hdistinct
  · rw [typesOfFields fun field hfield => typeTokens?_of_readsAsType (hreads field hfield), hform]
    simp only [List.map_map, Function.comp_def, fieldType_ofColumn]

/-- The model and the descriptor that are rendered for a table agree, whatever characters there are
in the names of its columns. -/
theorem rendered_files_agree {catalog : Catalog} {target : Option String}
    {files : List GeneratedFile} (h : render overrides catalog target = .ok files)
    (htable : IsTarget catalog target table) (hlegal : table.IsLegal)
    (hline : IsOneLine table.name)
    (htypes : ∀ column ∈ table.columns, overrides.TypesColumn column) :
    ∃ model descriptor,
      ⟨(TableNames.of table.name).modelPath, model⟩ ∈ files ∧
      ⟨(TableNames.of table.name).descriptorPath, descriptor⟩ ∈ files ∧
      FilesAgree overrides table model descriptor := by
  rcases render_mem h htable with ⟨own, hown, hmem⟩
  rcases renderTable_eq_ok_iff.mp hown with ⟨model, descriptor, hmodel, hdescriptor, rfl⟩
  refine ⟨model.text, descriptor.text, ?_, ?_, ?_⟩
  · exact hmem _ (by simp)
  · exact hmem _ (by simp)
  · exact filesAgree hmodel hdescriptor hlegal hline htypes

end Tables

/-- A table with keywords, quotes, a line break and a combining character among its names. -/
def oddTable : CatalogTable :=
  ⟨"user accounts",
    [⟨"type", "int4", false⟩, ⟨"self", "uuid", true⟩, ⟨"1st \"name\"\\\n", "text", false⟩,
      ⟨"e\u0301tat", "place[]", true⟩]⟩

def placeOverrides : Overrides :=
  .ofList [("place", "geo::Point")]

theorem files_of_odd_table_agree :
    ∃ files, render placeOverrides (.ofTables [oddTable]) (some oddTable.name) = .ok files ∧
      ∃ model descriptor,
        ⟨(TableNames.of oddTable.name).modelPath, model⟩ ∈ files ∧
        ⟨(TableNames.of oddTable.name).descriptorPath, descriptor⟩ ∈ files ∧
        FilesAgree placeOverrides oddTable model descriptor := by
  have hfound := table?_ofTables_singleton oddTable
  have hfields : (oddTable.columns.map fun column => Identifier.ofName column.name).Nodup := by
    decide
  have hconstants : (oddTable.columns.map fun column => constantName column.name).Nodup := by
    decide
  have htypes : ∀ entry ∈ placeOverrides.entries, IsTypeText entry.2 := by
    have hentries : placeOverrides.entries = [("place", "geo::Point")] := by decide
    have hwords : ∀ word ∈ ["geo", "Point"], isPlainWord word = true := by decide
    rw [hentries]
    intro entry hentry
    rw [List.mem_singleton.mp hentry]
    exact isTypeText_plainPath hwords (by decide)
  rcases exists_renderTable placeOverrides hfields hconstants with ⟨files, hfiles⟩
  rw [← render_some hfound] at hfiles
  exact ⟨files, hfiles, rendered_files_agree hfiles hfound (by decide) (by decide)
    fun column _ => typesColumn_of_entries htypes column⟩

/-!
# Tables without agreement
-/

theorem not_filesAgree {overrides : Overrides} {table : CatalogTable} {model descriptor : String}
    (h : (Item.ofSource? model).isNone = true) :
    ¬FilesAgree overrides table model descriptor := by
  intro hexists
  rcases hexists with ⟨item, _, _, _, hitem, _⟩
  rw [hitem] at h
  cases h

def unfinishedOverrides : Overrides :=
  .ofList [("mood", "Vec<")]

def moodTable : CatalogTable :=
  ⟨"people", [⟨"mood", "mood", false⟩]⟩

def brokenTable : CatalogTable :=
  ⟨"people\nand pets", [⟨"id", "int4", false⟩]⟩

/-- Overrides are written as they are, and so is the table's name in the comment: neither model is a
struct. -/
theorem rendered_files_may_disagree :
    (∃ model descriptor,
      render unfinishedOverrides (.ofTables [moodTable]) (some moodTable.name) =
        .ok [⟨(TableNames.of moodTable.name).modelPath, model⟩,
          ⟨(TableNames.of moodTable.name).descriptorPath, descriptor⟩] ∧
      moodTable.IsLegal ∧ ¬FilesAgree unfinishedOverrides moodTable model descriptor) ∧
    (∃ model descriptor,
      render .empty (.ofTables [brokenTable]) (some brokenTable.name) =
        .ok [⟨(TableNames.of brokenTable.name).modelPath, model⟩,
          ⟨(TableNames.of brokenTable.name).descriptorPath, descriptor⟩] ∧
      brokenTable.IsLegal ∧ ¬FilesAgree .empty brokenTable model descriptor) := by
  constructor
  · have htype : unfinishedOverrides.columnType ⟨"mood", "mood", false⟩ = "Vec<" :=
      typeOfNormal_overridden (by decide)
    have hmodel : Model.ofTable unfinishedOverrides moodTable =
        .ok ⟨"people", "People", [⟨"mood", ⟨"mood", false⟩, "Vec<"⟩]⟩ := by
      rw [← htype]
      exact ofTable_eq_ok_iff.mpr ⟨by decide, rfl⟩
    have hdescriptor : Descriptor.ofTable moodTable =
        .ok ⟨"people", "People", [⟨"mood", "MOOD"⟩]⟩ :=
      descriptorOfTable_eq_ok_iff.mpr ⟨by decide, by decide⟩
    refine ⟨_, _, render_singleton hmodel hdescriptor, by decide, ?_⟩
    apply not_filesAgree
    decide +kernel
  · have htype : Overrides.columnType .empty ⟨"id", "int4", false⟩ = "i32" :=
      typeOfNormal_single (by decide) (by decide)
    have hmodel : Model.ofTable .empty brokenTable =
        .ok ⟨"people\nand pets", "PeopleAndPets", [⟨"id", ⟨"id", false⟩, "i32"⟩]⟩ := by
      rw [← htype]
      exact ofTable_eq_ok_iff.mpr ⟨by decide, rfl⟩
    have hdescriptor : Descriptor.ofTable brokenTable =
        .ok ⟨"people\nand pets", "PeopleAndPets", [⟨"id", "ID"⟩]⟩ :=
      descriptorOfTable_eq_ok_iff.mpr ⟨by decide, by decide⟩
    refine ⟨_, _, render_singleton hmodel hdescriptor, by decide, ?_⟩
    apply not_filesAgree
    decide +kernel

end Rowsmith
