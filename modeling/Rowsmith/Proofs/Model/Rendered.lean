import Rowsmith.Model.Render
import Rowsmith.Proofs.Basic

/-!
# Rendered tables

Rendering succeeds for a table if neither its fields nor its constants clash, and what it gives for
one table is found again among the files of all tables.
-/

namespace Rowsmith

/-!
# Clashes
-/

theorem firstRepeated_eq_none_iff {α : Type} [BEq α] [LawfulBEq α] {seen list : List α} :
    firstRepeated seen list = none ↔ list.Nodup ∧ ∀ a ∈ list, a ∉ seen := by
  induction list generalizing seen with
  | nil => simp [firstRepeated]
  | cons a rest ih =>
      rw [firstRepeated, List.nodup_cons]
      by_cases hseen : a ∈ seen
      · rw [if_pos (List.contains_iff_mem.mpr hseen)]
        constructor
        · intro h
          cases h
        · intro h
          exact absurd hseen (h.right a (by simp))
      · rw [if_neg fun h => hseen (List.contains_iff_mem.mp h), ih]
        constructor
        · intro hboth
          rcases hboth with ⟨hnodup, hothers⟩
          refine ⟨⟨fun hmem => hothers a hmem (by simp), hnodup⟩, ?_⟩
          intro b hb
          rcases List.mem_cons.mp hb with rfl | hb
          · exact hseen
          · intro hmem
            exact hothers b hb (List.mem_cons_of_mem a hmem)
        · intro hboth
          rcases hboth with ⟨⟨hnew, hnodup⟩, hothers⟩
          refine ⟨hnodup, ?_⟩
          intro b hb hmem
          rcases List.mem_cons.mp hmem with rfl | hmem
          · exact hnew hb
          · exact hothers b (List.mem_cons_of_mem a hb) hmem

theorem firstRepeated_nil_iff {α : Type} [BEq α] [LawfulBEq α] {list : List α} :
    firstRepeated [] list = none ↔ list.Nodup := by
  rw [firstRepeated_eq_none_iff]
  constructor
  · intro h
    exact h.left
  · intro h
    exact ⟨h, fun _ _ hmem => by cases hmem⟩

variable {overrides : Overrides} {table : CatalogTable} {files : List GeneratedFile}

@[simp] theorem column_ofColumn (column : Column) :
    (ModelField.ofColumn overrides column).column = column.name := by
  unfold ModelField.ofColumn
  dsimp only

@[simp] theorem identifier_ofColumn (column : Column) :
    (ModelField.ofColumn overrides column).identifier = Identifier.ofName column.name := by
  unfold ModelField.ofColumn
  dsimp only

@[simp] theorem fieldType_ofColumn (column : Column) :
    (ModelField.ofColumn overrides column).fieldType = overrides.columnType column := by
  unfold ModelField.ofColumn
  dsimp only

theorem ofTable_eq_ok_iff {model : Model} :
    Model.ofTable overrides table = .ok model ↔
      (table.columns.map fun column => Identifier.ofName column.name).Nodup ∧
        model = ⟨table.name, structName table.name,
          table.columns.map (ModelField.ofColumn overrides)⟩ := by
  have hnames : (table.columns.map (ModelField.ofColumn overrides)).map (·.identifier) =
      table.columns.map fun column => Identifier.ofName column.name := by
    simp only [List.map_map, Function.comp_def, identifier_ofColumn]
  unfold Model.ofTable
  dsimp only
  rw [hnames, ← firstRepeated_nil_iff]
  cases firstRepeated [] (table.columns.map fun column => Identifier.ofName column.name) with
  | some field => simp
  | none => simp [eq_comm]

theorem descriptorOfTable_eq_ok_iff {descriptor : Descriptor} :
    Descriptor.ofTable table = .ok descriptor ↔
      (table.columns.map fun column => constantName column.name).Nodup ∧
        descriptor = ⟨table.name, structName table.name,
          table.columns.map fun column => ⟨column.name, constantName column.name⟩⟩ := by
  have hnames : (table.columns.map fun column =>
      DescriptorColumn.mk column.name (constantName column.name)).map (·.constant) =
        table.columns.map fun column => constantName column.name := by
    simp only [List.map_map, Function.comp_def]
  unfold Descriptor.ofTable
  dsimp only
  rw [hnames, ← firstRepeated_nil_iff]
  cases firstRepeated [] (table.columns.map fun column => constantName column.name) with
  | some constant => simp
  | none => simp [eq_comm]

/-!
# Files
-/

theorem renderTable_eq_ok_iff :
    renderTable overrides table = .ok files ↔
      ∃ model descriptor, Model.ofTable overrides table = .ok model ∧
        Descriptor.ofTable table = .ok descriptor ∧
        files = [⟨(TableNames.of table.name).modelPath, model.text⟩,
          ⟨(TableNames.of table.name).descriptorPath, descriptor.text⟩] := by
  unfold renderTable
  dsimp only
  constructor
  · intro h
    rcases bind_eq_ok_iff.mp h with ⟨model, hmodel, h⟩
    rcases bind_eq_ok_iff.mp h with ⟨descriptor, hdescriptor, h⟩
    cases h
    exact ⟨model, descriptor, hmodel, hdescriptor, rfl⟩
  · intro hexists
    rcases hexists with ⟨model, descriptor, hmodel, hdescriptor, rfl⟩
    rw [hmodel, hdescriptor]
    rfl

theorem exists_renderTable (overrides : Overrides)
    (hfields : (table.columns.map fun column => Identifier.ofName column.name).Nodup)
    (hconstants : (table.columns.map fun column => constantName column.name).Nodup) :
    ∃ files, renderTable overrides table = .ok files :=
  ⟨_, renderTable_eq_ok_iff.mpr ⟨_, _, ofTable_eq_ok_iff.mpr ⟨hfields, rfl⟩,
    descriptorOfTable_eq_ok_iff.mpr ⟨hconstants, rfl⟩, rfl⟩⟩

theorem renderTables_cons_eq_ok_iff {seen : List Identifier} {rest : List CatalogTable} :
    renderTables overrides seen (table :: rest) = .ok files ↔
      Identifier.ofName table.name ∉ seen ∧
        ∃ own others, renderTable overrides table = .ok own ∧
          renderTables overrides (Identifier.ofName table.name :: seen) rest = .ok others ∧
          files = own ++ others := by
  rw [renderTables]
  by_cases hseen : Identifier.ofName table.name ∈ seen
  · rw [if_pos (List.contains_iff_mem.mpr hseen)]
    exact ⟨fun h => (nomatch h), fun h => absurd hseen h.left⟩
  · rw [if_neg fun h => hseen (List.contains_iff_mem.mp h), both_eq_ok_iff]
    exact ⟨fun h => ⟨hseen, h⟩, fun h => h.right⟩

theorem renderTables_mem {seen : List Identifier} {tables : List CatalogTable}
    (h : renderTables overrides seen tables = .ok files) (htable : table ∈ tables) :
    ∃ own, renderTable overrides table = .ok own ∧ ∀ file ∈ own, file ∈ files := by
  induction tables generalizing seen files with
  | nil => cases htable
  | cons first rest ih =>
      rcases renderTables_cons_eq_ok_iff.mp h with ⟨_, own, others, hown, hothers, rfl⟩
      rcases List.mem_cons.mp htable with rfl | htable
      · exact ⟨own, hown, fun file hfile => List.mem_append_left others hfile⟩
      · rcases ih hothers htable with ⟨files, hfiles, hmem⟩
        exact ⟨files, hfiles, fun file hfile => List.mem_append_right own (hmem file hfile)⟩

def IsTarget (catalog : Catalog) (target : Option String) (table : CatalogTable) : Prop :=
  match target with
  | none => table ∈ catalog.tables
  | some name => catalog.table? name = some table

theorem render_some {catalog : Catalog} {name : String} (h : catalog.table? name = some table) :
    render overrides catalog (some name) = renderTable overrides table := by
  unfold render renderOne
  dsimp only
  rw [h]

theorem table?_ofTables_singleton (table : CatalogTable) :
    (Catalog.ofTables [table]).table? table.name = some table := by
  simp [Catalog.ofTables, Catalog.table?, NameMap.ofList, NameMap.insert, NameMap.empty,
    NameMap.find?, insertEntry]

theorem render_singleton {model : Model} {descriptor : Descriptor}
    (hmodel : Model.ofTable overrides table = .ok model)
    (hdescriptor : Descriptor.ofTable table = .ok descriptor) :
    render overrides (.ofTables [table]) (some table.name) =
      .ok [⟨(TableNames.of table.name).modelPath, model.text⟩,
        ⟨(TableNames.of table.name).descriptorPath, descriptor.text⟩] := by
  rw [render_some (table?_ofTables_singleton table)]
  exact renderTable_eq_ok_iff.mpr ⟨model, descriptor, hmodel, hdescriptor, rfl⟩

theorem render_mem {catalog : Catalog} {target : Option String}
    (h : render overrides catalog target = .ok files) (htable : IsTarget catalog target table) :
    ∃ own, renderTable overrides table = .ok own ∧ ∀ file ∈ own, file ∈ files := by
  cases target with
  | none =>
      rcases bind_eq_ok_iff.mp h with ⟨others, hothers, h⟩
      cases h
      rcases renderTables_mem hothers htable with ⟨own, hown, hmem⟩
      exact ⟨own, hown, fun file hfile => List.mem_append_left _ (hmem file hfile)⟩
  | some name =>
      rw [render_some htable] at h
      exact ⟨files, h, fun file hfile => hfile⟩

/-!
# The files of one table
-/

def CatalogTable.model (overrides : Overrides) (table : CatalogTable) : Model :=
  ⟨table.name, structName table.name, table.columns.map (ModelField.ofColumn overrides)⟩

def CatalogTable.descriptor (table : CatalogTable) : Descriptor :=
  ⟨table.name, structName table.name,
    table.columns.map fun column => ⟨column.name, constantName column.name⟩⟩

structure HoldsTable (files : List GeneratedFile) (table : CatalogTable)
    (model descriptor : String) : Prop where
  model : ⟨(TableNames.of table.name).modelPath, model⟩ ∈ files
  descriptor : ⟨(TableNames.of table.name).descriptorPath, descriptor⟩ ∈ files

theorem holdsTable_of_render {catalog : Catalog} {target : Option String}
    (h : render overrides catalog target = .ok files) (htable : IsTarget catalog target table) :
    HoldsTable files table (table.model overrides).text table.descriptor.text := by
  rcases render_mem h htable with ⟨own, hown, hmem⟩
  rcases renderTable_eq_ok_iff.mp hown with ⟨model, descriptor, hmodel, hdescriptor, rfl⟩
  have hform := (ofTable_eq_ok_iff.mp hmodel).right
  have hform' := (descriptorOfTable_eq_ok_iff.mp hdescriptor).right
  rw [hform, hform'] at hmem
  constructor
  · exact hmem _ List.mem_cons_self
  · exact hmem _ (List.mem_cons_of_mem _ List.mem_cons_self)

end Rowsmith
