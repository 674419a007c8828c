import Mathlib.Data.List.Nodup
import Rowsmith.Proofs.Model.Naming
import Rowsmith.Proofs.Model.Rendered

/-!
# The list of rendered files

Every table gives a model and a descriptor under the name of its module, and a run over all tables
adds the two indexes under the name `mod`. Modules of different tables have different names, and
nothing else is checked: a table whose module is called `mod` takes the places of the indexes.
-/

namespace Rowsmith

variable {overrides : Overrides} {catalog : Catalog} {target : Option String}
  {files : List GeneratedFile}

/-!
## Tables and their modules
-/

def Catalog.rendered (catalog : Catalog) : Option String → List CatalogTable
  | none => catalog.tables
  | some name => (catalog.table? name).toList

def moduleWords (tables : List CatalogTable) : List String :=
  tables.map fun table => (Identifier.ofName table.name).word

theorem moduleWords_nodup_iff {tables : List CatalogTable} :
    (moduleWords tables).Nodup ↔ (tables.map fun table => Identifier.ofName table.name).Nodup := by
  unfold moduleWords List.Nodup
  rw [List.pairwise_map, List.pairwise_map]
  simp only [ne_eq, ofName_eq_iff]

/-!
## Paths
-/

/-- The files named by one stem: one at the top and one among the descriptors. -/
def sourcePaths (stem : String) : List String :=
  [stem ++ ".rs", "schema/" ++ stem ++ ".rs"]

def stems (catalog : Catalog) (target : Option String) : List String :=
  moduleWords (catalog.rendered target) ++ if target = none then ["mod"] else []

theorem renderTable_paths {table : CatalogTable} (h : renderTable overrides table = .ok files) :
    files.map (·.path) = sourcePaths (Identifier.ofName table.name).word := by
  rcases renderTable_eq_ok_iff.mp h with ⟨model, descriptor, _, _, rfl⟩
  rfl

theorem renderTables_paths {seen : List Identifier} {tables : List CatalogTable}
    (h : renderTables overrides seen tables = .ok files) :
    files.map (·.path) = (moduleWords tables).flatMap sourcePaths := by
  induction tables generalizing seen files with
  | nil =>
      cases h
      rfl
  | cons table rest ih =>
      rcases renderTables_cons_eq_ok_iff.mp h with ⟨_, own, others, hown, hothers, rfl⟩
      rw [List.map_append, renderTable_paths hown, ih hothers]
      rfl

theorem renderTables_distinct {seen : List Identifier} {tables : List CatalogTable}
    (h : renderTables overrides seen tables = .ok files) :
    (tables.map fun table => Identifier.ofName table.name).Nodup ∧
      ∀ table ∈ tables, Identifier.ofName table.name ∉ seen := by
  induction tables generalizing seen files with
  | nil => exact ⟨List.nodup_nil, fun _ hmem => by cases hmem⟩
  | cons table rest ih =>
      rcases renderTables_cons_eq_ok_iff.mp h with ⟨hnew, _, _, _, hothers, _⟩
      rcases ih hothers with ⟨hnodup, hseen⟩
      constructor
      · rw [List.map_cons, List.nodup_cons]
        refine ⟨?_, hnodup⟩
        intro hmem
        rcases List.mem_map.mp hmem with ⟨other, hother, hsame⟩
        exact hseen other hother (by rw [hsame]; simp)
      · intro other hother
        rcases List.mem_cons.mp hother with rfl | hother
        · exact hnew
        · exact fun hmem => hseen other hother (List.mem_cons_of_mem _ hmem)

theorem render_none_eq_ok_iff :
    render overrides catalog none = .ok files ↔
      ∃ others, renderTables overrides [] catalog.tables = .ok others ∧
        files = others ++ indexFiles catalog.tables := by
  show renderAll overrides catalog = .ok files ↔ _
  unfold renderAll
  rw [bind_eq_ok_iff]
  constructor
  · intro hexists
    rcases hexists with ⟨others, hothers, h⟩
    cases h
    exact ⟨others, hothers, rfl⟩
  · intro hexists
    rcases hexists with ⟨others, hothers, rfl⟩
    exact ⟨others, hothers, rfl⟩

theorem render_some_eq_ok_iff {name : String} :
    render overrides catalog (some name) = .ok files ↔
      ∃ table, catalog.table? name = some table ∧ renderTable overrides table = .ok files := by
  show renderOne overrides catalog name = .ok files ↔ _
  unfold renderOne
  cases catalog.table? name with
  | none => simp
  | some table => simp

theorem render_paths (h : render overrides catalog target = .ok files) :
    files.map (·.path) = (stems catalog target).flatMap sourcePaths := by
  cases target with
  | none =>
      rcases render_none_eq_ok_iff.mp h with ⟨others, hothers, rfl⟩
      rw [List.map_append, renderTables_paths hothers, stems, List.flatMap_append]
      rfl
  | some name =>
      rcases render_some_eq_ok_iff.mp h with ⟨table, htable, h⟩
      rw [renderTable_paths h]
      simp [stems, Catalog.rendered, htable, moduleWords]

theorem render_moduleWords_nodup (h : render overrides catalog target = .ok files) :
    (moduleWords (catalog.rendered target)).Nodup := by
  cases target with
  | none =>
      rcases render_none_eq_ok_iff.mp h with ⟨others, hothers, _⟩
      exact moduleWords_nodup_iff.mpr (renderTables_distinct hothers).left
  | some name =>
      rcases render_some_eq_ok_iff.mp h with ⟨table, htable, _⟩
      simp [Catalog.rendered, htable, moduleWords]

/-!
## Clashes of paths
-/

/-- In a run over all tables no table's module is called like the indexes. -/
def LeavesIndexes (catalog : Catalog) (target : Option String) : Prop :=
  target = none → ∀ table ∈ catalog.tables, (Identifier.ofName table.name).word ≠ "mod"

instance (catalog : Catalog) (target : Option String) :
    Decidable (LeavesIndexes catalog target) :=
  inferInstanceAs (Decidable (_ → _))

theorem stems_nodup_iff (h : render overrides catalog target = .ok files) :
    (stems catalog target).Nodup ↔ LeavesIndexes catalog target := by
  have hwords := render_moduleWords_nodup h
  unfold stems LeavesIndexes
  cases target with
  | none =>
      have hmem : "mod" ∈ moduleWords catalog.tables ↔
          ∃ table ∈ catalog.tables, (Identifier.ofName table.name).word = "mod" := List.mem_map
      rw [if_pos rfl, List.nodup_append]
      constructor
      · intro hexists _ table htable hword
        rcases hexists with ⟨_, _, hfree⟩
        exact hfree "mod" (hmem.mpr ⟨table, htable, hword⟩) "mod" (by simp) rfl
      · intro hleaves
        refine ⟨hwords, by simp, ?_⟩
        intro word hword other hother hsame
        subst hsame
        rw [List.mem_singleton.mp hother] at hword
        rcases hmem.mp hword with ⟨table, htable, hmod⟩
        exact hleaves rfl table htable hmod
  | some name => simpa using hwords

theorem isAsciiWord_stem {stem : String} (h : stem ∈ stems catalog target) :
    IsAsciiWord stem.toList := by
  rcases List.mem_append.mp h with h | h
  · rcases List.mem_map.mp h with ⟨table, _, rfl⟩
    exact isAsciiWord_ofName table.name
  · split at h
    · rw [List.mem_singleton.mp h]
      exact ⟨⟨'m', "od".toList, by decide, by decide⟩, by decide⟩
    · cases h

theorem model_path_ne_descriptor_path {stem other : String} (hstem : IsAsciiWord stem.toList) :
    stem ++ ".rs" ≠ "schema/" ++ other ++ ".rs" := by
  intro hsame
  have hslash : '/' ∈ stem.toList := by
    rw [(String.append_left_inj _).mp hsame]
    simp
  have hword := hstem.parts '/' hslash
  revert hword
  decide

theorem sourcePaths_disjoint_iff {stem other : String} (hstem : IsAsciiWord stem.toList)
    (hother : IsAsciiWord other.toList) :
    List.Disjoint (sourcePaths stem) (sourcePaths other) ↔ stem ≠ other := by
  constructor
  · intro hdisjoint hequal
    subst hequal
    exact hdisjoint (a := stem ++ ".rs") (by simp [sourcePaths]) (by simp [sourcePaths])
  · intro hne path hpath hpath'
    rcases List.mem_pair.mp hpath with rfl | rfl
    · rcases List.mem_pair.mp hpath' with hsame | hsame
      · exact hne ((String.append_left_inj _).mp hsame)
      · exact model_path_ne_descriptor_path hstem hsame
    · rcases List.mem_pair.mp hpath' with hsame | hsame
      · exact model_path_ne_descriptor_path hother hsame.symm
      · rw [String.append_left_inj, String.append_right_inj] at hsame
        exact hne hsame

theorem sourcePaths_nodup_iff {stems : List String}
    (h : ∀ stem ∈ stems, IsAsciiWord stem.toList) :
    (stems.flatMap sourcePaths).Nodup ↔ stems.Nodup := by
  rw [List.nodup_flatMap]
  constructor
  · intro hexists
    rcases hexists with ⟨_, hpairs⟩
    apply hpairs.imp_of_mem
    intro stem other hstem hother hdisjoint
    exact (sourcePaths_disjoint_iff (h stem hstem) (h other hother)).mp hdisjoint
  · intro hstems
    constructor
    · intro stem hstem
      rw [sourcePaths, List.nodup_cons, List.mem_singleton]
      exact ⟨model_path_ne_descriptor_path (h stem hstem), List.nodup_singleton _⟩
    · apply hstems.imp_of_mem
      intro stem other hstem hother hne
      exact (sourcePaths_disjoint_iff (h stem hstem) (h other hother)).mpr hne

/-- All files of a run have paths of their own unless a table takes those of the indexes. -/
theorem render_paths_nodup_iff (h : render overrides catalog target = .ok files) :
    (files.map (·.path)).Nodup ↔ LeavesIndexes catalog target := by
  rw [render_paths h, sourcePaths_nodup_iff fun stem hstem => isAsciiWord_stem hstem,
    stems_nodup_iff h]

/-!
## One table
-/

def bareFiles (table : String) : List GeneratedFile :=
  let names := TableNames.of table
  [⟨names.modelPath, Model.text ⟨table, names.struct, []⟩⟩,
    ⟨names.descriptorPath, Descriptor.text ⟨table, names.struct, []⟩⟩,
    ⟨"mod.rs", modelIndex [names]⟩, ⟨"schema/mod.rs", descriptorIndex [names]⟩]

theorem render_bare (table : String) :
    render .empty (.ofTables [⟨table, []⟩]) none = .ok (bareFiles table) := rfl

/-!
# Clashes of names

What is rendered is rendered as a whole or not at all: one clash in one table, or of two modules,
leaves nothing of any table. Nothing else keeps tables from being rendered.
-/

variable {table : CatalogTable}

/-- Neither the fields nor the constants of the table have a name twice. -/
structure CatalogTable.NamesApart (table : CatalogTable) : Prop where
  fields : (table.columns.map fun column => Identifier.ofName column.name).Nodup
  constants : (table.columns.map fun column => constantName column.name).Nodup

structure TablesApart (tables : List CatalogTable) : Prop where
  modules : (tables.map fun table => Identifier.ofName table.name).Nodup
  members : ∀ table ∈ tables, table.NamesApart

theorem tablesApart_singleton : TablesApart [table] ↔ table.NamesApart := by
  constructor
  · intro h
    exact h.members table List.mem_cons_self
  · intro h
    refine ⟨List.nodup_singleton _, ?_⟩
    intro other hother
    rw [List.mem_singleton.mp hother]
    exact h

theorem exists_renderTable_iff :
    (∃ files, renderTable overrides table = .ok files) ↔ table.NamesApart := by
  constructor
  · intro h
    rcases h with ⟨files, hfiles⟩
    rcases renderTable_eq_ok_iff.mp hfiles with ⟨model, descriptor, hmodel, hdescriptor, _⟩
    exact ⟨(ofTable_eq_ok_iff.mp hmodel).left, (descriptorOfTable_eq_ok_iff.mp hdescriptor).left⟩
  · intro h
    exact exists_renderTable overrides h.fields h.constants

theorem tablesApart_of_renderTables {tables : List CatalogTable} {files : List GeneratedFile}
    (h : renderTables overrides [] tables = .ok files) : TablesApart tables := by
  constructor
  · exact (renderTables_distinct h).left
  · intro table htable
    rcases renderTables_mem h htable with ⟨own, hown, _⟩
    exact exists_renderTable_iff.mp ⟨own, hown⟩

theorem exists_renderTables {tables : List CatalogTable} (h : TablesApart tables)
    {seen : List Identifier}
    (hseen : ∀ table ∈ tables, Identifier.ofName table.name ∉ seen) :
    ∃ files, renderTables overrides seen tables = .ok files := by
  induction tables generalizing seen with
  | nil => exact ⟨[], rfl⟩
  | cons table rest ih =>
      rcases List.nodup_cons.mp h.modules with ⟨hnew, hrest⟩
      rcases exists_renderTable_iff.mpr (h.members table List.mem_cons_self) with ⟨own, hown⟩
      have hrestApart : TablesApart rest :=
        ⟨hrest, fun other hother => h.members other (List.mem_cons_of_mem table hother)⟩
      have hrestSeen : ∀ other ∈ rest,
          Identifier.ofName other.name ∉ Identifier.ofName table.name :: seen := by
        intro other hother hmem
        rcases List.mem_cons.mp hmem with hsame | hmem
        · exact hnew (List.mem_map.mpr ⟨other, hother, hsame⟩)
        · exact hseen other (List.mem_cons_of_mem table hother) hmem
      rcases ih hrestApart hrestSeen with ⟨others, hothers⟩
      exact ⟨own ++ others, renderTables_cons_eq_ok_iff.mpr
        ⟨hseen table List.mem_cons_self, own, others, hown, hothers, rfl⟩⟩

theorem exists_render_iff {target : Option String} :
    (∃ files, render overrides catalog target = .ok files) ↔
      TablesApart (catalog.rendered target) ∧
        ∀ name, target = some name → ∃ table, catalog.table? name = some table := by
  cases target with
  | none =>
      simp only [render_none_eq_ok_iff]
      constructor
      · intro h
        rcases h with ⟨_, others, hothers, _⟩
        exact ⟨tablesApart_of_renderTables hothers, fun _ htarget => by cases htarget⟩
      · intro h
        rcases exists_renderTables h.left fun _ _ => List.not_mem_nil with ⟨others, hothers⟩
        exact ⟨_, others, hothers, rfl⟩
  | some name =>
      simp only [render_some_eq_ok_iff, Catalog.rendered]
      constructor
      · intro h
        rcases h with ⟨files, table, htable, hfiles⟩
        rw [htable]
        refine ⟨tablesApart_singleton.mpr (exists_renderTable_iff.mp ⟨files, hfiles⟩), ?_⟩
        intro other hother
        cases hother
        exact ⟨table, htable⟩
      · intro h
        rcases h.right name rfl with ⟨table, htable⟩
        rw [htable] at h
        rcases exists_renderTable_iff.mpr (tablesApart_singleton.mp h.left) with ⟨files, hfiles⟩
        exact ⟨files, table, htable, hfiles⟩

end Rowsmith
