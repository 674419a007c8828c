import Rowsmith.Proofs.Text.Basic
import Rowsmith.Proofs.Model.FileList
import Rowsmith.Proofs.Model.Declaration
import Rowsmith.Proofs.Model.Keyword
import Rowsmith.Proofs.NameMap

/-!
# One table and all tables

A run over all tables gives for every table the files that a run for this table alone gives, table
by table in the order of their names, and after them the two indexes. It fails if a run for one
table does, and else only if two modules have one name. A run for one table looks at no other.
-/

namespace Rowsmith

open Text

/-!
# Tables of a catalog
-/

section Catalog

variable {overrides : Overrides} {catalog : Catalog} {table : CatalogTable}

theorem table?_of_mem (h : table ∈ catalog.tables) : catalog.table? table.name = some table := by
  rcases List.mem_map.mp h with ⟨⟨name, columns⟩, hentry, rfl⟩
  have hfound := (mem_iff_lookup catalog.ascending).mp hentry
  unfold Catalog.table? NameMap.find?
  rw [hfound]
  rfl

theorem render_alone (overrides : Overrides) (h : table ∈ catalog.tables) :
    render overrides catalog (some table.name) = renderTable overrides table :=
  render_some (table?_of_mem h)

theorem ascending_tables (catalog : Catalog) :
    catalog.tables.Pairwise fun s t => utf8Encode s.name < utf8Encode t.name :=
  List.pairwise_map.mpr (catalog.ascending.imp utf8Encode_lt)

theorem render_some_congr {name : String} {other : Catalog}
    (h : catalog.table? name = other.table? name) :
    render overrides catalog (some name) = render overrides other (some name) := by
  show renderOne overrides catalog name = renderOne overrides other name
  unfold renderOne
  rw [h]

end Catalog

/-!
# Runs over several tables
-/

section Runs

variable {overrides : Overrides} {catalog : Catalog}

theorem renderTables_parts {isOwn : CatalogTable → List GeneratedFile → Prop}
    {seen : List Identifier} {tables : List CatalogTable} {files : List GeneratedFile}
    (hown : ∀ table ∈ tables, ∀ own, renderTable overrides table = .ok own → isOwn table own)
    (h : renderTables overrides seen tables = .ok files) :
    ∃ parts, List.Forall₂ isOwn tables parts ∧ files = parts.flatten := by
  induction tables generalizing seen files with
  | nil =>
      cases h
      exact ⟨[], .nil, rfl⟩
  | cons table rest ih =>
      rcases List.forall_mem_cons.mp hown with ⟨hfirst, hrest⟩
      rcases renderTables_cons_eq_ok_iff.mp h with ⟨_, own, others, htable, hothers, rfl⟩
      rcases ih hrest hothers with ⟨parts, hparts, rfl⟩
      exact ⟨own :: parts, .cons (hfirst own htable) hparts, rfl⟩

theorem exists_render_none_iff :
    (∃ files, render overrides catalog none = .ok files) ↔
      (∀ table ∈ catalog.tables, ∃ own, render overrides catalog (some table.name) = .ok own) ∧
        (catalog.tables.map fun table => Identifier.ofName table.name).Nodup := by
  rw [exists_render_iff]
  constructor
  · intro h
    rcases h with ⟨hapart, _⟩
    refine ⟨?_, hapart.modules⟩
    intro table htable
    rw [render_alone overrides htable]
    exact exists_renderTable_iff.mpr (hapart.members table htable)
  · intro h
    rcases h with ⟨hsingle, hmodules⟩
    refine ⟨⟨hmodules, ?_⟩, fun _ htarget => by cases htarget⟩
    intro table htable
    have hown := hsingle table htable
    rw [render_alone overrides htable] at hown
    exact exists_renderTable_iff.mp hown

end Runs

/-!
# Lines of an index
-/

def sourceLines (source : String) : List String :=
  (pieces '\n' source.toList).map String.ofList

def StartsWith (start text : String) : Prop :=
  start.toList <+: text.toList

instance (start text : String) : Decidable (StartsWith start text) :=
  inferInstanceAs (Decidable (_ <+: text.toList))

/-- The lines that declare modules are those of the tables, after the fixed ones, and the lines that
export structs are those of the tables. -/
structure ListsTables (source : String) (fixed : List String) (tables : List CatalogTable) :
    Prop where
  modules : (sourceLines source).filter (StartsWith "pub mod ") =
    fixed ++ tables.map fun table => "pub mod " ++ (Identifier.ofName table.name).text ++ ";"
  exports : (sourceLines source).filter (StartsWith "pub use ") =
    tables.map fun table =>
      "pub use " ++ (Identifier.ofName table.name).text ++ "::" ++ structName table.name ++ ";"

theorem sourceLines_lines {texts : List String} (h : ∀ text ∈ texts, IsOneLine text) :
    sourceLines (lines texts) = texts ++ [""] := by
  unfold sourceLines
  rw [pieces_lines fun text htext => (h text htext).left, List.map_append, List.map_map]
  simp

theorem isOneLine_identifier (name : String) : IsOneLine (Identifier.ofName name).text := by
  have hword := isOneLine_word (isAsciiWord_ofName name).isWord
  unfold Identifier.text
  split
  · exact isOneLine_append (by decide) hword
  · exact hword

theorem exportLine_of (table : String) : (TableNames.of table).exportLine =
    "pub use " ++ (Identifier.ofName table).text ++ "::" ++ structName table ++ ";" := by
  rw [TableNames.exportLine, TableNames.of]

theorem isOneLine_moduleLine (table : String) : IsOneLine (TableNames.of table).moduleLine := by
  rw [moduleLine_of]
  exact isOneLine_append (isOneLine_append (by decide) (isOneLine_identifier table)) (by decide)

theorem isOneLine_exportLine (table : String) : IsOneLine (TableNames.of table).exportLine := by
  have hstruct := isOneLine_word (isAsciiWord_structName table).isWord
  have hmodule := isOneLine_append (by decide : IsOneLine "pub use ") (isOneLine_identifier table)
  rw [exportLine_of]
  exact isOneLine_append (isOneLine_append (isOneLine_append hmodule (by decide)) hstruct)
    (by decide)

theorem startsWith_append (start rest : String) : StartsWith start (start ++ rest) := by
  unfold StartsWith
  rw [String.toList_append]
  exact List.prefix_append _ _

theorem not_startsWith_append {start other : String} (hlength : start.length = other.length)
    (hne : start ≠ other) (rest : String) : ¬StartsWith start (other ++ rest) := by
  intro h
  have hother := startsWith_append other rest
  have hchars : start.toList.length = other.toList.length := by
    rw [String.length_toList, String.length_toList, hlength]
  have hsame := (List.prefix_of_prefix_length_le h hother (Nat.le_of_eq hchars)).eq_of_length hchars
  exact hne (String.toList_inj.mp hsame)

section Lists

variable {tables : List CatalogTable} {text : CatalogTable → String} {start other : String}
  {rest : CatalogTable → String}

theorem filter_startsWith (htext : ∀ table, text table = start ++ rest table) :
    (tables.map text).filter (StartsWith start) = tables.map text := by
  rw [List.filter_eq_self]
  intro line hline
  rcases List.mem_map.mp hline with ⟨table, _, rfl⟩
  rw [htext]
  exact decide_eq_true (startsWith_append start (rest table))

theorem filter_not_startsWith (hlength : start.length = other.length) (hne : start ≠ other)
    (htext : ∀ table, text table = other ++ rest table) :
    (tables.map text).filter (StartsWith start) = [] := by
  rw [List.filter_eq_nil_iff]
  intro line hline
  rcases List.mem_map.mp hline with ⟨table, _, rfl⟩
  rw [htext, decide_eq_true_eq]
  exact not_startsWith_append hlength hne (rest table)

end Lists

def indexLines (tables : List CatalogTable) : List String :=
  (tables.map fun table => (TableNames.of table.name).moduleLine) ++
    ((if tables.isEmpty then [] else [""]) ++
      tables.map fun table => (TableNames.of table.name).exportLine)

theorem indexText_of (tables : List CatalogTable) :
    indexText (tables.map fun table => TableNames.of table.name) = lines (indexLines tables) := by
  rw [indexText_eq, List.map_map, List.map_map, List.isEmpty_map]
  rfl

theorem isOneLine_indexLines (tables : List CatalogTable) :
    ∀ text ∈ indexLines tables, IsOneLine text := by
  intro text htext
  rcases List.mem_append.mp htext with hmodule | hother
  · rcases List.mem_map.mp hmodule with ⟨table, _, rfl⟩
    exact isOneLine_moduleLine table.name
  · rcases List.mem_append.mp hother with hblank | hexport
    · split at hblank
      · cases hblank
      · rw [List.mem_singleton.mp hblank]
        decide
    · rcases List.mem_map.mp hexport with ⟨table, _, rfl⟩
      exact isOneLine_exportLine table.name

theorem filter_blank {start : String} (hstart : ¬StartsWith start "") (tables : List CatalogTable) :
    (if tables.isEmpty then [] else [""]).filter (StartsWith start) = [] := by
  split
  · rfl
  · exact List.filter_cons_of_neg (by simpa using hstart)

section IndexLines

variable (tables : List CatalogTable)

theorem moduleLine_begins (table : CatalogTable) : (TableNames.of table.name).moduleLine =
    "pub mod " ++ ((Identifier.ofName table.name).text ++ ";") := by
  rw [moduleLine_of, String.append_assoc]

theorem exportLine_begins (table : CatalogTable) : (TableNames.of table.name).exportLine =
    "pub use " ++
      ((Identifier.ofName table.name).text ++ "::" ++ structName table.name ++ ";") := by
  rw [exportLine_of]
  simp only [String.append_assoc]

theorem filter_moduleLines : (indexLines tables).filter (StartsWith "pub mod ") =
    tables.map fun table => (TableNames.of table.name).moduleLine := by
  unfold indexLines
  rw [List.filter_append, List.filter_append, filter_startsWith moduleLine_begins,
    filter_blank (by decide), filter_not_startsWith (by decide) (by decide) exportLine_begins,
    List.append_nil, List.append_nil]

theorem filter_exportLines : (indexLines tables).filter (StartsWith "pub use ") =
    tables.map fun table => (TableNames.of table.name).exportLine := by
  unfold indexLines
  rw [List.filter_append, List.filter_append,
    filter_not_startsWith (by decide) (by decide) moduleLine_begins, filter_blank (by decide),
    filter_startsWith exportLine_begins, List.nil_append, List.nil_append]

theorem listsTables_lines {first fixed : List String} (hfirst : ∀ text ∈ first, IsOneLine text)
    (hmodules : first.filter (StartsWith "pub mod ") = fixed)
    (hexports : first.filter (StartsWith "pub use ") = []) :
    ListsTables (lines first ++ indexText (tables.map fun table => TableNames.of table.name)) fixed
      tables := by
  have hlines : ∀ text ∈ first ++ indexLines tables, IsOneLine text := by
    intro text htext
    rcases List.mem_append.mp htext with hmem | hmem
    · exact hfirst text hmem
    · exact isOneLine_indexLines tables text hmem
  have hend : [""].filter (StartsWith "pub mod ") = [] ∧
      [""].filter (StartsWith "pub use ") = [] := by
    decide
  rw [indexText_of, ← lines_append]
  constructor
  · rw [sourceLines_lines hlines, List.filter_append, List.filter_append, hmodules,
      filter_moduleLines, hend.left, List.append_nil]
    simp only [moduleLine_of]
  · rw [sourceLines_lines hlines, List.filter_append, List.filter_append, hexports,
      filter_exportLines, hend.right, List.append_nil, List.nil_append]
    simp only [exportLine_of]

theorem listsTables_modelIndex :
    ListsTables (modelIndex (tables.map fun table => TableNames.of table.name))
      ["pub mod schema;"] tables := by
  have hfixed : header ++ line "pub mod schema;" ++ blankLine =
      lines ["// @generated by pggo (pggo-cli)", "", "pub mod schema;", ""] := rfl
  unfold modelIndex
  rw [hfixed]
  exact listsTables_lines tables (by decide) (by decide) (by decide)

theorem listsTables_descriptorIndex :
    ListsTables (descriptorIndex (tables.map fun table => TableNames.of table.name)) [] tables := by
  unfold descriptorIndex
  rw [header_eq]
  exact listsTables_lines tables (by decide) (by decide) (by decide)

end IndexLines

/-!
# Single tables and the whole catalog
-/

/-- A run for the table alone gives these files, its model and its descriptor. -/
structure IsAlone (overrides : Overrides) (catalog : Catalog) (table : CatalogTable)
    (own : List GeneratedFile) : Prop where
  rendered : render overrides catalog (some table.name) = .ok own
  paths : own.map (·.path) =
    [(TableNames.of table.name).modelPath, (TableNames.of table.name).descriptorPath]

theorem isAlone_of_renderTable {overrides : Overrides} {catalog : Catalog} {table : CatalogTable}
    {own : List GeneratedFile} (htable : table ∈ catalog.tables)
    (h : renderTable overrides table = .ok own) : IsAlone overrides catalog table own := by
  constructor
  · rw [render_alone overrides htable, h]
  · rcases renderTable_eq_ok_iff.mp h with ⟨model, descriptor, _, _, rfl⟩
    rfl

/-- A run over all tables succeeds exactly if a run for every single one does and the names of their
modules are distinct. Its files are those of the single runs, in the order of the octets of the
names, and then two indexes of the tables. What a single run does depends on its own table only. -/
theorem whole_run_joins_single_runs (overrides : Overrides) (catalog : Catalog) :
    ((∃ files, render overrides catalog none = .ok files) ↔
      (∀ table ∈ catalog.tables, ∃ own, render overrides catalog (some table.name) = .ok own) ∧
        (catalog.tables.map fun table => Identifier.ofName table.name).Nodup) ∧
    (∀ files, render overrides catalog none = .ok files → ∃ parts root nested,
      files = parts.flatten ++ [⟨"mod.rs", root⟩, ⟨"schema/mod.rs", nested⟩] ∧
        List.Forall₂ (IsAlone overrides catalog) catalog.tables parts ∧
        ListsTables root ["pub mod schema;"] catalog.tables ∧
        ListsTables nested [] catalog.tables) ∧
    catalog.tables.Pairwise (fun s t => utf8Encode s.name < utf8Encode t.name) ∧
    (∀ name (other : Catalog), catalog.table? name = other.table? name →
      render overrides catalog (some name) = render overrides other (some name)) := by
  refine ⟨exists_render_none_iff, ?_, ascending_tables catalog, fun _ _ => render_some_congr⟩
  intro files h
  rcases render_none_eq_ok_iff.mp h with ⟨others, hothers, rfl⟩
  rcases renderTables_parts (fun _ htable _ => isAlone_of_renderTable htable) hothers with
    ⟨parts, hparts, rfl⟩
  exact ⟨parts, _, _, rfl, hparts, listsTables_modelIndex catalog.tables,
    listsTables_descriptorIndex catalog.tables⟩

def postsTable : CatalogTable :=
  ⟨"posts", [⟨"title", "text", false⟩]⟩

def usersTable : CatalogTable :=
  ⟨"users", [⟨"self", "uuid", true⟩]⟩

/-- Two tables that are not given in the order of their names. -/
theorem two_tables_join :
    ∃ files posts users root nested,
      render .empty (.ofTables [usersTable, postsTable]) none = .ok files ∧
      files = posts ++ users ++ [⟨"mod.rs", root⟩, ⟨"schema/mod.rs", nested⟩] ∧
      IsAlone .empty (.ofTables [usersTable, postsTable]) postsTable posts ∧
      IsAlone .empty (.ofTables [usersTable, postsTable]) usersTable users ∧
      ListsTables root ["pub mod schema;"] [postsTable, usersTable] ∧
      ListsTables nested [] [postsTable, usersTable] := by
  have hrender : ∃ files, render .empty (.ofTables [usersTable, postsTable]) none = .ok files :=
    ⟨_, rfl⟩
  have htables : Catalog.tables (.ofTables [usersTable, postsTable]) = [postsTable, usersTable] :=
    rfl
  rcases hrender with ⟨files, hrender⟩
  rcases (whole_run_joins_single_runs .empty (.ofTables [usersTable, postsTable])).right.left files
    hrender with ⟨parts, root, nested, hfiles, hparts, hroot, hnested⟩
  rw [htables] at hparts hroot hnested
  rcases hparts with _ | ⟨hposts, hrest⟩
  rcases hrest with _ | ⟨husers, hend⟩
  cases hend
  refine ⟨files, _, _, root, nested, hrender, ?_, hposts, husers, hroot, hnested⟩
  rw [hfiles]
  simp

end Rowsmith
