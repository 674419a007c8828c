import Rowsmith.Proofs.Catalog.RowOrder

/-!
# What is in a catalog

A catalog has one entry for every table row, and in the entry of a table are the columns that are
listed for this table in this schema, sorted by their positions. It is the same catalog whether the
columns of each table are picked and sorted, or the columns of all tables and schemas are sorted at
once and put one by one at the end of the tables that own them.
-/

namespace Rowsmith

/-- The column row is about this table, in the schema that the table is listed with. -/
def TableRow.owns (table : TableRow) (row : ColumnRow) : Bool :=
  row.table = table.table && row.schema = table.schema

/-- The column has the name, the resolved type and the nullability that the row says. -/
structure ColumnRow.Lists (row : ColumnRow) (column : Column) : Prop where
  name : column.name = row.column
  type : column.type = row.resolvedType
  nullable : column.nullable = true ↔ row.nullable = "YES"

/-- The rows sorted by their positions, where rows of one position stay in their order. -/
structure InOrdinalOrder (rows sorted : List ColumnRow) : Prop where
  perm : sorted.Perm rows
  ascending : sorted.Pairwise fun a b => a.ordinal ≤ b.ordinal
  ties : ∀ ordinal : Int32, sorted.filter (·.ordinal = ordinal) = rows.filter (·.ordinal = ordinal)

/-!
# Rows of one table
-/

theorem inOrdinalOrder_mergeSort (rows : List ColumnRow) :
    InOrdinalOrder rows (rows.mergeSort ordinalOrder) := by
  have hperm := List.mergeSort_perm rows ordinalOrder
  have hsorted := List.pairwise_mergeSort ordinalOrder_trans ordinalOrder_total rows
  refine ⟨hperm, hsorted.imp fun h => of_decide_eq_true h, ?_⟩
  intro ordinal
  have hties : (rows.filter (·.ordinal = ordinal)).Pairwise fun a b => ordinalOrder a b = true := by
    apply List.pairwise_of_forall_mem_list
    intro a ha b hb
    have hsame : a.ordinal = b.ordinal :=
      (of_decide_eq_true (List.mem_filter.mp ha).right).trans
        (of_decide_eq_true (List.mem_filter.mp hb).right).symm
    unfold ordinalOrder
    rw [hsame, decide_eq_true_eq]
    exact Int32.le_refl b.ordinal
  have hsublist := (List.sublist_mergeSort ordinalOrder_trans ordinalOrder_total hties
    List.filter_sublist).filter (·.ordinal = ordinal)
  simp only [List.filter_filter, Bool.and_self] at hsublist
  exact (hsublist.eq_of_length (hperm.filter _).length_eq.symm).symm

theorem lists_toColumn (row : ColumnRow) : row.Lists row.toColumn :=
  ⟨rfl, rfl, decide_eq_true_iff⟩

theorem columnsOf_lists (rows : List ColumnRow) (table : TableRow) :
    ∃ sorted, InOrdinalOrder (rows.filter table.owns) sorted ∧
      List.Forall₂ ColumnRow.Lists sorted (columnsOf rows table.table table.schema) := by
  refine ⟨_, inOrdinalOrder_mergeSort _, ?_⟩
  show List.Forall₂ _ _ (((rows.filter table.owns).mergeSort ordinalOrder).map ColumnRow.toColumn)
  rw [List.forall₂_map_right_iff, List.forall₂_same]
  intro row _
  exact lists_toColumn row

/-!
# Columns put into the catalog one by one
-/

namespace Owners

variable {owners : Owners} {catalog : Catalog} {name : String}

def emptyTables (owners : Owners) : Catalog :=
  owners.mapEntries fun _ _ => []

def place (owners : Owners) (catalog : Catalog) (row : ColumnRow) : Catalog :=
  if owners.find? row.table = some row.schema then
    match catalog.find? row.table with
    | some columns => catalog.insert row.table (columns ++ [row.toColumn])
    | none => catalog
  else
    catalog

def takes (owners : Owners) (name : String) (row : ColumnRow) : Bool :=
  row.table = name && owners.find? name = some row.schema

theorem find?_place (row : ColumnRow) :
    (owners.place catalog row).find? name =
      (catalog.find? name).map (· ++ ([row].filter (owners.takes name)).map ColumnRow.toColumn) := by
  unfold place
  by_cases hname : row.table = name
  · subst hname
    by_cases howned : owners.find? row.table = some row.schema
    · have htakes : owners.takes row.table row = true := by simp [takes, howned]
      rw [if_pos howned, List.filter_cons_of_pos htakes]
      cases hfound : catalog.find? row.table with
      | none => simp [hfound]
      | some columns => simp [NameMap.find?_insert]
    · have htakes : owners.takes row.table row = false := by simp [takes, howned]
      rw [if_neg howned, List.filter_cons_of_neg (by simp [htakes])]
      simp
  · have htakes : owners.takes name row = false := by simp [takes, hname]
    rw [List.filter_cons_of_neg (by simp [htakes])]
    have hother (columns : List Column) :
        (catalog.insert row.table columns).find? name = catalog.find? name := by
      rw [NameMap.find?_insert, if_neg (Ne.symm hname)]
    split
    · split
      · simp [hother]
      · simp
    · simp

theorem find?_foldl_place (rows : List ColumnRow) :
    (rows.foldl owners.place catalog).find? name =
      (catalog.find? name).map
        (· ++ (rows.filter (owners.takes name)).map ColumnRow.toColumn) := by
  induction rows generalizing catalog with
  | nil => simp
  | cons row rest ih =>
      have hsplit : (row :: rest).filter (owners.takes name) =
          [row].filter (owners.takes name) ++ rest.filter (owners.takes name) :=
        List.filter_append [row] rest
      rw [List.foldl_cons, ih, find?_place, hsplit, List.map_append]
      cases catalog.find? name with
      | none => rfl
      | some columns => exact congrArg some (List.append_assoc _ _ _)

/-- Sorting the rows of all tables and schemas at once and putting each where it belongs gives what
picking and sorting the rows of each table gives. -/
theorem mapEntries_columnsOf (rows : List ColumnRow) :
    owners.mapEntries (columnsOf rows) =
      (rows.mergeSort tableOrder).foldl owners.place owners.emptyTables := by
  apply NameMap.ext_find?
  intro name
  rw [find?_foldl_place, emptyTables, NameMap.find?_mapEntries, NameMap.find?_mapEntries]
  cases hfound : owners.find? name with
  | none => rfl
  | some schema =>
      have htakes : owners.takes name = fun row => row.table = name && row.schema = schema := by
        funext row
        simp [takes, hfound, eq_comm]
      rw [Option.map_some, Option.map_some, Option.map_some, List.nil_append, htakes,
        columnsOf_eq_of_sorted]

/-!
# Entries of a catalog
-/

theorem exists_collect_iff {rows : List TableRow} :
    (∃ result, owners.collect rows = .ok result) ↔
      (rows.map (·.table)).Nodup ∧ ∀ row ∈ rows, owners.find? row.table = none := by
  constructor
  · intro h
    rcases h with ⟨result, hcollect⟩
    rcases collect_eq_ok_iff.mp hcollect with ⟨hnodup, hnew, _⟩
    exact ⟨hnodup, hnew⟩
  · intro h
    induction rows generalizing owners with
    | nil => exact ⟨owners, rfl⟩
    | cons row rest ih =>
        rcases h with ⟨hnodup, hnew⟩
        rcases List.forall_mem_cons.mp hnew with ⟨hfirst, hrest⟩
        rcases List.nodup_cons.mp hnodup with ⟨hother, hnodup⟩
        simp only [collect_cons_eq_ok_iff, hfirst, true_and]
        refine ih ⟨hnodup, ?_⟩
        intro other hmem
        rw [find?_insert_eq_none_iff]
        refine ⟨?_, hrest other hmem⟩
        intro hsame
        exact hother (List.mem_map.mpr ⟨other, hmem, hsame⟩)

end Owners

theorem exists_assemble_iff {tables : List TableRow} {columns : List ColumnRow} :
    (∃ catalog, assemble tables columns = .ok catalog) ↔ (tables.map (·.table)).Nodup := by
  have hcollect : (∃ catalog, assemble tables columns = .ok catalog) ↔
      ∃ owners, Owners.collect .empty tables = .ok owners := by
    simp only [assemble_eq_ok_iff]
    constructor
    · intro h
      rcases h with ⟨_, owners, howners, _⟩
      exact ⟨owners, howners⟩
    · intro h
      rcases h with ⟨owners, howners⟩
      exact ⟨_, owners, howners, rfl⟩
  rw [hcollect, Owners.exists_collect_iff]
  simp

/-- Rows are assembled exactly if no table name is listed twice. Then there is one entry for every
table row, under its name; in it are the columns that are listed for this table in this schema, each
once and as listed, by their positions and else in the order of the rows. -/
theorem catalog_lists_rows {tables : List TableRow} {columns : List ColumnRow} :
    ((∃ catalog, assemble tables columns = .ok catalog) ↔ (tables.map (·.table)).Nodup) ∧
      ∀ catalog, assemble tables columns = .ok catalog →
        (catalog.tables.map (·.name)).Perm (tables.map (·.table)) ∧
        (∀ table ∈ tables, ∃ entry sorted,
          catalog.table? table.table = some ⟨table.table, entry⟩ ∧
          InOrdinalOrder (columns.filter table.owns) sorted ∧
          List.Forall₂ ColumnRow.Lists sorted entry) ∧
        ∃ owners, Owners.collect .empty tables = .ok owners ∧
          catalog = (columns.mergeSort tableOrder).foldl owners.place owners.emptyTables := by
  refine ⟨exists_assemble_iff, ?_⟩
  intro catalog hcatalog
  rcases assemble_eq_ok_iff.mp hcatalog with ⟨owners, howners, rfl⟩
  rcases Owners.collect_eq_ok_iff.mp howners with ⟨hnodup, _, hfound⟩
  simp only [NameMap.find?_empty, reduceCtorEq, or_false] at hfound
  refine ⟨?_, ?_, owners, howners, owners.mapEntries_columnsOf columns⟩
  · have hnames : (Catalog.tables (owners.mapEntries (columnsOf columns))).map (·.name) =
        owners.names := by
      simp [Catalog.tables, NameMap.mapEntries, NameMap.names]
    rw [hnames, List.perm_ext_iff_of_nodup owners.nodup_names hnodup]
    intro name
    rw [NameMap.mem_names_iff, List.mem_map]
    constructor
    · intro h
      rcases h with ⟨schema, hname⟩
      exact ⟨⟨schema, name⟩, (hfound name schema).mp hname, rfl⟩
    · intro h
      rcases h with ⟨table, htable, rfl⟩
      exact ⟨table.schema, (hfound table.table table.schema).mpr htable⟩
  · intro table htable
    rcases columnsOf_lists columns table with ⟨sorted, horder, hlists⟩
    refine ⟨columnsOf columns table.table table.schema, sorted, ?_, horder, hlists⟩
    unfold Catalog.table?
    rw [NameMap.find?_mapEntries, (hfound table.table table.schema).mpr htable]
    rfl

/-- A schema that is not listed has a table of the same name, two columns have one position, and a
table has no columns. -/
theorem catalog_lists_pets_and_log :
    let tables : List TableRow := [⟨"public", "pets"⟩, ⟨"audit", "log"⟩]
    let columns : List ColumnRow :=
      [⟨"public", "pets", "name", 2, "YES", "text", "text"⟩,
        ⟨"audit", "pets", "old", 1, "NO", "text", "text"⟩,
        ⟨"public", "pets", "id", 1, "NO", "integer", "int4"⟩,
        ⟨"public", "pets", "tags", 2, "yes", "ARRAY", "_text"⟩]
    let pets : List Column :=
      [⟨"id", "integer", false⟩, ⟨"name", "text", true⟩, ⟨"tags", "text[]", false⟩]
    let catalog : Catalog := .ofTables [⟨"pets", pets⟩, ⟨"log", []⟩]
    assemble tables columns = .ok catalog ∧
      (catalog.tables.map (·.name)).Perm ["pets", "log"] ∧
      ∃ sorted, InOrdinalOrder (columns.filter (TableRow.owns ⟨"public", "pets"⟩)) sorted ∧
        List.Forall₂ ColumnRow.Lists sorted pets := by
  intro tables columns pets catalog
  have hcatalog : assemble tables columns = .ok catalog := by
    have hpets : columnsOf columns "pets" "public" = pets := by
      simp [columnsOf, columns, pets, List.mergeSort, List.MergeSort.Internal.splitInTwo,
        ordinalOrder, ColumnRow.toColumn, ColumnRow.resolvedType]
    have hlog : columnsOf columns "log" "audit" = [] := by
      simp [columnsOf, columns]
    refine assemble_eq_ok_iff.mpr ⟨.ofList [("pets", "public"), ("log", "audit")], rfl, ?_⟩
    apply NameMap.ext_find?
    intro name
    have hentries : catalog.entries = [("log", []), ("pets", pets)] := by decide
    show List.lookup name [("log", columnsOf columns "log" "audit"),
      ("pets", columnsOf columns "pets" "public")] = List.lookup name catalog.entries
    rw [hpets, hlog, hentries]
  rcases catalog_lists_rows.right catalog hcatalog with ⟨hnames, hentries, _⟩
  rcases hentries ⟨"public", "pets"⟩ (List.mem_cons_self ..) with ⟨entry, sorted, hentry, hrows⟩
  have hpets : catalog.table? "pets" = some ⟨"pets", pets⟩ := by decide
  rw [hpets] at hentry
  cases hentry
  exact ⟨hcatalog, hnames, sorted, hrows⟩

end Rowsmith
