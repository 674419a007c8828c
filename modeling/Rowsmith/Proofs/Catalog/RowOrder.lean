import Mathlib.Data.List.Pairwise
import Rowsmith.Catalog.Assembly
import Rowsmith.Model.Render
import Rowsmith.Proofs.NameMap
import Rowsmith.Proofs.Basic

/-!
# Rows in any order

A database lists its tables and their columns in any order. A catalog is the same for all of them:
its tables are told by their names, and the columns of one table by their positions.
-/

namespace Rowsmith

/-!
# Owners of tables
-/

namespace Owners

variable {owners result : Owners} {rows : List TableRow}

theorem find?_insert_eq_none_iff {row other : TableRow} :
    (owners.insert row.table row.schema).find? other.table = none ↔
      other.table ≠ row.table ∧ owners.find? other.table = none := by
  rw [NameMap.find?_insert]
  by_cases hsame : other.table = row.table
  · simp [hsame]
  · simp [hsame]

theorem find?_insert_eq_some_iff {row : TableRow} (hnew : owners.find? row.table = none)
    {name schema : String} :
    (owners.insert row.table row.schema).find? name = some schema ↔
      ⟨schema, name⟩ = row ∨ owners.find? name = some schema := by
  rw [NameMap.find?_insert]
  by_cases hsame : name = row.table
  · rw [if_pos hsame, hsame, hnew]
    cases row
    simp [eq_comm]
  · rw [if_neg hsame]
    constructor
    · intro hfound
      exact Or.inr hfound
    · intro h
      rcases h with hrow | hfound
      · rw [← hrow] at hsame
        exact absurd rfl hsame
      · exact hfound

theorem collect_cons_eq_ok_iff {row : TableRow} :
    owners.collect (row :: rows) = .ok result ↔
      owners.find? row.table = none ∧
        Owners.collect (owners.insert row.table row.schema) rows = .ok result := by
  rw [collect]
  cases owners.find? row.table with
  | none => simp
  | some first => simp

/-- Tables are collected exactly if no name is listed twice, and then the listed schema of every
table is found under its name. -/
theorem collect_eq_ok_iff :
    owners.collect rows = .ok result ↔
      (rows.map (·.table)).Nodup ∧ (∀ row ∈ rows, owners.find? row.table = none) ∧
        ∀ name schema, result.find? name = some schema ↔
          ⟨schema, name⟩ ∈ rows ∨ owners.find? name = some schema := by
  induction rows generalizing owners with
  | nil =>
      rw [collect]
      constructor
      · intro h
        cases h
        simp
      · intro h
        have hsame : owners = result := by
          apply NameMap.ext_find?
          intro name
          apply Option.ext
          intro schema
          simpa using (h.2.2 name schema).symm
        rw [hsame]
  | cons row rest ih =>
      rw [collect_cons_eq_ok_iff, ih, List.map_cons, List.nodup_cons, List.forall_mem_cons]
      simp only [find?_insert_eq_none_iff, List.mem_cons]
      constructor
      · intro h
        rcases h with ⟨hnew, hnodup, hrest, hfound⟩
        refine ⟨⟨?_, hnodup⟩, ⟨hnew, fun other hother => (hrest other hother).right⟩, ?_⟩
        · intro hmem
          rcases List.mem_map.mp hmem with ⟨other, hother, hsame⟩
          exact (hrest other hother).left hsame
        · intro name schema
          rw [hfound, find?_insert_eq_some_iff hnew]
          exact or_left_comm.trans or_assoc.symm
      · intro h
        rcases h with ⟨⟨hfirst, hnodup⟩, ⟨hnew, hrest⟩, hfound⟩
        refine ⟨hnew, hnodup, ?_, ?_⟩
        · intro other hother
          refine ⟨?_, hrest other hother⟩
          intro hsame
          exact hfirst (List.mem_map.mpr ⟨other, hother, hsame⟩)
        · intro name schema
          rw [hfound, find?_insert_eq_some_iff hnew]
          exact or_assoc.trans or_left_comm

theorem collect_perm {others : List TableRow} (h : others.Perm rows) :
    owners.collect others = .ok result ↔ owners.collect rows = .ok result := by
  rw [collect_eq_ok_iff, collect_eq_ok_iff, (h.map _).nodup_iff]
  simp only [h.mem_iff]

end Owners

/-!
# Columns of a table
-/

theorem ordinalOrder_trans (a b c : ColumnRow) (hab : ordinalOrder a b = true)
    (hbc : ordinalOrder b c = true) : ordinalOrder a c = true := by
  simp only [ordinalOrder, decide_eq_true_eq, Int32.le_iff_toInt_le] at *
  omega

theorem ordinalOrder_total (a b : ColumnRow) : (ordinalOrder a b || ordinalOrder b a) = true := by
  simp only [ordinalOrder, Bool.or_eq_true, decide_eq_true_eq, Int32.le_iff_toInt_le]
  omega

theorem ordinal_eq_of_ordinalOrder {a b : ColumnRow} (hab : ordinalOrder a b = true)
    (hba : ordinalOrder b a = true) : a.ordinal = b.ordinal := by
  simp only [ordinalOrder, decide_eq_true_eq, Int32.le_iff_toInt_le] at hab hba
  exact Int32.toInt_inj.mp (by omega)

def ColumnRow.Apart (a b : ColumnRow) : Prop :=
  a.schema = b.schema → a.table = b.table → a.ordinal ≠ b.ordinal

instance (a b : ColumnRow) : Decidable (a.Apart b) :=
  inferInstanceAs (Decidable (_ → _))

instance : Std.Symm ColumnRow.Apart where
  symm := by
    intro a b hapart hschema htable hordinal
    exact hapart hschema.symm htable.symm hordinal.symm

def DistinctOrdinals (rows : List ColumnRow) : Prop :=
  rows.Pairwise ColumnRow.Apart

instance (rows : List ColumnRow) : Decidable (DistinctOrdinals rows) :=
  inferInstanceAs (Decidable (List.Pairwise _ _))

theorem DistinctOrdinals.eq_of_ordinal_eq {rows : List ColumnRow} (h : DistinctOrdinals rows)
    {a b : ColumnRow} (ha : a ∈ rows) (hb : b ∈ rows) (hschema : a.schema = b.schema)
    (htable : a.table = b.table) (hordinal : a.ordinal = b.ordinal) : a = b := by
  by_contra hne
  exact List.Pairwise.forall h ha hb hne hschema htable hordinal

theorem columnsOf_perm {rows others : List ColumnRow} (hdistinct : DistinctOrdinals rows)
    (h : others.Perm rows) : columnsOf others = columnsOf rows := by
  funext table schema
  unfold columnsOf
  congr 1
  refine List.Perm.eq_of_pairwise ?_
    (List.pairwise_mergeSort ordinalOrder_trans ordinalOrder_total _)
    (List.pairwise_mergeSort ordinalOrder_trans ordinalOrder_total _) ?_
  · intro a b ha hb hab hba
    rw [List.mem_mergeSort, List.mem_filter] at ha hb
    simp only [Bool.and_eq_true, decide_eq_true_eq] at ha hb
    have hschema : a.schema = b.schema := by rw [ha.2.2, hb.2.2]
    have htable : a.table = b.table := by rw [ha.2.1, hb.2.1]
    exact hdistinct.eq_of_ordinal_eq (h.mem_iff.mp ha.1) hb.1 hschema htable
      (ordinal_eq_of_ordinalOrder hab hba)
  · refine (List.mergeSort_perm _ _).trans ?_
    exact (h.filter _).trans (List.mergeSort_perm _ _).symm

/-!
# Columns of all tables at once
-/

/-- By the names of the tables, whatever their schemas, and within one name by the positions. -/
def tableOrder (a b : ColumnRow) : Bool :=
  if a.table = b.table then ordinalOrder a b else a.table < b.table

theorem tableOrder_iff {a b : ColumnRow} :
    tableOrder a b = true ↔
      a.table < b.table ∨ a.table = b.table ∧ ordinalOrder a b = true := by
  unfold tableOrder
  by_cases hsame : a.table = b.table
  · simp only [hsame, if_true, String.lt_irrefl, false_or, true_and]
  · simp [hsame]

theorem tableOrder_trans (a b c : ColumnRow) (hab : tableOrder a b = true)
    (hbc : tableOrder b c = true) : tableOrder a c = true := by
  rw [tableOrder_iff] at hab hbc ⊢
  rcases hab with hab | ⟨hab, hordinal⟩
  · rcases hbc with hbc | ⟨hbc, _⟩
    · exact Or.inl (String.lt_trans hab hbc)
    · rw [← hbc]
      exact Or.inl hab
  · rcases hbc with hbc | ⟨hbc, hordinal'⟩
    · rw [hab]
      exact Or.inl hbc
    · exact Or.inr ⟨hab.trans hbc, ordinalOrder_trans a b c hordinal hordinal'⟩

theorem tableOrder_total (a b : ColumnRow) : (tableOrder a b || tableOrder b a) = true := by
  rw [Bool.or_eq_true, tableOrder_iff, tableOrder_iff]
  by_cases hsame : a.table = b.table
  · rcases Bool.or_eq_true_iff.mp (ordinalOrder_total a b) with hordinal | hordinal
    · exact Or.inl (Or.inr ⟨hsame, hordinal⟩)
    · exact Or.inr (Or.inr ⟨hsame.symm, hordinal⟩)
  · by_cases hless : a.table < b.table
    · exact Or.inl (Or.inl hless)
    · exact Or.inr (Or.inl (Std.lt_of_le_of_ne (String.not_lt.mp hless) (Ne.symm hsame)))

theorem cut_unique (test : α → Bool) {before after before' after' : List α}
    (h : before ++ after = before' ++ after') (hbefore : ∀ a ∈ before, test a = true)
    (hafter : ∀ a ∈ after, test a = false) (hbefore' : ∀ a ∈ before', test a = true)
    (hafter' : ∀ a ∈ after', test a = false) : before = before' ∧ after = after' := by
  have hfirst := congrArg (List.filter test) h
  rw [List.filter_append, List.filter_append, List.filter_eq_self.mpr hbefore,
    List.filter_eq_self.mpr hbefore', List.filter_eq_nil_iff.mpr (by simpa using hafter),
    List.filter_eq_nil_iff.mpr (by simpa using hafter'), List.append_nil, List.append_nil] at hfirst
  rw [hfirst] at h
  exact ⟨hfirst, List.append_cancel_left h⟩

theorem mergeSort_cut {order : α → α → Bool}
    (htrans : ∀ a b c, order a b = true → order b c = true → order a c = true)
    (htotal : ∀ a b, (order a b || order b a) = true) (first : α) (rest : List α) :
    ∃ before after, (first :: rest).mergeSort order = before ++ first :: after ∧
      rest.mergeSort order = before ++ after ∧ (∀ a ∈ before, (!order first a) = true) ∧
        ∀ a ∈ after, (!order first a) = false := by
  rcases List.mergeSort_cons htrans htotal first rest with ⟨before, after, hsorted, hrest, hbefore⟩
  have hpairs := List.pairwise_mergeSort htrans htotal (first :: rest)
  rw [hsorted] at hpairs
  have hafter := (List.pairwise_cons.mp (List.pairwise_append.mp hpairs).right.left).left
  refine ⟨before, after, hsorted, hrest, hbefore, ?_⟩
  intro a ha
  rw [hafter a ha]
  rfl

/-- Picking before sorting gives what picking after sorting does, since rows that are equal to the
order keep the order in which they came. -/
theorem filter_mergeSort_tableOrder (table : String) (pick : ColumnRow → Bool)
    (hpick : ∀ row, pick row = true → row.table = table) (rows : List ColumnRow) :
    (rows.mergeSort tableOrder).filter pick = (rows.filter pick).mergeSort ordinalOrder := by
  have hsame {a b : ColumnRow} (ha : pick a = true) (hb : pick b = true) :
      tableOrder a b = ordinalOrder a b := by
    unfold tableOrder
    rw [if_pos ((hpick a ha).trans (hpick b hb).symm)]
  induction rows with
  | nil => simp
  | cons row rest ih =>
      rcases mergeSort_cut tableOrder_trans tableOrder_total row rest with
        ⟨before, after, hsorted, hrest, hbefore, hafter⟩
      rw [hrest, List.filter_append] at ih
      rw [hsorted, List.filter_append]
      by_cases hrow : pick row = true
      · -- Both sorts put the row into the one list of picked rows, which they cut in one way.
        rcases mergeSort_cut ordinalOrder_trans ordinalOrder_total row (rest.filter pick) with
          ⟨before', after', hsorted', hrest', hbefore', hafter'⟩
        rw [hrest'] at ih
        have hcut := cut_unique (fun b => !ordinalOrder row b) ih ?_ ?_ hbefore' hafter'
        · rw [List.filter_cons_of_pos hrow, List.filter_cons_of_pos hrow, hsorted', hcut.left,
            hcut.right]
        · intro b hb
          rcases List.mem_filter.mp hb with ⟨hmem, hpicked⟩
          rw [← hsame hrow hpicked]
          exact hbefore b hmem
        · intro b hb
          rcases List.mem_filter.mp hb with ⟨hmem, hpicked⟩
          rw [← hsame hrow hpicked]
          exact hafter b hmem
      · rw [List.filter_cons_of_neg hrow, List.filter_cons_of_neg hrow]
        exact ih

theorem columnsOf_eq_of_sorted (rows : List ColumnRow) (table schema : String) :
    columnsOf rows table schema =
      ((rows.mergeSort tableOrder).filter fun row =>
        row.table = table && row.schema = schema).map ColumnRow.toColumn := by
  unfold columnsOf
  rw [filter_mergeSort_tableOrder table]
  intro row hpicked
  simp only [Bool.and_eq_true, decide_eq_true_eq] at hpicked
  exact hpicked.left

/-!
# Catalogs
-/

theorem assemble_eq_ok_iff {tables : List TableRow} {columns : List ColumnRow} {catalog : Catalog} :
    assemble tables columns = .ok catalog ↔
      ∃ owners, Owners.collect .empty tables = .ok owners ∧
        owners.mapEntries (columnsOf columns) = catalog := by
  exact map_eq_ok_iff

theorem assemble_perm {tables tables' : List TableRow} {columns columns' : List ColumnRow}
    (htables : tables'.Perm tables) (hcolumns : columns'.Perm columns)
    (hdistinct : DistinctOrdinals columns) (catalog : Catalog) :
    assemble tables' columns' = .ok catalog ↔ assemble tables columns = .ok catalog := by
  rw [assemble_eq_ok_iff, assemble_eq_ok_iff, columnsOf_perm hdistinct hcolumns]
  simp only [Owners.collect_perm htables]

/-- The order in which the rows come decides neither whether a catalog can be assembled, nor which
catalog it is, nor what is rendered from it. -/
theorem generation_ignores_row_order {tables tables' : List TableRow}
    {columns columns' : List ColumnRow} (htables : tables'.Perm tables)
    (hcolumns : columns'.Perm columns) (hdistinct : DistinctOrdinals columns) :
    (∀ catalog, assemble tables' columns' = .ok catalog ↔ assemble tables columns = .ok catalog) ∧
      ∀ (overrides : Overrides) (target : Option String)
        (result : Except RenderError (List GeneratedFile)),
        (∃ catalog, assemble tables' columns' = .ok catalog ∧
            render overrides catalog target = result) ↔
          ∃ catalog, assemble tables columns = .ok catalog ∧
            render overrides catalog target = result := by
  have hassemble := assemble_perm htables hcolumns hdistinct
  refine ⟨hassemble, ?_⟩
  intro overrides target result
  constructor
  · intro h
    rcases h with ⟨catalog, hcatalog, hrender⟩
    exact ⟨catalog, (hassemble catalog).mp hcatalog, hrender⟩
  · intro h
    rcases h with ⟨catalog, hcatalog, hrender⟩
    exact ⟨catalog, (hassemble catalog).mpr hcatalog, hrender⟩

/-- Two schemas have a table of one name, and only one of them is listed. -/
theorem reversed_rows_assemble_alike :
    let tables : List TableRow := [⟨"public", "pets"⟩, ⟨"audit", "log"⟩]
    let columns : List ColumnRow :=
      [⟨"public", "pets", "name", 2, "YES", "text", "text"⟩,
        ⟨"audit", "pets", "old", 1, "NO", "text", "text"⟩,
        ⟨"public", "pets", "id", 1, "NO", "integer", "int4"⟩]
    let catalog : Catalog :=
      .ofTables [⟨"pets", [⟨"id", "integer", false⟩, ⟨"name", "text", true⟩]⟩, ⟨"log", []⟩]
    DistinctOrdinals columns ∧ assemble tables columns = .ok catalog ∧
      assemble tables.reverse columns.reverse = .ok catalog := by
  intro tables columns catalog
  have hdistinct : DistinctOrdinals columns := by decide
  have hcatalog : assemble tables columns = .ok catalog := by
    have hpets : columnsOf columns "pets" "public" =
        [⟨"id", "integer", false⟩, ⟨"name", "text", true⟩] := by
      simp [columnsOf, columns, List.mergeSort, List.MergeSort.Internal.splitInTwo, ordinalOrder,
        ColumnRow.toColumn, ColumnRow.resolvedType]
    have hlog : columnsOf columns "log" "audit" = [] := by
      simp [columnsOf, columns]
    refine assemble_eq_ok_iff.mpr ⟨.ofList [("pets", "public"), ("log", "audit")], rfl, ?_⟩
    apply NameMap.ext_find?
    intro name
    show List.lookup name [("log", columnsOf columns "log" "audit"),
      ("pets", columnsOf columns "pets" "public")] = _
    rw [hpets, hlog]
    rfl
  have halike := generation_ignores_row_order (List.reverse_perm tables)
    (List.reverse_perm columns) hdistinct
  exact ⟨hdistinct, hcatalog, (halike.left catalog).mpr hcatalog⟩

end Rowsmith
