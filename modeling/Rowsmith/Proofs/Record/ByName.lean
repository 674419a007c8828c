import Rowsmith.Proofs.Record.Binding

/-!
# Rows bound by name

A row that is bound under the names of its own columns says by those names alone where its cells
go. So the order of its cells does not matter, and a row that is bound leaves exactly one record
behind.
-/

namespace Rowsmith

namespace Record

/-- The cell decodes to the value in the first field that has its name. -/
def Receives (record : Record) (cell : Cell) (v : Value) : Prop :=
  ∃ field, record.field? cell.column = some field ∧ field.value.scan cell.type cell.raw = .ok v

/-- Every named field holds what its cell decodes to, and all else is as it was. -/
structure BoundTo (record : Record) (row : Row) (after : Record) : Prop where
  named : ∀ cell ∈ row, ∃ position field v, record.position? cell.column = some position ∧
    record.fields[position]? = some field ∧ field.value.scan cell.type cell.raw = .ok v ∧
    after.fields[position]? = some { field with value := v }
  others : ∀ i, (∀ cell ∈ row, record.position? cell.column ≠ some i) →
    after.fields[i]? = record.fields[i]?
  withheld : after.withheld = record.withheld

variable {record after : Record} {row : Row}

theorem BoundTo.perm {other : Row} (h : record.BoundTo row after) (hperm : other.Perm row) :
    record.BoundTo other after := by
  constructor
  · intro cell hcell
    exact h.named cell (hperm.mem_iff.mp hcell)
  · intro i hfree
    apply h.others i
    intro cell hcell
    exact hfree cell (hperm.mem_iff.mpr hcell)
  · exact h.withheld

theorem BoundTo.unique {other : Record} (h : record.BoundTo row after)
    (hother : record.BoundTo row other) : after = other := by
  have hfields : after.fields = other.fields := by
    apply List.ext_getElem?
    intro i
    by_cases hfree : ∀ cell ∈ row, record.position? cell.column ≠ some i
    · rw [h.others i hfree, hother.others i hfree]
    · push Not at hfree
      rcases hfree with ⟨cell, hcell, hi⟩
      rcases h.named cell hcell with ⟨position, field, v, hposition, hfield, hscan, hafter⟩
      rcases hother.named cell hcell with
        ⟨position', field', v', hposition', hfield', hscan', hafter'⟩
      rw [hi] at hposition hposition'
      cases hposition
      cases hposition'
      rw [hfield] at hfield'
      cases hfield'
      rw [hscan] at hscan'
      cases hscan'
      rw [hafter, hafter']
  have hwithheld : after.withheld = other.withheld := by
    rw [h.withheld, hother.withheld]
  cases after
  cases other
  cases hfields
  cases hwithheld
  rfl

/-!
# Cells and their fields
-/

theorem receives_iff {cell : Cell} {v : Value} {position : Nat} {field : Field}
    (hposition : record.position? cell.column = some position)
    (hfield : record.fields[position]? = some field) :
    record.Receives cell v ↔ field.value.scan cell.type cell.raw = .ok v := by
  have hfound : record.field? cell.column = some field := by
    rw [field?_eq_position?, hposition, Option.bind_some, hfield]
  unfold Receives
  rw [hfound]
  constructor
  · intro h
    rcases h with ⟨other, hother, hscan⟩
    cases hother
    exact hscan
  · intro hscan
    exact ⟨field, rfl, hscan⟩

/-- Cells decode into the fields at the positions of their columns exactly if every one of them
decodes into the first field of its name. -/
theorem decodes_positions_iff {vs : List Value}
    (hregistered : ∀ column ∈ row.columns, column ∈ record.columns) :
    record.Decodes (row.columns.map record.positionOf) row vs ↔
      List.Forall₂ record.Receives row vs := by
  induction row generalizing vs with
  | nil =>
      constructor
      · intro h
        cases h
        exact List.Forall₂.nil
      · intro h
        cases h
        exact Decodes.nil
  | cons cell rest ih =>
      have hcolumn := hregistered cell.column (by simp [Row.columns])
      have hposition := position?_eq_some_positionOf hcolumn
      rcases field_at_position hposition with ⟨field, hfield, _⟩
      have hrest := fun ws => @ih ws fun column hcolumn =>
        hregistered column (List.mem_cons_of_mem _ hcolumn)
      constructor
      · intro h
        cases h with
        | cons hother hscan hmore =>
            rw [hfield] at hother
            cases hother
            exact List.Forall₂.cons ((receives_iff hposition hfield).mpr hscan) ((hrest _).mp hmore)
      · intro h
        cases h with
        | cons hreceives hmore =>
            exact Decodes.cons hfield ((receives_iff hposition hfield).mp hreceives)
              ((hrest _).mpr hmore)

theorem exists_received_iff :
    (∃ vs, List.Forall₂ record.Receives row vs) ↔ ∀ cell ∈ row, ∃ v, record.Receives cell v := by
  induction row with
  | nil => simp
  | cons cell rest ih =>
      rw [List.forall_mem_cons, ← ih]
      constructor
      · intro h
        rcases h with ⟨vs, hvs⟩
        cases hvs with
        | cons hfirst hrest => exact ⟨⟨_, hfirst⟩, _, hrest⟩
      · intro h
        rcases h with ⟨⟨v, hfirst⟩, vs, hrest⟩
        exact ⟨v :: vs, List.Forall₂.cons hfirst hrest⟩

/-!
# The record after
-/

theorem withheld_assign (record : Record) (assignments : List (Nat × Value)) :
    (record.assign assignments).withheld = record.withheld := by
  induction assignments generalizing record with
  | nil => rfl
  | cons assignment rest ih =>
      rcases assignment with ⟨position, v⟩
      rw [assign_cons, ih]
      rfl

theorem mem_zip_of_received {vs : List Value} {cell : Cell}
    (hreceived : List.Forall₂ record.Receives row vs) (hcell : cell ∈ row) :
    ∃ v, record.Receives cell v ∧
      (record.positionOf cell.column, v) ∈ (row.columns.map record.positionOf).zip vs := by
  induction hreceived with
  | nil => cases hcell
  | @cons other w row ws hfirst _ ih =>
      rcases List.mem_cons.mp hcell with hsame | hmem
      · rw [hsame]
        exact ⟨w, hfirst, List.mem_cons_self ..⟩
      · rcases ih hmem with ⟨v, hv, hzip⟩
        exact ⟨v, hv, List.mem_cons_of_mem _ hzip⟩

theorem boundTo_assign {vs : List Value} (hnodup : row.columns.Nodup)
    (hregistered : ∀ column ∈ row.columns, column ∈ record.columns)
    (hreceived : List.Forall₂ record.Receives row vs) :
    record.BoundTo row (record.assign ((row.columns.map record.positionOf).zip vs)) := by
  have hlength : (row.columns.map record.positionOf).length = vs.length := by
    rw [List.length_map, Row.columns, List.length_map, hreceived.length_eq]
  have hpositions : ((row.columns.map record.positionOf).zip vs).map Prod.fst =
      row.columns.map record.positionOf := List.map_fst_zip (Nat.le_of_eq hlength)
  have hdistinct := nodup_positions hnodup hregistered
  constructor
  · intro cell hcell
    have hcolumn : cell.column ∈ row.columns := List.mem_map_of_mem hcell
    have hposition := position?_eq_some_positionOf (hregistered cell.column hcolumn)
    rcases field_at_position hposition with ⟨field, hfield, _⟩
    rcases mem_zip_of_received hreceived hcell with ⟨v, hv, hmem⟩
    refine ⟨_, field, v, hposition, hfield, (receives_iff hposition hfield).mp hv, ?_⟩
    exact fields_assign_of_mem (by rw [hpositions]; exact hdistinct) hmem hfield
  · intro i hfree
    apply fields_assign_of_not_mem
    rw [hpositions]
    intro hi
    rcases List.mem_map.mp hi with ⟨column, hcolumn, hposition⟩
    rcases List.mem_map.mp hcolumn with ⟨cell, hcell, hname⟩
    apply hfree cell hcell
    rw [hname, position?_eq_some_positionOf (hregistered column hcolumn), hposition]
  · exact withheld_assign record _

end Record

namespace Scanning

open Record

variable {record after : Record} {row : Row} {requested : List String}

/-!
# Rows that are bound
-/

/-- Cells that were all scanned decode by the types that the fields had before the first one. -/
theorem decodes_of_run_scanCells {targets : List (String × Nat)} {index : Nat}
    (hfields : ∀ target ∈ targets, target.2 < record.fields.length)
    (hrun : (scanCells index targets row).run record = .ok () after) :
    ∃ vs, record.Decodes (targets.map Prod.snd) row vs := by
  induction targets generalizing record row index with
  | nil => exact ⟨[], Decodes.nil⟩
  | cons target rest ih =>
      rcases target with ⟨column, position⟩
      have hposition : position < record.fields.length := hfields (column, position) (by simp)
      have hfield := List.getElem?_eq_getElem hposition
      cases row with
      | nil => cases hrun
      | cons cell cells =>
          rw [scanCells, EStateM.run_bind] at hrun
          cases hscan : record.fields[position].value.scan cell.type cell.raw with
          | error cause =>
              rw [run_scanCell_error hfield hscan] at hrun
              cases hrun
          | ok v =>
              have htype := Value.type_of_scan hscan
              rw [run_scanCell hfield hscan] at hrun
              have hlength : (record.setValue position v).fields.length = record.fields.length :=
                List.length_modify _ _ _
              have hrest : ∀ target ∈ rest,
                  target.2 < (record.setValue position v).fields.length := by
                intro target htarget
                rw [hlength]
                exact hfields target (List.mem_cons_of_mem _ htarget)
              rcases ih hrest hrun with ⟨vs, hvs⟩
              exact ⟨v :: vs,
                Decodes.cons hfield hscan (hvs.congr (fieldTypes_setValue hfield htype).symm)⟩

theorem targets_eq_ok_iff {positions : List Nat} (hwithheld : record.withheld = 0)
    (hne : requested ≠ []) :
    record.targets requested = .ok positions ↔
      requested.Nodup ∧ (∀ column ∈ requested, column ∈ record.columns) ∧
        positions = requested.map record.positionOf := by
  have hclaim : record.targets requested = record.claimTargets [] requested := by
    unfold Record.targets selectTargets
    rw [if_neg (by simpa using hne), hwithheld]
    cases record.claimTargets [] requested with
    | error failure => rfl
    | ok claimed => simp [Except.map]
  rw [hclaim]
  exact claimTargets_eq_ok_iff_registered

/-- A row is bound exactly if its columns can be told apart and found, and its cells decode. -/
theorem run_scanRow_eq_ok_iff (hwithheld : record.withheld = 0) (hne : requested ≠ []) :
    (scanRow row requested).run record = .ok () after ↔
      requested.Nodup ∧ (∀ column ∈ requested, column ∈ record.columns) ∧
        ∃ vs, record.Decodes (requested.map record.positionOf) row vs ∧
          after = record.assign ((requested.map record.positionOf).zip vs) := by
  constructor
  · intro hrun
    cases htargets : record.targets requested with
    | error failure =>
        rw [run_scanRow_of_refused hne htargets] at hrun
        cases hrun
    | ok positions =>
        rcases (targets_eq_ok_iff hwithheld hne).mp htargets with ⟨hnodup, hregistered, hpositions⟩
        rw [run_scanRow_of_targets hne htargets, hpositions, if_pos (List.length_map _)] at hrun
        have hzip : (requested.zip (requested.map record.positionOf)).map Prod.snd =
            requested.map record.positionOf :=
          List.map_snd_zip (Nat.le_of_eq (List.length_map _))
        have hfields : ∀ target ∈ requested.zip (requested.map record.positionOf),
            target.2 < record.fields.length := by
          intro target htarget
          have hmem := List.mem_map_of_mem (f := Prod.snd) htarget
          rw [hzip] at hmem
          rcases List.mem_map.mp hmem with ⟨column, hcolumn, hposition⟩
          rcases field_at_position (position?_eq_some_positionOf (hregistered column hcolumn)) with
            ⟨field, hfield, _⟩
          rw [← hposition]
          exact (List.getElem?_eq_some_iff.mp hfield).choose
        rcases decodes_of_run_scanCells hfields hrun with ⟨vs, hdecodes⟩
        rw [run_scanCells hdecodes] at hrun
        cases hrun
        rw [hzip] at hdecodes ⊢
        exact ⟨hnodup, hregistered, vs, hdecodes, rfl⟩
  · intro h
    rcases h with ⟨hnodup, hregistered, vs, hdecodes, hafter⟩
    rw [hafter]
    exact run_scanRow hne hwithheld hnodup hregistered hdecodes

/-!
# Rows under their own names
-/

structure Fits (record : Record) (row : Row) : Prop where
  distinct : row.columns.Nodup
  registered : ∀ column ∈ row.columns, column ∈ record.columns
  received : ∀ cell ∈ row, ∃ v, record.Receives cell v

theorem Fits.perm {other : Row} (h : Fits record row) (hperm : other.Perm row) :
    Fits record other := by
  have hcolumns : other.columns.Perm row.columns := hperm.map _
  constructor
  · exact hcolumns.nodup_iff.mpr h.distinct
  · intro column hcolumn
    exact h.registered column (hcolumns.mem_iff.mp hcolumn)
  · intro cell hcell
    exact h.received cell (hperm.mem_iff.mp hcell)

theorem columns_ne_nil (hne : row ≠ []) : row.columns ≠ [] := by
  unfold Row.columns
  simpa using hne

theorem exists_scanned_iff (hwithheld : record.withheld = 0) (hne : row ≠ []) :
    (∃ after, (scanRow row row.columns).run record = .ok () after) ↔ Fits record row := by
  constructor
  · intro h
    rcases h with ⟨after, hrun⟩
    rcases (run_scanRow_eq_ok_iff hwithheld (columns_ne_nil hne)).mp hrun with
      ⟨hnodup, hregistered, vs, hdecodes, _⟩
    have hreceived := (decodes_positions_iff hregistered).mp hdecodes
    exact ⟨hnodup, hregistered, exists_received_iff.mp ⟨vs, hreceived⟩⟩
  · intro h
    rcases exists_received_iff.mpr h.received with ⟨vs, hvs⟩
    have hdecodes := (decodes_positions_iff h.registered).mpr hvs
    exact ⟨_, run_scanRow (columns_ne_nil hne) hwithheld h.distinct h.registered hdecodes⟩

theorem boundTo_of_scanned (hwithheld : record.withheld = 0) (hne : row ≠ [])
    (hrun : (scanRow row row.columns).run record = .ok () after) : record.BoundTo row after := by
  rcases (run_scanRow_eq_ok_iff hwithheld (columns_ne_nil hne)).mp hrun with
    ⟨hnodup, hregistered, vs, hdecodes, hafter⟩
  rw [hafter]
  exact boundTo_assign hnodup hregistered ((decodes_positions_iff hregistered).mp hdecodes)

theorem scanned_of_perm {other : Row} (hwithheld : record.withheld = 0) (hne : row ≠ [])
    (hperm : other.Perm row) (hrun : (scanRow row row.columns).run record = .ok () after) :
    (scanRow other other.columns).run record = .ok () after := by
  have hother : other ≠ [] := by
    intro hnil
    rw [hnil] at hperm
    exact hne (List.nil_perm.mp hperm)
  have hfits := (exists_scanned_iff hwithheld hne).mp ⟨after, hrun⟩
  rcases (exists_scanned_iff hwithheld hother).mpr (hfits.perm hperm) with ⟨reached, hreached⟩
  have hbound := boundTo_of_scanned hwithheld hne hrun
  have hboundOther := boundTo_of_scanned hwithheld hother hreached
  rw [(hbound.perm hperm).unique hboundOther]
  exact hreached

end Scanning

/-- A row is bound under the names of its own columns exactly if these are different, all of them
are names of fields, and every cell decodes into the first field of its name. Then the named fields
hold what was decoded and nothing else has changed. The order of the cells is of no account. -/
theorem rows_bind_by_name {record : Record} {row : Row} (hwithheld : record.withheld = 0)
    (hne : row ≠ []) :
    ((∃ after, (Scanning.scanRow row row.columns).run record = .ok () after) ↔
      row.columns.Nodup ∧ (∀ column ∈ row.columns, column ∈ record.columns) ∧
        ∀ cell ∈ row, ∃ v, record.Receives cell v) ∧
    (∀ after, (Scanning.scanRow row row.columns).run record = .ok () after →
      record.BoundTo row after) ∧
    ∀ other : Row, other.Perm row → ∀ after,
      (Scanning.scanRow other other.columns).run record = .ok () after ↔
        (Scanning.scanRow row row.columns).run record = .ok () after := by
  refine ⟨?_, ?_, ?_⟩
  · rw [Scanning.exists_scanned_iff hwithheld hne]
    constructor
    · intro hfits
      exact ⟨hfits.distinct, hfits.registered, hfits.received⟩
    · intro h
      exact ⟨h.1, h.2.1, h.2.2⟩
  · intro after hrun
    exact Scanning.boundTo_of_scanned hwithheld hne hrun
  · intro other hperm after
    constructor
    · intro hrun
      have hother : other ≠ [] := by
        intro hnil
        rw [hnil] at hperm
        exact hne (List.nil_perm.mp hperm)
      exact Scanning.scanned_of_perm hwithheld hother hperm.symm hrun
    · intro hrun
      exact Scanning.scanned_of_perm hwithheld hne hperm hrun

/-- The record has two fields of one name and a field that the row says nothing of; one of the cells
is NULL. -/
theorem row_with_null_binds :
    let record : Record := ⟨[⟨"id", .required (.int32 1)⟩, ⟨"name", .present (.text "bob")⟩,
      ⟨"id", .required (.int32 2)⟩, ⟨"age", .required (.int16 30)⟩], 0⟩
    let row : Row := [⟨"name", .text, none⟩, ⟨"id", .int4, some [0, 0, 0, 7]⟩]
    let after : Record := ⟨[⟨"id", .required (.int32 7)⟩, ⟨"name", .absent .text⟩,
      ⟨"id", .required (.int32 2)⟩, ⟨"age", .required (.int16 30)⟩], 0⟩
    record.withheld = 0 ∧ row ≠ [] ∧ row.reverse.Perm row ∧ record.BoundTo row after ∧
      (Scanning.scanRow row.reverse (Row.columns row.reverse)).run record = .ok () after := by
  intro record row after
  have hwithheld : record.withheld = 0 := rfl
  have hne : row ≠ [] := List.cons_ne_nil _ _
  have hrun : (Scanning.scanRow row row.columns).run record = .ok () after := by rfl
  rcases rows_bind_by_name hwithheld hne with ⟨_, hbound, horder⟩
  have hperm : row.reverse.Perm row := List.reverse_perm row
  exact ⟨hwithheld, hne, hperm, hbound after hrun, (horder _ hperm after).mpr hrun⟩

end Rowsmith
