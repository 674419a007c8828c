import Rowsmith.Proofs.Record.ByName

/-!
# Rows that cannot be bound

What a failed row leaves behind depends on the stage at which it fails. As long as targets are
asked for nothing changes. After that the cells are scanned from left to right, so the columns
before the one that fails have their new values and everything else is as it was.
-/

namespace Rowsmith

/-!
# Cells under other names
-/

namespace Row

/-- The first cells of the row under the given names. -/
def under (row : Row) (columns : List String) : Row :=
  List.zipWith (fun column cell => { cell with column }) columns row

variable {row : Row} {columns : List String}

theorem columns_under (h : columns.length ≤ row.length) :
    (row.under columns).columns = columns := by
  induction columns generalizing row with
  | nil => rfl
  | cons column rest ih =>
      cases row with
      | nil => cases h
      | cons cell cells =>
          have hrest := ih (Nat.le_of_succ_le_succ h)
          show column :: (Row.under cells rest).columns = column :: rest
          rw [hrest]

theorem under_concat {column : String} {cell : Cell} (h : row[columns.length]? = some cell) :
    row.under (columns ++ [column]) = row.under columns ++ [{ cell with column }] := by
  induction columns generalizing row with
  | nil =>
      cases row with
      | nil => cases h
      | cons first cells =>
          cases h
          rfl
  | cons other rest ih =>
      cases row with
      | nil => cases h
      | cons first cells =>
          have hrest := @ih cells h
          show { first with column := other } :: Row.under cells (rest ++ [column]) = _
          rw [hrest]
          rfl

end Row

namespace Record

theorem Decodes.of_under {record : Record} {columns : List String} {positions : List Nat}
    {row : Row} {vs : List Value} (h : record.Decodes positions (row.under columns) vs) :
    record.Decodes positions row vs := by
  induction columns generalizing positions row vs with
  | nil =>
      cases h
      exact Decodes.nil
  | cons column rest ih =>
      cases row with
      | nil => exact h
      | cons cell cells =>
          cases h with
          | nil => exact Decodes.nil
          | cons hfield hscan hrest => exact Decodes.cons hfield hscan (ih hrest)

/-!
# The first cell that fails
-/

/-- The row has no cell at the index, or the cell does not decode into the field of the column. -/
inductive CellFails (record : Record) (row : Row) (index : Nat) (column : String) :
    Failure → Prop where
  | unread : row[index]? = none → CellFails record row index column (.columnIndex index)
  | undecoded {cell : Cell} {field : Field} {cause : ScanError} : row[index]? = some cell →
      record.field? column = some field → field.value.scan cell.type cell.raw = .error cause →
      CellFails record row index column (.decode column cause)

/-- The cells of the columns that are done decode, and the cell of the next column fails. -/
structure FailsAt (record : Record) (row : Row) (done : List String) (column : String)
    (failure : Failure) : Prop where
  enough : done.length ≤ row.length
  decoded : ∀ cell ∈ row.under done, ∃ v, record.Receives cell v
  fails : record.CellFails row done.length column failure

variable {record : Record} {row : Row} {requested done : List String} {column : String}
  {failure : Failure}

theorem exists_decodes (henough : done.length ≤ row.length)
    (hregistered : ∀ column ∈ done, column ∈ record.columns)
    (hdecoded : ∀ cell ∈ row.under done, ∃ v, record.Receives cell v) :
    ∃ vs, List.Forall₂ record.Receives (row.under done) vs ∧
      record.Decodes (done.map record.positionOf) row vs := by
  rcases exists_received_iff.mpr hdecoded with ⟨vs, hvs⟩
  have hcolumns := Row.columns_under henough
  have hdecodes := (decodes_positions_iff (by rw [hcolumns]; exact hregistered)).mpr hvs
  rw [hcolumns] at hdecodes
  exact ⟨vs, hvs, hdecodes.of_under⟩

theorem BoundTo.field_of_not_mem {after : Record} {position : Nat} (h : record.BoundTo row after)
    (hposition : record.position? column = some position) (hcolumn : column ∉ row.columns) :
    after.fields[position]? = record.fields[position]? := by
  apply h.others
  intro cell hcell hsame
  rw [← column_eq_of_position hsame hposition] at hcolumn
  exact hcolumn (List.mem_map_of_mem hcell)

theorem decodes_or_failsAt (row : Row)
    (hregistered : ∀ column ∈ requested, column ∈ record.columns) :
    (requested.length ≤ row.length ∧ ∀ cell ∈ row.under requested, ∃ v, record.Receives cell v) ∨
      ∃ done column rest failure, requested = done ++ column :: rest ∧
        record.FailsAt row done column failure := by
  induction requested using List.reverseRecOn with
  | nil => exact Or.inl ⟨Nat.zero_le _, fun cell hcell => by cases hcell⟩
  | append_singleton before column ih =>
      have hbefore : ∀ other ∈ before, other ∈ record.columns := fun other hother =>
        hregistered other (List.mem_append_left _ hother)
      rcases ih hbefore with ⟨henough, hdecoded⟩ | ⟨done, first, rest, failure, rfl, hfails⟩
      · have hcolumn : column ∈ record.columns := hregistered column (by simp)
        have hat (failure : Failure) (h : record.CellFails row before.length column failure) :
            ∃ done first rest failure, before ++ [column] = done ++ first :: rest ∧
              record.FailsAt row done first failure :=
          ⟨before, column, [], failure, rfl, henough, hdecoded, h⟩
        cases hcell : row[before.length]? with
        | none => exact Or.inr (hat _ (CellFails.unread hcell))
        | some cell =>
            cases hfield : record.field? column with
            | none => exact absurd hcolumn (field?_eq_none_iff.mp hfield)
            | some field =>
                cases hscan : field.value.scan cell.type cell.raw with
                | error cause => exact Or.inr (hat _ (CellFails.undecoded hcell hfield hscan))
                | ok v =>
                    have hlength := (List.getElem?_eq_some_iff.mp hcell).choose
                    refine Or.inl ⟨?_, ?_⟩
                    · rw [List.length_append]
                      exact hlength
                    · rw [Row.under_concat hcell, List.forall_mem_append]
                      refine ⟨hdecoded, List.forall_mem_singleton.mpr ?_⟩
                      exact ⟨v, field, hfield, hscan⟩
      · refine Or.inr ⟨done, first, rest ++ [column], failure, ?_, hfails⟩
        rw [List.append_assoc, List.cons_append]

/-!
# Requests and their targets
-/

theorem targets_eq_error_iff (hne : requested ≠ []) :
    record.targets requested = .error failure ↔ record.Offends requested failure := by
  rw [← claimTargets_eq_error_iff]
  unfold targets selectTargets
  rw [if_neg (by simpa using hne)]
  cases record.claimTargets [] requested with
  | error other => exact Iff.rfl
  | ok positions =>
      constructor
      · intro h
        cases h
      · intro h
        cases h

theorem Offends.ne_nil (h : record.Offends requested failure) : requested ≠ [] := by
  cases h with
  | unknown _ _ _ => simp
  | repeated _ _ _ => simp

theorem targets_full {positions : List Nat} (hne : requested ≠ [])
    (htargets : record.targets requested = .ok positions)
    (hlength : positions.length = requested.length) :
    requested.Nodup ∧ (∀ column ∈ requested, column ∈ record.columns) ∧
      positions = requested.map record.positionOf := by
  unfold targets selectTargets at htargets
  rw [if_neg (by simpa using hne)] at htargets
  cases hclaim : record.claimTargets [] requested with
  | error failure =>
      rw [hclaim] at htargets
      cases htargets
  | ok claimed =>
      rw [hclaim] at htargets
      cases htargets
      rcases claimTargets_eq_ok_iff_registered.mp hclaim with ⟨hnodup, hregistered, rfl⟩
      refine ⟨hnodup, hregistered, List.take_of_length_le ?_⟩
      -- What was cut off would be missing in the count.
      rw [List.length_take, List.length_map] at hlength
      rw [List.length_map]
      omega

end Record

namespace Scanning

open Record

variable {record after : Record} {row : Row} {requested : List String} {failure : Failure}

/-!
# Running a scan that fails
-/

theorem run_scanCells_of_failsAt {done rest : List String} {column : String}
    (hnodup : (done ++ column :: rest).Nodup)
    (hregistered : ∀ other ∈ done ++ column :: rest, other ∈ record.columns)
    (h : record.FailsAt row done column failure) :
    ∃ after, (scanCells 0 ((done ++ column :: rest).zip
        ((done ++ column :: rest).map record.positionOf)) row).run record = .error failure after ∧
      record.BoundTo (row.under done) after ∧ after.field? column = record.field? column := by
  have hdone : ∀ other ∈ done, other ∈ record.columns := fun other hother =>
    hregistered other (List.mem_append_left _ hother)
  have hcolumn : column ∈ record.columns := hregistered column (by simp)
  have hdistinct := (List.nodup_append.mp hnodup).1
  rcases exists_decodes h.enough hdone h.decoded with ⟨vs, hvs, hdecodes⟩
  have hnames := Row.columns_under h.enough
  have hbound := boundTo_assign (by rw [hnames]; exact hdistinct) (by rw [hnames]; exact hdone) hvs
  rw [hnames] at hbound
  -- The column that fails is none of those that are done, so its field is still as it was.
  have hnext : column ∉ done := fun hmem =>
    (List.nodup_append.mp hnodup).2.2 column hmem column (by simp) rfl
  have hposition := position?_eq_some_positionOf hcolumn
  have hkept := hbound.field_of_not_mem hposition
    (by rw [Row.columns_under h.enough]; exact hnext)
  refine ⟨record.assign ((done.map record.positionOf).zip vs), ?_, hbound, ?_⟩
  · have hzip : ((done.zip (done.map record.positionOf)).map Prod.snd) =
        done.map record.positionOf := List.map_snd_zip (Nat.le_of_eq (List.length_map _))
    have hlength : (done.zip (done.map record.positionOf)).length = done.length := by simp
    rw [List.map_append, List.zip_append (List.length_map _).symm,
      run_scanCells_append (by rw [hzip]; exact hdecodes), hzip, hlength, Nat.zero_add]
    cases h.fails with
    | unread hnone =>
        rw [List.drop_eq_nil_of_le (List.getElem?_eq_none_iff.mp hnone)]
        rfl
    | @undecoded cell field cause hcell hfield hscan =>
        rw [field?_eq_position?, hposition, Option.bind_some] at hfield
        rcases List.getElem?_eq_some_iff.mp hcell with ⟨hlt, hat⟩
        rw [List.drop_eq_getElem_cons hlt, hat, List.map_cons, List.zip_cons_cons, scanCells,
          EStateM.run_bind, run_scanCell_error (hkept.trans hfield) hscan]
  · rw [field?_eq_position?, field?_eq_position?, position?_congr (columns_assign _ _), hposition]
    exact hkept

/-- The columns before the one that fails are bound, and nothing else has changed. -/
theorem run_scanRow_of_failsAt {positions : List Nat} {done rest : List String} {column : String}
    (htargets : record.targets (done ++ column :: rest) = .ok positions)
    (hlength : positions.length = (done ++ column :: rest).length)
    (h : record.FailsAt row done column failure) :
    ∃ after, (scanRow row (done ++ column :: rest)).run record = .error failure after ∧
      record.BoundTo (row.under done) after ∧ after.field? column = record.field? column := by
  have hne : done ++ column :: rest ≠ [] := by simp
  rcases targets_full hne htargets hlength with ⟨hnodup, hregistered, hpositions⟩
  rw [run_scanRow_of_targets hne htargets, if_pos hlength, hpositions]
  exact run_scanCells_of_failsAt hnodup hregistered h

theorem failsAt_of_run_scanRow {positions : List Nat} (hne : requested ≠ [])
    (htargets : record.targets requested = .ok positions)
    (hlength : positions.length = requested.length)
    (hrun : (scanRow row requested).run record = .error failure after) :
    ∃ done column rest, requested = done ++ column :: rest ∧
      record.FailsAt row done column failure ∧ record.BoundTo (row.under done) after := by
  rcases targets_full hne htargets hlength with ⟨_, hregistered, hpositions⟩
  rcases decodes_or_failsAt row hregistered with
    ⟨henough, hdecoded⟩ | ⟨done, column, rest, other, hcolumns, hfails⟩
  · rcases exists_decodes henough hregistered hdecoded with ⟨vs, _, hdecodes⟩
    have hzip : (requested.zip positions).map Prod.snd = positions :=
      List.map_snd_zip (Nat.le_of_eq hlength)
    rw [run_scanRow_of_targets hne htargets, if_pos hlength,
      run_scanCells (by rw [hzip, hpositions]; exact hdecodes)] at hrun
    cases hrun
  · subst hcolumns
    rcases run_scanRow_of_failsAt htargets hlength hfails with ⟨reached, hreached, hbound, _⟩
    rw [hreached] at hrun
    cases hrun
    exact ⟨done, column, rest, rfl, hfails, hbound⟩

end Scanning

/-- A row that fails leaves behind what its failure tells. If a column is unknown or repeated, the
first such column is named and nothing has changed. If there are fewer or more targets than columns,
however the record resolves them, nothing has changed either. Otherwise some column is the first
whose cell cannot be read or does not decode: the columns before it are bound, and all else is as it
was. -/
theorem failed_row_leaves_known_record {record : Record} {row : Row} {columns : List String} :
    (¬(columns.Nodup ∧ ∀ column ∈ columns, column ∈ record.columns) →
      ∃ failure, record.Offends columns failure ∧
        (Scanning.scanRow row columns).run record = .error failure record) ∧
    (∀ (resolver : Scanning.Resolver) positions, resolver record columns = .ok positions →
      positions.length ≠ columns.length →
      (Scanning.scanRowWith resolver row columns).run record =
        if columns = [] then .ok () record
        else .error (.targetCount columns.length positions.length) record) ∧
    (∀ positions, record.targets columns = .ok positions → positions.length = columns.length →
      ∀ done column rest failure, columns = done ++ column :: rest →
        record.FailsAt row done column failure →
        ∃ after, (Scanning.scanRow row columns).run record = .error failure after ∧
          record.BoundTo (row.under done) after ∧
          after.field? column = record.field? column) ∧
    ∀ failure after, (Scanning.scanRow row columns).run record = .error failure after →
      record.Offends columns failure ∧ after = record ∨
      (∃ positions, record.targets columns = .ok positions ∧ positions.length ≠ columns.length ∧
        failure = .targetCount columns.length positions.length ∧ after = record) ∨
      ∃ done column rest, columns = done ++ column :: rest ∧
        record.FailsAt row done column failure ∧ record.BoundTo (row.under done) after := by
  refine ⟨?_, ?_, ?_, ?_⟩
  · intro hbad
    rcases Record.registered_or_offends record columns with hgood | ⟨failure, hoffends⟩
    · exact absurd hgood hbad
    · refine ⟨failure, hoffends, ?_⟩
      exact Scanning.run_scanRow_of_refused hoffends.ne_nil
        ((Record.targets_eq_error_iff hoffends.ne_nil).mpr hoffends)
  · intro resolver positions htargets hlength
    by_cases hempty : columns = []
    · rw [if_pos hempty, hempty]
      rfl
    · rw [if_neg hempty, Scanning.run_scanRowWith_of_targets hempty htargets, if_neg hlength]
  · intro positions htargets hlength done column rest failure hcolumns hfails
    subst hcolumns
    exact Scanning.run_scanRow_of_failsAt htargets hlength hfails
  · intro failure after hrun
    have hne : columns ≠ [] := by
      intro hsame
      subst hsame
      cases hrun
    cases htargets : record.targets columns with
    | error other =>
        rw [Scanning.run_scanRow_of_refused hne htargets] at hrun
        cases hrun
        exact Or.inl ⟨(Record.targets_eq_error_iff hne).mp htargets, rfl⟩
    | ok positions =>
        by_cases hlength : positions.length = columns.length
        · exact Or.inr (Or.inr (Scanning.failsAt_of_run_scanRow hne htargets hlength hrun))
        · rw [Scanning.run_scanRow_of_targets hne htargets, if_neg hlength] at hrun
          cases hrun
          exact Or.inr (Or.inl ⟨positions, rfl, hlength, rfl, rfl⟩)

/-- The first two columns are bound, the cell of the third is NULL where a value is required, and
the fourth column is not reached. -/
theorem third_cell_fails :
    let record : Record := ⟨[⟨"id", .required (.int32 1)⟩, ⟨"name", .required (.text "bob")⟩,
      ⟨"nick", .present (.text "b")⟩, ⟨"age", .required (.int16 30)⟩], 0⟩
    let row : Row := [⟨"a", .text, none⟩, ⟨"b", .int4, some [0, 0, 0, 7]⟩, ⟨"c", .int2, none⟩,
      ⟨"d", .text, some [65]⟩]
    let columns := ["nick", "id", "age", "name"]
    let after : Record := ⟨[⟨"id", .required (.int32 7)⟩, ⟨"name", .required (.text "bob")⟩,
      ⟨"nick", .absent .text⟩, ⟨"age", .required (.int16 30)⟩], 0⟩
    record.targets columns = .ok [2, 0, 3, 1] ∧
      record.FailsAt row ["nick", "id"] "age" (.decode "age" (.wire .null)) ∧
      (Scanning.scanRow row columns).run record = .error (.decode "age" (.wire .null)) after ∧
      record.BoundTo (row.under ["nick", "id"]) after := by
  intro record row columns after
  have htargets : record.targets columns = .ok [2, 0, 3, 1] := by decide
  have hfails : record.FailsAt row ["nick", "id"] "age" (.decode "age" (.wire .null)) := by
    refine ⟨by decide, ?_, .undecoded rfl rfl rfl⟩
    refine List.forall_mem_cons.mpr ⟨⟨.absent .text, _, rfl, rfl⟩, ?_⟩
    exact List.forall_mem_singleton.mpr ⟨.required (.int32 7), _, rfl, rfl⟩
  rcases failed_row_leaves_known_record.2.2.1 _ htargets rfl _ _ _ _ rfl hfails with
    ⟨reached, hreached, hbound, _⟩
  have hafter : (Scanning.scanRow row columns).run record =
      .error (.decode "age" (.wire .null)) after := by rfl
  rw [hafter] at hreached
  cases hreached
  exact ⟨htargets, hfails, hafter, hbound⟩

end Rowsmith
