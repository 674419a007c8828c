import Rowsmith.Proofs.Basic
import Rowsmith.Proofs.Record.Request
import Rowsmith.Record.Scan

/-!
# What binding a row changes

A cell is decoded by the type of the field it goes into, and no decoded value changes that type. So
what a row decodes to can be told from the record before the row is bound, and binding it assigns
those values one after the other.
-/

namespace Rowsmith

open Text

/-!
# Decoding keeps the type
-/

theorem Kind.kind_of_read {kind : Kind} {octets : Bytes} {d : Datum}
    (h : kind.read octets = .ok d) : d.kind = kind := by
  cases kind with
  | bool =>
      unfold Kind.read at h
      dsimp only at h
      split at h
      · cases h
        rfl
      · cases h
  | bytes =>
      cases h
      rfl
  | _ =>
      rcases map_eq_ok_iff.mp h with ⟨a, _, rfl⟩
      rfl

theorem ValueType.type_wrap {type : ValueType} {d : Datum} (h : d.kind = type.kind) :
    (type.wrap d).type = type := by
  rcases type with ⟨kind, optional⟩
  cases h
  cases optional with
  | false => rfl
  | true => rfl

theorem Value.type_of_scan {v w : Value} {type : PgType} {raw : Option Bytes}
    (h : v.scan type raw = .ok w) : w.type = v.type := by
  unfold Value.scan ValueType.scan at h
  generalize v.type = target at h
  split at h
  · split at h
    · split at h
      · next hoptional =>
          cases h
          rcases target with ⟨kind, optional⟩
          cases hoptional
          rfl
      · cases h
    · split at h
      · next hread =>
          cases h
          rcases bind_eq_ok_iff.mp hread with ⟨payload, _, hpayload⟩
          exact ValueType.type_wrap (Kind.kind_of_read hpayload)
      · cases h
  · cases h

/-!
# Assigning values to fields
-/

namespace Record

/-- The values assigned in order, each to the field at its position. -/
def assign (record : Record) (assignments : List (Nat × Value)) : Record :=
  assignments.foldl (fun record (position, v) => record.setValue position v) record

theorem fields_setValue_self {record : Record} {position : Nat} {field : Field} (v : Value)
    (h : record.fields[position]? = some field) :
    (record.setValue position v).fields[position]? = some { field with value := v } := by
  unfold setValue
  rw [List.getElem?_modify_eq, h]
  rfl

theorem fields_setValue_of_ne (record : Record) {position i : Nat} (v : Value)
    (h : position ≠ i) : (record.setValue position v).fields[i]? = record.fields[i]? := by
  unfold setValue
  exact List.getElem?_modify_ne _ _ h

@[simp] theorem columns_setValue (record : Record) (position : Nat) (v : Value) :
    (record.setValue position v).columns = record.columns := by
  unfold setValue columns
  apply List.ext_getElem?
  intro i
  rw [List.getElem?_map, List.getElem?_map, List.getElem?_modify]
  cases record.fields[i]? with
  | none => rfl
  | some field =>
      show some (if position = i then { field with value := v } else field).column = _
      split <;> rfl

@[simp] theorem columns_assign (record : Record) (assignments : List (Nat × Value)) :
    (record.assign assignments).columns = record.columns := by
  induction assignments generalizing record with
  | nil => rfl
  | cons assignment rest ih =>
      show ((record.setValue _ _).assign rest).columns = _
      rw [ih, columns_setValue]

theorem assign_cons (record : Record) (position : Nat) (v : Value)
    (rest : List (Nat × Value)) :
    record.assign ((position, v) :: rest) = (record.setValue position v).assign rest := rfl

theorem fields_assign_of_not_mem {record : Record} {assignments : List (Nat × Value)} {i : Nat}
    (h : i ∉ assignments.map Prod.fst) :
    (record.assign assignments).fields[i]? = record.fields[i]? := by
  induction assignments generalizing record with
  | nil => rfl
  | cons assignment rest ih =>
      rcases assignment with ⟨position, v⟩
      rw [List.map_cons, List.mem_cons, not_or] at h
      rw [assign_cons, ih h.right, fields_setValue_of_ne _ _ (Ne.symm h.left)]

theorem fields_assign_of_mem {record : Record} {assignments : List (Nat × Value)} {i : Nat}
    {v : Value} {field : Field} (hnodup : (assignments.map Prod.fst).Nodup)
    (h : (i, v) ∈ assignments) (hfield : record.fields[i]? = some field) :
    (record.assign assignments).fields[i]? = some { field with value := v } := by
  induction assignments generalizing record with
  | nil => cases h
  | cons assignment rest ih =>
      rcases assignment with ⟨position, w⟩
      rw [List.map_cons, List.nodup_cons] at hnodup
      rw [assign_cons]
      rcases List.mem_cons.mp h with heq | hmem
      · cases heq
        rw [fields_assign_of_not_mem hnodup.left, fields_setValue_self v hfield]
      · have hne : position ≠ i := by
          intro hsame
          subst hsame
          exact hnodup.left (List.mem_map.mpr ⟨(position, v), hmem, rfl⟩)
        apply ih hnodup.right hmem
        rw [fields_setValue_of_ne _ _ hne, hfield]

/-!
# What a row decodes to
-/

/-- The cells decode to the values by the types of the fields at the positions. -/
inductive Decodes (record : Record) : List Nat → Row → List Value → Prop where
  | nil {row : Row} : Decodes record [] row []
  | cons {position : Nat} {cell : Cell} {v : Value} {field : Field} {positions : List Nat}
      {row : Row} {vs : List Value} : record.fields[position]? = some field →
      field.value.scan cell.type cell.raw = .ok v → Decodes record positions row vs →
      Decodes record (position :: positions) (cell :: row) (v :: vs)

def fieldTypes (record : Record) : List ValueType :=
  record.fields.map (·.value.type)

theorem fieldTypes_setValue {record : Record} {position : Nat} {field : Field} {v : Value}
    (hfield : record.fields[position]? = some field) (hv : v.type = field.value.type) :
    (record.setValue position v).fieldTypes = record.fieldTypes := by
  unfold fieldTypes
  apply List.ext_getElem?
  intro i
  rw [List.getElem?_map, List.getElem?_map]
  by_cases hi : position = i
  · rw [← hi, fields_setValue_self v hfield, hfield]
    exact congrArg some hv
  · rw [fields_setValue_of_ne _ _ hi]

theorem Decodes.congr {record other : Record} {positions : List Nat} {row : Row} {vs : List Value}
    (htypes : other.fieldTypes = record.fieldTypes) (h : record.Decodes positions row vs) :
    other.Decodes positions row vs := by
  induction h with
  | nil => exact Decodes.nil
  | @cons position cell v field positions row vs hfield hscan _ ih =>
      have htype : (other.fields[position]?).map (·.value.type) = some field.value.type := by
        have hat := congrArg (·[position]?) htypes
        simp only [fieldTypes, List.getElem?_map, hfield, Option.map_some] at hat
        exact hat
      rcases Option.map_eq_some_iff.mp htype with ⟨twin, htwin, hsame⟩
      refine Decodes.cons htwin ?_ ih
      unfold Value.scan at hscan ⊢
      rw [hsame]
      exact hscan

theorem Decodes.setValue {record : Record} {position : Nat} {field : Field} {v : Value}
    {positions : List Nat} {row : Row} {vs : List Value}
    (hfield : record.fields[position]? = some field) (hv : v.type = field.value.type)
    (h : record.Decodes positions row vs) :
    (record.setValue position v).Decodes positions row vs :=
  h.congr (fieldTypes_setValue hfield hv)

end Record

namespace Scanning

/-!
# Running a scan
-/

theorem run_scanCell {record : Record} {column : String} {position : Nat} {cell : Cell} {v : Value}
    {field : Field} (hfield : record.fields[position]? = some field)
    (hscan : field.value.scan cell.type cell.raw = .ok v) :
    (scanCell column position cell).run record = .ok () (record.setValue position v) := by
  unfold scanCell
  simp only [EStateM.run_bind, EStateM.run_get]
  simp only [hfield, hscan]
  rfl

theorem run_scanCell_error {record : Record} {column : String} {position : Nat} {cell : Cell}
    {field : Field} {cause : ScanError} (hfield : record.fields[position]? = some field)
    (hscan : field.value.scan cell.type cell.raw = .error cause) :
    (scanCell column position cell).run record = .error (.decode column cause) record := by
  unfold scanCell
  simp only [EStateM.run_bind, EStateM.run_get]
  simp only [hfield, hscan]
  rfl

theorem run_scanCells_append {record : Record} {done rest : List (String × Nat)} {row : Row}
    {vs : List Value} (h : record.Decodes (done.map Prod.snd) row vs) (index : Nat) :
    (scanCells index (done ++ rest) row).run record =
      (scanCells (index + done.length) rest (row.drop done.length)).run
        (record.assign ((done.map Prod.snd).zip vs)) := by
  induction done generalizing record row vs index with
  | nil =>
      cases h
      rfl
  | cons target done ih =>
      cases h with
      | cons hfield hscan hrest =>
          have hmore := ih (hrest.setValue hfield (Value.type_of_scan hscan)) (index + 1)
          have hindex : index + (target :: done).length = index + 1 + done.length := by
            rw [List.length_cons]
            omega
          rw [List.cons_append, scanCells, EStateM.run_bind, run_scanCell hfield hscan, hindex]
          exact hmore

theorem run_scanCells {record : Record} {targets : List (String × Nat)} {row : Row}
    {vs : List Value} (h : record.Decodes (targets.map Prod.snd) row vs) (index : Nat) :
    (scanCells index targets row).run record =
      .ok () (record.assign ((targets.map Prod.snd).zip vs)) := by
  have hall := @run_scanCells_append record targets [] row vs h index
  rw [List.append_nil] at hall
  exact hall

theorem run_resolve (resolver : Resolver) (record : Record) (requested : List String) :
    (resolve resolver requested).run record =
      match resolver record requested with
      | .ok positions => .ok positions record
      | .error failure => .error failure record := by
  unfold resolve
  rw [EStateM.run_bind, EStateM.run_get]
  dsimp only
  cases resolver record requested <;> rfl

theorem run_scanRowWith_of_refused {resolver : Resolver} {record : Record} {row : Row}
    {requested : List String} {failure : Failure} (hne : requested ≠ [])
    (htargets : resolver record requested = .error failure) :
    (scanRowWith resolver row requested).run record = .error failure record := by
  unfold scanRowWith
  rw [if_neg (by simpa using hne), EStateM.run_bind, run_resolve, htargets]

theorem run_scanRowWith_of_targets {resolver : Resolver} {record : Record} {row : Row}
    {requested : List String} {positions : List Nat} (hne : requested ≠ [])
    (htargets : resolver record requested = .ok positions) :
    (scanRowWith resolver row requested).run record =
      if positions.length = requested.length then
        (scanCells 0 (requested.zip positions) row).run record
      else
        .error (.targetCount requested.length positions.length) record := by
  unfold scanRowWith
  rw [if_neg (by simpa using hne), EStateM.run_bind, run_resolve, htargets]
  dsimp only
  split
  · rfl
  · rfl

theorem run_scanRow_of_refused {record : Record} {row : Row} {requested : List String}
    {failure : Failure} (hne : requested ≠ [])
    (htargets : record.targets requested = .error failure) :
    (scanRow row requested).run record = .error failure record :=
  run_scanRowWith_of_refused hne htargets

theorem run_scanRow_of_targets {record : Record} {row : Row} {requested : List String}
    {positions : List Nat} (hne : requested ≠ [])
    (htargets : record.targets requested = .ok positions) :
    (scanRow row requested).run record =
      if positions.length = requested.length then
        (scanCells 0 (requested.zip positions) row).run record
      else
        .error (.targetCount requested.length positions.length) record :=
  run_scanRowWith_of_targets hne htargets

theorem run_scanRow {record : Record} {row : Row} {requested : List String} {vs : List Value}
    (hne : requested ≠ []) (hwithheld : record.withheld = 0) (hnodup : requested.Nodup)
    (hregistered : ∀ column ∈ requested, column ∈ record.columns)
    (hdecodes : record.Decodes (requested.map record.positionOf) row vs) :
    (scanRow row requested).run record =
      .ok () (record.assign ((requested.map record.positionOf).zip vs)) := by
  have htargets : record.targets requested = .ok (requested.map record.positionOf) := by
    unfold Record.targets Record.selectTargets
    rw [if_neg (by simpa using hne), hwithheld,
      Record.claimTargets_of_registered hnodup hregistered, Except.map, Nat.sub_zero,
      List.take_length]
  have hpositions : (requested.zip (requested.map record.positionOf)).map Prod.snd =
      requested.map record.positionOf :=
    List.map_snd_zip (Nat.le_of_eq (List.length_map _))
  rw [run_scanRow_of_targets hne htargets, if_pos (List.length_map _),
    run_scanCells (by rw [hpositions]; exact hdecodes), hpositions]

/-!
# What is left alone
-/

theorem fields_scanCell_of_ne {record : Record} {column : String} {position : Nat} {cell : Cell}
    {i : Nat} (h : position ≠ i) :
    (stateAfter ((scanCell column position cell).run record)).fields[i]? = record.fields[i]? := by
  cases hfield : record.fields[position]? with
  | none =>
      have hrun : (scanCell column position cell).run record = .ok () record := by
        unfold scanCell
        simp only [EStateM.run_bind, EStateM.run_get, hfield]
        rfl
      rw [hrun]
      rfl
  | some field =>
      cases hscan : field.value.scan cell.type cell.raw with
      | error cause =>
          rw [run_scanCell_error hfield hscan]
          rfl
      | ok v =>
          rw [run_scanCell hfield hscan]
          exact Record.fields_setValue_of_ne record v h

theorem fields_scanCells_of_not_mem {targets : List (String × Nat)} {i : Nat}
    (h : i ∉ targets.map Prod.snd) (index : Nat) (row : Row) (record : Record) :
    (stateAfter ((scanCells index targets row).run record)).fields[i]? = record.fields[i]? := by
  induction targets generalizing index row record with
  | nil => rfl
  | cons target targets ih =>
      rcases target with ⟨column, position⟩
      rw [List.map_cons, List.mem_cons, not_or] at h
      cases row with
      | nil => rfl
      | cons cell row =>
          have hcell := @fields_scanCell_of_ne record column position cell i (Ne.symm h.left)
          rw [scanCells, EStateM.run_bind]
          cases hrun : (scanCell column position cell).run record with
          | error failure after =>
              rw [hrun] at hcell
              exact hcell
          | ok _ after =>
              rw [hrun] at hcell
              exact (ih h.right (index + 1) row after).trans hcell

theorem fields_scanRowWith_of_not_mem {resolver : Resolver} {record : Record} {row : Row}
    {requested : List String} {i : Nat}
    (h : ∀ positions, resolver record requested = .ok positions → i ∉ positions) :
    (stateAfter ((scanRowWith resolver row requested).run record)).fields[i]? =
      record.fields[i]? := by
  by_cases hempty : requested = []
  · subst hempty
    rfl
  · cases htargets : resolver record requested with
    | error failure =>
        rw [run_scanRowWith_of_refused hempty htargets]
        rfl
    | ok positions =>
        rw [run_scanRowWith_of_targets hempty htargets]
        split
        · next hlength =>
            apply fields_scanCells_of_not_mem
            rw [List.map_snd_zip (Nat.le_of_eq hlength)]
            exact h positions htargets
        · rfl

end Scanning

end Rowsmith
