import Mathlib.Data.List.Forall2
import Rowsmith.Proofs.Basic
import Rowsmith.Record.Scan

/-!
# Collecting rows

All rows are bound under the names of the first one, each to a fresh record of its own. The record
goes to the end of the list once it is bound, so a row that cannot be bound leaves nothing behind,
and the rows after it are not looked at.
-/

namespace Rowsmith

open Text

namespace Record

/-- The record that the fresh one becomes by the row. -/
def Makes (fresh : Record) (columns : List String) (row : Row) (record : Record) : Prop :=
  (Scanning.scanRow row columns).run fresh = .ok () record

/-- The row cannot be bound to the fresh record. -/
def Refuses (fresh : Record) (columns : List String) (row : Row) (failure : Failure) : Prop :=
  ∃ half, (Scanning.scanRow row columns).run fresh = .error failure half

variable {fresh : Record} {columns : List String} {row : Row}

theorem makes_or_refuses (fresh : Record) (columns : List String) (row : Row) :
    (∃ record, fresh.Makes columns row record) ∨ ∃ failure, fresh.Refuses columns row failure := by
  unfold Makes Refuses
  cases (Scanning.scanRow row columns).run fresh with
  | ok _ record => exact Or.inl ⟨record, rfl⟩
  | error failure half => exact Or.inr ⟨failure, half, rfl⟩

theorem Makes.unique {record other : Record} (h : fresh.Makes columns row record)
    (hother : fresh.Makes columns row other) : record = other := by
  unfold Makes at h hother
  rw [h] at hother
  cases hother
  rfl

end Record

namespace Collecting

def columnsOf (rows : List Row) : List String :=
  (rows.head?.map Row.columns).getD []

variable {fresh : Record} {columns : List String} {xs ys records : List Record} {row : Row}
  {before rest rows : List Row} {failure : Failure}

theorem scanRows_eq_collectAll (fresh : Record) (rows : List Row) :
    scanRows fresh rows = collectAll fresh (columnsOf rows) rows := by
  cases rows with
  | nil => rfl
  | cons first rest => rfl

/-!
# Row after row
-/

theorem run_collectRow_of_makes {record : Record} (h : fresh.Makes columns row record) :
    (collectRow fresh columns row).run xs = .ok () (xs ++ [record]) := by
  unfold Record.Makes at h
  unfold collectRow
  rw [h]
  rfl

theorem run_collectRow_of_refuses (h : fresh.Refuses columns row failure) :
    (collectRow fresh columns row).run xs = .error failure xs := by
  rcases h with ⟨half, h⟩
  unfold collectRow
  rw [h]
  rfl

theorem run_collectAll_append (h : List.Forall₂ (fresh.Makes columns) before records) :
    (collectAll fresh columns (before ++ rest)).run xs =
      (collectAll fresh columns rest).run (xs ++ records) := by
  induction h generalizing xs with
  | nil => rw [List.nil_append, List.append_nil]
  | @cons row record before records hrow _ ih =>
      rw [List.cons_append, collectAll, EStateM.run_bind, run_collectRow_of_makes hrow]
      show (collectAll fresh columns (before ++ rest)).run (xs ++ [record]) = _
      rw [ih, List.append_assoc, List.singleton_append]

theorem run_collectAll_of_makes (h : List.Forall₂ (fresh.Makes columns) rows records) :
    (collectAll fresh columns rows).run xs = .ok () (xs ++ records) := by
  have hall := @run_collectAll_append fresh columns xs records rows [] h
  rw [List.append_nil] at hall
  exact hall

theorem run_collectAll_of_refuses (hbefore : List.Forall₂ (fresh.Makes columns) before records)
    (hrow : fresh.Refuses columns row failure) :
    (collectAll fresh columns (before ++ row :: rest)).run xs = .error failure (xs ++ records) := by
  rw [run_collectAll_append hbefore, collectAll, EStateM.run_bind, run_collectRow_of_refuses hrow]

theorem made_or_refused (fresh : Record) (columns : List String) (rows : List Row) :
    (∃ records, List.Forall₂ (fresh.Makes columns) rows records) ∨
      ∃ before row rest records failure, rows = before ++ row :: rest ∧
        List.Forall₂ (fresh.Makes columns) before records ∧
        fresh.Refuses columns row failure := by
  induction rows with
  | nil => exact Or.inl ⟨[], List.Forall₂.nil⟩
  | cons first others ih =>
      rcases fresh.makes_or_refuses columns first with ⟨record, hfirst⟩ | ⟨failure, hfirst⟩
      · rcases ih with ⟨records, hothers⟩ | ⟨before, row, rest, records, failure, rfl, hbefore, hrow⟩
        · exact Or.inl ⟨record :: records, List.Forall₂.cons hfirst hothers⟩
        · exact Or.inr ⟨first :: before, row, rest, record :: records, failure, rfl,
            List.Forall₂.cons hfirst hbefore, hrow⟩
      · exact Or.inr ⟨[], first, others, [], failure, rfl, List.Forall₂.nil, hfirst⟩

theorem run_collectAll_eq_ok_iff :
    (collectAll fresh columns rows).run xs = .ok () ys ↔
      ∃ records, List.Forall₂ (fresh.Makes columns) rows records ∧ ys = xs ++ records := by
  constructor
  · intro hrun
    rcases made_or_refused fresh columns rows with
      ⟨records, hrows⟩ | ⟨before, row, rest, records, failure, rfl, hbefore, hrow⟩
    · rw [run_collectAll_of_makes hrows] at hrun
      cases hrun
      exact ⟨records, hrows, rfl⟩
    · rw [run_collectAll_of_refuses hbefore hrow] at hrun
      cases hrun
  · intro hexists
    rcases hexists with ⟨records, hrows, rfl⟩
    exact run_collectAll_of_makes hrows

theorem run_collectAll_eq_error_iff :
    (collectAll fresh columns rows).run xs = .error failure ys ↔
      ∃ before row rest records, rows = before ++ row :: rest ∧
        List.Forall₂ (fresh.Makes columns) before records ∧
        fresh.Refuses columns row failure ∧ ys = xs ++ records := by
  constructor
  · intro hrun
    rcases made_or_refused fresh columns rows with
      ⟨records, hrows⟩ | ⟨before, row, rest, records, other, rfl, hbefore, hrow⟩
    · rw [run_collectAll_of_makes hrows] at hrun
      cases hrun
    · rw [run_collectAll_of_refuses hbefore hrow] at hrun
      cases hrun
      exact ⟨before, row, rest, records, rfl, hbefore, hrow, rfl⟩
  · intro hexists
    rcases hexists with ⟨before, row, rest, records, rfl, hbefore, hrow, rfl⟩
    exact run_collectAll_of_refuses hbefore hrow

/-!
# Where records come from
-/

theorem stateAfter_collectAll (fresh : Record) (columns : List String) (rows : List Row)
    (xs : List Record) :
    ∃ before rest records, rows = before ++ rest ∧
      List.Forall₂ (fresh.Makes columns) before records ∧
      stateAfter ((collectAll fresh columns rows).run xs) = xs ++ records := by
  rcases made_or_refused fresh columns rows with
    ⟨records, hrows⟩ | ⟨before, row, rest, records, failure, rfl, hbefore, hrow⟩
  · refine ⟨rows, [], records, (List.append_nil rows).symm, hrows, ?_⟩
    rw [run_collectAll_of_makes hrows]
    rfl
  · refine ⟨before, row :: rest, records, rfl, hbefore, ?_⟩
    rw [run_collectAll_of_refuses hbefore hrow]
    rfl

theorem makes_of_stateAfter {i : Nat} {record : Record}
    (h : (stateAfter ((scanRows fresh rows).run xs))[xs.length + i]? = some record) :
    ∃ row, rows[i]? = some row ∧ fresh.Makes (columnsOf rows) row record := by
  rcases stateAfter_collectAll fresh (columnsOf rows) rows xs with
    ⟨before, rest, records, hrows, hbefore, hafter⟩
  rw [scanRows_eq_collectAll, hafter, List.getElem?_append_right (Nat.le_add_right _ _),
    Nat.add_sub_cancel_left] at h
  rcases List.getElem?_eq_some_iff.mp h with ⟨hi, hrecord⟩
  have hlt : i < before.length := by
    rw [hbefore.length_eq]
    exact hi
  refine ⟨before[i], ?_, ?_⟩
  · rw [hrows, List.getElem?_append_left hlt, List.getElem?_eq_getElem hlt]
  · have hmakes := hbefore.get hlt hi
    rw [List.get_eq_getElem, List.get_eq_getElem] at hmakes
    rw [← hrecord]
    exact hmakes

end Collecting

/-- The list grows by the records of the rows in order. If some row cannot be bound, it grows by
those of the rows before the first such row, and the failure is that of this row alone. What one
row adds is the same after any other rows, before any other rows and to any other list. -/
theorem collected_rows_bind_alone {fresh : Record} {xs : List Record} {rows : List Row} :
    (∀ ys, (Collecting.scanRows fresh rows).run xs = .ok () ys ↔
      ∃ records, List.Forall₂ (fresh.Makes (Collecting.columnsOf rows)) rows records ∧
        ys = xs ++ records) ∧
    (∀ failure ys, (Collecting.scanRows fresh rows).run xs = .error failure ys ↔
      ∃ before row rest records, rows = before ++ row :: rest ∧
        List.Forall₂ (fresh.Makes (Collecting.columnsOf rows)) before records ∧
        fresh.Refuses (Collecting.columnsOf rows) row failure ∧ ys = xs ++ records) ∧
    (∀ (others : List Row) (olds : List Record),
      Collecting.columnsOf others = Collecting.columnsOf rows →
      ∀ i record other, rows[i]? = others[i]? →
        (stateAfter ((Collecting.scanRows fresh rows).run xs))[xs.length + i]? = some record →
        (stateAfter ((Collecting.scanRows fresh others).run olds))[olds.length + i]? = some other →
        record = other) ∧
    (Collecting.scanRows fresh []).run xs = .ok () xs := by
  refine ⟨?_, ?_, ?_, rfl⟩
  · intro ys
    rw [Collecting.scanRows_eq_collectAll]
    exact Collecting.run_collectAll_eq_ok_iff
  · intro failure ys
    rw [Collecting.scanRows_eq_collectAll]
    exact Collecting.run_collectAll_eq_error_iff
  · intro others olds hcolumns i record other hsame hrecord hother
    rcases Collecting.makes_of_stateAfter hrecord with ⟨row, hrow, hmakes⟩
    rcases Collecting.makes_of_stateAfter hother with ⟨twin, htwin, hmakesOther⟩
    rw [← hsame, hrow] at htwin
    cases htwin
    rw [hcolumns] at hmakesOther
    exact hmakes.unique hmakesOther

/-- The third row has a NULL where a value is required. The second row lacks the optional name of
the first one, and neither that name nor the id of the old record is found in its record. -/
theorem third_row_stops_collecting :
    let fresh : Record := ⟨[⟨"id", .required (.int32 0)⟩, ⟨"name", .absent .text⟩], 0⟩
    let made (id : Int32) (name : Value) : Record :=
      ⟨[⟨"id", .required (.int32 id)⟩, ⟨"name", name⟩], 0⟩
    let row (id : Option Bytes) (name : Option Bytes) : Row :=
      [⟨"name", .text, name⟩, ⟨"id", .int4, id⟩]
    let rows := [row (some [0, 0, 0, 1]) (some [98]), row (some [0, 0, 0, 2]) none,
      row none (some [99]), row (some [0, 0, 0, 4]) none]
    let old := made 9 (.present (.text "o"))
    (Collecting.scanRows fresh rows).run [old] = .error (.decode "id" (.wire .null))
      [old, made 1 (.present (.text "b")), made 2 (.absent .text)] := by
  intro fresh made row rows old
  have hbefore : List.Forall₂ (fresh.Makes ["name", "id"])
      [row (some [0, 0, 0, 1]) (some [98]), row (some [0, 0, 0, 2]) none]
      [made 1 (.present (.text "b")), made 2 (.absent .text)] :=
    List.Forall₂.cons rfl (List.Forall₂.cons rfl List.Forall₂.nil)
  exact (collected_rows_bind_alone.2.1 _ _).mpr ⟨_, row none (some [99]),
    [row (some [0, 0, 0, 4]) none], _, rfl, hbefore, ⟨_, rfl⟩, rfl⟩

end Rowsmith
