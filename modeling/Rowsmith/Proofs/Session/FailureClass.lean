import Rowsmith.Proofs.Derive.DerivedRecord
import Rowsmith.Proofs.Session.Execution
import Rowsmith.Proofs.Statement.FirstFault

/-!
# The class of what fails before a statement is sent

Failures of conditions and of an INSERT without rows belong to the class of failures that come up
while a statement is built. The failure of a row that is asked for an unknown column comes up then
too, but has the class of failures that come up while results are bound.
-/

namespace Rowsmith

/-!
# Ordinary tables and rows
-/

/-- The table is there under its name and writes nothing else. -/
inductive Table.IsOrdinary : Table → Prop where
  | named (name : String) : IsOrdinary (.named name)
  | described (table : TableDescription) : IsOrdinary (.described table)

/-- The row is asked for its values through the record, which may be what derived code registers for
a value of its struct. -/
inductive InsertRow.Asks : InsertRow → Record → Prop where
  | record (source : Record) : Asks (.record source) source
  | derived (bindings : List Derive.Binding) (whole : Record) :
      Asks (.custom (Derive.valuesOf bindings whole)) (Derive.registered bindings whole)

inductive InsertRow.IsOrdinary : InsertRow → Prop where
  | listed (vs : List Value) : IsOrdinary (.values vs)
  | asking {row : InsertRow} {record : Record} (h : row.Asks record) : IsOrdinary row

structure Insert.IsOrdinary (insert : Insert) : Prop where
  table : insert.table.IsOrdinary
  rows : ∀ row ∈ insert.rows, row.IsOrdinary

/-- The first row that cannot be asked for the columns lacks this one. -/
def Insert.Lacks (insert : Insert) (column : String) : Prop :=
  ∃ before row record after, insert.rows = before ++ row :: after ∧
    (∀ earlier ∈ before, ∀ other, earlier.Asks other →
      ∀ named ∈ insert.columns, named ∈ other.columns) ∧
    row.Asks record ∧ record.Lacks insert.columns column

/-!
# Failures of the parts
-/

theorem Table.IsOrdinary.failure?_write {table : Table} (h : table.IsOrdinary)
    (before : Statement) : table.write.failure? before = none := by
  cases h with
  | named name => exact Writing.failsWith_put name before
  | described table => exact Writing.failsWith_put table.name before

theorem Condition.category_of_fault? {c : Condition} {failure : Failure}
    (h : c.fault? = some failure) : failure.category = .build := by
  rcases c with ⟨operator, column, v | ⟨_ | ⟨v, vs⟩⟩⟩ | ⟨operator, _ | ⟨first, rest⟩⟩
  all_goals cases h
  all_goals rfl

theorem Condition.category_of_firstFault? {c : Condition} {failure : Failure}
    (h : c.firstFault? = some failure) : failure.category = .build := by
  rcases List.exists_of_findSome?_eq_some h with ⟨node, _, hfault⟩
  exact category_of_fault? hfault

namespace InsertRow

variable {row : InsertRow} {record : Record} {columns : List String} {failure : Failure}

theorem Asks.fault? (h : row.Asks record) :
    row.fault? columns = failureOf? (record.values columns) := by
  cases h with
  | record => rfl
  | derived bindings whole => rfl

theorem Asks.fault?_eq_some_iff (h : row.Asks record) :
    row.fault? columns = some failure ↔
      ∃ column, record.Lacks columns column ∧ failure = .unknownColumn column := by
  rw [h.fault?, failureOf?_eq_some_iff, Record.values_eq_error_iff]

theorem Asks.fault?_eq_none_iff (h : row.Asks record) :
    row.fault? columns = none ↔ ∀ column ∈ columns, column ∈ record.columns := by
  rw [h.fault?, failureOf?_eq_none_iff, Record.exists_values_iff]

theorem IsOrdinary.fault?_eq_some_iff (h : row.IsOrdinary) :
    row.fault? columns = some failure ↔
      ∃ record, row.Asks record ∧
        ∃ column, record.Lacks columns column ∧ failure = .unknownColumn column := by
  constructor
  · intro hfault
    cases h with
    | listed vs => cases hfault
    | asking hasks => exact ⟨_, hasks, hasks.fault?_eq_some_iff.mp hfault⟩
  · intro hexists
    rcases hexists with ⟨record, hasks, hlacks⟩
    exact hasks.fault?_eq_some_iff.mpr hlacks

theorem IsOrdinary.fault?_eq_none_iff (h : row.IsOrdinary) :
    row.fault? columns = none ↔
      ∀ record, row.Asks record → ∀ column ∈ columns, column ∈ record.columns := by
  constructor
  · intro hfault record hasks
    exact hasks.fault?_eq_none_iff.mp hfault
  · intro hall
    cases h with
    | listed vs => rfl
    | asking hasks => exact hasks.fault?_eq_none_iff.mpr (hall _ hasks)

end InsertRow

/-!
# Failures of statements
-/

theorem Select.category_of_compile {select : Select} {failure : Failure}
    (htable : ∀ table ∈ select.table, table.IsOrdinary) (h : select.compile = .error failure) :
    failure.category = .build := by
  have hnone : select.tableFailure? = none := by
    unfold tableFailure?
    cases hselected : select.table with
    | none => rfl
    | some table => exact (htable table hselected).failure?_write _
  rw [← failureOf?_eq_some_iff, failureOf?_compile, hnone, Option.none_or] at h
  rcases Option.bind_eq_some_iff.mp h with ⟨condition, _, hfault⟩
  exact Condition.category_of_firstFault? hfault

namespace Insert

variable {insert : Insert} {failure : Failure}

theorem compile_of_no_rows (h : insert.rows = []) : insert.compile = .error .noRows := by
  unfold compile write
  rw [if_pos (by simp [h])]
  rfl

theorem Lacks.rows_ne_nil {column : String} (h : insert.Lacks column) : insert.rows ≠ [] := by
  rcases h with ⟨before, row, record, after, hrows, _⟩
  rw [hrows]
  exact List.append_ne_nil_of_right_ne_nil before (List.cons_ne_nil row after)

theorem findSome?_fault?_eq_some_iff (h : ∀ row ∈ insert.rows, row.IsOrdinary) :
    insert.rows.findSome? (InsertRow.fault? insert.columns) = some failure ↔
      ∃ column, insert.Lacks column ∧ failure = .unknownColumn column := by
  rw [List.findSome?_eq_some_iff]
  constructor
  · intro hexists
    rcases hexists with ⟨before, row, after, hrows, hfault, hbefore⟩
    have hrow := h row (by simp [hrows])
    rcases hrow.fault?_eq_some_iff.mp hfault with ⟨record, hasks, column, hlacks, hfailure⟩
    refine ⟨column, ⟨before, row, record, after, hrows, ?_, hasks, hlacks⟩, hfailure⟩
    intro earlier hearlier
    have hordinary := h earlier (by simp [hrows, hearlier])
    exact hordinary.fault?_eq_none_iff.mp (hbefore earlier hearlier)
  · intro hexists
    rcases hexists with
      ⟨column, ⟨before, row, record, after, hrows, hbefore, hasks, hlacks⟩, hfailure⟩
    refine ⟨before, row, after, hrows, hasks.fault?_eq_some_iff.mpr ⟨column, hlacks, hfailure⟩, ?_⟩
    intro earlier hearlier
    have hordinary := h earlier (by simp [hrows, hearlier])
    exact hordinary.fault?_eq_none_iff.mpr (hbefore earlier hearlier)

/-- An ordinary INSERT fails without rows, and at the first row that lacks a column. -/
theorem compile_eq_error_iff (h : insert.IsOrdinary) :
    insert.compile = .error failure ↔
      insert.rows = [] ∧ failure = .noRows ∨
        ∃ column, insert.Lacks column ∧ failure = .unknownColumn column := by
  by_cases hrows : insert.rows = []
  · have hnone : ∀ column, ¬ insert.Lacks column := fun _ hlacks => hlacks.rows_ne_nil hrows
    rw [compile_of_no_rows hrows, Except.error.injEq]
    simp [hrows, hnone, eq_comm]
  · rw [← failureOf?_eq_some_iff, failureOf?_compile hrows, h.table.failure?_write,
      Option.none_or, findSome?_fault?_eq_some_iff h.rows]
    simp [hrows]

end Insert

/-- What ordinary statements fail with before they are sent, and the class of it. A SELECT fails
with build failures only. An INSERT fails with a build failure exactly if it has no rows; all else
that it fails with is the first column that its first refusing record lacks, and that is no build
failure but a binding failure. A step of a session reports such a failure as it is, and the database
does not hear of it. -/
theorem unsent_failures_are_build_failures_iff (select : Select) (insert : Insert)
    (failure : Failure) :
    ((∀ table ∈ select.table, table.IsOrdinary) → select.compile = .error failure →
      failure.isBuildError = true ∧ failure.isBindingError = false) ∧
    (insert.IsOrdinary →
      (insert.compile = .error failure ↔
        insert.rows = [] ∧ failure = .noRows ∨
          ∃ column, insert.Lacks column ∧ failure = .unknownColumn column) ∧
      (insert.compile = .error failure →
        (failure.isBuildError = true ↔ insert.rows = []) ∧
        (failure.isBindingError = true ↔ insert.rows ≠ []))) ∧
    ∀ (database : Database) (reply : Reply) (step : Step) (state : database.State),
      step.compiled = .error failure →
      step.run database reply state = (step.failing failure [] [], state) := by
  refine ⟨?_, ?_, fun _ _ _ _ => Step.run_of_error⟩
  · intro htable h
    have hbuild := Select.category_of_compile htable h
    unfold Failure.isBuildError Failure.isBindingError
    rw [hbuild]
    exact ⟨rfl, rfl⟩
  · intro hordinary
    refine ⟨Insert.compile_eq_error_iff hordinary, ?_⟩
    intro h
    rcases (Insert.compile_eq_error_iff hordinary).mp h with
      ⟨hrows, rfl⟩ | ⟨column, hlacks, rfl⟩
    · simp [hrows, Failure.isBuildError, Failure.isBindingError, Failure.category]
    · simp [hlacks.rows_ne_nil, Failure.isBuildError, Failure.isBindingError, Failure.category]

/-- The second record, a value of a derived struct, registers `n` and no `name`. A condition in a
SELECT fails for an empty group, before its other fault. -/
theorem later_record_lacks_column :
    let v (n : Int32) := Value.required (.int32 n)
    let derived := InsertRow.custom
      (Derive.valuesOf [⟨"n", ⟨"name", false⟩⟩] { fields := [⟨"name", v 3⟩] })
    let insert : Insert :=
      { table := .described ⟨"person", ["id", "name"]⟩
        columns := ["name"]
        rows := [.values [v 1], .record { fields := [⟨"name", v 2⟩] }, derived] }
    let select : Select :=
      { columns := []
        table := some (.named "person")
        filter := some (Condition.all [Condition.isIn "id" [], Condition.any []]) }
    let failure := Failure.unknownColumn "name"
    insert.IsOrdinary ∧ insert.compile = .error failure ∧
      (∃ column, insert.Lacks column ∧ failure = .unknownColumn column) ∧
      (failure.isBindingError = true ↔ insert.rows ≠ []) ∧
      (∀ table ∈ select.table, table.IsOrdinary) ∧ select.compile = .error .emptyGroup ∧
      Failure.emptyGroup.isBuildError = true ∧
      (Step.exec insert none).compiled = .error failure ∧
      (Step.exec insert none).run .absent (.answer ⟨[], 1⟩) () =
        ((Step.exec insert none).failing failure [] [], ()) := by
  intro v derived insert select failure
  rcases unsent_failures_are_build_failures_iff select insert failure with
    ⟨_, hinserts, hsteps⟩
  rcases unsent_failures_are_build_failures_iff select insert .emptyGroup with ⟨hselects, _, _⟩
  have hinsert : insert.IsOrdinary := by
    refine ⟨.described _, ?_⟩
    simp only [insert, List.forall_mem_cons]
    exact ⟨.listed _, .asking (.record _), .asking (.derived _ _),
      fun _ hmem => absurd hmem List.not_mem_nil⟩
  have hcompile : insert.compile = .error failure := rfl
  have htable : ∀ table ∈ select.table, table.IsOrdinary := by
    intro table hsome
    cases hsome
    exact .named "person"
  rcases hinserts hinsert with ⟨hcause, hclass⟩
  have hrows : insert.rows ≠ [] := List.cons_ne_nil _ _
  have hlacks := (hcause.mp hcompile).resolve_left fun hempty => hrows hempty.left
  exact ⟨hinsert, hcompile, hlacks, (hclass hcompile).right, htable, rfl,
    (hselects htable rfl).left, hcompile, hsteps _ _ _ _ hcompile⟩

/-- A record that is asked for a column that it does not have. -/
theorem unsent_failure_counts_as_binding_failure :
    let insert : Insert :=
      { table := .named "person"
        columns := ["id", "age"]
        rows := [.record { fields := [⟨"id", .required (.int32 1)⟩] }] }
    let failure := Failure.unknownColumn "age"
    insert.IsOrdinary ∧ insert.compile = .error failure ∧
      failure.isBuildError = false ∧ failure.isBindingError = true := by
  intro insert failure
  refine ⟨⟨.named "person", ?_⟩, rfl, rfl, rfl⟩
  simp only [insert, List.forall_mem_singleton]
  exact .asking (.record _)

end Rowsmith
