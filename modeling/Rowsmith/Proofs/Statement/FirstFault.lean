import Rowsmith.Proofs.Statement.Construction
import Rowsmith.Statement.Builder

/-!
# The first fault

Nothing is checked before a statement is written, so a statement fails with whatever is wrong in it
first. What comes first is said here without writing anything: in a condition every node comes
before its members and these come from left to right; in a SELECT the table comes before the filter;
in an INSERT the table comes before the rows, unless there are none.
-/

namespace Rowsmith

def failureOf? : Except Failure α → Option Failure
  | .ok _ => none
  | .error failure => some failure

theorem failureOf?_map (f : α → β) (outcome : Except Failure α) :
    failureOf? (f <$> outcome) = failureOf? outcome := by
  cases outcome <;> rfl

theorem failureOf?_eq_some_iff {outcome : Except Failure α} {failure : Failure} :
    failureOf? outcome = some failure ↔ outcome = .error failure := by
  cases outcome with
  | ok a => simp [failureOf?]
  | error other => simp [failureOf?]

theorem failureOf?_eq_none_iff {outcome : Except Failure α} :
    failureOf? outcome = none ↔ ∃ a, outcome = .ok a := by
  cases outcome with
  | ok a => simp [failureOf?]
  | error other => simp [failureOf?]

theorem failureOf?_both (f : α → β → γ) (first : Except Failure α) (second : Except Failure β) :
    failureOf? (do let a ← first; let b ← second; return f a b) =
      (failureOf? first).or (failureOf? second) := by
  cases first with
  | error failure => rfl
  | ok a => cases second <;> rfl

namespace Writing

variable {a b fragment : Writing Unit} {before : Statement} {failure : Failure}
  {first second outcome : Option Failure}

/-!
# Failures of fragments
-/

/-- What writing the fragment after the statement fails with. -/
def failure? (fragment : Writing Unit) (before : Statement) : Option Failure :=
  match fragment.run before with
  | .ok _ _ => none
  | .error failure _ => some failure

def FailsWith (fragment : Writing Unit) (outcome : Option Failure) : Prop :=
  ∀ before, fragment.failure? before = outcome

theorem failure?_eq_none_iff :
    fragment.failure? before = none ↔ ∃ after, fragment.run before = .ok () after := by
  unfold failure?
  cases fragment.run before with
  | ok _ after => simp
  | error failure after => simp

theorem failure?_eq_some_iff :
    fragment.failure? before = some failure ↔
      ∃ after, fragment.run before = .error failure after := by
  unfold failure?
  cases fragment.run before with
  | ok _ after => simp
  | error failure after => simp

theorem failureOf?_compile (fragment : Writing Unit) :
    failureOf? (compile fragment) = fragment.failure? Statement.empty := by
  unfold compile failure?
  cases fragment.run Statement.empty with
  | ok _ after => rfl
  | error failure after => rfl

theorem failure?_bind (hb : b.FailsWith outcome) :
    failure? (a >>= fun _ => b) before = (a.failure? before).or outcome := by
  cases hfirst : a.run before with
  | ok _ middle =>
      have hnone : a.failure? before = none := failure?_eq_none_iff.mpr ⟨middle, hfirst⟩
      rw [hnone, Option.none_or, ← hb middle]
      unfold failure?
      rw [run_bind_of_ok hfirst]
  | error failure middle =>
      have hsome : a.failure? before = some failure := failure?_eq_some_iff.mpr ⟨middle, hfirst⟩
      rw [hsome, Option.some_or]
      exact failure?_eq_some_iff.mpr ⟨middle, run_bind_of_error hfirst⟩

theorem failure?_put_bind (s : String) (b : Writing Unit) (before : Statement) :
    failure? (put s >>= fun _ => b) before = b.failure? (before.extend s []) := by
  unfold failure?
  rw [run_bind_of_ok (run_put s before)]

theorem failsWith_pure : FailsWith (pure ()) none :=
  fun _ => rfl

theorem failsWith_throw (failure : Failure) : FailsWith (throw failure) (some failure) :=
  fun _ => rfl

theorem failsWith_put (s : String) : FailsWith (put s) none :=
  fun _ => rfl

theorem failsWith_bindValue (v : Value) : FailsWith (bindValue v) none :=
  fun _ => rfl

theorem FailsWith.bind (ha : a.FailsWith first) (hb : b.FailsWith second) :
    FailsWith (a >>= fun _ => b) (first.or second) := by
  intro before
  rw [failure?_bind hb, ha before]

theorem FailsWith.put_bind (s : String) (hb : b.FailsWith outcome) :
    FailsWith (put s >>= fun _ => b) outcome := by
  intro before
  rw [failure?_put_bind, hb]

theorem failsWith_bindValues (vs : List Value) : FailsWith (bindValues vs) none := by
  induction vs with
  | nil => exact failsWith_pure
  | cons v rest ih =>
      cases rest with
      | nil => exact failsWith_bindValue v
      | cons next more => exact (failsWith_bindValue v).bind (ih.put_bind ",")

theorem FailsWith.bind_put (ha : a.FailsWith outcome) (s : String) :
    FailsWith (a >>= fun _ => put s) outcome := by
  have h := ha.bind (failsWith_put s)
  rwa [Option.or_none] at h

theorem failsWith_parenthesized (vs : List Value) :
    FailsWith (do put "("; bindValues vs; put ")") none :=
  ((failsWith_bindValues vs).bind_put ")").put_bind "("

end Writing

/-!
# Conditions
-/

def Operand.fault? : Operand → Option Failure
  | .group [] => some .emptyGroup
  | _ => none

theorem Operand.write_failsWith (operand : Operand) : operand.write.FailsWith operand.fault? := by
  cases operand with
  | value v => exact Writing.failsWith_bindValue v
  | group vs =>
      cases vs with
      | nil => exact Writing.failsWith_throw .emptyGroup
      | cons v rest => exact Writing.failsWith_parenthesized (v :: rest)

namespace Condition

def fault? : Condition → Option Failure
  | .compare _ _ operand => operand.fault?
  | .logical _ [] => some .emptyConditions
  | .logical _ (_ :: _) => none

mutual

/-- The condition and all conditions in it, depth first and from left to right. -/
def nodes : Condition → List Condition
  | .compare operator column operand => [.compare operator column operand]
  | .logical operator conditions => .logical operator conditions :: nodesOfAll conditions

def nodesOfAll : List Condition → List Condition
  | [] => []
  | c :: rest => c.nodes ++ nodesOfAll rest

end

def firstFault? (c : Condition) : Option Failure :=
  c.nodes.findSome? fault?

theorem firstFault?_compare (operator column : String) (operand : Operand) :
    firstFault? (.compare operator column operand) = operand.fault? := by
  unfold firstFault?
  rw [nodes, List.findSome?_singleton, fault?]

theorem firstFault?_logical_cons (operator : String) (c : Condition) (rest : List Condition) :
    firstFault? (.logical operator (c :: rest)) =
      c.firstFault?.or ((nodesOfAll rest).findSome? fault?) := by
  unfold firstFault?
  rw [nodes, nodesOfAll, List.findSome?_cons, fault?, List.findSome?_append]

theorem writeJoined_failsWith (operator : String) {conditions : List Condition}
    (h : ∀ c ∈ conditions, c.write.FailsWith c.firstFault?) :
    (writeJoined operator conditions).FailsWith ((nodesOfAll conditions).findSome? fault?) := by
  induction conditions with
  | nil => exact Writing.failsWith_pure
  | cons c rest ih =>
      rcases List.forall_mem_cons.mp h with ⟨hfirst, hrest⟩
      rw [writeJoined, nodesOfAll, List.findSome?_append]
      exact (hfirst.bind (ih hrest)).put_bind _

/-- A condition fails with the fault of its first faulty node, after whatever it is written. -/
theorem write_failsWith (c : Condition) : c.write.FailsWith c.firstFault? := by
  induction c using Condition.inductionOn with
  | compare operator column operand =>
      rw [write, firstFault?_compare]
      exact (operand.write_failsWith.bind_put ")").put_bind _
  | empty operator =>
      rw [write]
      exact Writing.failsWith_throw .emptyConditions
  | single operator c ih =>
      rw [write, firstFault?_logical_cons, nodesOfAll, List.findSome?_nil, Option.or_none]
      exact ih
  | several operator first second rest ih =>
      rcases List.forall_mem_cons.mp ih with ⟨hfirst, hothers⟩
      have hrest := (writeJoined_failsWith operator hothers).bind_put ")"
      rw [write, firstFault?_logical_cons]
      exact (hfirst.bind hrest).put_bind "("

theorem fault?_eq_none_iff {c : Condition} :
    c.fault? = none ↔
      (∀ operator, c ≠ .logical operator []) ∧
        ∀ operator column, c ≠ .compare operator column (.group []) := by
  rcases c with ⟨operator, column, v | ⟨_ | ⟨v, vs⟩⟩⟩ | ⟨operator, _ | ⟨first, rest⟩⟩
  all_goals simp [fault?, Operand.fault?]

theorem firstFault?_eq_none_iff {c : Condition} :
    c.firstFault? = none ↔
      (∀ operator, logical operator [] ∉ c.nodes) ∧
        ∀ operator column, compare operator column (.group []) ∉ c.nodes := by
  unfold firstFault?
  rw [List.findSome?_eq_none_iff]
  simp only [fault?_eq_none_iff]
  constructor
  · intro h
    constructor
    · intro operator hmem
      exact (h _ hmem).left operator rfl
    · intro operator column hmem
      exact (h _ hmem).right operator column rfl
  · intro hboth node hnode
    rcases hboth with ⟨hlogical, hcompare⟩
    constructor
    · intro operator hsame
      subst hsame
      exact hlogical operator hnode
    · intro operator column hsame
      subst hsame
      exact hcompare operator column hnode

end Condition

/-!
# Statements
-/

namespace Select

def tableFailure? (select : Select) : Option Failure :=
  select.table.bind fun table =>
    table.write.failure? ⟨"SELECT " ++
      (if select.columns.isEmpty then "*" else ", ".intercalate select.columns) ++ " FROM ", []⟩

theorem writeFilter_failsWith (filter : Option Condition) :
    (writeFilter filter).FailsWith (filter.bind Condition.firstFault?) := by
  cases filter with
  | none => exact Writing.failsWith_pure
  | some condition => exact condition.write_failsWith.put_bind " WHERE "

theorem failureOf?_compile (select : Select) :
    failureOf? select.compile =
      select.tableFailure?.or (select.filter.bind Condition.firstFault?) := by
  unfold compile write tableFailure?
  rw [Writing.failureOf?_compile, Writing.failure?_put_bind,
    Writing.failure?_bind (writeFilter_failsWith select.filter)]
  congr 1
  cases select.table with
  | none => rfl
  | some table =>
      show (writeTable (some table)).failure? _ = table.write.failure? _
      rw [writeTable, Writing.failure?_put_bind]
      simp [Statement.extend, Statement.empty]

end Select

/-- What asking the row for its values fails with; listed values need not be asked for. -/
def InsertRow.fault? (columns : List String) : InsertRow → Option Failure
  | .values _ => none
  | .record source => failureOf? (source.values columns)
  | .custom source => failureOf? (source columns)

namespace Insert

theorem writeRow_failsWith (columns : List String) (row : InsertRow) :
    (writeRow columns row).FailsWith (row.fault? columns) := by
  have hfault : row.fault? columns = failureOf? (row.pull columns) := by
    cases row <;> rfl
  unfold writeRow
  rw [hfault]
  cases row.pull columns with
  | error failure => exact Writing.failsWith_throw failure
  | ok vs => exact Writing.failsWith_parenthesized vs

theorem writeRows_failsWith (columns : List String) (rows : List InsertRow) :
    (writeRows columns rows).FailsWith (rows.findSome? (InsertRow.fault? columns)) := by
  induction rows with
  | nil => exact Writing.failsWith_pure
  | cons row rest ih =>
      rw [← List.singleton_append, List.findSome?_append, List.findSome?_singleton]
      cases rest with
      | nil =>
          rw [List.findSome?_nil, Option.or_none]
          exact writeRow_failsWith columns row
      | cons next more =>
          exact (writeRow_failsWith columns row).bind (ih.put_bind ",")

theorem failure?_write {insert : Insert} (hrows : insert.rows ≠ []) (before : Statement) :
    insert.write.failure? before =
      (insert.table.write.failure? (before.extend "INSERT INTO " [])).or
        (insert.rows.findSome? (InsertRow.fault? insert.columns)) := by
  unfold write
  rw [if_neg (by simpa using hrows), Writing.failure?_put_bind,
    Writing.failure?_bind ((writeRows_failsWith insert.columns insert.rows).put_bind _)]

theorem failureOf?_compile {insert : Insert} (hrows : insert.rows ≠ []) :
    failureOf? insert.compile =
      (insert.table.write.failure? ⟨"INSERT INTO ", []⟩).or
        (insert.rows.findSome? (InsertRow.fault? insert.columns)) := by
  unfold compile
  rw [Writing.failureOf?_compile, failure?_write hrows]
  rfl

end Insert

/-- Statements fail with their first fault and with nothing else: a condition with that of its first
faulty node, whatever was written before it; a SELECT with that of its table, or else of its filter;
an INSERT without rows at once, and any other with that of its table, or else of its first row that
has one. -/
theorem statements_fail_with_first_fault :
    (∀ (c : Condition) (before : Statement),
      ((∃ after, c.write.run before = .ok () after) ↔
        (∀ operator, .logical operator [] ∉ c.nodes) ∧
          ∀ operator column, .compare operator column (.group []) ∉ c.nodes) ∧
      ∀ failure, (∃ after, c.write.run before = .error failure after) ↔
        c.nodes.findSome? Condition.fault? = some failure) ∧
    (∀ select : Select, failureOf? select.compile =
      select.tableFailure?.or (select.filter.bind Condition.firstFault?)) ∧
    (∀ (table : Table) (columns : List String) (before : Statement),
      (Insert.write ⟨table, columns, []⟩).run before = .error .noRows before) ∧
    ∀ insert : Insert, insert.rows ≠ [] → failureOf? insert.compile =
      (insert.table.write.failure? ⟨"INSERT INTO ", []⟩).or
        (insert.rows.findSome? (InsertRow.fault? insert.columns)) := by
  refine ⟨?_, Select.failureOf?_compile, ?_, fun _ => Insert.failureOf?_compile⟩
  · intro c before
    constructor
    · rw [← Condition.firstFault?_eq_none_iff, ← c.write_failsWith before]
      exact Writing.failure?_eq_none_iff.symm
    · intro failure
      show _ ↔ c.firstFault? = some failure
      rw [← c.write_failsWith before]
      exact Writing.failure?_eq_some_iff.symm
  · intro table columns before
    rfl

/-- Of the two faults of the condition the group comes first. The third and the fourth row of the
INSERT cannot be asked for the column, and the third comes first. -/
theorem first_faults_win :
    let v (n : Int32) := Value.required (.int32 n)
    let c := Condition.any
      [Condition.equal "a" (v 1), Condition.all [Condition.isIn "b" [], Condition.all []]]
    let insert : Insert :=
      { table := Table.call "f" [v 1]
        columns := ["id"]
        rows := [.values [v 2], .record ⟨[⟨"id", v 3⟩], 0⟩, .record ⟨[⟨"name", v 4⟩], 0⟩,
          .custom fun _ => .error .noDatabase] }
    (∃ after, c.write.run ⟨"x ", [v 0]⟩ = .error .emptyGroup after) ∧
      insert.rows ≠ [] ∧ failureOf? insert.compile = some (.unknownColumn "id") := by
  intro v c insert
  rcases statements_fail_with_first_fault with ⟨hconditions, _, _, hinserts⟩
  have hrows : insert.rows ≠ [] := List.cons_ne_nil _ _
  refine ⟨((hconditions c ⟨"x ", [v 0]⟩).right .emptyGroup).mpr rfl, hrows, ?_⟩
  rw [hinserts insert hrows]
  rfl

end Rowsmith
