import Rowsmith.Proofs.Basic
import Rowsmith.Proofs.Record.Request
import Rowsmith.Proofs.Statement.Construction
import Rowsmith.Proofs.Statement.FirstFault

/-!
# Values of rows

A row that is asked for its values when the statement is written stands for the values that it has
for the last column list, as if they were listed in its place. The values of a row are numbered
after those of the table and of the rows before it, however many these are.
-/

namespace Rowsmith

namespace Insert

variable {columns : List String} {row : InsertRow} {rows : List InsertRow}
  {pulled : List (List Value)}

/-!
# Rows asked for their values
-/

def pullRows (columns : List String) (rows : List InsertRow) :
    Except Failure (List (List Value)) :=
  rows.mapM (InsertRow.pull columns)

theorem pullRows_nil (columns : List String) : pullRows columns [] = .ok [] := rfl

theorem pullRows_cons (columns : List String) (row : InsertRow) (rows : List InsertRow) :
    pullRows columns (row :: rows) = do
      let vs ← row.pull columns
      let others ← pullRows columns rows
      return vs :: others :=
  List.mapM_cons

theorem pullRows_append (columns : List String) (rows more : List InsertRow) :
    pullRows columns (rows ++ more) = do
      let pulled ← pullRows columns rows
      let others ← pullRows columns more
      return pulled ++ others :=
  List.mapM_append

theorem pullRows_cons_eq_ok_iff :
    pullRows columns (row :: rows) = .ok pulled ↔
      ∃ vs others, row.pull columns = .ok vs ∧ pullRows columns rows = .ok others ∧
        pulled = vs :: others := by
  rw [pullRows_cons]
  exact both_eq_ok_iff

theorem failureOf?_pullRows (columns : List String) (rows : List InsertRow) :
    failureOf? (pullRows columns rows) = rows.findSome? (InsertRow.fault? columns) := by
  induction rows with
  | nil => rfl
  | cons row rest ih =>
      have hfault : row.fault? columns = failureOf? (row.pull columns) := by
        cases row <;> rfl
      have hboth := failureOf?_both List.cons (row.pull columns) (pullRows columns rest)
      rw [← List.singleton_append, List.findSome?_append, List.findSome?_singleton, hfault, ← ih,
        List.singleton_append, pullRows_cons, hboth]

theorem length_pullRows (h : pullRows columns rows = .ok pulled) :
    pulled.length = rows.length := by
  induction rows generalizing pulled with
  | nil =>
      rw [pullRows_nil] at h
      cases h
      rfl
  | cons row rest ih =>
      rcases pullRows_cons_eq_ok_iff.mp h with ⟨vs, others, _, hothers, rfl⟩
      rw [List.length_cons, List.length_cons, ih hothers]

/-- Every row has its own values, which depend on no other row. -/
theorem pull_of_pullRows (h : pullRows columns rows = .ok pulled) {i : Nat}
    (hrow : rows[i]? = some row) : ∃ vs, pulled[i]? = some vs ∧ row.pull columns = .ok vs := by
  induction rows generalizing pulled i with
  | nil => cases hrow
  | cons first rest ih =>
      rcases pullRows_cons_eq_ok_iff.mp h with ⟨vs, others, hvs, hothers, rfl⟩
      cases i with
      | zero =>
          cases hrow
          exact ⟨vs, rfl, hvs⟩
      | succ i => exact ih hothers hrow

theorem values_of_columns {source : Record} {vs : List Value} (hcolumns : columns ≠ [])
    (h : source.values columns = .ok vs) :
    vs.length = columns.length ∧
      ∀ (j : Nat) column, columns[j]? = some column →
        ∃ field, source.field? column = some field ∧ vs[j]? = some field.value := by
  unfold Record.values at h
  rw [if_neg (by simpa using hcolumns), Record.pickValues_eq_ok_iff] at h
  constructor
  · have hlength := congrArg List.length h
    rw [List.length_map, List.length_map] at hlength
    exact hlength.symm
  · intro j column hcolumn
    have hat := congrArg (·[j]?) h
    simp only [List.getElem?_map, hcolumn, Option.map_some] at hat
    cases hv : vs[j]? with
    | none =>
        rw [hv] at hat
        cases hat
    | some v =>
        rw [hv, Option.map_some, Option.some_inj, Option.map_eq_some_iff] at hat
        rcases hat with ⟨field, hfield, hvalue⟩
        exact ⟨field, hfield, by rw [hvalue]⟩

/-!
# Rows listed
-/

/-- A call that adds rows becomes a call for each of them, with the values of the row. -/
def Call.listed (columns : List String) : Call → Except Failure (List Call)
  | .withColumns own => .ok [.withColumns own]
  | call => List.map .addValues <$> pullRows columns call.rows

def listedCalls (columns : List String) (calls : List Call) : Except Failure (List Call) :=
  List.flatten <$> calls.mapM (Call.listed columns)

theorem listedCalls_cons (columns : List String) (call : Call) (calls : List Call) :
    listedCalls columns (call :: calls) = do
      let first ← call.listed columns
      let others ← listedCalls columns calls
      return first ++ others := by
  unfold listedCalls
  rw [List.mapM_cons]
  cases call.listed columns with
  | error failure => rfl
  | ok first => cases calls.mapM (Call.listed columns) <;> rfl

structure ListsRows (calls : List Call) (pulled : List (List Value))
    (given : Option (List String)) : Prop where
  rows : calls.flatMap Call.rows = pulled.map .values
  columns : lastGiven Call.columns? calls = given

theorem ListsRows.append {calls others : List Call} {more : List (List Value)}
    {given later : Option (List String)} (h : ListsRows calls pulled given)
    (hothers : ListsRows others more later) :
    ListsRows (calls ++ others) (pulled ++ more) (later.or given) := by
  constructor
  · rw [List.flatMap_append, h.rows, hothers.rows, List.map_append]
  · rw [lastGiven_append, h.columns, hothers.columns]

theorem listsRows_addValues (pulled : List (List Value)) :
    ListsRows (pulled.map .addValues) pulled none := by
  constructor
  · rw [List.flatMap_map]
    exact List.map_eq_flatMap.symm
  · unfold lastGiven
    rw [List.findSome?_eq_none_iff]
    intro call hcall
    rcases List.mem_map.mp (List.mem_reverse.mp hcall) with ⟨vs, _, rfl⟩
    rfl

section Listed

variable {call : Call} {calls listed : List Call}

theorem listsRows_of_listed (h : call.listed columns = .ok listed) :
    ∃ pulled, pullRows columns call.rows = .ok pulled ∧
      ListsRows listed pulled call.columns? := by
  have hadded (h : List.map .addValues <$> pullRows columns call.rows = .ok listed) :
      ∃ pulled, pullRows columns call.rows = .ok pulled ∧ ListsRows listed pulled none := by
    rcases map_eq_ok_iff.mp h with ⟨pulled, hpulled, rfl⟩
    exact ⟨pulled, hpulled, listsRows_addValues pulled⟩
  cases call with
  | withColumns own =>
      cases h
      exact ⟨[], rfl, rfl, rfl⟩
  | addValues vs => exact hadded h
  | addRecords records => exact hadded h
  | addSources sources => exact hadded h

theorem listsRows_of_listedCalls (h : listedCalls columns calls = .ok listed) :
    ∃ pulled, pullRows columns (calls.flatMap Call.rows) = .ok pulled ∧
      ListsRows listed pulled (lastGiven Call.columns? calls) := by
  induction calls generalizing listed with
  | nil =>
      cases h
      exact ⟨[], rfl, rfl, rfl⟩
  | cons call rest ih =>
      rw [listedCalls_cons, both_eq_ok_iff] at h
      rcases h with ⟨first, others, hfirst, hothers, rfl⟩
      rcases listsRows_of_listed hfirst with ⟨pulled, hpulled, hlists⟩
      rcases ih hothers with ⟨more, hmore, hrest⟩
      refine ⟨pulled ++ more, ?_, ?_⟩
      · rw [List.flatMap_cons, pullRows_append]
        exact both_eq_ok_iff.mpr ⟨pulled, more, hpulled, hmore, rfl⟩
      · rw [← List.singleton_append, lastGiven_append, lastGiven_singleton]
        exact hlists.append hrest

theorem failureOf?_listed (columns : List String) (call : Call) :
    failureOf? (call.listed columns) = failureOf? (pullRows columns call.rows) := by
  have hadded := failureOf?_map (List.map Call.addValues) (pullRows columns call.rows)
  cases call with
  | withColumns own => rfl
  | addValues vs => exact hadded
  | addRecords records => exact hadded
  | addSources sources => exact hadded

theorem failureOf?_listedCalls (columns : List String) (calls : List Call) :
    failureOf? (listedCalls columns calls) =
      failureOf? (pullRows columns (calls.flatMap Call.rows)) := by
  induction calls with
  | nil => rfl
  | cons call rest ih =>
      have hlisted := failureOf?_both (· ++ ·) (call.listed columns) (listedCalls columns rest)
      have hpulled := failureOf?_both (· ++ ·) (pullRows columns call.rows)
        (pullRows columns (rest.flatMap Call.rows))
      rw [listedCalls_cons, List.flatMap_cons, pullRows_append, hlisted, hpulled,
        failureOf?_listed, ih]

end Listed

/-!
# Writing rows
-/

theorem writeRow_of_pull {vs : List Value} (h : row.pull columns = .ok vs) :
    writeRow columns row =
      (do Writing.put "("; Writing.bindValues vs; Writing.put ")") := by
  unfold writeRow
  rw [h]

theorem writeRows_cons_cons (columns : List String) (row next : InsertRow)
    (more : List InsertRow) :
    writeRows columns (row :: next :: more) =
      (do writeRow columns row; Writing.put ","; writeRows columns (next :: more)) := rfl

theorem writeRows_of_pullRows (h : pullRows columns rows = .ok pulled) :
    writeRows columns rows = writeRows columns (pulled.map .values) := by
  induction rows generalizing pulled with
  | nil =>
      rw [pullRows_nil] at h
      cases h
      rfl
  | cons row rest ih =>
      rcases pullRows_cons_eq_ok_iff.mp h with ⟨vs, others, hvs, hothers, rfl⟩
      have hrow : writeRow columns row = writeRow columns (.values vs) :=
        (writeRow_of_pull hvs).trans (writeRow_of_pull rfl).symm
      cases rest with
      | nil =>
          rw [pullRows_nil] at hothers
          cases hothers
          exact hrow
      | cons next more =>
          rcases pullRows_cons_eq_ok_iff.mp hothers with ⟨ws, last, hws, hlast, rfl⟩
          have hrest := ih hothers
          rw [List.map_cons] at hrest
          rw [List.map_cons, List.map_cons, writeRows_cons_cons, writeRows_cons_cons, hrow, hrest]

/-!
# Numbers of values
-/

def valuesBefore (pulled : List (List Value)) (i : Nat) : Nat :=
  (pulled.take i).flatten.length

def rowText (before : Nat) (vs : List Value) : String :=
  "(" ++ ",".intercalate (vs.mapIdx fun j _ => placeholder (before + (j + 1))) ++ ")"

def rowTexts (before : Nat) (pulled : List (List Value)) : List String :=
  pulled.mapIdx fun i vs => rowText (before + valuesBefore pulled i) vs

theorem rowText_eq (before : Nat) (vs : List Value) :
    rowText before vs = "(" ++ placeholdersAfter before vs.length ++ ")" := by
  have hplaceholders : vs.mapIdx (fun j _ => placeholder (before + (j + 1))) =
      (List.range' (before + 1) vs.length).map placeholder := by
    apply List.ext_getElem
    · simp
    · intro j hj hlast
      simp only [List.getElem_mapIdx, List.getElem_map, List.getElem_range']
      congr 1
      omega
  rw [rowText, hplaceholders]
  rfl

theorem rowTexts_cons (before : Nat) (vs : List Value) (pulled : List (List Value)) :
    rowTexts before (vs :: pulled) =
      rowText before vs :: rowTexts (before + vs.length) pulled := by
  have hbefore (i : Nat) :
      valuesBefore (vs :: pulled) (i + 1) = vs.length + valuesBefore pulled i := by
    simp [valuesBefore]
  unfold rowTexts
  rw [List.mapIdx_cons]
  simp only [hbefore, Nat.add_assoc]
  rfl

theorem run_writeRow {vs : List Value} (h : row.pull columns = .ok vs) (before : Statement) :
    (writeRow columns row).run before =
      .ok () (before.extend (rowText before.arguments.length vs) vs) := by
  rw [writeRow_of_pull h, Writing.run_bind_of_ok (Writing.run_put _ _),
    Writing.run_bind_of_ok (Writing.run_bindValues _ _), Writing.run_put, rowText_eq]
  simp

theorem run_writeRows (h : pullRows columns rows = .ok pulled) (before : Statement) :
    (writeRows columns rows).run before =
      .ok () (before.extend (",".intercalate (rowTexts before.arguments.length pulled))
        pulled.flatten) := by
  induction rows generalizing pulled before with
  | nil =>
      rw [pullRows_nil] at h
      cases h
      rw [writeRows, Writing.run_pure]
      exact congrArg (EStateM.Result.ok ()) (Statement.extend_nothing before).symm
  | cons row rest ih =>
      rcases pullRows_cons_eq_ok_iff.mp h with ⟨vs, others, hvs, hothers, rfl⟩
      rw [rowTexts_cons]
      cases rest with
      | nil =>
          rw [pullRows_nil] at hothers
          cases hothers
          rw [writeRows, run_writeRow hvs, List.flatten_singleton]
          rfl
      | cons next more =>
          rcases pullRows_cons_eq_ok_iff.mp hothers with ⟨ws, last, hws, hlast, rfl⟩
          have hrest := ih hothers
          rw [writeRows_cons_cons, Writing.run_bind_of_ok (run_writeRow hvs before),
            Writing.run_bind_of_ok (Writing.run_put _ _), hrest]
          simp [rowTexts_cons, String.append_assoc]

theorem flatten_at_place {i j : Nat} {vs : List Value} {v : Value} (hrow : pulled[i]? = some vs)
    (hv : vs[j]? = some v) : pulled.flatten[valuesBefore pulled i + j]? = some v := by
  induction pulled generalizing i with
  | nil => cases hrow
  | cons first rest ih =>
      cases i with
      | zero =>
          cases hrow
          have hj := (List.getElem?_eq_some_iff.mp hv).choose
          rw [List.flatten_cons, List.getElem?_append_left (by simpa [valuesBefore] using hj)]
          simpa [valuesBefore] using hv
      | succ i =>
          have hbefore : valuesBefore (first :: rest) (i + 1) + j =
              first.length + (valuesBefore rest i + j) := by
            simp [valuesBefore, Nat.add_assoc]
          rw [hbefore, List.flatten_cons, List.getElem?_append_right (Nat.le_add_right _ _),
            Nat.add_sub_cancel_left]
          exact ih hrow

/-!
# Whole statements
-/

/-- The rows of a statement stand behind its table and column list. The first value of a row is
numbered after those of the table and of the rows before it, and a record that is asked for some
columns has one value for each of them. -/
structure BindsRows (columns : List String) (rows : List InsertRow) (pulled : List (List Value))
    (tableWritten statement : Statement) : Prop where
  asked : pullRows columns rows = .ok pulled
  written : statement = tableWritten.extend
    (columnList columns ++ " VALUES " ++
      ",".intercalate (rowTexts tableWritten.arguments.length pulled))
    pulled.flatten
  places : ∀ (i j : Nat) vs v, pulled[i]? = some vs → vs[j]? = some v →
    statement.arguments[tableWritten.arguments.length + valuesBefore pulled i + j]? = some v
  named : ∀ (i : Nat) source, columns ≠ [] → rows[i]? = some (.record source) →
    ∃ vs, pulled[i]? = some vs ∧ vs.length = columns.length ∧
      ∀ (j : Nat) column, columns[j]? = some column →
        ∃ field, source.field? column = some field ∧ vs[j]? = some field.value

theorem bindsRows_of_pullRows (h : pullRows columns rows = .ok pulled) (tableWritten : Statement) :
    BindsRows columns rows pulled tableWritten
      (tableWritten.extend (columnList columns ++ " VALUES " ++
        ",".intercalate (rowTexts tableWritten.arguments.length pulled)) pulled.flatten) := by
  constructor
  · exact h
  · rfl
  · intro i j vs v hvs hv
    rw [Statement.extend_arguments, Nat.add_assoc,
      List.getElem?_append_right (Nat.le_add_right _ _), Nat.add_sub_cancel_left]
    exact flatten_at_place hvs hv
  · intro i source hcolumns hrow
    rcases pull_of_pullRows h hrow with ⟨vs, hvs, hpull⟩
    rcases values_of_columns hcolumns hpull with ⟨hlength, hfields⟩
    exact ⟨vs, hvs, hlength, hfields⟩

section Compiled

variable {insert : Insert} {statement : Statement}

theorem compile_eq_ok (hrows : insert.rows ≠ []) {tableWritten : Statement}
    (htable : insert.table.write.run ⟨"INSERT INTO ", []⟩ = .ok () tableWritten)
    (hpulled : pullRows insert.columns insert.rows = .ok pulled) :
    insert.compile = .ok (tableWritten.extend (columnList insert.columns ++ " VALUES " ++
      ",".intercalate (rowTexts tableWritten.arguments.length pulled)) pulled.flatten) := by
  have hopening : (Writing.put "INSERT INTO ").run Statement.empty =
      .ok () ⟨"INSERT INTO ", []⟩ := rfl
  have hwrite : insert.write.run Statement.empty =
      .ok () (tableWritten.extend (columnList insert.columns ++ " VALUES " ++
        ",".intercalate (rowTexts tableWritten.arguments.length pulled)) pulled.flatten) := by
    unfold write
    rw [if_neg (by simpa using hrows), Writing.run_bind_of_ok hopening,
      Writing.run_bind_of_ok htable, Writing.run_bind_of_ok (Writing.run_put _ _),
      run_writeRows hpulled]
    simp
  unfold compile Writing.compile
  rw [hwrite]

/-- A statement can be compiled exactly if it has a row, its table can be written and all rows can
be asked for their values. -/
theorem compile_eq_ok_iff :
    insert.compile = .ok statement ↔
      insert.rows ≠ [] ∧ ∃ tableWritten pulled,
        insert.table.write.run ⟨"INSERT INTO ", []⟩ = .ok () tableWritten ∧
          BindsRows insert.columns insert.rows pulled tableWritten statement := by
  constructor
  · intro h
    have hrows : insert.rows ≠ [] := by
      intro hnone
      unfold compile write at h
      rw [hnone] at h
      cases h
    have hfailure := failureOf?_compile hrows
    rw [h] at hfailure
    rcases Option.or_eq_none_iff.mp hfailure.symm with ⟨htable, hasked⟩
    rcases Writing.failure?_eq_none_iff.mp htable with ⟨tableWritten, hwritten⟩
    rw [← failureOf?_pullRows] at hasked
    cases hpulled : pullRows insert.columns insert.rows with
    | error failure =>
        rw [hpulled] at hasked
        cases hasked
    | ok pulled =>
        rw [compile_eq_ok hrows hwritten hpulled] at h
        cases h
        exact ⟨hrows, tableWritten, pulled, hwritten,
          bindsRows_of_pullRows hpulled tableWritten⟩
  · intro hboth
    rcases hboth with ⟨hrows, tableWritten, pulled, hwritten, hbinds⟩
    rw [compile_eq_ok hrows hwritten hbinds.asked, hbinds.written]

end Compiled

section Calls

variable {table : Table} {calls listed : List Call} {failure : Failure}

theorem write_built_listed
    (h : listedCalls ((lastGiven Call.columns? calls).getD []) calls = .ok listed) :
    (∀ row ∈ (built table listed).rows, ∃ vs, row = .values vs) ∧
      (built table listed).write = (built table calls).write := by
  rcases listsRows_of_listedCalls h with ⟨pulled, hpulled, hlists⟩
  have hrows := writeRows_of_pullRows hpulled
  have hempty : (pulled.map InsertRow.values).isEmpty = (calls.flatMap Call.rows).isEmpty := by
    rw [Bool.eq_iff_iff, List.isEmpty_iff_length_eq_zero, List.isEmpty_iff_length_eq_zero,
      List.length_map, length_pullRows hpulled]
  rw [built_eq, built_eq]
  dsimp only
  rw [hlists.rows, hlists.columns]
  constructor
  · intro row hrow
    rcases List.mem_map.mp hrow with ⟨vs, _, rfl⟩
    exact ⟨vs, rfl⟩
  · unfold write
    dsimp only
    rw [hempty, hrows]

theorem failure?_built_listed
    (h : listedCalls ((lastGiven Call.columns? calls).getD []) calls = .error failure)
    (before : Statement) :
    (built table calls).write.failure? before =
      (table.write.failure? (before.extend "INSERT INTO " [])).or (some failure) := by
  have hasked := failureOf?_listedCalls ((lastGiven Call.columns? calls).getD []) calls
  rw [h, failureOf?_pullRows] at hasked
  have hrows : calls.flatMap Call.rows ≠ [] := by
    intro hnone
    rw [hnone] at hasked
    cases hasked
  rw [built_eq, failure?_write hrows, ← hasked]
  rfl

/-- Whatever the order of the calls, rows that are asked for the columns of the last column list
and rows that list the same values make the same statement, and a row that cannot be asked makes it
fail with the failure of the row unless the table fails first. A value is numbered by its place in
its row, behind the values of the table and of all rows before. -/
theorem asked_rows_equal_listed_rows (table : Table) (calls : List Call) :
    let columns := (lastGiven Call.columns? calls).getD []
    let rows := calls.flatMap Call.rows
    (∀ listed, listedCalls columns calls = .ok listed →
      (∀ row ∈ (built table listed).rows, ∃ vs, row = .values vs) ∧
        (built table listed).write = (built table calls).write) ∧
    (∀ failure, listedCalls columns calls = .error failure → ∀ before,
      (built table calls).write.failure? before =
        (table.write.failure? (before.extend "INSERT INTO " [])).or (some failure)) ∧
    ∀ statement, (built table calls).compile = .ok statement ↔
      rows ≠ [] ∧ ∃ tableWritten pulled,
        table.write.run ⟨"INSERT INTO ", []⟩ = .ok () tableWritten ∧
          BindsRows columns rows pulled tableWritten statement := by
  intro columns rows
  refine ⟨fun listed => write_built_listed, fun failure => failure?_built_listed, ?_⟩
  intro statement
  rw [compile_eq_ok_iff, built_eq]

/-- A record is added before the columns are set and another one after them, with a shorter row
between the two. -/
theorem wide_rows_around_narrow_row :
    let v (n : Int32) := Value.required (.int32 n)
    let ada : Record := ⟨[⟨"id", v 1⟩, ⟨"age", v 36⟩], 0⟩
    let alan : Record := ⟨[⟨"id", v 2⟩, ⟨"age", v 41⟩], 0⟩
    let table := Table.call "f" [v 0]
    let calls : List Call :=
      [.addRecords [ada], .withColumns ["age", "id"], .addValues [v 9], .addRecords [alan]]
    let listed : List Call :=
      [.addValues [v 36, v 1], .withColumns ["age", "id"], .addValues [v 9],
        .addValues [v 41, v 2]]
    let statement : Statement :=
      ⟨"INSERT INTO f($1) (age,id) VALUES ($2,$3),($4),($5,$6)",
        [v 0, v 36, v 1, v 9, v 41, v 2]⟩
    listedCalls ["age", "id"] calls = .ok listed ∧
      (built table listed).write = (built table calls).write ∧
      (built table calls).compile = .ok statement ∧
      ∃ tableWritten pulled, table.write.run ⟨"INSERT INTO ", []⟩ = .ok () tableWritten ∧
        BindsRows ["age", "id"] (calls.flatMap Call.rows) pulled tableWritten statement := by
  intro v ada alan table calls listed statement
  have hlisted : listedCalls ["age", "id"] calls = .ok listed := rfl
  have hcompile : (built table calls).compile = .ok statement := by decide +kernel
  rcases asked_rows_equal_listed_rows table calls with ⟨hlist, _, hbinds⟩
  exact ⟨hlisted, (hlist listed hlisted).right, hcompile,
    ((hbinds statement).mp hcompile).right⟩

end Calls

end Insert
end Rowsmith
