import Rowsmith.Catalog.Loading
import Rowsmith.Proofs.Session.Execution
import Rowsmith.Proofs.Statement.Construction
import Rowsmith.Proofs.Statement.Placeholder

/-!
# Queries for schemas

Both queries ask for the wanted schemas in the same words, with a placeholder for each of them. They
can be written and sent whenever there is a schema to ask for, and then it is up to the rows of the
answers whether there is a catalog.
-/

namespace Rowsmith

open Text

/-!
# Groups
-/

theorem Operand.run_write_group {vs : List Value} (h : vs ≠ []) (statement : Statement) :
    (Operand.group vs).write.run statement =
      .ok () (statement.extend
        ("(" ++ placeholdersAfter statement.arguments.length vs.length ++ ")") vs) := by
  cases vs with
  | nil => exact absurd rfl h
  | cons v rest =>
      rw [Operand.write, Writing.run_bind_of_ok (Writing.run_put _ _),
        Writing.run_bind_of_ok (Writing.run_bindValues _ _), Writing.run_put]
      simp

theorem Condition.run_write_isIn {vs : List Value} (h : vs ≠ []) (column : String)
    (statement : Statement) :
    (isIn column vs).write.run statement =
      .ok () (statement.extend
        ("(" ++ column ++ " IN (" ++ placeholdersAfter statement.arguments.length vs.length ++ "))")
        vs) := by
  have hopen (s : String) : " IN " ++ ("(" ++ s) = " IN (" ++ s := by
    rw [← String.append_assoc]
    rfl
  rw [isIn, Condition.write, Writing.run_bind_of_ok (Writing.run_put _ _),
    Writing.run_bind_of_ok (Operand.run_write_group h _), Writing.run_put]
  simp [String.append_assoc, hopen]

/-!
# Statements
-/

def schemaClause (count : Nat) : String :=
  "(table_schema::text IN (" ++ placeholdersAfter 0 count ++ "))"

def schemaArguments (schemas : List String) : List Value :=
  schemas.map fun schema => .required (.text schema)

def loaderStatement (columns : List String) (table : String) (schemas : List String) : Statement :=
  ⟨"SELECT " ++ ", ".intercalate columns ++ (" FROM " ++ table) ++
      (" WHERE " ++ schemaClause schemas.length),
    schemaArguments schemas⟩

namespace Select

theorem run_writeTable_named (table : String) (statement : Statement) :
    (writeTable (some (.named table))).run statement =
      .ok () (statement.extend (" FROM " ++ table) []) := by
  rw [writeTable, Writing.run_bind_of_ok (Writing.run_put _ _), Table.write, Writing.run_put]
  simp

theorem run_writeFilter_inSchemas {schemas : List String} (h : schemas ≠ [])
    (statement : Statement) :
    (writeFilter (some (Condition.all [inSchemas schemas]))).run statement =
      .ok () (statement.extend (" WHERE " ++ ("(table_schema::text IN (" ++
        placeholdersAfter statement.arguments.length schemas.length ++ "))"))
        (schemaArguments schemas)) := by
  have hopen : "(" ++ "table_schema::text" ++ " IN (" = "(table_schema::text IN (" := rfl
  have harguments : schemaArguments schemas ≠ [] := by
    intro hnil
    exact h (List.map_eq_nil_iff.mp hnil)
  have hcondition := Condition.run_write_isIn harguments "table_schema::text"
    (statement.extend " WHERE " [])
  rw [hopen, schemaArguments, List.length_map] at hcondition
  rw [writeFilter, Writing.run_bind_of_ok (Writing.run_put _ _), Condition.all, Condition.write,
    inSchemas, hcondition, schemaArguments]
  simp

theorem compile_inSchemas {columns : List String} (hcolumns : columns ≠ []) (table : String)
    {schemas : List String} (h : schemas ≠ []) :
    (filtering (reading { columns := columns } (.named table)) [inSchemas schemas]).compile =
      .ok (loaderStatement columns table schemas) := by
  unfold compile Writing.compile write filtering reading
  dsimp only
  rw [if_neg (mt List.isEmpty_iff.mp hcolumns), Writing.run_bind_of_ok (Writing.run_put _ _),
    Writing.run_bind_of_ok (run_writeTable_named _ _), run_writeFilter_inSchemas h]
  simp only [Statement.extend, Statement.empty, List.append_nil, List.nil_append,
    String.empty_append, List.length_nil]
  rfl

end Select

theorem compile_tablesQuery {schemas : List String} (h : schemas ≠ []) :
    (tablesQuery schemas).compile =
      .ok (loaderStatement (tablesQuery schemas).columns "information_schema.tables" schemas) :=
  Select.compile_inSchemas (List.cons_ne_nil _ _) _ h

theorem compile_columnsQuery {schemas : List String} (h : schemas ≠ []) :
    (columnsQuery schemas).compile =
      .ok (loaderStatement (columnsQuery schemas).columns "information_schema.columns" schemas) :=
  Select.compile_inSchemas (List.cons_ne_nil _ _) _ h

/-!
# Sending
-/

theorem zero_not_mem_placeholder (n : Nat) : '\x00' ∉ (placeholder n).toList := by
  rw [toList_placeholder, List.mem_cons, not_or]
  refine ⟨by decide, ?_⟩
  intro hzero
  have hdigit := isDigit_of_mem_toDigits hzero
  cases hdigit

theorem isSendable_loaderStatement {columns : List String} {table : String}
    (hcolumns : ∀ column ∈ columns, '\x00' ∉ column.toList) (htable : '\x00' ∉ table.toList)
    (schemas : List String) : (loaderStatement columns table schemas).isSendable = true := by
  have hlist : '\x00' ∉ (", ".intercalate columns).toList :=
    not_mem_intercalate (by decide) hcolumns
  have hplaceholders : '\x00' ∉ (placeholdersAfter 0 schemas.length).toList := by
    apply not_mem_intercalate (by decide)
    intro token htoken
    rcases List.mem_map.mp htoken with ⟨n, _, rfl⟩
    exact zero_not_mem_placeholder n
  have hclause : '\x00' ∉ (schemaClause schemas.length).toList :=
    not_mem_append (not_mem_append (by decide) hplaceholders) (by decide)
  have htext : '\x00' ∉ (loaderStatement columns table schemas).text.toList := by
    apply not_mem_append
    · exact not_mem_append (not_mem_append (by decide) hlist) (not_mem_append (by decide) htable)
    · exact not_mem_append (by decide) hclause
  unfold Statement.isSendable
  rw [Bool.not_eq_true', Bool.eq_false_iff]
  intro hzero
  exact htext (List.contains_iff_mem.mp hzero)

/-!
# Loading
-/

theorem query_server_of_answer {select : Select} {statement : Statement}
    (hcompile : select.compile = .ok statement) (hsend : statement.isSendable = true)
    (answer : Answer) (fresh : Record) (records : List Record) (state : Database.server.State) :
    Database.server.query (.answer answer) select fresh records state =
      (⟨(answer.collect fresh records).1, (answer.collect fresh records).2,
        [statement.sending, answer.event .query], [statement.bound]⟩, state) := by
  unfold Database.query
  rw [perform_of_ok hcompile]
  unfold Database.server Database.stateless
  dsimp only
  rw [if_pos hsend]
  rfl

theorem loadCatalog_of_answers {schemas : List String} (h : schemas ≠ []) {tables columns : Answer}
    {tableRecords columnRecords : List Record}
    (htables : tables.collect TableRow.fresh [] = (.ok (), tableRecords))
    (hcolumns : columns.collect ColumnRow.fresh [] = (.ok (), columnRecords)) :
    (loadCatalog schemas ⟨.answer tables, .answer columns⟩).result =
      (assemble (tableRecords.filterMap TableRow.ofRecord?)
        (columnRecords.filterMap ColumnRow.ofRecord?)).mapError .ambiguous := by
  have htableNames : ∀ column ∈ (tablesQuery []).columns, '\x00' ∉ column.toList := by
    decide +kernel
  have hcolumnNames : ∀ column ∈ (columnsQuery []).columns, '\x00' ∉ column.toList := by
    decide +kernel
  have htablesSent : (loaderStatement (tablesQuery schemas).columns "information_schema.tables"
      schemas).isSendable = true :=
    isSendable_loaderStatement htableNames (by decide) schemas
  have hcolumnsSent : (loaderStatement (columnsQuery schemas).columns "information_schema.columns"
      schemas).isSendable = true :=
    isSendable_loaderStatement hcolumnNames (by decide) schemas
  unfold loadCatalog
  dsimp only
  rw [query_server_of_answer (compile_tablesQuery h) htablesSent, htables]
  dsimp only
  rw [query_server_of_answer (compile_columnsQuery h) hcolumnsSent, hcolumns]

end Rowsmith
