import Rowsmith.Proofs.Statement.FragmentLaw

/-!
# Numbering of whole statements

A SELECT binds the values of its table and then those of its conditions, an INSERT those of its
table and then those of its rows, in whatever order they were given. Both keep the law of
placeholders.
-/

namespace Rowsmith

def numberingLaw : FragmentLaw where
  Keeps := Writing.Numbers
  KeepsAfterValue := Writing.NumbersAfterTokens
  weaken := Writing.NumbersAfterTokens.numbers
  throw := fun failure _ => Writing.numbers_throw failure
  pure := Writing.numbersAfterTokens_pure
  put := Writing.numbers_put
  putAfterValue := Writing.numbersAfterTokens_put
  bindValue := Writing.numbers_bindValue
  bind := Writing.Numbers.bind
  putBind := Writing.Numbers.put_bind
  putBindAfterValue := Writing.Numbers.put_bind_afterTokens

theorem Operand.write_numbers (operand : Operand) : operand.write.Numbers operand.literals :=
  numberingLaw.keeps_operand operand

theorem Condition.write_numbers (c : Condition) (hfree : c.DollarFree) :
    c.write.Numbers c.literals :=
  numberingLaw.keeps_condition c hfree

/-!
# Tables
-/

/-- What a table has to fulfil to bind these values: a name is free of dollar signs, and a fragment
of the caller's own keeps the law itself. -/
def Table.Binds : Table → List Value → Prop
  | .named name, vs => DollarFree name ∧ vs = []
  | .described table, vs => DollarFree table.name ∧ vs = []
  | .custom fragment, vs => fragment.Numbers vs

namespace Table

theorem keptByTable_of_binds {table : Table} {vs : List Value} (h : table.Binds vs) :
    numberingLaw.KeptByTable table vs := by
  cases table with
  | named name => exact h
  | described description => exact h
  | custom fragment => exact h

theorem call_binds {function : String} (hfunction : DollarFree function) (vs : List Value) :
    (call function vs).Binds vs :=
  numberingLaw.keeps_parenthesized (dollarFree_append hfunction (by decide)) vs

end Table

/-!
# SELECT
-/

namespace Select

def TableBinds : Option Table → List Value → Prop
  | none, vs => vs = []
  | some table, vs => table.Binds vs

theorem keptByTable_of_binds {table : Option Table} {vs : List Value}
    (h : TableBinds table vs) : numberingLaw.KeptByTable? table vs := by
  cases table with
  | none => exact h
  | some table => exact Table.keptByTable_of_binds h

theorem write_numbers {select : Select} {tableLiterals : List Value}
    (hcolumns : ∀ column ∈ select.columns, DollarFree column)
    (htable : TableBinds select.table tableLiterals)
    (hfilter : ∀ condition ∈ select.filter, condition.DollarFree) :
    select.write.Numbers (tableLiterals ++ filterLiterals select.filter) :=
  FragmentLaw.keeps_select hcolumns (keptByTable_of_binds htable) hfilter

end Select

/-!
# INSERT
-/

namespace Insert

theorem write_numbers {insert : Insert} {tableLiterals : List Value}
    (hcolumns : ∀ column ∈ insert.columns, DollarFree column)
    (htable : insert.table.Binds tableLiterals) :
    insert.write.Numbers
      (tableLiterals ++ insert.rows.flatMap (rowLiterals insert.columns)) :=
  FragmentLaw.keeps_insert hcolumns (Table.keptByTable_of_binds htable)

end Insert

/-!
# Statements made by calls

Calls that are made again take the place of the earlier ones, and the order of unrelated calls does
not matter.
-/

theorem Condition.all_dollarFree {conditions : List Condition}
    (h : ∀ c ∈ conditions, c.DollarFree) : (all conditions).DollarFree := by
  intro name hname
  simp only [all, names, namesOfAll_eq, List.mem_cons, List.mem_flatMap] at hname
  rcases hname with rfl | ⟨c, hc, hname⟩
  · decide
  · exact h c hc name hname

theorem Select.built_numbers {columns : List String} {calls : List Select.Call}
    {tableLiterals : List Value} (hcolumns : ∀ column ∈ columns, DollarFree column)
    (htable : TableBinds (lastGiven Call.table? calls) tableLiterals)
    (hconditions : ∀ conditions ∈ lastGiven Call.conditions? calls,
      ∀ c ∈ conditions, c.DollarFree) :
    (built columns calls).write.Numbers
      (tableLiterals ++
        ((lastGiven Call.conditions? calls).getD []).flatMap Condition.literals) := by
  rw [built_eq]
  cases hlast : lastGiven Call.conditions? calls with
  | none =>
      refine write_numbers hcolumns htable ?_
      intro condition hcondition
      cases hcondition
  | some conditions =>
      have hall := Condition.all_dollarFree (hconditions conditions hlast)
      have hfilter : ∀ condition ∈ some (Condition.all conditions), condition.DollarFree := by
        intro _ hsome
        cases hsome
        exact hall
      have h := @write_numbers ⟨columns, _, some (Condition.all conditions)⟩ _
        hcolumns htable hfilter
      rw [filterLiterals, Condition.all, Condition.literals, Condition.literalsOfAll_eq] at h
      exact h

theorem Insert.built_numbers {table : Table} {calls : List Insert.Call}
    {tableLiterals : List Value} (htable : table.Binds tableLiterals)
    (hcolumns : ∀ column ∈ (lastGiven Call.columns? calls).getD [], DollarFree column) :
    (built table calls).write.Numbers
      (tableLiterals ++ (calls.flatMap Call.rows).flatMap
        (rowLiterals ((lastGiven Call.columns? calls).getD []))) := by
  rw [built_eq]
  exact write_numbers hcolumns htable

/-- Whatever is written after whatever else: the placeholders of the new text are the numbers of the
new values in order, and the new values are the literals of the statement from left to right. -/
theorem placeholders_number_literals :
    (∀ operand : Operand, operand.write.Numbers operand.literals) ∧
    (∀ c : Condition, c.DollarFree → c.write.Numbers c.literals) ∧
    (∀ columns (calls : List Select.Call) tableLiterals,
      (∀ column ∈ columns, DollarFree column) →
      Select.TableBinds (lastGiven Select.Call.table? calls) tableLiterals →
      (∀ conditions ∈ lastGiven Select.Call.conditions? calls,
        ∀ c ∈ conditions, c.DollarFree) →
      (Select.built columns calls).write.Numbers
        (tableLiterals ++
          ((lastGiven Select.Call.conditions? calls).getD []).flatMap Condition.literals)) ∧
    (∀ table (calls : List Insert.Call) tableLiterals,
      table.Binds tableLiterals →
      (∀ column ∈ (lastGiven Insert.Call.columns? calls).getD [], DollarFree column) →
      (Insert.built table calls).write.Numbers
        (tableLiterals ++ (calls.flatMap Insert.Call.rows).flatMap
          (Insert.rowLiterals ((lastGiven Insert.Call.columns? calls).getD [])))) := by
  refine ⟨Operand.write_numbers, Condition.write_numbers, ?_, ?_⟩
  · intro columns calls tableLiterals hcolumns htable hconditions
    exact Select.built_numbers hcolumns htable hconditions
  · intro table calls tableLiterals htable hcolumns
    exact Insert.built_numbers htable hcolumns

/-- The condition is given before the table, and its values are numbered after those of the
table. -/
theorem placeholders_of_filtered_call :
    let v (n : Int32) := Value.required (.int32 n)
    let select := Select.built ["a"]
      [.filtering [Condition.isIn "b" [v 3, v 4]], .reading (Table.call "f" [v 1, v 2])]
    select.write.Numbers [v 1, v 2, v 3, v 4] ∧
      select.write.run ⟨"x ", [v 0]⟩ =
        .ok () ⟨"x SELECT a FROM f($2,$3) WHERE (b IN ($4,$5))", [v 0, v 1, v 2, v 3, v 4]⟩ := by
  intro v select
  constructor
  · refine placeholders_number_literals.2.2.1 ["a"] _ [v 1, v 2] (by decide) ?_ ?_
    · exact Table.call_binds (by decide) _
    · intro conditions hlast c hc
      cases hlast
      rcases List.mem_singleton.mp hc with rfl
      intro name hname
      simp only [Condition.isIn, Condition.names, List.mem_cons, List.not_mem_nil,
        or_false] at hname
      rcases hname with rfl | rfl <;> decide
  · decide +kernel

end Rowsmith
