import Rowsmith.Proofs.Statement.Placeholder
import Rowsmith.Statement.Builder

/-!
# Laws of fragments

Every statement is put together from texts and values, one after the other. A law that texts and
values keep, and that survives putting fragments one after the other, is therefore kept by every
condition, every SELECT and every INSERT, whatever the law says. What may follow a value is kept
apart from the rest, since a digit there would be read as part of the value's number.
-/

namespace Rowsmith

open Text

/-- A law that tells of a fragment which values it binds. -/
structure FragmentLaw where
  Keeps : Writing Unit → List Value → Prop
  /-- The law for a fragment that may follow a value. -/
  KeepsAfterValue : Writing Unit → List Value → Prop
  weaken : ∀ {a vs}, KeepsAfterValue a vs → Keeps a vs
  throw : ∀ failure vs, Keeps (MonadExcept.throw failure) vs
  pure : KeepsAfterValue (Pure.pure ()) []
  put : ∀ {s}, DollarFree s → Keeps (Writing.put s) []
  putAfterValue : ∀ {s}, DollarFree s → StartsClear s → KeepsAfterValue (Writing.put s) []
  bindValue : ∀ v, Keeps (Writing.bindValue v) [v]
  bind : ∀ {a b vs ws}, Keeps a vs → KeepsAfterValue b ws → Keeps (a >>= fun _ => b) (vs ++ ws)
  putBind : ∀ {s b ws}, DollarFree s → Keeps b ws → Keeps (Writing.put s >>= fun _ => b) ws
  putBindAfterValue : ∀ {s b ws} {c : Char} {rest : List Char}, DollarFree s →
    s.toList = c :: rest → isDigit c = false → Keeps b ws →
    KeepsAfterValue (Writing.put s >>= fun _ => b) ws

theorem dollarFree_intercalate {separator : String} {parts : List String}
    (hseparator : DollarFree separator) (hparts : ∀ part ∈ parts, DollarFree part) :
    DollarFree (separator.intercalate parts) :=
  not_mem_intercalate hseparator hparts

/-!
# What statements bind
-/

def Select.filterLiterals : Option Condition → List Value
  | none => []
  | some condition => condition.literals

/-- A row that cannot be pulled binds nothing, since writing it fails. -/
def Insert.rowLiterals (columns : List String) (row : InsertRow) : List Value :=
  (row.pull columns).toOption.getD []

theorem Insert.columnList_dollarFree {columns : List String}
    (hcolumns : ∀ column ∈ columns, DollarFree column) : DollarFree (columnList columns) := by
  unfold columnList
  split
  · decide
  · have hcomma : DollarFree "," := by decide
    have hnames := dollarFree_intercalate hcomma hcolumns
    exact dollarFree_append (dollarFree_append (by decide) hnames) (by decide)

theorem Insert.columnList_first (columns : List String) :
    ∃ rest, (columnList columns ++ " VALUES ").toList = ' ' :: rest := by
  unfold columnList
  split
  · exact ⟨_, rfl⟩
  · exact ⟨_, by simp only [String.toList_append]; rfl⟩

namespace FragmentLaw

variable (law : FragmentLaw)

/-!
# Values
-/

theorem keeps_bindValues (vs : List Value) : law.Keeps (Writing.bindValues vs) vs := by
  induction vs with
  | nil => exact law.weaken law.pure
  | cons v rest ih =>
      cases rest with
      | nil => exact law.bindValue v
      | cons w more =>
          have hrest : law.KeepsAfterValue
              (do Writing.put ","; Writing.bindValues (w :: more)) (w :: more) :=
            law.putBindAfterValue (by decide) rfl (by decide) ih
          exact law.bind (law.bindValue v) hrest

theorem keeps_parenthesized {s : String} (hs : DollarFree s) (vs : List Value) :
    law.Keeps (do Writing.put s; Writing.bindValues vs; Writing.put ")") vs := by
  apply law.putBind hs
  have hclose : law.KeepsAfterValue (Writing.put ")") [] :=
    law.putAfterValue (by decide) (by decide)
  simpa using law.bind (law.keeps_bindValues vs) hclose

theorem keeps_operand (operand : Operand) : law.Keeps operand.write operand.literals := by
  cases operand with
  | value v => exact law.bindValue v
  | group vs =>
      cases vs with
      | nil => exact law.throw .emptyGroup []
      | cons v rest => exact law.keeps_parenthesized (by decide) (v :: rest)

/-!
# Conditions
-/

theorem keeps_joined {operator : String} (hoperator : DollarFree operator)
    (conditions : List Condition) (ih : ∀ c ∈ conditions, law.Keeps c.write c.literals) :
    law.KeepsAfterValue (do Condition.writeJoined operator conditions; Writing.put ")")
      (Condition.literalsOfAll conditions) := by
  induction conditions with
  | nil => exact law.putAfterValue (by decide) (by decide)
  | cons c rest ihrest =>
      have hrest := ihrest fun d hd => ih d (by simp [hd])
      have hc := law.bind (ih c (by simp)) hrest
      have hspaced : DollarFree (" " ++ operator ++ " ") :=
        dollarFree_append (dollarFree_append (by decide) hoperator) (by decide)
      have hfirst : (" " ++ operator ++ " ").toList = ' ' :: (operator.toList ++ [' ']) := by
        simp
      have h := law.putBindAfterValue hspaced hfirst (by decide) hc
      simpa [Condition.writeJoined, Condition.literalsOfAll, bind_assoc] using h

theorem keeps_condition (c : Condition) (hfree : c.DollarFree) :
    law.Keeps c.write c.literals := by
  induction c using Condition.inductionOn with
  | compare operator column operand =>
      have hoperator := hfree operator (by simp [Condition.names])
      have hcolumn := hfree column (by simp [Condition.names])
      have hopening : DollarFree ("(" ++ column ++ " " ++ operator ++ " ") :=
        dollarFree_append (dollarFree_append (dollarFree_append
          (dollarFree_append (by decide) hcolumn) (by decide)) hoperator) (by decide)
      have hclose : law.KeepsAfterValue (Writing.put ")") [] :=
        law.putAfterValue (by decide) (by decide)
      have hcontent := law.bind (law.keeps_operand operand) hclose
      rw [List.append_nil] at hcontent
      rw [Condition.write, Condition.literals]
      exact law.putBind hopening hcontent
  | empty operator =>
      rw [Condition.write]
      exact law.throw .emptyConditions _
  | single operator c ih =>
      rw [Condition.write, Condition.literals, Condition.literalsOfAll, Condition.literalsOfAll,
        List.append_nil]
      exact ih (hfree.of_logical.right c (by simp))
  | several operator first second rest ih =>
      rcases hfree.of_logical with ⟨hoperator, hconditions⟩
      have hmembers : ∀ c ∈ first :: second :: rest, law.Keeps c.write c.literals :=
        fun c hc => ih c hc (hconditions c hc)
      have hjoined := law.keeps_joined hoperator (second :: rest)
        fun c hc => hmembers c (by simp [hc])
      have h := law.bind (hmembers first (by simp)) hjoined
      rw [Condition.write, Condition.literals, Condition.literalsOfAll]
      exact law.putBind (by decide) h

/-!
# Tables
-/

/-- What a table has to fulfil to bind these values: a name is free of dollar signs, and a fragment
of the caller's own keeps the law itself. -/
def KeptByTable : Table → List Value → Prop
  | .named name, vs => DollarFree name ∧ vs = []
  | .described table, vs => DollarFree table.name ∧ vs = []
  | .custom fragment, vs => law.Keeps fragment vs

variable {law}

theorem keeps_table {table : Table} {vs : List Value} (h : law.KeptByTable table vs) :
    law.Keeps table.write vs := by
  cases table with
  | named name =>
      rcases h with ⟨hname, hvs⟩
      rw [hvs]
      exact law.put hname
  | described table =>
      rcases h with ⟨hname, hvs⟩
      rw [hvs]
      exact law.put hname
  | custom fragment => exact h

theorem keptByTable_call {function : String} (hfunction : DollarFree function)
    (vs : List Value) : law.KeptByTable (Table.call function vs) vs :=
  law.keeps_parenthesized (dollarFree_append hfunction (by decide)) vs

theorem keptByTable_aliased {fragment : Writing Unit} {name : String} {vs : List Value}
    (hname : DollarFree name) (hfragment : law.Keeps fragment vs) :
    law.KeptByTable (Table.aliased fragment name) vs := by
  have hfree : DollarFree (") AS " ++ name) := dollarFree_append (by decide) hname
  have hclear : StartsClear (") AS " ++ name) := by
    simp [StartsClear, isDigit]
  have hcontent := law.bind hfragment (law.putAfterValue hfree hclear)
  rw [List.append_nil] at hcontent
  exact law.putBind (by decide) hcontent

/-!
# SELECT
-/

variable (law)

def KeptByTable? : Option Table → List Value → Prop
  | none, vs => vs = []
  | some table, vs => law.KeptByTable table vs

variable {law}

theorem keeps_writeTable {table : Option Table} {vs : List Value}
    (h : law.KeptByTable? table vs) : law.Keeps (Select.writeTable table) vs := by
  cases table with
  | none =>
      cases h
      exact law.weaken law.pure
  | some table => exact law.putBind (by decide) (keeps_table h)

theorem keepsAfterValue_writeFilter {filter : Option Condition}
    (hfilter : ∀ condition ∈ filter, condition.DollarFree) :
    law.KeepsAfterValue (Select.writeFilter filter) (Select.filterLiterals filter) := by
  cases filter with
  | none => exact law.pure
  | some condition =>
      have h := law.keeps_condition condition (hfilter condition rfl)
      have hfirst : " WHERE ".toList = ' ' :: "WHERE ".toList := rfl
      exact law.putBindAfterValue (by decide) hfirst (by decide) h

theorem keeps_select {select : Select} {tableLiterals : List Value}
    (hcolumns : ∀ column ∈ select.columns, DollarFree column)
    (htable : law.KeptByTable? select.table tableLiterals)
    (hfilter : ∀ condition ∈ select.filter, condition.DollarFree) :
    law.Keeps select.write (tableLiterals ++ Select.filterLiterals select.filter) := by
  have hlist : DollarFree
      (if select.columns.isEmpty then "*" else ", ".intercalate select.columns) := by
    split
    · decide
    · exact dollarFree_intercalate (by decide) hcolumns
  have hrest := law.bind (keeps_writeTable htable) (keepsAfterValue_writeFilter hfilter)
  exact law.putBind (dollarFree_append (by decide) hlist) hrest

/-!
# INSERT
-/

theorem keeps_writeRow (columns : List String) (row : InsertRow) :
    law.Keeps (Insert.writeRow columns row) (Insert.rowLiterals columns row) := by
  unfold Insert.writeRow Insert.rowLiterals
  cases row.pull columns with
  | error failure => exact law.throw failure _
  | ok vs => exact law.keeps_parenthesized (by decide) vs

theorem keeps_writeRows (columns : List String) (rows : List InsertRow) :
    law.Keeps (Insert.writeRows columns rows) (rows.flatMap (Insert.rowLiterals columns)) := by
  induction rows with
  | nil => exact law.weaken law.pure
  | cons row rest ih =>
      cases rest with
      | nil =>
          rw [List.flatMap_singleton]
          exact keeps_writeRow columns row
      | cons next more =>
          have hrest : law.KeepsAfterValue
              (do Writing.put ","; Insert.writeRows columns (next :: more))
              ((next :: more).flatMap (Insert.rowLiterals columns)) :=
            law.putBindAfterValue (by decide) rfl (by decide) ih
          rw [List.flatMap_cons]
          exact law.bind (keeps_writeRow columns row) hrest

theorem keeps_insert {insert : Insert} {tableLiterals : List Value}
    (hcolumns : ∀ column ∈ insert.columns, DollarFree column)
    (htable : law.KeptByTable insert.table tableLiterals) :
    law.Keeps insert.write
      (tableLiterals ++ insert.rows.flatMap (Insert.rowLiterals insert.columns)) := by
  unfold Insert.write
  split
  · exact law.throw .noRows _
  · rcases Insert.columnList_first insert.columns with ⟨rest, hfirst⟩
    have hlist : DollarFree (Insert.columnList insert.columns ++ " VALUES ") :=
      dollarFree_append (Insert.columnList_dollarFree hcolumns) (by decide)
    have hrows := law.putBindAfterValue hlist hfirst (by decide)
      (keeps_writeRows insert.columns insert.rows)
    exact law.putBind (by decide) (law.bind (keeps_table htable) hrows)

end FragmentLaw

end Rowsmith
