import Rowsmith.Proofs.Basic
import Rowsmith.Statement.Builder
import Rowsmith.Statement.Fragment

/-!
# Statements under construction

What is left behind by calls and by the fragments written one after the other.
-/

namespace Rowsmith

/-!
# Call by call

A SELECT is made from its columns and an INSERT from its table by any calls in any order. What the
calls leave behind is said here without the order in which unrelated calls stand: the last table,
the last conditions, the last column list, and the rows of all calls in order.
-/

namespace Select

inductive Call where
  | reading (table : Table)
  | filtering (conditions : List Condition)

def Call.apply (select : Select) : Call → Select
  | .reading table => select.reading table
  | .filtering conditions => select.filtering conditions

def Call.table? : Call → Option Table
  | .reading table => some table
  | .filtering _ => none

def Call.conditions? : Call → Option (List Condition)
  | .reading _ => none
  | .filtering conditions => some conditions

def built (columns : List String) (calls : List Call) : Select :=
  calls.foldl Call.apply { columns }

theorem built_concat (columns : List String) (calls : List Call) (call : Call) :
    built columns (calls ++ [call]) = call.apply (built columns calls) := by
  simp [built]

theorem built_eq (columns : List String) (calls : List Call) :
    built columns calls =
      { columns
        table := lastGiven Call.table? calls
        filter := (lastGiven Call.conditions? calls).map Condition.all } := by
  induction calls using List.reverseRecOn with
  | nil => rfl
  | append_singleton calls call ih =>
      rw [built_concat, ih, lastGiven_concat, lastGiven_concat]
      cases call with
      | reading table => rfl
      | filtering conditions => rfl

end Select

namespace Insert

inductive Call where
  | withColumns (columns : List String)
  | addValues (vs : List Value)
  | addRecords (records : List Record)
  | addSources (sources : List ValueSource)

def Call.apply (insert : Insert) : Call → Insert
  | .withColumns columns => insert.withColumns columns
  | .addValues vs => insert.addValues vs
  | .addRecords records => insert.addRecords records
  | .addSources sources => insert.addSources sources

def Call.columns? : Call → Option (List String)
  | .withColumns columns => some columns
  | .addValues _ => none
  | .addRecords _ => none
  | .addSources _ => none

def Call.rows : Call → List InsertRow
  | .withColumns _ => []
  | .addValues vs => [.values vs]
  | .addRecords records => records.map .record
  | .addSources sources => sources.map .custom

def built (table : Table) (calls : List Call) : Insert :=
  calls.foldl Call.apply { table }

theorem built_concat (table : Table) (calls : List Call) (call : Call) :
    built table (calls ++ [call]) = call.apply (built table calls) := by
  simp [built]

theorem built_eq (table : Table) (calls : List Call) :
    built table calls =
      { table
        columns := (lastGiven Call.columns? calls).getD []
        rows := calls.flatMap Call.rows } := by
  induction calls using List.reverseRecOn with
  | nil => rfl
  | append_singleton calls call ih =>
      rw [built_concat, ih, lastGiven_concat, List.flatMap_append]
      cases call with
      | withColumns columns => simp [Call.apply, withColumns, Call.columns?, Call.rows]
      | addValues vs => simp [Call.apply, addValues, Call.columns?, Call.rows]
      | addRecords records => simp [Call.apply, addRecords, Call.columns?, Call.rows]
      | addSources sources => simp [Call.apply, addSources, Call.columns?, Call.rows]

end Insert

/-!
# What a fragment appends

Writing only ever appends: text to the text, values to the arguments. A fragment is described by
the values that it binds and by the shape of the text that it writes, which depends on nothing but
the count of arguments before it. Descriptions of fragments written one after the other are put
together by one lemma, whatever the shape is.
-/

namespace Statement

def extend (statement : Statement) (text : String) (vs : List Value) : Statement :=
  ⟨statement.text ++ text, statement.arguments ++ vs⟩

@[simp] theorem extend_text (statement : Statement) (text : String) (vs : List Value) :
    (statement.extend text vs).text = statement.text ++ text := rfl

@[simp] theorem extend_arguments (statement : Statement) (text : String) (vs : List Value) :
    (statement.extend text vs).arguments = statement.arguments ++ vs := rfl

@[simp] theorem extend_nothing (statement : Statement) : statement.extend "" [] = statement := by
  simp [extend]

@[simp] theorem extend_extend (statement : Statement) (s t : String) (vs ws : List Value) :
    (statement.extend s vs).extend t ws = statement.extend (s ++ t) (vs ++ ws) := by
  simp [extend, String.append_assoc]

end Statement

def placeholdersAfter (before count : Nat) : String :=
  ",".intercalate ((List.range' (before + 1) count).map placeholder)

namespace Writing

/-!
## Running a fragment
-/

instance instDecidableEqRun : DecidableEq (EStateM.Result Failure Statement Unit)
  | .ok _ s, .ok _ t => decidable_of_iff (s = t) (by simp)
  | .error e s, .error f t => decidable_of_iff (e = f ∧ s = t) (by simp)
  | .ok _ _, .error _ _ => isFalse (by simp)
  | .error _ _, .ok _ _ => isFalse (by simp)

theorem run_pure (statement : Statement) :
    (pure () : Writing Unit).run statement = .ok () statement := rfl

theorem run_throw (failure : Failure) (statement : Statement) :
    (throw failure : Writing Unit).run statement = .error failure statement := rfl

theorem run_put (s : String) (statement : Statement) :
    (put s).run statement = .ok () (statement.extend s []) := by
  simp only [Statement.extend, List.append_nil]
  rfl

theorem run_bindValue (v : Value) (statement : Statement) :
    (bindValue v).run statement =
      .ok () (statement.extend (placeholder (statement.arguments.length + 1)) [v]) := rfl

theorem run_bind_of_ok {a b : Writing Unit} {before middle : Statement}
    (h : a.run before = .ok () middle) :
    (a >>= fun _ => b).run before = b.run middle := by
  simp only [EStateM.run, bind, EStateM.bind] at h ⊢
  rw [h]

theorem run_bind_of_error {a b : Writing Unit} {before after : Statement} {failure : Failure}
    (h : a.run before = .error failure after) :
    (a >>= fun _ => b).run before = .error failure after := by
  simp only [EStateM.run, bind, EStateM.bind] at h ⊢
  rw [h]

theorem run_bindValues (vs : List Value) (statement : Statement) :
    (bindValues vs).run statement =
      .ok () (statement.extend (placeholdersAfter statement.arguments.length vs.length) vs) := by
  induction vs generalizing statement with
  | nil =>
      rw [bindValues, run_pure]
      show _ = EStateM.Result.ok () (statement.extend "" [])
      rw [Statement.extend_nothing]
  | cons v rest ih =>
      cases rest with
      | nil =>
          rw [bindValues, run_bindValue]
          show _ = EStateM.Result.ok () (statement.extend (",".intercalate [_]) [v])
          rw [String.intercalate_singleton]
      | cons w more =>
          have hcount : placeholdersAfter statement.arguments.length (v :: w :: more).length =
              placeholder (statement.arguments.length + 1) ++ "," ++
                placeholdersAfter (statement.arguments.length + 1) (w :: more).length := by
            unfold placeholdersAfter
            rw [List.length_cons, List.length_cons, List.range'_succ, List.range'_succ,
              List.map_cons, List.map_cons, String.intercalate_cons_cons]
          have hstep : bindValues (v :: w :: more) = (do
              bindValue v
              put ","
              bindValues (w :: more)) := rfl
          rw [hstep, run_bind_of_ok (run_bindValue v statement), run_bind_of_ok (run_put _ _), ih,
            hcount]
          simp [String.append_assoc]

/-!
## Describing a fragment
-/

/-- On success the fragment appends the given values and a text of the given shape, which is told
the count of arguments before. On failure nothing is taken away. -/
structure Appends (fragment : Writing Unit) (literals : List Value)
    (shape : Nat → String → Prop) : Prop where
  success : ∀ {before after : Statement}, fragment.run before = .ok () after →
    ∃ text, after = before.extend text literals ∧ shape before.arguments.length text
  failure : ∀ {before after : Statement} {failure : Failure},
    fragment.run before = .error failure after →
    ∃ text vs, after = before.extend text vs

namespace Appends

variable {a b : Writing Unit} {vs ws : List Value} {P Q R : Nat → String → Prop}

theorem mono (h : a.Appends vs P) (himp : ∀ n text, P n text → Q n text) :
    a.Appends vs Q := by
  constructor
  · intro before after hrun
    rcases h.success hrun with ⟨text, hafter, hP⟩
    exact ⟨text, hafter, himp _ _ hP⟩
  · exact h.failure

theorem pure (h : ∀ n, P n "") : (Pure.pure () : Writing Unit).Appends [] P := by
  constructor
  · intro before after hrun
    rw [run_pure] at hrun
    cases hrun
    exact ⟨"", by simp, h _⟩
  · intro before after failure hrun
    cases hrun

theorem throw (failure : Failure) : (MonadExcept.throw failure : Writing Unit).Appends vs P := by
  constructor
  · intro before after hrun
    cases hrun
  · intro before after failure' hrun
    cases hrun
    exact ⟨"", [], by simp⟩

theorem put (s : String) (h : ∀ n, P n s) : (Writing.put s).Appends [] P := by
  constructor
  · intro before after hrun
    rw [run_put] at hrun
    cases hrun
    exact ⟨s, rfl, h _⟩
  · intro before after failure hrun
    cases hrun

theorem bindValue (v : Value) (h : ∀ n, P n (placeholder (n + 1))) :
    (Writing.bindValue v).Appends [v] P := by
  constructor
  · intro before after hrun
    rw [run_bindValue] at hrun
    cases hrun
    exact ⟨_, rfl, h _⟩
  · intro before after failure hrun
    cases hrun

theorem bind (ha : a.Appends vs P) (hb : b.Appends ws Q)
    (h : ∀ n s t, P n s → Q (n + vs.length) t → R n (s ++ t)) :
    (a >>= fun _ => b).Appends (vs ++ ws) R := by
  constructor
  · intro before after hrun
    cases hfirst : a.run before with
    | ok _ middle =>
        rw [run_bind_of_ok hfirst] at hrun
        rcases ha.success hfirst with ⟨s, rfl, hs⟩
        rcases hb.success hrun with ⟨t, rfl, ht⟩
        refine ⟨s ++ t, by simp, h _ _ _ hs ?_⟩
        simpa using ht
    | error failure middle =>
        rw [run_bind_of_error hfirst] at hrun
        cases hrun
  · intro before after failure hrun
    cases hfirst : a.run before with
    | ok _ middle =>
        rw [run_bind_of_ok hfirst] at hrun
        rcases ha.success hfirst with ⟨s, rfl, _⟩
        rcases hb.failure hrun with ⟨t, us, rfl⟩
        exact ⟨s ++ t, vs ++ us, by simp⟩
    | error failure' middle =>
        rw [run_bind_of_error hfirst] at hrun
        cases hrun
        exact ha.failure hfirst

theorem put_bind {s : String} (hb : b.Appends ws Q)
    (h : ∀ n t, Q n t → R n (s ++ t)) :
    (Writing.put s >>= fun _ => b).Appends ws R := by
  have hput : (Writing.put s).Appends [] fun _ text => text = s := put s fun _ => rfl
  refine bind hput hb ?_
  intro n text t htext ht
  rw [htext]
  exact h n t ht

end Appends

end Writing

/-!
## Conditions as trees
-/

/-- What holds of every comparison, and of every join if it holds of all members, holds of every
condition. Joins without members, with one and with several are written in three ways. -/
@[elab_as_elim]
theorem Condition.inductionOn {motive : Condition → Prop} (c : Condition)
    (compare : ∀ operator column operand, motive (.compare operator column operand))
    (empty : ∀ operator, motive (.logical operator []))
    (single : ∀ operator c, motive c → motive (.logical operator [c]))
    (several : ∀ operator first second rest, (∀ c ∈ first :: second :: rest, motive c) →
      motive (.logical operator (first :: second :: rest))) :
    motive c := by
  refine Condition.rec (motive_1 := motive) (motive_2 := fun cs => ∀ c ∈ cs, motive c)
    compare ?_ ?_ ?_ c
  · intro operator conditions ih
    match conditions with
    | [] => exact empty operator
    | [c] => exact single operator c (ih c (by simp))
    | first :: second :: rest => exact several operator first second rest ih
  · intro c hc
    cases hc
  · intro first rest hfirst hrest c hc
    rcases List.mem_cons.mp hc with rfl | hmem
    · exact hfirst
    · exact hrest c hmem

end Rowsmith
