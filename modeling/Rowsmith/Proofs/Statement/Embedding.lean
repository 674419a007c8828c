import Rowsmith.Proofs.Statement.Template

/-!
# Fragments within other statements

A fragment writes one template, or fails with one failure, whatever stands before it. A statement
written into another one is therefore the text that it compiles to on its own with its placeholders
renumbered, over the same arguments, and it means the same there.
-/

namespace Rowsmith

open Text

namespace Writing

/-!
# Writing a template
-/

/-- Wherever it stands, the fragment spells the template after the values before it, or it fails
with the failure. -/
def Follows (fragment : Writing Unit) : Except Failure Template → Prop
  | .ok template => ∀ before, fragment.run before =
      .ok () (before.extend (template.text before.arguments.length) template.values)
  | .error failure => ∀ before, ∃ after, fragment.run before = .error failure after

def joined (first second : Except Failure Template) : Except Failure Template := do
  let s ← first
  let t ← second
  return s ++ t

theorem follows_pure : (pure () : Writing Unit).Follows (.ok []) := by
  intro before
  rw [run_pure]
  exact congrArg (EStateM.Result.ok ()) (Statement.extend_nothing before).symm

theorem follows_throw (failure : Failure) :
    (throw failure : Writing Unit).Follows (.error failure) :=
  fun before => ⟨before, run_throw failure before⟩

theorem follows_put (s : String) : (put s).Follows (.ok (Template.ofText s)) := by
  intro before
  rw [run_put, Template.text_ofText, Template.values_ofText]

theorem follows_bindValue (v : Value) : (bindValue v).Follows (.ok [.bound v]) := by
  intro before
  have htext : Template.text before.arguments.length [.bound v] =
      placeholder (before.arguments.length + 1) := by
    apply String.toList_inj.mp
    rw [toList_placeholder, Template.text, String.toList_ofList]
    exact List.append_nil _
  rw [run_bindValue, htext]
  rfl

theorem Follows.bind {a b : Writing Unit} {first second : Except Failure Template}
    (ha : a.Follows first) (hb : b.Follows second) :
    (a >>= fun _ => b).Follows (joined first second) := by
  cases first with
  | error failure =>
      intro before
      rcases ha before with ⟨after, hrun⟩
      exact ⟨after, run_bind_of_error hrun⟩
  | ok s =>
      cases second with
      | error failure =>
          intro before
          rcases hb (before.extend (s.text before.arguments.length) s.values) with ⟨after, hrun⟩
          refine ⟨after, ?_⟩
          rw [run_bind_of_ok (ha before), hrun]
      | ok t =>
          intro before
          have hrest := hb (before.extend (s.text before.arguments.length) s.values)
          rw [run_bind_of_ok (ha before), hrest, Statement.extend_extend, Template.text_append,
            Template.values_append, Statement.extend_arguments, List.length_append]

/-!
# The law
-/

/-- If the fragment can be written, then as a template with the property. -/
def Spells (fragment : Writing Unit) (P : Template → Prop) : Prop :=
  ∃ outcome, fragment.Follows outcome ∧ ∀ template, outcome = .ok template → P template

section

variable {a b : Writing Unit} {P Q R : Template → Prop}

theorem Spells.mono (h : a.Spells P) (himp : ∀ template, P template → Q template) :
    a.Spells Q := by
  rcases h with ⟨outcome, hfollows, houtcome⟩
  exact ⟨outcome, hfollows, fun template h => himp template (houtcome template h)⟩

theorem Follows.spells {template : Template} (h : a.Follows (.ok template)) (hP : P template) :
    a.Spells P := by
  refine ⟨_, h, ?_⟩
  intro other heq
  cases heq
  exact hP

theorem spells_throw (failure : Failure) : (throw failure : Writing Unit).Spells P := by
  refine ⟨_, follows_throw failure, ?_⟩
  intro template heq
  cases heq

theorem Spells.bind (ha : a.Spells P) (hb : b.Spells Q)
    (himp : ∀ s t, P s → Q t → R (s ++ t)) : (a >>= fun _ => b).Spells R := by
  rcases ha with ⟨first, hfirst, hP⟩
  rcases hb with ⟨second, hsecond, hQ⟩
  refine ⟨_, hfirst.bind hsecond, ?_⟩
  intro template heq
  cases first with
  | error failure => cases heq
  | ok s =>
      cases second with
      | error failure => cases heq
      | ok t =>
          cases heq
          exact himp s t (hP s rfl) (hQ t rfl)

theorem Spells.put_bind {s : String} (hb : b.Spells Q)
    (himp : ∀ t, Q t → R (Template.ofText s ++ t)) : (put s >>= fun _ => b).Spells R := by
  have hs : (put s).Spells (· = Template.ofText s) := (follows_put s).spells rfl
  refine hs.bind hb ?_
  intro _ t hs ht
  rw [hs]
  exact himp t ht

end

end Writing

def Template.Binds (literals : List Value) (template : Template) : Prop :=
  template.values = literals ∧ template.Legible

namespace Template

theorem binds_nil : Binds [] [] :=
  ⟨rfl, trivial⟩

theorem clear_nil : Clear [] := by
  intro c hc
  cases hc

theorem Binds.append {s t : Template} {vs ws : List Value} (hs : s.Binds vs) (ht : t.Binds ws)
    (hclear : t.Clear) : (s ++ t).Binds (vs ++ ws) := by
  constructor
  · rw [values_append, hs.left, ht.left]
  · exact hs.right.append ht.right hclear

theorem Binds.ofText_append {s : String} (hs : DollarFree s) {t : Template} {vs : List Value}
    (ht : t.Binds vs) : (ofText s ++ t).Binds vs := by
  constructor
  · rw [values_append, values_ofText, List.nil_append, ht.left]
  · exact legible_ofText_append hs ht.right

theorem binds_ofText {s : String} (hs : DollarFree s) : (ofText s).Binds [] := by
  have h := binds_nil.ofText_append hs
  rw [List.append_nil] at h
  exact h

theorem binds_bound (v : Value) : Binds [v] [.bound v] :=
  ⟨rfl, clear_nil, trivial⟩

end Template

def templateLaw : FragmentLaw where
  Keeps := fun fragment literals => fragment.Spells (Template.Binds literals)
  KeepsAfterValue := fun fragment literals =>
    fragment.Spells fun template => template.Binds literals ∧ template.Clear
  weaken := fun h => h.mono fun _ htemplate => htemplate.left
  throw := fun failure _ => Writing.spells_throw failure
  pure := Writing.follows_pure.spells ⟨Template.binds_nil, Template.clear_nil⟩
  put := fun hs => (Writing.follows_put _).spells (Template.binds_ofText hs)
  putAfterValue := fun hs hclear =>
    (Writing.follows_put _).spells ⟨Template.binds_ofText hs, Template.clear_ofText hclear⟩
  bindValue := fun v => (Writing.follows_bindValue v).spells (Template.binds_bound v)
  bind := fun ha hb => ha.bind hb fun _ _ hs ht => hs.append ht.left ht.right
  putBind := fun hs hb => hb.put_bind fun _ ht => ht.ofText_append hs
  putBindAfterValue := fun hs hfirst hc hb => hb.put_bind fun _ ht =>
    ⟨ht.ofText_append hs, Template.clear_ofText_append hfirst hc _⟩

/-!
# Standard tables
-/

/-- Tables by name, function calls, and SELECTs from such tables, at any depth. The names are free
of dollar signs. -/
inductive Table.Standard : Table → Prop where
  | named {name : String} : DollarFree name → Standard (.named name)
  | described {description : TableDescription} :
      DollarFree description.name → Standard (.described description)
  | call {function : String} (vs : List Value) :
      DollarFree function → Standard (Table.call function vs)
  | subquery {select : Select} {name : String} :
      (∀ column ∈ select.columns, DollarFree column) →
      (∀ table, select.table = some table → Standard table) →
      (∀ condition ∈ select.filter, condition.DollarFree) →
      DollarFree name → Standard (Table.subquery select name)

theorem Table.Standard.kept (law : FragmentLaw) {table : Table} (h : table.Standard) :
    ∃ vs, law.KeptByTable table vs := by
  induction h with
  | named hname => exact ⟨[], hname, rfl⟩
  | described hname => exact ⟨[], hname, rfl⟩
  | call vs hfunction => exact ⟨vs, FragmentLaw.keptByTable_call hfunction vs⟩
  | @subquery select name hcolumns _ hfilter hname ih =>
      have htable : ∃ vs, law.KeptByTable? select.table vs := by
        cases hselect : select.table with
        | none => exact ⟨[], rfl⟩
        | some table => exact ih table hselect
      rcases htable with ⟨vs, hvs⟩
      exact ⟨_, FragmentLaw.keptByTable_aliased hname
        (FragmentLaw.keeps_select hcolumns hvs hfilter)⟩

/-!
# Embedding
-/

/-- Within any other statement the fragment writes what it compiles to on its own, renumbered, and
its placeholders stand for the same arguments there, whatever else is bound. -/
structure Writing.Embeds (fragment : Writing Unit) : Prop where
  success : ∀ {text vs}, fragment.compile = .ok ⟨text, vs⟩ → ∀ before,
    fragment.run before = .ok () (before.extend (renumber before.arguments.length text) vs)
  failure : ∀ {failure}, fragment.compile = .error failure → ∀ before,
    ∃ after, fragment.run before = .error failure after
  meaning : ∀ {text vs}, fragment.compile = .ok ⟨text, vs⟩ →
    ∃ query, meaning? vs text = some query ∧
      ∀ before after,
        meaning? (before ++ (vs ++ after)) (renumber before.length text) = some query

theorem Writing.compile_of_follows {fragment : Writing Unit} {outcome : Except Failure Template}
    (h : fragment.Follows outcome) :
    fragment.compile = outcome.map fun template => ⟨template.text 0, template.values⟩ := by
  unfold compile
  cases outcome with
  | error failure =>
      rcases h Statement.empty with ⟨after, hrun⟩
      rw [hrun]
      rfl
  | ok template =>
      rw [h Statement.empty]
      simp [Statement.empty, Statement.extend, Except.map]

theorem Writing.embeds_of_spells {fragment : Writing Unit} {vs : List Value}
    (h : fragment.Spells (Template.Binds vs)) : fragment.Embeds := by
  rcases h with ⟨outcome, hfollows, hbinds⟩
  have hcompile := compile_of_follows hfollows
  cases outcome with
  | error failure =>
      rw [Except.map] at hcompile
      constructor
      · intro text vs htext
        rw [hcompile] at htext
        cases htext
      · intro other hother before
        rw [hcompile] at hother
        cases hother
        exact hfollows before
      · intro text vs htext
        rw [hcompile] at htext
        cases htext
  | ok template =>
      have hlegible := (hbinds template rfl).right
      have hrenumber : ∀ n, renumber n (template.text 0) = template.text n := by
        intro n
        rw [Template.renumber_text hlegible, Nat.zero_add]
      constructor
      · intro text vs htext before
        rw [hcompile] at htext
        cases htext
        rw [hrenumber]
        exact hfollows before
      · intro failure hfailure
        rw [hcompile] at hfailure
        cases hfailure
      · intro text vs htext
        rw [hcompile] at htext
        cases htext
        refine ⟨template, ?_, ?_⟩
        · have hmeaning := Template.meaning?_text hlegible [] []
          rw [List.append_nil] at hmeaning
          exact hmeaning
        · intro before after
          rw [hrenumber]
          exact Template.meaning?_text hlegible before after

theorem Condition.write_embeds {c : Condition} (hfree : c.DollarFree) : c.write.Embeds :=
  Writing.embeds_of_spells (templateLaw.keeps_condition c hfree)

theorem Select.write_embeds {select : Select}
    (hcolumns : ∀ column ∈ select.columns, DollarFree column)
    (htable : ∀ table ∈ select.table, table.Standard)
    (hfilter : ∀ condition ∈ select.filter, condition.DollarFree) : select.write.Embeds := by
  have hkept : ∃ vs, templateLaw.KeptByTable? select.table vs := by
    cases hselect : select.table with
    | none => exact ⟨[], rfl⟩
    | some table => exact (htable table hselect).kept templateLaw
  rcases hkept with ⟨vs, hvs⟩
  exact Writing.embeds_of_spells (FragmentLaw.keeps_select hcolumns hvs hfilter)

theorem Insert.write_embeds {insert : Insert}
    (hcolumns : ∀ column ∈ insert.columns, DollarFree column)
    (htable : insert.table.Standard) : insert.write.Embeds := by
  rcases htable.kept templateLaw with ⟨vs, hvs⟩
  exact Writing.embeds_of_spells (FragmentLaw.keeps_insert hcolumns hvs)

theorem Table.run_subquery {select : Select} {text : String} {vs : List Value}
    (hembeds : select.write.Embeds) (hcompile : select.compile = .ok ⟨text, vs⟩) (name : String)
    (before : Statement) :
    (subquery select name).write.run before =
      .ok () (before.extend
        ("(" ++ renumber before.arguments.length text ++ ") AS " ++ name) vs) := by
  have hselect := hembeds.success hcompile (before.extend "(" [])
  rw [Statement.extend_arguments, List.append_nil, Statement.extend_extend,
    List.nil_append] at hselect
  show (Writing.put "(" >>= fun _ =>
    select.write >>= fun _ => Writing.put (") AS " ++ name)).run before = _
  rw [Writing.run_bind_of_ok (Writing.run_put "(" before), Writing.run_bind_of_ok hselect,
    Writing.run_put, Statement.extend_extend, List.append_nil]
  simp only [String.append_assoc]

/-- Conditions, SELECTs and INSERTs write the same text everywhere up to the numbers of their
placeholders, with the same arguments or the same failure, and a sub-query is the SELECT itself. -/
theorem embedded_fragments_are_renumbered :
    (∀ c : Condition, c.DollarFree → c.write.Embeds) ∧
    (∀ select : Select, (∀ column ∈ select.columns, DollarFree column) →
      (∀ table ∈ select.table, table.Standard) →
      (∀ condition ∈ select.filter, condition.DollarFree) →
      select.write.Embeds ∧
      ∀ text vs, select.compile = .ok ⟨text, vs⟩ → ∀ name before,
        (Table.subquery select name).write.run before =
          .ok () (before.extend
            ("(" ++ renumber before.arguments.length text ++ ") AS " ++ name) vs)) ∧
    (∀ insert : Insert, (∀ column ∈ insert.columns, DollarFree column) →
      insert.table.Standard → insert.write.Embeds) := by
  refine ⟨fun c hfree => Condition.write_embeds hfree, ?_, ?_⟩
  · intro select hcolumns htable hfilter
    have hembeds := Select.write_embeds hcolumns htable hfilter
    refine ⟨hembeds, ?_⟩
    intro text vs hcompile name before
    exact Table.run_subquery hembeds hcompile name before
  · intro insert hcolumns htable
    exact Insert.write_embeds hcolumns htable

/-- Behind nine values the first placeholder grows by a digit. -/
theorem subquery_behind_nine_values :
    let v (n : Int32) := Value.required (.int32 n)
    let select : Select := ⟨["a"], some (.named "t"), some (.isIn "b" [v 1, v 2])⟩
    let before : Statement := ⟨"x ", List.replicate 9 (v 0)⟩
    select.compile = .ok ⟨"SELECT a FROM t WHERE (b IN ($1,$2))", [v 1, v 2]⟩ ∧
      (Table.subquery select "s").write.run before =
        .ok () (before.extend "(SELECT a FROM t WHERE (b IN ($10,$11))) AS s" [v 1, v 2]) := by
  intro v select before
  have hcompile :
      select.compile = .ok ⟨"SELECT a FROM t WHERE (b IN ($1,$2))", [v 1, v 2]⟩ := by
    decide +kernel
  have hrenumbered :
      renumber 9 "SELECT a FROM t WHERE (b IN ($1,$2))" =
        "SELECT a FROM t WHERE (b IN ($10,$11))" := by
    decide +kernel
  have htable : ∀ table ∈ select.table, table.Standard := by
    intro table h
    cases h
    exact .named (by decide)
  have hfilter : ∀ condition ∈ select.filter, condition.DollarFree := by
    intro condition h
    cases h
    intro name hname
    simp only [Condition.isIn, Condition.names, List.mem_cons, List.not_mem_nil, or_false] at hname
    rcases hname with rfl | rfl <;> decide
  have hrun := (embedded_fragments_are_renumbered.2.1 select (by decide) htable hfilter).right
    _ _ hcompile "s" before
  refine ⟨hcompile, ?_⟩
  rw [hrun]
  have hlength : before.arguments.length = 9 := rfl
  rw [hlength, hrenumbered]
  decide +kernel

end Rowsmith
