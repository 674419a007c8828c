import Rowsmith.Proofs.Statement.Predicate

/-!
# Reading a condition back

The text of a condition and the arguments of its statement determine the condition, up to the joins
of one condition, which leave no trace in the text and change no meaning.
-/

namespace Rowsmith

namespace Condition

/-- Comparisons of columns, joined by the two connectives. -/
inductive Plain : Condition → Prop where
  | equal {column : String} (v : Value) : IsColumnName column → Plain (equal column v)
  | isIn {column : String} (vs : List Value) : IsColumnName column → Plain (isIn column vs)
  | join (connective : Connective) {conditions : List Condition} :
      (∀ c ∈ conditions, Plain c) → Plain (logical connective.word conditions)

theorem Plain.all {conditions : List Condition} (h : ∀ c ∈ conditions, Plain c) :
    Plain (all conditions) :=
  Plain.join .conjunction h

theorem Plain.any {conditions : List Condition} (h : ∀ c ∈ conditions, Plain c) :
    Plain (any conditions) :=
  Plain.join .disjunction h

mutual

/-- Every join of one condition replaced by that condition. -/
def collapsed : Condition → Condition
  | .compare operator column operand => .compare operator column operand
  | .logical _ [only] => only.collapsed
  | .logical operator conditions => .logical operator (collapsedAll conditions)

def collapsedAll : List Condition → List Condition
  | [] => []
  | c :: rest => c.collapsed :: collapsedAll rest

end

end Condition

/-!
# Meaning
-/

/-- What comparisons and joins stand for, in any domain of truth values. -/
structure Meaning (Truth : Type) where
  compare : String → String → Operand → Truth
  join : String → List Truth → Truth
  join_single : ∀ operator truth, join operator [truth] = truth

namespace Condition

variable {Truth : Type}

mutual

def holds (meaning : Meaning Truth) : Condition → Truth
  | .compare operator column operand => meaning.compare operator column operand
  | .logical operator conditions => meaning.join operator (holdsAll meaning conditions)

def holdsAll (meaning : Meaning Truth) : List Condition → List Truth
  | [] => []
  | c :: rest => c.holds meaning :: holdsAll meaning rest

end

theorem collapsedAll_eq (conditions : List Condition) :
    collapsedAll conditions = conditions.map collapsed := by
  induction conditions with
  | nil => rfl
  | cons c rest ih => rw [collapsedAll, ih, List.map_cons]

theorem holdsAll_eq (meaning : Meaning Truth) (conditions : List Condition) :
    holdsAll meaning conditions = conditions.map (holds meaning) := by
  induction conditions with
  | nil => rfl
  | cons c rest ih => rw [holdsAll, ih, List.map_cons]

theorem holds_collapsed (meaning : Meaning Truth) (c : Condition) :
    c.collapsed.holds meaning = c.holds meaning := by
  induction c using Condition.inductionOn with
  | compare operator column operand => rfl
  | empty operator => rfl
  | single operator c ih =>
      rw [collapsed, ih, holds, holdsAll_eq, List.map_singleton, meaning.join_single]
  | several operator first second rest ih =>
      have hall : (collapsedAll (first :: second :: rest)).map (holds meaning) =
          (first :: second :: rest).map (holds meaning) := by
        rw [collapsedAll_eq, List.map_map]
        exact List.map_congr_left ih
      rw [collapsed, holds, holds, holdsAll_eq, holdsAll_eq, hall]
      intro only h
      cases h

end Condition

/-!
# Numbers replaced by arguments
-/

/-- Arguments are counted from one. -/
def argument? (arguments : List Value) : Nat → Option Value
  | 0 => none
  | number + 1 => arguments[number]?

namespace Predicate

mutual

/-- The condition that a predicate is of the given arguments. -/
def resolve (arguments : List Value) : Predicate → Option Condition
  | .equal column number => do
      let v ← argument? arguments number
      return Condition.equal column v
  | .isIn column first others => do
      let vs ← (first :: others).mapM (argument? arguments)
      return Condition.isIn column vs
  | .join connective first others => do
      let c ← first.resolve arguments
      let rest ← resolveAll arguments others
      return .logical connective.word (c :: rest)

def resolveAll (arguments : List Value) : List Predicate → Option (List Condition)
  | [] => some []
  | p :: others => do
      let c ← p.resolve arguments
      let rest ← resolveAll arguments others
      return c :: rest

end

end Predicate

def numbers (n count : Nat) : List Nat :=
  List.range' (n + 1) count

theorem mapM_argument?_numbers (before vs after : List Value) :
    (numbers before.length vs.length).mapM (argument? (before ++ (vs ++ after))) = some vs := by
  induction vs generalizing before with
  | nil => rfl
  | cons v rest ih =>
      have hv : argument? (before ++ (v :: rest ++ after)) (before.length + 1) = some v := by
        simp [argument?]
      have hrest := ih (before ++ [v])
      rw [List.length_append, List.length_singleton, List.append_assoc, List.singleton_append]
        at hrest
      rw [numbers, List.length_cons, List.range'_succ, List.mapM_cons, hv, Option.bind_eq_bind,
        Option.bind_some, List.cons_append]
      rw [numbers] at hrest
      rw [hrest]
      rfl

/-!
# What a condition writes

The text is the spelling of a predicate that gives the collapsed condition back, whatever other
arguments stand around those of the condition.
-/

namespace Predicate

/-- Of any arguments that hold the given ones after n others, the predicate is this condition. -/
def ResolvesTo (p : Predicate) (n : Nat) (literals : List Value) (c : Condition) : Prop :=
  ∀ before after : List Value, before.length = n →
    p.resolve (before ++ (literals ++ after)) = some c

def AllResolveTo (ps : List Predicate) (n : Nat) (literals : List Value)
    (conditions : List Condition) : Prop :=
  ∀ before after : List Value, before.length = n →
    resolveAll (before ++ (literals ++ after)) ps = some conditions

theorem AllResolveTo.nil (n : Nat) : AllResolveTo [] n [] [] := by
  intro before after _
  rfl

theorem AllResolveTo.cons {p : Predicate} {ps : List Predicate} {n : Nat} {vs ws : List Value}
    {c : Condition} {conditions : List Condition} (hp : p.ResolvesTo n vs c)
    (hps : AllResolveTo ps (n + vs.length) ws conditions) :
    AllResolveTo (p :: ps) n (vs ++ ws) (c :: conditions) := by
  intro before after hlength
  have hfirst := hp before (ws ++ after) hlength
  have hothers := hps (before ++ vs) after (by rw [List.length_append, hlength])
  rw [List.append_assoc] at hothers
  rw [List.append_assoc, resolveAll, hfirst, hothers]
  rfl

theorem ResolvesTo.join {first : Predicate} {others : List Predicate} {n : Nat}
    {literals : List Value} {c : Condition} {conditions : List Condition}
    (connective : Connective) (h : AllResolveTo (first :: others) n literals (c :: conditions)) :
    (Predicate.join connective first others).ResolvesTo n literals
      (.logical connective.word (c :: conditions)) := by
  intro before after hlength
  have hall := h before after hlength
  rw [resolveAll] at hall
  rcases Option.bind_eq_some_iff.mp hall with ⟨d, hfirst, hall⟩
  rcases Option.bind_eq_some_iff.mp hall with ⟨more, hothers, hall⟩
  cases hall
  rw [resolve, hfirst, Option.bind_eq_bind, Option.bind_some, hothers]
  rfl

end Predicate

namespace Writing

open Predicate

theorem bindValues_spelled (v : Value) (vs : List Value) :
    (bindValues (v :: vs)).Appends (v :: vs) fun n text =>
      text.toList = spelledTokens (n + 1) (numbers (n + 1) vs.length) := by
  induction vs generalizing v with
  | nil =>
      apply Appends.bindValue
      intro n
      rw [toList_placeholder]
      simp [spelledTokens, spelledToken, numbers]
  | cons w rest ih =>
      have hcomma : (do put ","; bindValues (w :: rest)).Appends (w :: rest) fun n text =>
          text.toList = ',' :: spelledTokens (n + 1) (numbers (n + 1) rest.length) := by
        refine Appends.put_bind (ih w) ?_
        intro n t ht
        rw [String.toList_append, ht]
        rfl
      have hfirst : (bindValue v).Appends [v] fun n text => text.toList = spelledToken (n + 1) :=
        Appends.bindValue v fun n => toList_placeholder (n + 1)
      refine Appends.bind hfirst hcomma ?_
      intro n s t hs ht
      rw [String.toList_append, hs, ht]
      simp [spelledTokens, numbers, List.range'_succ]

end Writing

namespace Condition

open Predicate

/-- The text spells a predicate that is this condition of the arguments written with it. -/
def SpelledBy (c : Condition) (n : Nat) (text : String) : Prop :=
  ∃ p : Predicate, p.WellFormed ∧ text.toList = p.spelling ∧ p.ResolvesTo n c.literals c.collapsed

def RestSpelledBy (connective : Connective) (conditions : List Condition) (n : Nat)
    (text : String) : Prop :=
  ∃ ps : List Predicate, ps.length = conditions.length ∧ (∀ p ∈ ps, p.WellFormed) ∧
    text.toList = spellingOfRest connective ps ++ [')'] ∧
    AllResolveTo ps n (literalsOfAll conditions) (collapsedAll conditions)

theorem write_compare (operator column : String) {operand : Operand}
    {P : Nat → List Char → Prop}
    (h : operand.write.Appends operand.literals fun n text => P n text.toList) :
    (compare operator column operand).write.Appends operand.literals fun n text =>
      ∃ inner, P n inner ∧ text.toList =
        '(' :: (column.toList ++ (' ' :: operator.toList ++ (' ' :: (inner ++ [')'])))) := by
  have hclose : (Writing.put ")").Appends [] fun _ text => text.toList = [')'] :=
    Writing.Appends.put ")" fun _ => rfl
  have hcontent : (do operand.write; Writing.put ")").Appends (operand.literals ++ [])
      fun n text => ∃ inner, P n inner ∧ text.toList = inner ++ [')'] := by
    refine Writing.Appends.bind h hclose ?_
    intro n s t hs ht
    exact ⟨s.toList, hs, by rw [String.toList_append, ht]⟩
  rw [List.append_nil] at hcontent
  rw [write]
  refine Writing.Appends.put_bind hcontent ?_
  intro n t hexists
  rcases hexists with ⟨inner, hinner, ht⟩
  refine ⟨inner, hinner, ?_⟩
  rw [String.toList_append, ht]
  simp

theorem write_equal {column : String} (hcolumn : IsColumnName column) (v : Value) :
    (equal column v).write.Appends (equal column v).literals (equal column v).SpelledBy := by
  have hoperand : (Operand.value v).write.Appends (Operand.value v).literals fun n text =>
      text.toList = spelledToken (n + 1) :=
    Writing.Appends.bindValue v fun n => toList_placeholder (n + 1)
  refine Writing.Appends.mono (write_compare "=" column
    (P := fun n inner => inner = spelledToken (n + 1)) hoperand) ?_
  intro n text hexists
  rcases hexists with ⟨inner, rfl, htext⟩
  refine ⟨.equal column (n + 1), WellFormed.equal hcolumn, ?_, ?_⟩
  · rw [htext, spelling]
    simp [equalSpelling]
  · intro before after hsame
    subst hsame
    simp [resolve, argument?, literals, Operand.literals, collapsed, equal]

theorem write_group (vs : List Value) :
    (Operand.group vs).write.Appends (Operand.group vs).literals fun n text =>
      text.toList = '(' :: (spelledTokens (n + 1) (numbers (n + 1) (vs.length - 1)) ++ [')']) ∧
        vs ≠ [] := by
  cases vs with
  | nil => exact Writing.Appends.throw .emptyGroup
  | cons v rest =>
      have hclose : (Writing.put ")").Appends [] fun _ text => text.toList = [')'] :=
        Writing.Appends.put ")" fun _ => rfl
      have hcontent := Writing.Appends.bind (Writing.bindValues_spelled v rest) hclose
        (R := fun n text => text.toList =
          spelledTokens (n + 1) (numbers (n + 1) rest.length) ++ [')'])
        (fun n s t hs ht => by rw [String.toList_append, hs, ht])
      rw [List.append_nil] at hcontent
      refine Writing.Appends.put_bind hcontent ?_
      intro n t ht
      rw [String.toList_append, ht]
      exact ⟨rfl, List.cons_ne_nil v rest⟩

theorem write_isIn {column : String} (hcolumn : IsColumnName column) (vs : List Value) :
    (isIn column vs).write.Appends (isIn column vs).literals (isIn column vs).SpelledBy := by
  refine Writing.Appends.mono (write_compare "IN" column
    (P := fun n inner => inner =
      '(' :: (spelledTokens (n + 1) (numbers (n + 1) (vs.length - 1)) ++ [')']) ∧ vs ≠ [])
    (write_group vs)) ?_
  intro n text hexists
  rcases hexists with ⟨inner, ⟨rfl, hne⟩, htext⟩
  refine ⟨.isIn column (n + 1) (numbers (n + 1) (vs.length - 1)), WellFormed.isIn hcolumn, ?_, ?_⟩
  · rw [htext, spelling]
    simp [isInSpelling, closingSpelling]
  · intro before after hsame
    subst hsame
    have hnumbers : (before.length + 1) :: numbers (before.length + 1) (vs.length - 1) =
        numbers before.length vs.length := by
      cases vs with
      | nil => exact absurd rfl hne
      | cons v rest => simp [numbers, List.range'_succ]
    rw [resolve, hnumbers]
    show ((numbers before.length vs.length).mapM (argument? (before ++ (vs ++ after)))).bind _ = _
    rw [mapM_argument?_numbers]
    rfl

theorem writeJoined_restSpelledBy (connective : Connective) (conditions : List Condition)
    (ih : ∀ c ∈ conditions, c.write.Appends c.literals c.SpelledBy) :
    (do writeJoined connective.word conditions; Writing.put ")").Appends
      (literalsOfAll conditions) (RestSpelledBy connective conditions) := by
  induction conditions with
  | nil =>
      refine Writing.Appends.put ")" ?_
      intro n
      exact ⟨[], rfl, by simp, rfl, AllResolveTo.nil n⟩
  | cons c rest ihrest =>
      have hrest := ihrest fun d hd => ih d (by simp [hd])
      have hmembers := Writing.Appends.bind (ih c (by simp)) hrest
        (R := fun n text => RestSpelledBy connective (c :: rest) n
          (" " ++ connective.word ++ " " ++ text)) ?_
      · have h := Writing.Appends.put_bind (s := " " ++ connective.word ++ " ") hmembers
          (R := RestSpelledBy connective (c :: rest)) fun n t ht => ht
        simpa [writeJoined, literalsOfAll, bind_assoc] using h
      · intro n s t hexists hfound
        rcases hexists with ⟨p, hwell, hs, hp⟩
        rcases hfound with ⟨ps, hlength, hall, ht, hps⟩
        refine ⟨p :: ps, by simp [hlength], List.forall_mem_cons.mpr ⟨hwell, hall⟩, ?_,
          AllResolveTo.cons hp hps⟩
        rw [spellingOfRest]
        simp [hs, ht, Connective.spelling]

theorem write_single {connective : Connective} {c : Condition}
    (h : c.write.Appends c.literals c.SpelledBy) :
    (logical connective.word [c]).write.Appends (logical connective.word [c]).literals
      (logical connective.word [c]).SpelledBy := by
  have hliterals : (logical connective.word [c]).literals = c.literals := by
    rw [literals, literalsOfAll, literalsOfAll, List.append_nil]
  rw [write, hliterals]
  refine Writing.Appends.mono h ?_
  intro n text hexists
  rcases hexists with ⟨p, hwell, htext, hp⟩
  refine ⟨p, hwell, htext, ?_⟩
  rw [hliterals, collapsed]
  exact hp

theorem write_several {connective : Connective} {first second : Condition} {rest : List Condition}
    (h : ∀ c ∈ first :: second :: rest, c.write.Appends c.literals c.SpelledBy) :
    (logical connective.word (first :: second :: rest)).write.Appends
      (logical connective.word (first :: second :: rest)).literals
      (logical connective.word (first :: second :: rest)).SpelledBy := by
  have hjoined := writeJoined_restSpelledBy connective (second :: rest)
    fun c hc => h c (List.mem_cons_of_mem _ hc)
  have hall := Writing.Appends.bind (h first (by simp)) hjoined
    (R := fun n text =>
      (logical connective.word (first :: second :: rest)).SpelledBy n ("(" ++ text)) ?_
  · rw [write]
    exact Writing.Appends.put_bind hall fun n t ht => ht
  · intro n s t hexists hfound
    rcases hexists with ⟨p, hwell, hs, hp⟩
    rcases hfound with ⟨ps, hlength, hothers, ht, hps⟩
    have hne : ps ≠ [] := by
      intro hsame
      subst hsame
      cases hlength
    refine ⟨.join connective p ps, WellFormed.join hwell hne hothers, ?_,
      ResolvesTo.join connective (AllResolveTo.cons hp hps)⟩
    rw [spelling]
    simp [hs, ht]

theorem write_spelledBy (c : Condition) (hplain : c.Plain) :
    c.write.Appends c.literals c.SpelledBy := by
  induction c using Condition.inductionOn with
  | compare operator column operand =>
      cases hplain with
      | equal v hcolumn => exact write_equal hcolumn v
      | isIn vs hcolumn => exact write_isIn hcolumn vs
  | empty operator =>
      rw [write]
      exact Writing.Appends.throw .emptyConditions
  | single operator c ih =>
      cases hplain with
      | join connective hmembers => exact write_single (ih (hmembers c (by simp)))
  | several operator first second rest ih =>
      cases hplain with
      | join connective hmembers => exact write_several fun c hc => ih c hc (hmembers c hc)

end Condition

/-- The text of a condition is the spelling of exactly one predicate, which is the collapsed
condition of the arguments; so conditions with one text and the same arguments mean the same. -/
theorem written_condition_reads_back {c : Condition} {before after : Statement}
    (hplain : c.Plain) (hrun : c.write.run before = .ok () after) :
    ∃ text p, after.text = before.text ++ text ∧
      Predicate.ofText? text = some p ∧
      (∀ q : Predicate, q.WellFormed → text.toList = q.spelling → q = p) ∧
      p.resolve after.arguments = some c.collapsed ∧
      (∀ (Truth : Type) (meaning : Meaning Truth),
        c.collapsed.holds meaning = c.holds meaning) ∧
      ∀ (d : Condition) (before' after' : Statement), d.Plain →
        d.write.run before' = .ok () after' → after'.text = before'.text ++ text →
        after'.arguments = after.arguments →
        d.collapsed = c.collapsed ∧
          ∀ (Truth : Type) (meaning : Meaning Truth), d.holds meaning = c.holds meaning := by
  rcases (c.write_spelledBy hplain).success hrun with ⟨text, rfl, p, hwell, htext, hp⟩
  have hread : Predicate.ofText? text = some p :=
    (Predicate.ofText?_eq_some_iff text p).mpr ⟨hwell, htext⟩
  have hunique : ∀ q : Predicate, q.WellFormed → text.toList = q.spelling → q = p := by
    intro q hq hspelling
    rw [(Predicate.ofText?_eq_some_iff text q).mpr ⟨hq, hspelling⟩] at hread
    exact Option.some.inj hread
  have hresolve : p.resolve (before.arguments ++ c.literals) = some c.collapsed := by
    have h := hp before.arguments [] rfl
    rw [List.append_nil] at h
    exact h
  refine ⟨text, p, rfl, hread, hunique, hresolve, fun _ meaning => c.holds_collapsed meaning, ?_⟩
  intro d before' after' hd hrun' htext' harguments
  rcases (d.write_spelledBy hd).success hrun' with ⟨text', rfl, q, hq, hspelling, hresolves⟩
  have hsame : text' = text := (String.append_right_inj _).mp htext'
  subst hsame
  have hqp := hunique q hq hspelling
  subst hqp
  have hcollapsed : d.collapsed = c.collapsed := by
    have h := hresolves before'.arguments [] rfl
    rw [List.append_nil] at h
    rw [Statement.extend_arguments, Statement.extend_arguments] at harguments
    rw [harguments, hresolve] at h
    exact (Option.some.inj h).symm
  refine ⟨hcollapsed, ?_⟩
  intro Truth meaning
  rw [← d.holds_collapsed meaning, hcollapsed, c.holds_collapsed meaning]

/-- The joins of one condition leave no parentheses, and the others keep theirs. -/
theorem nested_condition_reads_back :
    let v (n : Int32) := Value.required (.int32 n)
    let c := Condition.all [Condition.any [Condition.equal "a" (v 1)],
      Condition.any [Condition.equal "b" (v 2), Condition.all [Condition.isIn "c" [v 3, v 4]]]]
    let text := "((a = $2) AND ((b = $3) OR (c IN ($4,$5))))"
    let arguments := [v 0, v 1, v 2, v 3, v 4]
    c.Plain ∧ c.write.run ⟨"x ", [v 0]⟩ = .ok () ⟨"x " ++ text, arguments⟩ ∧
      ∃ p, Predicate.ofText? text = some p ∧
        p.resolve arguments = some (Condition.all [Condition.equal "a" (v 1),
          Condition.any [Condition.equal "b" (v 2), Condition.isIn "c" [v 3, v 4]]]) := by
  intro v c text arguments
  have hplain : c.Plain := by
    refine Condition.Plain.all (List.forall_mem_cons.mpr ⟨?_, List.forall_mem_singleton.mpr ?_⟩)
    · exact Condition.Plain.any (List.forall_mem_singleton.mpr (.equal (v 1) (by decide)))
    · refine Condition.Plain.any (List.forall_mem_cons.mpr ⟨.equal (v 2) (by decide),
        List.forall_mem_singleton.mpr ?_⟩)
      exact Condition.Plain.all (List.forall_mem_singleton.mpr (.isIn [v 3, v 4] (by decide)))
  have hrun : c.write.run ⟨"x ", [v 0]⟩ = .ok () ⟨"x " ++ text, arguments⟩ := by
    decide +kernel
  refine ⟨hplain, hrun, ?_⟩
  rcases written_condition_reads_back hplain hrun with ⟨written, p, happend, hread, _, hresolve, _⟩
  have hwritten : text = written := (String.append_right_inj "x ").mp happend
  rw [← hwritten] at hread
  exact ⟨p, hread, hresolve⟩

end Rowsmith
