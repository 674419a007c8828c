import Rowsmith.Proofs.Statement.Placeholder

/-!
# The grammar of written predicates

A written predicate compares a column with numbered arguments, or joins at least two others by one
connective, and always stands in parentheses of its own. The reader below takes exactly the
spellings of such predicates, so a text spells at most one of them.
-/

namespace Rowsmith

open Text

inductive Connective where
  | conjunction
  | disjunction
  deriving DecidableEq, Repr

def Connective.word : Connective → String
  | .conjunction => "AND"
  | .disjunction => "OR"

def Connective.spelling (connective : Connective) : List Char :=
  ' ' :: connective.word.toList ++ [' ']

inductive Predicate where
  | equal (column : String) (number : Nat)
  | isIn (column : String) (first : Nat) (others : List Nat)
  | join (connective : Connective) (first : Predicate) (others : List Predicate)
  deriving Repr

/-- What can stand as a column: it ends at the first blank and does not look like a predicate. -/
def IsColumnName (column : String) : Prop :=
  column ≠ "" ∧ ' ' ∉ column.toList ∧ column.toList.head? ≠ some '('

instance (column : String) : Decidable (IsColumnName column) :=
  inferInstanceAs (Decidable (_ ∧ _ ∧ _))

theorem IsColumnName.head?_append {column : String} (h : IsColumnName column)
    (rest : List Char) : (column.toList ++ rest).head? ≠ some '(' := by
  rcases h with ⟨hne, _, hhead⟩
  cases hlist : column.toList with
  | nil => exact absurd (String.toList_eq_nil_iff.mp hlist) hne
  | cons c more =>
      rw [hlist] at hhead
      exact hhead

/-!
# Spelling
-/

def equalSpelling : List Char := [' ', '=', ' ']

def isInSpelling : List Char := [' ', 'I', 'N', ' ', '(']

def closingSpelling : List Char := [')', ')']

def spelledToken (number : Nat) : List Char :=
  '$' :: Nat.toDigits 10 number

def spelledTokens (first : Nat) (others : List Nat) : List Char :=
  spelledToken first ++ others.flatMap fun number => ',' :: spelledToken number

namespace Predicate

mutual

def spelling : Predicate → List Char
  | .equal column number =>
      '(' :: (column.toList ++ (equalSpelling ++ (spelledToken number ++ [')'])))
  | .isIn column first others =>
      '(' :: (column.toList ++ (isInSpelling ++ (spelledTokens first others ++ closingSpelling)))
  | .join connective first others =>
      '(' :: (first.spelling ++ (spellingOfRest connective others ++ [')']))

def spellingOfRest (connective : Connective) : List Predicate → List Char
  | [] => []
  | p :: rest => connective.spelling ++ (p.spelling ++ spellingOfRest connective rest)

end

inductive WellFormed : Predicate → Prop where
  | equal {column : String} {number : Nat} : IsColumnName column →
      WellFormed (.equal column number)
  | isIn {column : String} {first : Nat} {others : List Nat} : IsColumnName column →
      WellFormed (.isIn column first others)
  | join {connective : Connective} {first : Predicate} {others : List Predicate} :
      WellFormed first → others ≠ [] → (∀ p ∈ others, WellFormed p) →
      WellFormed (.join connective first others)

@[elab_as_elim]
theorem inductionOn {motive : Predicate → Prop} (p : Predicate)
    (equal : ∀ column number, motive (.equal column number))
    (isIn : ∀ column first others, motive (.isIn column first others))
    (join : ∀ connective first others, motive first → (∀ p ∈ others, motive p) →
      motive (.join connective first others)) :
    motive p := by
  refine Predicate.rec (motive_1 := motive) (motive_2 := fun ps => ∀ p ∈ ps, motive p)
    equal isIn join ?_ ?_ p
  · intro p hp
    cases hp
  · intro first rest hfirst hrest p hp
    rcases List.mem_cons.mp hp with rfl | hmem
    · exact hfirst
    · exact hrest p hmem

/-!
# Reading
-/

def expect (expected cs : List Char) : Option (List Char) :=
  if expected.isPrefixOf cs then some (cs.drop expected.length) else none

def readToken : List Char → Option (Nat × List Char)
  | '$' :: rest =>
      let digits := rest.takeWhile isDigit
      let number := Nat.ofDigitChars 10 digits 0
      if Nat.toDigits 10 number = digits then some (number, rest.dropWhile isDigit) else none
  | _ => none

/-- The numbers after the first one; the first argument bounds their count. -/
def readMoreTokens : Nat → List Char → Option (List Nat × List Char)
  | 0, _ => none
  | bound + 1, ',' :: rest => do
      let (number, rest) ← readToken rest
      let (others, rest) ← readMoreTokens bound rest
      return (number :: others, rest)
  | _ + 1, cs => some ([], cs)

def readComparison (cs : List Char) : Option (Predicate × List Char) :=
  let column := String.ofList (cs.takeWhile (· ≠ ' '))
  let rest := cs.dropWhile (· ≠ ' ')
  if column = "" then none
  else
    match expect equalSpelling rest with
    | some rest => do
        let (number, rest) ← readToken rest
        let rest ← expect [')'] rest
        return (.equal column number, rest)
    | none => do
        let rest ← expect isInSpelling rest
        let (first, rest) ← readToken rest
        let (others, rest) ← readMoreTokens rest.length rest
        let rest ← expect closingSpelling rest
        return (.isIn column first others, rest)

def connectiveAhead (cs : List Char) : Option Connective :=
  if Connective.conjunction.spelling.isPrefixOf cs then some .conjunction
  else if Connective.disjunction.spelling.isPrefixOf cs then some .disjunction
  else none

mutual

/-- A predicate at the front and what follows it; the first argument bounds the steps down. -/
def read : Nat → List Char → Option (Predicate × List Char)
  | bound + 1, '(' :: '(' :: cs => do
      let (first, rest) ← read bound ('(' :: cs)
      let connective ← connectiveAhead rest
      let (others, rest) ← readRest connective bound rest
      return (.join connective first others, rest)
  | _ + 1, '(' :: cs => readComparison cs
  | _, _ => none

/-- The predicates up to the parenthesis that closes the join. -/
def readRest (connective : Connective) : Nat → List Char → Option (List Predicate × List Char)
  | 0, _ => none
  | _ + 1, ')' :: rest => some ([], rest)
  | bound + 1, cs => do
      let rest ← expect connective.spelling cs
      let (p, rest) ← read bound rest
      let (others, rest) ← readRest connective bound rest
      return (p :: others, rest)

end

def ofText? (text : String) : Option Predicate :=
  match read text.toList.length text.toList with
  | some (p, []) => some p
  | _ => none

/-!
# Reading a spelling
-/

theorem expect_append (expected rest : List Char) :
    expect expected (expected ++ rest) = some rest := by
  unfold expect
  rw [if_pos (List.isPrefixOf_iff_prefix.mpr (List.prefix_append _ _)), List.drop_left]

theorem eq_of_expect {expected cs rest : List Char} (h : expect expected cs = some rest) :
    cs = expected ++ rest := by
  unfold expect at h
  split at h
  · next hprefix =>
      rcases List.isPrefixOf_iff_prefix.mp hprefix with ⟨tail, rfl⟩
      rw [List.drop_left] at h
      rw [Option.some.inj h]
  · cases h

theorem span_append {kind : Char → Bool} {run rest : List Char}
    (hrun : ∀ c ∈ run, kind c = true) (hrest : ∀ c ∈ rest.head?, kind c = false) :
    (run ++ rest).takeWhile kind = run ∧ (run ++ rest).dropWhile kind = rest := by
  rw [List.takeWhile_append_of_pos hrun, List.dropWhile_append_of_pos hrun]
  cases rest with
  | nil => simp
  | cons c more =>
      have hc : kind c = false := hrest c rfl
      simp [hc]

theorem readToken_spelledToken {number : Nat} {rest : List Char}
    (hrest : ∀ c ∈ rest.head?, isDigit c = false) :
    readToken (spelledToken number ++ rest) = some (number, rest) := by
  have hdigits : ∀ c ∈ Nat.toDigits 10 number, isDigit c = true :=
    fun c hc => isDigit_of_mem_toDigits hc
  rcases span_append hdigits hrest with ⟨htake, hdrop⟩
  rw [spelledToken, List.cons_append]
  unfold readToken
  simp only [htake, hdrop, Nat.ofDigitChars_ten_toDigits, if_true]

theorem eq_of_readToken {cs rest : List Char} {number : Nat}
    (h : readToken cs = some (number, rest)) : cs = spelledToken number ++ rest := by
  unfold readToken at h
  split at h
  · next tail =>
      simp only [Option.ite_none_right_eq_some, Option.some.injEq, Prod.mk.injEq] at h
      rcases h with ⟨hdigits, rfl, rfl⟩
      rw [spelledToken, hdigits, List.cons_append, List.takeWhile_append_dropWhile]
  · cases h

theorem length_le_length_spelled (others : List Nat) :
    others.length ≤ (others.flatMap fun number => ',' :: spelledToken number).length := by
  induction others with
  | nil => simp
  | cons number others ih =>
      rw [List.flatMap_cons, List.length_append, List.length_cons, List.length_cons]
      omega

theorem readMoreTokens_spelled {others : List Nat} {rest : List Char} {bound : Nat}
    (hbound : others.length < bound) (hcomma : rest.head? ≠ some ',')
    (hrest : ∀ c ∈ rest.head?, isDigit c = false) :
    readMoreTokens bound ((others.flatMap fun number => ',' :: spelledToken number) ++ rest) =
      some (others, rest) := by
  induction others generalizing bound with
  | nil =>
      cases bound with
      | zero => simp at hbound
      | succ bound =>
          cases rest with
          | nil => rfl
          | cons c more =>
              have hc : c ≠ ',' := fun h => hcomma (by rw [h]; rfl)
              simp [readMoreTokens, hc]
  | cons number others ih =>
      cases bound with
      | zero => simp at hbound
      | succ bound =>
          have hmore := @ih bound (by simpa using hbound)
          have hnext : ∀ c ∈ ((others.flatMap fun number => ',' :: spelledToken number) ++
              rest).head?, isDigit c = false := by
            cases others with
            | nil => simpa using hrest
            | cons other more =>
                intro c hc
                simp only [List.flatMap_cons, List.cons_append, List.head?_cons,
                  Option.mem_some_iff] at hc
                rw [← hc]
                decide
          rw [List.flatMap_cons, List.cons_append, List.cons_append, List.append_assoc,
            readMoreTokens, readToken_spelledToken hnext]
          simp only [Option.bind_eq_bind, Option.bind_some, hmore]
          rfl

theorem eq_of_readMoreTokens {bound : Nat} {cs rest : List Char} {others : List Nat}
    (h : readMoreTokens bound cs = some (others, rest)) :
    cs = (others.flatMap fun number => ',' :: spelledToken number) ++ rest := by
  induction bound generalizing cs others with
  | zero => cases h
  | succ bound ih =>
      unfold readMoreTokens at h
      split at h
      · next heq =>
          cases heq
      · next heq =>
          cases heq
          rcases Option.bind_eq_some_iff.mp h with ⟨⟨number, afterNumber⟩, hnumber, h⟩
          rcases Option.bind_eq_some_iff.mp h with ⟨⟨more, afterMore⟩, hmore, h⟩
          cases h
          rw [eq_of_readToken hnumber, ih hmore, List.flatMap_cons, List.cons_append,
            List.cons_append, List.append_assoc]
      · cases h
        rfl

theorem connectiveAhead_spelling (connective : Connective) (rest : List Char) :
    connectiveAhead (connective.spelling ++ rest) = some connective := by
  cases connective with
  | conjunction => rfl
  | disjunction => rfl

theorem eq_of_connectiveAhead {cs : List Char} {connective : Connective}
    (h : connectiveAhead cs = some connective) : ∃ rest, cs = connective.spelling ++ rest := by
  unfold connectiveAhead at h
  split at h
  · next hprefix =>
      cases h
      rcases List.isPrefixOf_iff_prefix.mp hprefix with ⟨rest, rfl⟩
      exact ⟨rest, rfl⟩
  · split at h
    · next hprefix =>
        cases h
        rcases List.isPrefixOf_iff_prefix.mp hprefix with ⟨rest, rfl⟩
        exact ⟨rest, rfl⟩
    · cases h

/-!
# Reading comparisons
-/

theorem span_column {column : String} (hcolumn : IsColumnName column) (rest : List Char) :
    (column.toList ++ ' ' :: rest).takeWhile (· ≠ ' ') = column.toList ∧
      (column.toList ++ ' ' :: rest).dropWhile (· ≠ ' ') = ' ' :: rest := by
  apply span_append
  · intro c hc
    rw [decide_eq_true_eq]
    intro hsame
    subst hsame
    exact hcolumn.right.left hc
  · intro c hc
    cases hc
    rfl

theorem readComparison_equal {column : String} (hcolumn : IsColumnName column) (number : Nat)
    (rest : List Char) :
    readComparison (column.toList ++ (equalSpelling ++ (spelledToken number ++ ')' :: rest))) =
      some (.equal column number, rest) := by
  rcases span_column hcolumn ('=' :: ' ' :: (spelledToken number ++ ')' :: rest)) with
    ⟨htake, hdrop⟩
  have htoken : readToken (spelledToken number ++ ')' :: rest) = some (number, ')' :: rest) :=
    readToken_spelledToken (by intro c hc; cases hc; rfl)
  have hclose : expect [')'] (')' :: rest) = some rest := expect_append [')'] rest
  have hequal := expect_append equalSpelling (spelledToken number ++ ')' :: rest)
  unfold readComparison
  rw [show equalSpelling ++ (spelledToken number ++ ')' :: rest) =
    ' ' :: '=' :: ' ' :: (spelledToken number ++ ')' :: rest) from rfl] at hequal ⊢
  simp only [htake, hdrop, String.ofList_toList, if_neg hcolumn.left, hequal, htoken,
    Option.bind_eq_bind, Option.bind_some, hclose]
  rfl

theorem readToken_spelledTokens (first : Nat) (others : List Nat) (rest : List Char) :
    readToken (spelledTokens first others ++ (closingSpelling ++ rest)) =
      some (first, (others.flatMap fun number => ',' :: spelledToken number) ++
        (closingSpelling ++ rest)) := by
  rw [spelledTokens, List.append_assoc]
  apply readToken_spelledToken
  intro c hc
  cases others with
  | nil =>
      cases hc
      rfl
  | cons other more =>
      cases hc
      rfl

theorem readMoreTokens_closing (others : List Nat) (rest : List Char) :
    readMoreTokens ((others.flatMap fun number => ',' :: spelledToken number) ++
      (closingSpelling ++ rest)).length
      ((others.flatMap fun number => ',' :: spelledToken number) ++ (closingSpelling ++ rest)) =
        some (others, closingSpelling ++ rest) := by
  apply readMoreTokens_spelled
  · have hlength := length_le_length_spelled others
    simp only [List.length_append, closingSpelling, List.length_cons, List.length_nil]
    omega
  · intro h
    cases h
  · intro c hc
    cases hc
    rfl

theorem readComparison_isIn {column : String} (hcolumn : IsColumnName column) (first : Nat)
    (others : List Nat) (rest : List Char) :
    readComparison (column.toList ++
        (isInSpelling ++ (spelledTokens first others ++ (closingSpelling ++ rest)))) =
      some (.isIn column first others, rest) := by
  rcases span_column hcolumn ('I' :: 'N' :: ' ' :: '(' ::
    (spelledTokens first others ++ (closingSpelling ++ rest))) with ⟨htake, hdrop⟩
  have hclose := expect_append closingSpelling rest
  have hisIn := expect_append isInSpelling
    (spelledTokens first others ++ (closingSpelling ++ rest))
  have hequal : expect equalSpelling (' ' :: 'I' :: 'N' :: ' ' :: '(' ::
      (spelledTokens first others ++ (closingSpelling ++ rest))) = none := rfl
  unfold readComparison
  rw [show isInSpelling ++ (spelledTokens first others ++ (closingSpelling ++ rest)) =
    ' ' :: 'I' :: 'N' :: ' ' :: '(' ::
      (spelledTokens first others ++ (closingSpelling ++ rest)) from rfl] at hisIn ⊢
  simp only [htake, hdrop, String.ofList_toList, if_neg hcolumn.left, hequal, hisIn,
    readToken_spelledTokens, Option.bind_eq_bind, Option.bind_some, readMoreTokens_closing, hclose]
  rfl

theorem isColumnName_takeWhile {cs : List Char}
    (hne : String.ofList (cs.takeWhile (· ≠ ' ')) ≠ "") (hfirst : cs.head? ≠ some '(') :
    IsColumnName (String.ofList (cs.takeWhile (· ≠ ' '))) := by
  refine ⟨hne, ?_, ?_⟩
  · rw [String.toList_ofList]
    intro hblank
    have hkept := List.all_eq_true.mp List.all_takeWhile ' ' hblank
    simp at hkept
  · rw [String.toList_ofList]
    intro hhead
    apply hfirst
    cases cs with
    | nil => simp at hhead
    | cons c more =>
        rw [List.takeWhile_cons] at hhead
        split at hhead
        · exact hhead
        · cases hhead

theorem of_readComparison {cs rest : List Char} {p : Predicate} (hfirst : cs.head? ≠ some '(')
    (h : readComparison cs = some (p, rest)) :
    p.WellFormed ∧ '(' :: cs = p.spelling ++ rest := by
  have hcs : cs.takeWhile (· ≠ ' ') ++ cs.dropWhile (· ≠ ' ') = cs :=
    List.takeWhile_append_dropWhile
  unfold readComparison at h
  simp only at h
  split at h
  · cases h
  · next hne =>
      have hcolumn := isColumnName_takeWhile hne hfirst
      generalize cs.takeWhile (· ≠ ' ') = column at *
      generalize cs.dropWhile (· ≠ ' ') = afterColumn at *
      subst hcs
      split at h
      · next afterSign hsign =>
          rcases Option.bind_eq_some_iff.mp h with ⟨⟨number, afterNumber⟩, hnumber, h⟩
          rcases Option.bind_eq_some_iff.mp h with ⟨afterClose, hclose, h⟩
          cases h
          refine ⟨WellFormed.equal hcolumn, ?_⟩
          have hclosed : afterNumber = [')'] ++ rest := eq_of_expect hclose
          rw [eq_of_expect hsign, eq_of_readToken hnumber, hclosed, spelling,
            String.toList_ofList]
          simp only [List.cons_append, List.append_assoc, List.nil_append]
      · rcases Option.bind_eq_some_iff.mp h with ⟨afterOpening, hopening, h⟩
        rcases Option.bind_eq_some_iff.mp h with ⟨⟨first, afterFirst⟩, hnumber, h⟩
        rcases Option.bind_eq_some_iff.mp h with ⟨⟨others, afterOthers⟩, hothers, h⟩
        rcases Option.bind_eq_some_iff.mp h with ⟨afterClose, hclose, h⟩
        cases h
        refine ⟨WellFormed.isIn hcolumn, ?_⟩
        have hmore : afterFirst = _ ++ afterOthers := eq_of_readMoreTokens hothers
        have hclosed : afterOthers = closingSpelling ++ rest := eq_of_expect hclose
        rw [eq_of_expect hopening, eq_of_readToken hnumber, hmore, hclosed, spelling,
          String.toList_ofList, spelledTokens]
        simp only [List.cons_append, List.append_assoc]

/-!
# Reading predicates

The reader gives back every predicate from its spelling, whatever follows, and what it reads is the
spelling of a predicate. Both are inductions on the bound, which no part of a spelling exceeds.
-/

theorem spelling_first (p : Predicate) : ∃ rest, p.spelling = '(' :: rest := by
  cases p with
  | equal column number => exact ⟨_, rfl⟩
  | isIn column first others => exact ⟨_, rfl⟩
  | join connective first others => exact ⟨_, rfl⟩

theorem readRest_spelling {connective : Connective} {others : List Predicate}
    (ih : ∀ p ∈ others, ∀ bound rest, p.spelling.length ≤ bound →
      read bound (p.spelling ++ rest) = some (p, rest))
    {bound : Nat} (hbound : (spellingOfRest connective others).length < bound)
    (rest : List Char) :
    readRest connective bound (spellingOfRest connective others ++ ')' :: rest) =
      some (others, rest) := by
  induction others generalizing bound with
  | nil =>
      cases bound with
      | zero => simp at hbound
      | succ bound => rfl
  | cons p others ihothers =>
      cases bound with
      | zero => simp at hbound
      | succ bound =>
          rw [spellingOfRest, List.length_append, List.length_append] at hbound
          have hblank : 0 < connective.spelling.length := Nat.succ_pos _
          have hp := ih p (by simp) bound (spellingOfRest connective others ++ ')' :: rest)
            (by omega)
          have hothers := @ihothers (fun q hq => ih q (by simp [hq])) bound (by omega)
          have hconnective := expect_append connective.spelling
            (p.spelling ++ (spellingOfRest connective others ++ ')' :: rest))
          rw [spellingOfRest, List.append_assoc, List.append_assoc]
          show readRest connective (bound + 1) (' ' :: _) = _
          rw [readRest]
          · show (expect connective.spelling (connective.spelling ++ _)).bind _ = _
            simp only [hconnective, Option.bind_some, Option.bind_eq_bind, hp, hothers]
            rfl
          · intro tail h
            cases h

theorem read_comparison {bound : Nat} {cs : List Char} (h : cs.head? ≠ some '(') :
    read (bound + 1) ('(' :: cs) = readComparison cs := by
  rw [read]
  intro rest hcs
  rw [hcs] at h
  exact h rfl

theorem read_join {first : Predicate} {connective : Connective} {others : List Predicate}
    {bound : Nat} (rest : List Char) (hne : others ≠ [])
    (hfirst : read bound (first.spelling ++ (spellingOfRest connective others ++ ')' :: rest)) =
      some (first, spellingOfRest connective others ++ ')' :: rest))
    (hothers : readRest connective bound (spellingOfRest connective others ++ ')' :: rest) =
      some (others, rest)) :
    read (bound + 1) ((join connective first others).spelling ++ rest) =
      some (join connective first others, rest) := by
  have hahead : connectiveAhead (spellingOfRest connective others ++ ')' :: rest) =
      some connective := by
    cases others with
    | nil => exact absurd rfl hne
    | cons p more =>
        rw [spellingOfRest, List.append_assoc]
        exact connectiveAhead_spelling connective _
  rcases spelling_first first with ⟨tail, htail⟩
  rw [spelling, List.cons_append, List.append_assoc, List.append_assoc]
  show read (bound + 1) ('(' :: (first.spelling ++
    (spellingOfRest connective others ++ ')' :: rest))) = _
  rw [htail, List.cons_append] at hfirst ⊢
  rw [read]
  simp only [hfirst, Option.bind_some, Option.bind_eq_bind, hahead, hothers]
  rfl

theorem read_spelling {p : Predicate} (hp : p.WellFormed) (bound : Nat) (rest : List Char)
    (hbound : p.spelling.length ≤ bound) :
    read bound (p.spelling ++ rest) = some (p, rest) := by
  induction p using Predicate.inductionOn generalizing bound rest with
  | equal column number =>
      cases hp with
      | equal hcolumn =>
          cases bound with
          | zero => simp [spelling] at hbound
          | succ bound =>
              rw [spelling, List.cons_append, List.append_assoc,
                read_comparison (IsColumnName.head?_append hcolumn _), List.append_assoc,
                List.append_assoc]
              exact readComparison_equal hcolumn number rest
  | isIn column first others =>
      cases hp with
      | isIn hcolumn =>
          cases bound with
          | zero => simp [spelling] at hbound
          | succ bound =>
              rw [spelling, List.cons_append, List.append_assoc,
                read_comparison (IsColumnName.head?_append hcolumn _), List.append_assoc,
                List.append_assoc]
              exact readComparison_isIn hcolumn first others rest
  | join connective first others ihfirst ihothers =>
      cases hp with
      | join hfirst hne hothers =>
          cases bound with
          | zero => simp [spelling] at hbound
          | succ bound =>
              rw [spelling, List.length_cons, List.length_append, List.length_append,
                List.length_singleton] at hbound
              -- The opening parenthesis takes one of the bound, so both parts fit into the rest.
              have hlength : (spellingOfRest connective others).length < bound := by omega
              apply read_join rest hne
              · exact ihfirst hfirst bound _ (by omega)
              · exact readRest_spelling (fun p hp => ihothers p hp (hothers p hp)) hlength rest

/-- Whatever is read within the bound is a spelling. -/
structure ReadsSpellings (bound : Nat) : Prop where
  predicate : ∀ {cs rest : List Char} {p : Predicate}, read bound cs = some (p, rest) →
    p.WellFormed ∧ cs = p.spelling ++ rest
  others : ∀ {connective : Connective} {cs rest : List Char} {others : List Predicate},
    readRest connective bound cs = some (others, rest) →
    (∀ p ∈ others, p.WellFormed) ∧ cs = spellingOfRest connective others ++ ')' :: rest

theorem ReadsSpellings.of_read {bound : Nat} (ih : ReadsSpellings bound) {cs rest : List Char}
    {p : Predicate} (h : read (bound + 1) cs = some (p, rest)) :
    p.WellFormed ∧ cs = p.spelling ++ rest := by
  unfold read at h
  split at h
  · next heq =>
      cases heq
      rcases Option.bind_eq_some_iff.mp h with ⟨⟨first, afterFirst⟩, hfirst, h⟩
      rcases Option.bind_eq_some_iff.mp h with ⟨connective, hconnective, h⟩
      rcases Option.bind_eq_some_iff.mp h with ⟨⟨others, afterOthers⟩, hothers, h⟩
      cases h
      rcases ih.predicate hfirst with ⟨hwell, htext⟩
      rcases ih.others hothers with ⟨hall, hrest⟩
      have hne : others ≠ [] := by
        intro hsame
        subst hsame
        rcases eq_of_connectiveAhead hconnective with ⟨tail, htail⟩
        rw [hrest] at htail
        cases htail
      refine ⟨WellFormed.join hwell hne hall, ?_⟩
      rw [htext, hrest, spelling]
      simp only [List.cons_append, List.append_assoc, List.nil_append]
  · next hfirst heq =>
      cases heq
      apply of_readComparison _ h
      intro hhead
      rcases List.head?_eq_some_iff.mp hhead with ⟨more, hmore⟩
      exact hfirst more hmore
  · cases h

theorem ReadsSpellings.of_readRest {bound : Nat} (ih : ReadsSpellings bound)
    {connective : Connective} {cs rest : List Char} {others : List Predicate}
    (h : readRest connective (bound + 1) cs = some (others, rest)) :
    (∀ p ∈ others, p.WellFormed) ∧ cs = spellingOfRest connective others ++ ')' :: rest := by
  unfold readRest at h
  split at h
  · next heq => cases heq
  · next heq =>
      cases heq
      cases h
      exact ⟨by simp, rfl⟩
  · next hbound _ =>
      cases hbound
      rcases Option.bind_eq_some_iff.mp h with ⟨afterConnective, hconnective, h⟩
      rcases Option.bind_eq_some_iff.mp h with ⟨⟨p, afterFirst⟩, hfirst, h⟩
      rcases Option.bind_eq_some_iff.mp h with ⟨⟨more, afterOthers⟩, hothers, h⟩
      cases h
      rcases ih.predicate hfirst with ⟨hwell, htext⟩
      rcases ih.others hothers with ⟨hall, hrest⟩
      refine ⟨List.forall_mem_cons.mpr ⟨hwell, hall⟩, ?_⟩
      rw [eq_of_expect hconnective, htext, hrest, spellingOfRest]
      simp only [List.append_assoc]

theorem readsSpellings (bound : Nat) : ReadsSpellings bound := by
  induction bound with
  | zero =>
      constructor
      · intro cs rest p h
        simp [read] at h
      · intro connective cs rest others h
        simp [readRest] at h
  | succ bound ih => exact ⟨ih.of_read, ih.of_readRest⟩

theorem ofText?_eq_some_iff (text : String) (p : Predicate) :
    ofText? text = some p ↔ p.WellFormed ∧ text.toList = p.spelling := by
  unfold ofText?
  constructor
  · intro h
    split at h
    · next q hread =>
        cases h
        rcases (readsSpellings _).predicate hread with ⟨hwell, htext⟩
        exact ⟨hwell, by rw [htext, List.append_nil]⟩
    · cases h
  · intro hboth
    rcases hboth with ⟨hwell, htext⟩
    have hread := read_spelling hwell text.toList.length [] (Nat.le_of_eq (by rw [htext]))
    rw [List.append_nil, ← htext] at hread
    rw [hread]

end Predicate

end Rowsmith
