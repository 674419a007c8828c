import Rowsmith.Proofs.Statement.Construction
import Rowsmith.Text.Basic

/-!
# Placeholders number the values

The placeholders of a written text, read from left to right, are exactly the numbers that the values
bound by it get, whatever was written and bound before. A fragment of the caller's own is asked to
keep this law, and then every statement around it keeps it too.
-/

namespace Rowsmith

open Text

/-!
# Tokens of a text

A token is a dollar sign with the longest run of digits after it, of which there is at least one.
-/

def closedToken (digits : List Char) : List String :=
  if digits.isEmpty then [] else [String.ofList ('$' :: digits.reverse)]

def openedToken (c : Char) : Option (List Char) :=
  if c = '$' then some [] else none

/-- The first argument holds the digits of the token being read, the last digit first. -/
def tokensFrom : Option (List Char) → List Char → List String
  | none, [] => []
  | some digits, [] => closedToken digits
  | none, c :: rest => tokensFrom (openedToken c) rest
  | some digits, c :: rest =>
      if isDigit c then tokensFrom (some (c :: digits)) rest
      else closedToken digits ++ tokensFrom (openedToken c) rest

def placeholderTokens (text : String) : List String :=
  tokensFrom none text.toList

/-- The tokens of the given count of values after n others. -/
def numberedTokens (n count : Nat) : List String :=
  (List.range' (n + 1) count).map placeholder

theorem numberedTokens_add (n k l : Nat) :
    numberedTokens n (k + l) = numberedTokens n k ++ numberedTokens (n + k) l := by
  unfold numberedTokens
  rw [← List.map_append, show n + k + 1 = n + 1 + k by omega, List.range'_append_1]

/-- What begins so does not lengthen a token before it. -/
def StartsClear (text : String) : Prop :=
  ∀ c ∈ text.toList.head?, isDigit c = false

def DollarFree (text : String) : Prop :=
  '$' ∉ text.toList

instance (text : String) : Decidable (StartsClear text) :=
  decidable_of_iff (text.toList.head?.all (!isDigit ·) = true) (by
    cases h : text.toList.head? <;> simp [StartsClear, h])

instance (text : String) : Decidable (DollarFree text) :=
  inferInstanceAs (Decidable ('$' ∉ text.toList))

theorem tokensFrom_append_of_clear (open? : Option (List Char)) (s t : List Char)
    (ht : ∀ c ∈ t.head?, isDigit c = false) :
    tokensFrom open? (s ++ t) = tokensFrom open? s ++ tokensFrom none t := by
  induction s generalizing open? with
  | nil =>
      cases open? with
      | none => rfl
      | some digits =>
          cases t with
          | nil => simp [tokensFrom]
          | cons c rest =>
              have hc : isDigit c = false := ht c rfl
              simp [tokensFrom, hc]
  | cons c rest ih =>
      cases open? with
      | none =>
          show tokensFrom (openedToken c) (rest ++ t) = _
          rw [ih]
          rfl
      | some digits =>
          show tokensFrom (some digits) (c :: (rest ++ t)) = _
          simp only [tokensFrom]
          split
          · rw [ih]
          · rw [ih, List.append_assoc]

theorem tokensFrom_append_of_dollarFree (s t : List Char) (hs : '$' ∉ s) :
    tokensFrom none (s ++ t) = tokensFrom none t := by
  induction s with
  | nil => rfl
  | cons c rest ih =>
      have hc : c ≠ '$' := fun h => hs (by simp [h])
      have hrest : '$' ∉ rest := fun h => hs (by simp [h])
      show tokensFrom (openedToken c) (rest ++ t) = _
      rw [openedToken, if_neg hc]
      exact ih hrest

theorem tokensFrom_digits (digits s : List Char) (hs : ∀ c ∈ s, isDigit c = true) :
    tokensFrom (some digits) s = closedToken (s.reverse ++ digits) := by
  induction s generalizing digits with
  | nil => rfl
  | cons c rest ih =>
      have hc : isDigit c = true := hs c (by simp)
      rw [tokensFrom, if_pos hc, ih _ fun d hd => hs d (by simp [hd])]
      simp

theorem placeholderTokens_append_of_clear (s t : String) (ht : StartsClear t) :
    placeholderTokens (s ++ t) = placeholderTokens s ++ placeholderTokens t := by
  unfold placeholderTokens
  rw [String.toList_append, tokensFrom_append_of_clear none _ _ ht]

theorem placeholderTokens_append_of_dollarFree (s t : String) (hs : DollarFree s) :
    placeholderTokens (s ++ t) = placeholderTokens t := by
  unfold placeholderTokens
  rw [String.toList_append, tokensFrom_append_of_dollarFree _ _ hs]

theorem placeholderTokens_of_dollarFree (s : String) (hs : DollarFree s) :
    placeholderTokens s = [] := by
  have h := placeholderTokens_append_of_dollarFree s "" hs
  rw [String.append_empty] at h
  exact h

theorem toList_placeholder (n : Nat) : (placeholder n).toList = '$' :: Nat.toDigits 10 n := by
  simp [placeholder]

theorem isDigit_of_mem_toDigits {c : Char} {n : Nat} (h : c ∈ Nat.toDigits 10 n) :
    isDigit c = true := by
  have hdigit : c.isDigit = true := Nat.isDigit_of_mem_toDigits (by decide) (by decide) h
  simp only [Char.isDigit, Bool.and_eq_true, decide_eq_true_eq] at hdigit
  simp only [isDigit, Bool.and_eq_true, decide_eq_true_eq]
  exact hdigit

theorem placeholderTokens_placeholder (n : Nat) :
    placeholderTokens (placeholder n) = [placeholder n] := by
  unfold placeholderTokens
  rw [toList_placeholder]
  show tokensFrom (some []) (Nat.toDigits 10 n) = _
  rw [tokensFrom_digits _ _ fun c hc => isDigit_of_mem_toDigits hc]
  have hne : Nat.toDigits 10 n ≠ [] := Nat.toDigits_ne_nil
  simp only [closedToken, List.append_nil, List.isEmpty_iff, List.reverse_eq_nil_iff, hne,
    if_false, List.reverse_reverse, ← toList_placeholder, String.ofList_toList]

/-!
# The law
-/

/-- On success the values go to the end of the arguments, and the tokens of the text written are
their numbers in order. On failure nothing is taken away. -/
def Writing.Numbers (fragment : Writing Unit) (literals : List Value) : Prop :=
  fragment.Appends literals fun n text =>
    placeholderTokens text = numberedTokens n literals.length

/-- The law for a fragment that may follow a token. -/
def Writing.NumbersAfterTokens (fragment : Writing Unit) (literals : List Value) : Prop :=
  fragment.Appends literals fun n text =>
    placeholderTokens text = numberedTokens n literals.length ∧ StartsClear text

namespace Writing

variable {a b : Writing Unit} {vs ws : List Value}

theorem NumbersAfterTokens.numbers (h : a.NumbersAfterTokens vs) : a.Numbers vs := by
  refine Appends.mono h ?_
  intro n text htext
  exact htext.left

theorem numbers_put {s : String} (hs : DollarFree s) : (put s).Numbers [] := by
  apply Appends.put
  intro n
  exact placeholderTokens_of_dollarFree s hs

theorem numbersAfterTokens_put {s : String} (hs : DollarFree s) (hclear : StartsClear s) :
    (put s).NumbersAfterTokens [] := by
  apply Appends.put
  intro n
  exact ⟨placeholderTokens_of_dollarFree s hs, hclear⟩

theorem numbersAfterTokens_pure : (pure () : Writing Unit).NumbersAfterTokens [] := by
  apply Appends.pure
  intro n
  exact ⟨rfl, by simp [StartsClear]⟩

theorem numbers_bindValue (v : Value) : (bindValue v).Numbers [v] := by
  apply Appends.bindValue
  intro n
  exact placeholderTokens_placeholder (n + 1)

theorem numbers_throw (failure : Failure) : (throw failure : Writing Unit).Numbers vs :=
  Appends.throw failure

theorem Numbers.bind (ha : a.Numbers vs) (hb : b.NumbersAfterTokens ws) :
    (a >>= fun _ => b).Numbers (vs ++ ws) := by
  refine Appends.bind ha hb ?_
  intro n s t hs ht
  rw [placeholderTokens_append_of_clear s t ht.right, hs, ht.left, List.length_append,
    numberedTokens_add]

theorem Numbers.put_bind {s : String} (hs : DollarFree s) (hb : b.Numbers ws) :
    (put s >>= fun _ => b).Numbers ws := by
  refine Appends.put_bind hb ?_
  intro n t ht
  rw [placeholderTokens_append_of_dollarFree s t hs]
  exact ht

/-- Text that begins with something else than a digit sets what follows apart. -/
theorem Numbers.put_bind_afterTokens {c : Char} {rest : List Char} {s : String}
    (hs : DollarFree s) (hfirst : s.toList = c :: rest) (hc : isDigit c = false)
    (hb : b.Numbers ws) : (put s >>= fun _ => b).NumbersAfterTokens ws := by
  refine Appends.put_bind hb ?_
  intro n t ht
  constructor
  · rw [placeholderTokens_append_of_dollarFree s t hs]
    exact ht
  · simpa [StartsClear, hfirst] using hc

end Writing

/-!
# Operands and conditions
-/

def Operand.literals : Operand → List Value
  | .value v => [v]
  | .group vs => vs

namespace Condition

mutual

def literals : Condition → List Value
  | .compare _ _ operand => operand.literals
  | .logical _ conditions => literalsOfAll conditions

def literalsOfAll : List Condition → List Value
  | [] => []
  | c :: rest => c.literals ++ literalsOfAll rest

end

mutual

def names : Condition → List String
  | .compare operator column _ => [operator, column]
  | .logical operator conditions => operator :: namesOfAll conditions

def namesOfAll : List Condition → List String
  | [] => []
  | c :: rest => c.names ++ namesOfAll rest

end

theorem literalsOfAll_eq (conditions : List Condition) :
    literalsOfAll conditions = conditions.flatMap literals := by
  induction conditions with
  | nil => rfl
  | cons c rest ih => rw [literalsOfAll, ih, List.flatMap_cons]

theorem namesOfAll_eq (conditions : List Condition) :
    namesOfAll conditions = conditions.flatMap names := by
  induction conditions with
  | nil => rfl
  | cons c rest ih => rw [namesOfAll, ih, List.flatMap_cons]

def DollarFree (c : Condition) : Prop :=
  ∀ name ∈ c.names, Rowsmith.DollarFree name

theorem DollarFree.of_logical {operator : String} {conditions : List Condition}
    (h : (logical operator conditions).DollarFree) :
    Rowsmith.DollarFree operator ∧ ∀ c ∈ conditions, c.DollarFree := by
  constructor
  · exact h operator (by simp [names])
  · intro c hc name hname
    apply h name
    simp only [names, namesOfAll_eq, List.mem_cons, List.mem_flatMap]
    exact Or.inr ⟨c, hc, hname⟩

end Condition

theorem not_mem_append {c : Char} {s t : String} (hs : c ∉ s.toList) (ht : c ∉ t.toList) :
    c ∉ (s ++ t).toList := by
  rw [String.toList_append, List.mem_append, not_or]
  exact ⟨hs, ht⟩

theorem not_mem_intercalate {c : Char} {separator : String} {parts : List String}
    (hseparator : c ∉ separator.toList) (hparts : ∀ part ∈ parts, c ∉ part.toList) :
    c ∉ (separator.intercalate parts).toList := by
  induction parts with
  | nil => exact List.not_mem_nil
  | cons part rest ih =>
      rcases List.forall_mem_cons.mp hparts with ⟨hpart, hrest⟩
      cases rest with
      | nil =>
          rw [String.intercalate_singleton]
          exact hpart
      | cons next more =>
          rw [String.intercalate_cons_cons]
          exact not_mem_append (not_mem_append hpart hseparator) (ih hrest)

theorem dollarFree_append {s t : String} (hs : DollarFree s) (ht : DollarFree t) :
    DollarFree (s ++ t) :=
  not_mem_append hs ht

end Rowsmith
