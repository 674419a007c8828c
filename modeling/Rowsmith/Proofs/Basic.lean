import Mathlib.Data.List.Induction

/-!
# Outcomes and last words

Facts about computations that may fail, and about lists of which the last member to say something
counts.
-/

namespace Rowsmith

/-!
# Outcomes of computations

A computation made of steps succeeds exactly when every step does. One that has a state leaves a
state behind in either case.
-/

def stateAfter {ε σ α : Type} : EStateM.Result ε σ α → σ
  | .ok _ state => state
  | .error _ state => state

variable {ε α β γ : Type}

theorem bind_eq_ok_iff {step : Except ε α} {next : α → Except ε β} {b : β} :
    step >>= next = .ok b ↔ ∃ a, step = .ok a ∧ next a = .ok b := by
  cases step with
  | error e =>
      constructor
      · intro h
        cases h
      · intro hexists
        rcases hexists with ⟨a, h, _⟩
        cases h
  | ok a =>
      constructor
      · intro h
        exact ⟨a, rfl, h⟩
      · intro hexists
        rcases hexists with ⟨a', h, hnext⟩
        cases h
        exact hnext

theorem map_eq_ok_iff {step : Except ε α} {f : α → β} {b : β} :
    f <$> step = .ok b ↔ ∃ a, step = .ok a ∧ f a = b := by
  cases step with
  | error e =>
      constructor
      · intro h
        cases h
      · intro hexists
        rcases hexists with ⟨a, h, _⟩
        cases h
  | ok a =>
      constructor
      · intro h
        cases h
        exact ⟨a, rfl, rfl⟩
      · intro hexists
        rcases hexists with ⟨a', h, rfl⟩
        cases h
        rfl

theorem both_eq_ok_iff {first : Except ε α} {second : Except ε β} {f : α → β → γ} {c : γ} :
    (do let a ← first; let b ← second; return f a b) = .ok c ↔
      ∃ a b, first = .ok a ∧ second = .ok b ∧ c = f a b := by
  simp only [bind_eq_ok_iff]
  constructor
  · intro hexists
    rcases hexists with ⟨a, ha, b, hb, h⟩
    cases h
    exact ⟨a, b, ha, hb, rfl⟩
  · intro hexists
    rcases hexists with ⟨a, b, ha, hb, rfl⟩
    exact ⟨a, ha, b, hb, rfl⟩

/-!
# What was said last

Of the members of a list that say something the last one counts.
-/

/-- What the last of the calls that has any says. -/
def lastGiven (given : γ → Option α) (calls : List γ) : Option α :=
  calls.reverse.findSome? given

theorem lastGiven_append (given : γ → Option α) (calls others : List γ) :
    lastGiven given (calls ++ others) = (lastGiven given others).or (lastGiven given calls) := by
  unfold lastGiven
  rw [List.reverse_append, List.findSome?_append]

theorem lastGiven_singleton (given : γ → Option α) (call : γ) :
    lastGiven given [call] = given call := by
  unfold lastGiven
  rw [List.reverse_singleton, List.findSome?_singleton]

theorem lastGiven_concat (given : γ → Option α) (calls : List γ) (call : γ) :
    lastGiven given (calls ++ [call]) = (given call).or (lastGiven given calls) := by
  rw [lastGiven_append, lastGiven_singleton]

theorem lastGiven_filter {given : γ → Option α} {keep : γ → Bool}
    (h : ∀ call, keep call = false → given call = none) (calls : List γ) :
    lastGiven given (calls.filter keep) = lastGiven given calls := by
  induction calls using List.reverseRecOn with
  | nil => rfl
  | append_singleton calls call ih =>
      rw [List.filter_append, lastGiven_append, lastGiven_concat, ih]
      cases hkeep : keep call with
      | true => rw [List.filter_cons_of_pos hkeep, List.filter_nil, lastGiven_singleton]
      | false =>
          rw [List.filter_cons_of_neg (Bool.eq_false_iff.mp hkeep), h call hkeep]
          rfl

end Rowsmith
