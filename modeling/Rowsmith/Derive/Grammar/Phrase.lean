import Rowsmith.Derive.Item
import Rowsmith.Derive.Reader

/-!
# Phrases

Source code is made of phrases that contain each other: types hold expressions as lengths,
expressions hold blocks, and blocks hold items. A rule of the grammar is written for any reader of
the phrases inside, so that each rule stands by itself; the rules are tied together in one place.
-/

namespace Rowsmith
namespace Derive

/-!
# What reading gives

A phrase is kept as tokens, with what the rules about its surroundings ask of it.
-/

/-- What a type is, as far as bounds that follow it depend on it. -/
inductive TypeForm where
  /-- A path that does not begin inside a type. -/
  | path (singleName : Bool)
  /-- One trait bound by itself, and its tokens without parentheses. -/
  | bound (unwrapped : Tokens)
  | other

structure TypeTokens where
  tokens : Tokens
  form : TypeForm

structure Bound where
  tokens : Tokens
  /-- The tokens without the parentheses around all of them. -/
  unwrapped : Tokens
  isTrait : Bool

/-- Where a bound stands decides about what it may be. -/
structure BoundRules where
  /-- Whether it may be marked as constant. -/
  constants : Bool
  /-- Whether it may list what is captured. -/
  captures : Bool

/-- What an expression is, as far as what follows it depends on it. -/
inductive ExpressionForm where
  /-- It ends in a block and is a statement without a semicolon. -/
  | block
  /-- A macro with braces, which is a statement without a semicolon too. -/
  | bracedMacro
  | range
  | comparison
  | other
  deriving DecidableEq, Repr

structure Expression where
  tokens : Tokens
  form : ExpressionForm

structure Pattern where
  tokens : Tokens
  /-- It is a range that lacks an end. -/
  isOpenRange : Bool

/-- Where an item stands decides about what it may be. -/
inductive ItemPlace where
  /-- In a block or a module. -/
  | block
  /-- In a trait or an implementation. -/
  | member
  /-- In a block of what is defined elsewhere. -/
  | foreign
  deriving DecidableEq, Repr

/-- How strongly an operator holds its operands, the weakest first. -/
inductive Strength where
  | none
  | assignment
  | range
  | disjunction
  | conjunction
  | binding
  | comparison
  | union
  | difference
  | intersection
  | shift
  | sum
  | product
  | cast
  deriving DecidableEq, Repr

def Strength.rank : Strength → Nat
  | .none => 0
  | .assignment => 1
  | .range => 2
  | .disjunction => 3
  | .conjunction => 4
  | .binding => 5
  | .comparison => 6
  | .union => 7
  | .difference => 8
  | .intersection => 9
  | .shift => 10
  | .sum => 11
  | .product => 12
  | .cast => 13

instance : LE Strength := ⟨fun a b => a.rank ≤ b.rank⟩

instance : LT Strength := ⟨fun a b => a.rank < b.rank⟩

instance (a b : Strength) : Decidable (a ≤ b) := inferInstanceAs (Decidable (a.rank ≤ b.rank))

instance (a b : Strength) : Decidable (a < b) := inferInstanceAs (Decidable (a.rank < b.rank))

/-!
# The phrases
-/

/-- The phrases that the rules refer to; the index says what reading one gives. -/
inductive Phrase : Type → Type where
  /-- A type, perhaps with bounds after a plus sign. -/
  | type (plus : Bool) : Phrase TypeTokens
  | bound (rules : BoundRules) : Phrase Bound
  /-- An expression, in which a path with braces may be the value of a struct or not. -/
  | expression (structs : Bool) : Phrase Expression
  /-- An expression up to its first operator between two operands. -/
  | operand (structs : Bool) : Phrase Expression
  /-- What is made of an operand by the operators after it that are strong enough. -/
  | operation (structs : Bool) (least : Strength) (left : Expression) : Phrase Expression
  /-- What is made of an operand by the operators that are stronger than the one before it. -/
  | rightSide (structs : Bool) (before : Strength) (operand : Expression) : Phrase Expression
  /-- An expression with the calls, fields and other marks that follow it. -/
  | trailed (subject : Expression) : Phrase Expression
  /-- A pattern that is no alternative. -/
  | pattern : Phrase Pattern
  /-- An expression where a statement may stand. -/
  | statement : Phrase Expression
  /-- The statements inside a block. -/
  | statements : Phrase Tokens
  /-- Named fields inside braces. -/
  | fields : Phrase (List (Entry Field))
  | item (place : ItemPlace) : Phrase Tokens
  | useTree : Phrase Tokens

abbrev PhraseReader := ⦃α : Type⦄ → Phrase α → Reader α

namespace Reader

variable (read : PhraseReader)

def type (plus : Bool) : Reader Tokens := do
  return (← read (.type plus)).tokens

def expression : Reader Tokens := do
  return (← read (.expression true)).tokens

/-- An expression before a block. -/
def condition : Reader Tokens := do
  return (← read (.expression false)).tokens

def block : Reader Tokens :=
  inside .brace (read .statements)

end Reader

end Derive
end Rowsmith
