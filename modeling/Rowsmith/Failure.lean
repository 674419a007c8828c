import Rowsmith.Value.Scan

/-!
# Failures of statements

Everything that can go wrong from building a statement to binding its rows, each cause with the
data its message needs. The class of a failure tells at which stage it belongs.
-/

namespace Rowsmith

inductive Failure where
  | emptyGroup
  | emptyConditions
  | noRows
  | unknownColumn (column : String)
  | duplicateColumn (column : String)
  | decode (column : String) (cause : ScanError)
  /-- The server refused the statement, or its address could not be understood. -/
  | query (message : String)
  | noResult
  | noDatabase
  | pool (message : String)
  | targetCount (expected actual : Nat)
  | columnIndex (index : Nat)
  | other (message : String)
  deriving DecidableEq, Repr

def Failure.message : Failure → String
  | .emptyGroup => "values list must not be empty"
  | .emptyConditions => "conditions list must not be empty"
  | .noRows => "sqlb: there must be at least one row"
  | .unknownColumn column => "sqlb: " ++ column ++ " is not found"
  | .duplicateColumn column => "sqlb: " ++ column ++ " is requested more than once"
  | .decode column cause => "Decode error on column '" ++ column ++ "': " ++ cause.message
  | .query message => message
  | .noResult => "Not found: sqlb: no rows in result set"
  | .noDatabase => "sqlb: no DB was provided to execute the query"
  | .pool message => "Pool error: " ++ message
  | .targetCount expected actual =>
      "sqlb: expected " ++ toString expected ++ " scan targets, got " ++ toString actual
  | .columnIndex index => "sqlb: column index " ++ toString index ++ " out of range"
  | .other message => message

inductive FailureCategory where
  | build
  | binding
  | notFound
  | other
  deriving DecidableEq, Repr

def Failure.category : Failure → FailureCategory
  | .emptyGroup | .emptyConditions | .noRows => .build
  | .unknownColumn _ | .duplicateColumn _ | .decode _ _ => .binding
  | .noResult => .notFound
  | _ => .other

def Failure.isBuildError (f : Failure) : Bool :=
  f.category = .build

def Failure.isBindingError (f : Failure) : Bool :=
  f.category = .binding

def Failure.isNotFound (f : Failure) : Bool :=
  f.category = .notFound

/-!
# Comparing results
-/

instance instDecidableEqResult {ε α : Type} [DecidableEq ε] [DecidableEq α] :
    DecidableEq (Except ε α)
  | .ok a, .ok b => decidable_of_iff (a = b) (by simp)
  | .error e, .error f => decidable_of_iff (e = f) (by simp)
  | .ok _, .error _ => isFalse (by simp)
  | .error _, .ok _ => isFalse (by simp)

end Rowsmith
