import Rowsmith.Failure

/-!
# Fragments of statements

A statement is written fragment by fragment: tables and conditions are the fragments that SELECT and
INSERT statements have in common.
-/

namespace Rowsmith

/-!
# Statements under construction

A statement is SQL text together with the values of its placeholders, in the order of their
numbers. Writing a fragment appends to both; a value that is bound becomes the next placeholder at
the place where the fragment stands. When writing fails, what was written before stays behind, and
the caller throws it away.
-/

structure Statement where
  text : String
  arguments : List Value
  deriving DecidableEq, Repr

namespace Statement

def empty : Statement :=
  ⟨"", []⟩

end Statement

def placeholder (number : Nat) : String :=
  "$" ++ toString number

/-!
## Argument lists

The values alone, with the tokens that stand for them. A token carries the length of the list
right after its value was stored.
-/

def pushArgument (arguments : List Value) (v : Value) : List Value × String :=
  (arguments ++ [v], placeholder (arguments.length + 1))

/-- The token is that of the last value of the run, and there is none for an empty run. -/
def appendArguments (arguments vs : List Value) : List Value × Option String :=
  (arguments ++ vs,
    if vs.isEmpty then none else some (placeholder (arguments.length + vs.length)))

/-!
## Writing
-/

abbrev Writing := EStateM Failure Statement

namespace Writing

def put (s : String) : Writing Unit :=
  modify fun statement => { statement with text := statement.text ++ s }

def bindValue (v : Value) : Writing Unit :=
  modify fun statement =>
    let (arguments, token) := pushArgument statement.arguments v
    ⟨statement.text ++ token, arguments⟩

/-- The placeholders of a run of values, separated by commas. -/
def bindValues : List Value → Writing Unit
  | [] => pure ()
  | [v] => bindValue v
  | v :: rest => do
      bindValue v
      put ","
      bindValues rest

/-- The statement that a fragment makes on its own. -/
def compile (fragment : Writing Unit) : Except Failure Statement :=
  match fragment.run Statement.empty with
  | .ok _ statement => .ok statement
  | .error failure _ => .error failure

end Writing

/-!
# Tables

What a statement reads from or inserts into: a name, a described table, or any fragment of the
caller's own, such as a function call or a subquery.
-/

/-- The name of a table and its declared columns, in order. -/
structure TableDescription where
  name : String
  columns : List String
  deriving DecidableEq, Repr

def TableDescription.hasColumn (table : TableDescription) (column : String) : Bool :=
  table.columns.contains column

inductive Table where
  | named (name : String)
  | described (table : TableDescription)
  | custom (fragment : Writing Unit)

namespace Table

def write : Table → Writing Unit
  | .named name => Writing.put name
  | .described table => Writing.put table.name
  | .custom fragment => fragment

/-- A function call over bound values. -/
def call (function : String) (vs : List Value) : Table :=
  .custom do
    Writing.put (function ++ "(")
    Writing.bindValues vs
    Writing.put ")"

/-- A fragment in parentheses under a name of its own. -/
def aliased (fragment : Writing Unit) (name : String) : Table :=
  .custom do
    Writing.put "("
    fragment
    Writing.put (") AS " ++ name)

end Table

/-!
# Conditions

A condition compares a column with bound values or joins other conditions. Every comparison and
every join of two or more conditions brings its own parentheses; a join of one condition is that
condition. Nothing is checked before the condition is written.
-/

inductive Operand where
  | value (v : Value)
  | group (vs : List Value)
  deriving DecidableEq, Repr

def Operand.write : Operand → Writing Unit
  | .value v => Writing.bindValue v
  | .group [] => throw .emptyGroup
  | .group (v :: vs) => do
      Writing.put "("
      Writing.bindValues (v :: vs)
      Writing.put ")"

inductive Condition where
  | compare (operator column : String) (operand : Operand)
  | logical (operator : String) (conditions : List Condition)
  deriving Repr

namespace Condition

def equal (column : String) (v : Value) : Condition :=
  .compare "=" column (.value v)

def isIn (column : String) (vs : List Value) : Condition :=
  .compare "IN" column (.group vs)

def all (conditions : List Condition) : Condition :=
  .logical "AND" conditions

def any (conditions : List Condition) : Condition :=
  .logical "OR" conditions

def and (c d : Condition) : Condition :=
  all [c, d]

def or (c d : Condition) : Condition :=
  any [c, d]

mutual

def write : Condition → Writing Unit
  | .compare operator column operand => do
      Writing.put ("(" ++ column ++ " " ++ operator ++ " ")
      operand.write
      Writing.put ")"
  | .logical _ [] => throw .emptyConditions
  | .logical _ [only] => only.write
  | .logical operator (first :: second :: rest) => do
      Writing.put "("
      first.write
      writeJoined operator (second :: rest)
      Writing.put ")"

/-- Every condition with the operator before it. -/
def writeJoined (operator : String) : List Condition → Writing Unit
  | [] => pure ()
  | c :: rest => do
      Writing.put (" " ++ operator ++ " ")
      c.write
      writeJoined operator rest

end

end Condition

end Rowsmith
