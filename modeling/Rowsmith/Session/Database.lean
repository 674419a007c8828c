import Rowsmith.Record.Scan
import Rowsmith.Statement.Fragment
import Rowsmith.Text.Basic

/-!
# Databases and what they log

A database takes statements, and what it does with them can be followed in the log.
-/

namespace Rowsmith

open Text

/-!
# Events of the log

What a database reports while it works on a statement. The text of a statement that is sent is cut
before it is logged; without a database it is logged whole.
-/

/-- How a statement is run: for all its rows, for the first one, or for its effect. -/
inductive Action where
  | query
  | queryRow
  | exec
  deriving DecidableEq, Repr

def Action.name : Action → String
  | .query => "query"
  | .queryRow => "query_row"
  | .exec => "exec"

inductive Event where
  | sending (parameters : Nat) (text : String)
  | rowsReturned (count : Nat)
  | executed (affected : Nat)
  | noDatabase (action : Action) (text : String)
  deriving DecidableEq, Repr

inductive Level where
  | trace
  | debug
  | warn
  deriving DecidableEq, Repr

def Level.name : Level → String
  | .trace => "TRACE"
  | .debug => "DEBUG"
  | .warn => "WARN"

/-- How many octets of a statement one event carries. -/
def loggedOctets : Nat := 200

namespace Event

def level : Event → Level
  | .sending _ _ => .debug
  | .rowsReturned _ | .executed _ => .trace
  | .noDatabase _ _ => .warn

/-- The part of the program that an event belongs to. -/
def target : Event → String
  | .noDatabase _ _ => "pggo"
  | _ => "pggo.sql"

def fields : Event → List (String × String)
  | .sending parameters text =>
      [("param_count", toString parameters), ("sql", cut loggedOctets text)]
  | .rowsReturned count => [("message", "rows returned"), ("rows", toString count)]
  | .executed affected => [("message", "statement executed"), ("affected", toString affected)]
  | .noDatabase action text =>
      [("message", action.name ++ " without a database"), ("sql", text)]

end Event

/-!
# Databases

A database takes a statement and has a reply for it. What it does with the statement until the
rows of the reply can be bound is an exchange: the events it logs, what of the statement gets
through to the other side, and the answer or the failure that comes back.
-/

/-- A server first prepares the text of a statement, then runs it with its arguments. -/
inductive Stage where
  | prepare
  | execute
  deriving DecidableEq, Repr

structure Answer where
  rows : List Row
  affected : Nat
  deriving DecidableEq, Repr

inductive Reply where
  | answer (content : Answer)
  | refusal (stage : Stage) (message : String)
  deriving DecidableEq, Repr

/-- A statement as a database saw it. -/
inductive Delivery where
  | direct (statement : Statement)
  | prepared (text : String)
  | bound (text : String) (arguments : List (Option Bytes))
  deriving DecidableEq, Repr

structure Exchange where
  events : List Event
  deliveries : List Delivery
  outcome : Except Failure Answer
  deriving DecidableEq

/-- The message of a server that refused a statement does not go into the failure. -/
def serverRefusal : Failure :=
  .query "db error"

/-- The text of a statement goes over the wire with a zero after it, so it cannot contain one. -/
def Statement.isSendable (statement : Statement) : Bool :=
  !statement.text.toList.contains '\x00'

def unsendable : Failure :=
  .query "error encoding message to server"

def Answer.event (answer : Answer) : Action → Event
  | .exec => .executed answer.affected
  | _ => .rowsReturned answer.rows.length

def Statement.bound (statement : Statement) : Delivery :=
  .bound statement.text (statement.arguments.map Value.octets?)

def Statement.sending (statement : Statement) : Event :=
  .sending statement.arguments.length statement.text

/-- A database may keep a state of its own, which the statements it takes can change. -/
structure Database where
  State : Type
  initial : State
  exchange : Action → Statement → Reply → State → Exchange × State

namespace Database

/-- A database that takes every statement as if it were the first. -/
def stateless (exchange : Action → Statement → Reply → Exchange) : Database where
  State := Unit
  initial := ()
  exchange action statement reply state := (exchange action statement reply, state)

/-- There is none, and nothing can be run. -/
def absent : Database :=
  stateless fun action statement _ =>
    ⟨[.noDatabase action statement.text], [], .error .noDatabase⟩

/-- A database in memory takes statements as they are and logs nothing. -/
def memory : Database :=
  stateless fun _ statement reply =>
    match reply with
    | .answer answer => ⟨[], [.direct statement], .ok answer⟩
    | .refusal _ message => ⟨[], [.direct statement], .error (.other message)⟩

def server : Database :=
  stateless fun action statement reply =>
    if statement.isSendable then
      match reply with
      | .answer answer =>
          ⟨[statement.sending, answer.event action], [statement.bound], .ok answer⟩
      | .refusal .prepare _ =>
          ⟨[statement.sending], [.prepared statement.text], .error serverRefusal⟩
      | .refusal .execute _ => ⟨[statement.sending], [statement.bound], .error serverRefusal⟩
    else
      ⟨[statement.sending], [], .error unsendable⟩

/-- A pool that cannot get hold of a connection. -/
def unreachable : Database :=
  stateless fun _ statement _ => ⟨[statement.sending], [], .error (.pool "")⟩

end Database

end Rowsmith
