import Rowsmith.Session.Database
import Rowsmith.Statement.Builder

/-!
# Sessions

A session is a sequence of steps over one database. A step compiles its statement, has the
database run it and binds the answer to its target: a list of records, one record, or a count of
affected rows. A statement that does not compile never reaches the database.
-/

namespace Rowsmith

/-- What became of one step, with its target afterwards. -/
structure Report (α σ : Type) where
  result : Except Failure α
  target : σ
  events : List Event
  deliveries : List Delivery

/-- The result and the state that a computation ends with, whether it fails or not. -/
def resultAndState : EStateM.Result Failure σ α → Except Failure α × σ
  | .ok a s => (.ok a, s)
  | .error failure s => (.error failure, s)

/-- The report of a step after its exchange; the function binds an answer to the target. -/
def Exchange.report (exchange : Exchange) (target : σ) (bind : Answer → Except Failure α × σ) :
    Report α σ :=
  match exchange.outcome with
  | .error failure => ⟨.error failure, target, exchange.events, exchange.deliveries⟩
  | .ok answer =>
      let (result, target) := bind answer
      ⟨result, target, exchange.events, exchange.deliveries⟩

/-- The common course of a step. -/
def perform (database : Database) (action : Action) (compiled : Except Failure Statement)
    (reply : Reply) (target : σ) (bind : Answer → Except Failure α × σ)
    (state : database.State) : Report α σ × database.State :=
  match compiled with
  | .error failure => (⟨.error failure, target, [], []⟩, state)
  | .ok statement =>
      let (exchange, state) := database.exchange action statement reply state
      (exchange.report target bind, state)

namespace Answer

def collect (fresh : Record) (records : List Record) (answer : Answer) :
    Except Failure Unit × List Record :=
  resultAndState ((Collecting.scanRows fresh answer.rows).run records)

def first (record : Record) (answer : Answer) : Except Failure Unit × Record :=
  resultAndState ((Scanning.scanFirst answer.rows).run record)

/-- The count of affected rows is returned, and kept in the target where there is one. -/
def count (affected : Option Nat) (answer : Answer) : Except Failure Nat × Option Nat :=
  (.ok answer.affected, affected.map fun _ => answer.affected)

end Answer

namespace Database

def query (database : Database) (reply : Reply) (select : Select) (fresh : Record)
    (records : List Record) : database.State → Report Unit (List Record) × database.State :=
  perform database .query select.compile reply records (Answer.collect fresh records)

def queryRow (database : Database) (reply : Reply) (select : Select) (record : Record) :
    database.State → Report Unit Record × database.State :=
  perform database .queryRow select.compile reply record (Answer.first record)

def exec (database : Database) (reply : Reply) (insert : Insert) (affected : Option Nat) :
    database.State → Report Nat (Option Nat) × database.State :=
  perform database .exec insert.compile reply affected (Answer.count affected)

end Database

/-!
# Runs
-/

inductive Step where
  | query (select : Select) (fresh : Record) (records : List Record)
  | queryRow (select : Select) (record : Record)
  | exec (insert : Insert) (affected : Option Nat)

inductive StepReport where
  | query (report : Report Unit (List Record))
  | queryRow (report : Report Unit Record)
  | exec (report : Report Nat (Option Nat))

def StepReport.deliveries : StepReport → List Delivery
  | .query report => report.deliveries
  | .queryRow report => report.deliveries
  | .exec report => report.deliveries

def Step.run (database : Database) (reply : Reply) (step : Step) (state : database.State) :
    StepReport × database.State :=
  match step with
  | .query select fresh records =>
      (database.query reply select fresh records state).map .query id
  | .queryRow select record => (database.queryRow reply select record state).map .queryRow id
  | .exec insert affected => (database.exec reply insert affected state).map .exec id

/-- Every step is run whatever became of the steps before, and meets the reply that belongs to
it. -/
def runSteps (database : Database) :
    List (Step × Reply) → database.State → List StepReport × database.State
  | [], state => ([], state)
  | (step, reply) :: rest, state =>
      let (report, state) := step.run database reply state
      let (reports, state) := runSteps database rest state
      (report :: reports, state)

def runSession (database : Database) (steps : List (Step × Reply)) : List StepReport :=
  (runSteps database steps database.initial).1

/-- All that a session sent, in order. -/
def delivered (reports : List StepReport) : List Delivery :=
  reports.flatMap StepReport.deliveries

end Rowsmith
