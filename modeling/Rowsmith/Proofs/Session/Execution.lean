import Rowsmith.Session.Basic

/-!
# What the steps of a session do

A step asks the database once if its statement compiles, and not at all otherwise. Whatever fails
before there is an answer leaves the target of the step as it was.
-/

namespace Rowsmith

/-!
# Statements of steps
-/

structure Call where
  action : Action
  statement : Statement
  deriving DecidableEq, Repr

namespace Step

def action : Step → Action
  | .query _ _ _ => .query
  | .queryRow _ _ => .queryRow
  | .exec _ _ => .exec

def compiled : Step → Except Failure Statement
  | .query select _ _ => select.compile
  | .queryRow select _ => select.compile
  | .exec insert _ => insert.compile

def call? (step : Step) : Option Call :=
  match step.compiled with
  | .ok statement => some ⟨step.action, statement⟩
  | .error _ => none

def failing (failure : Failure) (events : List Event) (deliveries : List Delivery) :
    Step → StepReport
  | .query _ _ records => .query ⟨.error failure, records, events, deliveries⟩
  | .queryRow _ record => .queryRow ⟨.error failure, record, events, deliveries⟩
  | .exec _ affected => .exec ⟨.error failure, affected, events, deliveries⟩

def report (exchange : Exchange) : Step → StepReport
  | .query _ fresh records => .query (exchange.report records (Answer.collect fresh records))
  | .queryRow _ record => .queryRow (exchange.report record (Answer.first record))
  | .exec _ affected => .exec (exchange.report affected (Answer.count affected))

end Step

def calls (steps : List (Step × Reply)) : List Call :=
  steps.filterMap fun (step, _) => step.call?

theorem calls_cons (step : Step) (reply : Reply) (rest : List (Step × Reply)) :
    calls ((step, reply) :: rest) = step.call?.toList ++ calls rest := by
  unfold calls
  cases h : step.call? with
  | none => simp [h]
  | some call => simp [h]

def StepReport.events : StepReport → List Event
  | .query report => report.events
  | .queryRow report => report.events
  | .exec report => report.events

/-!
# Reports of exchanges
-/

section Exchanges

variable {α σ : Type} (exchange : Exchange) (target : σ) (bind : Answer → Except Failure α × σ)

@[simp] theorem Exchange.report_events :
    (exchange.report target bind).events = exchange.events := by
  unfold Exchange.report
  split <;> rfl

@[simp] theorem Exchange.report_deliveries :
    (exchange.report target bind).deliveries = exchange.deliveries := by
  unfold Exchange.report
  split <;> rfl

variable {exchange target bind}

theorem Exchange.report_of_refused {failure : Failure} (h : exchange.outcome = .error failure) :
    exchange.report target bind =
      ⟨.error failure, target, exchange.events, exchange.deliveries⟩ := by
  unfold Exchange.report
  rw [h]

theorem Exchange.report_of_answered {answer : Answer} (h : exchange.outcome = .ok answer) :
    exchange.report target bind =
      ⟨(bind answer).1, (bind answer).2, exchange.events, exchange.deliveries⟩ := by
  unfold Exchange.report
  rw [h]

@[simp] theorem Step.report_events (step : Step) :
    (step.report exchange).events = exchange.events := by
  cases step with
  | query select fresh records => exact Exchange.report_events exchange _ _
  | queryRow select record => exact Exchange.report_events exchange _ _
  | exec insert affected => exact Exchange.report_events exchange _ _

@[simp] theorem Step.report_deliveries (step : Step) :
    (step.report exchange).deliveries = exchange.deliveries := by
  cases step with
  | query select fresh records => exact Exchange.report_deliveries exchange _ _
  | queryRow select record => exact Exchange.report_deliveries exchange _ _
  | exec insert affected => exact Exchange.report_deliveries exchange _ _

theorem Step.report_of_refused {failure : Failure} (step : Step)
    (h : exchange.outcome = .error failure) :
    step.report exchange = step.failing failure exchange.events exchange.deliveries := by
  cases step with
  | query select fresh records => exact congrArg _ (Exchange.report_of_refused h)
  | queryRow select record => exact congrArg _ (Exchange.report_of_refused h)
  | exec insert affected => exact congrArg _ (Exchange.report_of_refused h)

theorem Step.report_of_no_rows {answer : Answer} (select : Select) (record : Record)
    (h : exchange.outcome = .ok answer) (hrows : answer.rows = []) :
    (Step.queryRow select record).report exchange =
      (Step.queryRow select record).failing .noResult exchange.events exchange.deliveries := by
  have hfirst : Answer.first record answer = (.error .noResult, record) := by
    unfold Answer.first
    rw [hrows]
    rfl
  have hreport : exchange.report record (Answer.first record) =
      ⟨.error .noResult, record, exchange.events, exchange.deliveries⟩ := by
    rw [Exchange.report_of_answered h, hfirst]
  exact congrArg StepReport.queryRow hreport

end Exchanges

/-!
# Single steps
-/

section Steps

variable {database : Database} {statement : Statement} {failure : Failure} {reply : Reply}
  {state : database.State} {step : Step}

theorem perform_of_error {α σ : Type} {action : Action} {compiled : Except Failure Statement}
    {target : σ} {bind : Answer → Except Failure α × σ} (h : compiled = .error failure) :
    perform database action compiled reply target bind state =
      (⟨.error failure, target, [], []⟩, state) := by
  rw [h]
  rfl

theorem perform_of_ok {α σ : Type} {action : Action} {compiled : Except Failure Statement}
    {target : σ} {bind : Answer → Except Failure α × σ} (h : compiled = .ok statement) :
    perform database action compiled reply target bind state =
      (database.exchange action statement reply state).map (·.report target bind) id := by
  rw [h]
  rfl

theorem Step.call?_of_error (h : step.compiled = .error failure) : step.call? = none := by
  unfold Step.call?
  rw [h]

theorem Step.call?_of_ok (h : step.compiled = .ok statement) :
    step.call? = some ⟨step.action, statement⟩ := by
  unfold Step.call?
  rw [h]

theorem Step.run_of_error (h : step.compiled = .error failure) :
    step.run database reply state = (step.failing failure [] [], state) := by
  cases step with
  | query select fresh records => exact congrArg (Prod.map StepReport.query id) (perform_of_error h)
  | queryRow select record => exact congrArg (Prod.map StepReport.queryRow id) (perform_of_error h)
  | exec insert affected => exact congrArg (Prod.map StepReport.exec id) (perform_of_error h)

theorem Step.run_of_ok (h : step.compiled = .ok statement) :
    step.run database reply state =
      (database.exchange step.action statement reply state).map step.report id := by
  cases step with
  | query select fresh records => exact congrArg (Prod.map StepReport.query id) (perform_of_ok h)
  | queryRow select record => exact congrArg (Prod.map StepReport.queryRow id) (perform_of_ok h)
  | exec insert affected => exact congrArg (Prod.map StepReport.exec id) (perform_of_ok h)

end Steps

end Rowsmith
