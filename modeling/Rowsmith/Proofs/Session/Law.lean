import Rowsmith.Proofs.Session.Execution

/-!
# The law of sessions

What a session does is told step by step. The statement of a step reaches the database once if it
compiles, and in the order of the steps. A failure leaves the target of its step as it was, unless
it comes up while rows are being bound.
-/

namespace Rowsmith

/-!
# Lawful steps
-/

structure LawfulReport (step : Step) (exchange : Exchange) (report : StepReport) : Prop where
  events : report.events = exchange.events
  deliveries : report.deliveries = exchange.deliveries
  refused : ∀ failure, exchange.outcome = .error failure →
    report = step.failing failure exchange.events exchange.deliveries
  noRows : ∀ select record answer, step = .queryRow select record →
    exchange.outcome = .ok answer → answer.rows = [] →
    report = step.failing .noResult exchange.events exchange.deliveries
  counted : ∀ insert affected answer, step = .exec insert affected →
    exchange.outcome = .ok answer →
    report = .exec ⟨.ok answer.affected, affected.map fun _ => answer.affected,
      exchange.events, exchange.deliveries⟩

/-- The database is in one state before the step and in another one after it. -/
structure LawfulStep (database : Database) (reply : Reply) (before : database.State) (step : Step)
    (report : StepReport) (after : database.State) : Prop where
  uncompiled : ∀ failure, step.compiled = .error failure →
    report = step.failing failure [] [] ∧ after = before
  reached : ∀ statement, step.compiled = .ok statement →
    LawfulReport step (database.exchange step.action statement reply before).1 report ∧
      after = (database.exchange step.action statement reply before).2
  /-- A count is kept if and only if it is returned. -/
  kept : ∀ insert affected, step = .exec insert affected →
    ∃ exec, report = .exec exec ∧
      ((∃ count, exec.result = .ok count ∧ exec.target = affected.map fun _ => count) ∨
        ∃ failure, exec.result = .error failure ∧ exec.target = affected)

theorem Step.report_lawful (step : Step) (exchange : Exchange) :
    LawfulReport step exchange (step.report exchange) where
  events := step.report_events
  deliveries := step.report_deliveries
  refused _ h := step.report_of_refused h
  noRows := by
    intro select record answer hsame h hrows
    subst hsame
    exact Step.report_of_no_rows select record h hrows
  counted := by
    intro insert affected answer hsame h
    subst hsame
    exact congrArg StepReport.exec (Exchange.report_of_answered h)

theorem Exchange.report_count (exchange : Exchange) (affected : Option Nat) :
    (∃ count, (exchange.report affected (Answer.count affected)).result = .ok count ∧
        (exchange.report affected (Answer.count affected)).target = affected.map fun _ => count) ∨
      ∃ failure, (exchange.report affected (Answer.count affected)).result = .error failure ∧
        (exchange.report affected (Answer.count affected)).target = affected := by
  cases h : exchange.outcome with
  | error failure =>
      rw [Exchange.report_of_refused h]
      exact Or.inr ⟨failure, rfl, rfl⟩
  | ok answer =>
      rw [Exchange.report_of_answered h]
      exact Or.inl ⟨answer.affected, rfl, rfl⟩

theorem Step.run_lawful (database : Database) (reply : Reply) (step : Step)
    (state : database.State) :
    LawfulStep database reply state step (step.run database reply state).1
      (step.run database reply state).2 := by
  cases hcompiled : step.compiled with
  | error failure =>
      rw [Step.run_of_error hcompiled]
      constructor
      · intro failure' h
        rw [hcompiled] at h
        cases h
        exact ⟨rfl, rfl⟩
      · intro statement h
        rw [hcompiled] at h
        cases h
      · intro insert affected hsame
        subst hsame
        exact ⟨_, rfl, Or.inr ⟨failure, rfl, rfl⟩⟩
  | ok statement =>
      rw [Step.run_of_ok hcompiled]
      constructor
      · intro failure h
        rw [hcompiled] at h
        cases h
      · intro statement' h
        rw [hcompiled] at h
        cases h
        exact ⟨step.report_lawful _, rfl⟩
      · intro insert affected hsame
        subst hsame
        exact ⟨_, rfl, Exchange.report_count _ affected⟩

/-- Without rows there is no statement, and the count stays what it was. -/
example :
    (Step.exec ⟨.named "person", [], []⟩ (some 42)).run .memory (.answer ⟨[], 5⟩) () =
      (.exec ⟨.error .noRows, some 42, [], []⟩, ()) :=
  rfl

/-!
# Lawful runs
-/

/-- Every step is lawful from the state in which the steps before left the database. -/
inductive LawfulRun (database : Database) :
    database.State → List (Step × Reply) → List StepReport → database.State → Prop where
  | done (state : database.State) : LawfulRun database state [] [] state
  | step {before middle after : database.State} {step : Step} {reply : Reply}
      {report : StepReport} {rest : List (Step × Reply)} {reports : List StepReport}
      (first : LawfulStep database reply before step report middle)
      (others : LawfulRun database middle rest reports after) :
      LawfulRun database before ((step, reply) :: rest) (report :: reports) after

theorem runSteps_lawful (database : Database) (steps : List (Step × Reply))
    (state : database.State) :
    LawfulRun database state steps (runSteps database steps state).1
      (runSteps database steps state).2 := by
  induction steps generalizing state with
  | nil => exact .done state
  | cons entry rest ih =>
      rcases entry with ⟨step, reply⟩
      exact .step (step.run_lawful database reply state) (ih _)

/-!
# What reaches a database
-/

/-- The same database, with a list of what has reached it. -/
abbrev Database.recording (database : Database) : Database where
  State := database.State × List Call
  initial := (database.initial, [])
  exchange action statement reply := fun (state, calls) =>
    let (exchange, state) := database.exchange action statement reply state
    (exchange, state, calls ++ [⟨action, statement⟩])

theorem Step.run_recording (database : Database) (reply : Reply) (step : Step)
    (state : database.State) (calls : List Call) :
    step.run database.recording reply (state, calls) =
      ((step.run database reply state).1, (step.run database reply state).2,
        calls ++ step.call?.toList) := by
  cases h : step.compiled with
  | error failure =>
      rw [Step.run_of_error h, Step.run_of_error h, Step.call?_of_error h]
      simp only [Option.toList_none, List.append_nil]
  | ok statement =>
      rw [Step.run_of_ok h, Step.run_of_ok h, Step.call?_of_ok h]
      rfl

theorem runSteps_recording (database : Database) (steps : List (Step × Reply))
    (state : database.State) (earlier : List Call) :
    runSteps database.recording steps (state, earlier) =
      ((runSteps database steps state).1, (runSteps database steps state).2,
        earlier ++ calls steps) := by
  induction steps generalizing state earlier with
  | nil => simp only [runSteps, calls, List.filterMap_nil, List.append_nil]
  | cons entry rest ih =>
      rcases entry with ⟨step, reply⟩
      simp only [runSteps, Step.run_recording, ih, calls_cons, List.append_assoc]

/-!
# No database
-/

/-- Without a database a step fails at the latest where its statement would be run. -/
def Step.withoutDatabase (step : Step) : StepReport :=
  match step.compiled with
  | .error failure => step.failing failure [] []
  | .ok statement => step.failing .noDatabase [.noDatabase step.action statement.text] []

theorem Step.run_absent (step : Step) (reply : Reply) (state : Database.absent.State) :
    step.run .absent reply state = (step.withoutDatabase, state) := by
  unfold Step.withoutDatabase
  cases h : step.compiled with
  | error failure => exact Step.run_of_error h
  | ok statement =>
      have hrefused : (Database.absent.exchange step.action statement reply state).1.outcome =
          .error .noDatabase := rfl
      have hreport := step.report_of_refused hrefused
      rw [Step.run_of_ok h]
      exact Prod.ext hreport rfl

theorem runSession_absent (steps : List (Step × Reply)) :
    runSession .absent steps = steps.map fun (step, _) => step.withoutDatabase := by
  unfold runSession
  generalize Database.absent.initial = state
  induction steps generalizing state with
  | nil => rfl
  | cons entry rest ih =>
      rcases entry with ⟨step, reply⟩
      simp only [runSteps, Step.run_absent, ih, List.map_cons]

/-!
# The law
-/

/-- Each step answers for itself, the database is asked for exactly the statements that compile,
and where there is none nothing is bound. -/
theorem session_follows_law (database : Database) (state : database.State)
    (steps : List (Step × Reply)) :
    LawfulRun database state steps (runSteps database steps state).1
        (runSteps database steps state).2 ∧
      runSteps database.recording steps (state, []) =
        ((runSteps database steps state).1, (runSteps database steps state).2, calls steps) ∧
      runSession .absent steps = steps.map fun (step, _) => step.withoutDatabase := by
  have hrecorded := runSteps_recording database steps state []
  rw [List.nil_append] at hrecorded
  exact ⟨runSteps_lawful database steps state, hrecorded, runSession_absent steps⟩

end Rowsmith
