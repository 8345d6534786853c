/- GID: DroidOs/Rocky/SharedDesk
   generality: I
   source: rocky/rockyctl, rocky/audit.py, rocky/executor.py
   digest: Any number of commands at work on one database, each call of the database on its own. -/

import DroidOs.Lib.Phases
import DroidOs.Rocky.Pipeline

set_option autoImplicit false
set_option relaxedAutoImplicit false

namespace DroidOs.Rocky.SharedDesk

open DroidOs.Lib.Procedure DroidOs.Lib.Interleaving DroidOs.Lib.Phases
open DroidOs.Lib.Interleaving.Coroutine (atomically)
open DroidOs.Core.Values
open Policy Executor Audit Pipeline

variable {σ α : Type} (text : PyText) (hex : Nat → String)

/-! The handling, cut at the calls of the database and of the executor. -/

/-- A value that is computed from what the process holds. -/
def known (r : Except Exn α) : Coroutine (Desk σ) Exn α := .done r

/-- `carryOut`, step by step. -/
def carryOutSteps (machine : Machine σ) (action : PyVal) (actionId : String) : Coroutine (Desk σ) Exn Reply := do
  let kind ← known (action.get "kind" (.str ""))
  let result ← atomically (perform text machine action kind actionId)
  let payload ← known (action.get "payload" (.dict []))
  atomically (recordToolCall hex actionId kind payload result)
  atomically (updateActionStatus actionId (if result.ok then "succeeded" else "failed"))
  atomically (log hex "execute" "executor" (strOf text kind ++ " exit=" ++ toString result.exitCode)
    [(.str "action_id", .str actionId), (.str "ok", .bool result.ok)])
  return .ran result

/-- `handleAction`, step by step. -/
def handleActionSteps (config : Config) (machine : Machine σ) (assumeYes : Bool) (action : PyVal) :
    Coroutine (Desk σ) Exn Reply := do
  let errors ← known (validateAction action)
  if !errors.isEmpty then
    atomically (log hex "schema_reject" "rockyctl" ("; ".intercalate errors) [(.str "action", action)])
    return .rejected errors
  let verdict ← known (Policy.decide text config action)
  let actionId ← atomically (recordAction hex action verdict)
  match verdict.decision with
  | .deny =>
    atomically (updateActionStatus actionId "denied")
    atomically (log hex "decision" "policy" ("deny: " ++ verdict.reason) [(.str "action_id", .str actionId)])
    return .denied verdict.reason actionId
  | .askUser =>
    if assumeYes then carryOutSteps text hex machine action actionId
    else
      atomically (updateActionStatus actionId "awaiting_confirmation")
      atomically (log hex "decision" "policy" ("ask_user: " ++ verdict.reason)
        [(.str "action_id", .str actionId)])
      return .needsConfirmation verdict.reason actionId
  | .allow => carryOutSteps text hex machine action actionId

private theorem run_known (r : Except Exn α) :
    (known r : Coroutine (Desk σ) Exn α).run = (ofExcept r : Proc (Desk σ) Exn α) := rfl

private theorem run_carryOutSteps (machine : Machine σ) (action : PyVal) (actionId : String) :
    (carryOutSteps text hex machine action actionId).run = carryOut text hex machine action actionId := by
  unfold carryOutSteps carryOut
  simp only [Coroutine.run_bind, Coroutine.run_atomically, Coroutine.run_pure, run_known]

/-- Alone at the database, a command does what the pipeline does. -/
theorem run_handleActionSteps (config : Config) (machine : Machine σ) (assumeYes : Bool) (action : PyVal) :
    (handleActionSteps text hex config machine assumeYes action).run =
      Audit.handleAction text hex config machine assumeYes action := by
  unfold handleActionSteps Audit.handleAction
  rw [Coroutine.run_bind, run_known]
  congr 1
  funext errors
  split
  · rw [Coroutine.run_bind, Coroutine.run_atomically]
    rfl
  rw [Coroutine.run_bind, run_known]
  congr 1
  funext verdict
  rw [Coroutine.run_bind, Coroutine.run_atomically]
  congr 1
  funext actionId
  cases verdict.decision with
  | allow => exact run_carryOutSteps text hex machine action actionId
  | deny =>
    dsimp only
    simp only [Coroutine.run_bind, Coroutine.run_atomically, Coroutine.run_pure]
  | askUser =>
    cases assumeYes with
    | true => exact run_carryOutSteps text hex machine action actionId
    | false =>
      dsimp only
      simp only [Bool.false_eq_true, if_false, Coroutine.run_bind, Coroutine.run_atomically, Coroutine.run_pure]

/-- A command of `rockyctl`: one that handles an action, or an entry that another one makes
in the log. -/
inductive Command
  | handle (action : PyVal) (assumeYes : Bool)
  | note (eventType actor message : String) (data : List (PyVal × PyVal))

/-- What the process of a command does at the database. -/
def Command.code (config : Config) (machine : Machine σ) : Command → Coroutine (Desk σ) Exn Unit
  | .handle action assumeYes => (handleActionSteps text hex config machine assumeYes action).void
  | .note eventType actor message data => atomically (log hex eventType actor message data)

end DroidOs.Rocky.SharedDesk
