/- GID: DroidOs/Rocky/Audit
   generality: I
   source: rocky/audit.py, rocky/executor.py, rocky/rockyctl
   digest: The audit tables, and the handling of a proposed action with all that it records. -/

import DroidOs.Rocky.Executor

set_option autoImplicit false
set_option relaxedAutoImplicit false

namespace DroidOs.Rocky.Audit

open DroidOs.Lib.Procedure
open DroidOs.Core.Values
open Policy Executor

/-! The tables, without their time stamps. A column of JSON text holds the value itself. -/

structure ActionRow where
  id : String
  kind : PyVal
  risk : PyVal
  needsConfirmation : Bool
  payload : PyVal
  status : String
  decision : Decision
  reason : String

structure ToolCall where
  id : String
  actionId : String
  toolName : PyVal
  input : PyVal
  output : PyVal
  exitCode : Int

structure LogRow where
  id : String
  eventType : String
  actor : String
  message : String
  data : PyVal

structure Tables where
  actions : List ActionRow := []
  toolCalls : List ToolCall := []
  auditLog : List LogRow := []
  /-- How many identifiers have been drawn. -/
  drawn : Nat := 0

/-- Something was executed for an action, when these rows had been recorded. -/
structure Execution where
  actionId : String
  effect : Effect
  recorded : List ActionRow

/-- The database, the machine around it (`σ`), and what was executed. -/
structure Desk (σ : Type) where
  tables : Tables
  world : σ
  executions : List Execution := []

/-- What the machine does: how a started program ends, and what any other effect gives as
its output. -/
structure Machine (σ : Type) where
  start : PyVal → List String → σ → Except Exn (Int × String × String) × σ
  act : PyVal → Effect → σ → Except Exn PyVal × σ

variable {σ : Type} (text : PyText) (hex : Nat → String)

/-! Rows. Every call of the database succeeds. -/

/-- `new_id(prefix)`, with the hexadecimal digits that are drawn. -/
def newId (label : String) : Proc (Desk σ) Exn String := fun s =>
  (.ok (label ++ "_" ++ hex s.tables.drawn), { s with tables := { s.tables with drawn := s.tables.drawn + 1 } })

/-- `log`. -/
def log (eventType actor message : String) (data : List (PyVal × PyVal)) : Proc (Desk σ) Exn Unit := do
  let id ← newId hex "ev"
  modify fun s => { s with tables := { s.tables with
    auditLog := s.tables.auditLog ++ [⟨id, eventType, actor, message, .dict data⟩] } }

/-- `record_action`. -/
def recordAction (action : PyVal) (verdict : Verdict) : Proc (Desk σ) Exn String := do
  let id ← newId hex "act"
  let kind ← ofExcept (action.get "kind" (.str ""))
  let risk ← ofExcept (action.get "risk" (.str ""))
  let asks ← ofExcept (action.get "needs_confirmation" .none)
  let payload ← ofExcept (action.get "payload" (.dict []))
  modify fun s => { s with tables := { s.tables with
    actions := s.tables.actions ++
      [⟨id, kind, risk, asks.truthy, payload, "proposed", verdict.decision, verdict.reason⟩] } }
  return id

/-- The row with a new status, if it is the row of that action. -/
def ActionRow.restatus (id status : String) (row : ActionRow) : ActionRow :=
  if row.id = id then { row with status := status } else row

/-- `update_action_status`. -/
def updateActionStatus (id status : String) : Proc (Desk σ) Exn Unit :=
  modify fun s => { s with tables := { s.tables with
    actions := s.tables.actions.map (ActionRow.restatus id status) } }

/-! Results. -/

/-- What `run` returns. -/
structure Result where
  ok : Bool
  actionId : String
  kind : PyVal
  exitCode : Int
  stdout : PyVal
  stderr : String

/-- `_ok`. -/
def succeeded (actionId : String) (kind stdout : PyVal) : Result := ⟨true, actionId, kind, 0, stdout, ""⟩

/-- `_fail`. -/
def failed (actionId : String) (kind : PyVal) (stderr : String) : Result :=
  ⟨false, actionId, kind, 1, .str "", stderr⟩

/-- How the attempt to start a program is reported. -/
def startResult (actionId : String) (kind : PyVal) (argv : List String) :
    Except Exn (Int × String × String) → Result
  | .ok (code, out, err) => ⟨code == 0, actionId, kind, code, .str out, err⟩
  | .error e =>
    if e.cls = .other "FileNotFoundError" then failed actionId kind ("command not found: " ++ argv.headD "")
    else if e.cls = .other "TimeoutExpired" then failed actionId kind "command timed out"
    else failed actionId kind e.describe

/-- How any other effect is reported. -/
def actResult (actionId : String) (kind : PyVal) : Except Exn PyVal → Result
  | .ok out => succeeded actionId kind out
  | .error e => failed actionId kind e.describe

/-- `run`, for an action whose kind is `kind`: a handler that only fails touches nothing. -/
def perform (machine : Machine σ) (action kind : PyVal) (actionId : String) : Proc (Desk σ) Exn Result :=
  fun s =>
    let effect := Executor.run text action
    let execution : Execution := ⟨actionId, effect, s.tables.actions⟩
    match effect with
    | .fail error => (.ok (failed actionId kind error), s)
    | .start argv =>
      let ended := machine.start action argv s.world
      (.ok (startResult actionId kind argv ended.1),
        { s with world := ended.2, executions := s.executions ++ [execution] })
    | other =>
      let ended := machine.act action other s.world
      (.ok (actResult actionId kind ended.1),
        { s with world := ended.2, executions := s.executions ++ [execution] })

/-- `record_tool_call`, for the result of a run. -/
def recordToolCall (actionId : String) (toolName input : PyVal) (result : Result) : Proc (Desk σ) Exn Unit := do
  let id ← newId hex "tc"
  let output := PyVal.dict [(.str "ok", .bool result.ok), (.str "exit_code", .int result.exitCode),
    (.str "stdout", result.stdout), (.str "stderr", .str result.stderr)]
  modify fun s => { s with tables := { s.tables with
    toolCalls := s.tables.toolCalls ++ [⟨id, actionId, toolName, input, output, result.exitCode⟩] } }

/-! Handling an action. -/

inductive Reply
  | rejected (errors : List String)
  | denied (reason actionId : String)
  | needsConfirmation (reason actionId : String)
  | ran (result : Result)

/-- What `handle_action` does with an action that may run. -/
def carryOut (machine : Machine σ) (action : PyVal) (actionId : String) : Proc (Desk σ) Exn Reply := do
  let kind ← ofExcept (action.get "kind" (.str ""))
  let result ← perform text machine action kind actionId
  let payload ← ofExcept (action.get "payload" (.dict []))
  recordToolCall hex actionId kind payload result
  updateActionStatus actionId (if result.ok then "succeeded" else "failed")
  log hex "execute" "executor" (strOf text kind ++ " exit=" ++ toString result.exitCode)
    [(.str "action_id", .str actionId), (.str "ok", .bool result.ok)]
  return .ran result

/-- `handle_action`. -/
def handleAction (config : Config) (machine : Machine σ) (assumeYes : Bool) (action : PyVal) :
    Proc (Desk σ) Exn Reply := do
  let errors ← ofExcept (validateAction action)
  if !errors.isEmpty then
    log hex "schema_reject" "rockyctl" ("; ".intercalate errors) [(.str "action", action)]
    return .rejected errors
  let verdict ← ofExcept (Policy.decide text config action)
  let actionId ← recordAction hex action verdict
  match verdict.decision with
  | .deny =>
    updateActionStatus actionId "denied"
    log hex "decision" "policy" ("deny: " ++ verdict.reason) [(.str "action_id", .str actionId)]
    return .denied verdict.reason actionId
  | .askUser =>
    if assumeYes then carryOut text hex machine action actionId
    else
      updateActionStatus actionId "awaiting_confirmation"
      log hex "decision" "policy" ("ask_user: " ++ verdict.reason) [(.str "action_id", .str actionId)]
      return .needsConfirmation verdict.reason actionId
  | .allow => carryOut text hex machine action actionId

end DroidOs.Rocky.Audit
