/- GID: DroidOs/Executive/RunIntent
   generality: I
   source: src/droidos/executive/executive.py
   digest: The executive: one handler for each intent, and the run of an approved intent. -/

import DroidOs.Executive.Drive
import DroidOs.Language.Intent

set_option autoImplicit false
set_option relaxedAutoImplicit false

namespace DroidOs.Executive.RunIntent

open DroidOs.Lib.Procedure DroidOs.Lib.Interleaving
open DroidOs.Lib.Interleaving.Coroutine (atomically)
open DroidOs.Core.Values DroidOs.Core.States DroidOs.Core.Context
open DroidOs.Services.Lifecycle DroidOs.Services.SafetyGateway DroidOs.Services.Supervisor
open DroidOs.Language.Intent
open Drive

variable {ε : Type} (svc : Services ε) (reg : Registry (Runtime ε))

/-- `task.arguments.get(key, default)`. -/
def argument (task : Task) (key : String) (default : PyVal) : PyVal :=
  (PyVal.lookup key task.arguments).getD default

/-! Information handlers. -/

/-- `Diagnostics.hottest_actuator`, as `to_dict` shows it: the first of the hottest actuators. -/
def hottestActuator : Proc ε Exn (Option Items) := do
  match ← svc.readAllActuators with
  | [] => return none
  | first :: rest =>
    let hottest := rest.foldl (fun a b => if a.temperatureC.lt b.temperatureC then b else a) first
    let warn ← ofExcept (svc.body.limits.motorWarnTemp svc.text)
    let fault ← ofExcept (svc.body.limits.motorFaultTemp svc.text)
    let level := if fault.le hottest.temperatureC then "ERROR" else if warn.le hottest.temperatureC then "WARN" else "OK"
    return some
      [(.str "name", .str ("actuator/" ++ hottest.name ++ "/temperature")),
        (.str "level", .str level),
        (.str "message", .str (hottest.name ++ " at " ++ svc.text.fixed 1 hottest.temperatureC ++ " C")),
        (.str "hardware_id", .str ""),
        (.str "values", .dict [(.str "temperature_c", .float (hottest.temperatureC.round 1))])]

def hStatus (_ : Task) : Proc (Brain ε) Exn TaskResult := do
  let battery ← onRt (outside svc.battery)
  let readiness ← assessReadiness svc reg
  let hottest ← onRt (outside (hottestActuator svc))
  let machine ← reads fun m => m.rt.machine
  let safety ← onRt status
  return { ok := true, kind := "robot.get_status", data :=
    [(.str "name", .str svc.droidName),
      (.str "state", .str machine.state.value),
      (.str "body", .str svc.body.bodyId),
      (.str "battery_percent", .float battery.percent),
      (.str "motion_permitted", .bool machine.motionPermitted),
      (.str "inhibit_reasons", .list (readiness.inhibitReasons.map .str)),
      (.str "safety", .dict
        [(.str "alive", .bool safety.alive),
          (.str "estop_engaged", .bool safety.estopEngaged),
          (.str "power_enabled", .bool safety.powerEnabled),
          (.str "watchdog_ok", .bool safety.watchdogOk),
          (.str "faults", .list (safety.faults.map .str)),
          (.str "movement_permitted", .bool safety.movementPermitted)]),
      (.str "hottest_motor", match hottest with
        | some shown => .dict shown
        | none => .none)] }

def taskItems (t : Task) : Items :=
  [(.str "task_id", .str t.taskId), (.str "intent", .str t.intent), (.str "user", .str t.user),
    (.str "arguments", .dict t.arguments), (.str "state", .str t.state.value),
    (.str "steps", .list (t.steps.map .str))]

def hExplain (task : Task) : Proc (Brain ε) Exn TaskResult := do
  if (argument task "topic" (.str "why")).isKey "current_task" then
    let last ← reads fun m => m.rt.taskHistory.getLast?
    return { ok := true, kind := "robot.explain", data :=
      [(.str "topic", .str "current_task"),
        (.str "last_task", match last with
          | some t => .dict (taskItems t)
          | none => .none)] }
  let readiness ← assessReadiness svc reg
  let machine ← reads fun m => m.rt.machine
  let engaged ← onRt estopEngaged
  return { ok := true, kind := "robot.explain", data :=
    [(.str "topic", .str "why"), (.str "state", .str machine.state.value),
      (.str "inhibit_reasons", .list (readiness.inhibitReasons.map .str)),
      (.str "estop", .bool engaged)] }

/-- The gateway's own diagnostic is collected after the device readings. -/
def hDiagnostics (task : Task) : Proc (Brain ε) Exn TaskResult := do
  let _ ← onRt (outside (svc.tool "diagnostics.collect" task.arguments))
  let _ ← onRt diagnostics
  onRt (outside (svc.tool "diagnostics.summary" task.arguments))

/-- A handler that only reads or stores information. -/
def hTool (task : Task) : Proc (Brain ε) Exn TaskResult :=
  onRt (outside (svc.tool task.intent task.arguments))

/-! Safety and control handlers. -/

def hStop (_ : Task) : Proc (Brain ε) Exn TaskResult := do
  onRt (outside svc.stop)
  return { ok := true, kind := "motion.stop", data := [(.str "stopped", .bool true)] }

def hEstop (_ : Task) : Proc (Brain ε) Exn TaskResult := do
  onRt (engageEstop svc "voice_or_text_command")
  return { ok := true, kind := "motion.emergency_stop", data := [(.str "estop", .bool true)] }

/-- `Executive.cancel`. -/
def cancel : Proc (Runtime ε) Exn Unit := modify fun rt => { rt with cancelled := true }

def hCancel (_ : Task) : Proc (Brain ε) Exn TaskResult := do
  onRt cancel
  onRt (outside svc.stop)
  return { ok := true, kind := "task.cancel", data := [(.str "cancelled", .bool true)] }

def hSilence (_ : Task) : Proc (Brain ε) Exn TaskResult :=
  pure { ok := true, kind := "voice.silence", data := [(.str "silenced", .bool true)] }

/-- `st.transition(SAFE_IDLE)` from the states that permit motion. -/
def enterSafeIdle : Proc (Runtime ε) Exn Unit := do
  let machine ← reads Runtime.machine
  if machine.motionPermitted then transition .safeIdle "operator requested safe idle"

def hSafeIdle (_ : Task) : Proc (Brain ε) Exn TaskResult := do
  onRt (releaseMotionPermission svc)
  onRt enterSafeIdle
  let machine ← reads fun m => m.rt.machine
  let data := [(.str "state", .str machine.state.value)]
  return { ok := true, kind := "robot.return_safe_idle", data := data }

/-! Administrative handlers. -/

def hReboot (_ : Task) : Proc (Brain ε) Exn TaskResult :=
  pure { ok := true, kind := "system.request_reboot", data :=
    [(.str "note", .str "reboot requested (reference stub)")] }

def hShutdown (_ : Task) : Proc (Brain ε) Exn TaskResult := do
  requestShutdown svc reg
  let machine ← reads fun m => m.rt.machine
  let data := [(.str "state", .str machine.state.value)]
  return { ok := true, kind := "system.shutdown", data := data }

/-! Motion handlers. -/

def notKnown (dest : PyVal) : String := svc.text.repr dest ++ " is not a known place"

def hNavigate (task : Task) : Coroutine (Brain ε) Exn TaskResult := do
  let dest := argument task "destination" (.str "")
  match ← atomically (onRt (outside (svc.resolve dest))) with
  | none => return { ok := false, kind := "navigation.navigate_to", error := notKnown svc dest }
  | some goal =>
    let (ok, data, err) ← driveTo svc goal dest task.taskId
    let data := data ++ [(.str "destination", dest)]
    return { ok := ok, kind := "navigation.navigate_to", data := data, error := err }

/-- Docking, for a backend that can charge. -/
def dock : Proc ε Exn Items :=
  match svc.setCharging with
  | none => pure []
  | some setCharging => do
    setCharging true
    return [(.str "docked", .bool true)]

def hGoCharge (task : Task) : Coroutine (Brain ε) Exn TaskResult := do
  let station := PyVal.str "charging station"
  match ← atomically (onRt (outside (svc.resolve station))) with
  | none =>
    let error := "no charging station is known"
    return { ok := false, kind := "navigation.go_charge", error := error }
  | some goal =>
    let (ok, data, err) ← driveTo svc goal station task.taskId
    let docked ← atomically (onRt (outside (if ok then dock svc else pure [])))
    return { ok := ok, kind := "navigation.go_charge", data := data ++ docked, error := err }

/-- The inspection proper, where the droid stands. -/
def inspectTarget (task : Task) (drive : Items) : Proc (Brain ε) Exn TaskResult := do
  let target := argument task "target" (.str "")
  onRt (taskStep task.taskId ("inspect " ++ svc.text.str target))
  match ← attempt (onRt (outside (svc.inspect target))) with
  | .error e => return { ok := false, kind := "inspect.named_target", data := drive, error := e.msg }
  | .ok findings => return { ok := true, kind := "inspect.named_target", data := findings ++
      [(.str "destination", argument task "destination" .none)] ++
      (if drive.isEmpty then [] else [(.str "drive", .dict drive)]) }

def hInspect (task : Task) : Coroutine (Brain ε) Exn TaskResult := do
  let dest := argument task "destination" .none
  if dest.truthy then
    match ← atomically (onRt (outside (svc.resolve dest))) with
    | none => return { ok := false, kind := "inspect.named_target", error := notKnown svc dest }
    | some goal =>
      let (ok, drive, err) ← driveTo svc goal dest task.taskId
      if ok then atomically (inspectTarget svc task drive)
      else return { ok := false, kind := "inspect.named_target", data := drive, error := err }
  else atomically (inspectTarget svc task [])

/-! The registry of handlers and the run of an intent. -/

abbrev Handler (ε : Type) := Task → Coroutine (Brain ε) Exn TaskResult

/-- `_register_handlers`. -/
def handlers : List (String × Handler ε) :=
  [("robot.get_status", fun t => atomically (hStatus svc reg t)),
    ("robot.get_battery", fun t => atomically (hTool svc t)),
    ("robot.get_temperature", fun t => atomically (hTool svc t)),
    ("diagnostics.summary", fun t => atomically (hDiagnostics svc t)),
    ("robot.explain", fun t => atomically (hExplain svc reg t)),
    ("perception.describe_scene", fun t => atomically (hTool svc t)),
    ("navigation.list_places", fun t => atomically (hTool svc t)),
    ("help", fun t => atomically (hTool svc t)),
    ("motion.stop", fun t => atomically (hStop svc t)),
    ("motion.emergency_stop", fun t => atomically (hEstop svc t)),
    ("task.cancel", fun t => atomically (hCancel svc t)),
    ("voice.silence", fun t => atomically (hSilence t)),
    ("robot.return_safe_idle", fun t => atomically (hSafeIdle svc t)),
    ("navigation.navigate_to", hNavigate svc),
    ("navigation.go_charge", hGoCharge svc),
    ("inspect.named_target", hInspect svc),
    ("memory.remember", fun t => atomically (hTool svc t)),
    ("memory.store_place", fun t => atomically (hTool svc t)),
    ("memory.forget", fun t => atomically (hTool svc t)),
    ("system.set_body", fun t => atomically (hTool svc t)),
    ("system.install_update", fun t => atomically (hTool svc t)),
    ("system.request_reboot", fun t => atomically (hReboot t)),
    ("system.shutdown", fun t => atomically (hShutdown svc reg t))]

def unhandled (task : Task) : Coroutine (Brain ε) Exn TaskResult :=
  pure { ok := false, kind := task.intent, error := "no executive handler for this intent" }

/-- `self._handlers.get(intent, self._unhandled)`. -/
def handlerFor (intent : String) : Handler ε :=
  ((handlers svc reg).lookup intent).getD unhandled

/-- `f"task-{n:04d}"`. -/
def taskIdOf (n : Nat) : String :=
  let digits := toString n
  "task-" ++ String.ofList (List.replicate (4 - digits.length) '0') ++ digits

/-- The audit record of a task's start. -/
def startRecord (intent : StructuredIntent) (user taskId : String) : AuditRecord where
  kind := "task"
  user := some user
  requestText := some intent.rawText
  intent := some intent.intent
  arguments := some intent.arguments
  approval := some "approved"
  taskId := some taskId
  outcome := some "started"

/-- Create and start the task, and audit its start. -/
def startTask (intent : StructuredIntent) (user : String) : Proc (Runtime ε) Exn Task := do
  let arguments ← ofExcept intent.arguments.toDict
  let taskId ← reads fun rt => taskIdOf rt.nextTask
  let task : Task :=
    { intent := intent.intent, user := user, arguments := arguments, taskId := taskId,
      state := .running }
  modify fun rt => { rt with
    nextTask := rt.nextTask + 1
    currentTask := some taskId
    runningTasks := rt.runningTasks ++ [task]
    cancelled := false }
  outside (svc.emit (startRecord intent user taskId))
  return task

/-- `task.finish` takes a cancellation for a success like any other. -/
def finishState (result : TaskResult) : TaskState :=
  if result.ok then .succeeded
  else if result.kind = "task.cancel" ∧ result.ok = true then .cancelled else .failed

/-- Finish the task, append it to the history and audit its end. -/
def finishTask (task : Task) (user : String) (result : TaskResult) :
    Proc (Runtime ε) Exn TaskResult := do
  let state := finishState result
  modify fun rt => { rt with
    runningTasks := rt.runningTasks.filter fun t => t.taskId ≠ task.taskId
    taskHistory := rt.taskHistory ++
      [{ ((rt.runningTasks.find? fun t => t.taskId = task.taskId).getD task) with state := state }] }
  let machine ← reads Runtime.machine
  outside (svc.emit
    { kind := "task", user := some user, intent := some task.intent, taskId := some task.taskId,
      outcome := some state.value, reason := some result.error,
      safetyState := some machine.state.value })
  modify fun rt => { rt with currentTask := none }
  return { result with taskId := task.taskId }

/-- `run_intent`. An exception of the handler becomes a failed result. -/
def runIntent (intent : StructuredIntent) (user : String) :
    Coroutine (Brain ε) Exn TaskResult := do
  let task ← atomically (onRt (startTask svc intent user))
  let outcome ← Coroutine.attempt (handlerFor svc reg intent.intent task)
  let result := match outcome with
    | .ok result => result
    | .error e => { ok := false, kind := intent.intent, error := e.describe }
  atomically (onRt (finishTask svc task user result))

end DroidOs.Executive.RunIntent
