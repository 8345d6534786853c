/- GID: DroidOs/Executive/Drive
   generality: I
   source: src/droidos/executive/executive.py
   digest: The driving task, one atomic step for each tick of its loop. -/

import DroidOs.Executive.BehaviourTree
import DroidOs.Services.Supervisor

set_option autoImplicit false
set_option relaxedAutoImplicit false

namespace DroidOs.Executive.Drive

open DroidOs.Lib.Procedure DroidOs.Lib.Interleaving
open DroidOs.Lib.Interleaving.Coroutine (atomically)
open DroidOs.Core.Values DroidOs.Core.States DroidOs.Core.Context
open DroidOs.Services.Lifecycle DroidOs.Services.SafetyGateway DroidOs.Services.Supervisor
open BehaviourTree

def driveDt : PyFloat := .fin (1 / 10)
def arrivalM : PyFloat := .fin (15 / 100)
def maxDriveTicks : Nat := 3000

/-- The variables that the closures of `_drive_to` share: `permission["held"]` and
the entries of `data`. -/
structure DriveData where
  label : PyVal
  held : Bool := false
  permission : Option MotionPermission := none
  remaining : Option PyFloat := none
  result : Option String := none
  stoppedDistance : Option PyVal := none

/-- The dictionary that `_drive_to` returns. -/
def DriveData.items (d : DriveData) : Items :=
  [(.str "label", d.label)] ++
  (d.permission.map fun p => (.str "motion_permission", .dict
    [(.str "granted", .bool p.granted), (.str "reason", .str p.reason),
      (.str "token", .str p.token)])).toList ++
  (d.remaining.map fun r => (.str "remaining_m", .float r)).toList ++
  (d.result.map fun r => (.str "result", .str r)).toList ++
  (d.stoppedDistance.map fun r => (.str "stopped_distance_m", r)).toList

variable {ε : Type} (svc : Services ε)

/-- `task.step(label)`, on the task object that the running call holds. -/
def taskStep (taskId : String) (label : String) : Proc (Runtime ε) Exn Unit :=
  modify fun rt => { rt with
    runningTasks := rt.runningTasks.map fun t =>
      if t.taskId = taskId then { t with steps := t.steps ++ [label] } else t }

def acquire (d : DriveData) : Proc (Runtime ε) Exn (Status × DriveData) := do
  let perm ← requestMotionPermission svc
  return (.ofBool perm.granted, { d with permission := some perm, held := perm.granted })

def enterActive (d : DriveData) : Proc (Runtime ε) Exn (Status × DriveData) := do
  let machine ← reads Runtime.machine
  if machine.state = .ready ∨ machine.state = .degraded then
    transition .active ("navigate to " ++ svc.text.str d.label)
  return (.success, d)

/-- Note the obstacle that stopped the drive. -/
def noteObstacle (dist : PyFloat) : Proc ε Exn Unit := do
  let ahead ← svc.pose
  let here ← svc.pose
  svc.setObstacle (ahead.x + dist) here.y

/-- One round of the loop in `drive`; no status means that the loop goes on. -/
def driveTick (goal : Pose) (d : DriveData) : Proc (Runtime ε) Exn (Option Status × DriveData) := do
  if ← reads Runtime.cancelled then
    return (some .failure, { d with result := some "cancelled" })
  if !(← outside svc.localizationOk) then
    return (some .failure, { d with result := some "localization_lost" })
  let (blocked, dist) ← outside svc.isPathBlocked
  if blocked then
    if let some dist := dist then outside (noteObstacle svc dist)
    return (some .failure, { d with
      result := some "blocked"
      stoppedDistance := some (match dist with
        | some x => if x.truthy then .float (x.round 1) else .none
        | none => .none) })
  let here ← outside svc.pose
  let (vel, remaining) ← outside (svc.velocityToward goal here)
  let d := { d with remaining := some (remaining.round 2) }
  if remaining.le arrivalM then return (some .success, { d with result := some "arrived" })
  outside (svc.drive vel driveDt)
  return (none, d)

/-- The loop of `drive` with a number of rounds left. -/
def driveLoop (goal : Pose) : Nat → DriveData → Coroutine (Brain ε) Exn (Status × DriveData)
  | 0, d => pure (.failure, { d with result := some "timeout" })
  | n + 1, d => do
    let (ended, d) ← atomically (onRt (driveTick svc goal d))
    match ended with
    | some status => return (status, d)
    | none => driveLoop goal n d

/-- The children of the `navigate` sequence. -/
def navigateActions (goal : Pose) : List (Action (Brain ε) Exn DriveData) :=
  [{ name := "acquire_motion_permission", body := fun d => atomically (onRt (acquire svc d)) },
    { name := "enter_active", body := fun d => atomically (onRt (enterActive svc d)) },
    { name := "drive_to_goal", body := driveLoop svc goal maxDriveTicks }]

/-- What follows the tree: release power and settle the state. -/
def endDrive (held : Bool) : Proc (Runtime ε) Exn Unit := do
  if held then releaseMotionPermission svc
  let machine ← reads Runtime.machine
  if machine.state = .active then transition .ready "task complete"

/-- Why a drive that did not arrive says it failed. -/
def driveReason (d : DriveData) (lastFailed : String) : String :=
  let label := svc.text.str d.label
  let reason :=
    if d.result = some "blocked" then "the route to " ++ label ++ " is blocked; I stopped " ++
      svc.text.str (d.stoppedDistance.getD (.str "?")) ++ " m from the obstruction"
    else if d.result = some "localization_lost" then
      "I am no longer sufficiently certain of my position to continue"
    else if d.result = some "cancelled" then "the task was cancelled"
    else if d.result = some "timeout" then
      "I could not reach " ++ label ++ " within the movement budget"
    else if lastFailed = "" then "navigation failed" else lastFailed
  if d.held then reason else (d.permission.map MotionPermission.reason).getD reason

/-- `_drive_to`. -/
def driveTo (goal : Pose) (label : PyVal) (taskId : String) :
    Coroutine (Brain ε) Exn (Bool × Items × String) := do
  atomically (onRt (taskStep taskId "check health"))
  atomically (onRt (taskStep taskId ("navigate to " ++ svc.text.str label)))
  let (status, lastFailed, d) ← runTree (navigateActions svc goal) 10000 { label := label }
  atomically (onRt (endDrive svc d.held))
  if status = .success then return (true, d.items, "")
  else return (false, d.items, driveReason svc d lastFailed)

/-- Entering ACTIVE never fails: it is tried from READY and DEGRADED alone. -/
theorem enterActive_run (d : DriveData) (rt : Runtime ε) :
    ∃ machine : StateMachine, enterActive svc d rt = (.ok (.success, d), { rt with machine := machine }) ∧
      (machine.state = .active ↔
        rt.machine.state = .ready ∨ rt.machine.state = .degraded ∨ rt.machine.state = .active) := by
  unfold enterActive
  rw [reads_bind]
  by_cases begins : rt.machine.state = .ready ∨ rt.machine.state = .degraded
  · rw [if_pos begins]
    have run : transition .active ("navigate to " ++ svc.text.str d.label) rt =
        (.ok (), { rt with
          machine := rt.machine.enter .active ("navigate to " ++ svc.text.str d.label) }) := by
      rcases begins with st | st <;> exact transition_legal (by simp [st]) (by simp [st, DroidState.transitions])
    refine ⟨_, bind_ok run, ?_⟩
    simp only [StateMachine.enter_state, true_iff]
    rcases begins with st | st
    · exact Or.inl st
    · exact Or.inr (Or.inl st)
  · rw [if_neg begins]
    refine ⟨rt.machine, rfl, ?_⟩
    rw [not_or] at begins
    simp [begins.1, begins.2]

end DroidOs.Executive.Drive
