/- GID: DroidOs/Core/Context
   generality: I
   source: src/droidos/system.py, src/droidos/core/logging.py, src/droidos/core/events.py, src/droidos/executive/tasks.py, src/droidos/backends/base.py
   digest: The context every service shares, and the calls it makes outside the supervised core. -/

import DroidOs.Core.States
import DroidOs.Body.Package
import DroidOs.Backends.SafetyController

set_option autoImplicit false
set_option relaxedAutoImplicit false

namespace DroidOs.Core.Context

open DroidOs.Lib.Procedure
open Values States
open DroidOs.Body.Package
open DroidOs.Backends.SafetyController

abbrev Items := List (PyVal × PyVal)

/-- `AuditRecord`, without its time stamp. -/
structure AuditRecord where
  kind : String
  user : Option String := none
  requestText : Option String := none
  intent : Option String := none
  arguments : Option PyVal := none
  approval : Option String := none
  reason : Option String := none
  taskId : Option String := none
  outcome : Option String := none
  safetyState : Option String := none
  detail : Option Items := none

structure Event where
  topic : String
  payload : Items
  source : String := ""

structure BatteryState where
  percent : PyFloat
  charging : Bool := false

structure ActuatorState where
  name : String
  temperatureC : PyFloat := 25
  faultCode : String := ""
  commErrors : PyVal := .int 0

structure SensorReading where
  sensorId : String
  type : String
  ok : Bool := true
  rateHz : PyFloat := 0

/-! Tasks. -/

inductive TaskState
  | created | running | succeeded | failed | cancelled
  deriving DecidableEq

def TaskState.value : TaskState → String
  | created => "created"
  | running => "running"
  | succeeded => "succeeded"
  | failed => "failed"
  | cancelled => "cancelled"

structure Task where
  intent : String
  user : String
  arguments : Items
  taskId : String
  state : TaskState := .created
  steps : List String := []

structure TaskResult where
  ok : Bool
  kind : String
  data : Items := []
  error : String := ""
  taskId : String := ""

/-- What the supervised core calls but does not contain: the backend, the motion,
navigation and perception services, the handlers that only read or store
information, the audit log and the event bus. `ε` is their common state. -/
structure Services (ε : Type) where
  text : PyText
  droidName : String
  body : LoadedBody
  backendKind : String
  connect : Proc ε Exn Unit
  shutdown : Proc ε Exn Unit
  setPower : Bool → Proc ε Exn Unit
  powerEnabled : ε → Bool
  battery : Proc ε Exn BatteryState
  actuatorNames : ε → List String
  readAllActuators : Proc ε Exn (List ActuatorState)
  readSensor : String → Proc ε Exn SensorReading
  pose : Proc ε Exn Pose
  /-- Absent for a backend without the method. -/
  busOnline : Option (Proc ε Exn Bool)
  setCharging : Option (Bool → Proc ε Exn Unit)
  resolve : PyVal → Proc ε Exn (Option Pose)
  knownPlaces : Proc ε Exn (List String)
  traversable : PyVal → Proc ε Exn (Bool × String)
  localizationOk : Proc ε Exn Bool
  isPathBlocked : Proc ε Exn (Bool × Option PyFloat)
  setObstacle : PyFloat → PyFloat → Proc ε Exn Unit
  velocityToward : Pose → Pose → Proc ε Exn (BodyVelocity × PyFloat)
  drive : BodyVelocity → PyFloat → Proc ε Exn Unit
  stop : Proc ε Exn Unit
  inspect : PyVal → Proc ε Exn Items
  tool : String → Items → Proc ε Exn TaskResult
  /-- What the `_on_configure` of a service that overrides it does before it returns True. -/
  configure : String → Proc ε Exn Unit
  emit : AuditRecord → Proc ε Exn Unit
  publish : Event → Proc ε Exn Unit

/-- A world that answers every call and in which no call has an effect. -/
def inert (text : PyText) (body : LoadedBody) : Services Unit where
  text := text
  droidName := "IG-12"
  body := body
  backendKind := "simulation"
  connect := pure ()
  shutdown := pure ()
  setPower := fun _ => pure ()
  powerEnabled := fun _ => false
  battery := pure { percent := 100 }
  actuatorNames := fun _ => body.manifest.requiredActuators
  readAllActuators := pure []
  readSensor := fun id => pure { sensorId := id, type := "unknown" }
  pose := pure {}
  busOnline := none
  setCharging := none
  resolve := fun _ => pure none
  knownPlaces := pure []
  traversable := fun _ => pure (true, "reachable")
  localizationOk := pure true
  isPathBlocked := pure (false, none)
  setObstacle := fun _ _ => pure ()
  velocityToward := fun _ _ => pure ({}, 0)
  drive := fun _ _ => pure ()
  stop := pure ()
  inspect := fun _ => pure []
  tool := fun intent _ => pure { ok := true, kind := intent }
  configure := fun _ => pure ()
  emit := fun _ => pure ()
  publish := fun _ => pure ()

/-! The latch file. -/

/-- What reading safety_latch.json gives. -/
inductive LatchFile
  | missing
  | unreadable
  | undecodable
  | malformed
  | document (v : PyVal)

/-- How a write of the latch file goes. -/
inductive LatchWrite
  | succeeds
  | failsAtOpen
  | failsWriting (leaves : LatchFile)

/-! The supervisor's and the executive's own fields. -/

structure BootStep where
  name : String
  ok : Bool
  detail : String := ""

structure Readiness where
  state : DroidState := .poweredOff
  inhibitReasons : List String := []
  degradedReasons : List String := []

inductive EstopCall
  | engaged | reset
  deriving DecidableEq

/-- The mutable context of one process. `runningTasks` are the task objects that
a call of `run_intent` still holds. The ghost field `estopCalls` lists the
completed calls of `engage_estop` and `reset_estop`; no decision reads it. -/
structure Runtime (ε : Type) where
  now : ℚ
  controller : SimulatedSafetyController
  token : String := ""
  latch : LatchFile := .missing
  latchWrite : LatchWrite := .succeeds
  machine : StateMachine := {}
  bootReport : List BootStep := []
  readiness : Readiness := {}
  currentTask : Option String := none
  runningTasks : List Task := []
  taskHistory : List Task := []
  cancelled : Bool := false
  /-- The number of the next task. -/
  nextTask : Nat := 1
  estopCalls : List EstopCall := []
  env : ε

variable {ε α : Type}

/-- A call of an outside service. -/
def outside (p : Proc ε Exn α) : Proc (Runtime ε) Exn α :=
  zoom Runtime.env (fun env rt => { rt with env := env }) p

def onController (f : SimulatedSafetyController → SimulatedSafetyController) :
    Proc (Runtime ε) Exn Unit :=
  modify fun rt => { rt with controller := f rt.controller }

def transition (dst : DroidState) (reason : String) : Proc (Runtime ε) Exn Unit := fun rt =>
  match rt.machine.transition dst reason with
  | .ok machine => (.ok (), { rt with machine := machine })
  | .error e => (.error e, rt)

def force (dst : DroidState) (reason : String) : Proc (Runtime ε) Exn Unit :=
  modify fun rt => { rt with machine := rt.machine.force dst reason }

@[simp] theorem outside_run (p : Proc ε Exn α) (rt : Runtime ε) :
    outside p rt = ((p rt.env).1, { rt with env := (p rt.env).2 }) := rfl

@[simp] theorem onController_run (f : SimulatedSafetyController → SimulatedSafetyController)
    (rt : Runtime ε) :
    onController f rt = (.ok (), { rt with controller := f rt.controller }) := rfl

@[simp] theorem force_run (dst : DroidState) (reason : String) (rt : Runtime ε) :
    force dst reason rt = (.ok (), { rt with machine := rt.machine.force dst reason }) := rfl

/-- A transition changes the state machine only, and only towards its target. -/
theorem transition_after (dst : DroidState) (reason : String) (rt : Runtime ε) :
    ∃ machine : StateMachine, (transition dst reason rt).2 = { rt with machine := machine } ∧
      (machine = rt.machine ∨ machine.state = dst) := by
  unfold transition
  rcases taken : rt.machine.transition dst reason with e | machine
  · exact ⟨rt.machine, rfl, Or.inl rfl⟩
  · exact ⟨machine, rfl, Or.inr (StateMachine.transition_state taken)⟩

/-- A step along the graph is taken. -/
theorem transition_legal {dst : DroidState} {reason : String} {rt : Runtime ε}
    (moves : dst ≠ rt.machine.state) (legal : dst ∈ rt.machine.state.transitions) :
    transition dst reason rt = (.ok (), { rt with machine := rt.machine.enter dst reason }) := by
  simp [transition, StateMachine.transition, StateMachine.canTransition, moves, legal]

end DroidOs.Core.Context
