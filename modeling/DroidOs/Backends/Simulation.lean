/- GID: DroidOs/Backends/Simulation
   generality: I
   source: src/droidos/backends/simulation.py, src/droidos/backends/mock_hardware.py, src/droidos/backends/base.py
   digest: The simulated body: kinematics, thermal and battery models, injected faults. -/

import DroidOs.Core.Context

set_option autoImplicit false
set_option relaxedAutoImplicit false

namespace DroidOs.Backends.Simulation

open DroidOs.Lib.Procedure
open DroidOs.Core.Values DroidOs.Core.Context
open DroidOs.Body.Package

def ambientC : PyFloat := 25
def movingMotorEquilibriumC : PyFloat := 62
def coolRate : PyFloat := .fin (1 / 25)
def heatRate : PyFloat := .fin (2 / 25)

/-- `SimulationBackend`, and `MockHardwareBackend` with its bus. Temperatures and
joint positions are kept for the listed actuators. -/
structure SimulationBackend where
  pose : Pose := {}
  power : Bool := false
  battery : PyFloat := 78
  charging : Bool := false
  actuators : List String
  temps : String → PyVal := fun _ => .float ambientC
  positions : String → PyFloat := fun _ => 0
  lastCmd : BodyVelocity := {}
  timeSinceCmd : PyFloat := 999
  faults : List (String × Items) := []
  connected : Bool := false
  busOnline : Bool := true

namespace SimulationBackend

/-- `__init__`. -/
def new (body : LoadedBody) : SimulationBackend where
  actuators :=
    if body.manifest.requiredActuators.isEmpty then ["drive"] else body.manifest.requiredActuators

variable (text : PyText) (math : Libm) (body : LoadedBody) (b : SimulationBackend)

/-! Lifecycle and power. -/

/-- `connect`, for a mock that also brings its bus up. -/
def connect : SimulationBackend :=
  let offline := match b.faults.lookup "bus_offline" with
    | some params => !params.isEmpty
    | none => false
  { b with connected := true, power := false, busOnline := b.busOnline && !offline }

def shutdown : SimulationBackend := { b with power := false, connected := false }

def setPower (enabled : Bool) : SimulationBackend := { b with power := enabled }

/-! Injected faults. -/

/-- A parameter of an injected fault. -/
def faultParam (kind key : String) : Option PyVal := do
  PyVal.lookup key (← b.faults.lookup kind)

/-- `inject_fault`. -/
def injectFault (kind : String) (params : Items) : SimulationBackend :=
  let params := if params.isEmpty then [(.str "active", .bool true)] else params
  { b with
    faults := (kind, params) :: b.faults.filter fun fault => fault.1 ≠ kind
    busOnline := b.busOnline && kind ≠ "bus_offline" }

def clearFaults : SimulationBackend := { b with faults := [], busOnline := true }

/-! Commands. -/

/-- `max(-limit, min(limit, v))`. -/
def clamp (limit v : PyFloat) : PyFloat := PyFloat.max (-limit) (PyFloat.min limit v)

/-- `limits.max_linear() or capabilities.max_speed() or 0.3`. -/
def maxLinear (body : LoadedBody) : Except Exn PyFloat := do
  let limit ← body.limits.maxLinear text
  if limit.truthy then return limit
  return (← body.capabilities.maxSpeed text).orElse (.fin (3 / 10))

/-- `limits.max_angular() or 0.8`. -/
def maxAngular (body : LoadedBody) : Except Exn PyFloat := do
  return (← body.limits.maxAngular text).orElse (.fin (4 / 5))

/-- The pose after moving at `v` for `dt`. -/
def integrate (p : Pose) (v : BodyVelocity) (dt : PyFloat) : Pose where
  x := p.x + (v.linearX * math.cos p.theta - v.linearY * math.sin p.theta) * dt
  y := p.y + (v.linearX * math.sin p.theta + v.linearY * math.cos p.theta) * dt
  theta := wrap (p.theta + v.angularZ * dt)

/-- `command_velocity`: no effect while motor power is disabled. -/
def commandVelocity (vel : BodyVelocity) (dt : PyFloat) : Except Exn SimulationBackend := do
  if !b.power then return b
  let maxLin ← maxLinear text body
  let maxAng ← maxAngular text body
  let v : BodyVelocity :=
    { linearX := clamp maxLin vel.linearX, linearY := clamp maxLin vel.linearY,
      angularZ := clamp maxAng vel.angularZ }
  return { b with pose := integrate math b.pose v dt, lastCmd := v, timeSinceCmd := 0 }

/-- One joint target, kept for a listed actuator. -/
def trackJoint (target : PyVal × PyFloat) : SimulationBackend :=
  match target.1 with
  | .str joint =>
    if joint ∈ b.actuators then { b with positions := Function.update b.positions joint target.2 }
    else b
  | _ => b

/-- `command_joints`. -/
def commandJoints (targets : List (PyVal × PyFloat)) : SimulationBackend :=
  if !b.power then b else targets.foldl trackJoint b

def moving : Bool := b.power && b.timeSinceCmd.lt (.fin (1 / 2)) && !b.lastCmd.isZero

/-- The joint and temperature of an injected overheating. -/
def overheat : Option (PyVal × PyVal) := do
  let params ← b.faults.lookup "motor_overheat"
  if params.isEmpty then none
  else some ((PyVal.lookup "joint" params).getD (.str (b.actuators.headD "")),
    (PyVal.lookup "temp" params).getD (.float 88))

/-- The temperature of one motor after `dt`. -/
def warm (dt : PyFloat) (temp : PyVal) : Except Exn PyVal := do
  let temp ← temp.number
  let target := if b.moving then movingMotorEquilibriumC else ambientC
  let rate := if b.moving then heatRate else coolRate
  return .float (temp + (target - temp) * PyFloat.min 1 (rate * dt))

/-- One round of the loop over the motors. -/
def warmActuator (dt : PyFloat) (name : String) : Proc SimulationBackend Exn Unit := do
  let temp ← ofExcept (← reads fun b => b.warm dt (b.temps name))
  modify fun b => { b with temps := Function.update b.temps name temp }

/-- Keep the temperature of an injected overheating. -/
def applyOverheat : Proc SimulationBackend Exn Unit := do
  match ← reads overheat with
  | some (.str joint, temp) => modify fun b => { b with temps := Function.update b.temps joint temp }
  | some (joint, _) => if joint.hashable then pure () else raise ⟨.typeError, "unhashable type"⟩
  | none => pure ()

/-- Charge or drain the battery over `dt`. -/
def drainBattery (dt : PyFloat) : SimulationBackend :=
  let drain := (if b.moving then .fin (1 / 50) else .fin (1 / 250)) * dt
  { b with battery := if b.charging then PyFloat.min 100 (b.battery + .fin (1 / 2) * dt)
    else PyFloat.max 0 (b.battery - drain) }

/-- `step`. An injected temperature that is no number makes the next step raise. -/
def step (dt : PyFloat) : Proc SimulationBackend Exn Unit := do
  modify fun b => { b with timeSinceCmd := b.timeSinceCmd + dt }
  forEach (← reads actuators) (warmActuator dt)
  applyOverheat
  modify fun b => b.drainBattery dt

/-! Reads. -/

/-- The temperature that `read_actuator` reports, an injected one at once. -/
def temperature (name : String) : PyVal :=
  match b.overheat with
  | some (joint, temp) => if joint.isKey name then temp else b.temps name
  | none => b.temps name

def readActuator (name : String) : Except Exn ActuatorState := do
  let temp ← (b.temperature name).number
  let fault ← body.limits.motorFaultTemp text
  let _ ← body.limits.battery.get "nominal_voltage" (.float 36)
  return {
    name := name
    temperatureC := temp
    faultCode := if fault.le temp then "OVERTEMP" else ""
    commErrors := if ((b.faultParam "comm_error" "joint").getD .none).isKey name
      then (b.faultParam "comm_error" "count").getD (.int 5) else .int 0 }

/-- `read_all_actuators`. -/
def readAllActuators : Except Exn (List ActuatorState) := b.actuators.mapM (b.readActuator text body)

/-- `battery`; the voltage it also reports takes part in no decision. -/
def readBattery : Except Exn BatteryState := do
  let _ ← (← body.limits.battery.get "nominal_voltage" (.float 36)).number
  return { percent := b.battery, charging := b.charging }

/-- Whether an injected dropout silences the sensor. -/
def droppedOut (sensorId : String) : Bool :=
  match b.faultParam "sensor_dropout" "sensor" with
  | some v => v.isKey sensorId || v.isKey "*"
  | none => false

def readSensor (sensorId : String) : Except Exn SensorReading := do
  let spec := body.sensors.find? fun s => s.id = sensorId
  let type := (spec.map SensorSpec.type).getD "unknown"
  if b.droppedOut sensorId then return { sensorId := sensorId, type := type, ok := false }
  if type = "battery" then let _ ← b.readBattery body
  return { sensorId := sensorId, type := type, rateHz := (spec.map SensorSpec.rateHz).getD 0 }

/-- `lidar_scan`. -/
def lidarScan : Option (List PyFloat) :=
  if !body.sensors.any SensorSpec.isLidar || b.droppedOut "lidar/2d" then none
  else some (List.replicate 180 4 ++ List.replicate 10 (.fin (11 / 10)) ++ List.replicate 170 4)

/-! What decides about motion. -/

@[simp] theorem connect_power : b.connect.power = false := rfl
@[simp] theorem shutdown_power : b.shutdown.power = false := rfl
@[simp] theorem setPower_power (enabled : Bool) : (b.setPower enabled).power = enabled := rfl
@[simp] theorem connect_pose : b.connect.pose = b.pose := rfl
@[simp] theorem shutdown_pose : b.shutdown.pose = b.pose := rfl
@[simp] theorem setPower_pose (enabled : Bool) : (b.setPower enabled).pose = b.pose := rfl

/-- Time changes neither the power nor the pose. -/
theorem step_spec (dt : PyFloat) (on : Bool) (pose : Pose) :
    Keeps (fun b => b.power = on ∧ b.pose = pose) (step dt) := by
  have warmed (name : String) :
      Keeps (fun b => b.power = on ∧ b.pose = pose) (warmActuator dt name) :=
    keeps_bind (keeps_reads _) fun _ => keeps_bind (keeps_ofExcept _) fun _ =>
      keeps_modify fun _ holds => holds
  have overheated : Keeps (fun b => b.power = on ∧ b.pose = pose) applyOverheat := by
    refine keeps_bind (keeps_reads _) fun fault => ?_
    split
    · exact keeps_modify fun _ holds => holds
    · exact keeps_ite (fun _ => keeps_pure _) fun _ => keeps_raise _
    · exact keeps_pure _
  refine keeps_bind (keeps_modify fun _ holds => holds) fun _ => keeps_bind (keeps_reads _) fun _ => ?_
  refine keeps_bind (keeps_forEach fun name _ => warmed name) fun _ => ?_
  exact keeps_bind overheated fun _ => keeps_modify fun _ holds => holds

/-- A velocity command moves the body only while it is powered. -/
theorem commandVelocity_spec {vel : BodyVelocity} {dt : PyFloat} {b' : SimulationBackend}
    (run : b.commandVelocity text math body vel dt = .ok b') :
    b'.power = b.power ∧ (b.power = false → b' = b) := by
  unfold commandVelocity at run
  by_cases off : b.power = false
  · rw [if_pos (by simp [off])] at run
    cases run
    exact ⟨rfl, fun _ => rfl⟩
  · rw [if_neg (by simp [off])] at run
    rcases linear : maxLinear text body with e | maxLin <;> rw [linear] at run
    · cases run
    rcases angular : maxAngular text body with e | maxAng <;> rw [angular] at run
    · cases run
    · cases run
      exact ⟨rfl, fun unpowered => absurd unpowered off⟩

/-- A joint target changes neither the power nor the pose. -/
theorem trackJoint_spec (target : PyVal × PyFloat) :
    (b.trackJoint target).power = b.power ∧ (b.trackJoint target).pose = b.pose := by
  unfold trackJoint
  split
  · split <;> exact ⟨rfl, rfl⟩
  · exact ⟨rfl, rfl⟩

/-- Joint targets change neither the power nor the pose. -/
theorem commandJoints_spec (targets : List (PyVal × PyFloat)) :
    (b.commandJoints targets).power = b.power ∧ (b.commandJoints targets).pose = b.pose := by
  unfold commandJoints
  split
  · exact ⟨rfl, rfl⟩
  · induction targets generalizing b with
    | nil => exact ⟨rfl, rfl⟩
    | cons target targets ih =>
      obtain ⟨power, pose⟩ := trackJoint_spec b target
      obtain ⟨powers, poses⟩ := ih (b.trackJoint target) (by rw [power]; assumption)
      exact ⟨powers.trans power, poses.trans pose⟩

end SimulationBackend

end DroidOs.Backends.Simulation
