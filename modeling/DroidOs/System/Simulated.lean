/- GID: DroidOs/System/Simulated
   generality: I
   source: src/droidos/services/motion.py, src/droidos/services/navigation.py, src/droidos/services/state_estimator.py
   digest: The services over a simulated or mocked body, and how they treat power and pose. -/

import DroidOs.Backends.Simulation
import DroidOs.Gait.Policy
import DroidOs.System.TaskLaw

set_option autoImplicit false
set_option relaxedAutoImplicit false

namespace DroidOs.System.Simulated

open DroidOs.Lib.Procedure
open DroidOs.Core.Values DroidOs.Core.Context
open DroidOs.Body.Package DroidOs.Backends.Simulation DroidOs.Gait.Policy
open DroidOs.Language.Intent
open TaskLaw

/-- The backend, the motion service's policy, and what the other services keep in
`δ`: places, memories, updates, logs. -/
structure SimWorld (δ : Type) where
  backend : SimulationBackend
  gaitPolicy : Option GaitPolicy := none
  gaitIssues : List String := []
  store : δ

/-- What a simulated system is built from. The services of these fields keep their
own data; of the backend they only read. The audit log swallows a failing write, and
no one subscribes to the event bus. -/
structure Surroundings (δ : Type) where
  text : PyText
  math : Libm
  droidName : String
  body : LoadedBody
  gaitFiles : String → Option PolicyFile
  resolve : PyVal → Proc δ Exn (Option Pose)
  knownPlaces : Proc δ Exn (List String)
  traversable : PyVal → Proc δ Exn (Bool × String)
  setObstacle : PyFloat → PyFloat → Proc δ Exn Unit
  inspect : SimulationBackend → PyVal → Proc δ Exn Items
  tool : SimulationBackend → String → Items → Proc δ Exn TaskResult
  configure : String → Proc δ Exn Unit
  emit : AuditRecord → δ → δ
  publish : Event → δ → δ

variable {δ α : Type} (s : Surroundings δ)

/-! Access to the parts of the world. -/

def onBackend (f : SimulationBackend → SimulationBackend) : Proc (SimWorld δ) Exn Unit :=
  modify fun w => { w with backend := f w.backend }

/-- A reading of the backend, which may raise. -/
def readBackend (f : SimulationBackend → Except Exn α) : Proc (SimWorld δ) Exn α :=
  fun w => (f w.backend, w)

/-- A command to the backend, which changes nothing if it raises. -/
def commandBackend (f : SimulationBackend → Except Exn SimulationBackend) :
    Proc (SimWorld δ) Exn Unit := do
  let b ← readBackend f
  onBackend fun _ => b

/-- A service that works on its own data and may read the backend. -/
def stored (p : SimulationBackend → Proc δ Exn α) : Proc (SimWorld δ) Exn α :=
  fun w => ((p w.backend w.store).1, { w with store := (p w.backend w.store).2 })

/-! The motion service. -/

def canMove : Except Exn Bool := s.body.capabilities.supportsMotion

/-- `_validate`. -/
def validateVelocity (vel : BodyVelocity) : Except Exn Unit :=
  [("linear_x", vel.linearX), ("linear_y", vel.linearY), ("angular_z", vel.angularZ)].forM
    fun (name, v) =>
      if v.isNan || v.isInf then .error ⟨.capabilityError,
        "invalid velocity component " ++ name ++ "=" ++ s.text.str (.float v)⟩
      else .ok ()

/-- `_clamp`: lateral velocity is only for omnidirectional bodies. -/
def clampVelocity (vel : BodyVelocity) : Except Exn BodyVelocity := do
  let maxLin ← SimulationBackend.maxLinear s.text s.body
  let maxAng ← SimulationBackend.maxAngular s.text s.body
  return {
    linearX := SimulationBackend.clamp maxLin vel.linearX
    linearY := if s.body.manifest.locomotionType = "omni"
      then SimulationBackend.clamp maxLin vel.linearY else 0
    angularZ := SimulationBackend.clamp maxAng vel.angularZ }

/-- What the gait policy observes of a command. -/
def observation (vel : BodyVelocity) : List (String × PyFloat) :=
  [("cmd_vx", vel.linearX), ("cmd_wz", vel.angularZ), ("base_lin_vel", vel.linearX),
    ("base_ang_vel", vel.angularZ), ("gravity_z", .fin (-981 / 100))]

/-- The gait policy turns the velocity into joint targets. -/
def commandGait (policy : GaitPolicy) (vel : BodyVelocity) (dt : PyFloat) :
    Proc (SimWorld δ) Exn Unit := do
  let (targets, policy) := policy.infer s.text s.math (observation vel) dt
  modify fun w => { w with gaitPolicy := some policy }
  let targets ← ofExcept targets
  onBackend fun b => b.commandJoints targets

/-- `drive`. -/
def drive (vel : BodyVelocity) (dt : PyFloat) : Proc (SimWorld δ) Exn Unit := do
  if !(← ofExcept (canMove s)) then
    raise ⟨.capabilityError, "this body has no locomotion capability"⟩
  ofExcept (validateVelocity s vel)
  let vel ← ofExcept (clampVelocity s vel)
  match ← reads SimWorld.gaitPolicy with
  | some policy => commandGait s policy vel dt
  | none => pure ()
  commandBackend fun b => b.commandVelocity s.text s.math s.body vel dt
  zoom SimWorld.backend (fun b w => { w with backend := b }) (SimulationBackend.step dt)

/-- `stop`. -/
def stop : Proc (SimWorld δ) Exn Unit :=
  commandBackend fun b => b.commandVelocity s.text s.math s.body {} 0

/-- `velocity_toward`: turn first, then advance once roughly aligned. -/
def velocityToward (goal here : Pose) : Except Exn (BodyVelocity × PyFloat) := do
  let dx := goal.x - here.x
  let dy := goal.y - here.y
  let distance := s.math.hypot dx dy
  let yawErr := wrap (s.math.atan2 dy dx - here.theta)
  let maxLin ← SimulationBackend.maxLinear s.text s.body
  let maxAng ← SimulationBackend.maxAngular s.text s.body
  let angular := SimulationBackend.clamp maxAng (2 * yawErr)
  let linear := if yawErr.abs.lt (.fin (3 / 10)) then maxLin else 0
  let linear := if distance.lt maxLin then PyFloat.min linear distance else linear
  return ({ linearX := linear, angularZ := angular }, distance)

/-- `Motion._on_configure`: load and validate the walking policy for bipeds. -/
def configureMotion : Proc (SimWorld δ) Exn Unit :=
  if s.body.manifest.locomotionType = "biped" then do
    let (policy, issues) ← ofExcept (loadForBody s.text s.gaitFiles s.body)
    modify fun w => { w with gaitPolicy := policy, gaitIssues := issues }
  else pure ()

/-! State estimation and the collision monitor. -/

/-- `localization_confidence`. -/
def localizationConfidence (b : SimulationBackend) : Except Exn PyFloat := do
  if (b.faults.lookup "localization_loss").isSome then return .fin (1 / 5)
  match s.body.sensors.find? SensorSpec.isLidar with
  | some lidar => return if (← b.readSensor s.body lidar.id).ok then .fin (23 / 25) else .fin (11 / 20)
  | none => return .fin (4 / 5)

def minLocalizationConfidence : PyFloat := .fin (2 / 5)

def localizationOk (b : SimulationBackend) : Except Exn Bool := do
  return minLocalizationConfidence.le (← localizationConfidence s b)

def collisionStopM : PyFloat := .fin (3 / 5)

/-- `is_path_blocked`: the forward sector is the middle third of the scan. -/
def isPathBlocked (b : SimulationBackend) : Except Exn (Bool × Option PyFloat) :=
  match b.faults.lookup "path_blocked" with
  | some params => do
    let distance ← s.text.float ((PyVal.lookup "distance" params).getD (.float (.fin (12 / 5))))
    return (true, some distance)
  | none =>
    let scan := (b.lidarScan s.body).getD []
    match (scan.take (2 * scan.length / 3)).drop (scan.length / 3) with
    | [] => .ok (false, none)
    | first :: rest =>
      let nearest := rest.foldl PyFloat.min first
      if nearest.lt collisionStopM then .ok (true, some nearest) else .ok (false, none)

/-! The services. -/

/-- The simulated system; a body for a physical backend gets the mock. -/
def simulated : Services (SimWorld δ) where
  text := s.text
  droidName := s.droidName
  body := s.body
  backendKind := match s.body.backendKind with
    | .simulation => "simulation"
    | .physical => "physical"
  connect := onBackend SimulationBackend.connect
  shutdown := onBackend SimulationBackend.shutdown
  setPower := fun on => onBackend fun b => b.setPower on
  powerEnabled := fun w => w.backend.power
  battery := readBackend fun b => b.readBattery s.body
  actuatorNames := fun w => w.backend.actuators
  readAllActuators := readBackend fun b => b.readAllActuators s.text s.body
  readSensor := fun id => readBackend fun b => b.readSensor s.body id
  pose := reads fun w => w.backend.pose
  busOnline := match s.body.backendKind with
    | .simulation => none
    | .physical => some (reads fun w => w.backend.busOnline)
  setCharging := some fun on => onBackend fun b => { b with charging := on }
  resolve := fun dest => stored fun _ => s.resolve dest
  knownPlaces := stored fun _ => s.knownPlaces
  traversable := fun dest => stored fun _ => s.traversable dest
  localizationOk := readBackend (localizationOk s)
  isPathBlocked := readBackend (isPathBlocked s)
  setObstacle := fun x y => stored fun _ => s.setObstacle x y
  velocityToward := fun goal here => ofExcept (velocityToward s goal here)
  drive := drive s
  stop := stop s
  inspect := fun target => stored fun b => s.inspect b target
  tool := fun intent arguments => stored fun b => s.tool b intent arguments
  configure := fun name =>
    if name = "motion" then configureMotion s else stored fun _ => s.configure name
  emit := fun r => modify fun w => { w with store := s.emit r w.store }
  publish := fun e => modify fun w => { w with store := s.publish e w.store }

@[simp] theorem simulated_powerEnabled (w : SimWorld δ) :
    (simulated s).powerEnabled w = w.backend.power := rfl
@[simp] theorem simulated_setPower (on : Bool) (w : SimWorld δ) :
    (simulated s).setPower on w = (.ok (), { w with backend := w.backend.setPower on }) := rfl
@[simp] theorem simulated_connect (w : SimWorld δ) :
    (simulated s).connect w = (.ok (), { w with backend := w.backend.connect }) := rfl
@[simp] theorem simulated_shutdown (w : SimWorld δ) :
    (simulated s).shutdown w = (.ok (), { w with backend := w.backend.shutdown }) := rfl
@[simp] theorem simulated_emit (r : AuditRecord) (w : SimWorld δ) :
    (simulated s).emit r w = (.ok (), { w with store := s.emit r w.store }) := rfl
@[simp] theorem simulated_publish (e : Event) (w : SimWorld δ) :
    (simulated s).publish e w = (.ok (), { w with store := s.publish e w.store }) := rfl

/-! Power and pose. -/

/-- Motor power is as given, and while it is off the pose is too. -/
def Still (on : Bool) (pose : Pose) (w : SimWorld δ) : Prop :=
  w.backend.power = on ∧ (on = false → w.backend.pose = pose)

variable {on : Bool} {pose : Pose}

private theorem still_readBackend (f : SimulationBackend → Except Exn α) :
    Keeps (Still (δ := δ) on pose) (readBackend f) :=
  keeps_iff.mpr fun _ holds => holds

private theorem still_stored (p : SimulationBackend → Proc δ Exn α) :
    Keeps (Still on pose) (stored p) :=
  keeps_iff.mpr fun _ holds => holds

private theorem still_commandVelocity (vel : BodyVelocity) (dt : PyFloat) :
    Keeps (Still (δ := δ) on pose)
      (commandBackend fun b => b.commandVelocity s.text s.math s.body vel dt) := by
  refine keeps_iff.mpr fun w holds => ?_
  rcases answer : w.backend.commandVelocity s.text s.math s.body vel dt with e | b
  · rw [commandBackend, bind_error (t := w) (e := e) (by rw [readBackend, answer])]
    exact holds
  · obtain ⟨power, unmoved⟩ := SimulationBackend.commandVelocity_spec s.text s.math s.body _ answer
    rw [commandBackend, bind_ok (t := w) (a := b) (by rw [readBackend, answer])]
    refine ⟨power.trans holds.1, fun off => ?_⟩
    change b.pose = pose
    rw [unmoved (holds.1.trans off)]
    exact holds.2 off

private theorem still_commandGait (policy : GaitPolicy) (vel : BodyVelocity) (dt : PyFloat) :
    Keeps (Still on pose) (commandGait s policy vel dt) := by
  refine keeps_bind (keeps_modify fun _ holds => holds) fun _ => keeps_bind (keeps_ofExcept _) fun targets => ?_
  refine keeps_modify fun w holds => ?_
  obtain ⟨power, same⟩ := SimulationBackend.commandJoints_spec w.backend targets
  exact ⟨power.trans holds.1, fun off => same.trans (holds.2 off)⟩

private theorem still_step (dt : PyFloat) :
    Keeps (Still (δ := δ) on pose)
      (zoom SimWorld.backend (fun b w => { w with backend := b }) (SimulationBackend.step dt)) := by
  refine keeps_zoom fun w holds => ?_
  obtain ⟨power, same⟩ := Keeps.after
    (SimulationBackend.step_spec dt w.backend.power w.backend.pose) ⟨rfl, rfl⟩
  exact ⟨power.trans holds.1, fun off => same.trans (holds.2 off)⟩

/-- A drive command neither switches power nor, without power, moves the body. -/
theorem still_drive (vel : BodyVelocity) (dt : PyFloat) : Keeps (Still on pose) (drive s vel dt) := by
  have forwarded (vel : BodyVelocity) : Keeps (Still (δ := δ) on pose) (do
      commandBackend fun b => b.commandVelocity s.text s.math s.body vel dt
      zoom SimWorld.backend (fun b w => { w with backend := b }) (SimulationBackend.step dt)) :=
    keeps_bind (still_commandVelocity s vel dt) fun _ => still_step dt
  unfold drive
  refine keeps_bind (keeps_ofExcept _) fun _ => keeps_ite (fun _ => keeps_raise _) fun _ => ?_
  refine keeps_bind (keeps_ofExcept _) fun _ => keeps_bind (keeps_ofExcept _) fun vel => ?_
  refine keeps_bind (keeps_reads _) fun policy => ?_
  cases policy with
  | none => exact forwarded vel
  | some policy => exact keeps_bind (still_commandGait s policy vel dt) fun _ => forwarded vel

private theorem still_configureMotion : Keeps (Still on pose) (configureMotion s) :=
  keeps_ite (fun _ => keeps_bind (keeps_ofExcept _) fun _ => keeps_modify fun _ holds => holds)
    fun _ => keeps_pure _

/-- No outside call of a task switches motor power, and none moves a body without power. -/
theorem still_quiet {p : Proc (SimWorld δ) Exn α} (call : QuietCall (simulated s) p) :
    Keeps (Still on pose) p := by
  cases call with
  | battery => exact still_readBackend _
  | readAllActuators => exact still_readBackend _
  | readSensor id => exact still_readBackend fun b => b.readSensor s.body id
  | pose => exact keeps_reads _
  | busOnline online =>
    simp only [simulated] at online
    split at online
    · cases online
    · cases online
      exact keeps_reads _
  | setCharging charge charging =>
    cases charging
    exact keeps_modify fun _ holds => holds
  | resolve dest => exact still_stored fun _ => s.resolve dest
  | knownPlaces => exact still_stored fun _ => s.knownPlaces
  | traversable dest => exact still_stored fun _ => s.traversable dest
  | localizationOk => exact still_readBackend _
  | isPathBlocked => exact still_readBackend _
  | setObstacle x y => exact still_stored fun _ => s.setObstacle x y
  | velocityToward goal here => exact keeps_ofExcept _
  | drive vel dt => exact still_drive s vel dt
  | stop => exact still_commandVelocity s _ _
  | inspect target => exact still_stored fun b => s.inspect b target
  | tool intent arguments => exact still_stored fun b => s.tool b intent arguments
  | configure name => exact keeps_ite (fun _ => still_configureMotion s) fun _ => still_stored _
  | emit r => exact keeps_modify fun _ holds => holds
  | publish e => exact keeps_modify fun _ holds => holds

/-! A wheeled droid with a hallway two metres ahead. -/

/-- It agrees with the math library on the numbers of a drive straight ahead. -/
def straightAhead : Libm where
  sin := fun x => if x = 0 then 0 else .nan
  cos := fun x => if x = 0 then 1 else .nan
  atan2 := fun y x => if y = 0 ∧ PyFloat.lt 0 x = true then 0 else .nan
  hypot := fun x y => if y = 0 then x.abs else .nan

def wheeled : LoadedBody where
  manifest :=
    { bodyId := "r2-mk1", name := "R2", revision := "1", locomotionType := "differential" }
  capabilities := { raw := .dict [(.str "locomotion", .dict [(.str "roll", .bool true)])] }

def toHallway : StructuredIntent where
  intent := "navigation.navigate_to"
  arguments := .dict [(.str "destination", .str "hallway")]
  requiresMotion := true

def hallwayDroid : Surroundings Unit where
  text := .ascii
  math := straightAhead
  droidName := "R2"
  body := wheeled
  gaitFiles := fun _ => none
  resolve := fun dest => pure (if dest.isKey "hallway" then some { x := 2 } else none)
  knownPlaces := pure ["hallway"]
  traversable := fun _ => pure (true, "reachable")
  setObstacle := fun _ _ => pure ()
  inspect := fun _ _ => pure []
  tool := fun _ intent _ => pure { ok := true, kind := intent }
  configure := fun _ => pure ()
  emit := fun _ store => store
  publish := fun _ store => store

end DroidOs.System.Simulated
