/- GID: DroidOs/Backends/Hardware
   generality: I
   source: src/droidos/backends/base.py, src/droidos/services/state_estimator.py, src/droidos/services/navigation.py
   digest: The calls of the brain to its backend, whichever it is, and when they read the same. -/

import DroidOs.Backends.Unpowered
import DroidOs.Gait.Policy
import DroidOs.Services.Perception

set_option autoImplicit false
set_option relaxedAutoImplicit false

namespace DroidOs.Backends.Hardware

open DroidOs.Lib.Procedure
open DroidOs.Core.Values DroidOs.Core.Context
open DroidOs.Body.Package DroidOs.Gait.Policy
open DroidOs.Services
open Simulation CanFd Unpowered

/-! The methods of the backends. -/

/-- `make_backend`. -/
def makeBackend (body : LoadedBody) (hardwareBackend : Option String) : HardwareBackend :=
  match body.backendKind with
  | .simulation => .simulation (SimulationBackend.new body)
  | .physical =>
    if hardwareBackend = some "canfd" then .canFd (CanFdBackend.new body)
    else .simulation (SimulationBackend.new body)

variable (world : Setting)

def connect : HardwareBackend → Except Exn Unit × HardwareBackend
  | .simulation b => (.ok (), .simulation b.connect)
  | .canFd b => ((b.connect world.can world.now).1, .canFd (b.connect world.can world.now).2)

def shutdown : HardwareBackend → Except Exn Unit × HardwareBackend
  | .simulation b => (.ok (), .simulation b.shutdown)
  | .canFd b => ((b.shutdown world.can).1, .canFd (b.shutdown world.can).2)

def setPower (enabled : Bool) : HardwareBackend → HardwareBackend
  | .simulation b => .simulation (b.setPower enabled)
  | .canFd b => .canFd (b.setPower enabled)

def actuatorNames : HardwareBackend → List String
  | .simulation b => b.actuators
  | .canFd b => b.actuators

def readAllActuators : HardwareBackend → Except Exn (List ActuatorState) × HardwareBackend
  | .simulation b => (b.readAllActuators world.text world.body, .simulation b)
  | .canFd b => (.ok (b.readAllActuators world.now).1, .canFd (b.readAllActuators world.now).2)

def battery : HardwareBackend → Except Exn BatteryState × HardwareBackend
  | .simulation b => (b.readBattery world.body, .simulation b)
  | .canFd b => (.ok (b.readBattery world.now).1, .canFd (b.readBattery world.now).2)

def readSensor (sensorId : String) : HardwareBackend → Except Exn SensorReading
  | .simulation b => b.readSensor world.body sensorId
  | .canFd b => .ok (b.readSensor world.body world.now sensorId)

def pose : HardwareBackend → Pose
  | .simulation b => b.pose
  | .canFd b => b.pose

/-- The bus of a mock; a backend without the method counts as online. -/
def busOnline : HardwareBackend → Bool
  | .simulation b => world.body.backendKind = .simulation || b.busOnline
  | .canFd _ => true

/-- `getattr(backend, "_faults", {})`. -/
def faults : HardwareBackend → List (String × Items)
  | .simulation b => b.faults
  | .canFd _ => []

/-- `describe_scene().get("camera_ok", False)`; over a bus the scene comes from elsewhere. -/
def cameraOk : HardwareBackend → Bool
  | .simulation b => (Perception.describeScene b).cameraOk
  | .canFd _ => true

def lidarScan : HardwareBackend → Option (List PyFloat)
  | .simulation b => b.lidarScan world.body
  | .canFd _ => none

/-! What the estimator and the collision monitor make of it. -/

/-- `localization_confidence`. -/
def localizationConfidence (b : HardwareBackend) : Except Exn PyFloat := do
  if ((faults b).lookup "localization_loss").isSome then return .fin (1 / 5)
  match world.body.sensors.find? SensorSpec.isLidar with
  | some lidar => return if (← readSensor world lidar.id b).ok then .fin (23 / 25) else .fin (11 / 20)
  | none => return .fin (4 / 5)

def minLocalizationConfidence : PyFloat := .fin (2 / 5)

def localizationOk (b : HardwareBackend) : Except Exn Bool := do
  return minLocalizationConfidence.le (← localizationConfidence world b)

def collisionStopM : PyFloat := .fin (3 / 5)

/-- `is_path_blocked`: the forward sector is the middle third of the scan. -/
def isPathBlocked (b : HardwareBackend) : Except Exn (Bool × Option PyFloat) :=
  match (faults b).lookup "path_blocked" with
  | some params => do
    let distance ← world.text.float ((PyVal.lookup "distance" params).getD (.float (.fin (12 / 5))))
    return (true, some distance)
  | none =>
    let scan := (lidarScan world b).getD []
    match (scan.take (2 * scan.length / 3)).drop (scan.length / 3) with
    | [] => .ok (false, none)
    | first :: rest =>
      let nearest := rest.foldl PyFloat.min first
      if nearest.lt collisionStopM then .ok (true, some nearest) else .ok (false, none)

/-! The services over a backend. -/

/-- What the services work on: the backend, the gait policy that the motion service has loaded,
and what the others keep. -/
structure Station (δ : Type) where
  backend : HardwareBackend
  gaitPolicy : Option GaitPolicy := none
  gaitIssues : List String := []
  store : δ

variable {δ α : Type}

/-- A call of the backend. -/
def onBackend (f : HardwareBackend → Except Exn α × HardwareBackend) : Proc (Station δ) Exn α :=
  fun w => ((f w.backend).1, { w with backend := (f w.backend).2 })

/-- The services whose calls of the backend go to the one of the station. -/
def equipped (rest : Services (Station δ)) : Services (Station δ) :=
  { rest with
    text := world.text
    body := world.body
    backendKind := match world.body.backendKind with
      | .simulation => "simulation"
      | .physical => "physical"
    connect := onBackend (connect world)
    shutdown := onBackend (shutdown world)
    setPower := fun enabled => onBackend fun b => (.ok (), setPower enabled b)
    powerEnabled := fun w => powerEnabled w.backend
    battery := onBackend (battery world)
    actuatorNames := fun w => actuatorNames w.backend
    readAllActuators := onBackend (readAllActuators world)
    readSensor := fun sensorId w => (readSensor world sensorId w.backend, w)
    pose := reads fun w => pose w.backend
    busOnline := some (reads fun w => busOnline world w.backend)
    localizationOk := fun w => (localizationOk world w.backend, w)
    isPathBlocked := fun w => (isPathBlocked world w.backend, w) }

/-! Readings. -/

/-- The backend once it has received what had arrived. -/
def received : HardwareBackend → HardwareBackend
  | .simulation b => .simulation b
  | .canFd b => .canFd (b.drain world.now)

def Station.settled (w : Station δ) : Station δ := { w with backend := received world w.backend }

variable {world}

theorem received_received (b : HardwareBackend) : received world (received world b) = received world b := by
  cases b with
  | simulation b => rfl
  | canFd b => exact congrArg HardwareBackend.canFd (b.drain_drain world.now)

@[simp] theorem settled_settled (w : Station δ) : (w.settled world).settled world = w.settled world := by
  simp [Station.settled, received_received]

theorem received_actuatorNames (b : HardwareBackend) :
    actuatorNames (received world b) = actuatorNames b := by
  cases b with
  | simulation b => rfl
  | canFd b => exact b.drain_actuators world.now

/-- A backend is made with at least one actuator. -/
theorem makeBackend_actuators (body : LoadedBody) (hardwareBackend : Option String) :
    actuatorNames (makeBackend body hardwareBackend) ≠ [] := by
  have listed : (if body.manifest.requiredActuators.isEmpty = true then ["drive"]
      else body.manifest.requiredActuators) ≠ [] := by
    split
    · simp
    · next some => simpa using some
  unfold makeBackend
  split
  · exact listed
  split
  · exact listed
  · exact listed

/-- The battery is read from what has been received. -/
theorem battery_eq (b : HardwareBackend) :
    battery world b = ((battery world (received world b)).1, received world b) := by
  cases b with
  | simulation b => rfl
  | canFd b => simp [battery, received, CanFdBackend.readBattery, CanFdBackend.drain_drain]

/-- So are the actuators, if there is one. -/
theorem readAllActuators_eq {b : HardwareBackend} (some : actuatorNames b ≠ []) :
    readAllActuators world b = ((readAllActuators world (received world b)).1, received world b) := by
  cases b with
  | simulation b => rfl
  | canFd b =>
    have listed : b.actuators.isEmpty = false := by simpa [actuatorNames] using some
    simp [readAllActuators, received, CanFdBackend.readAllActuators, CanFdBackend.drain_drain,
      CanFdBackend.drain_actuators, listed]

/-! Two backends that are read alike. -/

/-- The backends give the same readings. -/
structure Alike (world : Setting) (b b' : HardwareBackend) : Prop where
  battery : (battery world b').1 = (battery world b).1
  actuators : (readAllActuators world b').1 = (readAllActuators world b).1
  sensor : ∀ id, readSensor world id b' = readSensor world id b
  bus : busOnline world b' = busOnline world b
  names : actuatorNames b' = actuatorNames b

/-- With nothing to receive, the readings do not depend on the power. -/
theorem alike_setPower {b : HardwareBackend} (settled : received world b = b) (enabled : Bool) :
    received world (setPower enabled b) = setPower enabled b ∧ Alike world b (setPower enabled b) := by
  cases b with
  | simulation b => exact ⟨rfl, rfl, rfl, fun _ => rfl, rfl, rfl⟩
  | canFd b =>
    have still : b.drain world.now = b := HardwareBackend.canFd.inj settled
    have off : (b.setPower enabled).drain world.now = b.setPower enabled := CanFdBackend.drain_setPower still enabled
    refine ⟨congrArg HardwareBackend.canFd off, ?_, ?_, fun _ => rfl, rfl, rfl⟩
    · simp only [battery, setPower, CanFdBackend.readBattery, still, off]
      rfl
    · have listed : (b.setPower enabled).actuators = b.actuators := rfl
      simp only [readAllActuators, setPower, CanFdBackend.readAllActuators, still, off, listed]
      split <;> rfl

/-- A backend that has just been made has received all there is once it has tried to connect. -/
theorem connect_received (body : LoadedBody) (hardwareBackend : Option String) :
    let b := (connect world (makeBackend body hardwareBackend)).2
    received world b = b ∧ actuatorNames b = actuatorNames (makeBackend body hardwareBackend) := by
  unfold makeBackend
  split
  · exact ⟨rfl, rfl⟩
  split
  · change HardwareBackend.canFd (CanFdBackend.drain _ world.now) = .canFd _ ∧ CanFdBackend.actuators _ = _
    unfold CanFdBackend.connect
    split
    · exact ⟨rfl, rfl⟩
    · split
      · exact ⟨rfl, rfl⟩
      · exact ⟨congrArg HardwareBackend.canFd (CanFdBackend.drain_drain _ _), CanFdBackend.drain_actuators _ _⟩
  · exact ⟨rfl, rfl⟩

/-! A bench beside whose backend no service does anything. -/

def benchServices (body : LoadedBody) : Services (Station δ) where
  text := .ascii
  droidName := "R2"
  body := body
  backendKind := "simulation"
  connect := pure ()
  shutdown := pure ()
  setPower := fun _ => pure ()
  powerEnabled := fun _ => false
  battery := pure { percent := 100 }
  actuatorNames := fun _ => []
  readAllActuators := pure []
  readSensor := fun id => pure { sensorId := id, type := "unknown" }
  pose := pure {}
  busOnline := none
  setCharging := none
  resolve := fun _ => pure none
  knownPlaces := pure []
  traversable := fun _ => pure (true, "reachable")
  localizationOk := pure true
  isPathBlocked := pure (false, none)
  setObstacle := fun _ _ => pure ()
  velocityToward := fun _ _ => pure ({}, 0)
  drive := fun _ _ => pure ()
  stop := pure ()
  inspect := fun _ => pure []
  tool := fun intent _ => pure { ok := true, kind := intent }
  configure := fun _ => pure ()
  emit := fun _ => pure ()
  publish := fun _ => pure ()

/-- A body of one driven wheel, simulated or behind a bus. -/
def wheelBody (backendKind : BackendKind) (requiredSensors issues : List String) : LoadedBody where
  manifest :=
    { bodyId := "r2-mk1", name := "R2", revision := "1", locomotionType := "differential",
      requiredSensors := requiredSensors, requiredActuators := ["left_wheel"] }
  capabilities := { raw := .dict [(.str "locomotion", .dict [(.str "roll", .bool true)])] }
  backendKind := backendKind
  issues := issues

/-- The setting of such a body at the start of the clock, with what its bus first receives. -/
def wheelSetting (body : LoadedBody) (can : PythonCan) : Setting where
  text := .ascii
  math := { sin := fun x => x, cos := fun x => x, atan2 := fun y _ => y, hypot := fun x _ => x }
  body := body
  can := can
  now := 0

end DroidOs.Backends.Hardware
