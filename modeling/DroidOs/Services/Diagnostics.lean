/- GID: DroidOs/Services/Diagnostics
   generality: I
   source: src/droidos/services/diagnostics.py, src/droidos/services/lifecycle.py, src/droidos/services/hardware.py, src/droidos/services/motion.py, src/droidos/services/navigation.py, src/droidos/services/perception.py, src/droidos/services/state_estimator.py
   digest: The sources of the diagnostics, what every service reports of itself, and the summary. -/

import DroidOs.Backends.Hardware
import DroidOs.Services.SafetyGateway
import DroidOs.Services.Supervisor

set_option autoImplicit false
set_option relaxedAutoImplicit false

namespace DroidOs.Services.Diagnostics

open DroidOs.Lib.Procedure
open DroidOs.Core.Values DroidOs.Core.States DroidOs.Core.Context
open DroidOs.Body.Package DroidOs.Gait.Policy
open DroidOs.Backends.Unpowered DroidOs.Backends.Hardware
open Lifecycle

/-- The severity of a level, of which `DiagnosticLevel` is made. -/
def severity : DiagnosticLevel → Nat
  | .ok => 0
  | .warn => 1
  | .error => 2
  | .stale => 3

/-- `DiagnosticLevel.label`. -/
def label : DiagnosticLevel → String
  | .ok => "OK"
  | .warn => "WARN"
  | .error => "ERROR"
  | .stale => "STALE"

/-- `DiagnosticStatus`, without the readings it also lists. -/
structure DiagnosticStatus where
  name : String
  level : DiagnosticLevel
  message : String
  hardwareId : String := ""

/-- `d.level >= DiagnosticLevel.WARN`. -/
def DiagnosticStatus.isFault (d : DiagnosticStatus) : Bool := severity .warn ≤ severity d.level

/-- The computer that the brain runs on, and the texts that services keep of themselves. -/
structure Host (δ : Type) where
  load : PyFloat
  diskPercent : PyFloat
  provider : String
  general : PyFloat → String
  policyRuntime : GaitPolicy → String
  placeNames : Station δ → List String
  note : String → Station δ → String

variable {δ : Type} (world : Setting) (host : Host δ)

/-! The sources of the service itself. -/

def computer : List DiagnosticStatus :=
  [{ name := "computer/cpu", level := .ok, message := "load " ++ world.text.fixed 2 host.load },
    { name := "computer/storage"
      level := if PyFloat.lt 90 host.diskPercent then .warn else .ok
      message := "disk " ++ world.text.fixed 0 host.diskPercent ++ "% used" }]

def network : List DiagnosticStatus :=
  [{ name := "network/llm_provider", level := .ok, message := "language provider: " ++ host.provider }]

/-- The level and message of one actuator. -/
def actuatorFinding (warn fault : PyFloat) (a : ActuatorState) : DiagnosticLevel × String :=
  if a.faultCode ≠ "" then (.error, a.faultCode)
  else if fault.le a.temperatureC then (.error, "over fault temperature")
  else if warn.le a.temperatureC then (.warn, "warm")
  else if a.commErrors.truthy then (.warn, world.text.str a.commErrors ++ " comm errors")
  else (.ok, "nominal")

def actuatorStatus (warn fault : PyFloat) (a : ActuatorState) : DiagnosticStatus where
  name := "actuator/" ++ a.name
  level := (actuatorFinding world warn fault a).1
  message := (actuatorFinding world warn fault a).2
  hardwareId := a.name

def actuators : Proc (Station δ) Exn (List DiagnosticStatus) := do
  let warn ← ofExcept (world.body.limits.motorWarnTemp world.text)
  let fault ← ofExcept (world.body.limits.motorFaultTemp world.text)
  let states ← onBackend (readAllActuators world)
  return states.map (actuatorStatus world warn fault)

/-- A sensor that does not respond is an error if the body requires it. -/
def sensorStatus (spec : SensorSpec) (reading : SensorReading) : DiagnosticStatus where
  name := "sensor/" ++ spec.id
  level :=
    if reading.ok then .ok
    else if spec.id ∈ world.body.manifest.requiredSensors then .error else .warn
  message := if reading.ok then host.general reading.rateHz ++ " Hz" else "not responding"

/-- One round of the loop over the sensors of the body. -/
def sensor (spec : SensorSpec) : Proc (Station δ) Exn DiagnosticStatus := fun w =>
  ((readSensor world spec.id w.backend).map (sensorStatus world host spec), w)

def sensors : Proc (Station δ) Exn (List DiagnosticStatus) := gather (sensor world host) world.body.sensors

/-- `float(limits.battery.get(key, default))`. -/
def batteryLimit (key : String) (default : PyFloat) : Except Exn PyFloat := do
  world.text.float (← world.body.limits.battery.get key (.float default))

def batteryStatus (warn crit : PyFloat) (b : BatteryState) : DiagnosticStatus where
  name := "battery/main"
  level := if b.percent.le crit then .error else if b.percent.le warn then .warn else .ok
  message := world.text.fixed 0 b.percent ++ "%" ++ if b.charging then " charging" else ""

def battery : Proc (Station δ) Exn (List DiagnosticStatus) := do
  let b ← onBackend (Backends.Hardware.battery world)
  let warn ← ofExcept (batteryLimit world "warn_percent" 30)
  let crit ← ofExcept (batteryLimit world "critical_percent" 10)
  return [batteryStatus world warn crit b]

/-- What the estimator thinks of the place; it only reads. -/
def confidence : Proc (Station δ) Exn PyFloat := fun w => (localizationConfidence world w.backend, w)

def robotLevel (state : DroidState) : Proc (Station δ) Exn (List DiagnosticStatus) := do
  let _ ← confidence world
  return [{ name := "robot/state", level := .ok, message := state.value }]

/-! What the services report of themselves. -/

/-- `LifecycleState.value`. -/
def lifecycleValue : LifecycleState → String
  | .unconfigured => "UNCONFIGURED"
  | .inactive => "INACTIVE"
  | .active => "ACTIVE"
  | .finalized => "FINALIZED"

/-- `ManagedService.diagnostics`. -/
def serviceStatus (name : String) (record : ServiceRecord) : DiagnosticStatus where
  name := "service/" ++ name
  level := if record.state = .active then .ok else .warn
  message := lifecycleValue record.state ++
    if record.lastError = "" then "" else " (" ++ record.lastError ++ ")"

/-- `SafetyGateway.diagnostics`. -/
def gatewayStatus : Proc (Runtime (Station δ)) Exn DiagnosticStatus := do
  let (level, message) ← SafetyGateway.diagnostics
  return { name := "safety/controller", level := level, message := message, hardwareId := "safety-mcu" }

/-- The speed that `_auto_cooling` gives the fan; no one else sets it. -/
def fanSpeed (warn : PyFloat) : List ActuatorState → PyFloat
  | [] => 0
  | a :: states =>
    let hottest := states.foldl (fun t a => PyFloat.max t a.temperatureC) a.temperatureC
    PyFloat.max 0 (PyFloat.min 1 ((hottest - (warn - 20)) * .fin (1 / 20)))

/-- `Hardware.diagnostics`. -/
def hardware : Proc (Station δ) Exn (List DiagnosticStatus) := do
  let states ← onBackend (readAllActuators world)
  let warn ← ofExcept (world.body.limits.motorWarnTemp world.text)
  let names ← reads fun w => actuatorNames w.backend
  return [
    { name := "hardware/inventory", level := .ok
      message := toString names.length ++ " actuators, " ++ toString world.body.sensors.length ++ " sensors" },
    { name := "hardware/cooling", level := .ok
      message := "fan at " ++ world.text.fixed 0 (fanSpeed warn states * 100) ++ "%" }]

/-- `StateEstimator.diagnostics`. -/
def stateEstimator : Proc (Station δ) Exn (List DiagnosticStatus) := do
  let conf ← confidence world
  return [
    { name := "state_estimator/localization"
      level := if conf.lt (.fin (2 / 5)) then .error else if conf.lt (.fin (3 / 5)) then .warn else .ok
      message := "localization confidence " ++ world.text.fixed 2 conf }]

/-- `Perception.diagnostics`. -/
def perception : Proc (Station δ) Exn (List DiagnosticStatus) := do
  if !(← ofExcept (Perception.hasCamera world.body)) then
    return [{ name := "perception/camera", level := .ok, message := "no camera on this body" }]
  let ok ← reads fun w => cameraOk w.backend
  return [
    { name := "perception/camera/front"
      level := if ok then .ok else .error
      message := if ok then "front camera streaming" else "front camera not responding" }]

/-- `Navigation.diagnostics`. -/
def navigation : Proc (Station δ) Exn (List DiagnosticStatus) := do
  let ok ← fun w => (localizationOk world w.backend, w)
  let _ ← fun w => (isPathBlocked world w.backend, w)
  let places ← reads host.placeNames
  return [
    { name := "navigation/status"
      level := if ok then .ok else .warn
      message := toString places.length ++ " destinations; localization " ++ if ok then "ok" else "low" }]

/-- The second status of a biped's motion service. -/
def gaitStatus (policy : Option GaitPolicy) (issues : List String) : DiagnosticStatus where
  name := "motion/gait_policy"
  level := if policy.isSome ∧ issues = [] then .ok else .warn
  message :=
    (match policy with
      | some policy => host.policyRuntime policy ++ " policy, rate " ++ host.general policy.controlRateHz ++ " Hz"
      | none => "no gait policy loaded") ++
    if policy.isSome ∧ issues = [] then "" else "; issues: " ++ ", ".intercalate issues

/-- `Motion.diagnostics`. -/
def motion : Proc (Station δ) Exn (List DiagnosticStatus) := do
  let mobile ← ofExcept world.body.capabilities.supportsMotion
  let controller ← reads (host.note "motion")
  let policy ← reads Station.gaitPolicy
  let issues ← reads Station.gaitIssues
  return { name := "motion/controller", level := .ok
           message := controller ++ " (" ++ (if mobile then "mobile" else "stationary") ++ ")" } ::
    if world.body.manifest.locomotionType = "biped" then [gaitStatus host policy issues] else []

/-- A service whose own diagnostic is always fine. -/
def noted (service name : String) : Proc (Station δ) Exn (List DiagnosticStatus) := do
  return [{ name := name, level := .ok, message := ← reads (host.note service) }]

/-- The services that override `diagnostics` with one that looks at the backend or at their own
data. -/
def overrides : List (String × Proc (Station δ) Exn (List DiagnosticStatus)) :=
  [("hardware", hardware world), ("state_estimator", stateEstimator world),
    ("world_model", noted host "world_model" "world_model/places"),
    ("memory", noted host "memory" "memory/store"), ("perception", perception world),
    ("navigation", navigation world host), ("motion", motion world host),
    ("update", noted host "update" "update/slots"), ("voice", noted host "voice" "voice/engine")]

/-- `svc.diagnostics()`. -/
def diagnosticsOf (name : String) : Proc (Managed (Runtime (Station δ))) Exn (List DiagnosticStatus) :=
  if name = "safety_gateway" then do return [← onRt gatewayStatus]
  else match (overrides world host).lookup name with
    | some own => onRt (outside own)
    | none => reads fun m => [serviceStatus name (m.table name)]

/-! Aggregation. -/

/-- What `collect` lists, kept apart by source. -/
structure Findings where
  computer : List DiagnosticStatus
  network : List DiagnosticStatus
  actuators : List DiagnosticStatus
  sensors : List DiagnosticStatus
  battery : List DiagnosticStatus
  robot : List DiagnosticStatus
  services : List (String × List DiagnosticStatus)

def Findings.all (f : Findings) : List DiagnosticStatus :=
  f.computer ++ f.network ++ f.actuators ++ f.sensors ++ f.battery ++ f.robot ++ f.services.flatMap Prod.snd

/-- One round of the loop over the services. -/
def serviceFindings (s : ManagedService (Runtime (Station δ))) :
    Proc (Managed (Runtime (Station δ))) Exn (String × List DiagnosticStatus) := do
  return (s.name, ← diagnosticsOf world host s.name)

theorem Findings.mem_all {f : Findings} {d : DiagnosticStatus} : d ∈ f.all ↔
    d ∈ f.computer ∨ d ∈ f.network ∨ d ∈ f.actuators ∨ d ∈ f.sensors ∨ d ∈ f.battery ∨ d ∈ f.robot ∨
      ∃ row ∈ f.services, d ∈ row.2 := by
  simp only [all, List.mem_append, List.mem_flatMap, or_assoc]

variable (reg : Registry (Runtime (Station δ)))

/-- `collect`. -/
def collect : Proc (Managed (Runtime (Station δ))) Exn Findings := do
  let actuators ← onRt (outside (actuators world))
  let sensors ← onRt (outside (sensors world host))
  let battery ← onRt (outside (battery world))
  let state ← reads fun m => m.rt.machine.state
  let robot ← onRt (outside (robotLevel world state))
  let services ← gather (serviceFindings world host) reg.services
  return {
    computer := computer world host, network := network host, actuators := actuators, sensors := sensors,
    battery := battery, robot := robot, services := services }

structure Summary where
  overall : String
  faultCount : Nat
  faults : List DiagnosticStatus

/-- The worst level of a list, which `max` finds. -/
def worst (items : List DiagnosticStatus) : DiagnosticLevel :=
  items.foldl (fun level d => if severity level < severity d.level then d.level else level) .ok

/-- `summary`. -/
def summary : Proc (Managed (Runtime (Station δ))) Exn Summary := do
  let items := (← collect world host reg).all
  let faults := items.filter DiagnosticStatus.isFault
  return { overall := label (worst items), faultCount := faults.length, faults := faults }

/-- `Renderer._r_diagnostics_summary`. -/
def renderSummary (s : Summary) : String :=
  if s.faultCount = 0 then "All monitored systems are nominal. Nothing is wrong."
  else "\n".intercalate (("I have " ++ toString s.faultCount ++ " issue(s):") ::
    s.faults.map fun d => "  - " ++ d.name ++ " [" ++ label d.level ++ "]: " ++ d.message)

end DroidOs.Services.Diagnostics
