/- GID: DroidOs/Services/Supervisor
   generality: I
   source: src/droidos/services/supervisor.py
   digest: The boot sequence, the readiness assessment, refresh, shutdown and restarts. -/

import DroidOs.Services.SafetyGateway

set_option autoImplicit false
set_option relaxedAutoImplicit false

namespace DroidOs.Services.Supervisor

open DroidOs.Lib.Procedure
open DroidOs.Core.Values DroidOs.Core.States DroidOs.Core.Context
open DroidOs.Body.Package
open Lifecycle SafetyGateway

/-- One brain process: its services' lifecycle over its shared context. -/
abbrev Brain (ε : Type) := Managed (Runtime ε)

/-- `_ACTIVATION_ORDER`. -/
def activationOrder : List String :=
  ["safety_gateway", "hardware", "diagnostics", "state_estimator", "world_model", "memory",
    "perception", "navigation", "motion", "update", "executive", "voice", "language"]

/-- `_MOTION_CRITICAL`. -/
def motionCritical : List String := ["safety_gateway", "state_estimator", "motion", "navigation"]

variable {ε : Type} (svc : Services ε) (reg : Registry (Runtime ε))

/-- `rt.safety is not None`: the gateway is set and registered together. -/
def hasSafety : Bool := reg.has "safety_gateway"

/-! Readiness. -/

/-- The texts of those ids whose sensor does not answer. -/
def notResponding (message : String → String) : List String → Proc ε Exn (List String)
  | [] => pure []
  | id :: ids => do
    let reading ← svc.readSensor id
    let rest ← notResponding message ids
    return if reading.ok then rest else message id :: rest

def batteryReasons : Proc ε Exn (List String) := do
  let pct := (← svc.battery).percent
  let minimum ← ofExcept (svc.body.limits.batteryMotionMinimum svc.text)
  return if pct.lt minimum then
    ["battery " ++ svc.text.fixed 0 pct ++ "% is below the motion minimum " ++
      svc.text.fixed 0 minimum ++ "%"] else []

def missingActuators (env : ε) : List String :=
  (svc.body.manifest.requiredActuators.filter fun act => decide (act ∉ svc.actuatorNames env)).map
    fun act => "required actuator " ++ svc.text.repr (.str act) ++ " not detected"

def thermalReasons : Proc ε Exn (List String) := do
  let actuators ← svc.readAllActuators
  return (actuators.filter fun a => decide (a.faultCode ≠ "")).map
    fun a => "actuator " ++ a.name ++ " fault: " ++ a.faultCode

def busReasons : Proc ε Exn (List String) :=
  match svc.busOnline with
  | none => pure []
  | some busOnline => do
    return if ← busOnline then [] else ["physical hardware bus is offline"]

/-- The part of the assessment that reads the body and the backend: what inhibits
motion and what only degrades it. -/
def hardwareReasons : Proc ε Exn (List String × List String) := do
  let battery ← batteryReasons svc
  let actuators ← reads (missingActuators svc)
  let sensors ← notResponding svc
    (fun id => "required sensor " ++ svc.text.repr (.str id) ++ " not responding")
    svc.body.manifest.requiredSensors
  let thermal ← thermalReasons svc
  let degraded ← notResponding svc (fun id => "optional sensor " ++ id ++ " unavailable")
    (svc.body.sensorIds.filter fun id => decide (id ∉ svc.body.manifest.requiredSensors))
  let bus ← busReasons svc
  return (svc.body.fatalIssues ++ battery ++ actuators ++ sensors ++ thermal ++ bus, degraded)

/-- `safety is None or not safety.healthy()`. -/
def safetyUnhealthy : Proc (Runtime ε) Exn Bool :=
  if hasSafety reg then do return !(← healthy) else pure true

/-- The motion-critical services that are not active. -/
def inactiveReasons (m : Brain ε) : List String :=
  (motionCritical.filter fun name => reg.has name && decide (m.state name ≠ .active)).map
    fun name => name ++ " service is not active"

/-- The verdict over the collected reasons. -/
def verdict (inhibit degraded : List String) : Readiness :=
  if !inhibit.isEmpty then ⟨.motionInhibited, inhibit, degraded⟩
  else if !degraded.isEmpty then ⟨.degraded, [], degraded⟩
  else ⟨.ready, [], degraded⟩

def assessReadiness : Proc (Brain ε) Exn Readiness := do
  let engaged ← onRt (if hasSafety reg then estopEngaged else pure false)
  if engaged then return ⟨.emergencyStopped, ["emergency stop engaged"], []⟩
  let unhealthy ← onRt (safetyUnhealthy reg)
  let inactive ← reads (inactiveReasons reg)
  let (hardware, degraded) ← onRt (outside (hardwareReasons svc))
  let safety := if unhealthy then ["safety controller is not healthy"] else []
  return verdict (safety ++ inactive ++ hardware) degraded

def settle (target : DroidState) : Proc (Runtime ε) Exn Unit := do
  let machine ← reads Runtime.machine
  if machine.state = target then pure ()
  else if machine.canTransition target then transition target "readiness settle"
  else force target "readiness settle"

/-- Assess, keep the result and settle into it. -/
def refresh : Proc (Brain ε) Exn Readiness := do
  let readiness ← assessReadiness svc reg
  onRt (modify fun rt => { rt with readiness := readiness })
  onRt (settle readiness.state)
  return readiness

/-! Boot. -/

def report (name : String) (ok : Bool) (detail : String) : Proc (Runtime ε) Exn Unit :=
  modify fun rt => { rt with bootReport := rt.bootReport ++ [⟨name, ok, detail⟩] }

/-- A lifecycle transition, which never raises. -/
def lifecycle (f : Brain ε → Bool × Brain ε) : Proc (Brain ε) Exn Bool :=
  fun m => (.ok (f m).1, (f m).2)

/-- One round of the loop over `_ACTIVATION_ORDER`. -/
def startService (name : String) : Proc (Brain ε) Exn Unit := do
  if name = "safety_gateway" then pure ()
  else match reg.find name with
    | none => pure ()
    | some s =>
      let ok ← lifecycle (activateWithDeps reg s)
      let lastError ← reads fun m => (m.table name).lastError
      onRt (report ("start_" ++ name) ok (if ok then "" else lastError))
      if !ok then modify fun m => { m with failedServices := m.failedServices ++ [name] }

def startDrivers : Proc (Runtime ε) Exn Unit := do
  match ← attempt (outside svc.connect) with
  | .ok _ => report "start_device_drivers" true svc.backendKind
  | .error e => report "start_device_drivers" false e.msg

def validateBody : Proc (Runtime ε) Exn Unit := do
  let fatal := svc.body.fatalIssues
  report "load_body_manifest" true svc.body.bodyId
  report "validate_body" fatal.isEmpty (if fatal.isEmpty then "ok" else "; ".intercalate fatal)

/-- The boot steps after the safety controller has been contacted. -/
def bootAfterContact : Proc (Brain ε) Exn Readiness := do
  let powerOff ← reads fun m => !svc.powerEnabled m.rt.env
  onRt (report "confirm_power_disabled" powerOff
    (if powerOff then "" else "power was unexpectedly enabled"))
  onRt (transition .hardwareCheck "safety contacted")
  onRt (validateBody svc)
  onRt (startDrivers svc)
  forEach activationOrder (startService reg)
  onRt (transition .safeIdle "boot checks complete")
  onRt (report "enter_safe_idle" true "")
  let readiness ← refresh svc reg
  onRt (report "assess_readiness" true readiness.state.value)
  return readiness

def bootWithoutSafety : Proc (Runtime ε) Exn Readiness := do
  report "contact_safety_controller" false "no safety gateway"
  transition .hardwareCheck ""
  transition .motionInhibited "safety gateway missing"
  let readiness : Readiness := ⟨.motionInhibited, ["safety gateway missing"], []⟩
  modify fun rt => { rt with readiness := readiness }
  return readiness

def boot : Proc (Brain ε) Exn Readiness := do
  onRt (modify fun rt => { rt with bootReport := [] })
  onRt (transition .booting "boot start")
  onRt (report "verify_os_image" true "signature verification (stub in reference)")
  onRt (report "start_kernel" true "")
  onRt (report "mount_readonly_rootfs" true "")
  onRt (report "start_logging" true "")
  match reg.find "safety_gateway" with
  | none => onRt bootWithoutSafety
  | some safety =>
    let safetyOk ← lifecycle (activate safety)
    let lastError ← reads fun m => (m.table "safety_gateway").lastError
    onRt (report "start_watchdog" safetyOk "")
    onRt (report "contact_safety_controller" safetyOk (if safetyOk then "" else lastError))
    bootAfterContact svc reg

/-! Shutdown and restarts. -/

def requestShutdown : Proc (Brain ε) Exn Unit := do
  let machine ← reads fun m => m.rt.machine
  if machine.state ≠ .shuttingDown then onRt (force .shuttingDown "shutdown requested")
  forEach reg.services.reverse shutdown
  onRt (outside svc.shutdown)
  onRt (force .poweredOff "shutdown complete")

/-- One round of the loop over a copy of `failed_services`. -/
def restartOne (name : String) : Proc (Brain ε) Exn Bool :=
  match reg.find name with
  | none => raise ⟨.keyError, name⟩
  | some s => do
    let ok ← lifecycle (restart s)
    if ok then modify fun m => { m with failedServices := m.failedServices.erase name }
    return ok

def restartEach : List String → Proc (Brain ε) Exn (List String)
  | [] => pure []
  | name :: names => do
    let ok ← restartOne reg name
    let restarted ← restartEach names
    return if ok then name :: restarted else restarted

def restartFailed : Proc (Brain ε) Exn (List String) := do
  restartEach reg (← reads Managed.failedServices)

end DroidOs.Services.Supervisor
