/- GID: DroidOs/Services/SafetyGateway
   generality: I
   source: src/droidos/services/safety_gateway.py
   digest: The gateway to the safety controller with its permission token and persisted latch. -/

import DroidOs.Core.Context
import DroidOs.Services.Lifecycle

set_option autoImplicit false
set_option relaxedAutoImplicit false

namespace DroidOs.Services.SafetyGateway

open DroidOs.Lib.Procedure
open DroidOs.Core.Values DroidOs.Core.States DroidOs.Core.Context
open DroidOs.Backends.SafetyController
open Lifecycle

variable {ε : Type} (svc : Services ε)

/-- `self.controller.status()`. -/
def controllerStatus : Proc (Runtime ε) Exn SafetyControllerState := fun rt =>
  (.ok (rt.controller.status rt.now).1,
    { rt with controller := (rt.controller.status rt.now).2 })

def heartbeat : Proc (Runtime ε) Exn Unit := fun rt =>
  (.ok (), { rt with controller := rt.controller.heartbeat rt.now })

/-! Persistence. -/

/-- The reason as the controller puts it into a fault name. -/
def reasonText (text : PyText) (v : PyVal) : String :=
  match v with
  | .str s => s
  | v => if v.truthy then text.str v else ""

def loadLatch : Proc (Runtime ε) Exn Unit := do
  match ← reads Runtime.latch with
  | .missing | .unreadable | .malformed => pure ()
  | .undecodable => raise ⟨.other "UnicodeDecodeError", "'utf-8' codec can't decode byte"⟩
  | .document v =>
    if (← ofExcept (v.get "estop_engaged" .none)).truthy then
      let reason ← ofExcept (v.get "reason" (.str "persisted_latch"))
      onController (SimulatedSafetyController.engageEstop (reasonText svc.text reason))

/-- Loading the latch raises on what it cannot read, engages the e-stop that it finds, and else does
nothing. -/
theorem loadLatch_cases (rt : Runtime ε) :
    ((∃ e, loadLatch svc rt = (.error e, rt)) ∧ (rt.latch = .undecodable ∨
      ∃ v e, rt.latch = .document v ∧ v.get "estop_engaged" .none = .error e)) ∨
    (∃ v flag reason, rt.latch = .document v ∧ v.get "estop_engaged" .none = .ok flag ∧
      flag.truthy = true ∧
        loadLatch svc rt = (.ok (), { rt with controller := rt.controller.engageEstop reason })) ∨
    (loadLatch svc rt = (.ok (), rt) ∧ rt.latch ≠ .undecodable ∧ ∀ v, rt.latch = .document v →
      ∃ flag, v.get "estop_engaged" .none = .ok flag ∧ flag.truthy = false) := by
  unfold loadLatch
  rw [reads_bind]
  cases file : rt.latch with
  | missing => exact .inr (.inr ⟨rfl, by simp, by simp⟩)
  | unreadable => exact .inr (.inr ⟨rfl, by simp, by simp⟩)
  | malformed => exact .inr (.inr ⟨rfl, by simp, by simp⟩)
  | undecodable => exact .inl ⟨⟨_, rfl⟩, .inl rfl⟩
  | document v =>
    dsimp only
    cases flagged : v.get "estop_engaged" .none with
    | error e => exact .inl ⟨⟨e, rfl⟩, .inr ⟨v, e, rfl, flagged⟩⟩
    | ok flag =>
      rw [bind_ok (ofExcept_run _ _)]
      cases engages : flag.truthy with
      | false =>
        refine .inr (.inr ⟨rfl, by simp, ?_⟩)
        rintro v' ⟨⟩
        exact ⟨flag, flagged, engages⟩
      | true =>
        have found : ∃ reason, v.get "reason" (.str "persisted_latch") = .ok reason := by
          cases v with
          | dict items => exact ⟨_, rfl⟩
          | _ => cases flagged
        obtain ⟨reason, given⟩ := found
        refine .inr (.inl ⟨v, flag, reasonText svc.text reason, rfl, flagged, engages, ?_⟩)
        rw [if_pos rfl, given, bind_ok (ofExcept_run _ _), onController_run, ← file]

/-- The record that `_save_latch` writes. -/
def latchRecord (estop : Bool) (reason : String) (now : ℚ) : LatchFile :=
  .document (.dict [(.str "estop_engaged", .bool estop), (.str "reason", .str reason),
    (.str "stamp", .float (.fin now))])

def saveLatch (estop : Bool) (reason : String) : Proc (Runtime ε) Exn Unit :=
  modify fun rt => { rt with
    latch := match rt.latchWrite with
      | .succeeds => latchRecord estop reason rt.now
      | .failsAtOpen => rt.latch
      | .failsWriting leaves => leaves }

def safetyRecord (event detail : String) (engaged : Bool) : AuditRecord where
  kind := "safety"
  reason := some event
  detail := some [(.str "detail", .str detail)]
  safetyState := some (if engaged then "EMERGENCY_STOPPED" else "ok")

def safetyEvent (event detail : String) : Event where
  topic := "safety/event"
  payload := [(.str "event", .str event), (.str "detail", .str detail)]
  source := "safety_gateway"

/-- `_log_safety_event`. Reading the status here runs the watchdog. -/
def logSafetyEvent (event detail : String) : Proc (Runtime ε) Exn Unit := do
  let st ← controllerStatus
  outside (svc.emit (safetyRecord event detail st.estopEngaged))
  outside (svc.publish (safetyEvent event detail))

/-! Lifecycle hooks. -/

def onConfigure : Proc (Runtime ε) Exn Bool := do
  loadLatch svc
  heartbeat
  pure true

/-- Actuator power is confirmed off before anything else starts. -/
def onActivate : Proc (Runtime ε) Exn Bool := do
  heartbeat
  onController SimulatedSafetyController.disablePower
  outside (svc.setPower false)
  pure true

def safetyGateway : ManagedService (Runtime ε) where
  name := "safety_gateway"
  hook
    | .onConfigure => onConfigure svc
    | .onActivate => onActivate svc
    | _ => pure true

/-! Status. -/

/-- A live host is contacting the controller now, so the reading is never stale. -/
def status : Proc (Runtime ε) Exn SafetyControllerState := do
  heartbeat
  controllerStatus

def healthy : Proc (Runtime ε) Exn Bool := do
  return (← status).healthy

def estopEngaged : Proc (Runtime ε) Exn Bool := do
  return (← controllerStatus).estopEngaged

/-- The level and message of the gateway's own diagnostic; no heartbeat comes first. -/
def diagnostics : Proc (Runtime ε) Exn (DiagnosticLevel × String) := do
  let st ← controllerStatus
  if st.estopEngaged then return (.error, "EMERGENCY STOP engaged")
  else if !st.faults.isEmpty then
    return (.error, "safety faults: " ++ ", ".intercalate st.faults)
  else if !st.alive || !st.watchdogOk then return (.error, "safety controller link unhealthy")
  else return (.ok, "safety controller healthy")

/-! Emergency stop. -/

def engageEstop (reason : String) : Proc (Runtime ε) Exn Unit := do
  onController (SimulatedSafetyController.engageEstop reason)
  outside (svc.setPower false)
  saveLatch true reason
  logSafetyEvent svc "emergency_stop" reason
  force .emergencyStopped ("estop: " ++ reason)
  modify fun rt => { rt with estopCalls := rt.estopCalls ++ [.engaged] }

def resetEstop : Proc (Runtime ε) Exn Bool := do
  onController SimulatedSafetyController.resetEstop
  saveLatch false ""
  logSafetyEvent svc "estop_reset" "recovery_complete"
  modify fun rt => { rt with estopCalls := rt.estopCalls ++ [.reset] }
  pure true

/-! Motion permission. -/

/-- Why a controller that is not healthy refuses. -/
def refusal (st : SafetyControllerState) : String :=
  let reasons :=
    (if st.estopEngaged then ["emergency stop engaged"] else []) ++
    (if !st.alive || !st.watchdogOk then ["safety controller link unhealthy"] else []) ++
    (if !st.faults.isEmpty then ["active safety faults: " ++ ", ".intercalate st.faults] else [])
  if reasons.isEmpty then "safety controller not healthy" else "; ".intercalate reasons

/-- `f"mp-{int(time.time() * 1000)}"`. -/
def tokenAt (now : ℚ) : String := "mp-" ++ toString ((now * 1000).num.tdiv (now * 1000).den)

/-- `controller.request_power_enable()`. -/
def requestPowerEnable : Proc (Runtime ε) Exn Bool := fun rt =>
  (.ok rt.controller.requestPowerEnable.1,
    { rt with controller := rt.controller.requestPowerEnable.2 })

def requestMotionPermission : Proc (Runtime ε) Exn MotionPermission := do
  let st ← status
  if !st.healthy then return { granted := false, reason := refusal st }
  if !(← requestPowerEnable) then
    return { granted := false, reason := "safety controller refused to enable motor power" }
  outside (svc.setPower true)
  let token ← reads fun rt => tokenAt rt.now
  modify fun rt => { rt with token := token }
  logSafetyEvent svc "motion_permission_granted" token
  return { granted := true, reason := "granted", token := token }

def releaseMotionPermission : Proc (Runtime ε) Exn Unit := do
  onController SimulatedSafetyController.disablePower
  outside (svc.setPower false)
  let token ← reads Runtime.token
  if token ≠ "" then logSafetyEvent svc "motion_permission_released" token
  modify fun rt => { rt with token := "" }

def reportFault (name : String) : Proc (Runtime ε) Exn Unit := do
  onController (SimulatedSafetyController.reportFault name)
  outside (svc.setPower false)
  logSafetyEvent svc "fault_reported" name

/-- Losing the link opens the controller's contactor and leaves the backend alone. -/
def setSafetyLink (up : Bool) : Proc (Runtime ε) Exn Unit := do
  onController (SimulatedSafetyController.setLink up)
  if !up then logSafetyEvent svc "safety_link_lost" ""

theorem tokenAt_ne_empty (now : ℚ) : tokenAt now ≠ "" := by
  intro same
  have chars := congrArg String.toList same
  simp [tokenAt, String.toList_append] at chars

@[simp] theorem controllerStatus_run (rt : Runtime ε) :
    controllerStatus rt = (.ok ((rt.controller.checkWatchdog rt.now).snapshot rt.now),
      { rt with controller := rt.controller.checkWatchdog rt.now }) := rfl

@[simp] theorem heartbeat_run (rt : Runtime ε) :
    heartbeat rt = (.ok (), { rt with controller := rt.controller.heartbeat rt.now }) := rfl

/-! What decides about a permission. -/

/-- The controller once the gateway has contacted it and read its status. -/
def contacted (rt : Runtime ε) : SimulatedSafetyController :=
  (rt.controller.heartbeat rt.now).checkWatchdog rt.now

/-- The gateway would grant a motion permission. -/
def grants (rt : Runtime ε) : Bool := ((contacted rt).snapshot rt.now).healthy

/-- The grant proper, after the contactor has closed. -/
def grantPermission : Proc (Runtime ε) Exn MotionPermission := do
  outside (svc.setPower true)
  let token ← reads fun rt => tokenAt rt.now
  modify fun rt => { rt with token := token }
  logSafetyEvent svc "motion_permission_granted" token
  return { granted := true, reason := "granted", token := token }

variable {svc} {rt : Runtime ε}

theorem status_run : status rt = (.ok ((contacted rt).snapshot rt.now),
    { rt with controller := contacted rt }) := rfl

theorem grants_mayEnable (grant : grants rt = true) : (contacted rt).mayEnable = true :=
  ((SimulatedSafetyController.healthy_iff _ _).mp grant).1

theorem request_refused (refuses : grants rt = false) : requestMotionPermission svc rt =
    (.ok { granted := false, reason := refusal ((contacted rt).snapshot rt.now) },
      { rt with controller := contacted rt }) := by
  unfold requestMotionPermission
  rw [bind_ok status_run]
  rw [show ((contacted rt).snapshot rt.now).healthy = false from refuses]
  rfl

theorem request_granted (grant : grants rt = true) : requestMotionPermission svc rt =
    grantPermission svc { rt with controller := { contacted rt with power := true } } := by
  have closes : requestPowerEnable { rt with controller := contacted rt } =
      (.ok true, { rt with controller := { contacted rt with power := true } }) := by
    simp [requestPowerEnable, SimulatedSafetyController.requestPowerEnable, grants_mayEnable grant]
  unfold requestMotionPermission
  rw [bind_ok status_run]
  rw [show ((contacted rt).snapshot rt.now).healthy = true from grant]
  simp only [Bool.not_true, Bool.false_eq_true, if_false]
  rw [bind_ok closes]
  rfl

end DroidOs.Services.SafetyGateway
