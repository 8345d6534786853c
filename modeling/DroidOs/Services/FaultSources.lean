/- GID: DroidOs/Services/FaultSources
   generality: I
   source: src/droidos/services/diagnostics.py
   digest: When each diagnostic source returns, and exactly what makes it report a fault. -/

import DroidOs.Services.Diagnostics

set_option autoImplicit false
set_option relaxedAutoImplicit false

namespace DroidOs.Services.FaultSources

open DroidOs.Lib.Procedure
open DroidOs.Core.Values DroidOs.Core.Context
open DroidOs.Body.Package
open DroidOs.Backends.Unpowered DroidOs.Backends.Hardware
open Diagnostics Lifecycle

variable {δ : Type} (world : Setting) (host : Host δ)

/-- There is an actuator, and nothing is left to receive. -/
structure Settled (w : Station δ) : Prop where
  listed : actuatorNames w.backend ≠ []
  received : received world w.backend = w.backend

/-- Every source of the diagnostics returns. -/
structure Reporting (w : Station δ) : Prop where
  warmTemp : ∃ warn, world.body.limits.motorWarnTemp world.text = .ok warn
  faultTemp : ∃ fault, world.body.limits.motorFaultTemp world.text = .ok fault
  actuators : ∃ states, (readAllActuators world w.backend).1 = .ok states
  sensor : ∀ spec ∈ world.body.sensors, ∃ reading, readSensor world spec.id w.backend = .ok reading
  battery : ∃ state, (Backends.Hardware.battery world w.backend).1 = .ok state
  warnPercent : ∃ percent, batteryLimit world "warn_percent" 30 = .ok percent
  criticalPercent : ∃ percent, batteryLimit world "critical_percent" 10 = .ok percent
  path : ∃ blocked, isPathBlocked world w.backend = .ok blocked
  camera : ∃ has, Perception.hasCamera world.body = .ok has
  mobile : ∃ mobile, world.body.capabilities.supportsMotion = .ok mobile

/-- An actuator has a fault code, is warm or hot, or has errors on its line. -/
def ActuatorTrouble (w : Station δ) : Prop := ∃ warn fault states,
  world.body.limits.motorWarnTemp world.text = .ok warn ∧
  world.body.limits.motorFaultTemp world.text = .ok fault ∧
  (readAllActuators world w.backend).1 = .ok states ∧
  ∃ a ∈ states, a.faultCode ≠ "" ∨ fault.le a.temperatureC = true ∨ warn.le a.temperatureC = true ∨
    a.commErrors.truthy = true

/-- A sensor of the body does not respond. -/
def SensorTrouble (w : Station δ) : Prop := ∃ spec ∈ world.body.sensors, ∃ reading,
  readSensor world spec.id w.backend = .ok reading ∧ reading.ok = false

/-- An actuator has a fault code or is at its fault temperature. -/
def ActuatorError (w : Station δ) : Prop := ∃ fault states,
  world.body.limits.motorFaultTemp world.text = .ok fault ∧
  (readAllActuators world w.backend).1 = .ok states ∧
  ∃ a ∈ states, a.faultCode ≠ "" ∨ fault.le a.temperatureC = true

/-- A sensor that the body requires does not respond. -/
def SensorError (w : Station δ) : Prop := ∃ spec ∈ world.body.sensors,
  spec.id ∈ world.body.manifest.requiredSensors ∧
  ∃ reading, readSensor world spec.id w.backend = .ok reading ∧ reading.ok = false

/-- The battery is at or below one of its two marks. -/
def BatteryTrouble (w : Station δ) : Prop := ∃ state warn crit,
  (Backends.Hardware.battery world w.backend).1 = .ok state ∧
  batteryLimit world "warn_percent" 30 = .ok warn ∧ batteryLimit world "critical_percent" 10 = .ok crit ∧
  (state.percent.le crit = true ∨ state.percent.le warn = true)

/-- The place is lost, or the lidar that should tell it does not respond. -/
def PlaceTrouble (w : Station δ) : Prop :=
  ∃ conf, localizationConfidence world w.backend = .ok conf ∧ conf.lt (.fin (3 / 5)) = true

/-- A biped has no gait policy, or one with issues. -/
def GaitTrouble (w : Station δ) : Prop :=
  world.body.manifest.locomotionType = "biped" ∧ ¬ (w.gaitPolicy.isSome = true ∧ w.gaitIssues = [])

/-- The body has a camera that does not respond. -/
def CameraTrouble (w : Station δ) : Prop :=
  Perception.hasCamera world.body = .ok true ∧ cameraOk w.backend = false

variable {world host} {w : Station δ}

@[simp] theorem isFault_iff (d : DiagnosticStatus) : d.isFault = true ↔ d.level ≠ .ok := by
  unfold DiagnosticStatus.isFault
  cases d.level <;> simp [severity]

/-! The backend's own sources, over a settled station. -/

section

variable (settled : Settled world w)
include settled

theorem readAllActuators_run : onBackend (readAllActuators world) w =
    ((readAllActuators world w.backend).1, w) := by
  unfold onBackend
  rw [readAllActuators_eq settled.listed, settled.received]

theorem battery_run : onBackend (Backends.Hardware.battery world) w =
    ((Backends.Hardware.battery world w.backend).1, w) := by
  unfold onBackend
  rw [battery_eq, settled.received]

theorem actuators_same : (actuators world w).2 = w :=
  bind_same rfl fun _ => bind_same rfl fun _ =>
    bind_same (by rw [readAllActuators_run settled]) fun _ => rfl

theorem actuators_iff (items : List DiagnosticStatus) : (actuators world w).1 = .ok items ↔
    ∃ warn, world.body.limits.motorWarnTemp world.text = .ok warn ∧
    ∃ fault, world.body.limits.motorFaultTemp world.text = .ok fault ∧
    ∃ states, (readAllActuators world w.backend).1 = .ok states ∧
      states.map (actuatorStatus world warn fault) = items := by
  unfold actuators
  rw [bind_same_iff rfl]
  refine exists_congr fun warn => and_congr_right fun _ => ?_
  rw [bind_same_iff rfl]
  refine exists_congr fun fault => and_congr_right fun _ => ?_
  rw [bind_same_iff (by rw [readAllActuators_run settled]), readAllActuators_run settled]
  refine exists_congr fun states => and_congr_right fun _ => ?_
  rw [pure_run, Except.ok.injEq]

theorem actuators_faults {items : List DiagnosticStatus} (ran : (actuators world w).1 = .ok items) :
    (∃ d ∈ items, d.isFault = true) ↔ ActuatorTrouble world w := by
  obtain ⟨warn, warm, fault, hot, states, read, rfl⟩ := (actuators_iff settled items).mp ran
  have each (a : ActuatorState) : (actuatorStatus world warn fault a).isFault = true ↔
      a.faultCode ≠ "" ∨ fault.le a.temperatureC = true ∨ warn.le a.temperatureC = true ∨
        a.commErrors.truthy = true := by
    rw [isFault_iff]
    unfold actuatorStatus actuatorFinding
    by_cases code : a.faultCode ≠ ""
    · simp [code]
    cases above : fault.le a.temperatureC <;> cases warmer : warn.le a.temperatureC <;>
      cases errors : a.commErrors.truthy <;> simp [code]
  simp only [List.mem_map, exists_exists_and_eq_and, each]
  constructor
  · rintro ⟨a, member, trouble⟩
    exact ⟨warn, fault, states, warm, hot, read, a, member, trouble⟩
  · rintro ⟨warn', fault', states', warm', hot', read', a, member, trouble⟩
    rw [warm] at warm'
    rw [hot] at hot'
    rw [read] at read'
    cases warm'
    cases hot'
    cases read'
    exact ⟨a, member, trouble⟩

theorem actuators_errors {items : List DiagnosticStatus} (ran : (actuators world w).1 = .ok items) :
    (∃ d ∈ items, d.level = .error) ↔ ActuatorError world w := by
  obtain ⟨warn, warm, fault, hot, states, read, rfl⟩ := (actuators_iff settled items).mp ran
  have each (a : ActuatorState) : (actuatorStatus world warn fault a).level = .error ↔
      a.faultCode ≠ "" ∨ fault.le a.temperatureC = true := by
    unfold actuatorStatus actuatorFinding
    by_cases code : a.faultCode ≠ ""
    · simp [code]
    cases above : fault.le a.temperatureC <;> cases warmer : warn.le a.temperatureC <;>
      cases errors : a.commErrors.truthy <;> simp [code]
  simp only [List.mem_map, exists_exists_and_eq_and, each]
  constructor
  · rintro ⟨a, member, trouble⟩
    exact ⟨fault, states, hot, read, a, member, trouble⟩
  · rintro ⟨fault', states', hot', read', a, member, trouble⟩
    rw [hot] at hot'
    rw [read] at read'
    cases hot'
    cases read'
    exact ⟨a, member, trouble⟩

omit settled in
private theorem sensor_same (spec : SensorSpec) : (sensor world host spec w).2 = w := rfl

omit settled in
private theorem sensor_iff (spec : SensorSpec) (d : DiagnosticStatus) : (sensor world host spec w).1 = .ok d ↔
    ∃ reading, readSensor world spec.id w.backend = .ok reading ∧ sensorStatus world host spec reading = d := by
  unfold sensor
  rcases readSensor world spec.id w.backend with e | reading <;> simp [Except.map]

omit settled in
theorem sensors_same : (sensors world host w).2 = w := gather_same fun spec _ => sensor_same spec

omit settled in
theorem sensors_returns : (∃ items, (sensors world host w).1 = .ok items) ↔
    ∀ spec ∈ world.body.sensors, ∃ reading, readSensor world spec.id w.backend = .ok reading := by
  unfold sensors
  rw [gather_returns_iff fun spec _ => sensor_same spec]
  simp only [sensor_iff]
  refine forall₂_congr fun spec _ => ⟨?_, ?_⟩
  · rintro ⟨d, reading, read, _⟩
    exact ⟨reading, read⟩
  · rintro ⟨reading, read⟩
    exact ⟨_, reading, read, rfl⟩

omit settled in
theorem sensors_faults {items : List DiagnosticStatus} (ran : (sensors world host w).1 = .ok items) :
    (∃ d ∈ items, d.isFault = true) ↔ SensorTrouble world w := by
  rw [gather_exists_iff (fun spec _ => sensor_same spec) ran]
  simp only [sensor_iff]
  refine exists_congr fun spec => and_congr_right fun _ => ⟨?_, ?_⟩
  · rintro ⟨d, ⟨reading, read, rfl⟩, fault⟩
    refine ⟨reading, read, ?_⟩
    rw [isFault_iff] at fault
    cases responds : reading.ok with
    | true => simp [sensorStatus, responds] at fault
    | false => rfl
  · rintro ⟨reading, read, silent⟩
    refine ⟨_, ⟨reading, read, rfl⟩, ?_⟩
    rw [isFault_iff]
    by_cases required : spec.id ∈ world.body.manifest.requiredSensors <;> simp [sensorStatus, silent, required]

omit settled in
theorem sensors_errors {items : List DiagnosticStatus} (ran : (sensors world host w).1 = .ok items) :
    (∃ d ∈ items, d.level = .error) ↔ SensorError world w := by
  rw [gather_exists_iff (fun spec _ => sensor_same spec) ran]
  simp only [sensor_iff]
  refine exists_congr fun spec => and_congr_right fun _ => ⟨?_, ?_⟩
  · rintro ⟨d, ⟨reading, read, rfl⟩, error⟩
    by_cases required : spec.id ∈ world.body.manifest.requiredSensors
    · cases responds : reading.ok with
      | true => simp [sensorStatus, responds] at error
      | false => exact ⟨required, reading, read, responds⟩
    · exact absurd error (by cases responds : reading.ok <;> simp [sensorStatus, responds, required])
  · rintro ⟨required, reading, read, silent⟩
    exact ⟨_, ⟨reading, read, rfl⟩, by simp [sensorStatus, silent, required]⟩

theorem battery_same : (Diagnostics.battery world w).2 = w :=
  bind_same (by rw [battery_run settled]) fun _ => bind_same rfl fun _ => bind_same rfl fun _ => rfl

theorem battery_iff (items : List DiagnosticStatus) : (Diagnostics.battery world w).1 = .ok items ↔
    ∃ state, (Backends.Hardware.battery world w.backend).1 = .ok state ∧
    ∃ warn, batteryLimit world "warn_percent" 30 = .ok warn ∧
    ∃ crit, batteryLimit world "critical_percent" 10 = .ok crit ∧
      [batteryStatus world warn crit state] = items := by
  unfold Diagnostics.battery
  rw [bind_same_iff (by rw [battery_run settled]), battery_run settled]
  refine exists_congr fun state => and_congr_right fun _ => ?_
  rw [bind_same_iff rfl]
  refine exists_congr fun warn => and_congr_right fun _ => ?_
  rw [bind_same_iff rfl]
  refine exists_congr fun crit => and_congr_right fun _ => ?_
  rw [pure_run, Except.ok.injEq]

theorem battery_faults {items : List DiagnosticStatus} (ran : (Diagnostics.battery world w).1 = .ok items) :
    (∃ d ∈ items, d.isFault = true) ↔ BatteryTrouble world w := by
  obtain ⟨state, read, warn, low, crit, empty, rfl⟩ := (battery_iff settled items).mp ran
  have level : (batteryStatus world warn crit state).isFault = true ↔
      state.percent.le crit = true ∨ state.percent.le warn = true := by
    rw [isFault_iff]
    unfold batteryStatus
    cases state.percent.le crit <;> cases state.percent.le warn <;> simp
  simp only [List.mem_singleton, exists_eq_left, level]
  constructor
  · exact fun trouble => ⟨state, warn, crit, read, low, empty, trouble⟩
  · rintro ⟨state', warn', crit', read', low', empty', trouble⟩
    rw [read] at read'
    rw [low] at low'
    rw [empty] at empty'
    cases read'
    cases low'
    cases empty'
    exact trouble

end

/-! The sources of the services. -/

/-- The source returns something at or above WARN. -/
def Reports (source : Proc (Station δ) Exn (List DiagnosticStatus)) (w : Station δ) : Prop :=
  ∃ items, (source w).1 = .ok items ∧ ∃ d ∈ items, d.isFault = true

/-- It returns and leaves the station as it is. -/
def Returns (source : Proc (Station δ) Exn (List DiagnosticStatus)) (w : Station δ) : Prop :=
  ∃ items, (source w).1 = .ok items

/-- The confidence is a number. -/
private theorem confidence_fin {conf : PyFloat} (ran : localizationConfidence world w.backend = .ok conf) :
    ∃ q, conf = .fin q := by
  unfold localizationConfidence at ran
  split at ran
  · cases ran
    exact ⟨_, rfl⟩
  split at ran
  · next lidar _ =>
    obtain ⟨reading, _, ran⟩ := except_bind_ok ran
    cases ran
    split_ifs
    · exact ⟨_, rfl⟩
    · exact ⟨_, rfl⟩
  · cases ran
    exact ⟨_, rfl⟩

theorem confidence_returns
    (sensors : ∀ spec ∈ world.body.sensors, ∃ reading, readSensor world spec.id w.backend = .ok reading) :
    ∃ conf, localizationConfidence world w.backend = .ok conf := by
  unfold localizationConfidence
  split
  · exact ⟨_, rfl⟩
  split
  · next lidar found =>
    obtain ⟨reading, read⟩ := sensors lidar (List.mem_of_find?_eq_some found)
    rw [read]
    exact ⟨_, rfl⟩
  · exact ⟨_, rfl⟩

private theorem noted_same (service name : String) : (noted host service name w).2 = w := rfl

private theorem noted_returns (service name : String) : Returns (noted host service name) w := ⟨_, rfl⟩

private theorem noted_silent (service name : String) : ¬ Reports (noted host service name) w := by
  rintro ⟨items, ran, d, member, fault⟩
  cases ran
  rw [List.mem_singleton] at member
  subst member
  simp at fault

private theorem stateEstimator_iff (items : List DiagnosticStatus) : (stateEstimator world w).1 = .ok items ↔
    ∃ conf, localizationConfidence world w.backend = .ok conf ∧
      [{ name := "state_estimator/localization"
         level := if conf.lt (.fin (2 / 5)) then .error else if conf.lt (.fin (3 / 5)) then .warn else .ok
         message := "localization confidence " ++ world.text.fixed 2 conf }] = items := by
  unfold stateEstimator
  rw [bind_same_iff rfl]
  refine exists_congr fun conf => and_congr_right fun _ => ?_
  rw [pure_run, Except.ok.injEq]

private theorem stateEstimator_reports : Reports (stateEstimator world) w ↔ PlaceTrouble world w := by
  unfold Reports
  simp only [stateEstimator_iff]
  constructor
  · rintro ⟨_, ⟨conf, ran, rfl⟩, d, member, fault⟩
    refine ⟨conf, ran, ?_⟩
    rw [List.mem_singleton] at member
    subst member
    obtain ⟨q, rfl⟩ := confidence_fin ran
    by_contra high
    have higher : (PyFloat.fin q).lt (.fin (2 / 5)) = false := by
      simp only [PyFloat.lt, decide_eq_true_eq, not_lt, decide_eq_false_iff_not] at high ⊢
      linarith
    rw [isFault_iff, higher, if_neg (by simp), if_neg high] at fault
    exact fault rfl
  · rintro ⟨conf, ran, low⟩
    refine ⟨_, ⟨conf, ran, rfl⟩, _, List.mem_singleton_self _, ?_⟩
    rw [isFault_iff, low]
    split <;> simp

/-- Navigation knows of a lost place only what the estimator knows. -/
private theorem navigation_reports (reports : Reports (navigation world host) w) : PlaceTrouble world w := by
  obtain ⟨items, ran, d, member, fault⟩ := reports
  obtain ⟨ok, located, ran⟩ := (bind_same_iff rfl).mp ran
  obtain ⟨_, _, ran⟩ := (bind_same_iff rfl).mp ran
  cases ran
  obtain ⟨conf, known, ran⟩ := except_bind_ok located
  cases ran
  obtain ⟨q, rfl⟩ := confidence_fin known
  refine ⟨_, known, ?_⟩
  rw [List.mem_singleton] at member
  subst member
  by_contra high
  have sure : minLocalizationConfidence.le (.fin q) = true := by
    simp only [PyFloat.lt, decide_eq_true_eq, not_lt] at high
    simp only [minLocalizationConfidence, PyFloat.le, PyFloat.lt, Bool.or_eq_true, decide_eq_true_eq]
    left
    linarith
  rw [isFault_iff, sure] at fault
  exact fault rfl

private theorem perception_iff (items : List DiagnosticStatus) : (perception world w).1 = .ok items ↔
    ∃ has, Perception.hasCamera world.body = .ok has ∧
      (if has then
        [{ name := "perception/camera/front"
           level := if cameraOk w.backend then .ok else .error
           message := if cameraOk w.backend then "front camera streaming" else "front camera not responding" }]
        else [{ name := "perception/camera", level := .ok, message := "no camera on this body" }]) = items := by
  unfold perception
  rw [bind_same_iff rfl]
  refine exists_congr fun has => and_congr_right fun _ => ?_
  cases has <;> simp

private theorem perception_reports : Reports (perception world) w ↔ CameraTrouble world w := by
  unfold Reports CameraTrouble
  simp only [perception_iff]
  constructor
  · rintro ⟨_, ⟨has, ran, rfl⟩, d, member, fault⟩
    rw [isFault_iff] at fault
    cases has with
    | false => simp_all
    | true =>
      refine ⟨ran, ?_⟩
      cases streams : cameraOk w.backend with
      | false => rfl
      | true => simp_all
  · rintro ⟨ran, dark⟩
    refine ⟨_, ⟨true, ran, rfl⟩, ?_⟩
    simp [dark]

private theorem motion_iff (items : List DiagnosticStatus) : (motion world host w).1 = .ok items ↔
    ∃ mobile, world.body.capabilities.supportsMotion = .ok mobile ∧
      { name := "motion/controller", level := .ok
        message := host.note "motion" w ++ " (" ++ (if mobile then "mobile" else "stationary") ++ ")" } ::
        (if world.body.manifest.locomotionType = "biped" then [gaitStatus host w.gaitPolicy w.gaitIssues]
          else []) = items := by
  unfold motion
  rw [bind_same_iff rfl]
  refine exists_congr fun mobile => and_congr_right fun _ => ?_
  rw [reads_bind, reads_bind, reads_bind, pure_run, Except.ok.injEq]

private theorem gaitStatus_isFault (w : Station δ) : (gaitStatus host w.gaitPolicy w.gaitIssues).isFault = true ↔
    ¬ (w.gaitPolicy.isSome = true ∧ w.gaitIssues = []) := by
  rw [isFault_iff]
  unfold gaitStatus
  split <;> simp_all

private theorem motion_reports (capable : ∃ mobile, world.body.capabilities.supportsMotion = .ok mobile) :
    Reports (motion world host) w ↔ GaitTrouble world w := by
  unfold Reports GaitTrouble
  simp only [motion_iff]
  constructor
  · rintro ⟨_, ⟨mobile, _, rfl⟩, d, member, fault⟩
    rcases List.mem_cons.mp member with rfl | member
    · simp at fault
    · split at member
      · next biped =>
        rw [List.mem_singleton] at member
        subst member
        exact ⟨biped, (gaitStatus_isFault w).mp fault⟩
      · cases member
  · rintro ⟨biped, trouble⟩
    obtain ⟨mobile, ran⟩ := capable
    refine ⟨_, ⟨mobile, ran, rfl⟩, gaitStatus host w.gaitPolicy w.gaitIssues, ?_, (gaitStatus_isFault w).mpr trouble⟩
    rw [if_pos biped]
    exact List.mem_cons_of_mem _ (List.mem_singleton_self _)

section

variable (settled : Settled world w)
include settled

private theorem hardware_iff (items : List DiagnosticStatus) : (hardware world w).1 = .ok items ↔
    ∃ states, (readAllActuators world w.backend).1 = .ok states ∧
    ∃ warn, world.body.limits.motorWarnTemp world.text = .ok warn ∧
      [{ name := "hardware/inventory", level := .ok
         message := toString (actuatorNames w.backend).length ++ " actuators, " ++
          toString world.body.sensors.length ++ " sensors" },
        { name := "hardware/cooling", level := .ok
          message := "fan at " ++ world.text.fixed 0 (fanSpeed warn states * 100) ++ "%" }] = items := by
  unfold hardware
  rw [bind_same_iff (by rw [readAllActuators_run settled]), readAllActuators_run settled]
  refine exists_congr fun states => and_congr_right fun _ => ?_
  rw [bind_same_iff rfl]
  refine exists_congr fun warn => and_congr_right fun _ => ?_
  rw [reads_bind, pure_run, Except.ok.injEq]

private theorem hardware_same : (hardware world w).2 = w :=
  bind_same (by rw [readAllActuators_run settled]) fun _ => bind_same rfl fun _ => rfl

private theorem hardware_silent : ¬ Reports (hardware world) w := by
  rintro ⟨items, ran, d, member, fault⟩
  obtain ⟨states, _, warn, _, rfl⟩ := (hardware_iff settled items).mp ran
  simp only [List.mem_cons, List.not_mem_nil, or_false] at member
  rcases member with rfl | rfl <;> simp at fault

/-- A service that overrides its diagnostics leaves the station as it is. -/
theorem overrides_same {name : String} {own : Proc (Station δ) Exn (List DiagnosticStatus)}
    (listed : (name, own) ∈ overrides world host) : (own w).2 = w := by
  simp only [overrides, List.mem_cons, List.not_mem_nil, or_false, Prod.mk.injEq] at listed
  rcases listed with ⟨-, rfl⟩ | ⟨-, rfl⟩ | ⟨-, rfl⟩ | ⟨-, rfl⟩ | ⟨-, rfl⟩ | ⟨-, rfl⟩ | ⟨-, rfl⟩ | ⟨-, rfl⟩ | ⟨-, rfl⟩
  · exact hardware_same settled
  · exact bind_same rfl fun _ => rfl
  · rfl
  · rfl
  · refine bind_same rfl fun has => ?_
    cases has <;> rfl
  · exact bind_same rfl fun _ => bind_same rfl fun _ => rfl
  · exact bind_same rfl fun _ => rfl
  · rfl
  · rfl

/-- Each of them returns exactly when what it reads does. -/
theorem overrides_return : (∀ entry ∈ overrides world host, Returns entry.2 w) ↔
    (∃ states, (readAllActuators world w.backend).1 = .ok states) ∧
    (∃ warn, world.body.limits.motorWarnTemp world.text = .ok warn) ∧
    (∃ conf, localizationConfidence world w.backend = .ok conf) ∧
    (∃ blocked, isPathBlocked world w.backend = .ok blocked) ∧
    (∃ has, Perception.hasCamera world.body = .ok has) ∧
    ∃ mobile, world.body.capabilities.supportsMotion = .ok mobile := by
  have cools : Returns (hardware world) w ↔ (∃ states, (readAllActuators world w.backend).1 = .ok states) ∧
      ∃ warn, world.body.limits.motorWarnTemp world.text = .ok warn := by
    unfold Returns
    simp only [hardware_iff settled]
    constructor
    · rintro ⟨items, states, read, warn, warm, _⟩
      exact ⟨⟨states, read⟩, warn, warm⟩
    · rintro ⟨⟨states, read⟩, warn, warm⟩
      exact ⟨_, states, read, warn, warm, rfl⟩
  have locates : Returns (stateEstimator world) w ↔ ∃ conf, localizationConfidence world w.backend = .ok conf := by
    unfold Returns
    simp only [stateEstimator_iff]
    exact ⟨fun ⟨_, conf, ran, _⟩ => ⟨conf, ran⟩, fun ⟨conf, ran⟩ => ⟨_, conf, ran, rfl⟩⟩
  have sees : Returns (perception world) w ↔ ∃ has, Perception.hasCamera world.body = .ok has := by
    unfold Returns
    simp only [perception_iff]
    exact ⟨fun ⟨_, has, ran, _⟩ => ⟨has, ran⟩, fun ⟨has, ran⟩ => ⟨_, has, ran, rfl⟩⟩
  have navigates : Returns (navigation world host) w ↔
      (∃ conf, localizationConfidence world w.backend = .ok conf) ∧
        ∃ blocked, isPathBlocked world w.backend = .ok blocked := by
    constructor
    · rintro ⟨items, ran⟩
      obtain ⟨ok, located, ran⟩ := (bind_same_iff rfl).mp ran
      obtain ⟨blocked, path, _⟩ := (bind_same_iff rfl).mp ran
      obtain ⟨conf, known, _⟩ := except_bind_ok located
      exact ⟨⟨conf, known⟩, blocked, path⟩
    · rintro ⟨⟨conf, known⟩, blocked, path⟩
      have located : localizationOk world w.backend = .ok (minLocalizationConfidence.le conf) := by
        rw [localizationOk, known]
        rfl
      exact ⟨_, (bind_same_iff rfl).mpr ⟨_, located, (bind_same_iff rfl).mpr ⟨blocked, path, rfl⟩⟩⟩
  have moves : Returns (motion world host) w ↔
      ∃ mobile, world.body.capabilities.supportsMotion = .ok mobile := by
    unfold Returns
    simp only [motion_iff]
    exact ⟨fun ⟨_, mobile, ran, _⟩ => ⟨mobile, ran⟩, fun ⟨mobile, ran⟩ => ⟨_, mobile, ran, rfl⟩⟩
  simp only [overrides, List.forall_mem_cons, cools, locates, sees, navigates, moves, noted_returns,
    List.not_mem_nil, false_imp_iff, implies_true, true_and, and_true]
  constructor
  · rintro ⟨⟨states, warn⟩, conf, has, ⟨-, blocked⟩, mobile⟩
    exact ⟨states, warn, conf, blocked, has, mobile⟩
  · rintro ⟨states, warn, conf, blocked, has, mobile⟩
    exact ⟨⟨states, warn⟩, conf, has, ⟨conf, blocked⟩, mobile⟩

/-- What makes one of them report a fault. -/
theorem overrides_report (capable : ∃ mobile, world.body.capabilities.supportsMotion = .ok mobile) :
    (∃ entry ∈ overrides world host, Reports entry.2 w) ↔
      PlaceTrouble world w ∨ GaitTrouble world w ∨ CameraTrouble world w := by
  simp only [overrides, List.exists_mem_cons_iff, hardware_silent settled, noted_silent,
    stateEstimator_reports, perception_reports, motion_reports capable, List.not_mem_nil, false_and,
    exists_false, false_or, or_false]
  constructor
  · rintro (lost | dark | lost | gait)
    · exact .inl lost
    · exact .inr (.inr dark)
    · exact .inl (navigation_reports lost)
    · exact .inr (.inl gait)
  · rintro (lost | gait | dark)
    · exact .inl lost
    · exact .inr (.inr (.inr gait))
    · exact .inr (.inl dark)

end

end DroidOs.Services.FaultSources
