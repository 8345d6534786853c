/- GID: DroidOs/System/DiagnosticAgreement
   generality: I
   source: src/droidos/services/diagnostics.py, src/droidos/services/supervisor.py
   digest: Exactly when the diagnostics and the readiness assessment contradict each other. -/

import DroidOs.Services.Inhibition
import DroidOs.System.Boot
import DroidOs.System.FaultReports

set_option autoImplicit false
set_option relaxedAutoImplicit false

namespace DroidOs.System.DiagnosticAgreement

open DroidOs.Lib.Procedure
open DroidOs.Core.Values DroidOs.Core.States DroidOs.Core.Context
open DroidOs.Body.Package
open DroidOs.Backends.CanFd DroidOs.Backends.Simulation
open DroidOs.Backends.Unpowered DroidOs.Backends.Hardware DroidOs.Backends.SafetyController
open DroidOs.Services
open DroidOs.Services.Lifecycle DroidOs.Services.SafetyGateway DroidOs.Services.Supervisor
open DroidOs.Services.Readiness DroidOs.Services.Inhibition
open DroidOs.Services.Diagnostics DroidOs.Services.FaultSources
open Boot FaultReports Registration

variable {δ : Type} (world : Setting) (host : Host δ) (rest : Services (Station δ)) (m : Brain (Station δ))

/-- The readiness that the supervisor assesses in a state. -/
def assessed : Except Exn Core.Context.Readiness :=
  (assessReadiness (equipped world rest) (droidServices (equipped world rest)) m).1

/-- The diagnostics that are collected in it. -/
def diagnosed : Except Exn Findings := (collect world host (droidServices (equipped world rest)) m).1

/-- Its summary. -/
def summarised : Except Exn Summary := (summary world host (droidServices (equipped world rest)) m).1

/-- Reading the backend over a settled station changes nothing. -/
theorem equipped_steady {w : Station δ} (settled : Settled world w) : Steady (equipped world rest) w where
  battery := congrArg Prod.snd (battery_run settled)
  actuators := congrArg Prod.snd (readAllActuators_run settled)
  sensor := fun _ => rfl
  bus := by
    intro online has
    cases has
    rfl

variable {world host rest m}

/-- The first reading of the assessment receives what had arrived. -/
theorem equipped_battery (listed : actuatorNames m.rt.env.backend ≠ []) :
    (equipped world rest).battery m.rt.env = (equipped world rest).battery (receivedBrain world m).rt.env := by
  change onBackend (Backends.Hardware.battery world) m.rt.env =
    onBackend (Backends.Hardware.battery world) (receivedBrain world m).rt.env
  rw [battery_run (receivedBrain_settled world listed), onBackend, battery_eq]
  rfl

/-! Errors of the diagnostics. -/

/-- An error for an actuator, for a required sensor or for the safety controller. -/
def ListsError (found : Findings) : Prop :=
  (∃ d ∈ found.actuators, d.level = .error) ∨ (∃ d ∈ found.sensors, d.level = .error) ∨
    ∃ items, ("safety_gateway", items) ∈ found.services ∧ ∃ d ∈ items, d.level = .error

/-- While the diagnostics list such an error, the assessment does not allow motion. -/
def Consistent (world : Setting) (host : Host δ) (rest : Services (Station δ)) (m : Brain (Station δ)) : Prop :=
  ∀ found, diagnosed world host rest m = .ok found → ListsError found →
    ¬ ∃ r, assessed world rest m = .ok r ∧ r.state ∈ DroidState.motionAllowedFrom

/-- Nothing that the assessment looks at speaks against motion. -/
structure Unhindered (world : Setting) (rest : Services (Station δ)) (m : Brain (Station δ)) : Prop where
  granted : grants m.rt = true
  active : inactiveReasons (droidServices (equipped world rest)) m = []
  answers : Answering (equipped world rest) (receivedBrain world m).rt.env
  sound : ¬ HardwareCause (equipped world rest) (receivedBrain world m).rt.env

/-- An actuator is at its fault temperature and has no fault code. -/
def Overheated (world : Setting) (w : Station δ) : Prop := ∃ fault states,
  world.body.limits.motorFaultTemp world.text = .ok fault ∧
  (readAllActuators world w.backend).1 = .ok states ∧
  ∃ a ∈ states, a.faultCode = "" ∧ fault.le a.temperatureC = true

/-- A controller that would grant a permission can only have been out of contact. -/
private theorem controllerTrouble_granted {rt : Runtime (Station δ)} (granted : grants rt = true) :
    ControllerTrouble rt ↔ rt.controller.silent rt.now = true := by
  have enabled := ((grants_iff rt).mp granted).1
  simp only [SimulatedSafetyController.mayEnable, Bool.and_eq_true, Bool.not_eq_true', List.isEmpty_iff] at enabled
  obtain ⟨⟨⟨estop, alive⟩, faults⟩, link⟩ := enabled
  simp [ControllerTrouble, estop, alive, faults, link]

private theorem allowed_iff (listed : actuatorNames m.rt.env.backend ≠ []) :
    (∃ r, assessed world rest m = .ok r ∧ r.state ∈ DroidState.motionAllowedFrom) ↔ Unhindered world rest m := by
  unfold assessed
  rw [assess_allowed_iff (droidServices_hasSafety _), fit_iff
    (equipped_steady world rest (receivedBrain_settled world listed)) (equipped_battery listed)]
  constructor
  · rintro ⟨granted, active, answers, sound⟩
    exact ⟨granted, active, answers, sound⟩
  · rintro ⟨granted, active, answers, sound⟩
    exact ⟨granted, active, answers, sound⟩

/-- Of an unhindered droid the diagnostics can list a hot actuator without a fault code, or a
controller that has not heard from the host. -/
private theorem listsError_iff (listed : actuatorNames m.rt.env.backend ≠ []) (clear : Unhindered world rest m)
    {found : Findings} (ran : diagnosed world host rest m = .ok found) : ListsError found ↔
      Overheated world (receivedBrain world m).rt.env ∨ m.rt.controller.silent m.rt.now = true := by
  obtain ⟨actuators, sensors, gateway⟩ := collect_errors_iff listed ran
  have cool : ¬ Faulted (equipped world rest) (receivedBrain world m).rt.env := fun faulted => clear.sound (.fault faulted)
  have responding : ¬ SensorError world (receivedBrain world m).rt.env := by
    rintro ⟨spec, _, required, reading, read, silent⟩
    exact clear.sound (.sensor spec.id required ⟨reading, read, silent⟩)
  have heated : ActuatorError world (receivedBrain world m).rt.env ↔ Overheated world (receivedBrain world m).rt.env := by
    constructor
    · rintro ⟨fault, states, hot, read, a, member, trouble⟩
      have coded : a.faultCode = "" := by
        by_contra code
        refine cool ⟨states, ?_, a, member, code⟩
        change (onBackend (readAllActuators world) _).1 = _
        rw [readAllActuators_run (receivedBrain_settled world listed)]
        exact read
      exact ⟨fault, states, hot, read, a, member, coded, trouble.resolve_left fun code => code coded⟩
    · rintro ⟨fault, states, hot, read, a, member, -, above⟩
      exact ⟨fault, states, hot, read, a, member, .inr above⟩
  unfold ListsError
  rw [actuators, sensors, gateway, heated, controllerTrouble_granted clear.granted]
  constructor
  · rintro (hot | silent | late)
    · exact .inl hot
    · exact absurd silent responding
    · exact .inr late
  · rintro (hot | late)
    · exact .inl hot
    · exact .inr (.inr late)

/-- They contradict each other exactly when nothing else hinders the droid, every source answers,
and an actuator is hot without a fault code or the controller has not heard from the host. -/
theorem consistent_iff (listed : actuatorNames m.rt.env.backend ≠ []) : Consistent world host rest m ↔
    (Unhindered world rest m → Reporting world (receivedBrain world m).rt.env →
      ¬ Overheated world (receivedBrain world m).rt.env ∧ m.rt.controller.silent m.rt.now = false) := by
  unfold Consistent
  rw [allowed_iff listed]
  constructor
  · intro consistent clear reporting
    obtain ⟨found, ran⟩ := (collect_returns_iff listed).mpr reporting
    have none := fun error => consistent found ran error clear
    rw [listsError_iff listed clear ran] at none
    exact ⟨fun hot => none (.inl hot), by simpa using fun late => none (.inr late)⟩
  · intro holds found ran error clear
    obtain ⟨cool, heard⟩ := holds clear ((collect_returns_iff listed).mp ⟨found, ran⟩)
    rcases (listsError_iff listed clear ran).mp error with hot | late
    · exact cool hot
    · rw [heard] at late
      cases late

/-! A wheel that is too hot, known from the bus alone. -/

def quietHost : Host Unit where
  load := 0
  diskPercent := 10
  provider := "offline"
  general := fun _ => ""
  policyRuntime := fun _ => "cpg"
  placeNames := fun _ => []
  note := fun _ _ => ""

/-- The telemetry of the only actuator: 90 degrees. -/
def hotFrame : Message := ⟨baseStateId, [0, 0, 0, 0, 0, 0, 0, 0, 0, 0, 180, 66, 0, 0, 0, 0]⟩

def hotSetting : Setting := wheelSetting (wheelBody .physical [] []) { greeting := [hotFrame] }

/-- The droid of a setting once it has been booted over a backend of its kind. -/
def bootedOn (world : Setting) (hardwareBackend : Option String) : Brain (Station Unit) :=
  booted (equipped world (benchServices world.body))
    (newRuntime 0 .missing { backend := makeBackend world.body hardwareBackend, store := () })

def hotDroid : Brain (Station Unit) := bootedOn hotSetting (some "canfd")

/-- The droid is ready to move while its diagnostics list an error for the wheel. -/
theorem hot_wheel_ready :
    (assessed hotSetting (benchServices hotSetting.body) hotDroid).toOption.map
      (fun r => r.state) = some .ready ∧
    (diagnosed hotSetting quietHost (benchServices hotSetting.body) hotDroid).toOption.map
      (fun found => found.actuators.map fun d => (d.name, d.level, d.message)) =
        some [("actuator/left_wheel", .error, "over fault temperature")] ∧
    ¬ Consistent hotSetting quietHost (benchServices hotSetting.body) hotDroid := by
  have ready : (assessed hotSetting (benchServices hotSetting.body) hotDroid).toOption.map
      (fun r => r.state) = some .ready := by decide +kernel
  have listed : (diagnosed hotSetting quietHost (benchServices hotSetting.body) hotDroid).toOption.map
      (fun found => found.actuators.map fun d => (d.name, d.level, d.message)) =
        some [("actuator/left_wheel", .error, "over fault temperature")] := by decide +kernel
  refine ⟨ready, listed, fun consistent => ?_⟩
  rcases assessment : assessed hotSetting (benchServices hotSetting.body) hotDroid with e | r
  · rw [assessment] at ready
    cases ready
  rcases diagnosis : diagnosed hotSetting quietHost (benchServices hotSetting.body) hotDroid with e | found
  · rw [diagnosis] at listed
    cases listed
  rw [assessment] at ready
  rw [diagnosis] at listed
  have state : r.state = .ready := Option.some.inj ready
  have entries : (found.actuators.map fun d => (d.name, d.level, d.message)) =
      [("actuator/left_wheel", .error, "over fault temperature")] := Option.some.inj listed
  refine consistent found diagnosis (.inl ?_) ⟨r, assessment, by rw [state]; decide⟩
  have inside : ("actuator/left_wheel", DiagnosticLevel.error, "over fault temperature") ∈
      found.actuators.map fun d => (d.name, d.level, d.message) := by
    rw [entries]
    exact List.mem_singleton_self _
  obtain ⟨d, member, same⟩ := List.mem_map.mp inside
  exact ⟨d, member, congrArg (fun entry => entry.2.1) same⟩

/-- The same wheel before it has reported anything. -/
def coolSetting : Setting := wheelSetting (wheelBody .physical [] []) {}

def coolDroid : Brain (Station Unit) := bootedOn coolSetting (some "canfd")

theorem cool_wheel_consistent : Consistent coolSetting quietHost (benchServices coolSetting.body) coolDroid := by
  have listed : actuatorNames coolDroid.rt.env.backend ≠ [] := by decide +kernel
  have limit : coolSetting.body.limits.motorFaultTemp coolSetting.text = .ok 85 := rfl
  have cool : (readAllActuators coolSetting (receivedBrain coolSetting coolDroid).rt.env.backend).1.toOption.map
      (fun states => states.all fun a => !PyFloat.le 85 a.temperatureC) = some true := by decide +kernel
  refine (consistent_iff listed).mpr fun _ _ => ⟨?_, by decide +kernel⟩
  rintro ⟨fault, states, hot, read, a, member, -, above⟩
  rw [limit] at hot
  cases hot
  rw [read] at cool
  have each : (states.all fun a => !PyFloat.le 85 a.temperatureC) = true := Option.some.inj cool
  have below := List.all_eq_true.mp each a member
  rw [above] at below
  cases below

/-! What the summary leaves out. -/

/-- While the assessment forbids motion, the summary counts a fault. -/
def Told (world : Setting) (host : Host δ) (rest : Services (Station δ)) (m : Brain (Station δ)) : Prop :=
  ∀ r, assessed world rest m = .ok r → r.state ∈ [DroidState.motionInhibited, .emergencyStopped] →
    ∃ s, summarised world host rest m = .ok s ∧ 0 < s.faultCount

/-- Something keeps the droid from moving, and the assessment gets to say so. -/
def Hindered (world : Setting) (rest : Services (Station δ)) (m : Brain (Station δ)) : Prop :=
  m.rt.controller.estop = true ∨ Answering (equipped world rest) (receivedBrain world m).rt.env ∧
    (grants m.rt = false ∨ inactiveReasons (droidServices (equipped world rest)) m ≠ [] ∨
      HardwareCause (equipped world rest) (receivedBrain world m).rt.env)

/-- A hindrance that no diagnostic source looks at. -/
inductive UnwatchedCause (world : Setting) (rest : Services (Station δ)) (m : Brain (Station δ)) : Prop
  | issue (fatal : world.body.fatalIssues ≠ [])
  | battery (low : LowBattery (equipped world rest) (receivedBrain world m).rt.env)
  | missing (act : String) (required : act ∈ world.body.manifest.requiredActuators)
      (absent : act ∉ actuatorNames m.rt.env.backend)
  | undeclared (id : String) (required : id ∈ world.body.manifest.requiredSensors)
      (absent : id ∉ world.body.sensorIds) (silent : Silent (equipped world rest) (receivedBrain world m).rt.env id)
  | bus (down : BusDown (equipped world rest) (receivedBrain world m).rt.env)
  | idle (some : inactiveReasons (droidServices (equipped world rest)) m ≠ [])
  | watchdog (intolerant : m.rt.controller.watchdogTimeout < 0) (heard : m.rt.controller.silent m.rt.now = false)

/-- The hindrances are there without an e-stop, and one of them is such a cause. -/
def Unwatched (world : Setting) (rest : Services (Station δ)) (m : Brain (Station δ)) : Prop :=
  m.rt.controller.estop = false ∧ Answering (equipped world rest) (receivedBrain world m).rt.env ∧
    UnwatchedCause world rest m

private theorem summarised_iff (listed : actuatorNames m.rt.env.backend ≠ []) :
    (∃ s, summarised world host rest m = .ok s ∧ 0 < s.faultCount) ↔
      Reporting world (receivedBrain world m).rt.env ∧ Troubled world host (receivedBrain world m) := by
  have counted (found : Findings) : 0 < (found.all.filter DiagnosticStatus.isFault).length ↔
      ∃ d ∈ found.all, d.isFault = true := by
    rw [List.length_filter_pos_iff]
  unfold summarised summary
  simp only [bind_returns_iff]
  constructor
  · rintro ⟨s, ⟨found, ran, done⟩, some⟩
    cases done
    exact ⟨(collect_returns_iff listed).mp ⟨found, ran⟩, (collect_faults_iff listed ran).mp ((counted found).mp some)⟩
  · rintro ⟨reporting, trouble⟩
    have collected : ∃ found, diagnosed world host rest m = .ok found := (collect_returns_iff listed).mpr reporting
    obtain ⟨found, ran⟩ := collected
    exact ⟨_, ⟨found, ran, rfl⟩, (counted found).mpr ((collect_faults_iff listed ran).mpr trouble)⟩

/-- An e-stop and an unhealthy controller are reported, unless its watchdog tolerates nothing. -/
private theorem controllerTrouble_refused {rt : Runtime (Station δ)} (refuses : grants rt = false) :
    ControllerTrouble rt ∨ rt.controller.watchdogTimeout < 0 ∧ rt.controller.silent rt.now = false := by
  by_contra none
  rw [not_or] at none
  obtain ⟨calm, tolerant⟩ := none
  simp only [ControllerTrouble, not_or, Bool.not_eq_true, Bool.not_eq_false, ne_eq, not_not] at calm
  obtain ⟨estop, faults, alive, link, heard⟩ := calm
  have granted : grants rt = true := by
    rw [grants_iff]
    refine ⟨?_, fun intolerant => tolerant ⟨intolerant, heard⟩⟩
    simp [SimulatedSafetyController.mayEnable, estop, faults, alive, link]
  rw [granted] at refuses
  cases refuses

/-- What hinders the droid is reported, or it is a cause that no source looks at. -/
private theorem hindered_reported (listed : actuatorNames m.rt.env.backend ≠ [])
    (reporting : Reporting world (receivedBrain world m).rt.env) (hindered : Hindered world rest m) :
    Troubled world host (receivedBrain world m) ∨ Unwatched world rest m := by
  rcases hindered with engaged | ⟨answers, cause⟩
  · exact .inl (.controller (.inl engaged))
  cases engaged : m.rt.controller.estop with
  | true => exact .inl (.controller (.inl engaged))
  | false =>
    have unwatched (cause : UnwatchedCause world rest m) : Unwatched world rest m := ⟨engaged, answers, cause⟩
    rcases cause with refuses | idle | hardware
    · rcases controllerTrouble_refused refuses with trouble | ⟨intolerant, heard⟩
      · exact .inl (.controller trouble)
      · exact .inr (unwatched (.watchdog intolerant heard))
    · exact .inr (unwatched (.idle idle))
    · cases hardware with
      | issue fatal => exact .inr (unwatched (.issue fatal))
      | battery low => exact .inr (unwatched (.battery low))
      | missing act required absent =>
        refine .inr (unwatched (.missing act required ?_))
        rw [← received_actuatorNames]
        exact absent
      | sensor id required silent =>
        by_cases declared : id ∈ world.body.sensorIds
        · obtain ⟨spec, member, rfl⟩ := List.mem_map.mp declared
          exact .inl (.sensor ⟨spec, member, silent⟩)
        · exact .inr (unwatched (.undeclared id required declared silent))
      | fault faulted =>
        obtain ⟨states, read, a, member, code⟩ := faulted
        obtain ⟨warn, warm⟩ := reporting.warmTemp
        obtain ⟨fault, hot⟩ := reporting.faultTemp
        have read : (readAllActuators world (receivedBrain world m).rt.env.backend).1 = .ok states := by
          rw [← read]
          change _ = (onBackend (readAllActuators world) _).1
          rw [readAllActuators_run (receivedBrain_settled world listed)]
        exact .inl (.actuator ⟨warn, fault, states, warm, hot, read, a, member, .inl code⟩)
      | bus down => exact .inr (unwatched (.bus down))

private theorem unwatched_hindered (unwatched : Unwatched world rest m) : Hindered world rest m := by
  obtain ⟨engaged, answers, cause⟩ := unwatched
  refine .inr ⟨answers, ?_⟩
  cases cause with
  | issue fatal => exact .inr (.inr (.issue fatal))
  | battery low => exact .inr (.inr (.battery low))
  | missing act required absent =>
    refine .inr (.inr (.missing act required ?_))
    change act ∉ actuatorNames (received world m.rt.env.backend)
    rw [received_actuatorNames]
    exact absent
  | undeclared id required _ silent => exact .inr (.inr (.sensor id required silent))
  | bus down => exact .inr (.inr (.bus down))
  | idle some => exact .inr (.inl some)
  | watchdog intolerant _ =>
    left
    by_contra granted
    rw [Bool.not_eq_false, grants_iff] at granted
    exact granted.2 intolerant

/-- An inhibited droid is told of a fault exactly when every source can be read while it is
hindered, and something is in trouble whenever it is hindered by what no source looks at. -/
theorem told_iff (listed : actuatorNames m.rt.env.backend ≠ []) : Told world host rest m ↔
    (Hindered world rest m → Reporting world (receivedBrain world m).rt.env) ∧
    (Unwatched world rest m → Troubled world host (receivedBrain world m)) := by
  have inhibited : (∃ r, assessed world rest m = .ok r ∧
      r.state ∈ [DroidState.motionInhibited, .emergencyStopped]) ↔ Hindered world rest m :=
    assess_inhibited_iff (droidServices_hasSafety _) (equipped_steady world rest (receivedBrain_settled world listed))
      (equipped_battery listed)
  have told : Told world host rest m ↔ (Hindered world rest m →
      Reporting world (receivedBrain world m).rt.env ∧ Troubled world host (receivedBrain world m)) := by
    rw [← inhibited, ← summarised_iff listed]
    constructor
    · rintro told ⟨r, found, halts⟩
      exact told r found halts
    · exact fun told r found halts => told ⟨r, found, halts⟩
  rw [told]
  constructor
  · intro reported
    refine ⟨fun hindered => (reported hindered).1, fun unwatched => ?_⟩
    exact (reported (unwatched_hindered unwatched)).2
  · rintro ⟨readable, reported⟩ hindered
    refine ⟨readable hindered, ?_⟩
    rcases hindered_reported listed (readable hindered) hindered with trouble | unwatched
    · exact trouble
    · exact reported unwatched

/-! A body whose one required sensor is not declared. -/

def undeclaredSetting : Setting :=
  wheelSetting (wheelBody .simulation ["imu"] ["required sensor 'imu' is not declared in sensors.yaml"]) {}

def undeclaredDroid : Brain (Station Unit) := bootedOn undeclaredSetting none

/-- Its movement is inhibited while nothing is said to be wrong. -/
theorem undeclared_sensor_untold :
    (assessed undeclaredSetting (benchServices undeclaredSetting.body) undeclaredDroid).toOption.map
      (fun r => (r.state, r.inhibitReasons)) =
        some (.motionInhibited, ["required sensor 'imu' is not declared in sensors.yaml"]) ∧
    (summarised undeclaredSetting quietHost (benchServices undeclaredSetting.body) undeclaredDroid).toOption.map
      (fun s => (s.faultCount, renderSummary s)) =
        some (0, "All monitored systems are nominal. Nothing is wrong.") ∧
    ¬ Told undeclaredSetting quietHost (benchServices undeclaredSetting.body) undeclaredDroid := by
  have inhibited : (assessed undeclaredSetting (benchServices undeclaredSetting.body) undeclaredDroid).toOption.map
      (fun r => (r.state, r.inhibitReasons)) =
        some (.motionInhibited, ["required sensor 'imu' is not declared in sensors.yaml"]) := by decide +kernel
  have silent : (summarised undeclaredSetting quietHost (benchServices undeclaredSetting.body)
      undeclaredDroid).toOption.map (fun s => (s.faultCount, renderSummary s)) =
        some (0, "All monitored systems are nominal. Nothing is wrong.") := by decide +kernel
  refine ⟨inhibited, silent, fun told => ?_⟩
  rcases assessment : assessed undeclaredSetting (benchServices undeclaredSetting.body) undeclaredDroid with e | r
  · rw [assessment] at inhibited
    cases inhibited
  rw [assessment] at inhibited
  have state : r.state = .motionInhibited := congrArg Prod.fst (Option.some.inj inhibited)
  obtain ⟨s, ran, some⟩ := told r assessment (by rw [state]; simp)
  rw [ran] at silent
  have none : s.faultCount = 0 := congrArg Prod.fst (Option.some.inj silent)
  omega

/-- The wheel that is not hot, after an emergency stop. -/
def stoppedDroid : Brain (Station Unit) :=
  (onRt (engageEstop (equipped coolSetting (benchServices coolSetting.body)) "pressed") coolDroid).2

theorem stopped_wheel_told : Told coolSetting quietHost (benchServices coolSetting.body) stoppedDroid := by
  have listed : actuatorNames stoppedDroid.rt.env.backend ≠ [] := by decide +kernel
  have answers : (diagnosed coolSetting quietHost (benchServices coolSetting.body) stoppedDroid).toOption.isSome = true := by
    decide +kernel
  have collected : ∃ found, diagnosed coolSetting quietHost (benchServices coolSetting.body) stoppedDroid = .ok found := by
    rcases diagnosis : diagnosed coolSetting quietHost (benchServices coolSetting.body) stoppedDroid with e | found
    · rw [diagnosis] at answers
      cases answers
    · exact ⟨found, rfl⟩
  have engaged : stoppedDroid.rt.controller.estop = true := by decide +kernel
  refine (told_iff listed).mpr ⟨fun _ => (collect_returns_iff listed).mp collected, fun unwatched => ?_⟩
  have free := unwatched.1
  rw [engaged] at free
  cases free

end DroidOs.System.DiagnosticAgreement
