/- GID: DroidOs/System/Outlook
   generality: I
   digest: What of the state decides whether the droid is fit, and which steps leave it alone. -/

import DroidOs.Services.Inhibition
import DroidOs.System.StateGraph

set_option autoImplicit false
set_option relaxedAutoImplicit false

namespace DroidOs.System.Outlook

open DroidOs.Lib.Procedure
open DroidOs.Core.Values DroidOs.Core.States DroidOs.Core.Context
open DroidOs.Body.Package
open DroidOs.Backends.SafetyController DroidOs.Backends.Simulation
open DroidOs.Services.Lifecycle DroidOs.Services.HookLaw
open DroidOs.Services.SafetyGateway DroidOs.Services.Supervisor
open DroidOs.Services.Readiness DroidOs.Services.Inhibition
open DroidOs.Executive.Drive DroidOs.Executive.RunIntent
open DroidOs.Language.Intent DroidOs.Language.Broker
open Registration TaskSteps TaskLaw Simulated StepLaw

/-! What the assessment depends on. -/

/-- What of the backend its readings depend on. -/
structure Gauges where
  battery : PyFloat
  actuators : List String
  temps : String → PyVal
  faults : List (String × Items)
  busOnline : Bool

def gauges (b : SimulationBackend) : Gauges :=
  ⟨b.battery, b.actuators, b.temps, b.faults, b.busOnline⟩

/-- What of the shared context it depends on. -/
structure Standing where
  enables : Bool
  timeout : ℚ
  gauges : Gauges

variable {δ α β : Type} {s : Surroundings δ}

def standing (rt : Runtime (SimWorld δ)) : Standing :=
  ⟨rt.controller.mayEnable, rt.controller.watchdogTimeout, gauges rt.env.backend⟩

/-- Every reading returns, and nothing in the body and the backend inhibits motion. -/
def Sound (s : Surroundings δ) (w : SimWorld δ) : Prop :=
  Answering (simulated s) w ∧ ¬ HardwareCause (simulated s) w

/-- The voltage that the battery also reports may make its reading raise. -/
private def nominal (body : LoadedBody) : Except Exn PyFloat := do
  (← body.limits.battery.get "nominal_voltage" (.float 36)).number

private theorem readBattery_eq (b : SimulationBackend) (body : LoadedBody) :
    b.readBattery body = (nominal body).map fun _ => { percent := b.battery, charging := b.charging } := by
  unfold SimulationBackend.readBattery nominal
  rcases body.limits.battery.get "nominal_voltage" (.float 36) with e | v
  · rfl
  · change (do let _ ← v.number; _) = Except.map _ v.number
    rcases v.number with e | x <;> rfl

section

variable {b b' : SimulationBackend} (same : gauges b' = gauges b)
include same

private theorem gauges_fields : b'.battery = b.battery ∧ b'.actuators = b.actuators ∧ b'.temps = b.temps ∧
    b'.faults = b.faults ∧ b'.busOnline = b.busOnline := by
  simpa [gauges] using same

private theorem readAllActuators_congr (text : PyText) (body : LoadedBody) :
    b'.readAllActuators text body = b.readAllActuators text body := by
  obtain ⟨-, actuators, temps, faults, -⟩ := gauges_fields same
  have each (name : String) : b'.readActuator text body name = b.readActuator text body name := by
    simp only [SimulationBackend.readActuator, SimulationBackend.temperature, SimulationBackend.overheat,
      SimulationBackend.faultParam, actuators, temps, faults]
    rfl
  unfold SimulationBackend.readAllActuators
  rw [actuators, funext each]

private theorem readSensor_congr (body : LoadedBody) (id : String) :
    b'.readSensor body id = b.readSensor body id := by
  obtain ⟨-, -, -, faults, -⟩ := gauges_fields same
  have dropped : b'.droppedOut id = b.droppedOut id := by
    simp only [SimulationBackend.droppedOut, SimulationBackend.faultParam, faults]
  unfold SimulationBackend.readSensor
  rw [dropped, readBattery_eq, readBattery_eq]
  cases nominal body <;> rfl

end

private theorem bus_congr {w w' : SimWorld δ} (same : gauges w'.backend = gauges w.backend)
    {online : Proc (SimWorld δ) Exn Bool} (has : (simulated s).busOnline = some online) :
    (online w').1 = (online w).1 := by
  simp only [simulated] at has
  split at has
  · cases has
  · cases has
    exact congrArg (fun up => Except.ok up) (gauges_fields same).2.2.2.2

private theorem answering_congr {w w' : SimWorld δ} (same : gauges w'.backend = gauges w.backend)
    (answers : Answering (simulated s) w) : Answering (simulated s) w' where
  battery := by
    obtain ⟨state, read⟩ := answers.battery
    change w.backend.readBattery s.body = .ok state at read
    change ∃ state, w'.backend.readBattery s.body = .ok state
    rw [readBattery_eq] at read ⊢
    rcases known : nominal s.body with e | x <;> rw [known] at read
    · cases read
    · exact ⟨_, rfl⟩
  minimum := answers.minimum
  actuators := by
    obtain ⟨states, read⟩ := answers.actuators
    exact ⟨states, (readAllActuators_congr same s.text s.body).trans read⟩
  sensor := by
    intro id known
    obtain ⟨reading, read⟩ := answers.sensor id known
    exact ⟨reading, (readSensor_congr same s.body id).trans read⟩
  bus := by
    intro online has
    obtain ⟨up, read⟩ := answers.bus online has
    exact ⟨up, (bus_congr same has).trans read⟩

private theorem cause_congr {w w' : SimWorld δ} (same : gauges w'.backend = gauges w.backend)
    (cause : HardwareCause (simulated s) w') : HardwareCause (simulated s) w := by
  cases cause with
  | issue fatal => exact .issue fatal
  | battery low =>
    obtain ⟨state, percent, read, limit, below⟩ := low
    change w'.backend.readBattery s.body = .ok state at read
    rw [readBattery_eq] at read
    rcases known : nominal s.body with e | x <;> rw [known] at read
    · cases read
    · cases read
      refine .battery ⟨{ percent := w.backend.battery, charging := w.backend.charging }, percent, ?_, limit, ?_⟩
      · change w.backend.readBattery s.body = _
        rw [readBattery_eq, known]
        rfl
      · rw [← (gauges_fields same).1]
        exact below
  | missing act required absent =>
    refine .missing act required ?_
    rw [show (simulated s).actuatorNames w = w'.backend.actuators from (gauges_fields same).2.1.symm]
    exact absent
  | sensor id required silent =>
    obtain ⟨reading, read, responds⟩ := silent
    exact .sensor id required ⟨reading, (readSensor_congr same s.body id).symm.trans read, responds⟩
  | fault faulted =>
    obtain ⟨states, read, some⟩ := faulted
    exact .fault ⟨states, (readAllActuators_congr same s.text s.body).symm.trans read, some⟩
  | bus down =>
    obtain ⟨online, has, read⟩ := down
    exact .bus ⟨online, has, (bus_congr same has).symm.trans read⟩

/-- Of the world nothing but the gauges matters to it. -/
theorem sound_congr {w w' : SimWorld δ} (same : gauges w'.backend = gauges w.backend)
    (sound : Sound s w) : Sound s w' :=
  ⟨answering_congr same sound.1, fun cause => sound.2 (cause_congr same cause)⟩

/-- The droid is fit exactly when the controller would close its contactor and tolerates a host that
has just been heard, the critical services are active, and body and backend are sound. -/
theorem fit_simulated (m : Brain (SimWorld δ)) : Fit (simulated s) (droidServices (simulated s)) m ↔
    ((standing m.rt).enables = true ∧ ¬ (standing m.rt).timeout < 0) ∧
      inactiveReasons (droidServices (simulated s)) m = [] ∧ Sound s m.rt.env := by
  have steady : Steady (simulated s) m.rt.env := by
    refine ⟨rfl, rfl, fun _ => rfl, fun online has => ?_⟩
    simp only [simulated] at has
    split at has
    · cases has
    · cases has
      rfl
  rw [fit_iff steady rfl, grants_iff]
  rfl

/-! Procedures that leave it alone. -/

/-- Whether the state machine permits motion, and what the assessment depends on. -/
def outlook (rt : Runtime (SimWorld δ)) : Bool × Standing := (rt.machine.motionPermitted, standing rt)

variable {v : Bool × Standing}

theorem outlook_reads : Reads (simulated s) fun rt => outlook rt = v where
  reading call := by
    cases call with
    | battery => exact keeps_iff.mpr fun _ same => same
    | readAllActuators => exact keeps_iff.mpr fun _ same => same
    | readSensor id => exact keeps_iff.mpr fun _ same => same
    | busOnline online =>
      simp only [simulated] at online
      split at online
      · cases online
      · cases online
        exact keeps_iff.mpr fun _ same => same
    | resolve dest => exact keeps_iff.mpr fun _ same => same
    | knownPlaces => exact keeps_iff.mpr fun _ same => same
    | traversable dest => exact keeps_iff.mpr fun _ same => same
  status := by
    refine keeps_iff.mpr fun rt same => ?_
    rw [← same]
    simp [outlook, standing, SimulatedSafetyController.mayEnable]
  heartbeat := keeps_iff.mpr fun _ same => same

/-- A change of the controller that lets it close its contactor neither more nor less. -/
theorem outlook_controller {f : SimulatedSafetyController → SimulatedSafetyController}
    (enables : ∀ c, (f c).mayEnable = c.mayEnable) (timeout : ∀ c, (f c).watchdogTimeout = c.watchdogTimeout) :
    Keeps (fun rt : Runtime (SimWorld δ) => outlook rt = v) (onController f) := by
  refine keeps_iff.mpr fun rt same => ?_
  rw [← same]
  simp [outlook, standing, enables, timeout]

theorem outlook_log (event detail : String) :
    Keeps (fun rt => outlook rt = v) (logSafetyEvent (simulated s) event detail) := by
  have noted (f : SimWorld δ → SimWorld δ) (backend : ∀ w, (f w).backend = w.backend) :
      Keeps (fun rt : Runtime (SimWorld δ) => outlook rt = v) (outside (modify f)) := by
    refine keeps_iff.mpr fun rt same => ?_
    rw [← same]
    simp [outlook, standing, backend]
  refine keeps_bind (outlook_reads (s := s)).status fun _ => keeps_bind (noted _ fun _ => rfl) fun _ => ?_
  exact noted _ fun _ => rfl

theorem outlook_release : Keeps (fun rt => outlook rt = v) (releaseMotionPermission (simulated s)) := by
  have cleared : Keeps (fun rt : Runtime (SimWorld δ) => outlook rt = v)
      (modify fun rt => { rt with token := "" } : Proc _ Exn Unit) := keeps_iff.mpr fun _ same => same
  refine keeps_bind (outlook_controller (fun _ => rfl) fun _ => rfl) fun _ => ?_
  refine keeps_bind (keeps_iff.mpr fun _ same => same) fun _ => keeps_bind (keeps_reads _) fun token => ?_
  exact keeps_ite (fun _ => keeps_bind (outlook_log _ _) fun _ => cleared) fun _ => cleared

theorem outlook_request : Keeps (fun rt => outlook rt = v) (requestMotionPermission (simulated s)) := by
  have closes : Keeps (fun rt : Runtime (SimWorld δ) => outlook rt = v) requestPowerEnable := by
    refine keeps_iff.mpr fun rt same => ?_
    rw [← same, requestPowerEnable, SimulatedSafetyController.requestPowerEnable]
    split <;> rfl
  have reads_ : Reads (simulated s) fun rt => outlook rt = v := outlook_reads
  refine keeps_bind (keeps_bind reads_.heartbeat fun _ => reads_.status) fun st => ?_
  refine keeps_ite (fun _ => keeps_pure _) fun _ => keeps_bind closes fun granted => ?_
  refine keeps_ite (fun _ => keeps_pure _) fun _ => keeps_bind (keeps_iff.mpr fun _ same => same) fun _ => ?_
  refine keeps_bind (keeps_reads _) fun token => keeps_bind (keeps_iff.mpr fun _ same => same) fun _ => ?_
  exact keeps_bind (outlook_log _ _) fun _ => keeps_pure _

theorem outlook_start (intent : StructuredIntent) (user : String) :
    Keeps (fun rt => outlook rt = v) (startTask (simulated s) intent user) := by
  refine keeps_bind (keeps_ofExcept _) fun arguments => keeps_bind (keeps_reads _) fun taskId => ?_
  refine keeps_bind (keeps_iff.mpr fun _ same => same) fun _ => ?_
  exact keeps_bind (keeps_iff.mpr fun _ same => same) fun _ => keeps_pure _

theorem outlook_finish (task : Task) (user : String) (result : TaskResult) :
    Keeps (fun rt => outlook rt = v) (finishTask (simulated s) task user result) := by
  refine keeps_bind (keeps_iff.mpr fun _ same => same) fun _ => keeps_bind (keeps_reads _) fun machine => ?_
  refine keeps_bind (keeps_iff.mpr fun _ same => same) fun _ => ?_
  exact keeps_bind (keeps_iff.mpr fun _ same => same) fun _ => keeps_pure _

/-- Stopping moves the body at most. -/
theorem outlook_stop : Keeps (fun rt => outlook rt = v) (outside (simulated s).stop) := by
  refine keeps_iff.mpr fun rt same => ?_
  rw [← same]
  change outlook { rt with env := (stop s rt.env).2 } = _
  rcases answer : rt.env.backend.commandVelocity s.text s.math s.body {} 0 with e | b
  · rw [stop, commandBackend, bind_error (t := rt.env) (e := e) (by rw [readBackend, answer])]
  · have untouched : gauges b = gauges rt.env.backend := by
      unfold SimulationBackend.commandVelocity at answer
      split at answer
      · cases answer
        rfl
      · rcases linear : SimulationBackend.maxLinear s.text s.body with e | maxLin <;> rw [linear] at answer
        · cases answer
        rcases angular : SimulationBackend.maxAngular s.text s.body with e | maxAng <;> rw [angular] at answer
        · cases answer
        · cases answer
          rfl
    rw [stop, commandBackend, bind_ok (t := rt.env) (a := b) (by rw [readBackend, answer])]
    simp only [outlook, standing]
    rw [← untouched]
    rfl

theorem outlook_dock : Keeps (fun rt => outlook rt = v) (outside (dock (simulated s))) :=
  keeps_iff.mpr fun _ same => same

/-- A move within the states that permit motion. -/
private theorem outlook_moves {rt : Runtime (SimWorld δ)} (permits : rt.machine.motionPermitted = true)
    {dst : DroidState} (reason : String) (into : dst ∈ DroidState.motionAllowedFrom) :
    outlook (transition dst reason rt).2 = outlook rt := by
  obtain ⟨machine, run, same | moved⟩ := transition_after dst reason rt
  · rw [run, same]
  · rw [run]
    have still : machine.motionPermitted = true := by
      rw [StateMachine.motionPermitted, moved]
      exact decide_eq_true into
    simp [outlook, standing, permits, still]

theorem outlook_enterActive (d : DriveData) :
    Keeps (fun rt => outlook rt = v) (enterActive (simulated s) d) := by
  refine keeps_reads_bind fun rt same => ?_
  split
  · rename_i starts
    refine after_bind (I := fun rt : Runtime (SimWorld δ) => outlook rt = v) ?_ fun _ => keeps_pure _
    rw [outlook_moves ?_ _ (by decide)]
    · exact same
    · rcases starts with ready | degraded
      · simp [StateMachine.motionPermitted, ready, DroidState.motionAllowedFrom]
      · simp [StateMachine.motionPermitted, degraded, DroidState.motionAllowedFrom]
  · exact same

theorem outlook_endDrive (held : Bool) : Keeps (fun rt => outlook rt = v) (endDrive (simulated s) held) := by
  have settled : Keeps (fun rt : Runtime (SimWorld δ) => outlook rt = v) (do
      let machine ← reads Runtime.machine
      if machine.state = .active then transition .ready "task complete") := by
    refine keeps_reads_bind fun rt same => ?_
    split
    · rename_i active
      rw [outlook_moves ?_ _ (by decide)]
      · exact same
      · simp [StateMachine.motionPermitted, active, DroidState.motionAllowedFrom]
    · exact same
  exact keeps_ite (fun _ => keeps_bind outlook_release fun _ => settled) fun _ => settled

/-- Configuring a service leaves the backend alone. -/
theorem outlook_configure (name : String) :
    Keeps (fun rt => outlook rt = v) (outside ((simulated s).configure name)) := by
  have loads : Keeps (fun w : SimWorld δ => gauges w.backend = v.2.gauges) (configureMotion s) :=
    keeps_ite (fun _ => keeps_bind (keeps_ofExcept _) fun _ => keeps_modify fun _ same => same)
      fun _ => keeps_pure _
  have stores : Keeps (fun w : SimWorld δ => gauges w.backend = v.2.gauges)
      (stored fun _ => s.configure name) := keeps_iff.mpr fun _ same => same
  have configures : Keeps (fun w : SimWorld δ => gauges w.backend = v.2.gauges) ((simulated s).configure name) :=
    keeps_ite (fun _ => loads) fun _ => stores
  refine keeps_iff.mpr fun rt same => ?_
  obtain rfl := same
  have read := configures.after (s := rt.env) rfl
  simp only [outlook, standing, outside_run]
  rw [read]
  rfl

/-- A tick of a drive changes the outside world at most. -/
theorem driving_attends {ε : Type} {svc : Services ε} (x : Bool × Bool × ℚ) : Attends svc fun rt =>
    (rt.machine.motionPermitted, rt.controller.mayEnable, rt.controller.watchdogTimeout) = x where
  quiet _ := keeps_iff.mpr fun _ same => same
  status := by
    refine keeps_iff.mpr fun rt same => ?_
    rw [← same]
    simp [SimulatedSafetyController.mayEnable]
  heartbeat := keeps_iff.mpr fun _ same => same

/-! Procedures that leave the services' records alone. -/

section Records

variable {ε : Type} {svc : Services ε} {reg : Registry (Runtime ε)} {P : String → Prop}
variable {t : String → ServiceRecord}

theorem records_onRt (p : Proc (Runtime ε) Exn α) : Keeps (fun m : Brain ε => m.table = t) (onRt p) :=
  keeps_iff.mpr fun _ same => same

private theorem records_assess : Keeps (fun m => m.table = t) (assessReadiness svc reg) := by
  refine keeps_bind (records_onRt _) fun _ => keeps_ite (fun _ => keeps_pure _) fun _ => ?_
  refine keeps_bind (records_onRt _) fun _ => keeps_bind (keeps_reads _) fun _ => ?_
  exact keeps_bind (records_onRt _) fun _ => keeps_pure _

private theorem records_motionChecks (intent : StructuredIntent) (tool : ToolSpec) :
    Keeps (fun m => m.table = t) (motionChecks svc reg intent tool) := by
  refine keeps_ite (fun _ => keeps_pure _) fun _ => keeps_bind (records_onRt _) fun ⟨_, _⟩ => ?_
  refine keeps_ite (fun _ => keeps_pure _) fun _ => keeps_bind ?_ fun ⟨_, _⟩ => keeps_pure _
  exact keeps_bind records_assess fun _ => keeps_ite (fun _ => keeps_pure _) fun _ => keeps_pure _

private theorem records_validate (intent : StructuredIntent) (user : User) (confirmed : Bool) :
    Keeps (fun m => m.table = t) (validate svc reg intent user confirmed) := by
  unfold validate
  cases getTool intent.intent with
  | none => exact keeps_pure _
  | some tool =>
    refine keeps_ite (fun _ => keeps_pure _) fun _ => keeps_ite (fun _ => keeps_pure _) fun _ => ?_
    refine keeps_bind (keeps_ofExcept _) fun ⟨_, _⟩ => keeps_ite (fun _ => keeps_pure _) fun _ => ?_
    refine keeps_bind (records_motionChecks intent tool) fun ⟨_, refused⟩ => ?_
    cases refused with
    | some reason => exact keeps_pure _
    | none =>
      refine keeps_bind (records_onRt _) fun ⟨_, _⟩ => ?_
      exact keeps_ite (fun _ => keeps_pure _) fun _ => keeps_pure _

private theorem records_status (task : Task) : Keeps (fun m => m.table = t) (hStatus svc reg task) := by
  refine keeps_bind (records_onRt _) fun _ => keeps_bind records_assess fun _ => ?_
  refine keeps_bind (records_onRt _) fun _ => keeps_bind (keeps_reads _) fun _ => ?_
  exact keeps_bind (records_onRt _) fun _ => keeps_pure _

private theorem records_explain (task : Task) : Keeps (fun m => m.table = t) (hExplain svc reg task) := by
  refine keeps_ite (fun _ => keeps_bind (keeps_reads _) fun _ => keeps_pure _) fun _ => ?_
  refine keeps_bind records_assess fun _ => keeps_bind (keeps_reads _) fun _ => ?_
  exact keeps_bind (records_onRt _) fun _ => keeps_pure _

private theorem records_inspect (task : Task) (drive : Items) :
    Keeps (fun m => m.table = t) (inspectTarget svc task drive) := by
  refine keeps_bind (records_onRt _) fun _ => keeps_bind (keeps_attempt (records_onRt _)) fun outcome => ?_
  cases outcome <;> exact keeps_pure _

/-- Of the steps of a task only a shutdown changes them. -/
theorem records_step {step : Brain ε → Brain ε} (taken : TaskStep svc reg P step) (m : Brain ε) :
    (step m).table = m.table ∨ ∃ task, step = (hShutdown svc reg task).after := by
  cases taken with
  | validate intent user confirmed => exact .inl ((records_validate intent user confirmed).after rfl)
  | pass => exact .inl rfl
  | emit r => exact .inl rfl
  | start intent user named => exact .inl rfl
  | finish task user result named => exact .inl rfl
  | status task => exact .inl ((records_status task).after rfl)
  | explain task => exact .inl ((records_explain task).after rfl)
  | diagnostics task named same =>
    refine .inl (Keeps.after (keeps_bind (records_onRt _) fun _ => ?_) rfl)
    exact keeps_bind (records_onRt _) fun _ => records_onRt _
  | tool task named listed => exact .inl rfl
  | stop task => exact .inl (Keeps.after (keeps_bind (records_onRt _) fun _ => keeps_pure _) rfl)
  | estop task => exact .inl (Keeps.after (keeps_bind (records_onRt _) fun _ => keeps_pure _) rfl)
  | cancel task named =>
    refine .inl (Keeps.after (keeps_bind (records_onRt _) fun _ => ?_) rfl)
    exact keeps_bind (records_onRt _) fun _ => keeps_pure _
  | safeIdle task named =>
    refine .inl (Keeps.after (keeps_bind (records_onRt _) fun _ => ?_) rfl)
    exact keeps_bind (records_onRt _) fun _ => keeps_bind (keeps_reads _) fun _ => keeps_pure _
  | shutdown task named => exact .inr ⟨task, rfl⟩
  | resolve dest => exact .inl rfl
  | note taskId label => exact .inl rfl
  | request named => exact .inl rfl
  | enterActive d named => exact .inl rfl
  | tick goal d named => exact .inl rfl
  | endDrive held named => exact .inl rfl
  | dock named => exact .inl rfl
  | inspect task drive named => exact .inl ((records_inspect task drive).after rfl)

end Records

end DroidOs.System.Outlook
