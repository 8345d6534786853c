/- GID: DroidOs/Executive/CalmRun
   generality: I
   digest: What the handlers that do not drive leave of motor power in a scripted world. -/

import DroidOs.Executive.RunIntent
import DroidOs.Executive.ScriptedWorld
import DroidOs.System.Registration

set_option autoImplicit false
set_option relaxedAutoImplicit false

namespace DroidOs.Executive.CalmRun

open DroidOs.Lib.Procedure DroidOs.Lib.Interleaving
open DroidOs.Core.Values DroidOs.Core.States DroidOs.Core.Context
open DroidOs.Backends.SafetyController
open DroidOs.Services.Lifecycle DroidOs.Services.SafetyGateway DroidOs.Services.Supervisor
open DroidOs.System.Registration
open DroidOs.Language.Intent
open Drive RunIntent ScriptedWorld

/-- The backend flag and the contactor are off and the system is not ACTIVE. -/
structure Released (rt : Runtime World) : Prop where
  power : rt.env.power = false
  contactor : rt.controller.power = false
  state : rt.machine.state ≠ .active

/-- The contactor is open, the backend flag is `power`, and `active` tells whether
the state is ACTIVE. -/
structure Calm (active : Prop) (power : Bool) (rt : Runtime World) : Prop where
  power : rt.env.power = power
  contactor : rt.controller.power = false
  state : rt.machine.state = .active ↔ active

theorem Calm.released_iff {active : Prop} {power : Bool} {rt : Runtime World}
    (calm : Calm active power rt) : Released rt ↔ ¬ active ∧ power = false := by
  constructor
  · exact fun released => ⟨mt calm.state.mpr released.state, calm.power.symm.trans released.power⟩
  · rintro ⟨idle, off⟩
    exact ⟨calm.power.trans off, calm.contactor, mt calm.state.mp idle⟩

variable {s : Script} {active : Prop} {power : Bool} {α : Type}

/-- The flag once a reading has drained the bus. -/
def heard (s : Script) (power : Bool) : Bool := s.telemetry.getD power

/-- A second reading hears nothing new. -/
@[simp] theorem heard_heard : heard s (heard s power) = heard s power := by
  unfold heard
  cases s.telemetry <;> rfl

/-- Both halves of `_log_safety_event` return. -/
def logs (s : Script) (event detail : String) (engaged : Bool) : Prop :=
  returns (s.emit (safetyRecord event detail engaged)) = true ∧
    returns (s.publish (safetyEvent event detail)) = true

/-- A procedure of the outside world that reads the bus, at least once if it returns. -/
def Hears (s : Script) (power : Bool) (p : Proc World Exn α) : Prop :=
  Triple (fun w => w.power = power) p (fun _ w => w.power = heard s power)
    (fun _ w => w.power = heard s power)

/-- What reads the bus after it has been read keeps the flag. -/
theorem keeps_of_hears {p : Proc World Exn α} (hears : ∀ power, Hears s power p) :
    Keeps (fun w => w.power = heard s power) p := by
  have again := hears (heard s power)
  unfold Hears at again
  rwa [heard_heard] at again

theorem hears_reading (r : Except Exn α) : Hears s power (reading s r) := by
  rintro w rfl
  unfold reading
  cases r <;> rfl

theorem keeps_answer (r : Except Exn α) : Keeps (fun w => w.power = power) (answer r) :=
  keeps_iff.mpr fun _ same => same

/-! The same on the context. -/

theorem calm_outside {p : Proc World Exn α} (keeps : Keeps (fun w => w.power = power) p) :
    Keeps (Calm active power) (outside p) :=
  keeps_zoom fun _ calm => ⟨Keeps.after keeps calm.power, calm.contactor, calm.state⟩

theorem calm_hears {p : Proc World Exn α} (hears : Hears s power p) :
    Triple (Calm active power) (outside p) (fun _ => Calm active (heard s power))
      (fun _ => Calm active (heard s power)) := by
  intro rt calm
  have ends := hears rt.env calm.power
  rw [outside_run]
  rcases run : p rt.env with ⟨_ | _, w⟩ <;> rw [run] at ends <;>
    exact ⟨ends, calm.contactor, calm.state⟩

theorem calm_status : Keeps (Calm active power) controllerStatus := by
  refine keeps_iff.mpr fun rt calm => ⟨calm.power, ?_, calm.state⟩
  simp [SimulatedSafetyController.checkWatchdog_power, calm.contactor]

theorem calm_estopEngaged : Keeps (Calm active power) estopEngaged :=
  keeps_bind calm_status fun _ => keeps_pure _

theorem calm_heartbeat : Keeps (Calm active power) heartbeat :=
  keeps_iff.mpr fun _ calm => ⟨calm.power, calm.contactor, calm.state⟩

theorem calm_logSafetyEvent (event detail : String) :
    Keeps (Calm active power) (logSafetyEvent (scripted s) event detail) :=
  keeps_bind calm_status fun _ => keeps_bind (calm_outside (keeps_answer _)) fun _ =>
    calm_outside (keeps_answer _)

/-- An event is logged after the watchdog has run, and only the log can raise. -/
theorem logSafetyEvent_run (event detail : String) (rt : Runtime World) :
    ∃ r : Except Exn Unit, logSafetyEvent (scripted s) event detail rt =
        (r, { rt with controller := rt.controller.checkWatchdog rt.now }) ∧
      (returns r = true ↔ logs s event detail rt.controller.estop) := by
  unfold logSafetyEvent
  rw [bind_ok (controllerStatus_run rt)]
  simp only [SimulatedSafetyController.snapshot_estopEngaged,
    SimulatedSafetyController.checkWatchdog_estop, bind_run, outside_run, scripted_emit,
    scripted_publish, logs]
  rcases s.emit (safetyRecord event detail rt.controller.estop) with e | ⟨⟩
  · exact ⟨.error e, rfl, by simp⟩
  · exact ⟨s.publish (safetyEvent event detail), by cases s.publish (safetyEvent event detail) <;> rfl,
      by simp⟩

/-- A calm context stays calm, and an event that returns was logged. -/
theorem calm_logs (event detail : String) (engaged : Bool) :
    Triple (fun rt => Calm active power rt ∧ rt.controller.estop = engaged)
      (logSafetyEvent (scripted s) event detail)
      (fun _ rt => Calm active power rt ∧ logs s event detail engaged)
      (fun _ rt => Calm active power rt ∧ ¬ logs s event detail engaged) := by
  rintro rt ⟨calm, rfl⟩
  have after : Calm active power { rt with controller := rt.controller.checkWatchdog rt.now } :=
    Keeps.after calm_status calm
  obtain ⟨r, run, logged⟩ := logSafetyEvent_run (s := s) event detail rt
  rw [run]
  rcases r with e | ⟨⟩
  · exact ⟨after, fun complete => by simpa using logged.mpr complete⟩
  · exact ⟨after, logged.mp rfl⟩

theorem keeps_setPowerOff :
    Keeps (fun w => w.power = false) ((scripted s).setPower false) := by
  refine keeps_iff.mpr fun w off => ?_
  rw [scripted_setPower]
  split
  · rfl
  · exact off

theorem calm_release : Keeps (Calm active false) (releaseMotionPermission (scripted s)) := by
  have forget : Keeps (Calm active false)
      (modify fun rt : Runtime World => { rt with token := "" } : Proc _ Exn Unit) :=
    keeps_modify fun _ calm => ⟨calm.power, calm.contactor, calm.state⟩
  refine keeps_bind (keeps_modify fun _ calm => ⟨calm.power, rfl, calm.state⟩) fun _ => ?_
  refine keeps_bind (calm_outside keeps_setPowerOff) fun _ => keeps_bind (keeps_reads _) fun token => ?_
  split
  · exact keeps_bind (calm_logSafetyEvent _ _) fun _ => forget
  · exact forget

/-! The readiness assessment, which reads the battery before it reads anything else. -/

/-- Asking for the controller's health does not raise. -/
private theorem calm_safetyUnhealthy :
    Triple (Calm active power) (safetyUnhealthy (droidServices (scripted s)))
      (fun _ => Calm active power) (fun _ _ => False) := by
  intro rt calm
  refine ⟨calm.power, ?_, calm.state⟩
  change ((rt.controller.heartbeat rt.now).checkWatchdog rt.now).power = false
  simp [SimulatedSafetyController.checkWatchdog_power, calm.contactor]

private theorem keeps_notResponding (message : String → String) (ids : List String) :
    Keeps (fun w => w.power = power) (notResponding (scripted s) message ids) := by
  induction ids with
  | nil => exact keeps_pure _
  | cons id ids ih => exact keeps_bind (keeps_answer _) fun _ => keeps_bind ih fun _ => keeps_pure _

private theorem hears_hardwareReasons : Hears s power (hardwareReasons (scripted s)) := by
  have battery : Hears s power (batteryReasons (scripted s)) :=
    Triple.bind (hears_reading _) fun _ => keeps_bind (keeps_ofExcept _) fun _ => keeps_pure _
  refine Triple.bind battery fun _ => ?_
  refine keeps_bind (keeps_reads _) fun _ => keeps_bind (keeps_notResponding _ _) fun _ => ?_
  have thermal : Keeps (fun w => w.power = heard s power) (thermalReasons (scripted s)) :=
    keeps_bind (keeps_of_hears fun _ => hears_reading _) fun _ => keeps_pure _
  refine keeps_bind thermal fun _ => ?_
  refine keeps_bind (keeps_notResponding _ _) fun _ => keeps_bind ?_ fun _ => keeps_pure _
  unfold busReasons
  rw [show (scripted s).busOnline = s.busOnline.map answer from rfl]
  cases s.busOnline with
  | none => exact keeps_pure _
  | some online => exact keeps_bind (keeps_answer online) fun _ => keeps_pure _

/-- A latched emergency stop ends the assessment before anything is read. -/
theorem calm_assessReadiness (engaged : Bool) :
    Triple (fun m : Brain World => Calm active power m.rt ∧ m.rt.controller.estop = engaged)
      (assessReadiness (scripted s) (droidServices (scripted s)))
      (fun _ m => Calm active (if engaged then power else heard s power) m.rt)
      (fun _ m => Calm active (if engaged then power else heard s power) m.rt) := by
  have asks : Triple (fun rt : Runtime World => Calm active power rt ∧ rt.controller.estop = engaged)
      estopEngaged (fun answer rt => answer = engaged ∧ Calm active power rt)
      (fun _ rt => Calm active (if engaged then power else heard s power) rt) := by
    rintro rt ⟨calm, rfl⟩
    exact ⟨SimulatedSafetyController.checkWatchdog_estop _ _, Keeps.after calm_status calm⟩
  refine Triple.bind (triple_onRt_of asks) fun answer => ?_
  cases answer with
  | true =>
    refine Triple.pure fun m asked => ?_
    rw [← asked.1]
    exact asked.2
  | false =>
    rintro m ⟨rfl, calm⟩
    refine Triple.bind (P := fun m : Brain World => Calm active power m.rt)
      (Triple.weaken (triple_onRt_of calm_safetyUnhealthy) (fun _ calm => calm)
        (fun _ _ calm => calm) fun _ _ raised => raised.elim) (fun _ => ?_) m calm
    refine Triple.reads_bind fun _ => ?_
    exact Triple.bind (triple_onRt_of (calm_hears hears_hardwareReasons)) fun _ => keeps_pure _

/-- Once the bus has been read, another assessment reads nothing new. -/
theorem calm_assessReadiness_again :
    Keeps (fun m : Brain World => Calm active (heard s power) m.rt)
      (assessReadiness (scripted s) (droidServices (scripted s))) := by
  refine keeps_iff.mpr fun m calm => ?_
  have ends := calm_assessReadiness (s := s) m.rt.controller.estop m ⟨calm, rfl⟩
  rcases run : assessReadiness (scripted s) (droidServices (scripted s)) m with ⟨_ | _, m'⟩ <;>
    rw [run] at ends <;> simpa using ends

/-! The handlers. -/

theorem calm_hStatus (task : Task) :
    Triple (fun m : Brain World => Calm active power m.rt)
      (hStatus (scripted s) (droidServices (scripted s)) task)
      (fun _ m => Calm active (heard s power) m.rt)
      (fun _ m => Calm active (heard s power) m.rt) := by
  refine Triple.bind (triple_onRt_of (calm_hears (hears_reading _))) fun _ => ?_
  refine keeps_bind calm_assessReadiness_again fun _ => ?_
  have hottest : Keeps (fun w => w.power = heard s power) (hottestActuator (scripted s)) := by
    refine keeps_bind (keeps_of_hears fun _ => hears_reading _) fun actuators => ?_
    cases actuators with
    | nil => exact keeps_pure _
    | cons first rest =>
      exact keeps_bind (keeps_ofExcept _) fun _ => keeps_bind (keeps_ofExcept _) fun _ => keeps_pure _
  refine keeps_bind (keeps_onRt_of (calm_outside hottest)) fun _ => keeps_bind (keeps_reads _) fun _ => ?_
  refine keeps_bind (keeps_onRt_of ?_) fun _ => keeps_pure _
  exact keeps_bind calm_heartbeat fun _ => calm_status

theorem calm_hDiagnostics (task : Task) :
    Triple (fun m : Brain World => Calm active power m.rt) (hDiagnostics (scripted s) task)
      (fun _ m => Calm active (heard s power) m.rt)
      (fun _ m => Calm active (heard s power) m.rt) := by
  refine Triple.bind (triple_onRt_of (calm_hears (hears_reading _))) fun _ => ?_
  have own : Keeps (Calm active (heard s power)) diagnostics :=
    keeps_bind calm_status fun _ => keeps_ite (fun _ => keeps_pure _) fun _ =>
      keeps_ite (fun _ => keeps_pure _) fun _ =>
        keeps_ite (fun _ => keeps_pure _) fun _ => keeps_pure _
  refine keeps_bind (keeps_onRt_of own) fun _ => keeps_onRt_of (calm_outside ?_)
  exact keeps_of_hears fun _ => hears_reading _

/-- What `motion.stop` and `task.cancel` call. -/
private theorem calm_stop {result : TaskResult} :
    Triple (fun m : Brain World => Calm active power m.rt)
      (onRt (outside (scripted s).stop) >>= fun _ => pure result)
      (fun _ m => Calm active (heard s power) m.rt)
      (fun _ m => Calm active (heard s power) m.rt) :=
  Triple.bind (triple_onRt_of (calm_hears (hears_reading _))) fun _ => keeps_pure _

theorem calm_hStop (task : Task) :
    Triple (fun m : Brain World => Calm active power m.rt) (hStop (scripted s) task)
      (fun _ m => Calm active (heard s power) m.rt)
      (fun _ m => Calm active (heard s power) m.rt) := calm_stop

theorem calm_hCancel (task : Task) :
    Triple (fun m : Brain World => Calm active power m.rt) (hCancel (scripted s) task)
      (fun _ m => Calm active (heard s power) m.rt)
      (fun _ m => Calm active (heard s power) m.rt) :=
  fun m calm => calm_stop { m with rt := { m.rt with cancelled := true } }
    ⟨calm.power, calm.contactor, calm.state⟩

theorem calm_hTool (task : Task) :
    Triple (fun m : Brain World => Calm active power m.rt) (hTool (scripted s) task)
      (fun _ m => Calm active (if task.intent ∈ readingTools then heard s power else power) m.rt)
      (fun _ m => Calm active (if task.intent ∈ readingTools then heard s power else power) m.rt) := by
  have tool : (scripted s).tool task.intent task.arguments =
      if task.intent ∈ readingTools then reading s (s.tool task.intent task.arguments)
      else answer (s.tool task.intent task.arguments) := rfl
  unfold hTool
  rw [tool]
  split
  · exact triple_onRt_of (calm_hears (hears_reading _))
  · exact keeps_onRt_of (calm_outside (keeps_answer _))

/-- SAFE_IDLE cannot be entered from ACTIVE. -/
private theorem calm_enterSafeIdle : Keeps (Calm active power) enterSafeIdle := by
  refine keeps_iff.mpr fun rt calm => ?_
  unfold enterSafeIdle
  rw [reads_bind]
  split
  · by_cases busy : rt.machine.state = .active
    · have refused : rt.machine.transition .safeIdle "operator requested safe idle" =
          .error ⟨.invalidTransition, "illegal state transition ACTIVE -> SAFE_IDLE"⟩ := by
        simp [StateMachine.transition, StateMachine.canTransition, busy, DroidState.transitions,
          DroidState.value]
      unfold transition
      rw [refused]
      exact calm
    · obtain ⟨machine, after, same | idle⟩ :=
        transition_after .safeIdle "operator requested safe idle" rt
      · rw [after, same]
        exact calm
      · rw [after]
        refine ⟨calm.power, calm.contactor, ?_⟩
        rw [← calm.state]
        simp [idle, busy]
  · exact calm

theorem calm_hSafeIdle (task : Task) :
    Keeps (fun m : Brain World => Calm active false m.rt) (hSafeIdle (scripted s) task) := by
  refine keeps_bind (keeps_onRt_of calm_release) fun _ => ?_
  exact keeps_bind (keeps_onRt_of calm_enterSafeIdle) fun _ => keeps_bind (keeps_reads _) fun _ => keeps_pure _

/-- Switching the backend off changes nothing of a calm context. -/
private theorem calm_setPowerOff (engaged : Bool) :
    Triple (fun rt => Calm active false rt ∧ rt.controller.estop = engaged)
      (outside ((scripted s).setPower false))
      (fun _ rt => (Calm active false rt ∧ rt.controller.estop = engaged) ∧
        returns (s.setPower false) = true)
      (fun _ rt => Calm active false rt ∧ ¬ returns (s.setPower false) = true) := by
  rintro rt ⟨calm, latched⟩
  rw [outside_run, scripted_setPower]
  rcases s.setPower false with e | ⟨⟩
  · exact ⟨calm, by simp⟩
  · exact ⟨⟨⟨rfl, calm.contactor, calm.state⟩, latched⟩, rfl⟩

/-- After an emergency stop the state is ACTIVE only if it was and the stop was cut short. -/
private theorem calm_engageEstop (reason : String) :
    Triple (Calm active false) (engageEstop (scripted s) reason)
      (fun _ => Calm (active ∧ ¬ (returns (s.setPower false) = true ∧
        logs s "emergency_stop" reason true)) false)
      (fun _ => Calm (active ∧ ¬ (returns (s.setPower false) = true ∧
        logs s "emergency_stop" reason true)) false) := by
  have latch : Triple (Calm active false)
      (onController (SimulatedSafetyController.engageEstop reason))
      (fun _ rt => Calm active false rt ∧ rt.controller.estop = true)
      (fun _ => Calm (active ∧ ¬ (returns (s.setPower false) = true ∧
        logs s "emergency_stop" reason true)) false) := fun rt calm =>
    ⟨⟨calm.power, SimulatedSafetyController.engageEstop_power _ _, calm.state⟩,
      SimulatedSafetyController.engageEstop_estop _ _⟩
  refine Triple.bind latch fun _ => Triple.bind (Triple.weaken (calm_setPowerOff true)
    (fun _ calm => calm) (fun _ _ calm => calm) ?_) fun _ => ?_
  · rintro e rt ⟨calm, raised⟩
    exact ⟨calm.power, calm.contactor, calm.state.trans (by simp [raised])⟩
  refine Triple.bind (Q := fun _ rt => (Calm active false rt ∧ rt.controller.estop = true) ∧
    returns (s.setPower false) = true) (fun rt calm => ?_) fun _ => ?_
  · exact ⟨⟨⟨calm.1.1.power, calm.1.1.contactor, calm.1.1.state⟩, calm.1.2⟩, calm.2⟩
  refine Triple.bind (Q := fun _ rt => (Calm active false rt ∧ logs s "emergency_stop" reason true) ∧
    returns (s.setPower false) = true) ?_ fun _ => ?_
  · rintro rt ⟨calm, off⟩
    have ends := calm_logs (s := s) "emergency_stop" reason true rt calm
    rcases run : logSafetyEvent (scripted s) "emergency_stop" reason rt with ⟨e | _, rt'⟩ <;>
      rw [run] at ends
    · exact ⟨ends.1.power, ends.1.contactor, ends.1.state.trans (by simp [ends.2])⟩
    · exact ⟨ends, off⟩
  · rintro rt ⟨⟨calm, logged⟩, off⟩
    exact ⟨calm.power, calm.contactor, by simp [off, logged]⟩

theorem calm_hEstop (task : Task) :
    Triple (fun m : Brain World => Calm active false m.rt) (hEstop (scripted s) task)
      (fun _ m => Calm (active ∧ ¬ (returns (s.setPower false) = true ∧
        logs s "emergency_stop" "voice_or_text_command" true)) false m.rt)
      (fun _ m => Calm (active ∧ ¬ (returns (s.setPower false) = true ∧
        logs s "emergency_stop" "voice_or_text_command" true)) false m.rt) :=
  Triple.bind (triple_onRt_of (calm_engageEstop _)) fun _ => keeps_pure _

/-- A service whose stopping hooks are the default ones. -/
def StopsQuietly (service : ManagedService (Runtime World)) : Prop :=
  ∀ h, h = .onDeactivate ∨ h = .onCleanup → service.hook h = pure true

/-- Shutting such a service down does not touch the context. -/
private theorem calm_shutdown {service : ManagedService (Runtime World)}
    (quiet : StopsQuietly service) :
    Keeps (fun m : Brain World => Calm active power m.rt) (shutdown service) := by
  have guarded (h : Hook) (stops : h = .onDeactivate ∨ h = .onCleanup) (m : Brain World) :
      (guardHook service h m).2.rt = m.rt := by
    obtain ⟨ok, error, run⟩ := guardHook_eq service h m
    rw [run, Managed.setRecord_rt, quiet h stops]
    rfl
  have deactivated (m : Brain World) : (deactivate service m).2.rt = m.rt := by
    unfold deactivate guardTo
    split
    · have same := guarded .onDeactivate (Or.inl rfl) m
      rcases answer : guardHook service .onDeactivate m with ⟨_ | _, m'⟩ <;>
        rw [answer] at same <;> exact same
    · rfl
  refine keeps_iff.mpr fun m calm => ?_
  have same : (shutdown service m).2.rt = m.rt := by
    unfold shutdown runHook
    rw [quiet .onCleanup (Or.inr rfl)]
    exact deactivated m
  rw [same]
  exact calm

/-- Shutdown ends in SHUTTING_DOWN or POWERED_OFF. -/
private theorem calm_requestShutdown {reg : Registry (Runtime World)}
    (quiet : ∀ service ∈ reg.services, StopsQuietly service) :
    Triple (fun m : Brain World => Calm active false m.rt) (requestShutdown (scripted s) reg)
      (fun _ m => Calm False false m.rt) (fun _ m => Calm False false m.rt) := by
  have leave (dst : DroidState) (reason : String) (idle : dst ≠ .active) {before : Prop} :
      Triple (fun m : Brain World => Calm before false m.rt) (onRt (force dst reason))
        (fun _ m => Calm False false m.rt) (fun _ m => Calm False false m.rt) :=
    fun m calm => ⟨calm.power, calm.contactor, by simp [idle]⟩
  have backend : Keeps (fun w => w.power = false) (scripted s).shutdown := by
    refine keeps_iff.mpr fun w off => ?_
    rw [scripted_shutdown]
    split
    · rfl
    · exact off
  have rest : Keeps (fun m : Brain World => Calm False false m.rt) (do
      forEach reg.services.reverse shutdown
      onRt (outside (scripted s).shutdown)
      onRt (force .poweredOff "shutdown complete")) := by
    refine keeps_bind (keeps_forEach fun service member => ?_) fun _ => ?_
    · exact calm_shutdown (quiet service (List.mem_reverse.mp member))
    · exact keeps_bind (keeps_onRt_of (calm_outside backend)) fun _ => leave _ _ (by decide)
  intro m calm
  unfold requestShutdown
  rw [reads_bind]
  by_cases stopped : m.rt.machine.state = .shuttingDown
  · rw [if_neg (not_not.mpr stopped)]
    exact rest m ⟨calm.power, calm.contactor, by simp [stopped]⟩
  · rw [if_pos stopped]
    exact Triple.bind (leave .shuttingDown "shutdown requested" (by decide)) (fun _ => rest) m calm

theorem calm_hShutdown (task : Task) :
    Triple (fun m : Brain World => Calm active false m.rt)
      (hShutdown (scripted s) (droidServices (scripted s)) task)
      (fun _ m => Calm False false m.rt) (fun _ m => Calm False false m.rt) := by
  have quiet (service) (member : service ∈ (droidServices (scripted s)).services) :
      StopsQuietly service := fun h => shutdown_hooks_default (scripted s) member
  exact Triple.bind (calm_requestShutdown quiet) fun _ => keeps_bind (keeps_reads _) fun _ =>
    keeps_pure _

/-- `robot.explain` reads the backend unless it is about the last task or the
emergency stop already explains everything. -/
def explains (arguments : Items) (engaged : Bool) : Bool :=
  !((PyVal.lookup "topic" arguments).getD (.str "why")).isKey "current_task" && !engaged

theorem calm_hExplain (task : Task) (engaged : Bool) :
    Triple (fun m : Brain World => Calm active power m.rt ∧ m.rt.controller.estop = engaged)
      (hExplain (scripted s) (droidServices (scripted s)) task)
      (fun _ m => Calm active (if explains task.arguments engaged then heard s power else power) m.rt)
      (fun _ m =>
        Calm active (if explains task.arguments engaged then heard s power else power) m.rt) := by
  unfold hExplain explains argument
  cases ((PyVal.lookup "topic" task.arguments).getD (.str "why")).isKey "current_task" with
  | true => exact fun m calm => calm.1
  | false =>
    refine Triple.bind (Q := fun _ m => Calm active (if engaged then power else heard s power) m.rt)
      ?_ fun _ => ?_
    · refine Triple.weaken (calm_assessReadiness engaged) (fun _ calm => calm)
        (fun _ _ calm => calm) fun _ _ calm => ?_
      cases engaged <;> exact calm
    · refine Triple.weaken (keeps_bind (keeps_reads _) fun _ =>
        keeps_bind (keeps_onRt_of (calm_estopEngaged)) fun _ => keeps_pure _)
        (fun _ calm => calm) (fun _ _ calm => ?_) fun _ _ calm => ?_
      · cases engaged <;> exact calm
      · cases engaged <;> exact calm

/-! The start and the end of a run. -/

/-- The arguments of the task, unless they make no dictionary or its start cannot
be audited. -/
def starts (s : Script) (intent : StructuredIntent) (user : String) (n : Nat) : Option Items :=
  match intent.arguments.toDict, s.emit (startRecord intent user (taskIdOf n)) with
  | .ok arguments, .ok () => some arguments
  | _, _ => none

/-- Starting a task touches neither the controller nor the state machine nor the world. -/
structure Beside (rt rt' : Runtime World) : Prop where
  now : rt'.now = rt.now
  controller : rt'.controller = rt.controller
  machine : rt'.machine = rt.machine
  env : rt'.env = rt.env

theorem Beside.released_iff {rt rt' : Runtime World} (beside : Beside rt rt') :
    Released rt' ↔ Released rt := by
  constructor
  · rintro ⟨power, contactor, state⟩
    rw [beside.env] at power
    rw [beside.controller] at contactor
    rw [beside.machine] at state
    exact ⟨power, contactor, state⟩
  · rintro ⟨power, contactor, state⟩
    rw [← beside.env] at power
    rw [← beside.controller] at contactor
    rw [← beside.machine] at state
    exact ⟨power, contactor, state⟩

inductive StartRun (s : Script) (intent : StructuredIntent) (user : String)
    (rt : Runtime World) : Except Exn Task × Runtime World → Prop
  | refused {e : Exn} {rt' : Runtime World} : starts s intent user rt.nextTask = none →
      Beside rt rt' → StartRun s intent user rt (.error e, rt')
  | started {task : Task} {rt' : Runtime World} :
      starts s intent user rt.nextTask = some task.arguments → task.intent = intent.intent →
      rt'.cancelled = false → Beside rt rt' → StartRun s intent user rt (.ok task, rt')

theorem startTask_run (intent : StructuredIntent) (user : String) (rt : Runtime World) :
    StartRun s intent user rt (startTask (scripted s) intent user rt) := by
  unfold startTask
  rcases given : intent.arguments.toDict with e | arguments
  · rw [bind_error (ofExcept_run _ rt)]
    exact .refused (by simp [starts, given]) ⟨rfl, rfl, rfl, rfl⟩
  rw [bind_ok (ofExcept_run _ rt), reads_bind, modify_bind]
  rcases audited : s.emit (startRecord intent user (taskIdOf rt.nextTask)) with e | ⟨⟩
  · rw [bind_error (by simp [audited]; exact ⟨rfl, rfl⟩)]
    exact .refused (by simp [starts, given, audited]) ⟨rfl, rfl, rfl, rfl⟩
  · rw [bind_ok (by simp [audited]; exact ⟨rfl, rfl⟩)]
    exact .started (by simp [starts, given, audited]) rfl rfl ⟨rfl, rfl, rfl, rfl⟩

theorem keeps_finishTask {rt : Runtime World} (task : Task) (user : String) (result : TaskResult) :
    Keeps (Beside rt) (finishTask (scripted s) task user result) := by
  refine keeps_bind (keeps_modify fun _ same => ?_) fun _ => keeps_bind (keeps_reads _) fun _ => ?_
  · exact ⟨same.now, same.controller, same.machine, same.env⟩
  refine keeps_bind (keeps_iff.mpr fun _ same => same) fun _ => ?_
  refine keeps_bind (keeps_modify fun _ same => ?_) fun _ => keeps_pure _
  exact ⟨same.now, same.controller, same.machine, same.env⟩

end DroidOs.Executive.CalmRun
