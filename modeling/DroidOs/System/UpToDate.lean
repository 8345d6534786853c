/- GID: DroidOs/System/UpToDate
   generality: I
   source: src/droidos/services/supervisor.py
   digest: Which steps leave the state up to date with what the droid is fit for. -/

import DroidOs.System.MotionReport
import DroidOs.System.Outlook

set_option autoImplicit false
set_option relaxedAutoImplicit false

namespace DroidOs.System.UpToDate

open DroidOs.Lib.Procedure DroidOs.Lib.Interleaving
open DroidOs.Lib.Interleaving.Coroutine (Guard)
open DroidOs.Core.Values DroidOs.Core.States DroidOs.Core.Context
open DroidOs.Backends.SafetyController DroidOs.Backends.Simulation
open DroidOs.Services.Lifecycle DroidOs.Services.HookLaw
open DroidOs.Services.SafetyGateway DroidOs.Services.Supervisor
open DroidOs.Services.Readiness DroidOs.Services.Inhibition
open DroidOs.Executive.Drive DroidOs.Executive.RunIntent
open DroidOs.Language.Intent DroidOs.Language.Broker DroidOs.Language.Approval
open DroidOs.Language.Conversation
open Registration TaskSteps TaskLaw Operations Simulated StepLaw LatchLaw StateGraph Outlook

/-! What has to be settled again. -/

variable {δ : Type} {s : Surroundings δ}

/-- The state machine permits motion exactly when the droid is fit. -/
def Current (s : Surroundings δ) (m : Brain (SimWorld δ)) : Prop :=
  m.rt.machine.motionPermitted = true ↔ Fit (simulated s) (droidServices (simulated s)) m

/-- Something else than the controller keeps the droid from moving, or its watchdog tolerates nothing. -/
def Hampered (s : Surroundings δ) (m : Brain (SimWorld δ)) : Prop :=
  m.rt.controller.watchdogTimeout < 0 ∨ inactiveReasons (droidServices (simulated s)) m ≠ [] ∨
    ¬ Sound s m.rt.env

/-- In this world the droid would be as able to move as its state machine permits. -/
def Bears (s : Surroundings δ) (m : Brain (SimWorld δ)) (w : SimWorld δ) : Prop :=
  (m.rt.machine.motionPermitted = true → Sound s w) ∧
  (m.rt.machine.motionPermitted = false → m.rt.controller.mayEnable = true →
    Hampered s { m with rt := { m.rt with env := w } })

/-- What the steps have to find that change the droid's fitness, or its state, without settling the
state: only a refresh settles it. -/
structure Timely (s : Surroundings δ) (m : Brain (SimWorld δ))
    (step : Brain (SimWorld δ) → Brain (SimWorld δ)) : Prop where
  fault : ∀ name, step = (onRt (reportFault (simulated s) name)).after → m.rt.machine.motionPermitted = false
  linkLost : step = (onRt (setSafetyLink (simulated s) false)).after → m.rt.machine.motionPermitted = false
  linkBack : step = (onRt (setSafetyLink (simulated s) true)).after → m.rt.machine.motionPermitted = false →
    (m.rt.controller.setLink true).mayEnable = true → Hampered s m
  reset : step = (onRt (resetEstop (simulated s))).after → m.rt.machine.motionPermitted = false →
    m.rt.controller.resetEstop.mayEnable = true → Hampered s m
  safeIdle : ∀ task, step = (hSafeIdle (simulated s) task).after →
    m.rt.machine.state ≠ .ready ∧ m.rt.machine.state ≠ .degraded
  restart : step = (restartFailed (droidServices (simulated s))).after →
    (∀ name ∈ m.failedServices, name ∉ motionCritical) ∨ m.rt.machine.motionPermitted = false ∧
      (m.rt.controller.mayEnable = false ∨ m.rt.controller.watchdogTimeout < 0 ∨ ¬ Sound s m.rt.env)
  tick : ∀ goal d, step = (onRt (driveTick (simulated s) goal d)).after →
    Bears s m (driveTick (simulated s) goal d m.rt).2.env
  happen : ∀ event : SimEvent δ,
    step = (onRt (modify fun rt => { rt with env := happening event rt.env } : Proc _ Exn _)).after →
    Bears s m (happening event m.rt.env)

/-- What the steps have to find, as a guard. -/
def timelyGuard (s : Surroundings δ) : Guard (Brain (SimWorld δ)) := Timely s

/-! Steps that leave it as it is. -/

private theorem inactive_congr {m m' : Brain (SimWorld δ)} {reg : Registry (Runtime (SimWorld δ))}
    (states : ∀ name ∈ motionCritical, m'.state name = m.state name) :
    inactiveReasons reg m' = inactiveReasons reg m := by
  unfold inactiveReasons
  congr 1
  refine List.filter_congr fun name critical => ?_
  rw [states name critical]

/-- Whether the droid is fit depends on its outlook and the critical services. -/
private theorem fit_congr {m m' : Brain (SimWorld δ)} (standings : standing m'.rt = standing m.rt)
    (states : ∀ name ∈ motionCritical, m'.state name = m.state name)
    (fit : Fit (simulated s) (droidServices (simulated s)) m) :
    Fit (simulated s) (droidServices (simulated s)) m' := by
  rw [fit_simulated] at fit ⊢
  rw [standings, inactive_congr states]
  exact ⟨fit.1, fit.2.1, sound_congr (congrArg Standing.gauges standings) fit.2.2⟩

private theorem current_congr {m m' : Brain (SimWorld δ)} (same : outlook m'.rt = outlook m.rt)
    (states : ∀ name ∈ motionCritical, m'.state name = m.state name) (current : Current s m) : Current s m' := by
  have permits : m'.rt.machine.motionPermitted = m.rt.machine.motionPermitted := congrArg Prod.fst same
  have standings : standing m'.rt = standing m.rt := congrArg Prod.snd same
  unfold Current
  rw [permits]
  refine current.trans ⟨fit_congr standings states, fit_congr standings.symm fun name critical => ?_⟩
  exact (states name critical).symm

private theorem current_records {m m' : Brain (SimWorld δ)} (same : outlook m'.rt = outlook m.rt)
    (records : m'.table = m.table) (current : Current s m) : Current s m' := by
  refine current_congr same (fun name _ => ?_) current
  rw [Managed.state, records]
  rfl

/-- A droid that neither is fit nor in a state that permits motion. -/
private theorem current_of_neither {m : Brain (SimWorld δ)} (parked : m.rt.machine.motionPermitted = false)
    (unfit : m.rt.controller.mayEnable = true → Hampered s m) : Current s m := by
  refine iff_of_false (by simp [parked]) fun fit => ?_
  obtain ⟨⟨enables, tolerant⟩, active, sound⟩ := (fit_simulated m).mp fit
  rcases unfit enables with intolerant | idle | unsound
  · exact tolerant intolerant
  · exact idle active
  · exact unsound sound

theorem current_onRt {α : Type} {p : Proc (Runtime (SimWorld δ)) Exn α}
    (keeps : ∀ v, Keeps (fun rt => outlook rt = v) p) : Keeps (Current s) (onRt p) :=
  keeps_iff.mpr fun _ current => current_records ((keeps _).after rfl) rfl current

/-! The steps of a task. -/

/-- An emergency stop parks the droid. -/
private theorem current_engage (reason : String) (m : Brain (SimWorld δ)) :
    Current s (onRt (engageEstop (simulated s) reason) m).2 := by
  obtain ⟨controller, store, estop, contactor, run⟩ := engageEstop_run (s := s) reason m.rt
  rw [onRt_run, run]
  refine current_of_neither rfl fun enables => ?_
  change controller.mayEnable = true at enables
  rw [SimulatedSafetyController.mayEnable, estop] at enables
  cases enables

/-- A shutdown parks the droid for good. -/
private theorem current_shutdown (m : Brain (SimWorld δ)) :
    Current s (requestShutdown (simulated s) (droidServices (simulated s)) m).2 := by
  have plain : ∀ spec ∈ (droidServices (simulated s)).services.reverse, spec.hook .onCleanup = pure true :=
    fun spec member => shutdown_hooks_default _ (List.mem_reverse.mp member) (.inr rfl)
  have gateway : safetyGateway (simulated s) ∈ (droidServices (simulated s)).services.reverse := by
    simp [droidServices]
  have closes (m : Brain (SimWorld δ)) : Current s (((do
      forEach (droidServices (simulated s)).services.reverse shutdown
      onRt (outside (simulated s).shutdown)
      onRt (force .poweredOff "shutdown complete")) : Proc (Brain (SimWorld δ)) Exn Unit) m).2 := by
    have returns := forEach_returns (fun spec member => shutdown_returns (plain spec member)) m
    have ended : (forEach (droidServices (simulated s)).services.reverse shutdown m).2.state "safety_gateway" = .finalized :=
      shutdown_each plain m (.inr ⟨_, gateway, rfl⟩)
    rcases run : forEach (droidServices (simulated s)).services.reverse shutdown m with ⟨e | _, m'⟩ <;>
      rw [run] at returns ended
    · cases returns
    rw [bind_ok run]
    refine current_of_neither rfl fun _ => .inr (.inl fun active => ?_)
    have up : m'.state "safety_gateway" = .active :=
      critical_active active (by decide) (droidServices_hasSafety _)
    rw [up] at ended
    cases ended
  unfold requestShutdown
  rw [reads_bind]
  split
  · rw [bind_ok (onRt_run _ _)]
    exact closes _
  · exact closes m

private theorem current_hShutdown (task : Task) (m : Brain (SimWorld δ)) :
    Current s (hShutdown (simulated s) (droidServices (simulated s)) task m).2 :=
  after_bind (I := Current s) (current_shutdown m) fun _ => keeps_bind (keeps_reads _) fun _ => keeps_pure _

/-- From the active state there is no transition to safe idle. -/
private theorem safeIdle_stays {rt : Runtime (SimWorld δ)}
    (stays : rt.machine.state ≠ .ready ∧ rt.machine.state ≠ .degraded) : (enterSafeIdle rt).2 = rt := by
  unfold enterSafeIdle
  rw [reads_bind]
  split
  · next permits =>
    have active : rt.machine.state = .active := by
      simpa [StateMachine.motionPermitted, DroidState.motionAllowedFrom, stays.1, stays.2] using permits
    rw [transition, StateMachine.transition, StateMachine.canTransition, active]
    rfl
  · rfl

/-- A request for safe idle that finds neither of the states it could leave only releases power. -/
private theorem current_safeIdle (task : Task) {m : Brain (SimWorld δ)} (current : Current s m)
    (stays : m.rt.machine.state ≠ .ready ∧ m.rt.machine.state ≠ .degraded) :
    Current s (hSafeIdle (simulated s) task m).2 := by
  let same : Brain (SimWorld δ) → Prop := fun m' => outlook m'.rt = outlook m.rt ∧ m'.table = m.table ∧
    (m'.rt.machine.state ≠ .ready ∧ m'.rt.machine.state ≠ .degraded)
  have released : Keeps same (onRt (releaseMotionPermission (simulated s))) := by
    refine keeps_iff.mpr fun m' ⟨outlooks, records, left⟩ => ⟨outlook_release.after outlooks, records, ?_⟩
    exact (machine_primitives fun machine => machine.state ≠ .ready ∧ machine.state ≠ .degraded).keeps_release.after left
  have idle : Keeps same (onRt enterSafeIdle) := by
    refine keeps_iff.mpr fun m' ⟨outlooks, records, left⟩ => ?_
    rw [onRt_run, safeIdle_stays left]
    exact ⟨outlooks, records, left⟩
  have kept : Keeps same (hSafeIdle (simulated s) task) :=
    keeps_bind released fun _ => keeps_bind idle fun _ => keeps_bind (keeps_reads _) fun _ => keeps_pure _
  obtain ⟨outlooks, records, -⟩ := kept.after (s := m) ⟨rfl, rfl, stays⟩
  exact current_records outlooks records current

/-- A tick that leaves a world which the droid bears. -/
private theorem current_env {m m' : Brain (SimWorld δ)} {w : SimWorld δ} (current : Current s m)
    (permits : m'.rt.machine.motionPermitted = m.rt.machine.motionPermitted)
    (enables : m'.rt.controller.mayEnable = m.rt.controller.mayEnable)
    (timeout : m'.rt.controller.watchdogTimeout = m.rt.controller.watchdogTimeout)
    (world : m'.rt.env = w) (records : m'.table = m.table) (bears : Bears s m w) : Current s m' := by
  have active : inactiveReasons (droidServices (simulated s)) m' = inactiveReasons (droidServices (simulated s)) m :=
    inactive_congr fun name _ => by rw [Managed.state, records]; rfl
  cases moves : m.rt.machine.motionPermitted with
  | true =>
    refine iff_of_true (permits.trans moves) ((fit_simulated m').mpr ?_)
    obtain ⟨able, up, -⟩ := (fit_simulated m).mp (current.mp moves)
    refine ⟨?_, active.trans up, world ▸ bears.1 moves⟩
    simp only [standing, enables, timeout]
    exact able
  | false =>
    refine current_of_neither (permits.trans moves) fun able => ?_
    rcases bears.2 moves (enables ▸ able) with intolerant | idle | unsound
    · exact .inl (timeout ▸ intolerant)
    · refine .inr (.inl ?_)
      rw [active]
      exact idle
    · exact .inr (.inr (world ▸ unsound))

/-- Every step of a request leaves the state up to date if it finds what it has to. -/
private theorem current_step {step : Brain (SimWorld δ) → Brain (SimWorld δ)} {P : String → Prop}
    (taken : TaskStep (simulated s) (droidServices (simulated s)) P step) (m : Brain (SimWorld δ))
    (current : Current s m) (timely : Timely s m step) : Current s (step m) := by
  have reading : Reads (simulated s) fun rt => outlook rt = outlook m.rt := outlook_reads
  have quiet {α : Type} {p : Proc (SimWorld δ) Exn α}
      (call : ∀ w, (p w).2.backend = w.backend) : Keeps (Current s) (onRt (outside p)) := by
    refine current_onRt fun v => keeps_iff.mpr fun rt same => ?_
    rw [← same]
    simp only [outlook, standing, outside_run, call]
  rcases records_step taken m with records | ⟨task, closes⟩
  swap
  · rw [closes]
    exact current_hShutdown task m
  cases taken with
  | validate intent user confirmed =>
    exact current_records ((reading.keeps_validate intent user confirmed).after rfl) records current
  | pass => exact current
  | emit r => exact (quiet fun _ => rfl).after current
  | start intent user named => exact (current_onRt fun _ => outlook_start intent user).after current
  | finish task user result named => exact (current_onRt fun _ => outlook_finish task user result).after current
  | status task => exact current_records ((reading.keeps_hStatus task).after rfl) records current
  | explain task => exact current_records ((reading.keeps_hExplain task).after rfl) records current
  | diagnostics task named same =>
    refine Keeps.after (keeps_bind (quiet fun _ => rfl) fun _ => keeps_bind ?_ fun _ => quiet fun _ => rfl) current
    exact current_onRt fun _ => (outlook_reads (s := s)).keeps_diagnostics
  | tool task named listed => exact (quiet fun _ => rfl).after current
  | stop task =>
    exact Keeps.after (keeps_bind (current_onRt fun _ => outlook_stop) fun _ => keeps_pure _) current
  | estop task => exact after_bind (I := Current s) (current_engage _ m) fun _ => keeps_pure _
  | cancel task named =>
    refine Keeps.after (keeps_bind (current_onRt fun _ => keeps_iff.mpr fun _ same => same) fun _ => ?_) current
    exact keeps_bind (current_onRt fun _ => outlook_stop) fun _ => keeps_pure _
  | safeIdle task named => exact current_safeIdle task current (timely.safeIdle task rfl)
  | shutdown task named => exact current_hShutdown task m
  | resolve dest => exact (quiet fun _ => rfl).after current
  | note taskId label => exact (current_onRt fun _ => keeps_iff.mpr fun _ same => same).after current
  | request named => exact (current_onRt fun _ => outlook_request).after current
  | enterActive d named => exact (current_onRt fun _ => outlook_enterActive d).after current
  | tick goal d named =>
    have kept := ((@driving_attends _ (simulated s) _).keeps_driveTick goal d).after (s := m.rt) rfl
    obtain ⟨permits, enables, timeout⟩ : _ ∧ _ ∧ _ := by simpa only [Prod.mk.injEq] using kept
    exact current_env current permits enables timeout rfl rfl (timely.tick goal d rfl)
  | endDrive held named => exact (current_onRt fun _ => outlook_endDrive held).after current
  | dock named => exact (current_onRt fun _ => outlook_dock).after current
  | inspect task drive named =>
    refine Keeps.after (keeps_bind (current_onRt fun _ => keeps_iff.mpr fun _ same => same) fun _ => ?_) current
    refine keeps_bind (keeps_attempt (quiet fun _ => rfl)) fun outcome => ?_
    cases outcome <;> exact keeps_pure _

/-! The other operations. -/

/-- A refresh settles the state, unless the assessment raises: then the droid is not fit. -/
theorem current_refresh {m : Brain (SimWorld δ)}
    (fits : m.rt.machine.motionPermitted = true → Fit (simulated s) (droidServices (simulated s)) m) :
    Current s (refresh (simulated s) (droidServices (simulated s)) m).2 := by
  have safety := droidServices_hasSafety (simulated s)
  have assessed : outlook (assessReadiness (simulated s) (droidServices (simulated s)) m).2.rt = outlook m.rt :=
    (outlook_reads (s := s)).keeps_assessReadiness.after rfl
  have standings := congrArg Prod.snd assessed
  obtain ⟨controller, env, kept⟩ := @assess_keeps _ (simulated s) _ safety m
  have records : (assessReadiness (simulated s) (droidServices (simulated s)) m).2.table = m.table := by
    rw [kept]
  have critical : ∀ name ∈ motionCritical,
      (assessReadiness (simulated s) (droidServices (simulated s)) m).2.state name = m.state name := by
    intro name _
    rw [Managed.state, records]
    rfl
  rcases found : (assessReadiness (simulated s) (droidServices (simulated s)) m).1 with e | r
  · have unfit : ¬ Fit (simulated s) (droidServices (simulated s)) m := by
      rw [← assess_allowed_iff safety m, found]
      rintro ⟨r, none, -⟩
      cases none
    rw [refresh_error found]
    refine current_records assessed records (iff_of_false (fun moves => unfit (fits moves)) unfit)
  · obtain ⟨machine, run, state⟩ := refresh_ok found
    have fit : Fit (simulated s) (droidServices (simulated s)) m ↔ r.state ∈ DroidState.motionAllowedFrom := by
      rw [← assess_allowed_iff safety m, found]
      simp
    rw [run]
    have settled : machine.motionPermitted = true ↔ Fit (simulated s) (droidServices (simulated s)) m := by
      rw [fit, ← state]
      simp [StateMachine.motionPermitted]
    refine settled.trans ⟨fit_congr standings critical, fit_congr standings.symm fun name listed => ?_⟩
    exact (critical name listed).symm

/-- What begins with a change of the controller, and then leaves the outlook alone. -/
private theorem current_controller {α : Type} {f : SimulatedSafetyController → SimulatedSafetyController}
    {p : Unit → Proc (Runtime (SimWorld δ)) Exn α} (rest : ∀ u v, Keeps (fun rt => outlook rt = v) (p u))
    {m : Brain (SimWorld δ)} (changed : Current s { m with rt := { m.rt with controller := f m.rt.controller } }) :
    Current s (onRt (onController f >>= p) m).2 := by
  refine current_records (m := { m with rt := { m.rt with controller := f m.rt.controller } }) ?_ rfl changed
  rw [onRt_run]
  change outlook (p () { m.rt with controller := f m.rt.controller }).2 = _
  exact (rest () _).after rfl

private theorem outlook_off {v : Bool × Standing} :
    Keeps (fun rt => outlook rt = v) (outside ((simulated s).setPower false)) :=
  keeps_iff.mpr fun _ same => same

/-- A reported fault keeps the controller from closing its contactor. -/
private theorem current_fault (name : String) {m : Brain (SimWorld δ)}
    (parked : m.rt.machine.motionPermitted = false) : Current s (onRt (reportFault (simulated s) name) m).2 := by
  refine current_controller (fun _ _ => keeps_bind outlook_off fun _ => outlook_log _ _) ?_
  refine current_of_neither parked fun enables => ?_
  have some : (m.rt.controller.addFault name).faults ≠ [] := by
    rw [SimulatedSafetyController.addFault]
    split
    · next listed => exact List.ne_nil_of_mem listed
    · simp
  simp only [SimulatedSafetyController.mayEnable, SimulatedSafetyController.reportFault, Bool.and_eq_true,
    List.isEmpty_iff] at enables
  exact absurd enables.1.2 some

/-- What a fit droid's controller may enable, it may still enable after a change that keeps it so. -/
private theorem current_same {f : SimulatedSafetyController → SimulatedSafetyController} {m : Brain (SimWorld δ)}
    (current : Current s m) (enables : m.rt.controller.mayEnable = true → (f m.rt.controller).mayEnable = true)
    (timeout : (f m.rt.controller).watchdogTimeout = m.rt.controller.watchdogTimeout)
    (hampered : m.rt.machine.motionPermitted = false → (f m.rt.controller).mayEnable = true → Hampered s m) :
    Current s { m with rt := { m.rt with controller := f m.rt.controller } } := by
  cases moves : m.rt.machine.motionPermitted with
  | true =>
    have able := ((fit_simulated m).mp (current.mp moves)).1.1
    have same : (f m.rt.controller).mayEnable = m.rt.controller.mayEnable := (enables able).trans able.symm
    refine current_records (m := m) ?_ rfl current
    simp only [outlook, standing, timeout, same]
  | false =>
    refine current_of_neither moves fun able => ?_
    rcases hampered moves able with intolerant | cause
    · exact .inl (timeout.symm ▸ intolerant)
    · exact .inr cause

private theorem current_link (up : Bool) {m : Brain (SimWorld δ)} (current : Current s m)
    (timely : Timely s m (onRt (setSafetyLink (simulated s) up)).after) :
    Current s (onRt (setSafetyLink (simulated s) up) m).2 := by
  refine current_controller (fun _ _ => keeps_ite (fun _ => outlook_log _ _) fun _ => keeps_pure _) ?_
  cases up with
  | false =>
    refine current_of_neither (timely.linkLost rfl) fun enables => ?_
    simp [SimulatedSafetyController.mayEnable, SimulatedSafetyController.setLink] at enables
  | true =>
    refine current_same current (fun able => ?_) rfl (timely.linkBack rfl)
    simp only [SimulatedSafetyController.mayEnable, SimulatedSafetyController.setLink, Bool.and_eq_true] at able ⊢
    exact ⟨able.1, trivial⟩

private theorem current_reset {m : Brain (SimWorld δ)} (current : Current s m)
    (timely : Timely s m (onRt (resetEstop (simulated s))).after) :
    Current s (onRt (resetEstop (simulated s)) m).2 := by
  refine current_controller (fun _ _ => keeps_bind (keeps_iff.mpr fun _ same => same) fun _ => ?_) ?_
  · exact keeps_bind (outlook_log _ _) fun _ => keeps_bind (keeps_iff.mpr fun _ same => same) fun _ => keeps_pure _
  · refine current_same current (fun able => ?_) rfl (timely.reset rfl)
    simp only [SimulatedSafetyController.mayEnable, SimulatedSafetyController.resetEstop, Bool.and_eq_true,
      Bool.not_eq_true', List.isEmpty_iff] at able ⊢
    obtain ⟨⟨⟨-, alive⟩, clear⟩, link⟩ := able
    exact ⟨⟨⟨trivial, alive⟩, by rw [clear]; rfl⟩, link⟩

/-- Neither the state nor anything but the services lets the droid move. -/
private def Held (s : Surroundings δ) (rt : Runtime (SimWorld δ)) : Prop :=
  rt.machine.motionPermitted = false ∧
    (rt.controller.mayEnable = false ∨ rt.controller.watchdogTimeout < 0 ∨ ¬ Sound s rt.env)

private theorem held_of_outlook {α : Type} {p : Proc (Runtime (SimWorld δ)) Exn α}
    (keeps : ∀ v, Keeps (fun rt => outlook rt = v) p) : Keeps (Held s) p := by
  refine keeps_iff.mpr fun rt ⟨parked, cause⟩ => ?_
  have same : outlook (p rt).2 = outlook rt := (keeps _).after rfl
  have permits : (p rt).2.machine.motionPermitted = rt.machine.motionPermitted := congrArg Prod.fst same
  have enables : (p rt).2.controller.mayEnable = rt.controller.mayEnable := congrArg (fun v => v.2.enables) same
  have timeout : (p rt).2.controller.watchdogTimeout = rt.controller.watchdogTimeout :=
    congrArg (fun v => v.2.timeout) same
  refine ⟨permits.trans parked, ?_⟩
  rcases cause with refuses | intolerant | unsound
  · exact .inl (enables.trans refuses)
  · exact .inr (.inl (timeout ▸ intolerant))
  · exact .inr (.inr fun sound => unsound (sound_congr (congrArg (fun v => v.2.gauges) same).symm sound))

/-- Loading the latch file engages an e-stop at most. -/
private theorem held_gateway : KeepsHooks (Held s) (safetyGateway (simulated s)) := by
  have beats : Keeps (Held s) heartbeat := held_of_outlook fun _ => (outlook_reads (s := s)).heartbeat
  have loads : Keeps (Held s) (loadLatch (simulated s)) := by
    refine keeps_bind (keeps_reads _) fun file => ?_
    cases file with
    | missing => exact keeps_pure _
    | unreadable => exact keeps_pure _
    | undecodable => exact keeps_raise _
    | malformed => exact keeps_pure _
    | document v =>
      refine keeps_bind (keeps_ofExcept _) fun _ => keeps_ite (fun _ => ?_) fun _ => keeps_pure _
      refine keeps_bind (keeps_ofExcept _) fun reason => keeps_iff.mpr fun rt held => ⟨held.1, .inl ?_⟩
      simp [SimulatedSafetyController.mayEnable]
  intro h
  cases h with
  | onConfigure => exact keeps_bind loads fun _ => keeps_bind beats fun _ => keeps_pure _
  | onActivate =>
    refine keeps_bind beats fun _ => keeps_bind (held_of_outlook fun _ => ?_) fun _ => ?_
    · exact outlook_controller (fun _ => rfl) fun _ => rfl
    · exact keeps_bind (held_of_outlook fun _ => outlook_off) fun _ => keeps_pure _
  | onDeactivate => exact keeps_pure _
  | onCleanup => exact keeps_pure _

private theorem current_restart {m : Brain (SimWorld δ)} (current : Current s m)
    (timely : Timely s m (restartFailed (droidServices (simulated s))).after) :
    Current s (restartFailed (droidServices (simulated s)) m).2 := by
  change Current s (restartEach (droidServices (simulated s)) m.failedServices m).2
  rcases timely.restart rfl with uncritical | ⟨parked, cause⟩
  · let same : Brain (SimWorld δ) → Prop := fun m' => outlook m'.rt = outlook m.rt ∧
      ∀ name ∈ motionCritical, m'.state name = m.state name
    have kept : Keeps same (restartEach (droidServices (simulated s)) m.failedServices) := by
      refine keeps_restarts (fun spec member listed m' ⟨outlooks, states⟩ => ⟨?_, fun name critical => ?_⟩)
        fun _ _ holds => holds
      · have hooks : KeepsHooks (fun rt => outlook rt = outlook m.rt) spec := by
          refine each_keepsHooks outlook_configure member fun named => ?_
          exact absurd (by rw [named]; decide) (uncritical spec.name listed)
        exact restart_holds hooks outlooks
      · refine (restart_other spec m' ?_).trans (states name critical)
        rintro rfl
        exact uncritical _ listed critical
    obtain ⟨outlooks, states⟩ := kept.after (s := m) ⟨rfl, fun _ _ => rfl⟩
    exact current_congr outlooks states current
  · have kept : Keeps (fun m' => Held s m'.rt) (restartEach (droidServices (simulated s)) m.failedServices) := by
      refine keeps_restarts (J := fun m' => Held s m'.rt) (fun spec member _ m' held => ?_) fun _ _ held => held
      refine restart_holds (each_keepsHooks (fun name => held_of_outlook fun _ => outlook_configure name) member ?_) held
      exact fun _ => held_gateway
    obtain ⟨parked', cause'⟩ := kept.after (s := m) ⟨parked, cause⟩
    refine current_of_neither parked' fun enables => ?_
    rcases cause' with refuses | intolerant | unsound
    · rw [enables] at refuses
      cases refuses
    · exact .inl intolerant
    · exact .inr (.inr unsound)

/-- Every operation leaves the state up to date if each of its steps finds what it has to. -/
theorem current_code (op : Operation (SimEvent δ)) :
    (code (simulated s) happening op).Keeps (timelyGuard s) (Current s) := by
  have quiet {α : Type} {p : Proc (Runtime (SimWorld δ)) Exn α} (keeps : ∀ v, Keeps (fun rt => outlook rt = v) p) :
      (Coroutine.atomically (onRt p)).Keeps (timelyGuard s) (Current s) :=
    Coroutine.keeps_atomically (current_onRt keeps)
  have reading (v : Bool × Standing) : Reads (simulated s) fun rt => outlook rt = v := outlook_reads
  have settled (m : Brain (SimWorld δ)) (current : Current s m) (_ : timelyGuard s m
      (refresh (simulated s) (droidServices (simulated s))).after) :
      Current s (refresh (simulated s) (droidServices (simulated s)) m).2 := current_refresh current.mp
  cases op with
  | ask lang r =>
    have steps : (process (simulated s) (droidServices (simulated s)) lang r).Atoms
        (TaskStep (simulated s) (droidServices (simulated s)) fun _ => True) := atoms_process fun _ _ => trivial
    exact Coroutine.keeps_void (Coroutine.keeps_of_atoms steps fun step taken m => current_step taken m)
  | runIntent intent user =>
    have steps : (runIntent (simulated s) (droidServices (simulated s)) intent user).Atoms
        (TaskStep (simulated s) (droidServices (simulated s)) fun _ => True) := atoms_runIntent trivial user
    exact Coroutine.keeps_void (Coroutine.keeps_of_atoms steps fun step taken m => current_step taken m)
  | engageEstop reason => exact Coroutine.keeps_atomically_of fun m _ _ => current_engage reason m
  | resetEstop => exact Coroutine.keeps_void (Coroutine.keeps_atomically_of fun _ => current_reset)
  | reportFault name => exact Coroutine.keeps_atomically_of fun _ _ timely => current_fault name (timely.fault name rfl)
  | requestMotionPermission => exact Coroutine.keeps_void (quiet fun _ => outlook_request)
  | releaseMotionPermission => exact quiet fun _ => outlook_release
  | heartbeat => exact quiet fun v => (reading v).heartbeat
  | status =>
    exact Coroutine.keeps_void (quiet fun v => keeps_bind (reading v).heartbeat fun _ => (reading v).status)
  | healthy => exact Coroutine.keeps_void (quiet fun v => (reading v).keeps_healthy)
  | diagnostics => exact Coroutine.keeps_void (quiet fun v => (reading v).keeps_diagnostics)
  | setSafetyLink up => exact Coroutine.keeps_atomically_of fun _ => current_link up
  | refresh => exact Coroutine.keeps_void (Coroutine.keeps_atomically_of settled)
  | shutdown => exact Coroutine.keeps_atomically_of fun m _ _ => current_shutdown m
  | restartFailed => exact Coroutine.keeps_void (Coroutine.keeps_atomically_of fun _ => current_restart)
  | cancel => exact quiet fun _ => keeps_iff.mpr fun _ same => same
  | stop => exact quiet fun _ => outlook_stop
  | elapse dt => exact quiet fun _ => keeps_iff.mpr fun _ same => same
  | happen event =>
    refine Coroutine.keeps_atomically_of fun m current timely => ?_
    exact current_env current rfl rfl rfl rfl rfl (timely.happen event rfl)

end DroidOs.System.UpToDate
