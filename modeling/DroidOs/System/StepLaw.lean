/- GID: DroidOs/System/StepLaw
   generality: I
   digest: An invariant kept by the primitive steps is kept by the operations built from them. -/

import DroidOs.System.Boot

set_option autoImplicit false
set_option relaxedAutoImplicit false

namespace DroidOs.System.StepLaw

open DroidOs.Lib.Procedure DroidOs.Lib.Interleaving
open DroidOs.Lib.Interleaving.Coroutine (Guard)
open DroidOs.Core.Values DroidOs.Core.States DroidOs.Core.Context
open DroidOs.Backends.SafetyController
open DroidOs.Services.Lifecycle DroidOs.Services.HookLaw
open DroidOs.Services.SafetyGateway DroidOs.Services.Supervisor
open DroidOs.Executive.Drive DroidOs.Executive.RunIntent
open DroidOs.Language.Intent
open Registration TaskLaw Operations Boot

variable {ε ι : Type}

/-- A change of the controller that neither clears its latch nor closes its contactor. -/
structure Lowers (f : SimulatedSafetyController → SimulatedSafetyController) : Prop where
  estop : ∀ c, c.estop = true → (f c).estop = true
  contactor : ∀ c, c.power = false → (f c).power = false

/-- Two contexts that differ at most in bookkeeping, and whose new tasks are in `P`. -/
structure Beside (P : String → Prop) (rt rt' : Runtime ε) : Prop where
  controller : rt'.controller = rt.controller
  latch : rt'.latch = rt.latch
  latchWrite : rt'.latchWrite = rt.latchWrite
  machine : rt'.machine = rt.machine
  estopCalls : rt'.estopCalls = rt.estopCalls
  env : rt'.env = rt.env
  history : ∀ t ∈ rt'.taskHistory, P t.intent ∨ ∃ t' ∈ rt.taskHistory ++ rt.runningTasks, t'.intent = t.intent
  running : ∀ t ∈ rt'.runningTasks, P t.intent ∨ ∃ t' ∈ rt.runningTasks, t'.intent = t.intent

/-- What an invariant of the shared context has to be kept by first of all. -/
structure Primitives (svc : Services ε) (I : Runtime ε → Prop) (P : String → Prop) : Prop where
  quiet : ∀ {α : Type} {p : Proc ε Exn α}, QuietCall svc p → Keeps I (outside p)
  off : Keeps I (outside (svc.setPower false))
  lower : ∀ {f}, Lowers f → ∀ rt, I rt → I { rt with controller := f rt.controller }
  beside : ∀ rt rt', I rt → Beside P rt rt' → I rt'

variable {svc : Services ε} {I : Runtime ε → Prop} {P : String → Prop}

/-! Changes of the controller. -/

theorem lowers_heartbeat (now : ℚ) : Lowers (SimulatedSafetyController.heartbeat now) :=
  ⟨by simp, by simp⟩

theorem lowers_checkWatchdog (now : ℚ) : Lowers (SimulatedSafetyController.checkWatchdog now) :=
  ⟨by simp, fun c off => by simp [SimulatedSafetyController.checkWatchdog_power, off]⟩

theorem lowers_disablePower : Lowers SimulatedSafetyController.disablePower := ⟨by simp, by simp⟩

theorem lowers_engageEstop (reason : String) :
    Lowers (SimulatedSafetyController.engageEstop reason) := ⟨by simp, by simp⟩

theorem lowers_reportFault (name : String) :
    Lowers (SimulatedSafetyController.reportFault name) :=
  ⟨fun _ latched => latched, by simp⟩

theorem lowers_setLink (up : Bool) : Lowers (SimulatedSafetyController.setLink up) :=
  ⟨by simp, fun c off => by simp [off]⟩

namespace Primitives

variable (prims : Primitives svc I P)
include prims

theorem attends : Attends svc I where
  quiet := prims.quiet
  status := keeps_iff.mpr fun rt holds => prims.lower (lowers_checkWatchdog rt.now) rt holds
  heartbeat := keeps_iff.mpr fun rt holds => prims.lower (lowers_heartbeat rt.now) rt holds

theorem keeps_controller {f : SimulatedSafetyController → SimulatedSafetyController}
    (lowers : Lowers f) : Keeps I (onController f) :=
  keeps_iff.mpr (prims.lower lowers)

/-- The bookkeeping that creates and ends no task. -/
theorem holds_core {rt rt' : Runtime ε} (holds : I rt) (core : SameCore rt rt') : I rt' := by
  refine prims.beside rt rt' holds ⟨core.controller, core.latch, core.latchWrite, core.machine,
    core.estopCalls, core.env, fun t member => ?_, fun t member => ?_⟩
  · rw [core.taskHistory] at member
    exact .inr ⟨t, List.mem_append_left _ member, rfl⟩
  · have named := List.mem_map_of_mem (f := Task.intent) member
    rw [core.runningTasks] at named
    obtain ⟨t', member', same⟩ := List.mem_map.mp named
    exact .inr ⟨t', member', same⟩

theorem keeps_note {f : Runtime ε → Runtime ε} (same : ∀ rt, SameCore rt (f rt)) :
    Keeps I (modify f : Proc _ Exn Unit) :=
  keeps_modify fun rt holds => prims.holds_core holds (same rt)

/-! The gateway. -/

theorem keeps_log (event detail : String) : Keeps I (logSafetyEvent svc event detail) :=
  keeps_bind prims.attends.status fun _ =>
    keeps_bind (prims.quiet (.emit _)) fun _ => prims.quiet (.publish _)

theorem keeps_release : Keeps I (releaseMotionPermission svc) := by
  have cleared : Keeps I (modify fun rt => { rt with token := "" } : Proc _ Exn _) :=
    prims.keeps_note fun _ => ⟨rfl, rfl, rfl, rfl, rfl, rfl, rfl, rfl, rfl⟩
  refine keeps_bind (prims.keeps_controller lowers_disablePower) fun _ => ?_
  refine keeps_bind prims.off fun _ => keeps_bind (keeps_reads _) fun _ => ?_
  exact keeps_ite (fun _ => keeps_bind (prims.keeps_log _ _) fun _ => cleared) fun _ => cleared

theorem keeps_fault (name : String) : Keeps I (reportFault svc name) :=
  keeps_bind (prims.keeps_controller (lowers_reportFault name)) fun _ =>
    keeps_bind prims.off fun _ => prims.keeps_log _ _

theorem keeps_link (up : Bool) : Keeps I (setSafetyLink svc up) :=
  keeps_bind (prims.keeps_controller (lowers_setLink up)) fun _ =>
    keeps_ite (fun _ => prims.keeps_log _ _) fun _ => keeps_pure _

private theorem keeps_loadLatch : Keeps I (loadLatch svc) := by
  refine keeps_bind (keeps_reads _) fun file => ?_
  cases file with
  | missing => exact keeps_pure _
  | unreadable => exact keeps_pure _
  | undecodable => exact keeps_raise _
  | malformed => exact keeps_pure _
  | document v =>
    refine keeps_bind (keeps_ofExcept _) fun _ => keeps_ite (fun _ => ?_) fun _ => keeps_pure _
    exact keeps_bind (keeps_ofExcept _) fun _ => prims.keeps_controller (lowers_engageEstop _)

theorem keeps_onConfigure : Keeps I (onConfigure svc) :=
  keeps_bind prims.keeps_loadLatch fun _ =>
    keeps_bind prims.attends.heartbeat fun _ => keeps_pure _

theorem keeps_onActivate : Keeps I (onActivate svc) :=
  keeps_bind prims.attends.heartbeat fun _ =>
    keeps_bind (prims.keeps_controller lowers_disablePower) fun _ =>
      keeps_bind prims.off fun _ => keeps_pure _

theorem keepsHooks : ∀ spec ∈ (droidServices svc).services, KeepsHooks I spec :=
  droidServices_keepsHooks prims.attends prims.keeps_onConfigure prims.keeps_onActivate

/-- A refused request only reads the status; a granted one has to be looked at. -/
theorem request_holds {rt : Runtime ε} (holds : I rt)
    (granted : grants rt = true → I (grantPermission svc
      { rt with controller := { contacted rt with power := true } }).2) :
    I (requestMotionPermission svc rt).2 := by
  cases grant : grants rt with
  | false =>
    rw [request_refused grant]
    exact prims.lower (f := fun c => (c.heartbeat rt.now).checkWatchdog rt.now)
      ⟨by simp, fun c off => by simp [SimulatedSafetyController.checkWatchdog_power, off]⟩ rt holds
  | true =>
    rw [request_granted grant]
    exact granted grant

/-! Tasks. -/

theorem keeps_start {intent : StructuredIntent} (allowed : P intent.intent) (user : String) :
    Keeps I (startTask svc intent user) := by
  refine keeps_bind (keeps_ofExcept _) fun arguments => keeps_bind (keeps_reads _) fun taskId => ?_
  refine keeps_bind (keeps_modify fun rt holds => prims.beside rt _ holds
    ⟨rfl, rfl, rfl, rfl, rfl, rfl, ?_, ?_⟩) fun _ => ?_
  · exact fun t member => .inr ⟨t, List.mem_append_left _ member, rfl⟩
  · intro t member
    rcases List.mem_append.mp member with old | new
    · exact .inr ⟨t, old, rfl⟩
    · obtain rfl := List.mem_singleton.mp new
      exact .inl allowed
  · exact keeps_bind (prims.quiet (.emit _)) fun _ => keeps_pure _

theorem keeps_finish {task : Task} (allowed : P task.intent) (user : String) (result : TaskResult) :
    Keeps I (finishTask svc task user result) := by
  refine keeps_bind (keeps_modify fun rt holds => prims.beside rt _ holds
    ⟨rfl, rfl, rfl, rfl, rfl, rfl, ?_, ?_⟩) fun _ => ?_
  · intro t member
    rcases List.mem_append.mp member with old | new
    · exact .inr ⟨t, List.mem_append_left _ old, rfl⟩
    · obtain rfl := List.mem_singleton.mp new
      rcases found : rt.runningTasks.find? fun t => t.taskId = task.taskId with _ | t'
      · exact .inl (by simpa [found] using allowed)
      · exact .inr ⟨t', List.mem_append_right _ (List.mem_of_find?_eq_some found), by simp [found]⟩
  · exact fun t member => .inr ⟨t, List.mem_of_mem_filter member, rfl⟩
  refine keeps_bind (keeps_reads _) fun _ => keeps_bind (prims.quiet (.emit _)) fun _ => ?_
  exact keeps_bind (prims.keeps_note fun _ => ⟨rfl, rfl, rfl, rfl, rfl, rfl, rfl, rfl, rfl⟩)
    fun _ => keeps_pure _

end Primitives

/-! Transitions within the states that permit motion. -/

/-- An invariant that does not mind a move within the states that permit motion. -/
def Moves (I : Runtime ε → Prop) : Prop :=
  ∀ rt, I rt → rt.machine.state ∈ DroidState.motionAllowedFrom →
    ∀ dst reason, dst ∈ DroidState.motionAllowedFrom → I (transition dst reason rt).2

theorem Moves.keeps_enterActive (moves : Moves I) (d : DriveData) : Keeps I (enterActive svc d) := by
  refine keeps_reads_bind fun rt holds => ?_
  split
  · rename_i starts
    refine after_bind (moves rt holds ?_ _ _ (by decide)) fun _ => keeps_pure _
    rcases starts with ready | degraded
    · simp [ready, DroidState.motionAllowedFrom]
    · simp [degraded, DroidState.motionAllowedFrom]
  · exact holds

theorem Primitives.keeps_endDrive (prims : Primitives svc I P) (moves : Moves I) (held : Bool) :
    Keeps I (endDrive svc held) := by
  have settled : Keeps I (do
      let machine ← reads Runtime.machine
      if machine.state = .active then transition .ready "task complete") := by
    refine keeps_reads_bind fun rt holds => ?_
    split
    · rename_i active
      exact moves rt holds (by simp [active, DroidState.motionAllowedFrom]) _ _ (by decide)
    · exact holds
  exact keeps_ite (fun _ => keeps_bind prims.keeps_release fun _ => settled) fun _ => settled

/-! Transitions to the states without motion. -/

/-- An invariant that does not mind the droid entering a state without motion. -/
structure Forbids (I : Runtime ε → Prop) : Prop where
  transition : ∀ dst reason, dst ∉ DroidState.motionAllowedFrom → Keeps I (transition dst reason)
  force : ∀ dst reason, dst ∉ DroidState.motionAllowedFrom → Keeps I (force dst reason)

/-- A shutdown of services whose hooks for it are the default ones. -/
private theorem Forbids.keeps_closing (forbids : Forbids I) (close : Keeps I (outside svc.shutdown))
    {reg : Registry (Runtime ε)} (plain : ∀ spec ∈ reg.services, ∀ h : Hook,
      h = .onDeactivate ∨ h = .onCleanup → spec.hook h = pure true) :
    Keeps (fun m => I m.rt) (requestShutdown svc reg) := by
  have hook {spec : ManagedService (Runtime ε)} (member : spec ∈ reg.services.reverse) {h : Hook}
      (closes : h = .onDeactivate ∨ h = .onCleanup) : Keeps I (spec.hook h) := by
    rw [plain spec (List.mem_reverse.mp member) h closes]
    exact keeps_pure _
  have stops : Keeps (fun m : Brain ε => I m.rt) (forEach reg.services.reverse shutdown) :=
    keeps_forEach fun spec member => keeps_shutdown (hook member (.inl rfl)) (hook member (.inr rfl))
  have rest : Keeps (fun m : Brain ε => I m.rt) (do
      forEach reg.services.reverse shutdown
      onRt (outside svc.shutdown)
      onRt (DroidOs.Core.Context.force .poweredOff "shutdown complete")) :=
    keeps_bind stops fun _ => keeps_bind (keeps_onRt_of close) fun _ =>
      keeps_onRt_of (forbids.force _ _ (by decide))
  refine keeps_bind (keeps_reads _) fun _ => ?_
  exact keeps_ite (fun _ => keeps_bind (keeps_onRt_of (forbids.force _ _ (by decide))) fun _ => rest)
    fun _ => rest

theorem Forbids.keeps_requestShutdown (forbids : Forbids I) (close : Keeps I (outside svc.shutdown)) :
    Keeps (fun m => I m.rt) (requestShutdown svc (droidServices svc)) :=
  forbids.keeps_closing close fun _ member _ closes => shutdown_hooks_default svc member closes

namespace Primitives

variable (prims : Primitives svc I P) (forbids : Forbids I)
include prims forbids

theorem keeps_safeIdle (task : Task) : Keeps (fun m => I m.rt) (hSafeIdle svc task) := by
  have idle : Keeps I (enterSafeIdle (ε := ε)) :=
    keeps_bind (keeps_reads _) fun _ =>
      keeps_ite (fun _ => forbids.transition _ _ (by decide)) fun _ => keeps_pure _
  refine keeps_bind (keeps_onRt_of prims.keeps_release) fun _ => keeps_bind (keeps_onRt_of idle) fun _ => ?_
  exact keeps_bind (keeps_reads _) fun _ => keeps_pure _

theorem boots (connect : Keeps I (outside svc.connect))
    (refresh : Keeps (fun m => I m.rt) (refresh svc (droidServices svc))) : Boots svc I where
  hooks := prims.keepsHooks
  reports _ _ _ := prims.keeps_note fun _ => ⟨rfl, rfl, rfl, rfl, rfl, rfl, rfl, rfl, rfl⟩
  enter := forbids.transition
  connect := connect
  refresh := refresh

/-- What is left to show of an invariant that is kept by the primitive steps. -/
theorem upholds {world : ι → ε → ε} {G : Guard (Brain ε)} (moves : Moves I)
    (close : Keeps I (outside svc.shutdown))
    (request : ∀ m : Brain ε, I m.rt → G m (onRt (requestMotionPermission svc)).after →
      I (requestMotionPermission svc m.rt).2)
    (engage : ∀ reason, Keeps I (engageEstop svc reason))
    (reset : ∀ m : Brain ε, I m.rt → G m (onRt (resetEstop svc)).after → I (resetEstop svc m.rt).2)
    (refresh : ∀ m : Brain ε, I m.rt → G m (refresh svc (droidServices svc)).after →
      I (refresh svc (droidServices svc) m).2.rt)
    (happen : ∀ event rt, I rt → I { rt with env := world event rt.env }) :
    Upholds svc world G I P where
  toAttends := prims.attends
  core _ _ holds same := prims.holds_core holds same
  start _ user allowed := prims.keeps_start allowed user
  finish _ user result allowed := prims.keeps_finish allowed user result
  request := request
  enterActive := moves.keeps_enterActive
  endDrive := prims.keeps_endDrive moves
  engage := engage
  safeIdle := prims.keeps_safeIdle forbids
  shutdown _ _ holds _ := (keeps_bind (forbids.keeps_requestShutdown close)
    fun _ => keeps_bind (keeps_reads _) fun _ => keeps_pure _).after holds
  close _ holds _ := (forbids.keeps_requestShutdown close).after holds
  reset := reset
  fault := prims.keeps_fault
  release := prims.keeps_release
  link := prims.keeps_link
  refresh := refresh
  configure := prims.keeps_onConfigure
  activate := prims.keeps_onActivate
  elapse _ rt holds := prims.beside rt _ holds ⟨rfl, rfl, rfl, rfl, rfl, rfl,
    fun t member => .inr ⟨t, List.mem_append_left _ member, rfl⟩, fun t member => .inr ⟨t, member, rfl⟩⟩
  happen := happen

end Primitives

end DroidOs.System.StepLaw
