/- GID: DroidOs/System/WorldLaw
   generality: I
   digest: What the steps of a request do to the outside world and to the cancel flag. -/

import DroidOs.Language.Dispatch
import DroidOs.System.StepLaw

set_option autoImplicit false
set_option relaxedAutoImplicit false

namespace DroidOs.System.WorldLaw

open DroidOs.Lib.Procedure
open DroidOs.Core.Values DroidOs.Core.States DroidOs.Core.Context
open DroidOs.Services.Lifecycle DroidOs.Services.HookLaw
open DroidOs.Services.SafetyGateway DroidOs.Services.Supervisor
open DroidOs.Executive.Drive DroidOs.Executive.RunIntent
open DroidOs.Language.Intent DroidOs.Language.Dispatch DroidOs.Language.Conversation
open Registration TaskSteps TaskLaw Operations StepLaw

variable {ε : Type}

/-- An invariant of the outside world and the cancel flag, which no reading, no record, no
event and no loss of motor power breaks. -/
structure Worldly (svc : Services ε) (I : Runtime ε → Prop) : Prop where
  beside : ∀ rt rt', I rt → rt'.env = rt.env → rt'.cancelled = rt.cancelled → I rt'
  reading : ∀ {α : Type} {p : Proc ε Exn α}, ReadCall svc p → Keeps I (outside p)
  emit : ∀ r, Keeps I (outside (svc.emit r))
  publish : ∀ e, Keeps I (outside (svc.publish e))
  off : Keeps I (outside (svc.setPower false))

/-- What it has to be kept by beside, so that the tasks whose intent is in `P` keep it. -/
structure Bears (svc : Services ε) (P : String → Prop) (I : Runtime ε → Prop) : Prop
    extends Worldly svc I where
  start : ∀ rt, I rt → I { rt with cancelled := false }
  cancel : P "task.cancel" → ∀ rt, I rt → I { rt with cancelled := true }
  stop : Keeps I (outside svc.stop)
  tool : ∀ intent arguments, P intent → intent ∈ toolIntents → Keeps I (outside (svc.tool intent arguments))
  diagnostics : P "diagnostics.summary" → ∀ name ∈ ["diagnostics.collect", "diagnostics.summary"],
    ∀ arguments, Keeps I (outside (svc.tool name arguments))
  shutdown : P "system.shutdown" → Keeps I (outside svc.shutdown)
  drive : (∃ name ∈ drivingIntents, P name) → Attends svc I
  dock : P "navigation.go_charge" → Keeps I (outside (dock svc))
  inspect : P "inspect.named_target" → ∀ target, Keeps I (outside (svc.inspect target))

/-- The same, of a drive only that its ticks keep it. -/
structure Carries (svc : Services ε) (P : String → Prop) (I : Runtime ε → Prop) : Prop
    extends Worldly svc I where
  start : ∀ rt, I rt → I { rt with cancelled := false }
  cancel : P "task.cancel" → ∀ rt, I rt → I { rt with cancelled := true }
  stop : Keeps I (outside svc.stop)
  tool : ∀ intent arguments, P intent → intent ∈ toolIntents → Keeps I (outside (svc.tool intent arguments))
  diagnostics : P "diagnostics.summary" → ∀ name ∈ ["diagnostics.collect", "diagnostics.summary"],
    ∀ arguments, Keeps I (outside (svc.tool name arguments))
  shutdown : P "system.shutdown" → Keeps I (outside svc.shutdown)
  tick : (∃ name ∈ drivingIntents, P name) → ∀ goal d, Keeps I (driveTick svc goal d)
  dock : P "navigation.go_charge" → Keeps I (outside (dock svc))
  inspect : P "inspect.named_target" → ∀ target, Keeps I (outside (svc.inspect target))

variable {svc : Services ε} {I : Runtime ε → Prop} {P : String → Prop}

theorem Bears.carries (bears : Bears svc P I) : Carries svc P I where
  toWorldly := bears.toWorldly
  start := bears.start
  cancel := bears.cancel
  stop := bears.stop
  tool := bears.tool
  diagnostics := bears.diagnostics
  shutdown := bears.shutdown
  tick drives goal d := (bears.drive drives).keeps_driveTick goal d
  dock := bears.dock
  inspect := bears.inspect

namespace Worldly

variable (worldly : Worldly svc I)
include worldly

theorem keeps_change {f : Runtime ε → Runtime ε} (env : ∀ rt, (f rt).env = rt.env)
    (cancelled : ∀ rt, (f rt).cancelled = rt.cancelled) : Keeps I (modify f : Proc _ Exn Unit) :=
  keeps_modify fun rt holds => worldly.beside rt _ holds (env rt) (cancelled rt)

private theorem keeps_heartbeat : Keeps I (heartbeat (ε := ε)) :=
  keeps_iff.mpr fun rt holds => worldly.beside rt _ holds rfl rfl

private theorem keeps_status : Keeps I (controllerStatus (ε := ε)) :=
  keeps_iff.mpr fun rt holds => worldly.beside rt _ holds rfl rfl

theorem toReads : Reads svc I where
  reading := worldly.reading
  status := worldly.keeps_status
  heartbeat := worldly.keeps_heartbeat

theorem keeps_transition (dst : DroidState) (reason : String) : Keeps I (transition dst reason) := by
  refine keeps_iff.mpr fun rt holds => ?_
  obtain ⟨machine, after, -⟩ := transition_after dst reason rt
  rw [after]
  exact worldly.beside rt _ holds rfl rfl

theorem forbids : Forbids I where
  transition dst reason _ := worldly.keeps_transition dst reason
  force _ _ _ := worldly.keeps_change (fun _ => rfl) fun _ => rfl

/-! The gateway. -/

theorem keeps_log (event detail : String) : Keeps I (logSafetyEvent svc event detail) :=
  keeps_bind worldly.keeps_status fun _ => keeps_bind (worldly.emit _) fun _ => worldly.publish _

theorem keeps_release : Keeps I (releaseMotionPermission svc) := by
  have cleared : Keeps I (modify fun rt => { rt with token := "" } : Proc _ Exn _) :=
    worldly.keeps_change (fun _ => rfl) fun _ => rfl
  refine keeps_bind (worldly.keeps_change (fun _ => rfl) fun _ => rfl) fun _ => ?_
  refine keeps_bind worldly.off fun _ => keeps_bind (keeps_reads _) fun _ => ?_
  exact keeps_ite (fun _ => keeps_bind (worldly.keeps_log _ _) fun _ => cleared) fun _ => cleared

theorem keeps_engage (reason : String) : Keeps I (engageEstop svc reason) := by
  refine keeps_bind (worldly.keeps_change (fun _ => rfl) fun _ => rfl) fun _ => ?_
  refine keeps_bind worldly.off fun _ => ?_
  refine keeps_bind (worldly.keeps_change (fun _ => rfl) fun _ => rfl) fun _ => ?_
  refine keeps_bind (worldly.keeps_log _ _) fun _ => ?_
  exact keeps_bind (worldly.keeps_change (fun _ => rfl) fun _ => rfl) fun _ =>
    worldly.keeps_change (fun _ => rfl) fun _ => rfl

theorem keeps_reset : Keeps I (resetEstop svc) := by
  refine keeps_bind (worldly.keeps_change (fun _ => rfl) fun _ => rfl) fun _ => ?_
  refine keeps_bind (worldly.keeps_change (fun _ => rfl) fun _ => rfl) fun _ => ?_
  refine keeps_bind (worldly.keeps_log _ _) fun _ => ?_
  exact keeps_bind (worldly.keeps_change (fun _ => rfl) fun _ => rfl) fun _ => keeps_pure _

theorem keeps_fault (name : String) : Keeps I (reportFault svc name) :=
  keeps_bind (worldly.keeps_change (fun _ => rfl) fun _ => rfl) fun _ =>
    keeps_bind worldly.off fun _ => worldly.keeps_log _ _

theorem keeps_link (up : Bool) : Keeps I (setSafetyLink svc up) :=
  keeps_bind (worldly.keeps_change (fun _ => rfl) fun _ => rfl) fun _ =>
    keeps_ite (fun _ => worldly.keeps_log _ _) fun _ => keeps_pure _

private theorem keeps_loadLatch : Keeps I (loadLatch svc) := by
  refine keeps_iff.mpr fun rt holds => ?_
  rcases loadLatch_cases svc rt with ⟨⟨e, run⟩, -⟩ | ⟨v, flag, reason, -, -, -, run⟩ | ⟨run, -⟩ <;> rw [run]
  · exact holds
  · exact worldly.beside rt _ holds rfl rfl
  · exact holds

/-- The hooks of the services keep it, where configuring them does. -/
theorem keepsHooks (configure : ∀ name, Keeps I (outside (svc.configure name))) :
    ∀ s ∈ (droidServices svc).services, KeepsHooks I s := by
  have gateway : KeepsHooks I (safetyGateway svc) := by
    intro h
    cases h with
    | onConfigure =>
      exact keeps_bind worldly.keeps_loadLatch fun _ => keeps_bind worldly.keeps_heartbeat fun _ => keeps_pure _
    | onActivate =>
      refine keeps_bind worldly.keeps_heartbeat fun _ => ?_
      refine keeps_bind (worldly.keeps_change (fun _ => rfl) fun _ => rfl) fun _ => ?_
      exact keeps_bind worldly.off fun _ => keeps_pure _
    | onDeactivate => exact keeps_pure _
    | onCleanup => exact keeps_pure _
  exact fun s member => each_keepsHooks configure member fun _ => gateway

theorem keeps_restartFailed (configure : ∀ name, Keeps I (outside (svc.configure name))) :
    Keeps (fun m => I m.rt) (restartFailed (droidServices svc)) := by
  refine keeps_bind (keeps_reads _) fun names => keeps_restarts (J := fun m => I m.rt) ?_ fun _ _ holds => holds
  exact fun s member _ m holds => restart_holds (worldly.keepsHooks configure s member) holds

private theorem keeps_settle (target : DroidState) : Keeps I (settle target : Proc (Runtime ε) Exn Unit) := by
  refine keeps_bind (keeps_reads _) fun _ => keeps_ite (fun _ => keeps_pure _) fun _ => ?_
  exact keeps_ite (fun _ => worldly.keeps_transition _ _) fun _ => worldly.keeps_change (fun _ => rfl) fun _ => rfl

theorem keeps_refresh (reg : Registry (Runtime ε)) : Keeps (fun m => I m.rt) (refresh svc reg) := by
  refine keeps_bind worldly.toReads.keeps_assessReadiness fun readiness => ?_
  refine keeps_bind (keeps_onRt_of (worldly.keeps_change (fun _ => rfl) fun _ => rfl)) fun _ => ?_
  exact keeps_bind (keeps_onRt_of (worldly.keeps_settle _)) fun _ => keeps_pure _

/-- A request that is granted switches motor power on. -/
theorem keeps_request (on : Keeps I (outside (svc.setPower true))) :
    Keeps I (requestMotionPermission svc) := by
  refine keeps_bind (keeps_bind worldly.keeps_heartbeat fun _ => worldly.keeps_status) fun _ => ?_
  refine keeps_ite (fun _ => keeps_pure _) fun _ => ?_
  refine keeps_bind (keeps_iff.mpr fun rt holds => worldly.beside rt _ holds rfl rfl) fun _ => ?_
  refine keeps_ite (fun _ => keeps_pure _) fun _ => keeps_bind on fun _ => keeps_bind (keeps_reads _) fun _ => ?_
  exact keeps_bind (worldly.keeps_change (fun _ => rfl) fun _ => rfl) fun _ =>
    keeps_bind (worldly.keeps_log _ _) fun _ => keeps_pure _

/-! Tasks. -/

theorem keeps_startTask (start : ∀ rt, I rt → I { rt with cancelled := false }) (intent : StructuredIntent)
    (user : String) : Keeps I (startTask svc intent user) := by
  refine keeps_bind (keeps_ofExcept _) fun _ => keeps_bind (keeps_reads _) fun _ => ?_
  refine keeps_bind (keeps_modify fun rt holds => ?_) fun _ =>
    keeps_bind (worldly.emit _) fun _ => keeps_pure _
  exact worldly.beside { rt with cancelled := false } _ (start rt holds) rfl rfl

theorem keeps_finish (task : Task) (user : String) (result : TaskResult) :
    Keeps I (finishTask svc task user result) :=
  keeps_bind (worldly.keeps_change (fun _ => rfl) fun _ => rfl) fun _ => keeps_bind (keeps_reads _) fun _ =>
    keeps_bind (worldly.emit _) fun _ =>
      keeps_bind (worldly.keeps_change (fun _ => rfl) fun _ => rfl) fun _ => keeps_pure _

private theorem keeps_safeIdle (task : Task) : Keeps (fun m => I m.rt) (hSafeIdle svc task) := by
  have idle : Keeps I (enterSafeIdle (ε := ε)) :=
    keeps_bind (keeps_reads _) fun _ =>
      keeps_ite (fun _ => worldly.keeps_transition _ _) fun _ => keeps_pure _
  refine keeps_bind (keeps_onRt_of worldly.keeps_release) fun _ => keeps_bind (keeps_onRt_of idle) fun _ => ?_
  exact keeps_bind (keeps_reads _) fun _ => keeps_pure _

theorem keeps_inspectTarget (inspect : ∀ target, Keeps I (outside (svc.inspect target))) (task : Task)
    (drive : Items) : Keeps (fun m => I m.rt) (inspectTarget svc task drive) := by
  refine keeps_bind (keeps_onRt_of (worldly.keeps_change (fun _ => rfl) fun _ => rfl)) fun _ => ?_
  refine keeps_bind (keeps_attempt (keeps_onRt_of (inspect _))) fun outcome => ?_
  cases outcome <;> exact keeps_pure _

theorem keeps_enterActive (d : DriveData) : Keeps I (enterActive svc d) :=
  keeps_bind (keeps_reads _) fun _ =>
    keeps_ite (fun _ => keeps_bind (worldly.keeps_transition _ _) fun _ => keeps_pure _)
      fun _ => keeps_pure _

theorem keeps_endDrive (held : Bool) : Keeps I (endDrive svc held) := by
  have settled : Keeps I (do
      let machine ← reads Runtime.machine
      if machine.state = .active then transition .ready "task complete") :=
    keeps_bind (keeps_reads _) fun _ =>
      keeps_ite (fun _ => worldly.keeps_transition _ _) fun _ => keeps_pure _
  exact keeps_ite (fun _ => keeps_bind worldly.keeps_release fun _ => settled) fun _ => settled

/-! Requests. -/

/-- Proposing and deciding only read and keep records. -/
theorem keeps_decided {reg : Registry (Runtime ε)} (lang : LanguageService) (r : Request) :
    Keeps (fun m => I m.rt) (decided svc reg lang r) := by
  have fresh : Keeps (fun m : Brain ε => I m.rt) (proposeFresh svc lang r) :=
    keeps_bind (keeps_ofExcept _) fun _ => keeps_bind (keeps_onRt_of (worldly.emit _)) fun _ => keeps_pure _
  refine keeps_bind ?_ fun proposal => ?_
  · unfold propose
    split
    · exact fresh
    · exact keeps_ite (fun _ => keeps_pure _) fun _ => keeps_ite (fun _ => keeps_pure _) fun _ => fresh
  · cases proposal with
    | none => exact keeps_pure _
    | some p =>
      refine keeps_bind (keeps_bind (worldly.toReads.keeps_validate p.intent _ p.confirmed) fun _ => ?_)
        fun _ => keeps_pure _
      exact keeps_bind (keeps_onRt_of (worldly.emit _)) fun _ => keeps_pure _

end Worldly

namespace Carries

variable (carries : Carries svc P I)
include carries

private theorem keeps_cancel (named : P "task.cancel") (task : Task) :
    Keeps (fun m => I m.rt) (hCancel svc task) := by
  refine keeps_bind (keeps_onRt_of (keeps_modify (carries.cancel named))) fun _ => ?_
  exact keeps_bind (keeps_onRt_of carries.stop) fun _ => keeps_pure _

private theorem keeps_diagnostics (named : P "diagnostics.summary") {task : Task} :
    Keeps (fun m => I m.rt) (hDiagnostics svc task) := by
  have called {name : String} (listed : name ∈ ["diagnostics.collect", "diagnostics.summary"]) :
      Keeps (fun m : Brain ε => I m.rt) (onRt (outside (svc.tool name task.arguments))) :=
    keeps_onRt_of (carries.diagnostics named name listed task.arguments)
  refine keeps_bind (called (by simp)) fun _ => ?_
  exact keeps_bind (keeps_onRt_of carries.toReads.keeps_diagnostics) fun _ => called (by simp)

/-- Every step of a request keeps the invariant, except that one of a driving task may ask
for motion permission. -/
theorem step_cases {step : Brain ε → Brain ε} (taken : TaskStep svc (droidServices svc) P step) :
    (step = (onRt (requestMotionPermission svc)).after ∧ ∃ name ∈ drivingIntents, P name) ∨
      ∀ m, I m.rt → I (step m).rt := by
  by_cases asks : step = (onRt (requestMotionPermission svc)).after ∧ ∃ name ∈ drivingIntents, P name
  · exact .inl asks
  refine .inr fun m holds => ?_
  cases taken with
  | validate intent user confirmed => exact (carries.toReads.keeps_validate intent user confirmed).after holds
  | pass => exact holds
  | emit r => exact (keeps_onRt_of (carries.emit r)).after holds
  | start intent user => exact (keeps_onRt_of (carries.keeps_startTask carries.start intent user)).after holds
  | finish task user result => exact (keeps_onRt_of (carries.keeps_finish task user result)).after holds
  | status task => exact (carries.toReads.keeps_hStatus task).after holds
  | explain task => exact (carries.toReads.keeps_hExplain task).after holds
  | diagnostics task named same => exact (carries.keeps_diagnostics (same ▸ named)).after holds
  | tool task named listed => exact (keeps_onRt_of (carries.tool _ _ named listed)).after holds
  | stop task => exact (keeps_bind (keeps_onRt_of carries.stop) fun _ => keeps_pure _).after holds
  | estop task =>
    exact (keeps_bind (keeps_onRt_of (carries.keeps_engage _)) fun _ => keeps_pure _).after holds
  | cancel task named => exact (carries.keeps_cancel named task).after holds
  | safeIdle task => exact (carries.keeps_safeIdle task).after holds
  | shutdown task named =>
    exact (keeps_bind (carries.forbids.keeps_requestShutdown (carries.shutdown named)) fun _ =>
      keeps_bind (keeps_reads _) fun _ => keeps_pure _).after holds
  | resolve dest => exact (keeps_onRt_of (carries.reading (.resolve dest))).after holds
  | note taskId label => exact carries.beside m.rt _ holds rfl rfl
  | request drives => exact absurd ⟨rfl, drives⟩ asks
  | enterActive d => exact (keeps_onRt_of (carries.keeps_enterActive d)).after holds
  | tick goal d drives => exact (keeps_onRt_of (carries.tick drives goal d)).after holds
  | endDrive held => exact (keeps_onRt_of (carries.keeps_endDrive held)).after holds
  | dock named => exact (keeps_onRt_of (carries.dock named)).after holds
  | inspect task drive named => exact (carries.keeps_inspectTarget (carries.inspect named) task drive).after holds

end Carries

theorem Bears.step_cases (bears : Bears svc P I) {step : Brain ε → Brain ε}
    (taken : TaskStep svc (droidServices svc) P step) :
    (step = (onRt (requestMotionPermission svc)).after ∧ ∃ name ∈ drivingIntents, P name) ∨
      ∀ m, I m.rt → I (step m).rt :=
  bears.carries.step_cases taken

end DroidOs.System.WorldLaw
