/- GID: DroidOs/System/TaskLaw
   generality: I
   digest: An invariant kept by a few ingredients is kept by every language request and every task. -/

import DroidOs.System.TaskSteps

set_option autoImplicit false
set_option relaxedAutoImplicit false

namespace DroidOs.System.TaskLaw

open DroidOs.Lib.Procedure DroidOs.Lib.Interleaving
open DroidOs.Lib.Interleaving.Coroutine (Guard)
open DroidOs.Core.Values DroidOs.Core.States DroidOs.Core.Context
open DroidOs.Services.Lifecycle DroidOs.Services.SafetyGateway DroidOs.Services.Supervisor
open DroidOs.Executive.BehaviourTree DroidOs.Executive.Drive DroidOs.Executive.RunIntent
open DroidOs.Language.Intent DroidOs.Language.Broker DroidOs.Language.Conversation
open TaskSteps

variable {ε : Type}

/-- The outside calls that neither switch the backend nor bring it up or down. -/
inductive QuietCall (svc : Services ε) : {α : Type} → Proc ε Exn α → Prop
  | battery : QuietCall svc svc.battery
  | readAllActuators : QuietCall svc svc.readAllActuators
  | readSensor (id : String) : QuietCall svc (svc.readSensor id)
  | pose : QuietCall svc svc.pose
  | busOnline {p : Proc ε Exn Bool} : svc.busOnline = some p → QuietCall svc p
  | setCharging {f : Bool → Proc ε Exn Unit} (on : Bool) : svc.setCharging = some f →
      QuietCall svc (f on)
  | resolve (dest : PyVal) : QuietCall svc (svc.resolve dest)
  | knownPlaces : QuietCall svc svc.knownPlaces
  | traversable (dest : PyVal) : QuietCall svc (svc.traversable dest)
  | localizationOk : QuietCall svc svc.localizationOk
  | isPathBlocked : QuietCall svc svc.isPathBlocked
  | setObstacle (x y : PyFloat) : QuietCall svc (svc.setObstacle x y)
  | velocityToward (goal here : Pose) : QuietCall svc (svc.velocityToward goal here)
  | drive (vel : BodyVelocity) (dt : PyFloat) : QuietCall svc (svc.drive vel dt)
  | stop : QuietCall svc svc.stop
  | inspect (target : PyVal) : QuietCall svc (svc.inspect target)
  | tool (intent : String) (arguments : Items) : QuietCall svc (svc.tool intent arguments)
  | configure (name : String) : QuietCall svc (svc.configure name)
  | emit (r : AuditRecord) : QuietCall svc (svc.emit r)
  | publish (e : Event) : QuietCall svc (svc.publish e)

/-- Those of them that only read. -/
inductive ReadCall (svc : Services ε) : {α : Type} → Proc ε Exn α → Prop
  | battery : ReadCall svc svc.battery
  | readAllActuators : ReadCall svc svc.readAllActuators
  | readSensor (id : String) : ReadCall svc (svc.readSensor id)
  | busOnline {p : Proc ε Exn Bool} : svc.busOnline = some p → ReadCall svc p
  | resolve (dest : PyVal) : ReadCall svc (svc.resolve dest)
  | knownPlaces : ReadCall svc svc.knownPlaces
  | traversable (dest : PyVal) : ReadCall svc (svc.traversable dest)

theorem ReadCall.quiet {svc : Services ε} {α : Type} {p : Proc ε Exn α} (call : ReadCall svc p) :
    QuietCall svc p := by
  cases call with
  | battery => exact .battery
  | readAllActuators => exact .readAllActuators
  | readSensor id => exact .readSensor id
  | busOnline online => exact .busOnline online
  | resolve dest => exact .resolve dest
  | knownPlaces => exact .knownPlaces
  | traversable dest => exact .traversable dest

/-- Two contexts that differ at most in bookkeeping: the token, the boot report,
the readiness kept, the current task, the steps noted and the cancel flag. -/
structure SameCore (rt rt' : Runtime ε) : Prop where
  now : rt'.now = rt.now
  controller : rt'.controller = rt.controller
  latch : rt'.latch = rt.latch
  latchWrite : rt'.latchWrite = rt.latchWrite
  machine : rt'.machine = rt.machine
  estopCalls : rt'.estopCalls = rt.estopCalls
  env : rt'.env = rt.env
  taskHistory : rt'.taskHistory = rt.taskHistory
  runningTasks : rt'.runningTasks.map Task.intent = rt.runningTasks.map Task.intent

/-- What an invariant of the shared context has to be kept by, so that reading keeps it. -/
structure Attends (svc : Services ε) (I : Runtime ε → Prop) : Prop where
  quiet : ∀ {α : Type} {p : Proc ε Exn α}, QuietCall svc p → Keeps I (outside p)
  status : Keeps I controllerStatus
  heartbeat : Keeps I heartbeat

/-- What suffices to keep it through an assessment, a validation or a report. -/
structure Reads (svc : Services ε) (I : Runtime ε → Prop) : Prop where
  reading : ∀ {α : Type} {p : Proc ε Exn α}, ReadCall svc p → Keeps I (outside p)
  status : Keeps I controllerStatus
  heartbeat : Keeps I heartbeat

/-- What it has to be kept by beside, so that every task whose intent is in `P` keeps
it. A request of motion permission and a shutdown may take for granted what the guard
says. -/
structure Upkeep (svc : Services ε) (reg : Registry (Runtime ε)) (G : Guard (Brain ε))
    (I : Runtime ε → Prop) (P : String → Prop) : Prop extends Attends svc I where
  core : ∀ rt rt', I rt → SameCore rt rt' → I rt'
  start : ∀ (intent : StructuredIntent) user, P intent.intent → Keeps I (startTask svc intent user)
  finish : ∀ (task : Task) user result, P task.intent → Keeps I (finishTask svc task user result)
  request : ∀ m : Brain ε, I m.rt → G m (onRt (requestMotionPermission svc)).after →
    I (requestMotionPermission svc m.rt).2
  enterActive : ∀ d, Keeps I (enterActive svc d)
  endDrive : ∀ held, Keeps I (endDrive svc held)
  engage : ∀ reason, Keeps I (engageEstop svc reason)
  safeIdle : ∀ task, Keeps (fun m => I m.rt) (hSafeIdle svc task)
  shutdown : ∀ (task : Task) (m : Brain ε), I m.rt → G m (hShutdown svc reg task).after →
    I (hShutdown svc reg task m).2.rt

variable {svc : Services ε} {reg : Registry (Runtime ε)} {G : Guard (Brain ε)}
variable {I : Runtime ε → Prop} {P : String → Prop} {α β : Type}

/-! Outside code made of quiet calls. -/

private theorem keeps_outside_bind {p : Proc ε Exn α} {f : α → Proc ε Exn β}
    (first : Keeps I (outside p)) (second : ∀ a, Keeps I (outside (f a))) :
    Keeps I (outside (p >>= f)) := by
  refine keeps_iff.mpr fun rt holds => ?_
  have after := Keeps.after first holds
  rw [outside_run] at after ⊢
  rcases run : p rt.env with ⟨e | a, env⟩ <;> rw [run] at after
  · rw [bind_error run]
    exact after
  · rw [bind_ok run]
    exact Keeps.after (second a) after

private theorem keeps_outside_pure (a : α) : Keeps I (outside (pure a : Proc ε Exn α)) :=
  keeps_iff.mpr fun _ holds => holds

private theorem keeps_outside_reads (f : ε → α) : Keeps I (outside (reads f)) :=
  keeps_iff.mpr fun _ holds => holds

private theorem keeps_outside_ofExcept (r : Except Exn α) : Keeps I (outside (ofExcept r)) :=
  keeps_iff.mpr fun _ holds => holds

private theorem keeps_outside_ite {c : Prop} [Decidable c] {p q : Proc ε Exn α}
    (yes : Keeps I (outside p)) (no : Keeps I (outside q)) :
    Keeps I (outside (if c then p else q)) := by
  split
  · exact yes
  · exact no

/-! Readiness. -/

namespace Reads

variable (reading : Reads svc I)
include reading

private theorem keeps_notResponding (message : String → String) (ids : List String) :
    Keeps I (outside (notResponding svc message ids)) := by
  induction ids with
  | nil => exact keeps_outside_pure _
  | cons id ids ih =>
    refine keeps_outside_bind (reading.reading (.readSensor id)) fun _ => ?_
    exact keeps_outside_bind ih fun _ => keeps_outside_pure _

private theorem keeps_hardwareReasons : Keeps I (outside (hardwareReasons svc)) := by
  refine keeps_outside_bind (keeps_outside_bind (reading.reading .battery) fun _ => ?_) fun _ => ?_
  · exact keeps_outside_bind (keeps_outside_ofExcept _) fun _ => keeps_outside_pure _
  refine keeps_outside_bind (keeps_outside_reads _) fun _ => ?_
  refine keeps_outside_bind (reading.keeps_notResponding _ _) fun _ => ?_
  refine keeps_outside_bind (keeps_outside_bind (reading.reading .readAllActuators) fun _ =>
    keeps_outside_pure _) fun _ => ?_
  refine keeps_outside_bind (reading.keeps_notResponding _ _) fun _ => ?_
  refine keeps_outside_bind ?_ fun _ => keeps_outside_pure _
  unfold busReasons
  split
  · exact keeps_outside_pure _
  · rename_i p online
    exact keeps_outside_bind (reading.reading (.busOnline online)) fun _ => keeps_outside_pure _

theorem keeps_estopEngaged : Keeps I (estopEngaged (ε := ε)) :=
  keeps_bind reading.status fun _ => keeps_pure _

theorem keeps_healthy : Keeps I (healthy (ε := ε)) :=
  keeps_bind (keeps_bind reading.heartbeat fun _ => reading.status) fun _ => keeps_pure _

theorem keeps_assessReadiness : Keeps (fun m => I m.rt) (assessReadiness svc reg) := by
  have engaged : Keeps I (if hasSafety reg then estopEngaged else pure false) :=
    keeps_ite (fun _ => reading.keeps_estopEngaged) fun _ => keeps_pure _
  have unhealthy : Keeps I (safetyUnhealthy reg) :=
    keeps_ite (fun _ => keeps_bind reading.keeps_healthy fun _ => keeps_pure _)
      fun _ => keeps_pure _
  refine keeps_bind (keeps_onRt_of engaged) fun _ => keeps_ite (fun _ => keeps_pure _) fun _ => ?_
  refine keeps_bind (keeps_onRt_of unhealthy) fun _ => keeps_bind (keeps_reads _) fun _ => ?_
  exact keeps_bind (keeps_onRt_of reading.keeps_hardwareReasons) fun _ => keeps_pure _

theorem keeps_diagnostics : Keeps I (diagnostics (ε := ε)) :=
  keeps_bind reading.status fun _ => keeps_ite (fun _ => keeps_pure _) fun _ =>
    keeps_ite (fun _ => keeps_pure _) fun _ =>
      keeps_ite (fun _ => keeps_pure _) fun _ => keeps_pure _

/-! Reports. -/

private theorem keeps_call {p : Proc ε Exn α} (call : ReadCall svc p) :
    Keeps (fun m : Brain ε => I m.rt) (onRt (outside p)) := keeps_onRt_of (reading.reading call)

private theorem keeps_hottestActuator : Keeps I (outside (hottestActuator svc)) := by
  refine keeps_outside_bind (reading.reading .readAllActuators) fun found => ?_
  cases found with
  | nil => exact keeps_outside_pure _
  | cons first rest =>
    refine keeps_outside_bind (keeps_outside_ofExcept _) fun _ => ?_
    exact keeps_outside_bind (keeps_outside_ofExcept _) fun _ => keeps_outside_pure _

theorem keeps_hStatus (task : Task) : Keeps (fun m => I m.rt) (hStatus svc reg task) := by
  refine keeps_bind (reading.keeps_call .battery) fun _ => ?_
  refine keeps_bind reading.keeps_assessReadiness fun _ => ?_
  refine keeps_bind (keeps_onRt_of reading.keeps_hottestActuator) fun _ => ?_
  refine keeps_bind (keeps_reads _) fun _ => ?_
  refine keeps_bind (keeps_onRt_of (keeps_bind reading.heartbeat fun _ => reading.status)) fun _ => ?_
  exact keeps_pure _

theorem keeps_hExplain (task : Task) : Keeps (fun m => I m.rt) (hExplain svc reg task) := by
  refine keeps_ite (fun _ => keeps_bind (keeps_reads _) fun _ => keeps_pure _) fun _ => ?_
  refine keeps_bind reading.keeps_assessReadiness fun _ => keeps_bind (keeps_reads _) fun _ => ?_
  exact keeps_bind (keeps_onRt_of reading.keeps_estopEngaged) fun _ => keeps_pure _

/-! Validation. -/

theorem keeps_destinationOk (intent : StructuredIntent) (tool : ToolSpec) :
    Keeps I (outside (destinationOk svc intent tool)) := by
  refine keeps_outside_bind (keeps_outside_ofExcept _) fun dest => ?_
  refine keeps_outside_ite (keeps_outside_ite (keeps_outside_pure _) (keeps_outside_pure _)) ?_
  refine keeps_outside_bind (reading.reading (.resolve dest)) fun place => ?_
  cases place with
  | none => exact keeps_outside_bind (reading.reading .knownPlaces) fun _ => keeps_outside_pure _
  | some _ =>
    exact keeps_outside_bind (reading.reading (.traversable dest)) fun ⟨_, _⟩ =>
      keeps_outside_ite (keeps_outside_pure _) (keeps_outside_pure _)

theorem keeps_motionChecks (intent : StructuredIntent) (tool : ToolSpec) :
    Keeps (fun m => I m.rt) (motionChecks svc reg intent tool) := by
  refine keeps_ite (fun _ => keeps_pure _) fun _ => ?_
  refine keeps_bind (keeps_onRt_of (reading.keeps_destinationOk intent tool)) fun ⟨_, _⟩ => ?_
  refine keeps_ite (fun _ => keeps_pure _) fun _ => keeps_bind ?_ fun ⟨_, _⟩ => keeps_pure _
  refine keeps_bind reading.keeps_assessReadiness fun _ => ?_
  exact keeps_ite (fun _ => keeps_pure _) fun _ => keeps_pure _

private theorem keeps_unresolved (dest : PyVal) : Keeps I (outside (unresolved svc dest)) :=
  keeps_outside_ite
    (keeps_outside_bind (reading.reading (.resolve dest)) fun _ => keeps_outside_pure _)
    (keeps_outside_pure _)

private theorem keeps_needsConfirmation (intent : StructuredIntent) (tool : ToolSpec) :
    Keeps I (outside (needsConfirmation svc tool intent)) := by
  have confirm : Keeps I (outside (do
      return (true, ← ofExcept (confirmPrompt svc tool intent)) : Proc ε Exn (Bool × String))) :=
    keeps_outside_bind (keeps_outside_ofExcept _) fun _ => keeps_outside_pure _
  unfold needsConfirmation
  cases tool.confirmation with
  | none => exact keeps_outside_pure _
  | required => exact confirm
  | conditional =>
    refine keeps_outside_ite ?_ (keeps_outside_ite ?_ (keeps_outside_pure _))
    · refine keeps_outside_bind (keeps_outside_ofExcept _) fun dest => ?_
      refine keeps_outside_bind (reading.keeps_unresolved dest) fun _ => ?_
      exact keeps_outside_ite confirm (keeps_outside_pure _)
    · refine keeps_outside_bind (keeps_outside_ofExcept _) fun _ => ?_
      exact keeps_outside_ite confirm (keeps_outside_pure _)

theorem keeps_validate (intent : StructuredIntent) (user : User) (confirmed : Bool) :
    Keeps (fun m => I m.rt) (validate svc reg intent user confirmed) := by
  unfold validate
  cases getTool intent.intent with
  | none => exact keeps_pure _
  | some tool =>
    refine keeps_ite (fun _ => keeps_pure _) fun _ => ?_
    refine keeps_ite (fun _ => keeps_pure _) fun _ => ?_
    refine keeps_bind (keeps_ofExcept _) fun ⟨_, _⟩ => keeps_ite (fun _ => keeps_pure _) fun _ => ?_
    refine keeps_bind (reading.keeps_motionChecks intent tool) fun ⟨_, refused⟩ => ?_
    cases refused with
    | some reason => exact keeps_pure _
    | none =>
      refine keeps_bind (keeps_onRt_of (reading.keeps_needsConfirmation intent tool)) fun ⟨_, _⟩ => ?_
      exact keeps_ite (fun _ => keeps_pure _) fun _ => keeps_pure _

end Reads

namespace Attends

variable (attends : Attends svc I)
include attends

theorem toReads : Reads svc I where
  reading call := attends.quiet call.quiet
  status := attends.status
  heartbeat := attends.heartbeat

theorem keeps_call {p : Proc ε Exn α} (quiet : QuietCall svc p) :
    Keeps (fun m : Brain ε => I m.rt) (onRt (outside p)) := keeps_onRt_of (attends.quiet quiet)

theorem keeps_hDiagnostics (task : Task) :
    Keeps (fun m => I m.rt) (hDiagnostics svc task) := by
  refine keeps_bind (attends.keeps_call (.tool _ _)) fun _ => ?_
  refine keeps_bind (keeps_onRt_of attends.toReads.keeps_diagnostics) fun _ => ?_
  exact attends.keeps_call (.tool _ _)

private theorem keeps_noteObstacle (dist : PyFloat) : Keeps I (outside (noteObstacle svc dist)) :=
  keeps_outside_bind (attends.quiet .pose) fun _ =>
    keeps_outside_bind (attends.quiet .pose) fun _ => attends.quiet (.setObstacle _ _)

theorem keeps_driveTick (goal : Pose) (d : DriveData) : Keeps I (driveTick svc goal d) := by
  refine keeps_bind (keeps_reads _) fun _ => keeps_ite (fun _ => keeps_pure _) fun _ => ?_
  refine keeps_bind (attends.quiet .localizationOk) fun _ =>
    keeps_ite (fun _ => keeps_pure _) fun _ => ?_
  refine keeps_bind (attends.quiet .isPathBlocked) fun ⟨_, dist⟩ => keeps_ite (fun _ => ?_) fun _ => ?_
  · cases dist with
    | none => exact keeps_pure _
    | some dist => exact keeps_bind (attends.keeps_noteObstacle dist) fun _ => keeps_pure _
  refine keeps_bind (attends.quiet .pose) fun here => ?_
  refine keeps_bind (attends.quiet (.velocityToward goal here)) fun ⟨vel, _⟩ => ?_
  refine keeps_ite (fun _ => keeps_pure _) fun _ => ?_
  exact keeps_bind (attends.quiet (.drive vel driveDt)) fun _ => keeps_pure _

theorem keeps_dock : Keeps I (outside (dock svc)) := by
  unfold dock
  split
  · exact keeps_outside_pure _
  · rename_i charge charging
    exact keeps_outside_bind (attends.quiet (.setCharging true charging)) fun _ =>
      keeps_outside_pure _

end Attends

namespace Upkeep

variable (upkeep : Upkeep svc reg G I P)
include upkeep

private theorem keeps_beside (f : Runtime ε → Runtime ε) (same : ∀ rt, SameCore rt (f rt)) :
    Keeps I (modify f : Proc _ Exn Unit) :=
  keeps_modify fun rt holds => upkeep.core rt (f rt) holds (same rt)

private theorem keeps_hCancel (task : Task) : Keeps (fun m => I m.rt) (hCancel svc task) := by
  have flagged : Keeps I (cancel (ε := ε)) :=
    upkeep.keeps_beside _ fun rt => ⟨rfl, rfl, rfl, rfl, rfl, rfl, rfl, rfl, rfl⟩
  refine keeps_bind (keeps_onRt_of flagged) fun _ => ?_
  exact keeps_bind (upkeep.keeps_call .stop) fun _ => keeps_pure _

private theorem keeps_taskStep (taskId label : String) : Keeps I (taskStep (ε := ε) taskId label) := by
  refine upkeep.keeps_beside _ fun rt => ⟨rfl, rfl, rfl, rfl, rfl, rfl, rfl, rfl, ?_⟩
  simp only [List.map_map]
  refine List.map_congr_left fun t _ => ?_
  simp only [Function.comp_apply]
  split <;> rfl

private theorem keeps_inspectTarget (task : Task) (drive : Items) :
    Keeps (fun m => I m.rt) (inspectTarget svc task drive) := by
  refine keeps_bind (keeps_onRt_of (upkeep.keeps_taskStep _ _)) fun _ => ?_
  refine keeps_bind (keeps_attempt (upkeep.keeps_call (.inspect _))) fun outcome => ?_
  cases outcome <;> exact keeps_pure _

/-- Every step of a request keeps the invariant; the request of a permission and the
shutdown are the steps that the guard speaks of. -/
theorem keeps_step {step : Brain ε → Brain ε} (taken : TaskStep svc reg P step) (m : Brain ε)
    (holds : I m.rt) (allowed : G m step) : I (step m).rt := by
  cases taken with
  | validate intent user confirmed => exact (upkeep.toReads.keeps_validate intent user confirmed).after holds
  | pass => exact holds
  | emit r => exact (upkeep.keeps_call (.emit r)).after holds
  | start intent user named => exact (keeps_onRt_of (upkeep.start intent user named)).after holds
  | finish task user result named =>
    exact (keeps_onRt_of (upkeep.finish task user result named)).after holds
  | status task => exact (upkeep.toReads.keeps_hStatus task).after holds
  | explain task => exact (upkeep.toReads.keeps_hExplain task).after holds
  | diagnostics task => exact (upkeep.keeps_hDiagnostics task).after holds
  | tool task => exact (upkeep.keeps_call (.tool _ _)).after holds
  | stop task => exact (keeps_bind (upkeep.keeps_call .stop) fun _ => keeps_pure _).after holds
  | estop task =>
    exact (keeps_bind (keeps_onRt_of (upkeep.engage _)) fun _ => keeps_pure _).after holds
  | cancel task => exact (upkeep.keeps_hCancel task).after holds
  | safeIdle task => exact (upkeep.safeIdle task).after holds
  | shutdown task => exact upkeep.shutdown task m holds allowed
  | resolve dest => exact (upkeep.keeps_call (.resolve dest)).after holds
  | note taskId label => exact (keeps_onRt_of (upkeep.keeps_taskStep taskId label)).after holds
  | request => exact upkeep.request m holds allowed
  | enterActive d => exact (keeps_onRt_of (upkeep.enterActive d)).after holds
  | tick goal d => exact (keeps_onRt_of (upkeep.keeps_driveTick goal d)).after holds
  | endDrive held => exact (keeps_onRt_of (upkeep.endDrive held)).after holds
  | dock => exact (keeps_onRt_of upkeep.keeps_dock).after holds
  | inspect task drive => exact (upkeep.keeps_inspectTarget task drive).after holds

theorem keeps_runIntent {intent : StructuredIntent} (allowed : P intent.intent) (user : String) :
    (runIntent svc reg intent user).Keeps G fun m => I m.rt :=
  Coroutine.keeps_of_atoms (atoms_runIntent allowed user) fun _ => upkeep.keeps_step

/-- A language request keeps the invariant, whatever the providers answer. -/
theorem keeps_process {lang : LanguageService} (approved : Approves svc reg P) (r : Request) :
    (process svc reg lang r).Keeps G fun m => I m.rt :=
  Coroutine.keeps_of_atoms (atoms_process (r := r) approved) fun _ => upkeep.keeps_step

end Upkeep

end DroidOs.System.TaskLaw
