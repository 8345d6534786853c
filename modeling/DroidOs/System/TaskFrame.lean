/- GID: DroidOs/System/TaskFrame
   generality: I
   source: src/droidos/core/logging.py
   digest: The audit log beside any outside world, and that handlers leave task records alone. -/

import DroidOs.System.StepLaw

set_option autoImplicit false
set_option relaxedAutoImplicit false

namespace DroidOs.System.TaskFrame

open DroidOs.Lib.Procedure DroidOs.Lib.Interleaving
open DroidOs.Core.Values DroidOs.Core.States DroidOs.Core.Context
open DroidOs.Services.Lifecycle DroidOs.Services.SafetyGateway DroidOs.Services.Supervisor
open DroidOs.Executive.Drive DroidOs.Executive.RunIntent
open Registration TaskSteps TaskLaw StepLaw

/-- An outside world and `AuditLog.records`. -/
structure Recorded (ε : Type) where
  world : ε
  log : List AuditRecord := []

variable {ε : Type} {α β : Type}

/-- A call that keeps no record. -/
def unlogged (p : Proc ε Exn α) : Proc (Recorded ε) Exn α :=
  zoom Recorded.world (fun world st => { st with world := world }) p

/-- The services of any outside world, with the audit log. `AuditLog.record` keeps
the record first, and no failure to write the file gets out of it. -/
def recorded (svc : Services ε) : Services (Recorded ε) where
  text := svc.text
  droidName := svc.droidName
  body := svc.body
  backendKind := svc.backendKind
  connect := unlogged svc.connect
  shutdown := unlogged svc.shutdown
  setPower := fun on => unlogged (svc.setPower on)
  powerEnabled := fun st => svc.powerEnabled st.world
  battery := unlogged svc.battery
  actuatorNames := fun st => svc.actuatorNames st.world
  readAllActuators := unlogged svc.readAllActuators
  readSensor := fun id => unlogged (svc.readSensor id)
  pose := unlogged svc.pose
  busOnline := svc.busOnline.map unlogged
  setCharging := svc.setCharging.map fun f on => unlogged (f on)
  resolve := fun dest => unlogged (svc.resolve dest)
  knownPlaces := unlogged svc.knownPlaces
  traversable := fun dest => unlogged (svc.traversable dest)
  localizationOk := unlogged svc.localizationOk
  isPathBlocked := unlogged svc.isPathBlocked
  setObstacle := fun x y => unlogged (svc.setObstacle x y)
  velocityToward := fun goal here => unlogged (svc.velocityToward goal here)
  drive := fun vel dt => unlogged (svc.drive vel dt)
  stop := unlogged svc.stop
  inspect := fun target => unlogged (svc.inspect target)
  tool := fun intent arguments => unlogged (svc.tool intent arguments)
  configure := fun name => unlogged (svc.configure name)
  emit := fun r st => (.ok (), { world := (svc.emit r st.world).2, log := st.log ++ [r] })
  publish := fun e => unlogged (svc.publish e)

/-- The audit records of tasks, oldest first. -/
def taskRecords (rt : Runtime (Recorded ε)) : List AuditRecord :=
  rt.env.log.filter fun r => r.kind = "task"

/-- Two contexts with the same tasks behind them. -/
structure SameTasks (rt rt' : Runtime (Recorded ε)) : Prop where
  history : rt'.taskHistory = rt.taskHistory
  next : rt'.nextTask = rt.nextTask
  records : taskRecords rt' = taskRecords rt

theorem SameTasks.rfl {rt : Runtime (Recorded ε)} : SameTasks rt rt := ⟨by rfl, by rfl, by rfl⟩

theorem SameTasks.trans {rt₀ rt rt' : Runtime (Recorded ε)} (first : SameTasks rt₀ rt)
    (second : SameTasks rt rt') : SameTasks rt₀ rt' :=
  ⟨second.history.trans first.history, second.next.trans first.next,
    second.records.trans first.records⟩

/-! What leaves the tasks alone. -/

section

variable {svc : Services ε} {rt₀ : Runtime (Recorded ε)}

/-- A call that leaves the log as it is. -/
def Unlogged (p : Proc (Recorded ε) Exn α) : Prop := ∀ st, (p st).2.log = st.log

private theorem unlogged_spec (p : Proc ε Exn α) : Unlogged (unlogged p) := fun _ => rfl

private theorem unlogged_bind {p : Proc (Recorded ε) Exn α} {f : α → Proc (Recorded ε) Exn β}
    (first : Unlogged p) (second : ∀ a, Unlogged (f a)) : Unlogged (p >>= f) := by
  intro st
  rcases run : p st with ⟨e | a, st'⟩
  · rw [bind_error run, ← first st, run]
  · rw [bind_ok run, second a st', ← first st, run]

private theorem keeps_unlogged {p : Proc (Recorded ε) Exn α} (quiet : Unlogged p) :
    Keeps (SameTasks rt₀) (outside p) := by
  refine keeps_iff.mpr fun rt holds => ⟨holds.history, holds.next, ?_⟩
  rw [← holds.records, outside_run, taskRecords, taskRecords, quiet]

private theorem keeps_change {f : Runtime (Recorded ε) → Runtime (Recorded ε)}
    (same : ∀ rt, (f rt).taskHistory = rt.taskHistory ∧ (f rt).nextTask = rt.nextTask ∧
      (f rt).env = rt.env) : Keeps (SameTasks rt₀) (modify f : Proc _ Exn Unit) := by
  refine keeps_modify fun rt holds => ?_
  obtain ⟨history, next, env⟩ := same rt
  refine holds.trans ⟨history, next, ?_⟩
  rw [taskRecords, taskRecords, env]

/-- A record of another kind is no task record. -/
private theorem keeps_emit {r : AuditRecord} (other : r.kind ≠ "task") :
    Keeps (SameTasks rt₀) (outside ((recorded svc).emit r)) := by
  refine keeps_iff.mpr fun rt holds => holds.trans ⟨by rfl, by rfl, ?_⟩
  rw [outside_run]
  simp [taskRecords, recorded, other]

private theorem keeps_status : Keeps (SameTasks rt₀) (controllerStatus (ε := Recorded ε)) :=
  keeps_iff.mpr fun _ holds => holds.trans ⟨by rfl, by rfl, by rfl⟩

private theorem keeps_heartbeat : Keeps (SameTasks rt₀) (heartbeat (ε := Recorded ε)) :=
  keeps_iff.mpr fun _ holds => holds.trans ⟨by rfl, by rfl, by rfl⟩

private theorem keeps_transition (dst : DroidState) (reason : String) :
    Keeps (SameTasks rt₀) (transition (ε := Recorded ε) dst reason) := by
  refine keeps_iff.mpr fun rt holds => ?_
  obtain ⟨machine, after, -⟩ := transition_after dst reason rt
  rw [after]
  exact holds.trans ⟨by rfl, by rfl, by rfl⟩

private theorem forbids : Forbids (SameTasks rt₀) where
  transition dst reason _ := keeps_transition dst reason
  force _ _ _ := keeps_change fun _ => ⟨rfl, rfl, rfl⟩

private theorem reading {p : Proc (Recorded ε) Exn α} (call : ReadCall (recorded svc) p) :
    Unlogged p := by
  cases call with
  | battery => exact unlogged_spec _
  | readAllActuators => exact unlogged_spec _
  | readSensor id => exact unlogged_spec _
  | busOnline online =>
    obtain ⟨p', -, rfl⟩ := Option.map_eq_some_iff.mp online
    exact unlogged_spec p'
  | resolve dest => exact unlogged_spec _
  | knownPlaces => exact unlogged_spec _
  | traversable dest => exact unlogged_spec _

private theorem reads_tasks : Reads (recorded svc) (SameTasks rt₀) where
  reading call := keeps_unlogged (reading call)
  status := keeps_status
  heartbeat := keeps_heartbeat

/-! The gateway. -/

private theorem keeps_log (event detail : String) :
    Keeps (SameTasks rt₀) (logSafetyEvent (recorded svc) event detail) :=
  keeps_bind keeps_status fun _ => keeps_bind (keeps_emit (by simp [safetyRecord])) fun _ =>
    keeps_unlogged (unlogged_spec _)

private theorem keeps_release : Keeps (SameTasks rt₀) (releaseMotionPermission (recorded svc)) := by
  have cleared : Keeps (SameTasks rt₀)
      (modify fun rt => { rt with token := "" } : Proc (Runtime (Recorded ε)) Exn _) :=
    keeps_change fun _ => ⟨rfl, rfl, rfl⟩
  refine keeps_bind (keeps_change fun _ => ⟨rfl, rfl, rfl⟩) fun _ => ?_
  refine keeps_bind (keeps_unlogged (unlogged_spec _)) fun _ => keeps_bind (keeps_reads _) fun _ => ?_
  exact keeps_ite (fun _ => keeps_bind (keeps_log _ _) fun _ => cleared) fun _ => cleared

private theorem keeps_engage (reason : String) :
    Keeps (SameTasks rt₀) (engageEstop (recorded svc) reason) := by
  refine keeps_bind (keeps_change fun _ => ⟨rfl, rfl, rfl⟩) fun _ => ?_
  refine keeps_bind (keeps_unlogged (unlogged_spec _)) fun _ => ?_
  refine keeps_bind (keeps_change fun _ => ⟨rfl, rfl, rfl⟩) fun _ => ?_
  refine keeps_bind (keeps_log _ _) fun _ => ?_
  exact keeps_bind (keeps_change fun _ => ⟨rfl, rfl, rfl⟩) fun _ =>
    keeps_change fun _ => ⟨rfl, rfl, rfl⟩

private theorem keeps_request :
    Keeps (SameTasks rt₀) (requestMotionPermission (recorded svc)) := by
  refine keeps_bind (keeps_bind keeps_heartbeat fun _ => keeps_status) fun _ => ?_
  refine keeps_ite (fun _ => keeps_pure _) fun _ => ?_
  refine keeps_bind (keeps_iff.mpr fun rt holds => holds.trans ⟨by rfl, by rfl, by rfl⟩) fun _ => ?_
  refine keeps_ite (fun _ => keeps_pure _) fun _ => ?_
  refine keeps_bind (keeps_unlogged (unlogged_spec _)) fun _ => keeps_bind (keeps_reads _) fun _ => ?_
  exact keeps_bind (keeps_change fun _ => ⟨rfl, rfl, rfl⟩) fun _ =>
    keeps_bind (keeps_log _ _) fun _ => keeps_pure _

/-! Driving. -/

private theorem keeps_enterActive (d : DriveData) :
    Keeps (SameTasks rt₀) (enterActive (recorded svc) d) :=
  keeps_bind (keeps_reads _) fun _ =>
    keeps_ite (fun _ => keeps_bind (keeps_transition _ _) fun _ => keeps_pure _) fun _ => keeps_pure _

private theorem keeps_endDrive (held : Bool) :
    Keeps (SameTasks rt₀) (endDrive (recorded svc) held) := by
  have settled : Keeps (SameTasks rt₀) (do
      let machine ← reads Runtime.machine
      if machine.state = .active then transition .ready "task complete" :
        Proc (Runtime (Recorded ε)) Exn Unit) :=
    keeps_bind (keeps_reads _) fun _ =>
      keeps_ite (fun _ => keeps_transition _ _) fun _ => keeps_pure _
  exact keeps_ite (fun _ => keeps_bind keeps_release fun _ => settled) fun _ => settled

private theorem unlogged_note (dist : PyFloat) : Unlogged (noteObstacle (recorded svc) dist) :=
  unlogged_bind (unlogged_spec _) fun _ => unlogged_bind (unlogged_spec _) fun _ => unlogged_spec _

private theorem keeps_tick (goal : Pose) (d : DriveData) :
    Keeps (SameTasks rt₀) (driveTick (recorded svc) goal d) := by
  refine keeps_bind (keeps_reads _) fun _ => keeps_ite (fun _ => keeps_pure _) fun _ => ?_
  refine keeps_bind (keeps_unlogged (unlogged_spec _)) fun _ =>
    keeps_ite (fun _ => keeps_pure _) fun _ => ?_
  refine keeps_bind (keeps_unlogged (unlogged_spec _)) fun ⟨_, dist⟩ => keeps_ite (fun _ => ?_) fun _ => ?_
  · cases dist with
    | none => exact keeps_pure _
    | some dist => exact keeps_bind (keeps_unlogged (unlogged_note dist)) fun _ => keeps_pure _
  refine keeps_bind (keeps_unlogged (unlogged_spec _)) fun here => ?_
  refine keeps_bind (keeps_unlogged (unlogged_spec _)) fun ⟨vel, _⟩ => ?_
  refine keeps_ite (fun _ => keeps_pure _) fun _ => ?_
  exact keeps_bind (keeps_unlogged (unlogged_spec _)) fun _ => keeps_pure _

private theorem unlogged_dock : Unlogged (dock (recorded svc)) := by
  unfold dock
  split
  · exact fun _ => rfl
  · rename_i charge charging
    obtain ⟨f, -, rfl⟩ := Option.map_eq_some_iff.mp charging
    exact unlogged_bind (unlogged_spec _) fun _ _ => rfl

/-! Handlers. -/

private theorem keeps_outside (p : Proc ε Exn α) :
    Keeps (fun m : Brain (Recorded ε) => SameTasks rt₀ m.rt) (onRt (outside (unlogged p))) :=
  keeps_onRt_of (keeps_unlogged (unlogged_spec p))

private theorem keeps_beside {f : Runtime (Recorded ε) → Runtime (Recorded ε)}
    (same : ∀ rt, (f rt).taskHistory = rt.taskHistory ∧ (f rt).nextTask = rt.nextTask ∧
      (f rt).env = rt.env) :
    Keeps (fun m : Brain (Recorded ε) => SameTasks rt₀ m.rt) (onRt (modify f)) :=
  keeps_onRt_of (keeps_change same)

private theorem keeps_cancel (task : Task) :
    Keeps (fun m => SameTasks rt₀ m.rt) (hCancel (recorded svc) task) := by
  refine keeps_bind (keeps_beside fun _ => ⟨rfl, rfl, rfl⟩) fun _ => ?_
  exact keeps_bind (keeps_outside _) fun _ => keeps_pure _

private theorem keeps_safeIdle (task : Task) :
    Keeps (fun m => SameTasks rt₀ m.rt) (hSafeIdle (recorded svc) task) := by
  have idle : Keeps (SameTasks rt₀) (enterSafeIdle (ε := Recorded ε)) :=
    keeps_bind (keeps_reads _) fun _ =>
      keeps_ite (fun _ => keeps_transition _ _) fun _ => keeps_pure _
  refine keeps_bind (keeps_onRt_of keeps_release) fun _ => keeps_bind (keeps_onRt_of idle) fun _ => ?_
  exact keeps_bind (keeps_reads _) fun _ => keeps_pure _

private theorem keeps_inspect (task : Task) (drive : Items) :
    Keeps (fun m => SameTasks rt₀ m.rt) (inspectTarget (recorded svc) task drive) := by
  refine keeps_bind (keeps_beside fun _ => ⟨rfl, rfl, rfl⟩) fun _ => ?_
  refine keeps_bind (keeps_attempt (keeps_outside _)) fun outcome => ?_
  cases outcome <;> exact keeps_pure _

/-- A handler neither appends to the history, nor counts a task, nor records one. -/
theorem sameTasks_step {P : String → Prop} {step : Brain (Recorded ε) → Brain (Recorded ε)}
    (taken : HandlerStep (recorded svc) (droidServices (recorded svc)) P step)
    {m : Brain (Recorded ε)} (holds : SameTasks rt₀ m.rt) : SameTasks rt₀ (step m).rt := by
  cases taken with
  | pass => exact holds
  | status task => exact (reads_tasks.keeps_hStatus task).after holds
  | explain task => exact (reads_tasks.keeps_hExplain task).after holds
  | diagnostics task =>
    exact (keeps_bind (keeps_outside _) fun _ =>
      keeps_bind (keeps_onRt_of (@reads_tasks ε svc rt₀).keeps_diagnostics) fun _ =>
        keeps_outside _).after holds
  | tool task => exact (keeps_outside _).after holds
  | stop task => exact (keeps_bind (keeps_outside _) fun _ => keeps_pure _).after holds
  | estop task =>
    exact (keeps_bind (keeps_onRt_of (keeps_engage _)) fun _ => keeps_pure _).after holds
  | cancel task => exact (keeps_cancel task).after holds
  | safeIdle task => exact (keeps_safeIdle task).after holds
  | shutdown task =>
    exact (keeps_bind (forbids.keeps_requestShutdown (keeps_unlogged (unlogged_spec _))) fun _ =>
      keeps_bind (keeps_reads _) fun _ => keeps_pure _).after holds
  | resolve dest => exact (keeps_outside _).after holds
  | note taskId label => exact holds.trans ⟨rfl, rfl, rfl⟩
  | request => exact (keeps_onRt_of keeps_request).after holds
  | enterActive d => exact (keeps_onRt_of (keeps_enterActive d)).after holds
  | tick goal d => exact (keeps_onRt_of (keeps_tick goal d)).after holds
  | endDrive held => exact (keeps_onRt_of (keeps_endDrive held)).after holds
  | dock => exact (keeps_onRt_of (keeps_unlogged unlogged_dock)).after holds
  | inspect task drive => exact (keeps_inspect task drive).after holds

/-- So it is for a whole handler. -/
theorem sameTasks_handler (rt₀ : Runtime (Recorded ε)) (task : Task) :
    (handlerFor (recorded svc) (droidServices (recorded svc)) task.intent task).Keeps
      Coroutine.free fun m => SameTasks rt₀ m.rt :=
  Coroutine.keeps_of_atoms (handler_steps (P := fun _ => True) trivial) fun _ taken _ holds _ =>
    sameTasks_step taken holds

end

end DroidOs.System.TaskFrame
