/- GID: DroidOs/System/TaskRecords
   generality: I
   source: src/droidos/executive/executive.py, src/droidos/executive/tasks.py
   digest: What every run of an intent leaves in the audit log and in the task history. -/

import DroidOs.Lib.History
import DroidOs.System.Simulated
import DroidOs.System.TaskFrame

set_option autoImplicit false
set_option relaxedAutoImplicit false

namespace DroidOs.System.TaskRecords

open DroidOs.Lib.Procedure DroidOs.Lib.Interleaving DroidOs.Lib.History
open DroidOs.Lib.Interleaving.Coroutine (atomically)
open DroidOs.Core.Values DroidOs.Core.States DroidOs.Core.Context
open DroidOs.Services.Lifecycle DroidOs.Services.Supervisor
open DroidOs.Executive.BehaviourTree DroidOs.Executive.Drive DroidOs.Executive.RunIntent
open DroidOs.Language.Intent
open Registration Boot Simulated TaskFrame

variable {ε : Type}

/-! Drives that are cancelled. -/

section

variable (svc : Services ε)

/-- A state with the changes that are to happen before the next atoms. -/
abbrev Moment (ε : Type) := Brain ε × (ℕ → Brain ε → Brain ε)

/-- Some round of the loop finds the cancel flag set. -/
def loopStopped (goal : Pose) : Nat → DriveData → Moment ε → Bool
  | 0, _, _ => false
  | n + 1, d, s =>
    (s.2 0 s.1).rt.cancelled ||
      match (atomically (onRt (driveTick svc goal d))).amid s with
      | (.ok (none, d'), s') => loopStopped goal n d' s'
      | _ => false

/-- `_drive_to` up to its loop. -/
def approach (label : PyVal) (taskId : String) : Coroutine (Brain ε) Exn (Status × DriveData) := do
  atomically (onRt (taskStep taskId "check health"))
  atomically (onRt (taskStep taskId ("navigate to " ++ svc.text.str label)))
  let (status, d) ← atomically (onRt (acquire svc { label := label }))
  if status = .success then atomically (onRt (enterActive svc d)) else return (status, d)

def driveStopped (goal : Pose) (label : PyVal) (taskId : String) (s : Moment ε) : Bool :=
  match (approach svc label taskId).amid s with
  | (.ok (.success, d), s') => loopStopped svc goal maxDriveTicks d s'
  | _ => false

/-- Where the handler of a task drives to, if it drives. -/
def driveLabel (task : Task) : Option PyVal :=
  if task.intent = "navigation.navigate_to" then some (argument task "destination" (.str ""))
  else if task.intent = "navigation.go_charge" then some (.str "charging station")
  else if task.intent = "inspect.named_target" then
    let dest := argument task "destination" .none
    if dest.truthy then some dest else none
  else none

/-- The task has a drive that stops because it was cancelled. -/
def taskStopped (task : Task) (s : Moment ε) : Bool :=
  match driveLabel task with
  | none => false
  | some label => match (atomically (onRt (outside (svc.resolve label)))).amid s with
    | (.ok (some goal), s') => driveStopped svc goal label task.taskId s'
    | _ => false

end

section

variable {svc : Services ε} {goal : Pose} {d d' : DriveData}

private theorem driveTick_cancelled {rt : Runtime ε} (cancelled : rt.cancelled = true) :
    driveTick svc goal d rt = (.ok (some .failure, { d with result := some "cancelled" }), rt) := by
  unfold driveTick
  rw [reads_bind, if_pos cancelled]
  rfl

/-- A round that finds the flag clear does not put a cancellation down as its result. -/
private theorem driveTick_going {rt : Runtime ε} (going : rt.cancelled = false)
    (fresh : d.result ≠ some "cancelled") {ended : Option Status}
    (returns : (driveTick svc goal d rt).1 = .ok (ended, d')) : d'.result ≠ some "cancelled" := by
  unfold driveTick at returns
  rw [reads_bind, if_neg (by simp [going])] at returns
  obtain ⟨ok, -, returns⟩ := bind_returns_iff.mp returns
  split at returns
  · cases returns
    simp
  obtain ⟨⟨blocked, dist⟩, -, returns⟩ := bind_returns_iff.mp returns
  dsimp only at returns
  split at returns
  · cases dist with
    | none =>
      cases returns
      simp
    | some dist =>
      obtain ⟨-, -, returns⟩ := bind_returns_iff.mp returns
      cases returns
      simp
  obtain ⟨here, -, returns⟩ := bind_returns_iff.mp returns
  obtain ⟨⟨vel, remaining⟩, -, returns⟩ := bind_returns_iff.mp returns
  dsimp only at returns
  split at returns
  · cases returns
    simp
  obtain ⟨-, -, returns⟩ := bind_returns_iff.mp returns
  cases returns
  exact fresh

/-- A loop that ends has the result "cancelled" exactly if a round found the flag set. -/
theorem loopStopped_iff {n : Nat} {s s' : Moment ε} {status : Status}
    (fresh : d.result ≠ some "cancelled")
    (returns : (driveLoop svc goal n d).amid s = (.ok (status, d'), s')) :
    loopStopped svc goal n d s = true ↔ d'.result = some "cancelled" := by
  induction n generalizing d s with
  | zero =>
    cases returns
    simp [loopStopped]
  | succ n ih =>
    rw [driveLoop, Coroutine.amid_bind] at returns
    rw [loopStopped]
    rcases tick : (atomically (onRt (driveTick svc goal d))).amid s with ⟨e | ⟨ended, d₁⟩, s₁⟩
    · rw [bind_error tick] at returns
      cases returns
    rw [bind_ok tick] at returns
    rw [Coroutine.amid_atomically, onRt_run] at tick
    have value := congrArg Prod.fst tick
    cases flag : (s.2 0 s.1).rt.cancelled with
    | true =>
      rw [driveTick_cancelled flag] at value
      cases value
      cases returns
      simp
    | false =>
      have still := driveTick_going flag fresh value
      cases ended with
      | none => simpa using ih still returns
      | some status =>
        cases returns
        simp [still]

end

/-! Runs of intents. -/

/-- What happens beside a task between two of its atoms. It runs no task itself, and it
may call `Executive.cancel`. -/
structure Meanwhile (ε : Type) where
  change : Brain (Recorded ε) → Brain (Recorded ε)
  aside : ∀ m, SameTasks m.rt (change m).rt

namespace Meanwhile

def nothing : Meanwhile ε := ⟨id, fun _ => .rfl⟩

/-- `Executive.cancel`. -/
def cancel : Meanwhile ε where
  change m := { m with rt := { m.rt with cancelled := true } }
  aside _ := ⟨rfl, rfl, rfl⟩

end Meanwhile

/-- A call of `run_intent` with all that happens beside it. -/
structure Job (ε : Type) where
  intent : StructuredIntent
  user : String
  meanwhile : ℕ → Meanwhile ε

variable (svc : Services ε)

def Job.moment (j : Job ε) (m : Brain (Recorded ε)) : Moment (Recorded ε) :=
  (m, fun k => (j.meanwhile k).change)

/-- How the call ends and what it leaves. -/
def perform (m : Brain (Recorded ε)) (j : Job ε) : Except Exn TaskResult × Brain (Recorded ε) :=
  let ended := (runIntent (recorded svc) (droidServices (recorded svc)) j.intent j.user).amid (j.moment m)
  (ended.1, ended.2.1)

/-- One executive runs one intent after the other. -/
def performAll (m : Brain (Recorded ε)) (jobs : List (Job ε)) : Brain (Recorded ε) :=
  jobs.foldl (fun m j => (perform svc m j).2) m

/-- A round of the call's drive finds that `Executive.cancel` has been called since the
task was started. -/
def jobStopped (m : Brain (Recorded ε)) (j : Job ε) : Bool :=
  match (atomically (onRt (startTask (recorded svc) j.intent j.user))).amid (j.moment m) with
  | (.ok task, s) => taskStopped (recorded svc) task s
  | _ => false

/-- One record of the start and one of the end, one entry of the history, and an outcome
that says what happened. -/
def Audited (m : Brain (Recorded ε)) (j : Job ε) : Prop :=
  ∃ (result : TaskResult) (task : Task) (started ended : AuditRecord),
    (perform svc m j).1 = .ok result ∧
    taskRecords (perform svc m j).2.rt = taskRecords m.rt ++ [started, ended] ∧
    (started.outcome = some "started" ∧ ended.outcome ≠ some "started") ∧
    (started.taskId = some task.taskId ∧ ended.taskId = some task.taskId) ∧
    (perform svc m j).2.rt.taskHistory = m.rt.taskHistory ++ [task] ∧
    (perform svc m j).2.rt.currentTask = none ∧
    (ended.outcome = some "succeeded" ↔ result.ok = true) ∧
    (ended.outcome = some "cancelled" ↔ jobStopped svc m j = true) ∧
    (ended.outcome = some "failed" ↔ result.ok = false ∧ jobStopped svc m j = false)

/-! One run. -/

variable {svc}

/-- The record of a task's end. -/
def endRecord (task : Task) (user : String) (result : TaskResult) (state : DroidState) : AuditRecord where
  kind := "task"
  user := some user
  intent := some task.intent
  taskId := some task.taskId
  outcome := some (finishState result).value
  reason := some result.error
  safetyState := some state.value

/-- What `run_intent` takes for the result of a handler. -/
private def resultOf (intent : String) : Except Exn TaskResult → TaskResult
  | .ok result => result
  | .error e => { ok := false, kind := intent, error := e.describe }

variable (svc) in
private theorem startTask_run {intent : StructuredIntent} {items : Items}
    (arguments : intent.arguments.toDict = .ok items) (user : String) (rt : Runtime (Recorded ε)) :
    ∃ task rt', startTask (recorded svc) intent user rt = (.ok task, rt') ∧
      task.intent = intent.intent ∧ task.taskId = taskIdOf rt.nextTask ∧
      rt'.taskHistory = rt.taskHistory ∧ rt'.nextTask = rt.nextTask + 1 ∧
      taskRecords rt' = taskRecords rt ++ [startRecord intent user (taskIdOf rt.nextTask)] := by
  unfold startTask
  rw [arguments]
  refine ⟨_, _, rfl, rfl, rfl, rfl, rfl, ?_⟩
  simp [taskRecords, recorded, startRecord]

variable (svc) in
private theorem finishTask_run (task : Task) (user : String) (result : TaskResult)
    (rt : Runtime (Recorded ε)) :
    ∃ done rt', finishTask (recorded svc) task user result rt =
        (.ok { result with taskId := task.taskId }, rt') ∧
      done.taskId = task.taskId ∧ rt'.taskHistory = rt.taskHistory ++ [done] ∧
      rt'.currentTask = none ∧ rt'.nextTask = rt.nextTask ∧
      taskRecords rt' = taskRecords rt ++ [endRecord task user result rt.machine.state] := by
  refine ⟨_, _, rfl, ?_, rfl, rfl, rfl, ?_⟩
  · cases found : rt.runningTasks.find? fun t => t.taskId = task.taskId with
    | none => rfl
    | some t => simpa using List.find?_some found
  · simp [taskRecords, recorded, endRecord]

variable (svc) in
/-- The first atom of a run: the task is counted, and its start recorded. -/
private theorem start_amid {j : Job ε} {items : Items}
    (arguments : j.intent.arguments.toDict = .ok items) (m : Brain (Recorded ε)) :
    ∃ (task : Task) (m₁ : Brain (Recorded ε)),
      (atomically (onRt (startTask (recorded svc) j.intent j.user))).amid (j.moment m) =
        (.ok task, m₁, fun k => (j.meanwhile (k + 1)).change) ∧
      task.intent = j.intent.intent ∧ task.taskId = taskIdOf m.rt.nextTask ∧
      m₁.rt.taskHistory = m.rt.taskHistory ∧ m₁.rt.nextTask = m.rt.nextTask + 1 ∧
      taskRecords m₁.rt = taskRecords m.rt ++ [startRecord j.intent j.user task.taskId] := by
  obtain ⟨history, next, records⟩ := (j.meanwhile 0).aside m
  obtain ⟨task, rt₁, start, named, numbered, history₁, next₁, records₁⟩ :=
    startTask_run svc arguments j.user ((j.meanwhile 0).change m).rt
  rw [next] at numbered next₁ records₁
  refine ⟨task, { (j.meanwhile 0).change m with rt := rt₁ }, ?_, named, numbered,
    history₁.trans history, next₁, ?_⟩
  · rw [Coroutine.amid_atomically, onRt_run]
    simp only [Job.moment, start]
  · rw [records₁, records, numbered]

variable (svc) in
/-- The last atom: the task goes into the history, and its end is recorded. -/
private theorem finish_amid (task : Task) (user : String) (result : TaskResult)
    {rt₀ : Runtime (Recorded ε)} {s : Moment (Recorded ε)} (same : SameTasks rt₀ (s.2 0 s.1).rt) :
    ∃ (done : Task) (m₃ : Brain (Recorded ε)) (state : DroidState),
      (atomically (onRt (finishTask (recorded svc) task user result))).amid s =
        (.ok { result with taskId := task.taskId }, m₃, fun k => s.2 (k + 1)) ∧
      done.taskId = task.taskId ∧ m₃.rt.taskHistory = rt₀.taskHistory ++ [done] ∧
      m₃.rt.currentTask = none ∧ m₃.rt.nextTask = rt₀.nextTask ∧
      taskRecords m₃.rt = taskRecords rt₀ ++ [endRecord task user result state] := by
  obtain ⟨done, rt₃, finish, ended, history, current, next, records⟩ :=
    finishTask_run svc task user result (s.2 0 s.1).rt
  refine ⟨done, { s.2 0 s.1 with rt := rt₃ }, (s.2 0 s.1).rt.machine.state, ?_, ended, ?_, current,
    next.trans same.next, ?_⟩
  · rw [Coroutine.amid_atomically, onRt_run, finish]
  · rw [history, same.history]
  · rw [records, same.records]

/-- What happens beside a run keeps the tasks, at each of its atoms. -/
private theorem aside_keeps (j : Job ε) (rt₀ : Runtime (Recorded ε)) (k : ℕ) (m : Brain (Recorded ε))
    (same : SameTasks rt₀ m.rt) : SameTasks rt₀ ((j.meanwhile k).change m).rt :=
  same.trans ((j.meanwhile k).aside m)

variable (svc) in
/-- The run of an intent of which a task can be made. -/
theorem perform_task {j : Job ε} {items : Items} (arguments : j.intent.arguments.toDict = .ok items)
    (m : Brain (Recorded ε)) :
    ∃ (task done : Task) (result : TaskResult) (state : DroidState),
      (perform svc m j).1 = .ok { result with taskId := task.taskId } ∧
      task.taskId = taskIdOf m.rt.nextTask ∧ done.taskId = task.taskId ∧
      taskRecords (perform svc m j).2.rt = taskRecords m.rt ++
        [startRecord j.intent j.user task.taskId, endRecord task j.user result state] ∧
      (perform svc m j).2.rt.taskHistory = m.rt.taskHistory ++ [done] ∧
      (perform svc m j).2.rt.currentTask = none ∧
      (perform svc m j).2.rt.nextTask = m.rt.nextTask + 1 := by
  obtain ⟨task, m₁, start, named, numbered, history₁, next₁, records₁⟩ :=
    start_amid svc arguments m
  rcases handled : (handlerFor (recorded svc) (droidServices (recorded svc)) task.intent task).amid
    (m₁, fun k => (j.meanwhile (k + 1)).change) with ⟨outcome, s₂⟩
  have kept := (Coroutine.keeps_amid (@sameTasks_handler _ svc m₁.rt task)).after
    (s := (m₁, fun k => (j.meanwhile (k + 1)).change))
    ⟨.rfl, fun k t same => aside_keeps j m₁.rt (k + 1) t same⟩
  rw [handled] at kept
  have last := kept.2 0 _ kept.1
  obtain ⟨done, m₃, state, finish, ended, history₃, current, next₃, records₃⟩ :=
    finish_amid svc task j.user (resultOf j.intent.intent outcome) last
  have run : (runIntent (recorded svc) (droidServices (recorded svc)) j.intent j.user).amid
      (j.moment m) = (.ok { resultOf j.intent.intent outcome with taskId := task.taskId }, m₃,
        fun k => s₂.2 (k + 1)) := by
    unfold runIntent
    rw [Coroutine.amid_bind, bind_ok start, Coroutine.amid_bind, Coroutine.amid_attempt, attempt_bind,
      ← named, handled, named]
    cases outcome <;> exact finish
  refine ⟨task, done, resultOf j.intent.intent outcome, state, ?_, numbered, ended, ?_⟩
  · rw [perform, run]
  rw [perform, run]
  refine ⟨?_, ?_, current, ?_⟩
  · rw [records₃, records₁, List.append_assoc]
    rfl
  · rw [history₃, history₁]
  · rw [next₃, next₁]

variable (svc) in
/-- The run of an intent of which no task can be made. -/
theorem perform_unstarted {j : Job ε} {e : Exn} (arguments : j.intent.arguments.toDict = .error e)
    (m : Brain (Recorded ε)) :
    (perform svc m j).1 = .error e ∧ SameTasks m.rt (perform svc m j).2.rt := by
  have first : (atomically (onRt (startTask (recorded svc) j.intent j.user))).amid (j.moment m) =
      (.error e, (j.meanwhile 0).change m, fun k => (j.meanwhile (k + 1)).change) := by
    rw [Coroutine.amid_atomically, onRt_run]
    simp only [Job.moment, startTask, bind_run, ofExcept_run, arguments]
  have run : perform svc m j = (.error e, (j.meanwhile 0).change m) := by
    unfold perform runIntent
    rw [Coroutine.amid_bind, bind_error first]
  rw [run]
  exact ⟨rfl, (j.meanwhile 0).aside m⟩

theorem finishState_value (result : TaskResult) :
    ((finishState result).value = "succeeded" ↔ result.ok = true) ∧
    ((finishState result).value = "failed" ↔ result.ok = false) ∧
    (finishState result).value ≠ "cancelled" ∧ (finishState result).value ≠ "started" := by
  unfold finishState
  cases result.ok <;> simp [TaskState.value]

/-- A run is audited as it went exactly if a task can be made of its intent and no round
of its drive finds it cancelled. -/
theorem audited_iff (m : Brain (Recorded ε)) (j : Job ε) :
    Audited svc m j ↔
      (∃ items, j.intent.arguments.toDict = .ok items) ∧ jobStopped svc m j = false := by
  rcases arguments : j.intent.arguments.toDict with e | items
  · refine iff_of_false ?_ (by simp)
    rintro ⟨result, _, _, _, returned, _⟩
    rw [(perform_unstarted svc arguments m).1] at returned
    cases returned
  · obtain ⟨task, done, result, state, returned, numbered, ended, records, history, current, _⟩ :=
      perform_task svc arguments m
    obtain ⟨succeeded, failed, uncancelled, unstarted⟩ := finishState_value result
    constructor
    · rintro ⟨_, _, started, last, _, records', _, _, _, _, _, cancelled, _⟩
      rw [records] at records'
      have tail := List.append_cancel_left records'
      obtain ⟨-, rfl⟩ : _ ∧ endRecord task j.user result state = last := by simpa using tail
      refine ⟨⟨items, rfl⟩, ?_⟩
      by_contra stopped
      have outcome := cancelled.mpr (by simpa using stopped)
      exact uncancelled (Option.some.inj outcome)
    · rintro ⟨-, unstopped⟩
      refine ⟨_, done, _, _, returned, records, ⟨rfl, ?_⟩, ⟨?_, ?_⟩, history, current, ?_, ?_, ?_⟩
      · simpa [endRecord] using unstarted
      · simp [startRecord, ended]
      · simp [endRecord, ended]
      · simpa [endRecord] using succeeded
      · simp [endRecord, uncancelled, unstopped]
      · simpa [endRecord, unstopped] using failed

/-! Sequences of runs. -/

/-- In a sequence of intents every run is audited as it went exactly if from each of them a
task can be made and in none a round of its drive finds that it was cancelled. -/
theorem audited_throughout_iff (svc : Services ε) (m : Brain (Recorded ε)) (jobs : List (Job ε)) :
    Throughout (fun past j => Audited svc (performAll svc m past) j) jobs ↔
      Throughout (fun past j => (∃ items, j.intent.arguments.toDict = .ok items) ∧
        jobStopped svc (performAll svc m past) j = false) jobs := by
  refine throughout_iff (I := fun _ => True) trivial (fun _ _ _ _ => trivial) (fun past j _ => ?_) jobs
  exact audited_iff _ j

/-- A droid in its room, with an empty log. -/
def hallwayBrain : Brain (Recorded (SimWorld Unit)) :=
  booted (recorded (simulated hallwayDroid))
    (newRuntime 0 .missing { world := { backend := .new wheeled, store := () } })

/-- It is sent to the hallway, and cancelled before the drive has gone one round. -/
def cancelledDrive : Job (SimWorld Unit) where
  intent := toHallway
  user := "operator"
  meanwhile k := if k = 6 then .cancel else .nothing

/-- What the drive gives as its reason. -/
example : ((perform (simulated hallwayDroid) hallwayBrain cancelledDrive).1.toOption.map
    TaskResult.error) = some "the task was cancelled" := by decide +kernel

/-- The drive stops because it was cancelled, and the log says that it failed. -/
theorem cancelled_drive_failed :
    ¬ Throughout (fun past j => Audited (simulated hallwayDroid)
      (performAll (simulated hallwayDroid) hallwayBrain past) j) [cancelledDrive] := by
  intro audited
  have alone := (audited_iff _ _).mp (audited [] cancelledDrive [] rfl)
  exact absurd alone.2 (by decide +kernel)

end DroidOs.System.TaskRecords
