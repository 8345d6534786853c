/- GID: DroidOs/System/TaskSteps
   generality: I
   digest: The atomic steps that a language request and the run of its task are made of. -/

import DroidOs.Language.Conversation

set_option autoImplicit false
set_option relaxedAutoImplicit false

namespace DroidOs.System.TaskSteps

open DroidOs.Lib.Procedure DroidOs.Lib.Interleaving
open DroidOs.Lib.Interleaving.Coroutine (atomically Atoms)
open DroidOs.Core.Values DroidOs.Core.Context
open DroidOs.Services.Lifecycle DroidOs.Services.SafetyGateway DroidOs.Services.Supervisor
open DroidOs.Executive.BehaviourTree DroidOs.Executive.Drive DroidOs.Executive.RunIntent
open DroidOs.Language.Intent DroidOs.Language.Broker DroidOs.Language.Conversation

variable {ε : Type} {α : Type}

/-- The intents whose handlers may drive. -/
def drivingIntents : List String :=
  ["navigation.navigate_to", "navigation.go_charge", "inspect.named_target"]

/-- Their tools need motion and an operator. -/
theorem driving_tool {name : String} (drives : name ∈ drivingIntents) {tool : ToolSpec}
    (registered : getTool name = some tool) :
    tool.alwaysAvailable = false ∧ tool.requiresMotion = true ∧ tool.minRoleRank = 1 ∧
      tool.requiredCapability = some "locomotion" := by
  simp only [drivingIntents, List.mem_cons, List.not_mem_nil, or_false] at drives
  rcases drives with rfl | rfl | rfl <;>
    (cases registered; decide)

/-- The intents whose handler is a tool of another service. -/
def toolIntents : List String :=
  ["robot.get_battery", "robot.get_temperature", "perception.describe_scene",
    "navigation.list_places", "help", "memory.remember", "memory.store_place", "memory.forget",
    "system.set_body", "system.install_update"]

/-- The steps of requests whose tasks all have an intent in `P`. What only passes a value
on or raises changes nothing. -/
inductive TaskStep (svc : Services ε) (reg : Registry (Runtime ε)) (P : String → Prop) :
    (Brain ε → Brain ε) → Prop
  | validate (intent : StructuredIntent) (user : User) (confirmed : Bool) :
      TaskStep svc reg P (validate svc reg intent user confirmed).after
  | pass : TaskStep svc reg P id
  | emit (r : AuditRecord) : TaskStep svc reg P (onRt (outside (svc.emit r))).after
  | start (intent : StructuredIntent) (user : String) : P intent.intent →
      TaskStep svc reg P (onRt (startTask svc intent user)).after
  | finish (task : Task) (user : String) (result : TaskResult) : P task.intent →
      TaskStep svc reg P (onRt (finishTask svc task user result)).after
  | status (task : Task) : TaskStep svc reg P (hStatus svc reg task).after
  | explain (task : Task) : TaskStep svc reg P (hExplain svc reg task).after
  | diagnostics (task : Task) : P task.intent → task.intent = "diagnostics.summary" →
      TaskStep svc reg P (hDiagnostics svc task).after
  | tool (task : Task) : P task.intent → task.intent ∈ toolIntents →
      TaskStep svc reg P (hTool svc task).after
  | stop (task : Task) : TaskStep svc reg P (hStop svc task).after
  | estop (task : Task) : TaskStep svc reg P (hEstop svc task).after
  | cancel (task : Task) : P "task.cancel" → TaskStep svc reg P (hCancel svc task).after
  | safeIdle (task : Task) : P "robot.return_safe_idle" → TaskStep svc reg P (hSafeIdle svc task).after
  | shutdown (task : Task) : P "system.shutdown" → TaskStep svc reg P (hShutdown svc reg task).after
  | resolve (dest : PyVal) : TaskStep svc reg P (onRt (outside (svc.resolve dest))).after
  | note (taskId label : String) : TaskStep svc reg P (onRt (taskStep taskId label)).after
  | request : (∃ name ∈ drivingIntents, P name) →
      TaskStep svc reg P (onRt (requestMotionPermission svc)).after
  | enterActive (d : DriveData) : (∃ name ∈ drivingIntents, P name) →
      TaskStep svc reg P (onRt (enterActive svc d)).after
  | tick (goal : Pose) (d : DriveData) : (∃ name ∈ drivingIntents, P name) →
      TaskStep svc reg P (onRt (driveTick svc goal d)).after
  | endDrive (held : Bool) : (∃ name ∈ drivingIntents, P name) →
      TaskStep svc reg P (onRt (endDrive svc held)).after
  | dock : P "navigation.go_charge" → TaskStep svc reg P (onRt (outside (dock svc))).after
  | inspect (task : Task) (drive : Items) : P "inspect.named_target" →
      TaskStep svc reg P (inspectTarget svc task drive).after

/-- The steps of the handlers of tasks with an intent in `P`. -/
inductive HandlerStep (svc : Services ε) (reg : Registry (Runtime ε)) (P : String → Prop) :
    (Brain ε → Brain ε) → Prop
  | pass : HandlerStep svc reg P id
  | status (task : Task) : HandlerStep svc reg P (hStatus svc reg task).after
  | explain (task : Task) : HandlerStep svc reg P (hExplain svc reg task).after
  | diagnostics (task : Task) : P task.intent → task.intent = "diagnostics.summary" →
      HandlerStep svc reg P (hDiagnostics svc task).after
  | tool (task : Task) : P task.intent → task.intent ∈ toolIntents →
      HandlerStep svc reg P (hTool svc task).after
  | stop (task : Task) : HandlerStep svc reg P (hStop svc task).after
  | estop (task : Task) : HandlerStep svc reg P (hEstop svc task).after
  | cancel (task : Task) : P "task.cancel" → HandlerStep svc reg P (hCancel svc task).after
  | safeIdle (task : Task) : P "robot.return_safe_idle" →
      HandlerStep svc reg P (hSafeIdle svc task).after
  | shutdown (task : Task) : P "system.shutdown" → HandlerStep svc reg P (hShutdown svc reg task).after
  | resolve (dest : PyVal) : HandlerStep svc reg P (onRt (outside (svc.resolve dest))).after
  | note (taskId label : String) : HandlerStep svc reg P (onRt (taskStep taskId label)).after
  | request : (∃ name ∈ drivingIntents, P name) →
      HandlerStep svc reg P (onRt (requestMotionPermission svc)).after
  | enterActive (d : DriveData) : (∃ name ∈ drivingIntents, P name) →
      HandlerStep svc reg P (onRt (enterActive svc d)).after
  | tick (goal : Pose) (d : DriveData) : (∃ name ∈ drivingIntents, P name) →
      HandlerStep svc reg P (onRt (driveTick svc goal d)).after
  | endDrive (held : Bool) : (∃ name ∈ drivingIntents, P name) →
      HandlerStep svc reg P (onRt (endDrive svc held)).after
  | dock : P "navigation.go_charge" → HandlerStep svc reg P (onRt (outside (dock svc))).after
  | inspect (task : Task) (drive : Items) : P "inspect.named_target" →
      HandlerStep svc reg P (inspectTarget svc task drive).after

variable {svc : Services ε} {reg : Registry (Runtime ε)} {P : String → Prop}

theorem HandlerStep.task {step : Brain ε → Brain ε} (taken : HandlerStep svc reg P step) :
    TaskStep svc reg P step := by
  cases taken with
  | pass => exact .pass
  | status task => exact .status task
  | explain task => exact .explain task
  | diagnostics task named same => exact .diagnostics task named same
  | tool task named listed => exact .tool task named listed
  | stop task => exact .stop task
  | estop task => exact .estop task
  | cancel task named => exact .cancel task named
  | safeIdle task named => exact .safeIdle task named
  | shutdown task named => exact .shutdown task named
  | resolve dest => exact .resolve dest
  | note taskId label => exact .note taskId label
  | request drives => exact .request drives
  | enterActive d drives => exact .enterActive d drives
  | tick goal d drives => exact .tick goal d drives
  | endDrive held drives => exact .endDrive held drives
  | dock named => exact .dock named
  | inspect task drive named => exact .inspect task drive named

/-! Driving. -/

/-- Acquiring the permission for a drive leaves what the request leaves. -/
theorem acquire_run (d : DriveData) (rt : Runtime ε) :
    (acquire svc d rt).2 = (requestMotionPermission svc rt).2 := by
  unfold acquire
  rcases request : requestMotionPermission svc rt with ⟨e | perm, rt'⟩
  · rw [bind_error request]
  · rw [bind_ok request]
    rfl

theorem acquire_after (d : DriveData) :
    (onRt (acquire svc d)).after = (onRt (requestMotionPermission svc)).after := by
  funext m
  simp only [Proc.after, onRt_run, acquire_run]

private theorem atoms_driveLoop (drives : ∃ name ∈ drivingIntents, P name) (goal : Pose)
    (budget : Nat) (d : DriveData) : (driveLoop svc goal budget d).Atoms (HandlerStep svc reg P) := by
  induction budget generalizing d with
  | zero => exact Coroutine.atoms_pure _
  | succ budget ih =>
    refine Coroutine.atoms_bind (Coroutine.atoms_atomically (.tick goal d drives)) fun ⟨ended, d'⟩ => ?_
    cases ended with
    | none => exact ih d'
    | some status => exact Coroutine.atoms_pure _

private theorem atoms_navigateActions (drives : ∃ name ∈ drivingIntents, P name) (goal : Pose) :
    ∀ a ∈ navigateActions svc goal, ∀ d, (a.body d).Atoms (HandlerStep svc reg P) := by
  intro a member d
  simp only [navigateActions, List.mem_cons, List.not_mem_nil, or_false] at member
  rcases member with rfl | rfl | rfl
  · refine Coroutine.atoms_atomically ?_
    rw [acquire_after]
    exact .request drives
  · exact Coroutine.atoms_atomically (.enterActive d drives)
  · exact atoms_driveLoop drives goal _ d

private theorem atoms_driveTo (drives : ∃ name ∈ drivingIntents, P name) (goal : Pose) (label : PyVal)
    (taskId : String) : (driveTo svc goal label taskId).Atoms (HandlerStep svc reg P) := by
  refine Coroutine.atoms_bind (Coroutine.atoms_atomically (.note taskId _)) fun _ => ?_
  refine Coroutine.atoms_bind (Coroutine.atoms_atomically (.note taskId _)) fun _ => ?_
  refine Coroutine.atoms_bind (atoms_runTree (atoms_navigateActions drives goal) _ _)
    fun ⟨status, _, d⟩ => ?_
  refine Coroutine.atoms_bind (Coroutine.atoms_atomically (.endDrive d.held drives)) fun _ => ?_
  exact Coroutine.atoms_ite (fun _ => Coroutine.atoms_pure _) fun _ => Coroutine.atoms_pure _

/-! Handlers. -/

private theorem atoms_resolve (dest : PyVal) :
    (atomically (onRt (outside (svc.resolve dest)))).Atoms (HandlerStep svc reg P) :=
  Coroutine.atoms_atomically (.resolve dest)

private theorem atoms_hNavigate (named : P "navigation.navigate_to") (task : Task) :
    (hNavigate svc task).Atoms (HandlerStep svc reg P) := by
  have drives : ∃ name ∈ drivingIntents, P name := ⟨_, by simp [drivingIntents], named⟩
  refine Coroutine.atoms_bind (atoms_resolve _) fun place => ?_
  cases place with
  | none => exact Coroutine.atoms_pure _
  | some goal =>
    exact Coroutine.atoms_bind (atoms_driveTo drives goal _ _) fun _ => Coroutine.atoms_pure _

private theorem atoms_hGoCharge (named : P "navigation.go_charge") (task : Task) :
    (hGoCharge svc task).Atoms (HandlerStep svc reg P) := by
  have drives : ∃ name ∈ drivingIntents, P name := ⟨_, by simp [drivingIntents], named⟩
  refine Coroutine.atoms_bind (atoms_resolve _) fun place => ?_
  cases place with
  | none => exact Coroutine.atoms_pure _
  | some goal =>
    refine Coroutine.atoms_bind (atoms_driveTo drives goal _ _) fun ⟨ok, _, _⟩ => ?_
    have docks : HandlerStep svc reg P (onRt (outside (if ok then dock svc else pure []))).after := by
      cases ok with
      | true => exact .dock named
      | false => exact .pass
    exact Coroutine.atoms_bind (Coroutine.atoms_atomically docks) fun _ => Coroutine.atoms_pure _

private theorem atoms_hInspect (named : P "inspect.named_target") (task : Task) :
    (hInspect svc task).Atoms (HandlerStep svc reg P) := by
  have drives : ∃ name ∈ drivingIntents, P name := ⟨_, by simp [drivingIntents], named⟩
  refine Coroutine.atoms_ite (fun _ => ?_) fun _ =>
    Coroutine.atoms_atomically (.inspect task [] named)
  refine Coroutine.atoms_bind (atoms_resolve _) fun place => ?_
  cases place with
  | none => exact Coroutine.atoms_pure _
  | some goal =>
    refine Coroutine.atoms_bind (atoms_driveTo drives goal _ _) fun ⟨ok, drive, _⟩ => ?_
    exact Coroutine.atoms_ite
      (fun _ => Coroutine.atoms_atomically (.inspect task drive named))
      fun _ => Coroutine.atoms_pure _

/-- Every handler runs steps of its own intent only. -/
private theorem atoms_handlers (task : Task) : ∀ entry ∈ handlers svc reg, task.intent = entry.1 →
    P entry.1 → (entry.2 task).Atoms (HandlerStep svc reg P) := by
  have tool (listed : task.intent ∈ toolIntents) (named : P task.intent) :
      (atomically (hTool svc task)).Atoms (HandlerStep svc reg P) :=
    Coroutine.atoms_atomically (.tool task named listed)
  intro entry member same named
  simp only [handlers, List.mem_cons, List.not_mem_nil, or_false] at member
  rcases member with rfl | rfl | rfl | rfl | rfl | rfl | rfl | rfl | rfl | rfl | rfl | rfl | rfl |
    rfl | rfl | rfl | rfl | rfl | rfl | rfl | rfl | rfl | rfl
  · exact Coroutine.atoms_atomically (.status task)
  · exact tool (by simp [same, toolIntents]) (same ▸ named)
  · exact tool (by simp [same, toolIntents]) (same ▸ named)
  · exact Coroutine.atoms_atomically (.diagnostics task (same ▸ named) same)
  · exact Coroutine.atoms_atomically (.explain task)
  · exact tool (by simp [same, toolIntents]) (same ▸ named)
  · exact tool (by simp [same, toolIntents]) (same ▸ named)
  · exact tool (by simp [same, toolIntents]) (same ▸ named)
  · exact Coroutine.atoms_atomically (.stop task)
  · exact Coroutine.atoms_atomically (.estop task)
  · exact Coroutine.atoms_atomically (.cancel task named)
  · exact Coroutine.atoms_atomically .pass
  · exact Coroutine.atoms_atomically (.safeIdle task named)
  · exact atoms_hNavigate named task
  · exact atoms_hGoCharge named task
  · exact atoms_hInspect named task
  · exact tool (by simp [same, toolIntents]) (same ▸ named)
  · exact tool (by simp [same, toolIntents]) (same ▸ named)
  · exact tool (by simp [same, toolIntents]) (same ▸ named)
  · exact tool (by simp [same, toolIntents]) (same ▸ named)
  · exact tool (by simp [same, toolIntents]) (same ▸ named)
  · exact Coroutine.atoms_atomically .pass
  · exact Coroutine.atoms_atomically (.shutdown task named)

/-- A handler runs none but its own steps: it starts, ends and records no task. -/
theorem handler_steps {task : Task} (named : P task.intent) :
    (handlerFor svc reg task.intent task).Atoms (HandlerStep svc reg P) := by
  unfold handlerFor
  rcases found : (handlers svc reg).lookup task.intent with _ | handler
  · exact Coroutine.atoms_pure _
  · have entry : (task.intent, handler) ∈ handlers svc reg := by
      obtain ⟨front, back, split, -⟩ := List.lookup_eq_some_iff.mp found
      simp [split]
    exact atoms_handlers task _ entry rfl named

theorem atoms_handlerFor {task : Task} (named : P task.intent) :
    (handlerFor svc reg task.intent task).Atoms (TaskStep svc reg P) :=
  Coroutine.atoms_mono (handler_steps named) fun _ => HandlerStep.task

/-! Running an intent. -/

/-- The task that is started is the intent's. -/
theorem startTask_intent {intent : StructuredIntent} {user : String} {m : Brain ε} {task : Task}
    (started : (onRt (startTask svc intent user) m).1 = .ok task) : task.intent = intent.intent := by
  rw [onRt_run] at started
  unfold startTask at started
  rcases arguments : intent.arguments.toDict with e | items <;> rw [arguments] at started
  · cases started
  · simp only [bind_run, ofExcept_run, reads_run, modify_run, outside_run] at started
    rcases emitted : (svc.emit (startRecord intent user (taskIdOf m.rt.nextTask)) m.rt.env).1 with
      e | _ <;> rw [emitted] at started
    · cases started
    · cases started
      rfl

theorem atoms_runIntent {intent : StructuredIntent} (allowed : P intent.intent) (user : String) :
    (runIntent svc reg intent user).Atoms (TaskStep svc reg P) := by
  refine Coroutine.atoms_atomically_bind (.start intent user allowed) fun m task started => ?_
  have named : task.intent = intent.intent := startTask_intent started
  rw [← named] at allowed ⊢
  refine Coroutine.atoms_bind (Coroutine.atoms_attempt (atoms_handlerFor allowed)) fun _ => ?_
  exact Coroutine.atoms_atomically (.finish task user _ allowed)

/-! Language requests. -/

/-- The broker approves no intent outside `P` for the user. -/
def ApprovesFor (svc : Services ε) (reg : Registry (Runtime ε)) (user : User) (P : String → Prop) : Prop :=
  ∀ {intent : StructuredIntent} {confirmed : Bool} {m : Brain ε} {d : BrokerDecision},
    (validate svc reg intent user confirmed m).1 = .ok d → d.outcome = .approved → P d.intent.intent

/-- The broker approves no intent outside `P` for the user, with or without this confirmation. -/
def ApprovesAt (svc : Services ε) (reg : Registry (Runtime ε)) (user : User) (confirmed : Bool)
    (P : String → Prop) : Prop :=
  ∀ {intent : StructuredIntent} {m : Brain ε} {d : BrokerDecision},
    (validate svc reg intent user confirmed m).1 = .ok d → d.outcome = .approved → P d.intent.intent

/-- The broker approves no intent outside `P`. -/
def Approves (svc : Services ε) (reg : Registry (Runtime ε)) (P : String → Prop) : Prop :=
  ∀ {intent : StructuredIntent} {user : User} {confirmed : Bool} {m : Brain ε} {d : BrokerDecision},
    (validate svc reg intent user confirmed m).1 = .ok d → d.outcome = .approved → P d.intent.intent

variable {lang : LanguageService}

private theorem atoms_execute {decision : BrokerDecision} (allowed : P decision.intent.intent)
    (user : User) (degraded : Bool) :
    (execute svc reg lang decision user degraded).Atoms (TaskStep svc reg P) := by
  refine Coroutine.atoms_bind (Coroutine.atoms_attempt (atoms_runIntent allowed user.name))
    fun outcome => ?_
  cases outcome with
  | ok result =>
    exact Coroutine.atoms_bind (Coroutine.atoms_atomically .pass) fun _ => Coroutine.atoms_pure _
  | error e =>
    exact Coroutine.atoms_ite (fun _ => Coroutine.atoms_pure _)
      fun _ => Coroutine.atoms_atomically .pass

private theorem atoms_dispatch {user : User} {confirmed : Bool} (approved : ApprovesAt svc reg user confirmed P)
    (intent : StructuredIntent) (degraded : Bool) :
    (dispatch svc reg lang intent user confirmed degraded).Atoms (TaskStep svc reg P) := by
  refine Coroutine.atoms_atomically_bind (.validate intent user confirmed) fun m decision decided => ?_
  refine Coroutine.atoms_bind (Coroutine.atoms_atomically (.emit _)) fun _ => ?_
  cases outcome : decision.outcome with
  | confirm => exact Coroutine.atoms_pure _
  | rejected => exact Coroutine.atoms_pure _
  | approved => exact atoms_execute (approved decided outcome) user degraded

private theorem atoms_processFresh {r : Request}
    (approved : ApprovesAt svc reg (lang.authorizer.resolve r.user) r.confirmed P) (chain : List Provider) :
    (processFresh svc reg lang r chain).Atoms (TaskStep svc reg P) := by
  refine Coroutine.atoms_bind (Coroutine.atoms_atomically .pass) fun intent => ?_
  refine Coroutine.atoms_bind (Coroutine.atoms_atomically (.emit _)) fun _ => ?_
  exact atoms_dispatch approved intent _

/-- A request that answers no prompt runs what the broker approves as it is confirmed. -/
theorem atoms_fresh {r : Request} (fresh : r.pending = none)
    (approved : ApprovesAt svc reg (lang.authorizer.resolve r.user) r.confirmed P) :
    (process svc reg lang r).Atoms (TaskStep svc reg P) := by
  unfold process
  rw [fresh]
  exact atoms_processFresh approved _

/-- A language request runs nothing else, whatever the providers answer. -/
theorem atoms_process {r : Request} (approved : ApprovesFor svc reg (lang.authorizer.resolve r.user) P) :
    (process svc reg lang r).Atoms (TaskStep svc reg P) := by
  cases answering : r.pending with
  | none => exact atoms_fresh answering approved
  | some pending =>
    unfold process
    rw [answering]
    refine Coroutine.atoms_ite (fun _ => atoms_dispatch approved pending _) fun _ => ?_
    exact Coroutine.atoms_ite (fun _ => Coroutine.atoms_pure _) fun _ => atoms_processFresh approved _

end DroidOs.System.TaskSteps
