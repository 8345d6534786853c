/- GID: DroidOs/System/StateGraph
   generality: I
   source: src/droidos/core/states.py, src/droidos/services/supervisor.py
   digest: Which operations change the system state along its graph, and which do not. -/

import DroidOs.Services.Readiness
import DroidOs.System.LatchLaw

set_option autoImplicit false
set_option relaxedAutoImplicit false

namespace DroidOs.System.StateGraph

open DroidOs.Lib.Procedure DroidOs.Lib.Interleaving
open DroidOs.Lib.Interleaving.Coroutine (atomically Guard)
open DroidOs.Core.Values DroidOs.Core.States DroidOs.Core.Context
open DroidOs.Services.Lifecycle DroidOs.Services.HookLaw
open DroidOs.Services.SafetyGateway DroidOs.Services.Supervisor DroidOs.Services.Readiness
open DroidOs.Executive.Drive DroidOs.Executive.RunIntent
open DroidOs.Language.Intent
open DroidOs.Backends.Simulation
open Registration TaskLaw Operations Simulated Boot StepLaw LatchLaw

/-! Lawful changes. -/

/-- No change, an edge of the graph, or the entry into the emergency stop. -/
def Change (src dst : DroidState) : Prop :=
  dst = src ∨ dst ∈ src.transitions ∨ dst = .emergencyStopped

instance (src dst : DroidState) : Decidable (Change src dst) := by
  unfold Change
  infer_instance

/-- A state machine whose every change has been lawful. -/
inductive Lawful : StateMachine → Prop
  | start : Lawful {}
  | enter {m : StateMachine} {dst : DroidState} (reason : String) :
      Lawful m → Change m.state dst → Lawful (m.enter dst reason)

/-- What the changes of a lawful machine look like in its history. -/
structure Orderly (history : List (DroidState × DroidState × String)) : Prop where
  changes : ∀ c ∈ history, Change c.1 c.2.1
  stopped : ∀ c ∈ history, c.1 = .emergencyStopped → c.2.1 ≠ .emergencyStopped →
    c.2.1 = .recovery ∨ c.2.1 = .shuttingDown
  powered : ∀ c ∈ history, c.1 = .emergencyStopped ∨ c.1 = .poweredOff →
    c.2.1 ∉ DroidState.motionAllowedFrom

theorem Lawful.changes {m : StateMachine} (lawful : Lawful m) : ∀ c ∈ m.history, Change c.1 c.2.1 := by
  induction lawful with
  | start => simp
  | enter reason lawful change ih =>
    intro c member
    rcases List.mem_append.mp member with old | new
    · exact ih c old
    · obtain rfl := List.mem_singleton.mp new
      exact change

private theorem change_from_stop {dst : DroidState} (change : Change .emergencyStopped dst)
    (leaves : dst ≠ .emergencyStopped) : dst = .recovery ∨ dst = .shuttingDown := by
  revert change leaves
  cases dst <;> decide

private theorem change_without_motion {src dst : DroidState}
    (from_ : src = .emergencyStopped ∨ src = .poweredOff) (change : Change src dst) :
    dst ∉ DroidState.motionAllowedFrom := by
  rcases from_ with rfl | rfl <;> revert change <;> cases dst <;> decide

theorem Lawful.orderly {m : StateMachine} (lawful : Lawful m) : Orderly m.history where
  changes := lawful.changes
  stopped := by
    rintro ⟨src, dst, reason⟩ member rfl leaves
    exact change_from_stop (lawful.changes _ member) leaves
  powered c member start := change_without_motion start (lawful.changes c member)

variable {ε ι : Type} {svc : Services ε} {world : ι → ε → ε} {G : Guard (Brain ε)}

/-! Transitions and forced changes. -/

private theorem lawful_transition (dst : DroidState) (reason : String) :
    Keeps (fun rt : Runtime ε => Lawful rt.machine) (transition dst reason) := by
  refine keeps_iff.mpr fun rt lawful => ?_
  unfold transition StateMachine.transition
  split
  · rename_i machine taken
    split at taken
    · cases taken
      exact lawful
    split at taken
    · rename_i legal
      cases taken
      exact lawful.enter reason (Or.inr (Or.inl (by simpa [StateMachine.canTransition] using legal)))
    · cases taken
  · exact lawful

private theorem lawful_force {dst : DroidState} (reason : String) {rt : Runtime ε}
    (lawful : Lawful rt.machine) (change : Change rt.machine.state dst) :
    Lawful (force dst reason rt).2.machine :=
  lawful.enter _ change

/-- Settling is lawful if the target is. -/
private theorem lawful_settle {target : DroidState} {rt : Runtime ε} (lawful : Lawful rt.machine)
    (change : Change rt.machine.state target) : Lawful (settle target rt).2.machine := by
  unfold settle
  rw [reads_bind]
  split
  · exact lawful
  split
  · exact (lawful_transition target _).after lawful
  · exact lawful_force _ lawful change

/-! What leaves the state machine alone. -/

/-- No primitive step but a transition touches the state machine. -/
theorem machine_primitives (J : StateMachine → Prop) :
    Primitives svc (fun rt => J rt.machine) fun _ => True where
  quiet _ := keeps_iff.mpr fun _ holds => holds
  off := keeps_iff.mpr fun _ holds => holds
  lower _ _ holds := holds
  beside _ _ holds beside := beside.machine ▸ holds

/-- An e-stop touches the machine only where it forces it. -/
theorem machine_engage {J : StateMachine → Prop} (reason : String)
    (forced : Keeps (fun rt : Runtime ε => J rt.machine) (force .emergencyStopped ("estop: " ++ reason))) :
    Keeps (fun rt => J rt.machine) (engageEstop svc reason) := by
  have prims : Primitives svc (fun rt => J rt.machine) fun _ => True := machine_primitives J
  refine keeps_bind (prims.keeps_controller (lowers_engageEstop reason)) fun _ => ?_
  refine keeps_bind prims.off fun _ => keeps_bind (keeps_modify fun _ holds => holds) fun _ => ?_
  refine keeps_bind (prims.keeps_log _ _) fun _ => keeps_bind forced fun _ => ?_
  exact keeps_modify fun _ holds => holds

theorem machine_reset (J : StateMachine → Prop) : Keeps (fun rt => J rt.machine) (resetEstop svc) := by
  have prims : Primitives svc (fun rt => J rt.machine) fun _ => True := machine_primitives J
  refine keeps_bind (keeps_modify fun _ holds => holds) fun _ => ?_
  refine keeps_bind (keeps_modify fun _ holds => holds) fun _ => ?_
  refine keeps_bind (prims.keeps_log _ _) fun _ => ?_
  exact keeps_bind (keeps_modify fun _ holds => holds) fun _ => keeps_pure _

theorem machine_request (J : StateMachine → Prop) :
    Keeps (fun rt => J rt.machine) (requestMotionPermission svc) := by
  refine keeps_iff.mpr fun rt holds => (machine_primitives J).request_holds holds fun _ => ?_
  have granting : Keeps (fun rt : Runtime ε => J rt.machine) (grantPermission svc) := by
    refine keeps_bind (keeps_iff.mpr fun _ holds => holds) fun _ => keeps_bind (keeps_reads _) fun _ => ?_
    refine keeps_bind (keeps_modify fun _ holds => holds) fun _ => ?_
    exact keeps_bind ((machine_primitives J).keeps_log _ _) fun _ => keeps_pure _
  exact granting.after holds

/-! The operations. -/

/-- Where a refresh goes along the graph: under an e-stop, if the assessment raises, and in
the states whose edges lead to what it can find there. -/
def MaySettle (svc : Services ε) (reg : Registry (Runtime ε)) (m : Brain ε) : Prop :=
  m.rt.controller.estop = true ∨ (∃ e, (hardwareReasons svc m.rt.env).1 = .error e) ∨
    match m.rt.machine.state with
    | .safeIdle | .ready | .active | .degraded => True
    | .motionInhibited =>
      Fit svc reg m → ∀ degraded, (hardwareReasons svc m.rt.env).1 = .ok ([], degraded) → degraded = []
    | .hardwareCheck => ¬ Fit svc reg m
    | _ => False

/-- Where a shutdown does. -/
def MayShutDown (m : Brain ε) : Prop :=
  m.rt.machine.state ≠ .poweredOff ∧ m.rt.machine.state ≠ .hardwareCheck

/-- What the steps that force a change have to find. -/
def lawfulGuard (svc : Services ε) : Guard (Brain ε) := fun m step =>
  (step = (refresh svc (droidServices svc)).after → MaySettle svc (droidServices svc) m) ∧
  (step = (requestShutdown svc (droidServices svc)).after → MayShutDown m) ∧
  ∀ task, step = (hShutdown svc (droidServices svc) task).after → MayShutDown m

private theorem change_to_shutdown_iff (m : Brain ε) :
    Change m.rt.machine.state .shuttingDown ↔ MayShutDown m := by
  unfold MayShutDown
  cases m.rt.machine.state <;> decide

/-- The states that an unstopped droid may settle in, for the reasons that are found. -/
private theorem change_to_verdict_iff (src : DroidState) (inhibit degraded : List String) :
    Change src (verdict inhibit degraded).state ↔ match src with
      | .safeIdle | .ready | .active | .degraded => True
      | .motionInhibited => inhibit = [] → degraded = []
      | .hardwareCheck => inhibit ≠ []
      | _ => False := by
  cases inhibit <;> cases degraded <;> cases src <;> simp [verdict, Change, DroidState.transitions]

/-- These are exactly the states in which the state that is found may be entered. -/
theorem maySettle_iff {reg : Registry (Runtime ε)} (safety : hasSafety reg = true) (m : Brain ε) :
    MaySettle svc reg m ↔
      ∀ r, (assessReadiness svc reg m).1 = .ok r → Change m.rt.machine.state r.state := by
  cases engaged : m.rt.controller.estop with
  | true =>
    rw [assess_stopped safety engaged]
    simp [MaySettle, engaged, Change]
  | false =>
    have fit := @assess_allowed_iff _ svc _ safety m
    rw [assess_free safety engaged, finding] at fit ⊢
    unfold MaySettle
    rcases hardware : (hardwareReasons svc m.rt.env).1 with e | ⟨inhibit, degraded⟩
    · simp [Except.map]
    · simp only [hardware, Except.map, Except.ok.injEq, exists_eq_left', verdict_allowed_iff] at fit
      simp only [Except.map, Except.ok.injEq, forall_eq', change_to_verdict_iff, ← fit, engaged]
      simp

private theorem lawful_refresh {reg : Registry (Runtime ε)} (safety : hasSafety reg = true)
    {m : Brain ε} (lawful : Lawful m.rt.machine) (may : MaySettle svc reg m) :
    Lawful (refresh svc reg m).2.rt.machine := by
  have finds := (maySettle_iff safety m).mp may
  have settled (r : Readiness) : Triple
      (fun m : Brain ε => Lawful m.rt.machine ∧ Change m.rt.machine.state r.state)
      (do
        onRt (modify fun rt => { rt with readiness := r })
        onRt (settle r.state)
        return r)
      (fun _ m => Lawful m.rt.machine) (fun _ m => Lawful m.rt.machine) := by
    have noted : Keeps (fun m : Brain ε => Lawful m.rt.machine ∧ Change m.rt.machine.state r.state)
        (onRt (modify fun rt => { rt with readiness := r })) := keeps_iff.mpr fun _ holds => holds
    refine Triple.bind (noted.triple fun _ _ holds => holds.1) fun _ => ?_
    refine Triple.bind (triple_of_after fun m holds => lawful_settle holds.1 holds.2) fun _ => ?_
    exact Triple.pure fun _ lawful => lawful
  obtain ⟨controller, env, ended⟩ := @assess_keeps _ svc _ safety m
  unfold refresh
  rcases run : assessReadiness svc reg m with ⟨e | r, m'⟩ <;> rw [run] at ended <;>
    dsimp only at ended <;> subst ended
  · rw [bind_error run]
    exact lawful
  · rw [bind_ok run]
    exact (settled r).after ⟨lawful, finds r (by rw [run])⟩

/-- The services' shutdown hooks do not touch the state machine, so it goes from shutting
down to powered off. -/
private theorem lawful_requestShutdown {reg : Registry (Runtime ε)}
    (hooks : ∀ (J : StateMachine → Prop), ∀ spec ∈ reg.services, KeepsHooks (fun rt => J rt.machine) spec)
    {m : Brain ε} (lawful : Lawful m.rt.machine) (may : MayShutDown m) :
    Lawful (requestShutdown svc reg m).2.rt.machine := by
  let closing : Brain ε → Prop := fun m => Lawful m.rt.machine ∧ m.rt.machine.state = .shuttingDown
  have closes : Triple closing
      (do
        forEach reg.services.reverse shutdown
        onRt (outside svc.shutdown)
        onRt (force .poweredOff "shutdown complete"))
      (fun _ m => Lawful m.rt.machine) (fun _ m => Lawful m.rt.machine) := by
    have stops : Keeps closing (forEach reg.services.reverse shutdown) :=
      keeps_forEach fun spec member => by
        have keeps := hooks (fun machine => Lawful machine ∧ machine.state = .shuttingDown) spec
          (List.mem_reverse.mp member)
        exact keeps_shutdown (keeps .onDeactivate) (keeps .onCleanup)
    have outer : Keeps closing (onRt (outside svc.shutdown)) := keeps_iff.mpr fun _ holds => holds
    refine Triple.bind (stops.triple fun _ _ holds => holds.1) fun _ => ?_
    refine Triple.bind (outer.triple fun _ _ holds => holds.1) fun _ => ?_
    refine triple_of_after fun m ⟨lawful, closing⟩ => lawful_force _ lawful ?_
    rw [closing]
    decide
  unfold requestShutdown
  rw [reads_bind]
  split
  · rw [bind_ok (onRt_run _ _)]
    exact closes.after ⟨lawful_force _ lawful ((change_to_shutdown_iff m).mpr may), rfl⟩
  · rename_i already
    exact closes.after ⟨lawful, not_not.mp already⟩

private theorem lawful_hooks (J : StateMachine → Prop) :
    ∀ spec ∈ (droidServices svc).services, KeepsHooks (fun rt => J rt.machine) spec :=
  (machine_primitives J).keepsHooks

private theorem lawful_safeIdle (task : Task) :
    Keeps (fun m : Brain ε => Lawful m.rt.machine) (hSafeIdle svc task) := by
  have prims : Primitives svc (fun rt => Lawful rt.machine) fun _ => True := machine_primitives Lawful
  have idle : Keeps (fun rt : Runtime ε => Lawful rt.machine) enterSafeIdle :=
    keeps_bind (keeps_reads _) fun _ => keeps_ite (fun _ => lawful_transition _ _) fun _ => keeps_pure _
  refine keeps_bind (keeps_onRt_of prims.keeps_release) fun _ => keeps_bind (keeps_onRt_of idle) fun _ => ?_
  exact keeps_bind (keeps_reads _) fun _ => keeps_pure _

/-- Every operation changes the state lawfully if the steps that force a change find what
they must. -/
theorem lawful_upholds :
    Upholds svc world (lawfulGuard svc) (fun rt => Lawful rt.machine) fun _ => True := by
  have prims : Primitives svc (fun rt => Lawful rt.machine) fun _ => True := machine_primitives Lawful
  have moves : Moves (fun rt : Runtime ε => Lawful rt.machine) :=
    fun _ lawful _ dst reason _ => (lawful_transition dst reason).after lawful
  exact {
    toAttends := prims.attends
    core := fun _ _ holds same => prims.holds_core holds same
    start := fun _ user allowed => prims.keeps_start allowed user
    finish := fun _ user result allowed => prims.keeps_finish allowed user result
    request := fun _ holds _ => (machine_request Lawful).after holds
    enterActive := moves.keeps_enterActive
    endDrive := prims.keeps_endDrive moves
    engage := fun reason => machine_engage reason
      (keeps_iff.mpr fun rt lawful => lawful_force _ lawful (Or.inr (Or.inr rfl)))
    safeIdle := lawful_safeIdle
    shutdown := fun task m holds allowed => after_bind (I := fun m : Brain ε => Lawful m.rt.machine)
      (lawful_requestShutdown lawful_hooks holds (allowed.2.2 task rfl))
      fun _ => keeps_bind (keeps_reads _) fun _ => keeps_pure _
    reset := fun _ holds _ => (machine_reset Lawful).after holds
    close := fun _ holds allowed => lawful_requestShutdown lawful_hooks holds (allowed.2.1 rfl)
    fault := prims.keeps_fault
    release := prims.keeps_release
    link := prims.keeps_link
    refresh := fun _ holds allowed => lawful_refresh (droidServices_hasSafety svc) holds (allowed.1 rfl)
    configure := prims.keeps_onConfigure
    activate := prims.keeps_onActivate
    elapse := fun _ _ holds => holds
    happen := fun _ _ holds => holds }

/-! Booting. -/

/-- A transition that returns has led where it should. -/
private theorem entered_transition (dst : DroidState) (reason : String) :
    Triple (fun m : Brain ε => Lawful m.rt.machine) (onRt (transition dst reason))
      (fun _ m => Lawful m.rt.machine ∧ m.rt.machine.state = dst) (fun _ m => Lawful m.rt.machine) := by
  intro m lawful
  have kept := (lawful_transition dst reason).after lawful
  rw [onRt_run]
  unfold transition at kept ⊢
  rcases taken : m.rt.machine.transition dst reason with e | machine <;> rw [taken] at kept
  · exact kept
  · exact ⟨kept, StateMachine.transition_state taken⟩

section Boot

variable {reg : Registry (Runtime ε)}

private theorem lawful_report (J : StateMachine → Prop) (name : String) (ok : Bool) (detail : String) :
    Keeps (fun m : Brain ε => J m.rt.machine) (onRt (report name ok detail)) :=
  keeps_iff.mpr fun _ holds => holds

/-- What follows the services' start assesses the droid in safe idle. -/
private theorem lawful_bootEnd (safety : hasSafety reg = true) :
    Keeps (fun m : Brain ε => Lawful m.rt.machine) (do
      onRt (transition .safeIdle "boot checks complete")
      onRt (report "enter_safe_idle" true "")
      let readiness ← refresh svc reg
      onRt (report "assess_readiness" true readiness.state.value)
      return readiness) := by
  have noted := lawful_report (ε := ε) (fun machine => Lawful machine ∧ machine.state = .safeIdle)
    "enter_safe_idle" true ""
  refine Triple.bind (entered_transition _ _) fun _ => ?_
  refine Triple.bind (noted.triple fun _ _ holds => holds.1) fun _ => ?_
  refine Triple.bind (triple_of_after fun m ⟨lawful, idle⟩ => lawful_refresh safety lawful ?_) fun _ => ?_
  · simp [MaySettle, idle]
  · exact keeps_bind (lawful_report Lawful _ _ _) fun _ => keeps_pure _

/-- A boot changes the state lawfully, whenever it is asked for. -/
theorem lawful_boot (safety : hasSafety reg = true)
    (hooks : ∀ (J : StateMachine → Prop), ∀ spec ∈ reg.services, KeepsHooks (fun rt => J rt.machine) spec) :
    Keeps (fun m : Brain ε => Lawful m.rt.machine) (boot svc reg) := by
  let good : Brain ε → Prop := fun m => Lawful m.rt.machine
  have moved (dst : DroidState) (reason : String) : Keeps good (onRt (transition dst reason)) :=
    keeps_onRt_of (lawful_transition dst reason)
  have noted (name : String) (ok : Bool) (detail : String) : Keeps good (onRt (report name ok detail)) :=
    lawful_report Lawful name ok detail
  have started (name : String) : Keeps good (startService reg name) := by
    refine keeps_ite (fun _ => keeps_pure _) fun _ => ?_
    split
    · exact keeps_pure _
    · next spec found =>
      have member := (Registry.find_some found).1
      refine keeps_bind (fun m holds => activateWithDeps_holds (hooks Lawful) member holds) fun _ => ?_
      refine keeps_bind (keeps_reads _) fun _ => keeps_bind (noted _ _ _) fun _ => ?_
      exact keeps_ite (fun _ => keeps_modify fun _ holds => holds) fun _ => keeps_pure _
  have drivers : Keeps good (onRt (startDrivers svc)) := by
    refine keeps_onRt_of (P := fun rt : Runtime ε => Lawful rt.machine) ?_
    refine keeps_bind (keeps_iff.mpr fun _ holds => holds) fun outcome => ?_
    cases outcome <;> exact keeps_iff.mpr fun _ holds => holds
  have contacted : Keeps good (bootAfterContact svc reg) := by
    refine keeps_bind (keeps_reads _) fun _ => keeps_bind (noted _ _ _) fun _ => ?_
    refine keeps_bind (moved _ _) fun _ => keeps_bind (keeps_iff.mpr fun _ holds => holds) fun _ => ?_
    refine keeps_bind drivers fun _ => keeps_bind (keeps_forEach fun name _ => started name) fun _ => ?_
    exact lawful_bootEnd safety
  have cleared : Keeps good (onRt (modify fun rt => { rt with bootReport := [] })) :=
    keeps_iff.mpr fun _ holds => holds
  refine keeps_bind cleared fun _ => keeps_bind (moved _ _) fun _ => ?_
  refine keeps_bind (noted _ _ _) fun _ => keeps_bind (noted _ _ _) fun _ => ?_
  refine keeps_bind (noted _ _ _) fun _ => keeps_bind (noted _ _ _) fun _ => ?_
  split
  · rename_i missing
    simp [hasSafety, Registry.has, missing] at safety
  · next spec found =>
    have member := (Registry.find_some found).1
    refine keeps_bind (fun m holds => activate_holds (hooks Lawful spec member) holds) fun _ => ?_
    refine keeps_bind (keeps_reads _) fun _ => keeps_bind (noted _ _ _) fun _ => ?_
    exact keeps_bind (noted _ _ _) fun _ => contacted

end Boot

/-! Runs. -/

/-- A boot, or an operation. -/
inductive Act (ι : Type)
  | boot
  | operation (op : Operation ι)

def Act.code (svc : Services ε) (world : ι → ε → ε) : Act ι → Coroutine (Brain ε) Exn Unit
  | .boot => (atomically (DroidOs.Services.Supervisor.boot svc (droidServices svc))).void
  | .operation op => Operations.code svc world op

/-- A process in which nothing has been asked for yet. -/
def newPool (now : ℚ) (latch : LatchFile) (env : ε) : Pool (Brain ε) Exn where
  state := { rt := newRuntime now latch env }
  threads := []

private theorem lawful_code (act : Act ι) :
    (act.code svc world).Keeps (lawfulGuard svc) fun m => Lawful m.rt.machine := by
  cases act with
  | boot =>
    exact Coroutine.keeps_void
      (Coroutine.keeps_atomically (lawful_boot (droidServices_hasSafety svc) lawful_hooks))
  | operation op => exact lawful_upholds.keeps_code (fun _ _ => trivial) fun _ _ _ => trivial

/-- In every run of the operations, boots and drives step by step, whose refreshes and
shutdowns find a state that they may start from, every change of the state is lawful. -/
theorem changes_lawful (svc : Services ε) (world : ι → ε → ε) (now : ℚ) (latch : LatchFile) (env : ε)
    {moves : List (Move (Act ι))}
    (allowed : AllowedRun (lawfulGuard svc) (Act.code svc world) (newPool now latch env) moves) :
    Orderly (runMoves (Act.code svc world) (newPool now latch env) moves).state.rt.machine.history := by
  have threads : (newPool now latch env).Keeps (lawfulGuard svc) fun m => Lawful m.rt.machine := by
    intro c member
    cases member
  have lawful := state_runMoves threads Lawful.start lawful_code allowed
  exact lawful.orderly

/-- A first boot leads to the booted system. -/
theorem state_booted (now : ℚ) (latch : LatchFile) (env : ε) :
    (move (Act.code svc world) (move (Act.code svc world) (newPool now latch env) (.start .boot))
      (.resume 0)).state = booted svc (newRuntime now latch env) := by
  have booting : (move (Act.code svc world) (newPool now latch env) (.start .boot)).threads[0]? =
      some (.atom (boot svc (droidServices svc)).after fun _ => _) := rfl
  rw [state_resume booting]
  rfl

/-! A droid that is stopped and reset. -/

/-- The acts, one after the other. -/
def inTurn (acts : List (Act ι)) : List (Move (Act ι)) :=
  acts.zipIdx.flatMap fun (act, thread) => [.start act, .resume thread]

/-- The world of the droid in the hallway before it boots. -/
def hallwayWorld : SimWorld Unit where
  backend := SimulationBackend.new wheeled
  store := ()

/-- The state changes of the droid in the hallway after these acts. -/
def hallwayChanges (acts : List (Act (SimEvent Unit))) : List (DroidState × DroidState × String) :=
  (runMoves (Act.code (simulated hallwayDroid) happening)
    (newPool 0 .missing hallwayWorld) (inTurn acts)).state.rt.machine.history

/-- A refresh after the reset forces the stopped droid to be ready. -/
theorem stopped_forced_ready : ¬ Orderly (hallwayChanges
    [.boot, .operation (.engageEstop "test"), .operation .resetEstop, .operation .refresh]) := by
  intro orderly
  have last : (.emergencyStopped, .ready, "FORCED: readiness settle") ∈ hallwayChanges
      [.boot, .operation (.engageEstop "test"), .operation .resetEstop, .operation .refresh] := by
    decide +kernel
  exact absurd (orderly.changes _ last) (by decide)

/-- A shutdown handler is a shutdown. -/
private theorem hShutdown_after (task : Task) :
    (hShutdown svc (droidServices svc) task).after = (requestShutdown svc (droidServices svc)).after := by
  funext m
  unfold Proc.after hShutdown
  rcases run : requestShutdown svc (droidServices svc) m with ⟨e | _, m'⟩
  · rw [bind_error run]
  · rw [bind_ok run]
    rfl

private theorem lawfulGuard_of {m : Brain ε} {step : Brain ε → Brain ε}
    (settles : step = (refresh svc (droidServices svc)).after → MaySettle svc (droidServices svc) m)
    (closes : step = (requestShutdown svc (droidServices svc)).after → MayShutDown m) :
    lawfulGuard svc m step :=
  ⟨settles, closes, fun task same => closes (same.trans (hShutdown_after task))⟩

/-- A boot, then a refresh of the ready droid. -/
theorem changes_lawful_at_boot : Orderly (hallwayChanges [.boot, .operation .refresh]) := by
  have ready : (booted (simulated hallwayDroid)
      (newRuntime 0 .missing hallwayWorld)).rt.machine.state = .ready := by decide +kernel
  refine changes_lawful (simulated hallwayDroid) happening 0 .missing _
    ⟨trivial, (allows_resume rfl).mpr ?_, trivial, (allows_resume rfl).mpr ?_, trivial⟩
  · -- the boot leaves a report, which neither a refresh nor a shutdown does
    refine lawfulGuard_of (fun same => ?_) fun same => ?_
    · have reports := congrArg (fun m => m.rt.bootReport.length) (congrFun same
        { rt := newRuntime 0 .missing hallwayWorld })
      exact absurd reports (by decide +kernel)
    · have reports := congrArg (fun m => m.rt.bootReport.length) (congrFun same
        { rt := newRuntime 0 .missing hallwayWorld })
      exact absurd reports (by decide +kernel)
  · rw [state_start, state_booted]
    refine lawfulGuard_of (fun _ => .inr (.inr ?_)) fun _ => ?_
    · rw [ready]
      trivial
    · rw [MayShutDown, ready]
      decide

end DroidOs.System.StateGraph
