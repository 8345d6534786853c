/- GID: DroidOs/System/PowerCopies
   generality: I
   source: src/droidos/services/safety_gateway.py
   digest: Exactly when the backend moves only with the controller's contactor closed. -/

import DroidOs.Lib.History
import DroidOs.Services.HookLaw
import DroidOs.System.Boot
import DroidOs.System.Simulated

set_option autoImplicit false
set_option relaxedAutoImplicit false

namespace DroidOs.System.PowerCopies

open DroidOs.Lib.Procedure DroidOs.Lib.History
open DroidOs.Core.Values DroidOs.Core.Context
open DroidOs.Backends.SafetyController DroidOs.Backends.Simulation
open DroidOs.Services.Lifecycle DroidOs.Services.HookLaw DroidOs.Services.SafetyGateway
open Simulated Boot

variable {δ : Type} (s : Surroundings δ)

/-- What the gateway is asked for, and the time that passes. -/
inductive GatewayOp
  | activate
  | heartbeat
  | status
  | healthy
  | estopEngaged
  | diagnostics
  | requestMotionPermission
  | releaseMotionPermission
  | engageEstop (reason : String)
  | resetEstop
  | reportFault (name : String)
  | setSafetyLink (up : Bool)
  | elapse (dt : ℚ)

abbrev Gateway (δ : Type) : Type := Managed (Runtime (SimWorld δ))

def step : GatewayOp → Gateway δ → Gateway δ
  | .activate => fun g => (activate (safetyGateway (simulated s)) g).2
  | .heartbeat => (onRt heartbeat).after
  | .status => (onRt status).after
  | .healthy => (onRt healthy).after
  | .estopEngaged => (onRt estopEngaged).after
  | .diagnostics => (onRt diagnostics).after
  | .requestMotionPermission => (onRt (requestMotionPermission (simulated s))).after
  | .releaseMotionPermission => (onRt (releaseMotionPermission (simulated s))).after
  | .engageEstop reason => (onRt (engageEstop (simulated s) reason)).after
  | .resetEstop => (onRt (resetEstop (simulated s))).after
  | .reportFault name => (onRt (reportFault (simulated s) name)).after
  | .setSafetyLink up => (onRt (setSafetyLink (simulated s) up)).after
  | .elapse dt => fun g => { g with rt := { g.rt with now := g.rt.now + dt } }

def run (g : Gateway δ) (ops : List GatewayOp) : Gateway δ := ops.foldl (fun g op => step s op g) g

/-- A new process, before its gateway is activated. -/
def newGateway (now : ℚ) (latch : LatchFile) (store : δ) : Gateway δ where
  rt := newRuntime now latch { backend := SimulationBackend.new s.body, store := store }

@[simp] theorem run_nil (g : Gateway δ) : run s g [] = g := rfl

@[simp] theorem run_snoc (g : Gateway δ) (ops : List GatewayOp) (op : GatewayOp) :
    run s g (ops ++ [op]) = step s op (run s g ops) := by
  simp [run]

variable {s}

/-- A moving backend goes with a closed contactor that nothing stands in the way of. -/
structure Sound (c : SimulatedSafetyController) : Prop where
  contactor : c.power = true
  estop : c.estop = false
  faults : c.faults = []
  link : c.linkUp = true

def InStep (rt : Runtime (SimWorld δ)) : Prop :=
  rt.env.backend.power = true → Sound rt.controller

/-- What an operation has to find for the two copies to stay in step: no link may be
lost, and no reading of the status without a heartbeat may come too late, while the
backend moves. -/
def Harmless (rt : Runtime (SimWorld δ)) : GatewayOp → Prop
  | .setSafetyLink false => rt.env.backend.power = false
  | .estopEngaged | .diagnostics | .resetEstop =>
    rt.env.backend.power = true → rt.controller.silent rt.now = false
  | _ => True

/-- In step, with a watchdog that tolerates a host that has just been heard. -/
structure Settled (rt : Runtime (SimWorld δ)) : Prop where
  inStep : InStep rt
  tolerant : ¬ rt.controller.watchdogTimeout < 0

theorem inStep_of_off {rt : Runtime (SimWorld δ)} (off : rt.env.backend.power = false) : InStep rt := by
  intro on
  rw [off] at on
  cases on

/-! Reading the status. -/

/-- The watchdog leaves a sound controller sound exactly when it has heard the host. -/
theorem sound_checkWatchdog_iff {c : SimulatedSafetyController} (sound : Sound c) (now : ℚ) :
    Sound (c.checkWatchdog now) ↔ c.silent now = false := by
  constructor
  · intro kept
    have power := kept.contactor
    rw [SimulatedSafetyController.checkWatchdog_power] at power
    simpa [sound.contactor, sound.link] using power
  · intro heard
    refine ⟨?_, by simp [sound.estop], by simp [sound.faults], by simp [sound.link]⟩
    rw [SimulatedSafetyController.checkWatchdog_power]
    simp [sound.contactor, sound.link, heard]

theorem sound_heartbeat {c : SimulatedSafetyController} (sound : Sound c) (now : ℚ) :
    Sound (c.heartbeat now) :=
  ⟨sound.contactor, sound.estop, sound.faults, sound.link⟩

/-- A host that has just been heard is not silent. -/
theorem heard_not_silent {c : SimulatedSafetyController} (tolerant : ¬ c.watchdogTimeout < 0) (now : ℚ) :
    (c.heartbeat now).silent now = false := by
  simp [SimulatedSafetyController.silent, SimulatedSafetyController.heartbeat, not_lt.mp tolerant]

theorem sound_contacted {rt : Runtime (SimWorld δ)} (sound : Sound rt.controller)
    (tolerant : ¬ rt.controller.watchdogTimeout < 0) : Sound (contacted rt) :=
  (sound_checkWatchdog_iff (sound_heartbeat sound _) _).mpr (heard_not_silent tolerant _)

/-! One operation. -/

theorem settled_status {rt : Runtime (SimWorld δ)} (settled : Settled rt) :
    Settled { rt with controller := contacted rt } where
  inStep on := sound_contacted (settled.inStep on) settled.tolerant
  tolerant := by simpa [contacted] using settled.tolerant

/-- A reading without a heartbeat, which may let the watchdog run out. -/
private theorem inStep_read_iff {rt : Runtime (SimWorld δ)} (settled : Settled rt) :
    InStep { rt with controller := rt.controller.checkWatchdog rt.now } ↔
      (rt.env.backend.power = true → rt.controller.silent rt.now = false) :=
  forall_congr' fun on => sound_checkWatchdog_iff (settled.inStep on) rt.now

private theorem settled_read {rt : Runtime (SimWorld δ)} (settled : Settled rt)
    (heard : rt.env.backend.power = true → rt.controller.silent rt.now = false) :
    Settled { rt with controller := rt.controller.checkWatchdog rt.now } where
  inStep := (inStep_read_iff settled).mpr heard
  tolerant := by simpa using settled.tolerant

/-- A permission closes the contactor before it lets the backend move. -/
private theorem settled_request {rt : Runtime (SimWorld δ)} (settled : Settled rt) :
    Settled (requestMotionPermission (simulated s) rt).2 := by
  cases grant : grants rt with
  | false =>
    rw [request_refused grant]
    exact settled_status settled
  | true =>
    have enabled := grants_mayEnable grant
    simp only [SimulatedSafetyController.mayEnable, Bool.and_eq_true, Bool.not_eq_true',
      List.isEmpty_iff] at enabled
    have heard : (contacted rt).silent rt.now = false := by
      have tolerant := heard_not_silent settled.tolerant rt.now
      unfold SimulatedSafetyController.silent at tolerant ⊢
      rw [contacted, SimulatedSafetyController.checkWatchdog_lastContact,
        SimulatedSafetyController.checkWatchdog_watchdogTimeout]
      exact tolerant
    rw [request_granted grant]
    refine ⟨fun _ => ?_, ?_⟩
    · refine (sound_checkWatchdog_iff (c := { contacted rt with power := true }) ?_ rt.now).mpr heard
      exact ⟨rfl, enabled.1.1.1, enabled.1.2, enabled.2⟩
    · change ¬ (SimulatedSafetyController.checkWatchdog rt.now _).watchdogTimeout < 0
      simpa [contacted] using settled.tolerant

private theorem settled_of_off {rt : Runtime (SimWorld δ)} (off : rt.env.backend.power = false)
    (tolerant : ¬ rt.controller.watchdogTimeout < 0) : Settled rt :=
  ⟨inStep_of_off off, tolerant⟩

private theorem settled_release {rt : Runtime (SimWorld δ)} (settled : Settled rt) :
    Settled (releaseMotionPermission (simulated s) rt).2 := by
  unfold releaseMotionPermission
  simp only [bind_run, onController_run, outside_run, simulated_setPower, reads_run]
  split
  · refine settled_of_off rfl ?_
    change ¬ (SimulatedSafetyController.checkWatchdog rt.now _).watchdogTimeout < 0
    rw [SimulatedSafetyController.checkWatchdog_watchdogTimeout]
    exact settled.tolerant
  · exact settled_of_off rfl settled.tolerant

private theorem settled_engage {rt : Runtime (SimWorld δ)} (settled : Settled rt) (reason : String) :
    Settled (engageEstop (simulated s) reason rt).2 := by
  refine settled_of_off rfl ?_
  change ¬ (SimulatedSafetyController.checkWatchdog rt.now _).watchdogTimeout < 0
  simpa using settled.tolerant

private theorem settled_fault {rt : Runtime (SimWorld δ)} (settled : Settled rt) (name : String) :
    Settled (reportFault (simulated s) name rt).2 := by
  refine settled_of_off rfl ?_
  change ¬ (SimulatedSafetyController.checkWatchdog rt.now _).watchdogTimeout < 0
  rw [SimulatedSafetyController.checkWatchdog_watchdogTimeout]
  exact settled.tolerant

/-- Loading the latch may stop a controller whose backend still moves, unless it raises. -/
private theorem loadLatch_ends : Triple Settled (loadLatch (simulated s))
    (fun _ rt => ¬ rt.controller.watchdogTimeout < 0) fun _ => Settled := by
  refine Triple.reads_bind fun file => ?_
  cases file with
  | missing => exact Triple.pure fun _ settled => settled.tolerant
  | unreadable => exact Triple.pure fun _ settled => settled.tolerant
  | undecodable => exact fun _ settled => settled
  | malformed => exact Triple.pure fun _ settled => settled.tolerant
  | document v =>
    refine Triple.bind (keeps_ofExcept _) fun engaged => ?_
    split
    · refine Triple.bind (keeps_ofExcept _) fun reason rt settled => ?_
      change ¬ (SimulatedSafetyController.engageEstop _ rt.controller).watchdogTimeout < 0
      simpa using settled.tolerant
    · exact Triple.pure fun _ settled => settled.tolerant

/-- Whatever the latch says, the activation switches both copies off. -/
private theorem settled_activate {g : Gateway δ} (settled : Settled g.rt) :
    Settled (activate (safetyGateway (simulated s)) g).2.rt := by
  refine activate_ends (fun _ settled => settled.tolerant) ?_ (fun rt between => ?_) settled
  · refine Triple.bind loadLatch_ends fun _ => ?_
    exact fun _ tolerant => ⟨tolerant, fun failed => by cases failed⟩
  · exact settled_of_off rfl between

private theorem diagnostics_after (rt : Runtime (SimWorld δ)) :
    (diagnostics rt).2 = { rt with controller := rt.controller.checkWatchdog rt.now } := by
  unfold diagnostics
  simp only [bind_run, controllerStatus_run]
  split
  · rfl
  split
  · rfl
  split <;> rfl

/-- The log entry of a reset reads the status without a heartbeat. -/
private theorem inStep_reset_iff {rt : Runtime (SimWorld δ)} (settled : Settled rt) :
    InStep (resetEstop (simulated s) rt).2 ↔
      (rt.env.backend.power = true → rt.controller.silent rt.now = false) := by
  refine forall_congr' fun on => ?_
  have sound := settled.inStep on
  have cleared : Sound rt.controller.resetEstop :=
    ⟨sound.contactor, rfl, by simp [SimulatedSafetyController.resetEstop, sound.faults], sound.link⟩
  exact sound_checkWatchdog_iff cleared rt.now

private theorem inStep_unlink_iff {rt : Runtime (SimWorld δ)} :
    InStep (setSafetyLink (simulated s) false rt).2 ↔ rt.env.backend.power = false := by
  constructor
  · intro inStep
    by_contra on
    have sound := inStep (Bool.not_eq_false _ ▸ on)
    have opened : ((rt.controller.setLink false).checkWatchdog rt.now).power = true := sound.contactor
    simp [SimulatedSafetyController.checkWatchdog_power] at opened
  · exact fun off => inStep_of_off off

private theorem tolerant_reset {rt : Runtime (SimWorld δ)} (settled : Settled rt) :
    ¬ (resetEstop (simulated s) rt).2.controller.watchdogTimeout < 0 := by
  change ¬ (SimulatedSafetyController.checkWatchdog rt.now _).watchdogTimeout < 0
  rw [SimulatedSafetyController.checkWatchdog_watchdogTimeout]
  exact settled.tolerant

private theorem tolerant_unlink {rt : Runtime (SimWorld δ)} (settled : Settled rt) :
    ¬ (setSafetyLink (simulated s) false rt).2.controller.watchdogTimeout < 0 := by
  change ¬ (SimulatedSafetyController.checkWatchdog rt.now _).watchdogTimeout < 0
  rw [SimulatedSafetyController.checkWatchdog_watchdogTimeout]
  exact settled.tolerant

/-- What is harmless leaves the copies in step. -/
theorem settled_step {g : Gateway δ} {op : GatewayOp} (settled : Settled g.rt)
    (harmless : Harmless g.rt op) : Settled (step s op g).rt := by
  cases op with
  | activate => exact settled_activate settled
  | heartbeat => exact ⟨fun on => sound_heartbeat (settled.inStep on) _, settled.tolerant⟩
  | status => exact @settled_status _ g.rt settled
  | healthy => exact @settled_status _ g.rt settled
  | estopEngaged => exact settled_read settled harmless
  | diagnostics =>
    change Settled (diagnostics g.rt).2
    rw [diagnostics_after]
    exact settled_read settled harmless
  | requestMotionPermission => exact settled_request settled
  | releaseMotionPermission => exact settled_release settled
  | engageEstop reason => exact settled_engage settled reason
  | resetEstop => exact ⟨(inStep_reset_iff settled).mpr harmless, tolerant_reset settled⟩
  | reportFault name => exact settled_fault settled name
  | setSafetyLink up =>
    cases up with
    | true =>
      refine ⟨fun on => ?_, settled.tolerant⟩
      have sound := settled.inStep on
      exact ⟨Bool.and_eq_true _ _ ▸ ⟨sound.contactor, rfl⟩, sound.estop, sound.faults, rfl⟩
    | false => exact ⟨inStep_unlink_iff.mpr harmless, tolerant_unlink settled⟩
  | elapse dt => exact ⟨settled.inStep, settled.tolerant⟩

/-- What is not harmless does not. -/
theorem inStep_step_iff {g : Gateway δ} {op : GatewayOp} (settled : Settled g.rt) :
    InStep (step s op g).rt ↔ Harmless g.rt op := by
  refine ⟨fun inStep => ?_, fun harmless => (settled_step settled harmless).inStep⟩
  cases op with
  | estopEngaged => exact (inStep_read_iff settled).mp inStep
  | diagnostics =>
    change InStep (diagnostics g.rt).2 at inStep
    rw [diagnostics_after] at inStep
    exact (inStep_read_iff settled).mp inStep
  | resetEstop => exact (inStep_reset_iff settled).mp inStep
  | setSafetyLink up =>
    cases up with
    | true => trivial
    | false => exact inStep_unlink_iff.mp inStep
  | _ => trivial

/-! Runs. -/

/-- The gateway of a new process after these operations. -/
def after (s : Surroundings δ) (now : ℚ) (latch : LatchFile) (store : δ) (ops : List GatewayOp) :
    Gateway δ := run s (newGateway s now latch store) ops

/-- Over every run from a new process, the two copies are in step in every state reached
exactly when every operation was harmless where it was asked for. -/
theorem in_step_iff (s : Surroundings δ) (now : ℚ) (latch : LatchFile) (store : δ)
    (ops : List GatewayOp) :
    Throughout (fun past op => InStep (after s now latch store (past ++ [op])).rt) ops ↔
      Throughout (fun past op => Harmless (after s now latch store past).rt op) ops := by
  refine throughout_iff (I := fun past => Settled (after s now latch store past).rt) ?_ ?_ ?_ ops
  · have tolerant : ¬ (1 : ℚ) < 0 := by decide
    exact settled_of_off rfl tolerant
  · intro past op settled harmless
    rw [after, run_snoc]
    exact settled_step settled harmless
  · intro past op settled
    rw [after, run_snoc]
    exact inStep_step_iff settled

/-! A link that is lost while the droid moves. -/

def loseLink : List GatewayOp := [.activate, .requestMotionPermission, .setSafetyLink false]

/-- The contactor opens, and the backend moves on. -/
theorem link_lost_moving : ¬ InStep (after hallwayDroid 0 .missing () loseLink).rt := by
  intro inStep
  have sound := inStep (by decide +kernel)
  exact absurd sound.contactor (by decide +kernel)

end DroidOs.System.PowerCopies
