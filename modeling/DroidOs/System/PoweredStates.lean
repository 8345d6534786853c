/- GID: DroidOs/System/PoweredStates
   generality: I
   digest: When motor power is on only in the states that permit motion. -/

import DroidOs.Services.Readiness
import DroidOs.System.LatchLaw

set_option autoImplicit false
set_option relaxedAutoImplicit false

namespace DroidOs.System.PoweredStates

open DroidOs.Lib.Procedure DroidOs.Lib.Interleaving
open DroidOs.Lib.Interleaving.Coroutine (Guard)
open DroidOs.Core.Values DroidOs.Core.States DroidOs.Core.Context
open DroidOs.Backends.SafetyController DroidOs.Backends.Simulation
open DroidOs.Services.Lifecycle DroidOs.Services.HookLaw
open DroidOs.Services.SafetyGateway DroidOs.Services.Supervisor DroidOs.Services.Readiness
open DroidOs.Executive.Drive DroidOs.Executive.RunIntent
open DroidOs.Language.Intent
open Registration TaskLaw Operations Simulated Boot StepLaw LatchLaw

variable {δ α : Type} {s : Surroundings δ}

/-- Motor power is on only in a state that permits motion. -/
def PoweredOnlyToMove (rt : Runtime (SimWorld δ)) : Prop :=
  rt.env.backend.power = true → rt.machine.state ∈ DroidState.motionAllowedFrom

/-- A permission is granted only in a state that permits motion, and a refresh leaves
no such state while motor power is on. -/
def movingGuard (s : Surroundings δ) : Guard (Brain (SimWorld δ)) := fun m step =>
  (step = (onRt (requestMotionPermission (simulated s))).after → grants m.rt = true →
    m.rt.machine.state ∈ DroidState.motionAllowedFrom) ∧
  (step = (refresh (simulated s) (droidServices (simulated s))).after →
    m.rt.env.backend.power = true → Fit (simulated s) (droidServices (simulated s)) m)

/-! The primitive steps. -/

theorem powered_of_off {rt : Runtime (SimWorld δ)} (off : rt.env.backend.power = false) :
    PoweredOnlyToMove rt := by
  intro on
  rw [off] at on
  cases on

/-- Reading and bookkeeping leave motor power as it is. -/
theorem power_attends (on : Bool) :
    Attends (simulated s) fun rt => rt.env.backend.power = on where
  quiet call := by
    refine keeps_iff.mpr fun rt power => ?_
    have still : Still on rt.env.backend.pose (_ : SimWorld δ) :=
      Keeps.after (still_quiet s call) (s := rt.env) ⟨power, fun _ => rfl⟩
    exact still.1
  status := keeps_iff.mpr fun _ power => power
  heartbeat := keeps_iff.mpr fun _ power => power

private theorem powered_quiet {p : Proc (SimWorld δ) Exn α} (call : QuietCall (simulated s) p) :
    Keeps PoweredOnlyToMove (outside p) := by
  refine keeps_iff.mpr fun rt holds on => holds ?_
  rw [← on]
  exact ((power_attends _).quiet call).after rfl |>.symm

theorem powered_primitives : Primitives (simulated s) PoweredOnlyToMove fun _ => True where
  quiet := powered_quiet
  off := keeps_iff.mpr fun _ _ => powered_of_off rfl
  lower _ _ holds := holds
  beside _ _ holds beside on := by
    rw [beside.machine]
    exact holds (beside.env ▸ on)

private theorem powered_moves : Moves (PoweredOnlyToMove (δ := δ)) := by
  intro rt holds allowed dst reason into
  obtain ⟨machine, run, same | moved⟩ := transition_after dst reason rt <;> rw [run]
  · rw [same]
    exact holds
  · intro _
    change machine.state ∈ _
    rw [moved]
    exact into

/-! The steps that switch power or change the state. -/

private theorem off_log (event detail : String) :
    Keeps (fun rt : Runtime (SimWorld δ) => rt.env.backend.power = false)
      (logSafetyEvent (simulated s) event detail) :=
  keeps_iff.mpr fun _ off => off

/-- Releasing the permission switches motor power off. -/
theorem release_off (rt : Runtime (SimWorld δ)) :
    (releaseMotionPermission (simulated s) rt).2.env.backend.power = false := by
  unfold releaseMotionPermission
  simp only [bind_run, onController_run, outside_run, simulated_setPower, reads_run]
  split <;> rfl

private theorem powered_engage (reason : String) :
    Keeps PoweredOnlyToMove (engageEstop (simulated s) reason) :=
  keeps_iff.mpr fun _ _ => powered_of_off rfl

private theorem powered_reset : Keeps PoweredOnlyToMove (resetEstop (simulated s)) :=
  keeps_iff.mpr fun _ holds => holds

private theorem powered_safeIdle (task : Task) :
    Keeps (fun m => PoweredOnlyToMove m.rt) (hSafeIdle (simulated s) task) := by
  let off : Runtime (SimWorld δ) → Prop := fun rt => rt.env.backend.power = false
  have idle : Keeps off enterSafeIdle := by
    refine keeps_bind (keeps_reads _) fun _ => keeps_ite (fun _ => ?_) fun _ => keeps_pure _
    refine keeps_iff.mpr fun rt unpowered => ?_
    obtain ⟨machine, run, -⟩ := transition_after .safeIdle "operator requested safe idle" rt
    rw [run]
    exact unpowered
  have rest : Keeps (fun m : Brain (SimWorld δ) => off m.rt) (do
      onRt enterSafeIdle
      let machine ← reads fun m => m.rt.machine
      let data := [(.str "state", .str machine.state.value)]
      return ({ ok := true, kind := "robot.return_safe_idle", data := data } : TaskResult)) :=
    keeps_bind (keeps_onRt_of idle) fun _ => keeps_bind (keeps_reads _) fun _ => keeps_pure _
  refine keeps_iff.mpr fun m _ => powered_of_off ?_
  exact after_bind (I := fun m : Brain (SimWorld δ) => off m.rt) (release_off m.rt) fun _ => rest

/-- A shutdown ends with motor power off. -/
theorem shutdown_off {reg : Registry (Runtime (SimWorld δ))}
    (plain : ∀ spec ∈ reg.services, spec.hook .onCleanup = pure true) (m : Brain (SimWorld δ)) :
    (requestShutdown (simulated s) reg m).2.rt.env.backend.power = false := by
  have closes (m : Brain (SimWorld δ)) : (do
      forEach reg.services.reverse shutdown
      onRt (outside (simulated s).shutdown)
      onRt (force .poweredOff "shutdown complete") : Proc (Brain (SimWorld δ)) Exn Unit) m |>.2.rt.env.backend.power = false := by
    have returns : (forEach reg.services.reverse shutdown m).1 = .ok () :=
      forEach_returns (fun spec member => shutdown_returns (plain spec (List.mem_reverse.mp member))) m
    rcases run : forEach reg.services.reverse shutdown m with ⟨e | _, m'⟩ <;> rw [run] at returns
    · cases returns
    · rw [bind_ok run]
      rfl
  unfold requestShutdown
  rw [reads_bind]
  split
  · rw [bind_ok (onRt_run _ _)]
    exact closes _
  · exact closes m

private theorem powered_refresh {reg : Registry (Runtime (SimWorld δ))} (safety : hasSafety reg = true)
    {m : Brain (SimWorld δ)} (holds : PoweredOnlyToMove m.rt)
    (fit : m.rt.env.backend.power = true → Fit (simulated s) reg m) :
    PoweredOnlyToMove (refresh (simulated s) reg m).2.rt := by
  have prims := powered_primitives (s := s)
  rcases found : (assessReadiness (simulated s) reg m).1 with e | r
  · rw [refresh_error found]
    exact prims.attends.toReads.keeps_assessReadiness.after holds
  · obtain ⟨machine, run, state⟩ := refresh_ok found
    rw [run]
    intro on
    change machine.state ∈ _
    have before : m.rt.env.backend.power = true := by
      rw [← on]
      exact ((power_attends _).toReads.keeps_assessReadiness.after rfl).symm
    obtain ⟨r', found', allowed⟩ := (assess_allowed_iff safety m).mpr (fit before)
    rw [found] at found'
    cases found'
    exact state ▸ allowed

/-- Every operation keeps it if the steps that the guard speaks of are made as it says. -/
theorem powered_upholds :
    Upholds (simulated s) happening (movingGuard s) PoweredOnlyToMove fun _ => True := by
  have prims := powered_primitives (s := s)
  have closes (m : Brain (SimWorld δ)) :
      PoweredOnlyToMove (requestShutdown (simulated s) (droidServices (simulated s)) m).2.rt :=
    powered_of_off (shutdown_off (fun spec member => shutdown_hooks_default _ member (.inr rfl)) m)
  exact {
    toAttends := prims.attends
    core := fun _ _ holds same => prims.holds_core holds same
    start := fun _ user allowed => prims.keeps_start allowed user
    finish := fun _ user result allowed => prims.keeps_finish allowed user result
    request := fun m holds allowed => prims.request_holds holds fun grant _ => allowed.1 rfl grant
    enterActive := powered_moves.keeps_enterActive
    endDrive := prims.keeps_endDrive powered_moves
    engage := powered_engage
    safeIdle := powered_safeIdle
    shutdown := fun _ m _ _ => after_bind (I := fun m : Brain (SimWorld δ) => PoweredOnlyToMove m.rt)
      (closes m) fun _ => keeps_bind (keeps_reads _) fun _ => keeps_pure _
    reset := fun _ holds _ => powered_reset.after holds
    close := fun m _ _ => closes m
    fault := prims.keeps_fault
    release := prims.keeps_release
    link := prims.keeps_link
    refresh := fun _ holds allowed =>
      powered_refresh (droidServices_hasSafety _) holds (allowed.2 rfl)
    configure := prims.keeps_onConfigure
    activate := prims.keeps_onActivate
    elapse := fun _ _ holds => holds
    happen := fun event _ holds => by cases event <;> exact holds }

/-! Runs. -/

/-- The system just booted on a new process. -/
def bootedPool (s : Surroundings δ) (now : ℚ) (latch : LatchFile) (store : δ) :
    Pool (Brain (SimWorld δ)) Exn where
  state := booted (simulated s)
    (newRuntime now latch { backend := SimulationBackend.new s.body, store := store })
  threads := []

/-- A context whose motor power is off. -/
def Off (rt : Runtime (SimWorld δ)) : Prop := rt.env.backend.power = false

private theorem off_primitives : Primitives (simulated s) (Off (δ := δ)) fun _ => True where
  quiet := (power_attends false).quiet
  off := keeps_iff.mpr fun _ _ => rfl
  lower _ _ off := off
  beside _ _ off beside := by
    rw [Off, beside.env]
    exact off

private theorem off_machine {rt : Runtime (SimWorld δ)} (off : Off rt) (machine : StateMachine) :
    Off { rt with machine := machine } := off

private theorem off_forbids : Forbids (Off (δ := δ)) where
  transition dst reason _ := by
    refine keeps_iff.mpr fun rt off => ?_
    obtain ⟨machine, run, -⟩ := transition_after dst reason rt
    rw [run]
    exact off_machine off machine
  force _ _ _ := keeps_iff.mpr fun _ off => off

private theorem off_refresh : Keeps (fun m => Off m.rt)
    (refresh (simulated s) (droidServices (simulated s))) := by
  refine keeps_iff.mpr fun m off => ?_
  have after : Off (assessReadiness (simulated s) (droidServices (simulated s)) m).2.rt :=
    (power_attends false).toReads.keeps_assessReadiness.after off
  rcases found : (assessReadiness (simulated s) (droidServices (simulated s)) m).1 with e | r
  · rw [refresh_error found]
    exact after
  · obtain ⟨machine, run, -⟩ := refresh_ok found
    rw [run]
    exact after

/-- A boot ends with motor power off. -/
theorem booted_off (s : Surroundings δ) (now : ℚ) (latch : LatchFile) (store : δ) :
    Off (bootedPool s now latch store).state.rt := by
  have boots : Boots (simulated s) (Off (δ := δ)) :=
    off_primitives.boots off_forbids (keeps_iff.mpr fun _ _ => rfl) off_refresh
  have gateway : safetyGateway (simulated s) ∈ (droidServices (simulated s)).services := by
    simp [droidServices]
  exact boots.boot_holds rfl fun steps reason => activate_holds (boots.hooks _ gateway) rfl

/-- In every run of a booted system whose permissions and refreshes are as the guard
says, motor power is on only in the states that permit motion. -/
theorem powered_only_to_move (s : Surroundings δ) (now : ℚ) (latch : LatchFile) (store : δ)
    {moves : List (Move (Operation (SimEvent δ)))}
    (allowed : AllowedRun (movingGuard s) (code (simulated s) happening)
      (bootedPool s now latch store) moves) :
    PoweredOnlyToMove (runMoves (code (simulated s) happening)
      (bootedPool s now latch store) moves).state.rt := by
  have threads : (bootedPool s now latch store).Keeps (movingGuard s) fun m => PoweredOnlyToMove m.rt := by
    intro c member
    cases member
  exact state_runMoves threads (powered_of_off (booted_off s now latch store))
    (fun _ => powered_upholds.keeps_code (fun _ _ => trivial) fun _ _ _ => trivial) allowed

/-! The droid in the hallway. -/

def returnSafeIdle : StructuredIntent where
  intent := "robot.return_safe_idle"

/-- The hallway droid after these moves. -/
def inHallway (moves : List (Move (Operation (SimEvent Unit)))) : Runtime (SimWorld Unit) :=
  (runMoves (code (simulated hallwayDroid) happening)
    (bootedPool hallwayDroid 0 .missing ()) moves).state.rt

/-- Back to safe idle, and then down the hallway. -/
def idleThenDrive : List (Move (Operation (SimEvent Unit))) :=
  [.start (.runIntent returnSafeIdle "operator")] ++ List.replicate 3 (.resume 0) ++
    [.start (.runIntent toHallway "operator")] ++ List.replicate 8 (.resume 1)

/-- It drives in safe idle. -/
theorem drives_in_safeIdle : ¬ PoweredOnlyToMove (inHallway idleThenDrive) ∧
    (inHallway idleThenDrive).machine.state = .safeIdle ∧
    (inHallway idleThenDrive).env.backend.pose.x = .fin (3 / 50) := by
  have idle : (inHallway idleThenDrive).machine.state = .safeIdle := by decide +kernel
  refine ⟨fun powered => ?_, idle, by decide +kernel⟩
  have allowed := powered (by decide +kernel)
  rw [idle] at allowed
  exact absurd allowed (by decide)

/-- What the guard asks for holds wherever the droid may move and power is off. -/
private theorem movingGuard_of {m : Brain (SimWorld δ)} {step : Brain (SimWorld δ) → Brain (SimWorld δ)}
    (allowed : m.rt.machine.state ∈ DroidState.motionAllowedFrom) (off : m.rt.env.backend.power = false) :
    movingGuard s m step :=
  ⟨fun _ _ => allowed, fun _ on => absurd on (by simp [off])⟩

/-- From the ready state to the permission of a drive. -/
def startDrive : List (Move (Operation (SimEvent Unit))) :=
  .start (.runIntent toHallway "operator") :: List.replicate 5 (.resume 0)

theorem powered_only_to_drive :
    (inHallway startDrive).env.backend.power = true ∧ PoweredOnlyToMove (inHallway startDrive) := by
  refine ⟨by decide +kernel, powered_only_to_move hallwayDroid 0 .missing () ?_⟩
  refine ⟨trivial, ?_, ?_, ?_, ?_, ?_, trivial⟩ <;>
    refine fun _ _ _ => movingGuard_of ?_ ?_ <;> decide +kernel

end DroidOs.System.PoweredStates
