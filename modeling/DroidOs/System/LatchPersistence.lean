/- GID: DroidOs/System/LatchPersistence
   generality: I
   digest: An emergency stop stays in force across every operation and every reboot until its reset. -/

import DroidOs.Lib.History
import DroidOs.System.LatchLaw

set_option autoImplicit false
set_option relaxedAutoImplicit false

namespace DroidOs.System.LatchPersistence

open DroidOs.Lib.Procedure DroidOs.Lib.Interleaving DroidOs.Lib.History
open DroidOs.Lib.Interleaving.Coroutine (atomically Guard free)
open DroidOs.Core.Values DroidOs.Core.States DroidOs.Core.Context
open DroidOs.Backends.SafetyController DroidOs.Backends.Simulation
open DroidOs.Services.Lifecycle DroidOs.Services.HookLaw
open DroidOs.Services.SafetyGateway DroidOs.Services.Supervisor
open Registration TaskSteps TaskLaw Operations Simulated Boot LatchLaw

variable {δ : Type}

/-! A machine that is rebooted. -/

/-- The process of the moment: what it was built from, its context and what still runs in it. -/
structure Machine (δ : Type) where
  surroundings : Surroundings δ
  pool : Pool (Brain (SimWorld δ)) Exn

def Machine.rt (M : Machine δ) : Runtime (SimWorld δ) := M.pool.state.rt

/-- The context of a new process on a state directory with this latch file, after
these calls of the e-stop and of its reset. -/
def newProcess (s : Surroundings δ) (now : ℚ) (latch : LatchFile) (calls : List EstopCall)
    (store : δ) : Runtime (SimWorld δ) :=
  { newRuntime now latch { backend := SimulationBackend.new s.body, store := store } with
    estopCalls := calls }

/-- The process, booted. -/
def process (s : Surroundings δ) (now : ℚ) (latch : LatchFile) (calls : List EstopCall) (store : δ) :
    Machine δ where
  surroundings := s
  pool := { state := booted (simulated s) (newProcess s now latch calls store), threads := [] }

/-- A step of one operation, or a reboot: a new process, possibly over another body,
on the same state directory. -/
inductive Happening (δ : Type)
  | act (m : Move (Operation (SimEvent δ)))
  | reboot (s : Surroundings δ) (now : ℚ) (store : δ)

def Machine.step (M : Machine δ) : Happening δ → Machine δ
  | .act m => { M with pool := move (code (simulated M.surroundings) happening) M.pool m }
  | .reboot s now store => process s now M.rt.latch M.rt.estopCalls store

def Machine.run (M : Machine δ) (happenings : List (Happening δ)) : Machine δ :=
  happenings.foldl Machine.step M

/-- An e-stop has completed, and no reset has completed since. -/
def Stopped (calls : List EstopCall) : Prop := Since (fun _ c => c = .engaged) (· = .reset) calls

/-! Boot. -/

variable {s : Surroundings δ}

private theorem onConfigure_latched (rt : Runtime (SimWorld δ)) {cause : String} {since : ℚ}
    (latch : rt.latch = latchRecord true cause since) :
    onConfigure (simulated s) rt = (.ok true, { rt with
      controller := (rt.controller.engageEstop cause).heartbeat rt.now }) := by
  simp [onConfigure, loadLatch, bind_run, latch, latchRecord, PyVal.get, PyVal.lookup, PyVal.isKey,
    PyVal.truthy, reasonText]

/-- A boot after a stop finds it in the latch file before anything can move. -/
theorem booted_latched (rt : Runtime (SimWorld δ)) (off : rt.machine.state = .poweredOff)
    (power : rt.env.backend.power = false) (file : ∃ reason now, rt.latch = latchRecord true reason now) :
    Kept rt.latchWrite (fun _ => True) (· = rt.env.backend.pose) (booted (simulated s) rt).rt := by
  refine kept_boots.boot_holds off fun steps reason => ?_
  obtain ⟨cause, since, latch⟩ := file
  refine activate_fresh_holds rfl (onConfigure_latched _ latch) ?_ kept_primitives.keeps_onActivate
  refine kept_of_latched rfl ⟨?_, ?_, power, fun _ => ⟨cause, since, latch⟩, ?_⟩ fun _ => rfl
  · simp
  · simp
  · simp [StateMachine.enter, DroidState.motionAllowedFrom]

/-- No boot makes a call, and it leaves the latch file as writable as it was. -/
theorem booted_calls (rt : Runtime (SimWorld δ)) (off : rt.machine.state = .poweredOff) :
    (booted (simulated s) rt).rt.latchWrite = rt.latchWrite ∧
      (booted (simulated s) rt).rt.estopCalls = rt.estopCalls := by
  have same : Kept rt.latchWrite (· ≠ rt.estopCalls) (fun _ => False) (booted (simulated s) rt).rt :=
    kept_boots.boot_holds off fun _ _ => activate_holds
      (kept_primitives.keepsHooks _ (Registry.find_some (find_safetyGateway _)).1)
      (kept_of_not rfl fun ne => ne rfl)
  exact ⟨same.writes, Classical.byContradiction same.pose⟩

/-! Runs. -/

/-- The step of a thread that is not a reset. -/
def noReset (s : Surroundings δ) : Guard (Brain (SimWorld δ)) :=
  fun _ step => step ≠ (onRt (resetEstop (simulated s))).after

/-- A stop is in force while it should be, and whatever still runs keeps it so. -/
structure Sound (M : Machine δ) : Prop where
  kept : Kept .succeeds Stopped (fun _ => True) M.rt
  stops : M.pool.Keeps free fun m => Kept .succeeds Stopped (fun _ => True) m.rt
  stays : ∀ pose, M.pool.Keeps (noReset M.surroundings) fun m => Kept .succeeds (fun _ => True) (· = pose) m.rt

theorem stopped_reset (calls : List EstopCall) : ¬ Stopped (calls ++ [.reset]) := by
  rw [Stopped, since_snoc]
  rintro (starts | ⟨-, quiet⟩)
  · cases starts
  · exact quiet rfl

private theorem approves_all : Approves (simulated s) (droidServices (simulated s)) fun _ => True :=
  fun _ _ => trivial

private theorem code_stops (op : Operation (SimEvent δ)) :
    (code (simulated s) happening op).Keeps free fun m => Kept .succeeds Stopped (fun _ => True) m.rt :=
  (kept_upholds (fun _ _ _ _ => trivial) fun _ _ => stopped_reset _).keeps_code approves_all
    fun _ _ _ => trivial

private theorem code_stays (pose : Pose) (op : Operation (SimEvent δ)) :
    (code (simulated s) happening op).Keeps (noReset s) fun m =>
      Kept .succeeds (fun _ => True) (· = pose) m.rt :=
  (kept_upholds (fun _ _ _ unmoved => unmoved trivial) fun _ reset => absurd rfl reset).keeps_code
    approves_all fun _ _ _ => trivial

/-- A new process is sound whatever stops came before, if the latch file tells of one in force. -/
private theorem process_sound (s : Surroundings δ) (now : ℚ) (latch : LatchFile)
    (calls : List EstopCall) (store : δ)
    (file : Stopped calls → ∃ reason now, latch = latchRecord true reason now) :
    Sound (process s now latch calls store) := by
  refine ⟨?_, fun c member => absurd member (by simp [process]), fun _ c member =>
    absurd member (by simp [process])⟩
  obtain ⟨writes, same⟩ := booted_calls (s := s) (newProcess s now latch calls store) rfl
  refine ⟨writes, fun stopped => ?_, fun _ => trivial⟩
  have called : Stopped calls := by
    rwa [show (process s now latch calls store).rt.estopCalls = calls from same] at stopped
  exact (booted_latched (s := s) (newProcess s now latch calls store) rfl rfl (file called)).latched
    trivial

theorem sound_step {M : Machine δ} (sound : Sound M) (e : Happening δ) : Sound (M.step e) := by
  cases e with
  | act m =>
    refine ⟨?_, keeps_move sound.stops code_stops m, fun pose =>
      keeps_move (sound.stays pose) (code_stays pose) m⟩
    refine state_move (G := free) sound.stops sound.kept ?_
    cases m with
    | start op => trivial
    | resume thread => exact fun _ _ _ => trivial
  | reboot s now store =>
    exact process_sound s now _ _ store fun stopped =>
      (sound.kept.latched stopped).file sound.kept.writes

theorem sound_run {M : Machine δ} (sound : Sound M) (happenings : List (Happening δ)) :
    Sound (M.run happenings) := by
  induction happenings generalizing M with
  | nil => exact sound
  | cons e happenings ih => exact ih (sound_step sound e)

/-- The pose after one more happening: a reboot starts its backend where every new backend starts. -/
def poseAfter (M : Machine δ) : Happening δ → Pose
  | .act _ => M.rt.env.backend.pose
  | .reboot s _ _ => (SimulationBackend.new s.body).pose

/-- While a stop is in force no step moves the body, not even that of its reset. -/
private theorem pose_step {M : Machine δ} (sound : Sound M) (stopped : Stopped M.rt.estopCalls)
    (e : Happening δ) : (M.step e).rt.env.backend.pose = poseAfter M e := by
  have latched := sound.kept.latched stopped
  cases e with
  | reboot s now store =>
    exact (booted_latched (s := s) (newProcess s now M.rt.latch M.rt.estopCalls store) rfl rfl
      (latched.file sound.kept.writes)).pose trivial
  | act m =>
    have here : Kept .succeeds (fun _ => True) (· = M.rt.env.backend.pose) M.pool.state.rt :=
      kept_of_latched sound.kept.writes latched fun _ => rfl
    have allowed (safe : Allows (noReset M.surroundings) M.pool m) :
        (M.step (.act m)).rt.env.backend.pose = M.rt.env.backend.pose :=
      (state_move (sound.stays _) here safe).pose trivial
    cases m with
    | start op => exact allowed trivial
    | resume thread =>
      by_cases resets : ∃ next, M.pool.threads[thread]? =
          some (.atom (onRt (resetEstop (simulated M.surroundings))).after next)
      · obtain ⟨next, found⟩ := resets
        obtain ⟨_, _, _, run⟩ := resetEstop_run (s := M.surroundings) M.rt
        have moved : (M.step (.act (.resume thread))).rt =
            (resetEstop (simulated M.surroundings) M.rt).2 := by
          simp only [Machine.step, Machine.rt, move, advance, found]
          rfl
        rw [moved, run]
        rfl
      · refine allowed fun step next found same => resets ⟨next, ?_⟩
        rw [found, same]

/-- What an emergency stop in force guarantees of a machine. -/
structure InForce (M : Machine δ) : Prop where
  contactor : M.rt.controller.power = false
  power : M.rt.env.backend.power = false
  state : M.rt.machine.state ∉ DroidState.motionAllowedFrom
  refused : ∃ perm, (requestMotionPermission (simulated M.surroundings) M.rt).1 = .ok perm ∧
    perm.granted = false
  unmoved : ∀ e, (M.step e).rt.env.backend.pose = poseAfter M e

/-- Over every run of operations step by step and every reboot, a stop is in force
from the completed e-stop to the next completed reset. -/
theorem estop_persists (s : Surroundings δ) (now : ℚ) (latch : LatchFile) (store : δ)
    (happenings : List (Happening δ))
    (stopped : Stopped ((process s now latch [] store).run happenings).rt.estopCalls) :
    InForce ((process s now latch [] store).run happenings) := by
  have begins : Sound (process s now latch [] store) :=
    process_sound s now latch [] store fun stopped => absurd stopped (since_nil _ _)
  have sound := sound_run begins happenings
  generalize (process s now latch [] store).run happenings = M at stopped sound ⊢
  have latched := sound.kept.latched stopped
  have refuses : grants M.rt = false :=
    SimulatedSafetyController.estop_not_healthy (by simp [contacted, latched.estop])
  refine ⟨latched.contactor, latched.power, latched.state, ?_, pose_step sound stopped⟩
  rw [request_refused refuses]
  exact ⟨_, rfl, rfl⟩

/-! A reboot under a stop, after the droid has driven. -/

/-- Two ticks down the hallway, and an e-stop between two ticks. -/
def stoppedInHallway : Machine Unit :=
  (process hallwayDroid 0 .missing [] ()).run
    ([.act (.start (.runIntent toHallway "operator"))] ++ List.replicate 8 (.act (.resume 0)) ++
      [.act (.start (.engageEstop "test")), .act (.resume 1)])

private theorem stopped_inHallway : Stopped stoppedInHallway.rt.estopCalls := by
  have calls : stoppedInHallway.rt.estopCalls = [.engaged] := by decide +kernel
  rw [calls]
  exact ⟨[], .engaged, [], rfl, rfl, by simp⟩

/-- The reboot moves the pose back to where a new backend starts. -/
theorem pose_lost_by_reboot :
    Stopped stoppedInHallway.rt.estopCalls ∧
    Stopped (stoppedInHallway.step (.reboot hallwayDroid 1 ())).rt.estopCalls ∧
    stoppedInHallway.rt.env.backend.pose.x = .fin (3 / 50) ∧
    (stoppedInHallway.step (.reboot hallwayDroid 1 ())).rt.env.backend.pose.x = 0 := by
  have calls : (stoppedInHallway.step (.reboot hallwayDroid 1 ())).rt.estopCalls = [.engaged] := by
    decide +kernel
  refine ⟨stopped_inHallway, ?_, by decide +kernel, by decide +kernel⟩
  rw [calls]
  exact ⟨[], .engaged, [], rfl, rfl, by simp⟩

theorem estop_persists_inHallway : Stopped stoppedInHallway.rt.estopCalls ∧ InForce stoppedInHallway :=
  ⟨stopped_inHallway, estop_persists hallwayDroid 0 .missing () _ stopped_inHallway⟩

end DroidOs.System.LatchPersistence
