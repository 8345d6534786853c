/- GID: DroidOs/System/BodyLaw
   generality: I
   source: src/droidos/backends/simulation.py, src/droidos/services/motion.py
   digest: In every run the simulated body stays within its bounds, and its readings can be taken. -/

import DroidOs.Backends.Bounds
import DroidOs.Services.Inhibition
import DroidOs.System.DriveLimits
import DroidOs.System.Pacing
import DroidOs.System.PoweredStates

set_option autoImplicit false
set_option relaxedAutoImplicit false

namespace DroidOs.System.BodyLaw

open DroidOs.Lib.Procedure DroidOs.Lib.Interleaving
open DroidOs.Lib.Interleaving.Coroutine (free)
open DroidOs.Core.Values DroidOs.Core.States DroidOs.Core.Context
open DroidOs.Backends.SafetyController DroidOs.Backends.Simulation DroidOs.Backends.Bounds
open DroidOs.Body.Package DroidOs.Gait.Policy
open DroidOs.Services.Lifecycle DroidOs.Services.HookLaw DroidOs.Services.SafetyGateway DroidOs.Services.Supervisor
open DroidOs.Services.Inhibition
open Registration TaskLaw Operations Simulated Boot StepLaw LatchLaw PoweredStates Pacing
open DriveLimits (validated_finite)

variable {δ α : Type} {s : Surroundings δ} {hottest : ℚ}

/-- What may happen to a body whose motors stay below a temperature. -/
def Mild (hottest : ℚ) : SimEvent δ → Prop
  | .injectFault kind params => Injectable hottest kind params
  | .clearFaults => True
  | .store _ => True

/-- The body of a context is within its bounds. -/
def Within (hottest : ℚ) (w : SimWorld δ) : Prop := Physical hottest w.backend

/-! The calls of a task. -/

private theorem within_readBackend (f : SimulationBackend → Except Exn α) :
    Keeps (Within (δ := δ) hottest) (readBackend f) := keeps_iff.mpr fun _ holds => holds

private theorem within_stored (p : SimulationBackend → Proc δ Exn α) :
    Keeps (Within hottest) (stored p) := keeps_iff.mpr fun _ holds => holds

private theorem within_commandVelocity (sound : Sound s.text s.math s.body) {vel : BodyVelocity} {dt : PyFloat}
    (time : Finite dt) (linearX : Finite vel.linearX) (linearY : Finite vel.linearY) (angularZ : Finite vel.angularZ) :
    Keeps (Within (δ := δ) hottest) (commandBackend fun b => b.commandVelocity s.text s.math s.body vel dt) := by
  refine keeps_iff.mpr fun w holds => ?_
  rcases answer : w.backend.commandVelocity s.text s.math s.body vel dt with e | b
  · rw [commandBackend, bind_error (t := w) (e := e) (by rw [readBackend, answer])]
    exact holds
  · rw [commandBackend, bind_ok (t := w) (a := b) (by rw [readBackend, answer])]
    exact holds.commandVelocity sound time linearX linearY angularZ answer

private theorem within_commandGait (policy : GaitPolicy) (vel : BodyVelocity) (dt : PyFloat) :
    Keeps (Within hottest) (commandGait s policy vel dt) := by
  refine keeps_bind (keeps_modify fun _ holds => holds) fun _ => keeps_bind (keeps_ofExcept _) fun targets => ?_
  exact keeps_modify fun w holds => holds.commandJoints targets

/-- A velocity that passes the validation is finite, and so is what it is clamped to. -/
private theorem clamped_finite (sound : Sound s.text s.math s.body) {vel v : BodyVelocity}
    (valid : validateVelocity s vel = .ok ()) (clamped : clampVelocity s vel = .ok v) :
    Finite v.linearX ∧ Finite v.linearY ∧ Finite v.angularZ := by
  obtain ⟨x, y, z, rfl⟩ := validated_finite valid
  obtain ⟨maxLin, linear, clamped⟩ := except_bind_ok clamped
  obtain ⟨maxAng, angular, clamped⟩ := except_bind_ok clamped
  cases clamped
  refine ⟨(sound.linear _ linear).clamp ⟨x, rfl⟩, ?_, (sound.angular _ angular).clamp ⟨z, rfl⟩⟩
  dsimp only
  split
  · exact (sound.linear _ linear).clamp ⟨y, rfl⟩
  · exact ⟨0, rfl⟩

private theorem keeps_known_bind {x : Except Exn α} {f : α → Proc (SimWorld δ) Exn Unit}
    (each : ∀ a, x = .ok a → Keeps (Within hottest) (f a)) : Keeps (Within hottest) (ofExcept x >>= f) := by
  cases x with
  | error e => exact keeps_iff.mpr fun _ holds => holds
  | ok a => exact each a rfl

private theorem within_drive (sound : Sound s.text s.math s.body) (hot : 62 ≤ hottest) (vel : BodyVelocity) :
    Keeps (Within hottest) (drive s vel Executive.Drive.driveDt) := by
  have forwarded {v : BodyVelocity} (finite : Finite v.linearX ∧ Finite v.linearY ∧ Finite v.angularZ) :
      Keeps (Within (δ := δ) hottest) (do
        commandBackend fun b => b.commandVelocity s.text s.math s.body v Executive.Drive.driveDt
        zoom SimWorld.backend (fun b w => { w with backend := b })
          (SimulationBackend.step Executive.Drive.driveDt)) := by
    refine keeps_bind (within_commandVelocity sound ⟨_, rfl⟩ finite.1 finite.2.1 finite.2.2) fun _ => ?_
    exact keeps_zoom fun w holds => (step_physical hot (by norm_num)).after holds
  unfold drive
  refine keeps_bind (keeps_ofExcept _) fun _ => keeps_ite (fun _ => keeps_raise _) fun _ => ?_
  refine keeps_known_bind fun _ valid => keeps_known_bind fun v clamped => ?_
  have finite := clamped_finite sound valid clamped
  refine keeps_bind (keeps_reads _) fun policy => ?_
  cases policy with
  | none => exact forwarded finite
  | some policy => exact keeps_bind (within_commandGait policy v _) fun _ => forwarded finite

private theorem within_configureMotion : Keeps (Within hottest) (configureMotion s) :=
  keeps_ite (fun _ => keeps_bind (keeps_ofExcept _) fun _ => keeps_modify fun _ holds => holds)
    fun _ => keeps_pure _

/-- No outside call of a task takes the body out of its bounds. -/
theorem within_quiet (sound : Sound s.text s.math s.body) (hot : 62 ≤ hottest) {p : Proc (SimWorld δ) Exn α}
    (call : QuietCall (paced (simulated s)) p) : Keeps (Within hottest) p := by
  cases call with
  | battery => exact within_readBackend _
  | readAllActuators => exact within_readBackend _
  | readSensor id => exact within_readBackend fun b => b.readSensor s.body id
  | pose => exact keeps_reads _
  | busOnline online =>
    simp only [paced, simulated] at online
    split at online
    · cases online
    · cases online
      exact keeps_reads _
  | setCharging on charging =>
    cases charging
    exact keeps_modify fun _ holds => holds.charge on
  | resolve dest => exact within_stored fun _ => s.resolve dest
  | knownPlaces => exact within_stored fun _ => s.knownPlaces
  | traversable dest => exact within_stored fun _ => s.traversable dest
  | localizationOk => exact within_readBackend _
  | isPathBlocked => exact within_readBackend _
  | setObstacle x y => exact within_stored fun _ => s.setObstacle x y
  | velocityToward goal here => exact keeps_ofExcept _
  | drive vel dt => exact within_drive sound hot vel
  | stop => exact within_commandVelocity sound ⟨0, rfl⟩ ⟨0, rfl⟩ ⟨0, rfl⟩ ⟨0, rfl⟩
  | inspect target => exact within_stored fun b => s.inspect b target
  | tool intent arguments => exact within_stored fun b => s.tool b intent arguments
  | configure name => exact keeps_ite (fun _ => within_configureMotion) fun _ => within_stored _
  | emit r => exact keeps_modify fun _ holds => holds
  | publish e => exact keeps_modify fun _ holds => holds

/-! The operations. -/

/-- The body of the shared context is within its bounds. -/
def Bounded (hottest : ℚ) (rt : Runtime (SimWorld δ)) : Prop := Physical hottest rt.env.backend

private theorem bounded_outside {p : Proc (SimWorld δ) Exn α} (keeps : Keeps (Within hottest) p) :
    Keeps (Bounded hottest) (outside p) :=
  keeps_iff.mpr fun _ holds => keeps.after holds

private theorem bounded_setPower (on : Bool) :
    Keeps (Bounded hottest) (outside ((paced (simulated s)).setPower on)) :=
  bounded_outside (keeps_modify fun _ holds => holds.setPower on)

private theorem bounded_primitives (sound : Sound s.text s.math s.body) (hot : 62 ≤ hottest) :
    Primitives (paced (simulated s)) (Bounded hottest) fun _ => True where
  quiet call := bounded_outside (within_quiet sound hot call)
  off := bounded_setPower false
  lower _ _ holds := holds
  beside _ _ holds beside := by
    rw [Bounded, beside.env]
    exact holds

private theorem bounded_transition (dst : DroidState) (reason : String) :
    Keeps (Bounded (δ := δ) hottest) (transition dst reason) := by
  refine keeps_iff.mpr fun rt holds => ?_
  obtain ⟨machine, run, -⟩ := transition_after dst reason rt
  rw [run]
  exact holds

private theorem bounded_force (dst : DroidState) (reason : String) :
    Keeps (Bounded (δ := δ) hottest) (force dst reason) := keeps_iff.mpr fun _ holds => holds

private theorem bounded_forbids : Forbids (Bounded (δ := δ) hottest) where
  transition dst reason _ := bounded_transition dst reason
  force dst reason _ := bounded_force dst reason

private theorem bounded_moves : Moves (Bounded (δ := δ) hottest) :=
  fun _ holds _ dst reason _ => (bounded_transition dst reason).after holds

private theorem bounded_refresh (sound : Sound s.text s.math s.body) (hot : 62 ≤ hottest) :
    Keeps (fun m => Bounded hottest m.rt)
      (refresh (paced (simulated s)) (droidServices (paced (simulated s)))) := by
  have prims := bounded_primitives sound hot
  refine keeps_bind prims.attends.toReads.keeps_assessReadiness fun r => ?_
  refine keeps_bind (keeps_onRt_of (prims.keeps_note fun _ => ⟨rfl, rfl, rfl, rfl, rfl, rfl, rfl, rfl, rfl⟩)) fun _ => ?_
  refine keeps_bind (keeps_onRt_of ?_) fun _ => keeps_pure _
  refine keeps_bind (keeps_reads _) fun _ => keeps_ite (fun _ => keeps_pure _) fun _ => ?_
  exact keeps_ite (fun _ => bounded_transition _ _) fun _ => bounded_force _ _

private theorem bounded_upholds (sound : Sound s.text s.math s.body) (hot : 62 ≤ hottest) :
    Upholds (paced (simulated s)) (fun event : {event : SimEvent δ // Mild hottest event} => happening event.1)
      free (Bounded hottest) fun _ => True := by
  have prims := bounded_primitives sound hot
  refine prims.upholds bounded_forbids bounded_moves (bounded_outside (keeps_modify fun _ holds => holds.shutdown))
    (fun m holds _ => prims.request_holds holds fun _ => holds.setPower true)
    (fun reason => keeps_iff.mpr fun _ holds => holds.setPower false) (fun _ holds _ => holds)
    (fun m holds _ => (bounded_refresh sound hot).after holds) fun event rt holds => ?_
  obtain ⟨event, mild⟩ := event
  cases event with
  | injectFault kind params => exact holds.injectFault mild
  | clearFaults => exact holds.clearFaults
  | store f => exact holds

/-! Readings of a body within its bounds. -/

/-- Below the limit that the body declares, no actuator inhibits motion. -/
theorem cool_not_faulted {w : SimWorld δ} {limit : PyFloat} (physical : Physical hottest w.backend)
    (declared : s.body.limits.motorFaultTemp s.text = .ok limit) (cool : PyFloat.lt (.fin hottest) limit = true) :
    ¬ Faulted (simulated s) w := by
  rintro ⟨states, read, a, member, faulty⟩
  exact faulty (readAllActuators_cool physical declared cool read a member)

/-- Whatever has happened to the body, its readings can be taken. -/
theorem answering_within {w : SimWorld δ} (legible : Legible s.text s.body) (physical : Physical hottest w.backend) :
    Answering (simulated s) w where
  battery := legible.readBattery w.backend
  minimum := legible.minimum
  actuators := legible.readAllActuators physical
  sensor id _ := legible.readSensor w.backend id
  bus online has := by
    simp only [simulated] at has
    split at has
    · cases has
    · cases has
      exact ⟨_, rfl⟩

/-! Runs. -/

theorem booted_bounded (sound : Sound s.text s.math s.body) (hot : 62 ≤ hottest) (now : ℚ)
    (latch : LatchFile) (store : δ) : Bounded hottest (bootedPool s now latch store).state.rt := by
  have prims := bounded_primitives sound hot
  have boots : Boots (paced (simulated s)) (Bounded hottest) :=
    prims.boots bounded_forbids (bounded_outside (keeps_modify fun _ holds => holds.connect))
      (bounded_refresh sound hot)
  have gateway : safetyGateway (paced (simulated s)) ∈ (droidServices (paced (simulated s))).services := by
    simp [droidServices]
  have fresh : Physical hottest (SimulationBackend.new s.body) := new_physical hot
  let rt : Runtime (SimWorld δ) := newRuntime now latch { backend := SimulationBackend.new s.body, store := store }
  have holds : Bounded hottest (booted (paced (simulated s)) rt).rt :=
    boots.boot_holds rfl fun steps reason => activate_holds (boots.hooks _ gateway) fresh
  rw [booted_paced] at holds
  exact holds

/-- A request that is processed to its end leaves the body within its bounds. -/
theorem bounded_process (sound : Sound s.text s.math s.body) (hot : 62 ≤ hottest)
    (lang : Language.Conversation.LanguageService) (r : Language.Conversation.Request) :
    Keeps (fun m => Bounded hottest m.rt)
      (Language.Conversation.process (simulated s) (droidServices (simulated s)) lang r).run := by
  have upkeep := (bounded_upholds sound hot).toUpkeep
  have kept : (Language.Conversation.process (paced (simulated s)) (droidServices (paced (simulated s))) lang r).Keeps
      free fun m => Bounded hottest m.rt := upkeep.keeps_process (fun _ _ => trivial) r
  rw [process_paced, services_paced] at kept
  exact Coroutine.keeps_run kept

theorem bounded_code (sound : Sound s.text s.math s.body) (hot : 62 ≤ hottest)
    (op : Operation {event : SimEvent δ // Mild hottest event}) :
    (code (simulated s) (fun event => happening event.1) op).Keeps free fun m => Bounded hottest m.rt := by
  have kept : (code (paced (simulated s)) (fun event => happening event.1) op).Keeps free
      fun m => Bounded hottest m.rt := (bounded_upholds sound hot).keeps_code (fun _ _ => trivial) fun _ _ _ => trivial
  rw [code_paced] at kept
  exact kept

private theorem run_bounded (sound : Sound s.text s.math s.body) (hot : 62 ≤ hottest) (now : ℚ) (latch : LatchFile)
    (store : δ) (moves : List (Move (Operation {event : SimEvent δ // Mild hottest event}))) :
    Bounded hottest (runMoves (code (simulated s) fun event => happening event.1)
      (bootedPool s now latch store) moves).state.rt := by
  have threads : (bootedPool s now latch store).Keeps free fun m => Bounded hottest m.rt := by
    intro c member
    cases member
  exact state_runMoves threads (booted_bounded sound hot now latch store) (bounded_code sound hot)
    (allowedRun_free moves)

/-- In every such run an assessment of the readiness returns. -/
theorem readings_stay (sound : Sound s.text s.math s.body) (hot : 62 ≤ hottest) (legible : Legible s.text s.body)
    (now : ℚ) (latch : LatchFile) (store : δ)
    (moves : List (Move (Operation {event : SimEvent δ // Mild hottest event}))) :
    Answering (simulated s) (runMoves (code (simulated s) fun event => happening event.1)
      (bootedPool s now latch store) moves).state.rt.env :=
  answering_within legible (run_bounded sound hot now latch store moves)

/-! A warm droid in the hallway. -/

/-- It agrees with the math library straight ahead, and computes finite numbers. -/
def level : Libm where
  sin := fun _ => 0
  cos := fun _ => 1
  atan2 := straightAhead.atan2
  hypot := straightAhead.hypot

def levelDroid : Surroundings Unit := { hallwayDroid with math := level }

theorem level_sound : Sound levelDroid.text levelDroid.math levelDroid.body where
  linear limit read := by
    have same : SimulationBackend.maxLinear levelDroid.text levelDroid.body = .ok (.fin (3 / 10)) := by decide +kernel
    rw [same] at read
    cases read
    exact .inr ⟨_, rfl⟩
  angular limit read := by
    have same : SimulationBackend.maxAngular levelDroid.text levelDroid.body = .ok (.fin (4 / 5)) := by decide +kernel
    rw [same] at read
    cases read
    exact .inr ⟨_, rfl⟩
  sin _ _ := ⟨0, rfl⟩
  cos _ _ := ⟨1, rfl⟩

/-- A motor that is injected with eighty degrees. -/
def warmed : {event : SimEvent Unit // Mild 80 event} :=
  ⟨.injectFault "motor_overheat" [(.str "temp", .int 80)], fun _ => ⟨80, rfl, 80, rfl, by norm_num, le_rfl⟩⟩

/-- One motor warms, and the droid drives down the hallway. -/
def warmDrive : List (Move (Operation {event : SimEvent Unit // Mild 80 event})) :=
  [.start (.happen warmed), .resume 0, .start (.runIntent toHallway "operator")] ++ List.replicate 8 (.resume 1)

end DroidOs.System.BodyLaw
