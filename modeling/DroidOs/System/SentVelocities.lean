/- GID: DroidOs/System/SentVelocities
   generality: I
   source: src/droidos/services/motion.py
   digest: The simulated system with a record of the velocities that its backend is commanded. -/

import DroidOs.System.DriveGate
import DroidOs.System.DriveLimits
import DroidOs.System.WorldLaw

set_option autoImplicit false
set_option relaxedAutoImplicit false

namespace DroidOs.System.SentVelocities

open DroidOs.Lib.Procedure
open DroidOs.Core.Values DroidOs.Core.Context
open DroidOs.Backends.Simulation
open DroidOs.Executive.BehaviourTree DroidOs.Executive.Drive
open Simulated TaskLaw WorldLaw DriveLimits DriveGate

/-- An outside world and the velocities its backend has been commanded, oldest first. -/
structure Commanded (ε : Type) where
  world : ε
  sent : List BodyVelocity := []

section

variable {ε α : Type}

/-- A call that commands no velocity. -/
def unsent (p : Proc ε Exn α) : Proc (Commanded ε) Exn α :=
  zoom Commanded.world (fun world c => { c with world := world }) p

/-- The call of `command_velocity` is put down before the backend acts on it. -/
def send (vel : BodyVelocity) : Proc (Commanded ε) Exn Unit :=
  modify fun c => { c with sent := c.sent ++ [vel] }

end

variable {δ : Type} (s : Surroundings δ)

/-- The simulated system; only its motion service commands velocities. -/
def commanded : Services (Commanded (SimWorld δ)) where
  text := s.text
  droidName := s.droidName
  body := s.body
  backendKind := (simulated s).backendKind
  connect := unsent (simulated s).connect
  shutdown := unsent (simulated s).shutdown
  setPower := fun on => unsent ((simulated s).setPower on)
  powerEnabled := fun c => (simulated s).powerEnabled c.world
  battery := unsent (simulated s).battery
  actuatorNames := fun c => (simulated s).actuatorNames c.world
  readAllActuators := unsent (simulated s).readAllActuators
  readSensor := fun id => unsent ((simulated s).readSensor id)
  pose := unsent (simulated s).pose
  busOnline := (simulated s).busOnline.map unsent
  setCharging := (simulated s).setCharging.map fun f on => unsent (f on)
  resolve := fun dest => unsent ((simulated s).resolve dest)
  knownPlaces := unsent (simulated s).knownPlaces
  traversable := fun dest => unsent ((simulated s).traversable dest)
  localizationOk := unsent (simulated s).localizationOk
  isPathBlocked := unsent (simulated s).isPathBlocked
  setObstacle := fun x y => unsent ((simulated s).setObstacle x y)
  velocityToward := fun goal here => unsent ((simulated s).velocityToward goal here)
  drive := fun vel dt => do
    let vel ← unsent (approach s vel dt)
    send vel
    unsent (forward s dt vel)
  stop := do
    send {}
    unsent (stop s)
  inspect := fun target => unsent ((simulated s).inspect target)
  tool := fun intent arguments => unsent ((simulated s).tool intent arguments)
  configure := fun name => unsent ((simulated s).configure name)
  emit := fun r => unsent ((simulated s).emit r)
  publish := fun e => unsent ((simulated s).publish e)

variable {s} {α : Type}

/-! The record changes nothing else. -/

/-- A drive does to the world what it does without the record. -/
theorem commanded_drive (vel : BodyVelocity) (dt : PyFloat) (c : Commanded (SimWorld δ)) :
    ((commanded s).drive vel dt c).1 = (drive s vel dt c.world).1 ∧
      ((commanded s).drive vel dt c).2.world = (drive s vel dt c.world).2 := by
  change ((unsent (approach s vel dt) >>= fun vel => send vel >>= fun _ => unsent (forward s dt vel)) c).1 = _ ∧
    ((unsent (approach s vel dt) >>= fun vel => send vel >>= fun _ => unsent (forward s dt vel)) c).2.world = _
  rw [drive_eq, bind_run, bind_run]
  simp only [unsent, zoom_run]
  rcases approach s vel dt c.world with ⟨e | v, w⟩
  · exact ⟨rfl, rfl⟩
  · exact ⟨rfl, rfl⟩

theorem commanded_stop (c : Commanded (SimWorld δ)) :
    ((commanded s).stop c).1 = (stop s c.world).1 ∧ ((commanded s).stop c).2.world = (stop s c.world).2 :=
  ⟨rfl, rfl⟩

/-! What is sent. -/

/-- A drive that is not refused sends its clamped velocity, and one that is refused nothing. -/
theorem drive_sent (vel : BodyVelocity) (dt : PyFloat) (c : Commanded (SimWorld δ)) :
    (Refused s vel dt c.world ∧ (∃ e, ((commanded s).drive vel dt c).1 = .error e) ∧
        ((commanded s).drive vel dt c).2.sent = c.sent) ∨
      (¬ Refused s vel dt c.world ∧ ∃ v, validateVelocity s vel = .ok () ∧ clampVelocity s vel = .ok v ∧
        ((commanded s).drive vel dt c).2.sent = c.sent ++ [v]) := by
  change (_ ∧ (∃ e, ((unsent (approach s vel dt) >>= fun vel => send vel >>= fun _ =>
      unsent (forward s dt vel)) c).1 = .error e) ∧ ((unsent (approach s vel dt) >>= fun vel =>
      send vel >>= fun _ => unsent (forward s dt vel)) c).2.sent = _) ∨
    (_ ∧ ∃ v, _ ∧ _ ∧ ((unsent (approach s vel dt) >>= fun vel => send vel >>= fun _ =>
      unsent (forward s dt vel)) c).2.sent = _)
  rw [bind_run]
  simp only [unsent, zoom_run]
  rcases approach_cases vel dt c.world with ⟨refused, e, raised⟩ | ⟨passed, v, clamped, valid, run, -⟩
  · rw [raised]
    exact .inl ⟨refused, ⟨e, rfl⟩, rfl⟩
  · rw [run]
    exact .inr ⟨passed, v, valid, clamped, rfl⟩

/-- A reading is a reading of the simulated system. -/
theorem read_unsent {p : Proc (Commanded (SimWorld δ)) Exn α} (call : ReadCall (commanded s) p) :
    ∃ q, ReadCall (simulated s) q ∧ p = unsent q := by
  cases call with
  | battery => exact ⟨_, .battery, rfl⟩
  | readAllActuators => exact ⟨_, .readAllActuators, rfl⟩
  | readSensor id => exact ⟨_, .readSensor id, rfl⟩
  | busOnline online =>
    obtain ⟨q, simulated, rfl⟩ := Option.map_eq_some_iff.mp online
    exact ⟨q, .busOnline simulated, rfl⟩
  | resolve dest => exact ⟨_, .resolve dest, rfl⟩
  | knownPlaces => exact ⟨_, .knownPlaces, rfl⟩
  | traversable dest => exact ⟨_, .traversable dest, rfl⟩

/-- Nothing but a velocity command sends anything. -/
theorem worldly_sent (sent : List BodyVelocity) :
    Worldly (commanded s) fun rt => rt.env.sent = sent where
  beside rt rt' holds env _ := by rw [env]; exact holds
  reading call := by
    obtain ⟨q, -, rfl⟩ := read_unsent call
    exact keeps_iff.mpr fun _ holds => holds
  emit _ := keeps_iff.mpr fun _ holds => holds
  publish _ := keeps_iff.mpr fun _ holds => holds
  off := keeps_iff.mpr fun _ holds => holds

theorem sees_commanded : Sees s (commanded s) fun c => c.world.backend where
  localizationOk _ := rfl
  isPathBlocked _ := rfl
  pose _ := rfl
  velocityToward goal here c := by
    change unsent (ofExcept (velocityToward s goal here)) c = _
    rw [unsent, zoom_run, ofExcept_run]

end DroidOs.System.SentVelocities
