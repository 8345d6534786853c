/- GID: DroidOs/System/Docking
   generality: I
   source: src/droidos/executive/executive.py, src/droidos/backends/simulation.py
   digest: Runs of driving tasks, and where a droid that leaves its dock goes on charging. -/

import DroidOs.Backends.Charge
import DroidOs.System.DriveGate
import DroidOs.System.Furnished
import DroidOs.System.WorldLaw

set_option autoImplicit false
set_option relaxedAutoImplicit false

namespace DroidOs.System.Docking

open Relation
open DroidOs.Lib.Procedure DroidOs.Lib.Interleaving DroidOs.Lib.Rely
open DroidOs.Lib.Interleaving.Coroutine (Guard atomically free)
open DroidOs.Lib.Rely.Terms (triple_pure triple_bind triple_ite triple_atomically triple_attempt triple_value stable_true)
open DroidOs.Core.Values DroidOs.Core.States DroidOs.Core.Context
open DroidOs.Backends.Simulation DroidOs.Backends.Charge
open DroidOs.Services DroidOs.Services.Lifecycle DroidOs.Services.SafetyGateway DroidOs.Services.Supervisor
open DroidOs.Executive.BehaviourTree DroidOs.Executive.Drive DroidOs.Executive.RunIntent
open DroidOs.Executive.Tools
open DroidOs.Language.Intent
open TaskSteps TaskLaw WorldLaw Simulated Furnished DriveGate

/-! Runs of tasks. -/

section

variable {ε : Type} (svc : Services ε) (reg : Registry (Runtime ε))

/-- Tasks for their users, one after another; one that cannot be started is passed over. -/
def runTasks : List (StructuredIntent × String) → Coroutine (Brain ε) Exn Unit
  | [] => pure ()
  | (intent, user) :: rest => do
    let _ ← Coroutine.attempt (runIntent svc reg intent user)
    runTasks rest

end

variable (s : Site)

/-- Where the droid would charge. -/
def station (m : Brain (SimWorld Stores)) : Option Pose :=
  m.rt.env.store.world.data.resolve s.equipment.text (.str "charging station")

/-- How far it is from `here` to the goal. -/
def distance (goal here : Pose) : PyFloat := s.math.hypot (goal.x - here.x) (goal.y - here.y)

/-- The droid is farther than `ARRIVAL_M` from its charging station. -/
def Away (m : Brain (SimWorld Stores)) : Prop :=
  ∃ goal, station s m = some goal ∧ arrivalM.lt (distance s goal m.rt.env.backend.pose) = true

/-- What else happens neither moves the droid nor touches its battery and the places it knows. -/
structure Apart (rt rt' : Runtime (SimWorld Stores)) : Prop where
  pose : rt'.env.backend.pose = rt.env.backend.pose
  charge : SameCharge rt.env.backend rt'.env.backend
  places : rt'.env.store.world.data.places = rt.env.store.world.data.places

def beside (m m' : Brain (SimWorld Stores)) : Prop := Apart m.rt m'.rt

/-- Where a run of tasks begins: the droid does not charge. -/
structure Begins (m : Brain (SimWorld Stores)) : Prop where
  unplugged : m.rt.env.backend.charging = false
  charged : Charged m.rt.env.backend

/-- The battery goes up. -/
def Rises (m m' : Brain (SimWorld Stores)) : Prop :=
  m.rt.env.backend.battery.lt m'.rt.env.backend.battery = true

/-- In every state of every run of driving tasks a droid away from its station does not
charge, and no step of the run raises its battery there. -/
def ChargesAtStation (reg : Registry (Runtime (SimWorld Stores))) (guard : Guard (Brain (SimWorld Stores))) :
    Prop :=
  ∀ tasks : List (StructuredIntent × String), (∀ t ∈ tasks, t.1.intent ∈ drivingIntents) →
    ∀ m, Begins m → ∀ r, ReflTransGen (Advance beside guard)
        (runTasks (simulated (furnished s)) reg tasks, m) r →
      (Away s r.2 → r.2.rt.env.backend.charging = false) ∧
      ∀ r', Advance beside guard r r' → Away s r.2 ∨ Away s r'.2 → ¬ Rises r.2 r'.2

/-- While the backend charges, no tick of a drive gets as far as its velocity command. -/
def unplugged : Guard (Brain (SimWorld Stores)) := fun m step =>
  ∀ goal d, step = (onRt (driveTick (simulated (furnished s)) goal d)).after →
    Goes (furnished s) goal m.rt → m.rt.env.backend.charging = false

/-! Steps that leave the droid and its battery alone. -/

section

variable {rt rt' rt'' : Runtime (SimWorld Stores)}

theorem Apart.rfl : Apart rt rt := ⟨by rfl, SameCharge.rfl, by rfl⟩

theorem Apart.trans (first : Apart rt rt') (second : Apart rt' rt'') : Apart rt rt'' :=
  ⟨second.pose.trans first.pose, first.charge.trans second.charge, second.places.trans first.places⟩

theorem apart_of_env (same : rt'.env = rt.env) : Apart rt rt' := by
  refine ⟨?_, ⟨?_, ?_⟩, ?_⟩ <;> rw [same]

end

variable {s}

theorem apart_worldly (rt : Runtime (SimWorld Stores)) :
    Worldly (simulated (furnished s)) (Apart rt) where
  beside _ _ holds env _ := holds.trans (apart_of_env env)
  reading call := keeps_iff.mpr fun rt' holds => by
    rw [outside_run, reading_same call]
    exact holds
  emit _ := keeps_iff.mpr fun _ holds => holds.trans ⟨rfl, SameCharge.rfl, rfl⟩
  publish _ := keeps_iff.mpr fun _ holds => holds.trans ⟨rfl, SameCharge.rfl, rfl⟩
  off := keeps_iff.mpr fun _ holds => holds.trans ⟨rfl, ⟨rfl, rfl⟩, rfl⟩

theorem apart_request (rt : Runtime (SimWorld Stores)) :
    Keeps (Apart rt) (requestMotionPermission (simulated (furnished s))) :=
  (apart_worldly rt).keeps_request (keeps_iff.mpr fun _ holds => holds.trans ⟨rfl, ⟨rfl, rfl⟩, rfl⟩)

private theorem apart_noteObstacle (rt : Runtime (SimWorld Stores)) (dist : PyFloat) :
    Keeps (Apart rt) (outside (noteObstacle (simulated (furnished s)) dist)) :=
  keeps_iff.mpr fun _ holds => holds.trans ⟨rfl, SameCharge.rfl, rfl⟩

/-! A drive without charging. -/

/-- The battery drains from a limit on, and the stores are as given. -/
private def Drains (limit : ℚ) (store : Stores) (w : SimWorld Stores) : Prop :=
  Draining limit w.backend ∧ w.store = store

private theorem drains_forward {limit : ℚ} {store : Stores} (vel : BodyVelocity) :
    Keeps (Drains limit store) (do
      commandBackend fun b => b.commandVelocity s.equipment.text s.math s.equipment.body vel driveDt
      zoom SimWorld.backend (fun b w => { w with backend := b }) (SimulationBackend.step driveDt)) := by
  refine keeps_bind (keeps_iff.mpr fun w holds => ?_) fun _ => keeps_zoom fun w holds => ?_
  · rcases answer : w.backend.commandVelocity s.equipment.text s.math s.equipment.body vel driveDt with e | b
    · rw [commandBackend, bind_error (t := w) (e := e) (by rw [readBackend, answer])]
      exact holds
    · rw [commandBackend, bind_ok (t := w) (a := b) (by rw [readBackend, answer])]
      exact ⟨holds.1.congr (commandVelocity_sameCharge _ _ _ answer), holds.2⟩
  · exact ⟨(step_draining (by norm_num : (0 : ℚ) ≤ 1 / 10)).after holds.1, holds.2⟩

/-- A droid that does not charge only loses charge on its way. -/
theorem drains_drive {limit : ℚ} {store : Stores} (vel : BodyVelocity) :
    Keeps (Drains limit store) (drive (furnished s) vel driveDt) := by
  unfold drive
  refine keeps_bind (keeps_ofExcept _) fun _ => keeps_ite (fun _ => keeps_raise _) fun _ => ?_
  refine keeps_bind (keeps_ofExcept _) fun _ => keeps_bind (keeps_ofExcept _) fun vel => ?_
  refine keeps_bind (keeps_reads _) fun policy => ?_
  cases policy with
  | none => exact drains_forward vel
  | some policy =>
    refine keeps_bind ?_ fun _ => drains_forward vel
    refine keeps_bind (keeps_modify fun _ holds => holds) fun _ => keeps_bind (keeps_ofExcept _) fun targets => ?_
    exact keeps_modify fun w holds => ⟨holds.1.congr (commandJoints_sameCharge w.backend targets), holds.2⟩

/-! What the tasks keep. -/

variable (s) in
/-- The droid is where a drive to the goal ends well. -/
def Near (goal : Pose) (m : Brain (SimWorld Stores)) : Prop :=
  (distance s goal m.rt.env.backend.pose).le arrivalM = true

variable (s) in
/-- A droid that charges is at its station. -/
structure Moored (place : Option Pose) (m : Brain (SimWorld Stores)) : Prop where
  station : station s m = place
  docked : m.rt.env.backend.charging = true → ∃ goal, place = some goal ∧ Near s goal m
  charged : Charged m.rt.env.backend

variable {place : Option Pose} {m m' : Brain (SimWorld Stores)}

theorem station_congr (apart : Apart m.rt m'.rt) : station s m' = station s m := by
  unfold station WorldModel.WorldData.resolve WorldModel.WorldData.getPlace
  rw [apart.places]

theorem near_congr {goal : Pose} (near : Near s goal m) (apart : Apart m.rt m'.rt) : Near s goal m' := by
  unfold Near at near ⊢
  rwa [apart.pose]

theorem Moored.apart (moored : Moored s place m) (apart : Apart m.rt m'.rt) : Moored s place m' where
  station := (station_congr apart).trans moored.station
  docked charging := by
    obtain ⟨goal, same, near⟩ := moored.docked (apart.charge.charging.symm.trans charging)
    exact ⟨goal, same, near_congr near apart⟩
  charged := by
    obtain ⟨q, positive, level⟩ := moored.charged
    exact ⟨q, positive, apart.charge.battery.trans level⟩

variable (s) in
/-- The runs of tasks in which no velocity command is sent while the droid charges. -/
def terms (place : Option Pose) : Terms (Brain (SimWorld Stores)) where
  rely := beside
  guard := unplugged s
  inv := Moored s place
  promise m m' := ¬ Rises m m'
  stable := Moored.apart

theorem stable_near (goal : Pose) : (terms s place).Stable (Near s goal) :=
  fun _ _ near apart => near_congr near apart

theorem stable_if_near (c : Prop) (goal : Pose) :
    (terms s place).Stable fun m => c → Near s goal m :=
  fun m m' near apart holds => stable_near goal m m' (near holds) apart

theorem apart_steady (apart : Apart m.rt m'.rt) : ¬ Rises m m' := by
  unfold Rises
  rw [apart.charge.battery]
  cases m.rt.env.backend.battery with
  | nan => exact Bool.false_ne_true
  | inf sign => cases sign <;> exact Bool.false_ne_true
  | fin q => simp [PyFloat.lt]

/-- An atom that leaves the droid and its battery alone, with what its value tells. -/
theorem triple_apart {α : Type} {p : Proc (Brain (SimWorld Stores)) Exn α} {P : Brain (SimWorld Stores) → Prop}
    {V : α → Prop} (stable : (terms s place).Stable P) (apart : ∀ m : Brain (SimWorld Stores), Apart m.rt (p m).2.rt)
    (tells : ∀ m a, Moored s place m → (p m).1 = .ok a → V a) :
    (terms s place).Triple P (atomically p) fun a m => V a ∧ P m := by
  have after (a : α) : (terms s place).Stable fun m => V a ∧ P m :=
    fun m m' holds other => ⟨holds.1, stable m m' holds.2 other⟩
  refine triple_atomically stable after fun m moored holds _ => ?_
  refine ⟨apart_steady (apart m), moored.apart (apart m), fun a value => ?_⟩
  exact ⟨tells m a moored value, stable m _ holds (apart m)⟩

/-- One whose value is not looked at. -/
theorem triple_silent {α : Type} {p : Proc (Brain (SimWorld Stores)) Exn α} {P : Brain (SimWorld Stores) → Prop}
    (stable : (terms s place).Stable P) (apart : ∀ m : Brain (SimWorld Stores), Apart m.rt (p m).2.rt) :
    (terms s place).Triple P (atomically p) fun _ => P :=
  (triple_apart (V := fun _ => True) stable apart fun _ _ _ _ => trivial).weaken (fun _ => id)
    fun _ _ _ => And.right

private theorem apart_onRt {α : Type} {p : Proc (Runtime (SimWorld Stores)) Exn α}
    (keeps : ∀ rt, Keeps (Apart rt) p) (m : Brain (SimWorld Stores)) : Apart m.rt (onRt p m).2.rt :=
  (keeps m.rt).after Apart.rfl

/-! Drives. -/

theorem velocityToward_remaining {goal here : Pose} {vel : BodyVelocity} {remaining : PyFloat}
    (toward : velocityToward (furnished s) goal here = .ok (vel, remaining)) :
    remaining = distance s goal here := by
  unfold velocityToward at toward
  rcases linear : SimulationBackend.maxLinear (furnished s).text (furnished s).body with e | maxLin <;>
    rw [linear] at toward
  · cases toward
  rcases angular : SimulationBackend.maxAngular (furnished s).text (furnished s).body with e | maxAng <;>
    rw [angular] at toward
  · cases toward
  · cases toward
    rfl

/-- A drive draws near its goal, or fails; a droid that charges stays where it is. -/
theorem triple_tick (goal : Pose) (d : DriveData) : (terms s place).Triple (fun _ => True)
    (atomically (onRt (driveTick (simulated (furnished s)) goal d)))
    fun r m => r.1 = some .success → Near s goal m := by
  refine triple_atomically stable_true (fun r => stable_if_near _ goal) fun m moored _ allowed => ?_
  rcases decided : decideTick (simulated (furnished s)) goal d m.rt with ⟨result, rt⟩
  have looked : Apart m.rt rt := by
    have kept : Apart m.rt (decideTick (simulated (furnished s)) goal d m.rt).2 :=
      ((sees_simulated (furnished s)).keeps_decideTick (apart_noteObstacle m.rt) goal d).after Apart.rfl
    rwa [decided] at kept
  have run : driveTick (simulated (furnished s)) goal d m.rt =
      (decideTick (simulated (furnished s)) goal d >>= commandTick (simulated (furnished s))) m.rt := by
    rw [driveTick_eq]
  rcases result with e | ⟨status, d'⟩ | ⟨vel, d'⟩
  · rw [bind_error decided] at run
    rw [onRt_run, run]
    refine ⟨apart_steady looked, moored.apart looked, fun a value => ?_⟩
    cases value
  · rw [bind_ok decided] at run
    rw [onRt_run, run]
    refine ⟨apart_steady looked, moored.apart looked, fun a value success => ?_⟩
    cases value
    cases success
    obtain ⟨rfl, vel, remaining, toward, near⟩ := arrived_of_decided (furnished s) decided
    rw [velocityToward_remaining toward] at near
    exact near
  · rw [bind_ok decided] at run
    obtain ⟨goes, rfl, -⟩ := goes_of_forwards (furnished s) ⟨d, d', decided⟩
    obtain ⟨q, positive, level⟩ := moored.charged
    have off : m.rt.env.backend.charging = false := allowed goal d rfl goes
    have driven : Drains q m.rt.env.store (drive (furnished s) vel driveDt m.rt.env).2 :=
      (drains_drive vel).after ⟨⟨off, q, positive, le_refl q, level⟩, rfl⟩
    obtain ⟨⟨still, left, positive', below, level'⟩, stores⟩ := driven
    rw [commandTick_run] at run
    rw [onRt_run, run]
    refine ⟨?_, ⟨?_, ?_, left, positive', level'⟩, fun a value success => ?_⟩
    · change ¬ m.rt.env.backend.battery.lt (drive (furnished s) vel driveDt m.rt.env).2.backend.battery = true
      rw [level, level']
      simp only [PyFloat.lt, decide_eq_true_eq, not_lt]
      exact below
    · rw [← moored.station]
      unfold station
      dsimp only
      rw [← stores]
      rfl
    · intro charging
      exact absurd (still.symm.trans charging) Bool.false_ne_true
    · dsimp only at value
      generalize (simulated (furnished s)).drive vel driveDt m.rt.env = outcome at value
      rcases outcome with ⟨e | _, w⟩ <;> cases value
      cases success

theorem triple_driveLoop (goal : Pose) (budget : ℕ) (d : DriveData) :
    (terms s place).Triple (fun _ => True) (driveLoop (simulated (furnished s)) goal budget d)
      fun r m => r.1 = .success → Near s goal m := by
  induction budget generalizing d with
  | zero => exact triple_pure stable_true fun _ _ failed => by cases failed
  | succ budget ih =>
    refine triple_bind (triple_tick goal d) fun ⟨ended, d'⟩ => ?_
    cases ended with
    | none => exact (ih d').weaken (fun _ _ => trivial) fun _ _ _ => id
    | some status =>
      exact triple_pure (stable_if_near _ goal) fun m near success => near (congrArg some success)

private theorem triple_runTree_navigate (goal : Pose) (d : DriveData) :
    (terms s place).Triple (fun _ => True)
      (runTree (navigateActions (simulated (furnished s)) goal) 10000 d)
      fun r m => r.1 = .success → Near s goal m := by
  have driven (d : DriveData) : (terms s place).Triple (fun _ => True)
      (driveLoop (simulated (furnished s)) goal maxDriveTicks d)
      fun r m => True ∧ (r.1 = .success → Near s goal m) :=
    (triple_driveLoop goal maxDriveTicks d).weaken (fun _ => id) fun _ _ _ near => ⟨trivial, near⟩
  have sequence : navigateActions (simulated (furnished s)) goal =
      [⟨"acquire_motion_permission", fun d => atomically (onRt (acquire (simulated (furnished s)) d))⟩,
        ⟨"enter_active", fun d => atomically (onRt (enterActive (simulated (furnished s)) d))⟩] ++
      [⟨"drive_to_goal", driveLoop (simulated (furnished s)) goal maxDriveTicks⟩] := rfl
  rw [sequence]
  refine (triple_runTree stable_true (stable_near goal) (fun action member d => ?_) driven 10000 d).weaken
    (fun _ => id) fun _ _ _ => And.right
  simp only [List.mem_cons, List.not_mem_nil, or_false] at member
  rcases member with rfl | rfl
  · refine triple_silent stable_true (apart_onRt fun rt => ?_)
    exact keeps_bind (apart_request rt) fun _ => keeps_pure _
  · exact triple_silent stable_true (apart_onRt fun rt => (apart_worldly rt).keeps_enterActive d)

private theorem triple_note {P : Brain (SimWorld Stores) → Prop} (stable : (terms s place).Stable P)
    (taskId label : String) : (terms s place).Triple P
      (atomically (onRt (taskStep taskId label : Proc (Runtime (SimWorld Stores)) Exn Unit))) fun _ => P :=
  triple_silent stable fun _ => apart_of_env rfl

/-- A drive that went well has ended near its goal. -/
theorem triple_driveTo (goal : Pose) (label : PyVal) (taskId : String) :
    (terms s place).Triple (fun _ => True) (driveTo (simulated (furnished s)) goal label taskId)
      fun r m => r.1 = true → Near s goal m := by
  refine triple_bind (triple_note stable_true _ _) fun _ => triple_bind (triple_note stable_true _ _) fun _ => ?_
  refine triple_bind (triple_runTree_navigate goal _) fun ⟨status, lastFailed, d⟩ => ?_
  have settled : (terms s place).Stable fun m => status = .success → Near s goal m := stable_if_near _ goal
  refine triple_bind (triple_silent settled (apart_onRt fun rt => (apart_worldly rt).keeps_endDrive d.held))
    fun _ => ?_
  exact triple_ite (fun success => triple_pure settled fun m near _ => near success)
    fun _ => triple_pure settled fun _ _ failed => by cases failed

/-! Tasks. -/

private theorem triple_resolve (dest : PyVal) : (terms s place).Triple (fun _ => True)
    (atomically (onRt (outside ((simulated (furnished s)).resolve dest))))
    fun found _ => (dest = .str "charging station" → place = found) ∧ True := by
  refine triple_apart stable_true (fun _ => apart_of_env rfl) fun _ found moored value same => ?_
  subst same
  cases value
  exact moored.station.symm

private theorem triple_hNavigate (task : Task) : (terms s place).Triple (fun _ => True)
    (hNavigate (simulated (furnished s)) task) fun _ _ => True := by
  refine triple_bind (triple_resolve _) fun found => ?_
  cases found with
  | none => exact triple_value _
  | some goal => exact triple_bind (triple_driveTo goal _ _).anywhere fun _ => triple_value _

private theorem triple_dock {goal : Pose} (found : place = some goal) : (terms s place).Triple
    (fun m => true = true → Near s goal m) (atomically (onRt (outside (dock (simulated (furnished s))))))
    fun _ _ => True := by
  refine triple_atomically (stable_if_near _ goal) (fun _ => stable_true) fun m moored near _ => ?_
  refine ⟨?_, ⟨moored.station, fun _ => ⟨goal, found, near rfl⟩, moored.charged⟩, fun _ _ => trivial⟩
  have steady : ¬ Rises m m := apart_steady Apart.rfl
  exact steady

private theorem triple_hGoCharge (task : Task) : (terms s place).Triple (fun _ => True)
    (hGoCharge (simulated (furnished s)) task) fun _ _ => True := by
  refine triple_bind (triple_resolve _) fun found => ?_
  cases found with
  | none => exact triple_value _
  | some goal =>
    by_cases known : place = some goal
    · refine triple_bind (triple_driveTo goal _ _).anywhere fun ⟨ok, _, _⟩ => ?_
      have docks : (terms s place).Triple (fun m => ok = true → Near s goal m)
          (atomically (onRt (outside (if ok then dock (simulated (furnished s)) else pure []))))
          fun _ _ => True := by
        cases ok with
        | true => exact triple_dock known
        | false => exact (triple_silent stable_true fun _ => Apart.rfl).anywhere
      exact triple_bind docks fun _ => triple_value _
    · exact fun m moored same => absurd (same.1 rfl) known

private theorem apart_inspect (task : Task) (drive : Items) (m : Brain (SimWorld Stores)) :
    Apart m.rt (inspectTarget (simulated (furnished s)) task drive m).2.rt := by
  refine ((apart_worldly m.rt).keeps_inspectTarget (fun target => ?_) task drive).after Apart.rfl
  refine keeps_iff.mpr fun rt holds => ?_
  change Apart m.rt (outside (stored fun b => ofExcept
    (Perception.inspect s.equipment.text s.equipment.body b target)) rt).2
  rw [outside_run, stored, ofExcept_run]
  exact holds

private theorem triple_hInspect (task : Task) : (terms s place).Triple (fun _ => True)
    (hInspect (simulated (furnished s)) task) fun _ _ => True := by
  refine triple_ite (fun _ => ?_) fun _ => triple_silent stable_true (apart_inspect task [])
  refine triple_bind (triple_resolve _) fun found => ?_
  cases found with
  | none => exact triple_value _
  | some goal =>
    refine triple_bind (triple_driveTo goal _ _).anywhere fun ⟨ok, drive, _⟩ => ?_
    exact triple_ite (fun _ => (triple_silent stable_true (apart_inspect task drive)).anywhere)
      fun _ => triple_value _

variable (reg : Registry (Runtime (SimWorld Stores)))

private theorem triple_handler {task : Task} (drives : task.intent ∈ drivingIntents) :
    (terms s place).Triple (fun _ => True) (handlerFor (simulated (furnished s)) reg task.intent task)
      fun _ _ => True := by
  simp only [drivingIntents, List.mem_cons, List.not_mem_nil, or_false] at drives
  rcases drives with named | named | named <;> rw [named]
  · exact triple_hNavigate task
  · exact triple_hGoCharge task
  · exact triple_hInspect task

theorem triple_runIntent {intent : StructuredIntent} (drives : intent.intent ∈ drivingIntents) (user : String) :
    (terms s place).Triple (fun _ => True) (runIntent (simulated (furnished s)) reg intent user)
      fun _ _ => True := by
  have started (m : Brain (SimWorld Stores)) :
      Apart m.rt (onRt (startTask (simulated (furnished s)) intent user) m).2.rt :=
    apart_onRt (fun rt => (apart_worldly rt).keeps_startTask
      (fun _ holds => holds.trans (apart_of_env rfl)) intent user) m
  refine triple_bind (triple_apart stable_true started fun _ task _ value => startTask_intent value)
    fun task m moored named => ?_
  rw [← named.1] at drives ⊢
  refine triple_bind (triple_attempt (triple_handler reg drives)).forget (fun outcome => ?_) m moored trivial
  exact triple_silent stable_true (apart_onRt fun rt => (apart_worldly rt).keeps_finish task user _)

theorem triple_runTasks {tasks : List (StructuredIntent × String)} (drives : ∀ t ∈ tasks, t.1.intent ∈ drivingIntents) :
    (terms s place).Triple (fun _ => True) (runTasks (simulated (furnished s)) reg tasks) fun _ _ => True := by
  induction tasks with
  | nil => exact triple_value _
  | cons t tasks ih =>
    have first : (terms s place).Triple (fun _ => True) (runIntent (simulated (furnished s)) reg t.1 t.2)
        fun _ _ => True := triple_runIntent reg (drives t List.mem_cons_self) t.2
    refine triple_bind (triple_attempt first).forget fun _ => ih fun u member => ?_
    exact drives u (List.mem_cons_of_mem t member)

/-! Runs. -/

private theorem not_lt_of_le {a b : PyFloat} (le : a.le b = true) : ¬ b.lt a = true := by
  obtain ⟨number, number'⟩ := PyFloat.le_number le
  rw [PyFloat.lt_eq_not_le number' number, le]
  exact Bool.false_ne_true

/-- As long as no velocity command is sent while the droid charges, it charges at its
station only, and its battery goes up nowhere else. -/
theorem chargesAtStation_unplugged (s : Site) (reg : Registry (Runtime (SimWorld Stores))) :
    ChargesAtStation s reg (unplugged s) := by
  intro tasks drives m begins r run
  have moored : Moored s (station s m) m :=
    ⟨rfl, fun charging => absurd (begins.unplugged.symm.trans charging) Bool.false_ne_true, begins.charged⟩
  have led : ReflTransGen (Advance (terms s (station s m)).rely (terms s (station s m)).guard)
      (runTasks (simulated (furnished s)) reg tasks, m) r := run
  have upholds : (terms s (station s m)).Upholds (fun _ _ => True) r.1 r.2 := by
    refine Terms.Upholds.reaches ?_ led
    exact triple_runTasks reg drives m moored trivial
  refine ⟨?_, ?_⟩
  · rintro ⟨goal, known, far⟩
    rw [Bool.eq_false_iff]
    intro charging
    obtain ⟨goal', same, near⟩ := upholds.inv.docked charging
    obtain rfl : goal' = goal := Option.some.inj (same.symm.trans (upholds.inv.station.symm.trans known))
    exact not_lt_of_le near far
  · rintro r' step -
    cases step with
    | atom allowed => exact upholds.promise allowed
    | beside other => exact apart_steady other

/-! A droid that charges and then goes to the hallway. -/

def toCharge : StructuredIntent where
  intent := "navigation.go_charge"
  requiresMotion := true

/-- Two tasks for a droid that is parked at its station. -/
def chargeAndGo : List (StructuredIntent × String) := [(toCharge, "operator"), (toHallway, "operator")]

def parkedServices : Registry (Runtime (SimWorld Stores)) :=
  Registration.droidServices (simulated (furnished wheeledSite))

/-- The first of them alone leaves it charging where it is. -/
example : ((runTasks (simulated (furnished wheeledSite)) parkedServices [(toCharge, "operator")]).run
    parked).2.rt.env.backend.charging = true := by decide +kernel

/-- Where a run that nothing interrupts has ended away from the station with charging on. -/
private theorem not_chargesAtStation {s : Site} {reg : Registry (Runtime (SimWorld Stores))}
    {tasks : List (StructuredIntent × String)} (drives : ∀ t ∈ tasks, t.1.intent ∈ drivingIntents)
    {m : Brain (SimWorld Stores)} (begins : Begins m)
    (ends : ((fun m' => ((station s m').map fun goal => arrivalM.lt (distance s goal m'.rt.env.backend.pose),
      m'.rt.env.backend.charging)) ((runTasks (simulated (furnished s)) reg tasks).run m).2) = (some true, true)) :
    ¬ ChargesAtStation s reg free := by
  intro holds
  have reached := (holds tasks drives m begins _ (reaches_run beside _ m)).1
  obtain ⟨far, charging⟩ := Prod.mk.inj ends
  have off := reached (Option.map_eq_some_iff.mp far)
  exact Bool.false_ne_true (off.symm.trans charging)

/-- It drives off and charges on. -/
theorem charges_underway : ¬ ChargesAtStation wheeledSite parkedServices free := by
  have driving : ∀ t ∈ chargeAndGo, t.1.intent ∈ drivingIntents := by decide +kernel
  have begins : Begins parked := ⟨by decide +kernel, ⟨78, by decide, by decide +kernel⟩⟩
  exact not_chargesAtStation driving begins (by decide +kernel)

end DroidOs.System.Docking
