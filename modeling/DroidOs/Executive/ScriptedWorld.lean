/- GID: DroidOs/Executive/ScriptedWorld
   generality: I
   digest: A world whose every answer is written down beforehand, and a drive through it. -/

import DroidOs.Executive.Drive

set_option autoImplicit false
set_option relaxedAutoImplicit false

namespace DroidOs.Executive.ScriptedWorld

open DroidOs.Lib.Procedure DroidOs.Lib.Interleaving
open DroidOs.Core.Values DroidOs.Core.States DroidOs.Core.Context
open DroidOs.Body.Package
open DroidOs.Services.Lifecycle DroidOs.Services.Supervisor
open BehaviourTree Drive

/-- How the calls of one round of the drive loop end. `contactor` is what the
safety controller's broadcast says when the drive command drains the bus. -/
structure Tick where
  localization : Except Exn Bool
  blocked : Except Exn (Bool × Option PyFloat)
  obstacle : Except Exn Unit
  velocity : Except Exn (BodyVelocity × PyFloat)
  drive : Except Exn Unit
  contactor : Option Bool

/-- How every outside call ends: by a value or by an exception, at the choice of
the script. Calls that a run can repeat are numbered. `telemetry` is the
contactor state that a reading of the backend decodes from the bus, if any. -/
structure Script where
  text : PyText
  droidName : String
  body : LoadedBody
  backendKind : String
  connect : Except Exn Unit
  shutdown : Except Exn Unit
  setPower : Bool → Except Exn Unit
  battery : Except Exn BatteryState
  actuatorNames : List String
  readAllActuators : Except Exn (List ActuatorState)
  readSensor : String → Except Exn SensorReading
  pose : Nat → Except Exn Pose
  busOnline : Option (Except Exn Bool)
  setCharging : Option (Bool → Except Exn Unit)
  resolve : PyVal → Except Exn (Option Pose)
  knownPlaces : Except Exn (List String)
  traversable : PyVal → Except Exn (Bool × String)
  tick : Nat → Tick
  stop : Except Exn Unit
  inspect : PyVal → Except Exn Items
  tool : String → Items → Except Exn TaskResult
  configure : String → Except Exn Unit
  emit : AuditRecord → Except Exn Unit
  publish : Event → Except Exn Unit
  telemetry : Option Bool

/-- The state of the scripted world: rounds driven, poses read, and the backend's
power flag. -/
structure World where
  rounds : Nat := 0
  poses : Nat := 0
  power : Bool := false

/-- The power flag follows the contactor state decoded from the bus. -/
def World.hear (reported : Option Bool) (w : World) : World :=
  { w with power := reported.getD w.power }

variable {α : Type}

/-- A call that does not touch the bus. -/
def answer (r : Except Exn α) : Proc World Exn α := fun w => (r, w)

/-- A call that drains the bus before it ends. -/
def reading (s : Script) (r : Except Exn α) : Proc World Exn α := fun w => (r, w.hear s.telemetry)

/-- The information handlers that read the backend. -/
def readingTools : List String :=
  ["robot.get_battery", "robot.get_temperature", "diagnostics.collect", "diagnostics.summary"]

def scripted (s : Script) : Services World where
  text := s.text
  droidName := s.droidName
  body := s.body
  backendKind := s.backendKind
  connect := answer s.connect
  shutdown := fun w => match s.shutdown with
    | .ok () => (.ok (), { w with power := false })
    | .error e => (.error e, w)
  setPower := fun on w => match s.setPower on with
    | .ok () => (.ok (), { w with power := on })
    | .error e => (.error e, w)
  powerEnabled := World.power
  battery := reading s s.battery
  actuatorNames := fun _ => s.actuatorNames
  readAllActuators := reading s s.readAllActuators
  readSensor := fun id => answer (s.readSensor id)
  pose := fun w => (s.pose w.poses, { w with poses := w.poses + 1 })
  busOnline := s.busOnline.map answer
  setCharging := s.setCharging.map fun f on => answer (f on)
  resolve := fun name => answer (s.resolve name)
  knownPlaces := answer s.knownPlaces
  traversable := fun name => answer (s.traversable name)
  localizationOk := fun w => ((s.tick w.rounds).localization, w)
  isPathBlocked := fun w => ((s.tick w.rounds).blocked, w)
  setObstacle := fun _ _ w => ((s.tick w.rounds).obstacle, w)
  velocityToward := fun _ _ w => ((s.tick w.rounds).velocity, w)
  drive := fun _ _ w =>
    ((s.tick w.rounds).drive, { w with rounds := w.rounds + 1 }.hear (s.tick w.rounds).contactor)
  stop := reading s s.stop
  inspect := fun target => answer (s.inspect target)
  tool := fun intent arguments =>
    if intent ∈ readingTools then reading s (s.tool intent arguments)
    else answer (s.tool intent arguments)
  configure := fun name => answer (s.configure name)
  emit := fun r => answer (s.emit r)
  publish := fun e => answer (s.publish e)

@[simp] theorem scripted_setPower (s : Script) (on : Bool) (w : World) :
    (scripted s).setPower on w = match s.setPower on with
      | .ok () => (.ok (), { w with power := on })
      | .error e => (.error e, w) := rfl
@[simp] theorem scripted_shutdown (s : Script) (w : World) :
    (scripted s).shutdown w = match s.shutdown with
      | .ok () => (.ok (), { w with power := false })
      | .error e => (.error e, w) := rfl
@[simp] theorem scripted_emit (s : Script) (r : AuditRecord) (w : World) :
    (scripted s).emit r w = (s.emit r, w) := rfl
@[simp] theorem scripted_publish (s : Script) (e : Event) (w : World) :
    (scripted s).publish e w = (s.publish e, w) := rfl
@[simp] theorem scripted_localizationOk (s : Script) (w : World) :
    (scripted s).localizationOk w = ((s.tick w.rounds).localization, w) := rfl
@[simp] theorem scripted_isPathBlocked (s : Script) (w : World) :
    (scripted s).isPathBlocked w = ((s.tick w.rounds).blocked, w) := rfl
@[simp] theorem scripted_setObstacle (s : Script) (x y : PyFloat) (w : World) :
    (scripted s).setObstacle x y w = ((s.tick w.rounds).obstacle, w) := rfl
@[simp] theorem scripted_pose (s : Script) (w : World) :
    (scripted s).pose w = (s.pose w.poses, { w with poses := w.poses + 1 }) := rfl
@[simp] theorem scripted_velocityToward (s : Script) (goal here : Pose) (w : World) :
    (scripted s).velocityToward goal here w = ((s.tick w.rounds).velocity, w) := rfl
@[simp] theorem scripted_drive (s : Script) (vel : BodyVelocity) (dt : PyFloat) (w : World) :
    (scripted s).drive vel dt w = ((s.tick w.rounds).drive,
      { w with rounds := w.rounds + 1 }.hear (s.tick w.rounds).contactor) := rfl

/-! One round of the drive loop. -/

/-- What a round does to the loop. -/
inductive Round
  | raises | ends | goesOn
  deriving DecidableEq

/-- Whether a call returned. -/
def returns : Except Exn α → Bool
  | .ok _ => true
  | .error _ => false

@[simp] theorem returns_ok (a : α) : returns (.ok a) = true := rfl
@[simp] theorem returns_error (e : Exn) : returns (.error e : Except Exn α) = false := rfl

/-- The outcome of round `n`, read off the answers to its calls. -/
def Script.round (s : Script) (n : Nat) : Round :=
  let t := s.tick n
  match t.localization, t.blocked, t.velocity with
  | .error _, _, _ => .raises
  | .ok false, _, _ => .ends
  | .ok true, .error _, _ => .raises
  | .ok true, .ok (true, none), _ => .ends
  | .ok true, .ok (true, some _), _ =>
    if returns (s.pose n) && returns (s.pose (n + 1)) && returns t.obstacle then .ends else .raises
  | .ok true, .ok (false, _), .error _ => .raises
  | .ok true, .ok (false, _), .ok (_, remaining) =>
    if !returns (s.pose n) then .raises
    else if remaining.le arrivalM then .ends
    else if returns t.drive then .goesOn else .raises

/-- The world once round `n` has been driven. -/
def Script.driven (s : Script) (n : Nat) (w : World) : World :=
  { rounds := n + 1, poses := n + 1, power := (s.tick n).contactor.getD w.power }

/-- A round that does not go on leaves the power flag as it was. -/
inductive RoundRun (s : Script) (n : Nat) (d : DriveData) (rt : Runtime World) :
    Except Exn (Option Status × DriveData) × Runtime World → Prop
  | raises {e : Exn} {w : World} : s.round n = .raises →
      RoundRun s n d rt (.error e, { rt with env := w })
  | ends {status : Status} {d' : DriveData} {w : World} : s.round n = .ends →
      status ≠ .running → d'.held = d.held → w.power = rt.env.power →
      RoundRun s n d rt (.ok (some status, d'), { rt with env := w })
  | goesOn {d' : DriveData} : s.round n = .goesOn → d'.held = d.held →
      RoundRun s n d rt (.ok (none, d'), { rt with env := s.driven n rt.env })

/-- Noting the obstacle reads the pose twice and fails with any of its calls. -/
private theorem noteObstacle_run (s : Script) (dist : PyFloat) (w : World) :
    ∃ poses, (noteObstacle (scripted s) dist w).2 = { w with poses := poses } ∧
      returns (noteObstacle (scripted s) dist w).1 =
        (returns (s.pose w.poses) && returns (s.pose (w.poses + 1)) &&
          returns (s.tick w.rounds).obstacle) := by
  unfold noteObstacle
  rcases first : s.pose w.poses with e | ahead
  · exact ⟨w.poses + 1, by simp [bind_run, first]⟩
  rcases second : s.pose (w.poses + 1) with e | here
  · exact ⟨w.poses + 2, by simp [bind_run, first, second]⟩
  · exact ⟨w.poses + 2, by simp [bind_run, first, second]⟩

theorem driveTick_run (s : Script) (goal : Pose) (n : Nat) (d : DriveData) (rt : Runtime World)
    (rounds : rt.env.rounds = n) (poses : rt.env.poses = n) (going : rt.cancelled = false) :
    RoundRun s n d rt (driveTick (scripted s) goal d rt) := by
  unfold driveTick
  rw [reads_bind, going]
  simp only [Bool.false_eq_true, if_false]
  rcases localization : (s.tick n).localization with e | here
  · have run : outside (scripted s).localizationOk rt = (.error e, rt) := by
      simp [rounds, localization]
    rw [bind_error run]
    exact .raises (w := rt.env) (by simp [Script.round, localization])
  have run : outside (scripted s).localizationOk rt = (.ok here, rt) := by
    simp [rounds, localization]
  rw [bind_ok run]
  cases here with
  | false => exact .ends (w := rt.env) (by simp [Script.round, localization]) (by decide) rfl rfl
  | true =>
  simp only [Bool.not_true, Bool.false_eq_true, if_false]
  rcases blocked : (s.tick n).blocked with e | ⟨stopped, dist⟩
  · have run : outside (scripted s).isPathBlocked rt = (.error e, rt) := by
      simp [rounds, blocked]
    rw [bind_error run]
    exact .raises (w := rt.env) (by simp [Script.round, localization, blocked])
  have run : outside (scripted s).isPathBlocked rt = (.ok (stopped, dist), rt) := by
    simp [rounds, blocked]
  rw [bind_ok run]
  cases stopped with
  | true =>
    simp only [if_true]
    cases dist with
    | none =>
      exact .ends (w := rt.env) (by simp [Script.round, localization, blocked]) (by decide) rfl rfl
    | some dist =>
      obtain ⟨count, after, answered⟩ := noteObstacle_run s dist rt.env
      rw [rounds, poses] at answered
      dsimp only
      rcases noted : noteObstacle (scripted s) dist rt.env with ⟨e | ⟨⟩, w⟩ <;>
        rw [noted] at after answered
      · have run : outside (noteObstacle (scripted s) dist) rt = (.error e, { rt with env := w }) := by
          simp [noted]
        rw [bind_error run]
        exact .raises (by simp [Script.round, localization, blocked, ← answered])
      · have run : outside (noteObstacle (scripted s) dist) rt = (.ok (), { rt with env := w }) := by
          simp [noted]
        rw [bind_ok run]
        refine .ends ?_ (by decide) rfl (by simp [show w = _ from after])
        simp [Script.round, localization, blocked, ← answered]
  | false =>
    simp only [Bool.false_eq_true, if_false]
    rcases read : s.pose n with e | here
    · have run : outside (scripted s).pose rt =
          (.error e, { rt with env := { rt.env with poses := n + 1 } }) := by
        simp [poses, read]
      rw [bind_error run]
      refine .raises ?_
      rcases aim : (s.tick n).velocity with e | ⟨vel, remaining⟩ <;>
        simp [Script.round, localization, blocked, aim, read]
    have run : outside (scripted s).pose rt =
        (.ok here, { rt with env := { rt.env with poses := n + 1 } }) := by
      simp [poses, read]
    rw [bind_ok run]
    rcases aim : (s.tick n).velocity with e | ⟨vel, remaining⟩
    · rw [bind_error (e := e) (t := { rt with env := { rt.env with poses := n + 1 } })
        (by simp [rounds, aim])]
      exact .raises (by simp [Script.round, localization, blocked, aim])
    rw [bind_ok (a := (vel, remaining)) (t := { rt with env := { rt.env with poses := n + 1 } })
      (by simp [rounds, aim])]
    by_cases arrived : remaining.le arrivalM = true
    · simp only [arrived, if_true]
      refine .ends ?_ (by decide) rfl rfl
      simp [Script.round, localization, blocked, aim, read, arrived]
    simp only [arrived, if_false, Bool.false_eq_true]
    rcases driven : (s.tick n).drive with e | ⟨⟩
    · rw [bind_error (e := e) (by simp [rounds, driven]; rfl)]
      exact .raises (by simp [Script.round, localization, blocked, aim, read, arrived, driven])
    · rw [bind_ok (a := ()) (t := { rt with env := s.driven n rt.env })
        (by simp [rounds, driven, World.hear, Script.driven])]
      exact .goesOn (by simp [Script.round, localization, blocked, aim, read, arrived, driven]) rfl

/-! The whole loop. -/

/-- The power flag after the rounds from `n` on, unless one of them raises. -/
def Script.powerAfter (s : Script) : Nat → Nat → Bool → Option Bool
  | 0, _, power => some power
  | fuel + 1, n, power => match s.round n with
    | .raises => none
    | .ends => some power
    | .goesOn => s.powerAfter fuel (n + 1) ((s.tick n).contactor.getD power)

/-- Round `n` is driven: it and every round before it go on, within the budget. -/
def Script.Driven (s : Script) (budget n : Nat) : Prop :=
  n < budget ∧ ∀ k ≤ n, s.round k = .goesOn

/-- Some round within the budget raises, and every round before it goes on. -/
def Script.DriveRaises (s : Script) (budget : Nat) : Prop :=
  ∃ n < budget, s.round n = .raises ∧ ∀ k < n, s.round k = .goesOn

/-- The last broadcast decoded while driving says that the contactor is open. -/
def Script.HeardOpen (s : Script) (budget : Nat) : Prop :=
  ∃ n, s.Driven budget n ∧ (s.tick n).contactor = some false ∧
    ∀ k > n, s.Driven budget k → (s.tick k).contactor = none

/-- The script as it reads from round `n` on. -/
private def Script.from (s : Script) (n : Nat) : Script :=
  { s with tick := fun k => s.tick (n + k), pose := fun k => s.pose (n + k) }

private theorem round_from (s : Script) (n k : Nat) : (s.from n).round k = s.round (n + k) := rfl

private theorem driven_succ (s : Script) (budget n : Nat) (first : s.round 0 = .goesOn) :
    s.Driven (budget + 1) (n + 1) ↔ (s.from 1).Driven budget n := by
  unfold Script.Driven
  constructor
  · rintro ⟨low, go⟩
    refine ⟨by omega, fun k le => ?_⟩
    rw [round_from]
    exact go (1 + k) (by omega)
  · rintro ⟨low, go⟩
    refine ⟨by omega, fun k le => ?_⟩
    cases k with
    | zero => exact first
    | succ k =>
      have := go k (by omega)
      rwa [round_from, Nat.add_comm] at this

private theorem powerAfter_from (s : Script) (fuel : Nat) : ∀ (n m : Nat) (power : Bool),
    (s.from n).powerAfter fuel m power = s.powerAfter fuel (n + m) power := by
  induction fuel with
  | zero => exact fun _ _ _ => rfl
  | succ fuel ih =>
    intro n m power
    simp only [Script.powerAfter, round_from]
    cases s.round (n + m) with
    | raises => rfl
    | ends => rfl
    | goesOn => exact ih n (m + 1) _

theorem powerAfter_none_iff (s : Script) (budget : Nat) (power : Bool) :
    s.powerAfter budget 0 power = none ↔ s.DriveRaises budget := by
  induction budget generalizing s power with
  | zero => simp [Script.powerAfter, Script.DriveRaises]
  | succ budget ih =>
    rcases first : s.round 0 with _ | _ | _
    · simp only [Script.powerAfter, first, true_iff]
      exact ⟨0, by omega, first, by simp⟩
    · simp only [Script.powerAfter, first, reduceCtorEq, false_iff]
      rintro ⟨n, -, raises, before⟩
      cases n with
      | zero => simp [first] at raises
      | succ n => exact absurd (before 0 (by omega)) (by simp [first])
    · simp only [Script.powerAfter, first]
      rw [show s.powerAfter budget (0 + 1) _ = (s.from 1).powerAfter budget 0 _ from
        (powerAfter_from s budget 1 0 _).symm, ih]
      constructor
      · rintro ⟨n, low, raises, before⟩
        refine ⟨n + 1, by omega, ?_, fun k less => ?_⟩
        · rwa [round_from, Nat.add_comm] at raises
        · cases k with
          | zero => exact first
          | succ k =>
            have := before k (by omega)
            rwa [round_from, Nat.add_comm] at this
      · rintro ⟨n, low, raises, before⟩
        cases n with
        | zero => simp [first] at raises
        | succ n =>
          refine ⟨n, by omega, ?_, fun k less => ?_⟩
          · rwa [round_from, Nat.add_comm]
          · rw [round_from, Nat.add_comm]
            exact before (k + 1) (by omega)

private theorem tick_from (s : Script) (n : Nat) : (s.from 1).tick n = s.tick (n + 1) :=
  congrArg s.tick (Nat.add_comm 1 n)

/-- The first round driven counts only if the later ones hear nothing. -/
private theorem heardOpen_succ (s : Script) (budget : Nat) (first : s.round 0 = .goesOn) :
    s.HeardOpen (budget + 1) ↔ (s.from 1).HeardOpen budget ∨
      ((s.tick 0).contactor = some false ∧
        ∀ n, (s.from 1).Driven budget n → ((s.from 1).tick n).contactor = none) := by
  simp only [tick_from]
  constructor
  · rintro ⟨n, driven, heard, silent⟩
    cases n with
    | zero =>
      right
      refine ⟨heard, fun k later => ?_⟩
      exact silent (k + 1) (by omega) ((driven_succ s budget k first).mpr later)
    | succ n =>
      left
      refine ⟨n, (driven_succ s budget n first).mp driven, by rw [tick_from]; exact heard, ?_⟩
      intro k later driven
      rw [tick_from]
      exact silent (k + 1) (by omega) ((driven_succ s budget k first).mpr driven)
  · rintro (⟨n, driven, heard, silent⟩ | ⟨heard, silent⟩)
    · refine ⟨n + 1, (driven_succ s budget n first).mpr driven, by rw [← tick_from]; exact heard, ?_⟩
      intro k later driven
      cases k with
      | zero => omega
      | succ k =>
        rw [← tick_from]
        exact silent k (by omega) ((driven_succ s budget k first).mp driven)
    · refine ⟨0, ⟨by omega, fun k le => ?_⟩, heard, fun k later driven => ?_⟩
      · rwa [Nat.le_zero.mp le]
      · cases k with
        | zero => omega
        | succ k => exact silent k ((driven_succ s budget k first).mp driven)

private theorem silent_succ (s : Script) (budget : Nat) (first : s.round 0 = .goesOn) :
    (∀ n, s.Driven (budget + 1) n → (s.tick n).contactor = none) ↔
      (s.tick 0).contactor = none ∧
        ∀ n, (s.from 1).Driven budget n → ((s.from 1).tick n).contactor = none := by
  simp only [tick_from]
  constructor
  · intro silent
    refine ⟨silent 0 ⟨by omega, fun k le => ?_⟩, fun n driven => ?_⟩
    · rwa [Nat.le_zero.mp le]
    · exact silent (n + 1) ((driven_succ s budget n first).mpr driven)
  · rintro ⟨now, later⟩ n driven
    cases n with
    | zero => exact now
    | succ n => exact later n ((driven_succ s budget n first).mp driven)

/-- The flag a drive leaves: what was heard last, or the flag it began with. -/
theorem powerAfter_some (s : Script) (budget : Nat) (power after : Bool)
    (ends : s.powerAfter budget 0 power = some after) :
    after = false ↔ s.HeardOpen budget ∨
      (power = false ∧ ∀ n, s.Driven budget n → (s.tick n).contactor = none) := by
  induction budget generalizing s power with
  | zero =>
    obtain rfl : power = after := by simpa [Script.powerAfter] using ends
    simp [Script.HeardOpen, Script.Driven]
  | succ budget ih =>
    rcases first : s.round 0 with _ | _ | _
    · simp [Script.powerAfter, first] at ends
    · obtain rfl : power = after := by simpa [Script.powerAfter, first] using ends
      have none (n : Nat) : ¬ s.Driven (budget + 1) n := fun ⟨_, go⟩ => by
        simpa [first] using go 0 (by omega)
      simp [Script.HeardOpen, none]
    · simp only [Script.powerAfter, first] at ends
      rw [show s.powerAfter budget (0 + 1) _ = (s.from 1).powerAfter budget 0 _ from
        (powerAfter_from s budget 1 0 _).symm] at ends
      rw [ih (s.from 1) _ ends, heardOpen_succ s budget first, silent_succ s budget first]
      rcases (s.tick 0).contactor with _ | _ | _ <;> simp

/-- The same brain in another outside world. -/
def inWorld (w : World) (m : Brain World) : Brain World :=
  { m with rt := { m.rt with env := w } }

/-- The loop touches the outside world alone. -/
inductive LoopRun (d : DriveData) (m : Brain World) :
    Option Bool → Except Exn (Status × DriveData) × Brain World → Prop
  | raises {e : Exn} {w : World} : LoopRun d m none (.error e, inWorld w m)
  | returns {status : Status} {d' : DriveData} {w : World} : status ≠ .running →
      d'.held = d.held → LoopRun d m (some w.power) (.ok (status, d'), inWorld w m)

theorem driveLoop_run (s : Script) (goal : Pose) (fuel : Nat) :
    ∀ (n : Nat) (d : DriveData) (m : Brain World), m.rt.env.rounds = n → m.rt.env.poses = n →
      m.rt.cancelled = false →
      LoopRun d m (s.powerAfter fuel n m.rt.env.power)
        ((driveLoop (scripted s) goal fuel d).run m) := by
  induction fuel with
  | zero => exact fun n d m _ _ _ => .returns (w := m.rt.env) (by decide) rfl
  | succ fuel ih =>
    intro n d m rounds poses going
    have first := driveTick_run s goal n d m.rt rounds poses going
    rw [driveLoop, Coroutine.run_bind, Coroutine.run_atomically]
    generalize ran : driveTick (scripted s) goal d m.rt = outcome at first
    have here : onRt (driveTick (scripted s) goal d) m =
        (outcome.1, { m with rt := outcome.2 }) := by
      simp [ran]
    cases first with
    | raises round =>
      rw [bind_error here]
      simp only [Script.powerAfter, round]
      exact .raises
    | ends round settled held power =>
      rw [bind_ok here]
      simp only [Script.powerAfter, round, ← power]
      exact .returns settled held
    | @goesOn d' round held =>
      rw [bind_ok here]
      simp only [Script.powerAfter, round]
      change LoopRun d m (s.powerAfter fuel (n + 1) (inWorld (s.driven n m.rt.env) m).rt.env.power)
        ((driveLoop (scripted s) goal fuel d').run (inWorld (s.driven n m.rt.env) m))
      have rest := ih (n + 1) d' (inWorld (s.driven n m.rt.env) m) rfl rfl going
      generalize (driveLoop (scripted s) goal fuel d').run _ = outcome at rest ⊢
      generalize s.powerAfter fuel (n + 1) _ = after at rest ⊢
      cases rest with
      | raises => exact .raises
      | returns settled same => exact .returns settled (same.trans held)

end DroidOs.Executive.ScriptedWorld
