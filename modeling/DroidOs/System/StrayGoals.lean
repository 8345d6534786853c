/- GID: DroidOs/System/StrayGoals
   generality: I
   source: src/droidos/executive/executive.py, src/droidos/services/motion.py, src/droidos/services/navigation.py
   digest: Requests to go to a stored place that is no finite point, and when they send a velocity. -/

import DroidOs.Language.Approval
import DroidOs.System.Furnished
import DroidOs.System.SentVelocities

set_option autoImplicit false
set_option relaxedAutoImplicit false

namespace DroidOs.System.StrayGoals

open DroidOs.Lib.Procedure DroidOs.Lib.Interleaving
open DroidOs.Lib.Interleaving.Coroutine (atomically)
open DroidOs.Core.Values DroidOs.Core.States DroidOs.Core.Context
open DroidOs.Backends.Simulation
open SimulationBackend (clamp maxLinear maxAngular)
open DroidOs.Services DroidOs.Services.Lifecycle DroidOs.Services.SafetyGateway DroidOs.Services.Supervisor
open DroidOs.Services.Readiness
open DroidOs.Executive.BehaviourTree DroidOs.Executive.Drive DroidOs.Executive.RunIntent
open DroidOs.Executive.Tools
open DroidOs.Language.Intent DroidOs.Language.Broker DroidOs.Language.Approval DroidOs.Language.Conversation
open TaskSteps TaskLaw WorldLaw Simulated Furnished DriveLimits DriveGate SentVelocities

/-! Goals that are no finite point. -/

/-- `math.isfinite`. -/
def isFinite (x : PyFloat) : Bool := !(x.isNan || x.isInf)

/-- A coordinate is NaN or infinite. -/
def Stray (goal : Pose) : Prop := (isFinite goal.x && isFinite goal.y) = false

/-- `math.hypot` of a side that is not finite is NaN or infinite. -/
def HypotLaw (math : Libm) : Prop :=
  ∀ x y, (isFinite x && isFinite y) = false → math.hypot x y = .nan ∨ math.hypot x y = .inf false

section

variable {δ : Type} {s : Surroundings δ} {goal here : Pose} {vel v : BodyVelocity} {remaining : PyFloat}

private theorem isFinite_sub {x : PyFloat} (stray : isFinite x = false) (y : PyFloat) :
    isFinite (x - y) = false := by
  cases x with
  | nan => rfl
  | inf sign =>
    cases y with
    | nan => rfl
    | inf sign' => cases sign <;> cases sign' <;> rfl
    | fin q => cases sign <;> rfl
  | fin q => cases stray

/-- It stays as far away as it is. -/
private theorem hypot_stray (law : HypotLaw s.math) (stray : Stray goal) (here : Pose) :
    s.math.hypot (goal.x - here.x) (goal.y - here.y) = .nan ∨
      s.math.hypot (goal.x - here.x) (goal.y - here.y) = .inf false := by
  refine law _ _ ?_
  rcases Bool.and_eq_false_iff.mp stray with first | second
  · rw [isFinite_sub first, Bool.false_and]
  · rw [isFinite_sub second, Bool.and_false]

private theorem wrap_number (x : PyFloat) : wrap x = .nan ∨ ∃ q, wrap x = .fin q := by
  cases x with
  | fin q => exact .inr ⟨_, rfl⟩
  | _ => exact .inl rfl

/-- The velocity towards a stray goal: straight ahead at the limit, or turning, whatever the
heading error is taken for. -/
private theorem velocityToward_stray (law : HypotLaw s.math) (stray : Stray goal)
    (toward : velocityToward s goal here = .ok (vel, remaining)) :
    remaining.le arrivalM = false ∧ ∃ maxLin maxAng yawErr, maxLinear s.text s.body = .ok maxLin ∧
      maxAngular s.text s.body = .ok maxAng ∧ (yawErr = .nan ∨ ∃ q, yawErr = .fin q) ∧
      vel = { linearX := if yawErr.abs.lt (.fin (3 / 10)) then maxLin else 0,
              angularZ := clamp maxAng (2 * yawErr) } := by
  unfold velocityToward at toward
  rcases linear : maxLinear s.text s.body with e | maxLin <;> rw [linear] at toward
  · cases toward
  rcases angular : maxAngular s.text s.body with e | maxAng <;> rw [angular] at toward
  · cases toward
  obtain ⟨sent, way⟩ := Prod.mk.inj (Except.ok.inj toward)
  have far := hypot_stray law stray here
  rw [way] at far
  refine ⟨?_, maxLin, maxAng, _, rfl, rfl, wrap_number (s.math.atan2 (goal.y - here.y) (goal.x - here.x) - here.theta), ?_⟩
  · rcases far with rfl | rfl <;> rfl
  · rw [← sent, way]
    have level : remaining.lt maxLin = false := by
      rcases far with rfl | rfl
      · rfl
      · cases maxLin <;> rfl
    rw [level]
    rfl

/-- What the clamp makes of a heading error is zero only if the error is. -/
private theorem clamp_heading {maxAng yawErr : PyFloat} (positive : PyFloat.lt 0 maxAng = true)
    (number : yawErr = .nan ∨ ∃ q, yawErr = .fin q) (still : clamp maxAng (2 * yawErr) = 0) : yawErr = 0 := by
  rcases number with rfl | ⟨q, rfl⟩
  · cases maxAng with
    | nan => cases positive
    | inf sign => cases sign <;> cases still
    | fin limit =>
      have positive : 0 < limit := of_decide_eq_true positive
      have value : clamp (.fin limit) (2 * .nan) = .fin limit := by
        change PyFloat.max (.fin (-limit)) (.fin limit) = _
        rw [PyFloat.max_fin, max_eq_right (by linarith)]
      rw [value] at still
      exact absurd (PyFloat.fin.inj still) positive.ne'
  · have doubled : (2 * q : ℚ) = 0 := (clamp_of_pos positive (2 * q)).2.1.mp still
    obtain rfl : q = 0 := by linarith
    rfl

/-- A component that a limit in effect has clamped is zero only if it was. -/
private theorem clamp_zero {limit x : PyFloat} (truthy : limit.truthy = true) (finite : ∃ q, x = .fin q)
    (still : clamp limit x = 0) : PyFloat.lt 0 limit = true ∧ x = 0 := by
  obtain ⟨q, rfl⟩ := finite
  by_cases positive : PyFloat.lt 0 limit = true
  · exact ⟨positive, congrArg PyFloat.fin ((clamp_of_pos positive q).2.1.mp still)⟩
  · exact absurd still (clamp_of_not_pos truthy positive q).2

/-- A velocity towards a stray goal that passes the checks is not zero. -/
theorem stray_moves (law : HypotLaw s.math) (stray : Stray goal)
    (toward : velocityToward s goal here = .ok (vel, remaining))
    (valid : validateVelocity s vel = .ok ()) (clamped : clampVelocity s vel = .ok v) : v.isZero = false := by
  obtain ⟨-, maxLin, maxAng, yawErr, linear, angular, number, rfl⟩ := velocityToward_stray law stray toward
  obtain ⟨x, y, z, finite⟩ := validated_finite valid
  obtain ⟨forwards, -, turn⟩ := BodyVelocity.mk.inj finite
  unfold clampVelocity at clamped
  rw [linear, angular] at clamped
  obtain rfl := (Except.ok.inj clamped).symm
  by_contra moving
  have zero : BodyVelocity.isZero _ = true := Bool.eq_true_of_not_eq_false moving
  simp only [BodyVelocity.isZero, Bool.and_eq_true] at zero
  obtain ⟨⟨zeroX, -⟩, zeroZ⟩ := zero
  have eq_zero {u : PyFloat} (same : u.eq 0 = true) : u = 0 := by
    cases u with
    | nan => cases same
    | inf sign => cases same
    | fin q => exact of_decide_eq_true same
  obtain ⟨positive, still⟩ := clamp_zero (maxAngular_effective angular).1 ⟨z, turn⟩ (eq_zero zeroZ)
  obtain rfl := clamp_heading positive number still
  have ahead : (if (0 : PyFloat).abs.lt (.fin (3 / 10)) then maxLin else 0) = maxLin := if_pos (by decide +kernel)
  rw [ahead] at forwards zeroX
  have stopped := (clamp_zero (maxLinear_effective linear).1 ⟨x, forwards⟩ (eq_zero zeroX)).2
  have truthy := (maxLinear_effective linear).1
  rw [stopped] at truthy
  cases truthy

/-! The drive. -/

variable (s) in
/-- A tick of the drive gets as far as its velocity command, unless it has been cancelled. -/
structure SetsOff (goal : Pose) (w : SimWorld δ) : Prop where
  localized : localizationOk s w.backend = .ok true
  clear : ∃ dist, isPathBlocked s w.backend = .ok (false, dist)
  driven : ∃ vel remaining, velocityToward s goal w.backend.pose = .ok (vel, remaining) ∧
    ¬ Refused s vel driveDt w

/-- A velocity other than zero has been sent. -/
def Moved (rt : Runtime (Commanded (SimWorld δ))) : Prop := ∃ v ∈ rt.env.sent, v.isZero = false

/-- Motor power does not decide about it. -/
theorem setsOff_congr {w w' : SimWorld δ} (on : Bool) (backend : w'.backend = w.backend.setPower on)
    (policy : w'.gaitPolicy = w.gaitPolicy) : SetsOff s goal w' ↔ SetsOff s goal w := by
  constructor
  · rintro ⟨localized, clear, vel, remaining, toward, sent⟩
    rw [backend] at localized clear toward
    unfold Refused at sent
    rw [policy] at sent
    exact ⟨localized, clear, vel, remaining, toward, sent⟩
  · rintro ⟨localized, clear, vel, remaining, toward, sent⟩
    refine ⟨?_, ?_, vel, remaining, ?_, ?_⟩
    · rw [backend]
      exact localized
    · rw [backend]
      exact clear
    · rw [backend]
      exact toward
    · unfold Refused
      rw [policy]
      exact sent

theorem moved_congr {rt rt' : Runtime (Commanded (SimWorld δ))} (same : rt'.env.sent = rt.env.sent) :
    Moved rt' ↔ Moved rt := by
  unfold Moved
  rw [same]

variable (s) in
/-- How a tick towards a stray goal runs: it ends the drive, which sends nothing, or it
sends a velocity other than zero and does not end the drive well. -/
inductive TickRun (goal : Pose) (rt : Runtime (Commanded (SimWorld δ))) :
    Except Exn (Option Status × DriveData) × Runtime (Commanded (SimWorld δ)) → Prop
  | ends {result : Except Exn (Option Status × DriveData)} {rt' : Runtime (Commanded (SimWorld δ))} :
      ¬ (rt.cancelled = false ∧ SetsOff s goal rt.env.world) → rt'.env.sent = rt.env.sent →
      (∀ ended d', result = .ok (ended, d') → ended = some .failure) → TickRun goal rt (result, rt')
  | goesOn {result : Except Exn (Option Status × DriveData)} {rt' : Runtime (Commanded (SimWorld δ))}
      {v : BodyVelocity} : rt.cancelled = false → SetsOff s goal rt.env.world → v.isZero = false →
      rt'.env.sent = rt.env.sent ++ [v] → (∀ ended d', result = .ok (ended, d') → ended = none) →
      TickRun goal rt (result, rt')

theorem driveTick_run (law : HypotLaw s.math) (stray : Stray goal) (d : DriveData)
    (rt : Runtime (Commanded (SimWorld δ))) : TickRun s goal rt (driveTick (commanded s) goal d rt) := by
  rw [driveTick_eq]
  by_cases off : rt.cancelled = false ∧ SetsOff s goal rt.env.world
  · obtain ⟨uncancelled, setsOff⟩ := off
    obtain ⟨vel, remaining, toward, passes⟩ := setsOff.driven
    have far := (velocityToward_stray law stray toward).1
    rw [bind_ok (decideTick_goes s sees_commanded d uncancelled setsOff.localized setsOff.clear toward far)]
    rw [commandTick_run]
    rcases drive_sent vel driveDt rt.env with ⟨refused, -, -⟩ | ⟨-, v, valid, clamped, sent⟩
    · exact absurd refused passes
    · refine .goesOn uncancelled setsOff (stray_moves law stray toward valid clamped) sent ?_
      rintro ended d' returns
      generalize ((commanded s).drive vel driveDt rt.env).1 = outcome at returns
      cases outcome with
      | error e => cases returns
      | ok _ =>
        cases returns
        rfl
  · rcases decided : decideTick (commanded s) goal d rt with ⟨result, rt'⟩
    have still : (decideTick (commanded s) goal d rt).2.env.sent = rt.env.sent :=
      (sees_commanded.keeps_decideTick (I := fun rt' => rt'.env.sent = rt.env.sent)
        (fun _ => keeps_iff.mpr fun _ holds => holds) goal d).after rfl
    rw [decided] at still
    rcases decideTick_cases s sees_commanded decided with ⟨e, rfl⟩ | ⟨d', rfl⟩ |
      ⟨rfl, uncancelled, localized, clear, vel, remaining, toward, rfl⟩
    · rw [bind_error decided]
      refine .ends off still fun ended d' returns => ?_
      cases returns
    · rw [bind_ok decided]
      refine .ends off still fun ended d' returns => ?_
      cases returns
      rfl
    · have far := (velocityToward_stray law stray toward).1
      rw [far, if_neg Bool.false_ne_true] at decided
      rw [bind_ok decided, commandTick_run]
      rcases drive_sent vel driveDt rt'.env with ⟨-, ⟨e, raised⟩, silent⟩ | ⟨passes, -⟩
      · refine .ends off silent fun ended d' returns => ?_
        rw [raised] at returns
        cases returns
      · exact absurd ⟨uncancelled, localized, clear, vel, remaining, toward, passes⟩ off

/-- What a tick has done to the record. -/
theorem TickRun.moved {rt rt' : Runtime (Commanded (SimWorld δ))} {result : Except Exn (Option Status × DriveData)}
    (run : TickRun s goal rt (result, rt')) :
    Moved rt' ↔ Moved rt ∨ (rt.cancelled = false ∧ SetsOff s goal rt.env.world) := by
  cases run with
  | ends stays same _ => rw [moved_congr same, or_iff_left stays]
  | @goesOn _ _ v uncancelled setsOff moving sent _ =>
    refine iff_of_true ⟨v, ?_, moving⟩ (.inr ⟨uncancelled, setsOff⟩)
    rw [sent]
    simp

/-- However it ends, a drive to a stray goal does not end well, and does not unsend what it has sent. -/
theorem driveLoop_fails (law : HypotLaw s.math) (stray : Stray goal) (budget : ℕ) (d : DriveData)
    (m : Brain (Commanded (SimWorld δ))) :
    (∀ status d', ((driveLoop (commanded s) goal budget d).run m).1 = .ok (status, d') → status = .failure) ∧
      (Moved m.rt → Moved ((driveLoop (commanded s) goal budget d).run m).2.rt) := by
  induction budget generalizing d m with
  | zero =>
    refine ⟨fun status d' returns => ?_, id⟩
    cases returns
    rfl
  | succ budget ih =>
    rw [driveLoop, Coroutine.run_bind, Coroutine.run_atomically, bind_run, onRt_run]
    have tick := driveTick_run law stray d m.rt
    generalize driveTick (commanded s) goal d m.rt = outcome at tick
    obtain ⟨e | ⟨ended, d'⟩, rt⟩ := outcome
    · refine ⟨fun status d' returns => ?_, fun moved => tick.moved.mpr (.inl moved)⟩
      cases returns
    have kept : Moved m.rt → Moved rt := fun moved => tick.moved.mpr (.inl moved)
    cases tick with
    | ends stays same failed =>
      obtain rfl := failed _ _ rfl
      refine ⟨fun status d' returns => ?_, kept⟩
      cases returns
      rfl
    | goesOn uncancelled setsOff moving sent goesOn =>
      obtain rfl := goesOn _ _ rfl
      obtain ⟨fails, stays⟩ := ih d' { m with rt := rt }
      exact ⟨fails, fun moved => stays (kept moved)⟩

/-- The first tick decides whether it sends anything. -/
theorem driveLoop_moved (law : HypotLaw s.math) (stray : Stray goal) (budget : ℕ) (d : DriveData)
    (m : Brain (Commanded (SimWorld δ))) :
    Moved ((driveLoop (commanded s) goal (budget + 1) d).run m).2.rt ↔
      Moved m.rt ∨ (m.rt.cancelled = false ∧ SetsOff s goal m.rt.env.world) := by
  rw [driveLoop, Coroutine.run_bind, Coroutine.run_atomically, bind_run, onRt_run]
  have tick := driveTick_run law stray d m.rt
  generalize driveTick (commanded s) goal d m.rt = outcome at tick
  obtain ⟨e | ⟨ended, d'⟩, rt⟩ := outcome
  · exact tick.moved
  have decides := tick.moved
  cases tick with
  | ends stays same failed =>
    obtain rfl := failed _ _ rfl
    exact decides
  | goesOn uncancelled setsOff moving sent goesOn =>
    obtain rfl := goesOn _ _ rfl
    refine iff_of_true ?_ (.inr ⟨uncancelled, setsOff⟩)
    exact (driveLoop_fails law stray budget d' { m with rt := rt }).2
      (decides.mpr (.inr ⟨uncancelled, setsOff⟩))

variable (s) in
/-- How a part of a request for a stray goal has run: it has not ended well, and it has sent a
velocity other than zero exactly if the gateway granted a permission and the first tick set off. -/
structure Strays {α : Type} (goal : Pose) (m : Brain (Commanded (SimWorld δ))) (fails : α → Prop)
    (r : Except Exn α × Brain (Commanded (SimWorld δ))) : Prop where
  fails : ∀ a, r.1 = .ok a → fails a
  moved : Moved r.2.rt ↔ Moved m.rt ∨ (grants m.rt = true ∧ SetsOff s goal m.rt.env.world)

/-- Nothing that the drive depends on has changed. -/
structure Poised (rt rt' : Runtime (Commanded (SimWorld δ))) : Prop where
  sent : rt'.env.sent = rt.env.sent
  grants : grants rt' = grants rt
  backend : rt'.env.world.backend = rt.env.world.backend
  policy : rt'.env.world.gaitPolicy = rt.env.world.gaitPolicy

section

variable {α β : Type} {m m' : Brain (Commanded (SimWorld δ))} {A : α → Prop} {B : β → Prop}

theorem Strays.before {r : Except Exn α × Brain (Commanded (SimWorld δ))}
    (strays : Strays s goal m' A r) (poised : Poised m.rt m'.rt) : Strays s goal m A r where
  fails := strays.fails
  moved := by
    rw [strays.moved, moved_congr poised.sent, poised.grants,
      setsOff_congr m.rt.env.world.backend.power poised.backend poised.policy]

/-- What follows sends nothing, and makes no success of it. -/
theorem Strays.bind {p : Proc (Brain (Commanded (SimWorld δ))) Exn α}
    {f : α → Proc (Brain (Commanded (SimWorld δ))) Exn β} (first : Strays s goal m A (p m'))
    (keeps : ∀ a, A a → ∀ sent, Keeps (fun m => m.rt.env.sent = sent) (f a))
    (second : ∀ a, A a → ∀ m b, (f a m).1 = .ok b → B b) : Strays s goal m B ((p >>= f) m') := by
  rcases run : p m' with ⟨e | a, m''⟩ <;> rw [run] at first
  · rw [bind_error run]
    refine ⟨fun b returns => ?_, first.moved⟩
    cases returns
  · rw [bind_ok run]
    refine ⟨second a (first.fails a rfl) m'', ?_⟩
    have same : (f a m'').2.rt.env.sent = m''.rt.env.sent :=
      (keeps a (first.fails a rfl) m''.rt.env.sent).after rfl
    rw [moved_congr same]
    exact first.moved

/-- The outcome of a `try` block fails if what it has caught or returned does. -/
theorem Strays.attempt {p : Proc (Brain (Commanded (SimWorld δ))) Exn α} (first : Strays s goal m A (p m')) :
    Strays s goal m (fun outcome => ∀ a, outcome = .ok a → A a) (Lib.Procedure.attempt p m') where
  fails outcome returns a value := by
    cases returns
    exact first.fails a value
  moved := first.moved

end

/-- How the gateway answers a request of motion permission. -/
inductive RequestRun (rt : Runtime (Commanded (SimWorld δ))) :
    Except Exn MotionPermission × Runtime (Commanded (SimWorld δ)) → Prop
  | refused {perm : MotionPermission} {rt' : Runtime (Commanded (SimWorld δ))} : grants rt = false →
      perm.granted = false → rt'.env = rt.env → RequestRun rt (.ok perm, rt')
  | granted {perm : MotionPermission} {rt' : Runtime (Commanded (SimWorld δ))} : grants rt = true →
      perm.granted = true → rt'.cancelled = rt.cancelled → rt'.env.sent = rt.env.sent →
      rt'.env.world.backend = rt.env.world.backend.setPower true →
      rt'.env.world.gaitPolicy = rt.env.world.gaitPolicy → RequestRun rt (.ok perm, rt')

theorem request_run (rt : Runtime (Commanded (SimWorld δ))) :
    RequestRun rt (requestMotionPermission (commanded s) rt) := by
  cases grant : grants rt with
  | false =>
    rw [request_refused grant]
    exact .refused grant rfl rfl
  | true =>
    rw [request_granted grant]
    have run : grantPermission (commanded s)
        { rt with controller := { contacted rt with power := true } } = (.ok ⟨true, "granted", tokenAt rt.now⟩, _) := rfl
    rw [run]
    exact .granted grant rfl rfl rfl rfl rfl

/-- A tick of the tree fails. -/
theorem tick_strays (law : HypotLaw s.math) (stray : Stray goal) (d : DriveData)
    (m : Brain (Commanded (SimWorld δ))) (uncancelled : m.rt.cancelled = false) :
    Strays s goal m (fun r => r.1 = .failure) ((tick (navigateActions (commanded s) goal) d).run m) := by
  have asks := request_run (s := s) m.rt
  simp only [navigateActions, tick, Coroutine.run_bind, Coroutine.run_atomically]
  generalize asked : requestMotionPermission (commanded s) m.rt = outcome at asks
  cases asks with
  | @refused perm rt' grant given env =>
    have run : onRt (acquire (commanded s) d) m =
        (.ok (.failure, { d with permission := some perm, held := false }), { m with rt := rt' }) := by
      rw [onRt_run, acquire, bind_ok asked, given]
      rfl
    rw [bind_ok run]
    refine ⟨fun r returns => ?_, ?_⟩
    · cases returns
      rfl
    · rw [grant, or_iff_left (by simp)]
      exact moved_congr (congrArg Commanded.sent env)
  | @granted perm rt' grant given flag sent backend policy =>
    have run : onRt (acquire (commanded s) d) m =
        (.ok (.success, { d with permission := some perm, held := true }), { m with rt := rt' }) := by
      rw [onRt_run, acquire, bind_ok asked, given]
      rfl
    obtain ⟨machine, entered, -⟩ :=
      enterActive_run (commanded s) { d with permission := some perm, held := true } rt'
    rw [bind_ok run]
    simp only [Coroutine.run_bind, Coroutine.run_atomically]
    rw [bind_ok (p := onRt _) (t := { m with rt := { rt' with machine := machine } })
      (by rw [onRt_run, entered])]
    simp only [Coroutine.run_bind]
    have loop (m' : Brain (Commanded (SimWorld δ))) (env : m'.rt.env = rt'.env)
        (flag' : m'.rt.cancelled = rt'.cancelled) :
        Strays s goal m (fun r => r.1 = .failure) ((driveLoop (commanded s) goal maxDriveTicks
          { d with permission := some perm, held := true }).run m') := by
      refine ⟨fun r => (driveLoop_fails law stray maxDriveTicks _ m').1 r.1 r.2, ?_⟩
      have silent : m'.rt.env.sent = m.rt.env.sent := by rw [env, sent]
      rw [maxDriveTicks, driveLoop_moved law stray 2999, moved_congr silent, env, setsOff_congr true backend policy]
      rw [flag', flag, uncancelled, grant]
      simp
    refine (loop _ rfl rfl).bind (fun r failed sent => ?_) fun r failed m' r' returns => ?_
    · rw [failed]
      exact keeps_pure _
    · rw [failed] at returns
      cases returns
      rfl

/-- The tree settles in its first tick, and never well. -/
theorem runTree_strays (law : HypotLaw s.math) (stray : Stray goal) (d : DriveData)
    (m : Brain (Commanded (SimWorld δ))) (uncancelled : m.rt.cancelled = false) {budget : ℕ}
    (positive : 0 < budget) : Strays s goal m (fun r => r.1 = .failure)
      ((runTree (navigateActions (commanded s) goal) budget d).run m) := by
  obtain ⟨budget, rfl⟩ := Nat.exists_eq_add_of_lt positive
  rw [runTree, Coroutine.run_bind]
  refine (tick_strays law stray d m uncancelled).bind (fun r failed sent => ?_) fun r failed m' r' returns => ?_
  · dsimp only
    rw [failed, if_neg (by decide)]
    exact keeps_pure _
  · dsimp only at returns
    rw [failed, if_neg (by decide)] at returns
    cases returns
    rfl

/-- So does the drive. -/
theorem driveTo_strays (law : HypotLaw s.math) (stray : Stray goal) (label : PyVal) (taskId : String)
    (m : Brain (Commanded (SimWorld δ))) (uncancelled : m.rt.cancelled = false) :
    Strays s goal m (fun r => r.1 = false) ((driveTo (commanded s) goal label taskId).run m) := by
  simp only [driveTo, Coroutine.run_bind, Coroutine.run_atomically]
  rw [bind_ok (onRt_run _ m), bind_ok (onRt_run _ _)]
  generalize begun : ({ m with rt := _ } : Brain (Commanded (SimWorld δ))) = m'
  have poised : Poised m.rt m'.rt := by
    rw [← begun]
    exact ⟨rfl, rfl, rfl, rfl⟩
  have going : m'.rt.cancelled = false := by
    rw [← begun]
    exact uncancelled
  have tree := runTree_strays law stray { label := label } m' going (show 0 < 10000 by decide)
  refine (tree.before poised).bind (fun r failed sent => ?_) fun r failed m'' r' returns => ?_
  · refine keeps_bind (keeps_onRt_of ((worldly_sent sent).keeps_endDrive r.2.2.held)) fun _ => ?_
    split <;> exact keeps_pure _
  · obtain ⟨_, -, returns⟩ := bind_returns_iff.mp returns
    rw [failed, if_neg (by decide)] at returns
    cases returns
    rfl

end

/-! Tasks. -/

section

variable {s : Site} {goal : Pose} {intent : StructuredIntent} {name : PyVal}

variable (s) in
/-- A call of `memory.store_place` that stores a place under the name at these coordinates. -/
structure Storing (b : SimulationBackend) (arguments : Items) (name : PyVal) (x y : PyFloat) : Prop where
  named : PyVal.lookup "name" arguments = some name
  truthy : name.truthy = true
  abscissa : s.equipment.text.float ((PyVal.lookup "x" arguments).getD (.float b.pose.x)) = .ok x
  ordinate : s.equipment.text.float ((PyVal.lookup "y" arguments).getD (.float b.pose.y)) = .ok y

/-- Whatever is stored then, the place is known at them. -/
theorem Storing.known {b : SimulationBackend} {arguments : Items} {x y : PyFloat}
    (storing : Storing s b arguments name x y) (st : Stores) :
    (tool s.equipment b "memory.store_place" arguments st).2.world.data.resolve s.equipment.text name =
      some { x := x, y := y } := by
  have ran : tool s.equipment b "memory.store_place" arguments = hStorePlace s.equipment b arguments := rfl
  rw [ran, hStorePlace_world _ _ storing.named storing.truthy storing.abscissa storing.ordinate]
  unfold WorldModel.addPlace WorldModel.WorldData.resolve WorldModel.WorldData.getPlace
  rw [WorldModel.rewrite_run, Lib.Dict.get_set_self]
  rfl

variable (s) in
/-- A request to navigate to what is known under the name, or to inspect something there. -/
inductive Asks (intent : StructuredIntent) (name : PyVal) : Prop
  | navigates {arguments : Items} : intent.intent = "navigation.navigate_to" →
      intent.arguments = .dict arguments →
      WorldModel.norm s.equipment.text ((PyVal.lookup "destination" arguments).getD (.str "")) =
        WorldModel.norm s.equipment.text name → Asks intent name
  | inspects {arguments : Items} : intent.intent = "inspect.named_target" →
      intent.arguments = .dict arguments →
      ((PyVal.lookup "destination" arguments).getD .none).truthy = true →
      WorldModel.norm s.equipment.text ((PyVal.lookup "destination" arguments).getD .none) =
        WorldModel.norm s.equipment.text name → Asks intent name

private theorem resolve_congr {data : WorldModel.WorldData} {dest : PyVal}
    (same : WorldModel.norm s.equipment.text dest = WorldModel.norm s.equipment.text name) :
    data.resolve s.equipment.text dest = data.resolve s.equipment.text name := by
  unfold WorldModel.WorldData.resolve WorldModel.WorldData.getPlace
  rw [same]

private theorem resolve_run {m : Brain (Commanded (SimWorld Stores))} {dest : PyVal}
    (same : WorldModel.norm s.equipment.text dest = WorldModel.norm s.equipment.text name)
    (known : m.rt.env.world.store.world.data.resolve s.equipment.text name = some goal) :
    onRt (outside ((commanded (furnished s)).resolve dest)) m = (.ok (some goal), m) := by
  rw [← known, ← resolve_congr same]
  rfl

/-- The handler of such a request drives to the goal and fails. -/
theorem handler_strays (reg : Registry (Runtime (Commanded (SimWorld Stores)))) (law : HypotLaw s.math)
    (stray : Stray goal) (asks : Asks s intent name) {task : Task} (given : intent.arguments = .dict task.arguments)
    {m : Brain (Commanded (SimWorld Stores))} (uncancelled : m.rt.cancelled = false)
    (known : m.rt.env.world.store.world.data.resolve s.equipment.text name = some goal) :
    Strays (furnished s) goal m (fun result => result.ok = false)
      ((handlerFor (commanded (furnished s)) reg intent.intent task).run m) := by
  cases asks with
  | navigates named arguments same =>
    cases given.symm.trans arguments
    have handler : handlerFor (commanded (furnished s)) reg intent.intent = hNavigate (commanded (furnished s)) := by
      rw [named]
      rfl
    have resolved : onRt (outside ((commanded (furnished s)).resolve
        (argument task "destination" (.str "")))) m = (.ok (some goal), m) := resolve_run same known
    rw [handler, hNavigate, Coroutine.run_bind, Coroutine.run_atomically, bind_ok resolved]
    dsimp only
    rw [Coroutine.run_bind]
    refine (driveTo_strays law stray _ _ m uncancelled).bind (fun r failed sent => keeps_pure _)
      fun r failed m' result returns => ?_
    cases returns
    exact failed
  | inspects named arguments truthy same =>
    cases given.symm.trans arguments
    have handler : handlerFor (commanded (furnished s)) reg intent.intent = hInspect (commanded (furnished s)) := by
      rw [named]
      rfl
    have resolved : onRt (outside ((commanded (furnished s)).resolve
        (argument task "destination" .none))) m = (.ok (some goal), m) := resolve_run same known
    have somewhere : (argument task "destination" .none).truthy = true := truthy
    rw [handler, hInspect]
    dsimp only
    rw [if_pos somewhere, Coroutine.run_bind, Coroutine.run_atomically, bind_ok resolved]
    dsimp only
    rw [Coroutine.run_bind]
    refine (driveTo_strays law stray _ _ m uncancelled).bind (fun r failed sent => ?_)
      fun r failed m' result returns => ?_
    · rw [failed]
      exact keeps_pure _
    · rw [failed] at returns
      cases returns
      rfl

/-- A task that can be started is not cancelled yet. -/
private theorem start_poised {arguments : Items} (given : intent.arguments = .dict arguments) (user : String)
    (rt : Runtime (Commanded (SimWorld Stores))) :
    ∃ task rt', startTask (commanded (furnished s)) intent user rt = (.ok task, rt') ∧
      task.arguments = arguments ∧ rt'.cancelled = false ∧ Poised rt rt' ∧
      rt'.env.world.store.world = rt.env.world.store.world := by
  unfold startTask
  rw [given]
  exact ⟨_, _, rfl, rfl, rfl, ⟨rfl, rfl, rfl, rfl⟩, rfl⟩

private theorem Asks.arguments (asks : Asks s intent name) : ∃ arguments, intent.arguments = .dict arguments := by
  cases asks with
  | navigates _ given _ => exact ⟨_, given⟩
  | inspects _ given _ _ => exact ⟨_, given⟩

/-- So does its task. -/
theorem runIntent_strays (reg : Registry (Runtime (Commanded (SimWorld Stores)))) (law : HypotLaw s.math)
    (stray : Stray goal) (asks : Asks s intent name) (user : String) {m : Brain (Commanded (SimWorld Stores))}
    (known : m.rt.env.world.store.world.data.resolve s.equipment.text name = some goal) :
    Strays (furnished s) goal m (fun result => result.ok = false)
      ((runIntent (commanded (furnished s)) reg intent user).run m) := by
  obtain ⟨arguments, given⟩ := asks.arguments
  obtain ⟨task, rt, started, same, uncancelled, poised, places⟩ := start_poised (s := s) given user m.rt
  rw [runIntent, Coroutine.run_bind, Coroutine.run_atomically]
  rw [bind_ok (t := { m with rt := rt }) (a := task) (by rw [onRt_run, started])]
  rw [Coroutine.run_bind, Coroutine.run_attempt]
  have handled := handler_strays reg law stray asks (given.trans (congrArg PyVal.dict same.symm))
    (m := { m with rt := rt }) uncancelled (by rw [← known, ← places])
  refine (handled.before poised).attempt.bind (fun outcome failed sent => ?_)
    fun outcome failed m' result returns => ?_
  · exact keeps_onRt_of ((worldly_sent sent).keeps_finish _ _ _)
  · cases returns
    cases outcome with
    | error e => rfl
    | ok result => exact failed result rfl

/-! Requests. -/

variable {reg : Registry (Runtime (Commanded (SimWorld Stores)))} {lang : LanguageService} {user : User}
  {confirmed degraded : Bool} {m : Brain (Commanded (SimWorld Stores))}

variable (s reg) in
/-- The broker clears the request, the gateway would grant the permission that its task asks
for, and the first tick of the drive gets as far as its command. -/
structure Drives (intent : StructuredIntent) (user : User) (confirmed : Bool) (goal : Pose)
    (m : Brain (Commanded (SimWorld Stores))) : Prop where
  cleared : ∃ tool, getTool intent.intent = some tool ∧
    Cleared (commanded (furnished s)) reg intent user confirmed tool m
  granted : grants m.rt = true
  setsOff : SetsOff (furnished s) goal m.rt.env.world

variable (s reg lang) in
/-- The request is refused or its task fails, and no velocity other than zero has been sent. -/
structure Unmoved (intent : StructuredIntent) (user : User) (confirmed degraded : Bool)
    (m : Brain (Commanded (SimWorld Stores))) : Prop where
  failed : ∀ response, ((dispatch (commanded (furnished s)) reg lang intent user confirmed degraded).run m).1 =
    .ok response → response.outcome ≠ "approved"
  still : ∀ v ∈ ((dispatch (commanded (furnished s)) reg lang intent user confirmed degraded).run m).2.rt.env.sent,
    v.isZero = true

private theorem grants_heartbeat (rt : Runtime (Commanded (SimWorld Stores))) :
    grants { rt with controller := rt.controller.heartbeat rt.now } = grants rt := by
  rw [Bool.eq_iff_iff, grants_iff, grants_iff]
  simp [Backends.SafetyController.SimulatedSafetyController.mayEnable,
    Backends.SafetyController.SimulatedSafetyController.heartbeat]

/-- The broker only looks, and has the controller heard. -/
private theorem reads_same (c : Commanded (SimWorld Stores)) (granted : Bool) :
    Reads (commanded (furnished s)) fun rt => rt.env = c ∧ grants rt = granted where
  reading call := by
    obtain ⟨q, reading, rfl⟩ := read_unsent call
    refine keeps_iff.mpr fun rt ⟨env, grant⟩ => ⟨?_, grant⟩
    have same := reading_same reading rt.env.world
    rw [← env, outside_run]
    change ({ rt.env with world := (q rt.env.world).2 } : Commanded (SimWorld Stores)) = rt.env
    rw [same]
  status := keeps_iff.mpr fun rt ⟨env, grant⟩ => ⟨env, (grants_heard rt).trans grant⟩
  heartbeat := keeps_iff.mpr fun rt ⟨env, grant⟩ => ⟨env, (grants_heartbeat rt).trans grant⟩

private theorem Asks.drives (asks : Asks s intent name) : intent.intent ∈ drivingIntents := by
  cases asks with
  | navigates named _ _ => simp [named, drivingIntents]
  | inspects named _ _ _ => simp [named, drivingIntents]

/-- The question whether a request has to be confirmed is always answered. -/
private theorem confirmation_answers (asks : Asks s intent name) (tool : ToolSpec)
    (m : Brain (Commanded (SimWorld Stores))) :
    ∃ answer, (onRt (outside (needsConfirmation (commanded (furnished s)) tool intent)) m).1 = .ok answer := by
  obtain ⟨arguments, given⟩ := asks.arguments
  obtain ⟨intent, _, moves, speed, output, raw, source, confidence⟩ := intent
  cases given
  have prompts : ∃ prompt, confirmPrompt (commanded (furnished s)) tool
      ⟨intent, .dict arguments, moves, speed, output, raw, source, confidence⟩ = .ok prompt := ⟨_, rfl⟩
  obtain ⟨prompt, prompts⟩ := prompts
  have looks (dest : PyVal) (c : Commanded (SimWorld Stores)) :
      ∃ unknown, unresolved (commanded (furnished s)) dest c = (.ok unknown, c) := by
    unfold unresolved
    split
    · exact ⟨_, rfl⟩
    · exact ⟨_, rfl⟩
  rw [onRt_run, outside_run]
  unfold needsConfirmation
  rw [prompts]
  cases tool.confirmation with
  | none => exact ⟨_, rfl⟩
  | required => exact ⟨_, rfl⟩
  | conditional =>
    dsimp only
    split
    · obtain ⟨unknown, looked⟩ := looks ((PyVal.lookup "destination" arguments).getD (.str "")) m.rt.env
      rw [bind_ok (t := m.rt.env) (a := (PyVal.lookup "destination" arguments).getD (.str "")) (by rfl)]
      rw [bind_ok looked]
      split
      · exact ⟨_, rfl⟩
      · exact ⟨_, rfl⟩
    · split
      · rw [bind_ok (t := m.rt.env) (a := arguments) (by rfl)]
        split
        · exact ⟨_, rfl⟩
        · exact ⟨_, rfl⟩
      · exact ⟨_, rfl⟩

variable (reg user confirmed m) in
/-- What the broker approves of such requests, it has cleared. -/
private theorem approved_iff (asks : Asks s intent name) :
    (∃ d, (validate (commanded (furnished s)) reg intent user confirmed m).1 = .ok d ∧ d.outcome = .approved) ↔
      ∃ tool, getTool intent.intent = some tool ∧
        Cleared (commanded (furnished s)) reg intent user confirmed tool m := by
  constructor
  · rintro ⟨d, decided, approved⟩
    obtain ⟨-, tool, registered, always | cleared⟩ := approved_cleared decided approved
    · rw [(driving_tool asks.drives registered).1] at always
      cases always
    · exact ⟨tool, registered, cleared⟩
  · rintro ⟨tool, registered, cleared⟩
    obtain ⟨answer, asked⟩ := confirmation_answers asks tool
      (motionChecks (commanded (furnished s)) reg intent tool m).2
    obtain ⟨d, decided, approved, -⟩ := cleared_approved registered cleared asked
    exact ⟨d, decided, approved⟩

variable (reg lang user degraded m) in
/-- An approved request to go to a stray goal fails as its task does. -/
private theorem execute_strays (law : HypotLaw s.math) (stray : Stray goal) {decision : BrokerDecision}
    (asks : Asks s decision.intent name)
    (known : m.rt.env.world.store.world.data.resolve s.equipment.text name = some goal) :
    Strays (furnished s) goal m (fun response => response.outcome ≠ "approved")
      ((execute (commanded (furnished s)) reg lang decision user degraded).run m) := by
  rw [execute, Coroutine.run_bind, Coroutine.run_attempt]
  refine (runIntent_strays reg law stray asks user.name known).attempt.bind (fun outcome failed sent => ?_)
    fun outcome failed m' response returns => ?_
  · cases outcome with
    | error e =>
      dsimp only
      split
      · exact keeps_pure _
      · exact keeps_raise e
    | ok result =>
      rw [Coroutine.run_bind, Coroutine.run_atomically]
      exact keeps_bind (keeps_ofExcept _) fun _ => keeps_pure _
  · cases outcome with
    | error e =>
      dsimp only at returns
      split at returns
      · cases returns
        change "error" ≠ "approved"
        decide
      · cases returns
    | ok result =>
      dsimp only at returns
      rw [Coroutine.run_bind, Coroutine.run_atomically] at returns
      obtain ⟨text, -, returns⟩ := bind_returns_iff.mp returns
      cases returns
      rw [failed result rfl]
      change "failed" ≠ "approved"
      decide

variable (reg lang user confirmed degraded m) in
/-- A request to go to a stray goal is refused or fails, and sends a velocity other than zero
exactly if it drives. -/
theorem dispatch_run (law : HypotLaw s.math) (stray : Stray goal) (asks : Asks s intent name)
    (known : m.rt.env.world.store.world.data.resolve s.equipment.text name = some goal) :
    (∀ response, ((dispatch (commanded (furnished s)) reg lang intent user confirmed degraded).run m).1 =
      .ok response → response.outcome ≠ "approved") ∧
    (Moved ((dispatch (commanded (furnished s)) reg lang intent user confirmed degraded).run m).2.rt ↔
      Moved m.rt ∨ Drives s reg intent user confirmed goal m) := by
  have looks : Keeps (fun m : Brain (Commanded (SimWorld Stores)) =>
      m.rt.env = _ ∧ grants m.rt = _) (validate (commanded (furnished s)) reg intent user confirmed) :=
    (reads_same m.rt.env (grants m.rt)).keeps_validate intent user confirmed
  obtain ⟨env, grant⟩ := looks.after (s := m) ⟨rfl, rfl⟩
  have approval := approved_iff reg user confirmed m asks
  rw [dispatch, Coroutine.run_bind, Coroutine.run_atomically]
  rcases decided : validate (commanded (furnished s)) reg intent user confirmed m with ⟨e | d, m'⟩ <;>
    rw [decided] at env grant approval
  · rw [bind_error decided]
    refine ⟨fun response returns => ?_, ?_⟩
    · cases returns
    · rw [moved_congr (congrArg Commanded.sent env), or_iff_left]
      intro drives
      obtain ⟨d, value, -⟩ := approval.mpr drives.cleared
      cases value
  rw [bind_ok decided, Coroutine.run_bind, Coroutine.run_atomically]
  rw [bind_ok (onRt_run _ m')]
  generalize recorded : ({ m' with rt := _ } : Brain (Commanded (SimWorld Stores))) = m''
  have poised : Poised m.rt m''.rt := by
    rw [← recorded]
    refine ⟨?_, grant, ?_, ?_⟩ <;>
      · rw [← env]
        rfl
  have places : m''.rt.env.world.store.world = m.rt.env.world.store.world := by
    rw [← recorded, ← env]
    rfl
  -- Nothing follows a decision other than an approval.
  have unmoved (other : d.outcome ≠ .approved) :
      Moved m''.rt ↔ Moved m.rt ∨ Drives s reg intent user confirmed goal m := by
    rw [or_iff_left]
    · exact moved_congr poised.sent
    · intro drives
      obtain ⟨d', value, approved⟩ := approval.mpr drives.cleared
      cases value
      exact other approved
  cases outcome : d.outcome with
  | approved =>
    dsimp only
    obtain ⟨same, -⟩ := approved_cleared (congrArg Prod.fst decided) outcome
    have cleared := approval.mp ⟨d, rfl, outcome⟩
    have strays := (execute_strays reg lang user degraded m'' law stray (same ▸ asks)
      (by rw [places, known])).before poised
    refine ⟨strays.fails, strays.moved.trans (or_congr_right ?_)⟩
    exact ⟨fun ⟨granted, setsOff⟩ => ⟨cleared, granted, setsOff⟩, fun drives => ⟨drives.granted, drives.setsOff⟩⟩
  | rejected =>
    refine ⟨fun response returns => ?_, unmoved (by rw [outcome]; decide)⟩
    cases returns
    change "rejected" ≠ "approved"
    decide
  | confirm =>
    refine ⟨fun response returns => ?_, unmoved (by rw [outcome]; decide)⟩
    cases returns
    change "confirmation_required" ≠ "approved"
    decide

variable (reg lang user confirmed degraded m) in
/-- Wherever a place that `memory.store_place` has stored is known as it was stored and is no finite
point, a request for it moves nothing exactly when it does not drive. -/
theorem stray_unmoved_iff (law : HypotLaw s.math) {b : SimulationBackend} {arguments : Items} {x y : PyFloat}
    (storing : Storing s b arguments name x y) (stray : Stray { x := x, y := y }) (st : Stores)
    (kept : m.rt.env.world.store.world.data.resolve s.equipment.text name =
      (tool s.equipment b "memory.store_place" arguments st).2.world.data.resolve s.equipment.text name)
    (asks : Asks s intent name) (silent : m.rt.env.sent = []) :
    Unmoved s reg lang intent user confirmed degraded m ↔
      ¬ Drives s reg intent user confirmed { x := x, y := y } m := by
  obtain ⟨fails, moved⟩ := dispatch_run reg lang user confirmed degraded m law stray asks
    (kept.trans (storing.known st))
  have still : ¬ Moved m.rt := by
    rintro ⟨v, member, -⟩
    rw [silent] at member
    cases member
  rw [or_iff_right still] at moved
  rw [← moved]
  constructor
  · rintro unmoved ⟨v, member, moving⟩
    rw [unmoved.still v member] at moving
    cases moving
  · intro unmoved
    refine ⟨fails, fun v member => ?_⟩
    by_contra moving
    exact unmoved ⟨v, member, Bool.eq_false_of_not_eq_true moving⟩

end

/-! A place that a language model has put nowhere. -/

def nowhere : Items := [(.str "name", .str "nowhere"), (.str "x", .float .nan), (.str "y", .float 0)]

def toNowhere : StructuredIntent where
  intent := "navigation.navigate_to"
  arguments := .dict [(.str "destination", .str "nowhere")]
  requiresMotion := true

def operator : User := { name := "operator", role := .operator }

def terse : LanguageService :=
  { authorizer := { users := [] }, providers := [], refuse := id, render := fun _ => .ok "" }

def commandedServices : Registry (Runtime (Commanded (SimWorld Stores))) :=
  Registration.droidServices (commanded (furnished wheeledSite))

/-- The droid after its boot. -/
def awake : Brain (Commanded (SimWorld Stores)) :=
  Boot.booted (commanded (furnished wheeledSite))
    (Boot.newRuntime 0 .missing { world := { backend := SimulationBackend.new wheeled, store := {} } })

/-- It has stored the place. -/
def misled : Brain (Commanded (SimWorld Stores)) :=
  let w := awake.rt.env.world
  let store := (tool wheeledSite.equipment w.backend "memory.store_place" nowhere w.store).2
  { awake with rt := { awake.rt with env := { awake.rt.env with world := { w with store := store } } } }

private theorem straightAhead_law : HypotLaw straightAhead := by
  intro x y stray
  change (if y = 0 then x.abs else .nan) = .nan ∨ (if y = 0 then x.abs else .nan) = .inf false
  by_cases level : y = 0
  · rw [if_pos level]
    subst level
    cases x with
    | nan => exact .inl rfl
    | inf sign => cases sign <;> exact .inr rfl
    | fin q => cases stray
  · rw [if_neg level]
    exact .inl rfl

private theorem nowhere_storing (b : SimulationBackend) :
    Storing wheeledSite b nowhere (.str "nowhere") .nan 0 := ⟨rfl, rfl, rfl, rfl⟩

private theorem nowhere_stray : Stray { x := .nan, y := 0 } := rfl

private theorem nowhere_asks : Asks wheeledSite toNowhere (.str "nowhere") := .navigates rfl rfl rfl

private theorem ok_of_toOption {α : Type} {r : Except Exn α} {a : α} (found : r.toOption = some a) : r = .ok a := by
  cases r with
  | error e => cases found
  | ok b => exact congrArg Except.ok (Option.some.inj found)

private theorem ok_of_fst {α β : Type} {r : Except Exn (α × β)} {a : α}
    (found : r.toOption.map Prod.fst = some a) : ∃ b, r = .ok (a, b) := by
  obtain ⟨⟨_, b⟩, value, rfl⟩ := Option.map_eq_some_iff.mp found
  exact ⟨b, ok_of_toOption value⟩

/-- Nothing keeps a body without a gait policy from setting off. -/
private theorem setsOff_of {δ : Type} {s : Surroundings δ} {goal : Pose} {w : SimWorld δ}
    (gaitless : w.gaitPolicy.isNone = true) (localized : (localizationOk s w.backend).toOption = some true)
    (clear : (isPathBlocked s w.backend).toOption.map Prod.fst = some false)
    (able : (canMove s).toOption = some true)
    (passes : ((velocityToward s goal w.backend.pose).toOption.map fun r =>
      (validateVelocity s r.1).toOption.isSome && (clampVelocity s r.1).toOption.isSome) = some true) :
    SetsOff s goal w := by
  obtain ⟨⟨vel, remaining⟩, toward, checked⟩ := Option.map_eq_some_iff.mp passes
  obtain ⟨valid, clamped⟩ := (Bool.and_eq_true _ _).mp checked
  obtain ⟨⟨⟩, valid⟩ := Option.isSome_iff_exists.mp valid
  obtain ⟨v, clamped⟩ := Option.isSome_iff_exists.mp clamped
  refine ⟨ok_of_toOption localized, ok_of_fst clear, vel, remaining, ok_of_toOption toward, ?_⟩
  rintro (unable | invalid | refused)
  · exact unable (ok_of_toOption able)
  · exact invalid (ok_of_toOption valid)
  · obtain ⟨policy, e, given, -⟩ := refused v (ok_of_toOption clamped)
    rw [given] at gaitless
    cases gaitless

private theorem nowhere_drives : Drives wheeledSite commandedServices toNowhere operator true
    { x := .nan, y := 0 } misled := by
  have ready (tool : ToolSpec) (registered : getTool "navigation.navigate_to" = some tool) :
      ((assessReadiness (commanded (furnished wheeledSite)) commandedServices
        (onRt (outside (destinationOk (commanded (furnished wheeledSite)) toNowhere tool)) misled).2).1.toOption.map
          fun r => decide (r.state ∈ DroidState.motionAllowedFrom)) = some true := by
    cases registered
    decide +kernel
  obtain ⟨tool, registered⟩ : ∃ tool, getTool "navigation.navigate_to" = some tool := ⟨_, rfl⟩
  refine ⟨⟨tool, registered, ?_⟩, by decide +kernel, ?_⟩
  · cases registered
    refine ⟨by decide, ⟨_, rfl⟩, fun _ => ⟨?_, ?_⟩, fun _ _ => rfl⟩
    · exact ok_of_fst (by decide +kernel)
    · obtain ⟨r, assessed, allowed⟩ := Option.map_eq_some_iff.mp (ready _ rfl)
      exact ⟨r, ok_of_toOption assessed, of_decide_eq_true allowed⟩
  · exact setsOff_of (by decide +kernel) (by decide +kernel) (by decide +kernel) (by decide +kernel)
      (by decide +kernel)

private theorem nowhere_known : misled.rt.env.world.store.world.data.resolve wheeledSite.equipment.text
    (.str "nowhere") = some { x := .nan, y := 0 } :=
  (nowhere_storing awake.rt.env.world.backend).known awake.rt.env.world.store

/-- It is told to go there, and the command that reaches the backend turns it on the spot. -/
theorem nowhere_driven : Storing wheeledSite awake.rt.env.world.backend nowhere (.str "nowhere") .nan 0 ∧
    misled.rt.env.world.store.world.data.resolve wheeledSite.equipment.text (.str "nowhere") =
      some { x := .nan, y := 0 } ∧
    Asks wheeledSite toNowhere (.str "nowhere") ∧ misled.rt.env.sent = [] ∧
    ¬ Unmoved wheeledSite commandedServices terse toNowhere operator true false misled := by
  refine ⟨nowhere_storing _, nowhere_known, nowhere_asks, List.isEmpty_iff.mp (by decide +kernel), fun unmoved => ?_⟩
  obtain ⟨v, member, moving⟩ := (dispatch_run commandedServices terse operator true false misled straightAhead_law
    nowhere_stray nowhere_asks nowhere_known).2.mpr (.inr nowhere_drives)
  rw [unmoved.still v member] at moving
  cases moving

/-- The same droid with its emergency stop engaged. -/
def stopped : Brain (Commanded (SimWorld Stores)) :=
  { misled with rt := { misled.rt with controller := { misled.rt.controller with estop := true } } }

/-- It stays where it is. -/
theorem nowhere_stopped : Unmoved wheeledSite commandedServices terse toNowhere operator true false stopped := by
  have kept : stopped.rt.env.world.store.world.data.resolve wheeledSite.equipment.text (.str "nowhere") = _ :=
    nowhere_known.trans ((nowhere_storing awake.rt.env.world.backend).known awake.rt.env.world.store).symm
  have silent : stopped.rt.env.sent = [] := List.isEmpty_iff.mp (by decide +kernel)
  have unmoved := (stray_unmoved_iff commandedServices terse operator true false stopped straightAhead_law
    (nowhere_storing awake.rt.env.world.backend) nowhere_stray awake.rt.env.world.store kept nowhere_asks silent).mpr
  exact unmoved fun drives => absurd drives.granted (by decide +kernel)

end DroidOs.System.StrayGoals
