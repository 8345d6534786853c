/- GID: DroidOs/System/DriveGate
   generality: I
   source: src/droidos/executive/executive.py
   digest: What the drive loop looks at before each command, and what the readiness gate finds there. -/

import DroidOs.Services.Readiness
import DroidOs.System.PoweredStates

set_option autoImplicit false
set_option relaxedAutoImplicit false

namespace DroidOs.System.DriveGate

open DroidOs.Lib.Procedure DroidOs.Lib.Interleaving
open DroidOs.Lib.Interleaving.Coroutine (atomically moments)
open DroidOs.Core.Values DroidOs.Core.States DroidOs.Core.Context
open DroidOs.Backends.Simulation
open DroidOs.Services.Lifecycle DroidOs.Services.Supervisor DroidOs.Services.Readiness
open DroidOs.Executive.BehaviourTree DroidOs.Executive.Drive
open Registration Operations Simulated LatchLaw PoweredStates

/-! A tick decides first and commands then. -/

section

variable {ε : Type} (svc : Services ε)

/-- A round of the loop up to its command: how the drive ends, or the velocity. -/
def decideTick (goal : Pose) (d : DriveData) :
    Proc (Runtime ε) Exn (Except (Status × DriveData) (BodyVelocity × DriveData)) := do
  if ← reads Runtime.cancelled then
    return .error (.failure, { d with result := some "cancelled" })
  if !(← outside svc.localizationOk) then
    return .error (.failure, { d with result := some "localization_lost" })
  let (blocked, dist) ← outside svc.isPathBlocked
  if blocked then
    if let some dist := dist then outside (noteObstacle svc dist)
    return .error (.failure, { d with
      result := some "blocked"
      stoppedDistance := some (match dist with
        | some x => if x.truthy then .float (x.round 1) else .none
        | none => .none) })
  let here ← outside svc.pose
  let (vel, remaining) ← outside (svc.velocityToward goal here)
  let d := { d with remaining := some (remaining.round 2) }
  if remaining.le arrivalM then return .error (.success, { d with result := some "arrived" })
  return .ok (vel, d)

/-- The command. -/
def commandTick : Except (Status × DriveData) (BodyVelocity × DriveData) →
    Proc (Runtime ε) Exn (Option Status × DriveData)
  | .error (status, d) => pure (some status, d)
  | .ok (vel, d) => do
    outside (svc.drive vel driveDt)
    return (none, d)

theorem commandTick_run (vel : BodyVelocity) (d : DriveData) (rt : Runtime ε) :
    commandTick svc (.ok (vel, d)) rt = ((svc.drive vel driveDt rt.env).1.map fun _ => (none, d),
      { rt with env := (svc.drive vel driveDt rt.env).2 }) := by
  change (outside (svc.drive vel driveDt) >>= fun _ => pure (none, d)) rt = _
  rw [bind_run, outside_run]
  rcases svc.drive vel driveDt rt.env with ⟨e | _, w⟩ <;> rfl

theorem driveTick_eq (goal : Pose) (d : DriveData) :
    driveTick svc goal d = decideTick svc goal d >>= commandTick svc := by
  unfold driveTick decideTick
  rw [bind_bind]
  refine bind_congr fun cancelled => ?_
  split
  · rfl
  rw [bind_bind]
  refine bind_congr fun localized => ?_
  split
  · rfl
  rw [bind_bind]
  refine bind_congr fun ⟨blocked, dist⟩ => ?_
  dsimp only
  split
  · cases dist with
    | none => rfl
    | some dist =>
      dsimp only
      rw [bind_bind]
      rfl
  rw [bind_bind]
  refine bind_congr fun here => ?_
  rw [bind_bind]
  refine bind_congr fun ⟨vel, remaining⟩ => ?_
  dsimp only
  split <;> rfl

/-- The loop forwards a velocity command from this context, issued in the context `issued`. -/
def Forwards (goal : Pose) (rt : Runtime ε) (vel : BodyVelocity) (issued : Runtime ε) : Prop :=
  ∃ d d', decideTick svc goal d rt = (.ok (.ok (vel, d')), issued)

/-- A tick after which the loop goes on has forwarded a command. -/
theorem forwards_of_goes_on {goal : Pose} {d d' : DriveData} {rt : Runtime ε}
    (goesOn : (driveTick svc goal d rt).1 = .ok (none, d')) :
    ∃ vel issued, Forwards svc goal rt vel issued := by
  rw [driveTick_eq, bind_run] at goesOn
  rcases decided : decideTick svc goal d rt with ⟨e | ⟨status, d''⟩ | ⟨vel, d''⟩, issued⟩ <;>
    rw [decided] at goesOn
  · cases goesOn
  · cases goesOn
  · exact ⟨vel, issued, d, d'', decided⟩

/-- The moments of the loop are the first tick's and, if it goes on, those of the rest. -/
theorem moments_driveLoop (goal : Pose) (budget : Nat) (d : DriveData)
    (evolve : ℕ → Brain ε → Brain ε) (m : Brain ε) :
    moments evolve (driveLoop svc goal (budget + 1) d) m = (m, evolve 0 m) ::
      match driveTick svc goal d (evolve 0 m).rt with
      | (.ok (none, d'), rt) => moments (fun k => evolve (k + 1)) (driveLoop svc goal budget d')
          { evolve 0 m with rt := rt }
      | _ => [] := by
  rw [driveLoop, Coroutine.moments_atomically_bind, onRt_run]
  rcases driveTick svc goal d (evolve 0 m).rt with ⟨e | ⟨_ | status, d'⟩, rt⟩ <;> rfl

/-- After a first tick that goes on there is a second. -/
theorem second_moment {goal : Pose} {budget : Nat} {d d' : DriveData} {evolve : ℕ → Brain ε → Brain ε}
    {m : Brain ε} (goesOn : (driveTick svc goal d (evolve 0 m).rt).1 = .ok (none, d')) :
    (moments evolve (driveLoop svc goal (budget + 2) d) m)[1]? =
      some ({ evolve 0 m with rt := (driveTick svc goal d (evolve 0 m).rt).2 },
        evolve 1 { evolve 0 m with rt := (driveTick svc goal d (evolve 0 m).rt).2 }) := by
  rw [moments_driveLoop]
  generalize driveTick svc goal d (evolve 0 m).rt = tick at goesOn ⊢
  obtain ⟨result, rt⟩ := tick
  obtain rfl : result = .ok (none, d') := goesOn
  dsimp only
  rw [moments_driveLoop]
  rfl

/-- The moment at which the loop forwards nothing is its last. -/
theorem unforwarded_last {goal : Pose} (budget : Nat) (d : DriveData)
    (evolve : ℕ → Brain ε → Brain ε) (m : Brain ε) {past rest : List (Brain ε × Brain ε)}
    {v : Brain ε × Brain ε}
    (split : moments evolve (driveLoop svc goal budget d) m = past ++ v :: rest)
    (silent : ¬ ∃ vel issued, Forwards svc goal v.2.rt vel issued) : rest = [] := by
  induction budget generalizing d evolve m past with
  | zero => simp [driveLoop] at split
  | succ budget ih =>
    rw [moments_driveLoop] at split
    rcases past with _ | ⟨w, past⟩
    · obtain ⟨rfl, tail⟩ := List.cons.inj split
      rw [← tail]
      split
      · next goesOn => exact absurd (forwards_of_goes_on svc (by rw [goesOn])) silent
      · rfl
    · have tail := (List.cons.inj split).2
      split at tail
      · exact ih _ _ _ tail
      · simp at tail

end

/-! A simulated body. -/

variable {δ : Type} (s : Surroundings δ)

/-- What the loop itself looks at before it forwards a command. -/
structure Goes (goal : Pose) (rt : Runtime (SimWorld δ)) : Prop where
  uncancelled : rt.cancelled = false
  localized : localizationOk s rt.env.backend = .ok true
  clear : ∃ dist, isPathBlocked s rt.env.backend = .ok (false, dist)
  ahead : ∃ vel remaining, velocityToward s goal rt.env.backend.pose = .ok (vel, remaining) ∧
    remaining.le arrivalM = false

/-- The services answer the loop as a simulated body's do, and change nothing by it. -/
structure Sees {ε : Type} (svc : Services ε) (view : ε → SimulationBackend) : Prop where
  localizationOk : ∀ w, svc.localizationOk w = (localizationOk s (view w), w)
  isPathBlocked : ∀ w, svc.isPathBlocked w = (isPathBlocked s (view w), w)
  pose : ∀ w, svc.pose w = (.ok (view w).pose, w)
  velocityToward : ∀ goal here w, svc.velocityToward goal here w = (velocityToward s goal here, w)

theorem sees_simulated : Sees s (simulated s) SimWorld.backend where
  localizationOk _ := rfl
  isPathBlocked _ := rfl
  pose _ := rfl
  velocityToward goal here w := by
    change ofExcept (velocityToward s goal here) w = _
    rw [ofExcept_run]

/-! Such readings leave the context as it is. -/

namespace Sees

variable {s} {ε : Type} {svc : Services ε} {view : ε → SimulationBackend} (sees : Sees s svc view)
include sees

private theorem read_localizationOk (rt : Runtime ε) :
    outside svc.localizationOk rt = (Simulated.localizationOk s (view rt.env), rt) := by
  rw [outside_run, sees.localizationOk]

private theorem read_isPathBlocked (rt : Runtime ε) :
    outside svc.isPathBlocked rt = (Simulated.isPathBlocked s (view rt.env), rt) := by
  rw [outside_run, sees.isPathBlocked]

private theorem read_pose (rt : Runtime ε) : outside svc.pose rt = (.ok (view rt.env).pose, rt) := by
  rw [outside_run, sees.pose]

private theorem read_velocityToward (goal here : Pose) (rt : Runtime ε) :
    outside (svc.velocityToward goal here) rt = (Simulated.velocityToward s goal here, rt) := by
  rw [outside_run, sees.velocityToward]

/-- Before its command a tick only looks, and notes an obstacle. -/
theorem keeps_decideTick {I : Runtime ε → Prop} (note : ∀ dist, Keeps I (outside (noteObstacle svc dist)))
    (goal : Pose) (d : DriveData) : Keeps I (decideTick svc goal d) := by
  have localization : Keeps I (outside svc.localizationOk) := by
    refine keeps_iff.mpr fun rt holds => ?_
    rw [sees.read_localizationOk]
    exact holds
  have path : Keeps I (outside svc.isPathBlocked) := by
    refine keeps_iff.mpr fun rt holds => ?_
    rw [sees.read_isPathBlocked]
    exact holds
  have pose : Keeps I (outside svc.pose) := by
    refine keeps_iff.mpr fun rt holds => ?_
    rw [sees.read_pose]
    exact holds
  have toward (here : Pose) : Keeps I (outside (svc.velocityToward goal here)) := by
    refine keeps_iff.mpr fun rt holds => ?_
    rw [sees.read_velocityToward]
    exact holds
  refine keeps_bind (keeps_reads _) fun _ => keeps_ite (fun _ => keeps_pure _) fun _ => ?_
  refine keeps_bind localization fun _ => keeps_ite (fun _ => keeps_pure _) fun _ => ?_
  refine keeps_bind path fun ⟨_, dist⟩ => keeps_ite (fun _ => ?_) fun _ => ?_
  · cases dist with
    | none => exact keeps_pure _
    | some dist => exact keeps_bind (note dist) fun _ => keeps_pure _
  refine keeps_bind pose fun here => keeps_bind (toward here) fun ⟨vel, _⟩ => ?_
  exact keeps_ite (fun _ => keeps_pure _) fun _ => keeps_pure _

end Sees

/-- Where nothing speaks against it a tick decides for the velocity towards the goal. -/
theorem decideTick_goes {ε : Type} {svc : Services ε} {view : ε → SimulationBackend} (sees : Sees s svc view)
    {goal : Pose} (d : DriveData) {rt : Runtime ε} {vel : BodyVelocity} {remaining : PyFloat}
    (uncancelled : rt.cancelled = false) (localized : localizationOk s (view rt.env) = .ok true)
    (clear : ∃ dist, isPathBlocked s (view rt.env) = .ok (false, dist))
    (toward : velocityToward s goal (view rt.env).pose = .ok (vel, remaining))
    (far : remaining.le arrivalM = false) :
    decideTick svc goal d rt = (.ok (.ok (vel, { d with remaining := some (remaining.round 2) })), rt) := by
  obtain ⟨dist, clear⟩ := clear
  unfold decideTick
  rw [reads_bind, uncancelled, if_neg Bool.false_ne_true]
  rw [bind_ok (t := rt) (a := true) (by rw [sees.read_localizationOk, localized]), if_neg (by simp)]
  rw [bind_ok (t := rt) (a := (false, dist)) (by rw [sees.read_isPathBlocked, clear])]
  change (outside svc.pose >>= _) rt = _
  rw [bind_ok (sees.read_pose rt)]
  rw [bind_ok (t := rt) (a := (vel, remaining)) (by rw [sees.read_velocityToward, toward])]
  dsimp only
  rw [far]
  rfl

/-- Where the loop goes it forwards a command. -/
theorem forwards_of_goes {goal : Pose} {rt : Runtime (SimWorld δ)} (goes : Goes s goal rt) :
    ∃ vel, Forwards (simulated s) goal rt vel rt := by
  obtain ⟨vel, remaining, toward, far⟩ := goes.ahead
  refine ⟨vel, { label := .none }, { label := .none, remaining := some (remaining.round 2) }, ?_⟩
  exact decideTick_goes s (sees_simulated s) _ goes.uncancelled goes.localized goes.clear toward far

/-- How a tick decides: it fails, or its readings let it look at the goal from where it is. -/
theorem decideTick_cases {ε : Type} {svc : Services ε} {view : ε → SimulationBackend} (sees : Sees s svc view)
    {goal : Pose} {d : DriveData} {rt rt' : Runtime ε}
    {result : Except Exn (Except (Status × DriveData) (BodyVelocity × DriveData))}
    (decided : decideTick svc goal d rt = (result, rt')) :
    (∃ e, result = .error e) ∨ (∃ d', result = .ok (.error (.failure, d'))) ∨
      rt' = rt ∧ rt.cancelled = false ∧ localizationOk s (view rt.env) = .ok true ∧
      (∃ dist, isPathBlocked s (view rt.env) = .ok (false, dist)) ∧ ∃ vel remaining,
        velocityToward s goal (view rt.env).pose = .ok (vel, remaining) ∧
        result = .ok (if remaining.le arrivalM
          then .error (.success, { d with remaining := some (remaining.round 2), result := some "arrived" })
          else .ok (vel, { d with remaining := some (remaining.round 2) })) := by
  unfold decideTick at decided
  rw [reads_bind] at decided
  cases uncancelled : rt.cancelled with
  | true =>
    rw [uncancelled] at decided
    cases decided
    exact .inr (.inl ⟨_, rfl⟩)
  | false =>
    rw [uncancelled, if_neg Bool.false_ne_true] at decided
    rcases localized : localizationOk s (view rt.env) with e | _ | _
    · rw [bind_error (t := rt) (e := e) (by rw [sees.read_localizationOk, localized])] at decided
      cases decided
      exact .inl ⟨e, rfl⟩
    · rw [bind_ok (t := rt) (a := false) (by rw [sees.read_localizationOk, localized])] at decided
      cases decided
      exact .inr (.inl ⟨_, rfl⟩)
    rw [bind_ok (t := rt) (a := true) (by rw [sees.read_localizationOk, localized]), if_neg (by simp)] at decided
    rcases clear : isPathBlocked s (view rt.env) with e | ⟨_ | _, dist⟩
    · rw [bind_error (t := rt) (e := e) (by rw [sees.read_isPathBlocked, clear])] at decided
      cases decided
      exact .inl ⟨e, rfl⟩
    · rw [bind_ok (t := rt) (a := (false, dist)) (by rw [sees.read_isPathBlocked, clear])] at decided
      change (outside svc.pose >>= _) rt = _ at decided
      rw [bind_ok (sees.read_pose rt)] at decided
      rcases toward : velocityToward s goal (view rt.env).pose with e | ⟨vel, remaining⟩
      · rw [bind_error (t := rt) (e := e) (by rw [sees.read_velocityToward, toward])] at decided
        cases decided
        exact .inl ⟨e, rfl⟩
      rw [bind_ok (t := rt) (a := (vel, remaining)) (by rw [sees.read_velocityToward, toward])] at decided
      dsimp only at decided
      refine .inr (.inr ?_)
      cases near : remaining.le arrivalM with
      | true =>
        rw [near] at decided
        cases decided
        exact ⟨rfl, rfl, rfl, ⟨dist, rfl⟩, vel, remaining, rfl, by rw [near]; rfl⟩
      | false =>
        rw [near] at decided
        cases decided
        exact ⟨rfl, rfl, rfl, ⟨dist, rfl⟩, vel, remaining, rfl, by rw [near]; rfl⟩
    · rw [bind_ok (t := rt) (a := (true, dist)) (by rw [sees.read_isPathBlocked, clear])] at decided
      cases dist with
      | none =>
        cases decided
        exact .inr (.inl ⟨_, rfl⟩)
      | some dist =>
        change (outside (noteObstacle svc dist) >>= fun _ => pure (Except.error _)) rt = _ at decided
        rw [bind_run] at decided
        rcases noted : outside (noteObstacle svc dist) rt with ⟨e | _, rt''⟩ <;>
          rw [noted] at decided <;> cases decided
        · exact .inl ⟨e, rfl⟩
        · exact .inr (.inl ⟨_, rfl⟩)

/-- Nothing else makes it forward one, which is issued where the tick began. -/
theorem goes_of_forwards {goal : Pose} {rt issued : Runtime (SimWorld δ)} {vel : BodyVelocity}
    (forwards : Forwards (simulated s) goal rt vel issued) : Goes s goal rt ∧ issued = rt ∧
      ∃ remaining, velocityToward s goal rt.env.backend.pose = .ok (vel, remaining) := by
  obtain ⟨d, d', decided⟩ := forwards
  rcases decideTick_cases s (sees_simulated s) decided with ⟨e, raised⟩ | ⟨d'', failed⟩ |
    ⟨same, uncancelled, localized, clear, vel', remaining, toward, result⟩
  · cases raised
  · cases failed
  · cases near : remaining.le arrivalM with
    | true =>
      rw [near] at result
      cases result
    | false =>
      rw [near] at result
      cases result
      exact ⟨⟨uncancelled, localized, clear, ⟨vel, remaining, toward, near⟩⟩, same, remaining, toward⟩

/-- A tick that ends the drive well finds the droid at the goal, and leaves it there. -/
theorem arrived_of_decided {goal : Pose} {d d' : DriveData} {rt rt' : Runtime (SimWorld δ)}
    (decided : decideTick (simulated s) goal d rt = (.ok (.error (.success, d')), rt')) :
    rt' = rt ∧ ∃ vel remaining, velocityToward s goal rt.env.backend.pose = .ok (vel, remaining) ∧
      remaining.le arrivalM = true := by
  rcases decideTick_cases s (sees_simulated s) decided with ⟨e, raised⟩ | ⟨d'', failed⟩ |
    ⟨same, -, -, -, vel, remaining, toward, result⟩
  · cases raised
  · cases failed
  · cases near : remaining.le arrivalM with
    | true => exact ⟨same, vel, remaining, toward, near⟩
    | false =>
      rw [near] at result
      cases result

/-! The gate. -/

/-- The readiness assessment still lets the droid move. -/
def Permits (m : Brain (SimWorld δ)) : Prop :=
  ∃ r, (assessReadiness (simulated s) (droidServices (simulated s)) m).1 = .ok r ∧
    r.state ∈ DroidState.motionAllowedFrom

/-- The drive to a goal, from its first tick on, while `evolve k` happens before the `k`-th. -/
def driven (goal : Pose) (d : DriveData) (evolve : ℕ → Brain (SimWorld δ) → Brain (SimWorld δ))
    (m : Brain (SimWorld δ)) : List (Brain (SimWorld δ) × Brain (SimWorld δ)) :=
  moments evolve (driveLoop (simulated s) goal maxDriveTicks d) m

/-- Every command of the drive is issued where the gate that admitted it still lets the
droid move. -/
def Guarded (goal : Pose) (drive : List (Brain (SimWorld δ) × Brain (SimWorld δ))) : Prop :=
  ∀ v ∈ drive, ∀ vel issued, Forwards (simulated s) goal v.2.rt vel issued →
    Permits s { v.2 with rt := issued }

/-- A guarded drive stops at the first tick at which motion is inhibited. -/
theorem guarded_stops {goal : Pose} {d : DriveData} {evolve : ℕ → Brain (SimWorld δ) → Brain (SimWorld δ)}
    {m : Brain (SimWorld δ)} (guarded : Guarded s goal (driven s goal d evolve m))
    {past rest : List (Brain (SimWorld δ) × Brain (SimWorld δ))} {v : Brain (SimWorld δ) × Brain (SimWorld δ)}
    (split : driven s goal d evolve m = past ++ v :: rest) (inhibited : ¬ Permits s v.2) : rest = [] := by
  refine unforwarded_last _ _ d evolve m split ?_
  rintro ⟨vel, issued, forwards⟩
  obtain ⟨-, rfl, -⟩ := goes_of_forwards s forwards
  exact inhibited (guarded v (by rw [split]; simp) vel _ forwards)

/-- Whatever happens between the ticks, a drive is guarded exactly when every tick that
its own checks let through finds the droid fit. -/
theorem guarded_iff (goal : Pose) (d : DriveData) (evolve : ℕ → Brain (SimWorld δ) → Brain (SimWorld δ))
    (m : Brain (SimWorld δ)) :
    Guarded s goal (driven s goal d evolve m) ↔ ∀ v ∈ driven s goal d evolve m,
      Goes s goal v.2.rt → Fit (simulated s) (droidServices (simulated s)) v.2 := by
  refine forall_congr' fun v => forall_congr' fun _ => ?_
  constructor
  · intro guarded goes
    obtain ⟨vel, forwards⟩ := forwards_of_goes s goes
    exact (assess_allowed_iff (droidServices_hasSafety _) _).mp (guarded vel _ forwards)
  · intro fit vel issued forwards
    obtain ⟨goes, rfl, -⟩ := goes_of_forwards s forwards
    exact (assess_allowed_iff (droidServices_hasSafety _) _).mpr (fit goes)

/-- The tick goes on. -/
def goesOn (goal : Pose) (d : DriveData) (rt : Runtime (SimWorld δ)) : Bool :=
  match (driveTick (simulated s) goal d rt).1 with
  | .ok (none, _) => true
  | _ => false

theorem goesOn_spec {goal : Pose} {d : DriveData} {rt : Runtime (SimWorld δ)}
    (goes : goesOn s goal d rt = true) : ∃ d', (driveTick (simulated s) goal d rt).1 = .ok (none, d') := by
  unfold goesOn at goes
  split at goes
  · exact ⟨_, ‹_›⟩
  · cases goes

/-- What the assessment finds. -/
def foundState (m : Brain (SimWorld δ)) : Option DroidState :=
  match (assessReadiness (simulated s) (droidServices (simulated s)) m).1 with
  | .ok r => some r.state
  | .error _ => none

private theorem inhibited_of_found {m : Brain (SimWorld δ)}
    (found : foundState s m = some .motionInhibited) : ¬ Permits s m := by
  rintro ⟨r, assessed, allowed⟩
  rw [foundState, assessed] at found
  rw [Option.some.inj found] at allowed
  exact absurd allowed (by decide)

/-- What a second tick finds if nothing happens before the first. -/
def secondFinds (goal : Pose) (d : DriveData) (evolve : ℕ → Brain (SimWorld δ) → Brain (SimWorld δ))
    (m : Brain (SimWorld δ)) : Brain (SimWorld δ) :=
  evolve 1 { m with rt := (driveTick (simulated s) goal d m.rt).2 }

/-- A drive whose second tick goes on although motion is inhibited is not guarded. -/
theorem not_guarded {goal : Pose} {d : DriveData} {evolve : ℕ → Brain (SimWorld δ) → Brain (SimWorld δ)}
    {m : Brain (SimWorld δ)} (start : evolve 0 m = m) (first : goesOn s goal d m.rt = true)
    (second : goesOn s goal d (secondFinds s goal d evolve m).rt = true)
    (inhibited : foundState s (secondFinds s goal d evolve m) = some .motionInhibited) :
    ¬ Guarded s goal (driven s goal d evolve m) := by
  intro guarded
  obtain ⟨d', first⟩ := goesOn_spec s first
  obtain ⟨d'', second⟩ := goesOn_spec s second
  obtain ⟨vel, issued, forwards⟩ := forwards_of_goes_on _ second
  rw [← start] at first
  have member := @second_moment _ (simulated s) goal 2998 d d' evolve m first
  rw [start] at member
  have permits := guarded _ (List.mem_of_getElem? member) vel issued forwards
  obtain ⟨-, rfl, -⟩ := goes_of_forwards s forwards
  exact inhibited_of_found s inhibited permits

/-! A motor that overheats on the way. -/

/-- The hallway droid with its permission and in the active state, before its first tick. -/
def underway : Brain (SimWorld Unit) :=
  (runMoves (code (simulated hallwayDroid) happening) (bootedPool hallwayDroid 0 .missing ())
    (.start (.runIntent toHallway "operator") :: List.replicate 6 (.resume 0))).state

/-- Between its first two ticks the motor gets too hot. -/
def overheats (k : ℕ) (m : Brain (SimWorld Unit)) : Brain (SimWorld Unit) :=
  if k = 1 then { m with rt := { m.rt with
    env := happening (.injectFault "motor_overheat" [(.str "temp", .int 95)]) m.rt.env } }
  else m

def hallway : Pose := { x := 2 }

def toTheHallway : DriveData where
  label := .str "hallway"

/-- The droid drives on with the motor that the gate would not let it start with. -/
theorem overheated_driven :
    ¬ Guarded hallwayDroid hallway (driven hallwayDroid hallway toTheHallway overheats underway) :=
  not_guarded hallwayDroid rfl (by decide +kernel) (by decide +kernel) (by decide +kernel)

end DroidOs.System.DriveGate
