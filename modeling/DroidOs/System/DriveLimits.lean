/- GID: DroidOs/System/DriveLimits
   generality: I
   source: src/droidos/services/motion.py, src/droidos/backends/simulation.py, src/droidos/body/manifest.py
   digest: When a driven velocity respects the limits that the body declares. -/

import DroidOs.Core.Numbers
import DroidOs.System.Simulated

set_option autoImplicit false
set_option relaxedAutoImplicit false

namespace DroidOs.System.DriveLimits

open DroidOs.Lib.Procedure
open DroidOs.Core.Values
open DroidOs.Body.Package DroidOs.Backends.Simulation
open SimulationBackend (clamp maxLinear maxAngular integrate)
open Simulated

/-! The clamp, by the sign of its limit. -/

theorem clamp_fin (limit u : ℚ) :
    clamp (.fin limit) (.fin u) = .fin (Max.max (-limit) (Min.min limit u)) := by
  unfold clamp
  rw [PyFloat.min_fin]
  exact PyFloat.max_fin (-limit) _

theorem clamp_unlimited (u : ℚ) : clamp (.inf false) (.fin u) = .fin u := rfl

private theorem zero_lt_fin (q : ℚ) : PyFloat.lt 0 (.fin q) = true ↔ 0 < q := decide_eq_true_iff

private theorem abs_le_fin (u q : ℚ) : (PyFloat.fin u).abs.le (.fin q) = true ↔ |u| ≤ q := by
  have value : (PyFloat.fin u).abs = .fin |u| := by
    unfold PyFloat.abs
    by_cases negative : u < 0
    · have sign : PyFloat.lt (.fin u) 0 = true := decide_eq_true negative
      rw [if_pos sign, abs_of_neg negative]
      rfl
    · have sign : ¬ PyFloat.lt (.fin u) 0 = true := fun less => negative (of_decide_eq_true less)
      rw [if_neg sign, abs_of_nonneg (not_lt.mp negative)]
  rw [value]
  simp [PyFloat.le, PyFloat.lt, PyFloat.eq, le_iff_lt_or_eq]

/-- A positive limit bounds what it clamps, keeps zero, and clamps once for all. -/
theorem clamp_of_pos {limit : PyFloat} (positive : PyFloat.lt 0 limit = true) (u : ℚ) :
    (clamp limit (.fin u)).abs.le limit = true ∧ (clamp limit (.fin u) = 0 ↔ u = 0) ∧
      clamp limit (clamp limit (.fin u)) = clamp limit (.fin u) := by
  cases limit with
  | nan => cases positive
  | inf negative =>
    cases negative with
    | true => cases positive
    | false =>
      rw [clamp_unlimited, clamp_unlimited]
      refine ⟨?_, ?_, rfl⟩
      · unfold PyFloat.abs
        split <;> rfl
      · exact ⟨fun zero => PyFloat.fin.inj zero, fun zero => congrArg PyFloat.fin zero⟩
  | fin q =>
    have positive : 0 < q := (zero_lt_fin q).mp positive
    rw [clamp_fin, clamp_fin, abs_le_fin, abs_le]
    refine ⟨⟨le_max_left _ _, max_le (by linarith) (min_le_left _ _)⟩, ⟨fun zero => ?_, fun zero => ?_⟩, ?_⟩
    · have zero : max (-q) (min q u) = 0 := PyFloat.fin.inj zero
      rcases max_choice (-q) (min q u) with low | inner
      · linarith
      · rcases min_choice q u with high | same
        · linarith
        · linarith
    · rw [zero, min_eq_right positive.le, max_eq_right (by linarith)]
      rfl
    · congr 1
      rw [min_eq_right (max_le (by linarith) (min_le_left _ _)), max_eq_right (le_max_left _ _)]

/-- Another limit gives a value beyond it, and never zero. -/
theorem clamp_of_not_pos {limit : PyFloat} (nonzero : limit.truthy = true)
    (negative : ¬ PyFloat.lt 0 limit = true) (u : ℚ) :
    ¬ (clamp limit (.fin u)).abs.le limit = true ∧ clamp limit (.fin u) ≠ 0 := by
  cases limit with
  | nan =>
    have value : clamp .nan (.fin u) = .nan := rfl
    rw [value]
    decide
  | inf sign =>
    cases sign with
    | true =>
      have value : clamp (.inf true) (.fin u) = .inf false := rfl
      rw [value]
      decide
    | false => exact absurd rfl negative
  | fin q =>
    rw [zero_lt_fin] at negative
    have below : q < 0 := by
      refine lt_of_le_of_ne (not_lt.mp negative) fun zero => ?_
      rw [zero] at nonzero
      cases nonzero
    have value : max (-q) (min q u) = -q := max_eq_left ((min_le_left _ _).trans (by linarith))
    rw [clamp_fin, value, abs_le_fin, abs_neg, abs_of_neg below]
    refine ⟨by linarith, fun zero => ?_⟩
    have zero : -q = 0 := PyFloat.fin.inj zero
    linarith

/-! The velocity of a drive. -/

variable {δ : Type} (s : Surroundings δ)

/-- `drive` up to its call of `command_velocity`, with the velocity of that call. -/
def approach (vel : BodyVelocity) (dt : PyFloat) : Proc (SimWorld δ) Exn BodyVelocity := do
  if !(← ofExcept (canMove s)) then
    raise ⟨.capabilityError, "this body has no locomotion capability"⟩
  ofExcept (validateVelocity s vel)
  let vel ← ofExcept (clampVelocity s vel)
  match ← reads SimWorld.gaitPolicy with
  | some policy => commandGait s policy vel dt
  | none => pure ()
  return vel

/-- The velocity that the simulator integrates for a command. -/
def integrated (vel : BodyVelocity) : Except Exn BodyVelocity := do
  let maxLin ← maxLinear s.text s.body
  let maxAng ← maxAngular s.text s.body
  return {
    linearX := clamp maxLin vel.linearX
    linearY := clamp maxLin vel.linearY
    angularZ := clamp maxAng vel.angularZ }

/-- The rest of `drive`. -/
def forward (dt : PyFloat) (vel : BodyVelocity) : Proc (SimWorld δ) Exn Unit := do
  commandBackend fun b => b.commandVelocity s.text s.math s.body vel dt
  zoom SimWorld.backend (fun b w => { w with backend := b }) (SimulationBackend.step dt)

theorem drive_eq (vel : BodyVelocity) (dt : PyFloat) :
    drive s vel dt = approach s vel dt >>= forward s dt := by
  funext w
  unfold drive approach
  rcases canMove s with e | moves
  · rfl
  cases moves with
  | false => rfl
  | true =>
    rcases validateVelocity s vel with e | _
    · rfl
    rcases clampVelocity s vel with e | v
    · rfl
    change (match w.gaitPolicy with
      | some policy => commandGait s policy v dt >>= fun _ => forward s dt v
      | none => forward s dt v) w = ((match w.gaitPolicy with
      | some policy => commandGait s policy v dt >>= fun _ => pure v
      | none => pure v) >>= forward s dt) w
    cases w.gaitPolicy with
    | none => rfl
    | some policy =>
      rw [bind_bind]
      rfl

theorem commandVelocity_eq (b : SimulationBackend) (vel : BodyVelocity) (dt : PyFloat) :
    b.commandVelocity s.text s.math s.body vel dt = if b.power then do
      let v ← integrated s vel
      return { b with pose := integrate s.math b.pose v dt, lastCmd := v, timeSinceCmd := 0 }
    else .ok b := by
  unfold SimulationBackend.commandVelocity integrated
  cases b.power with
  | false => rfl
  | true =>
    rcases maxLinear s.text s.body with e | maxLin
    · rfl
    · rcases maxAngular s.text s.body with e | maxAng <;> rfl

/-- The number that limits.yaml declares under a key of its velocities. -/
def declared (body : LoadedBody) (key : String) : Option PyFloat :=
  declaredNumber body.limits.velocity key

/-- A component that a declared limit permits; a limit that is not positive permits none. -/
def Permits (limit v : PyFloat) : Prop := v.abs.le limit = true ∨ (limit.le 0 = true ∧ v = 0)

/-- A velocity within the declared limits. -/
structure Within (v : BodyVelocity) : Prop where
  linear : ∀ limit, declared s.body "max_linear_mps" = some limit → Permits limit v.linearX
  angular : ∀ limit, declared s.body "max_angular_rps" = some limit → Permits limit v.angularZ
  lateral : s.body.manifest.locomotionType ≠ "omni" → v.linearY = 0

/-- Whatever the drive sends to the backend is within the limits, and so is what the
simulator integrates. -/
def Contained (vel : BodyVelocity) (dt : PyFloat) (w : SimWorld δ) : Prop :=
  ∀ v w', approach s vel dt w = (.ok v, w') → Within s v ∧
    (w'.backend.power = true → ∀ v', integrated s v = .ok v' → Within s v')

/-- The drive raises before it commands a velocity. -/
def Refused (vel : BodyVelocity) (dt : PyFloat) (w : SimWorld δ) : Prop :=
  canMove s ≠ .ok true ∨ validateVelocity s vel ≠ .ok () ∨ ∀ v, clampVelocity s vel = .ok v →
    ∃ policy e, w.gaitPolicy = some policy ∧
      (policy.infer s.text s.math (observation v) dt).1 = .error e

/-- Declared limits are positive, or zero on an axis that is not commanded; and the linear limit
that holds for want of a declared one is not negative where the simulator clamps a zero with it. -/
structure Respected (vel : BodyVelocity) (powered : Bool) : Prop where
  linear : ∀ limit, declared s.body "max_linear_mps" = some limit →
    PyFloat.lt 0 limit = true ∨ (limit = 0 ∧ vel.linearX = 0 ∧
      ∀ fallback, maxLinear s.text s.body = .ok fallback → PyFloat.lt 0 fallback = true)
  angular : ∀ limit, declared s.body "max_angular_rps" = some limit →
    PyFloat.lt 0 limit = true ∨ (limit = 0 ∧ vel.angularZ = 0)
  lateral : s.body.manifest.locomotionType ≠ "omni" → powered = true →
    ∀ limit, maxLinear s.text s.body = .ok limit → PyFloat.lt 0 limit = true

variable {s}

/-- What the checks let pass goes to the gait policy, if there is one. -/
theorem approach_checked {vel v : BodyVelocity} (dt : PyFloat) (w : SimWorld δ)
    (moves : canMove s = .ok true) (valid : validateVelocity s vel = .ok ())
    (clamped : clampVelocity s vel = .ok v) :
    (∀ policy, w.gaitPolicy = some policy →
      approach s vel dt w = (commandGait s policy v dt >>= fun _ => pure v) w) ∧
        (w.gaitPolicy = none → approach s vel dt w = (.ok v, w)) := by
  unfold approach
  rw [moves, valid, clamped]
  constructor
  · intro policy given
    simp [bind_run, given]
  · intro given
    simp [bind_run, given]

/-- A drive that is refused raises before the command; another one sends its clamped velocity. -/
theorem approach_cases (vel : BodyVelocity) (dt : PyFloat) (w : SimWorld δ) :
    (Refused s vel dt w ∧ ∃ e, (approach s vel dt w).1 = .error e) ∨
      (¬ Refused s vel dt w ∧ ∃ v, clampVelocity s vel = .ok v ∧ validateVelocity s vel = .ok () ∧
        (approach s vel dt w).1 = .ok v ∧ (approach s vel dt w).2.backend.power = w.backend.power) := by
  unfold Refused
  rcases moves : canMove s with e | able
  · refine Or.inl ⟨Or.inl (by simp), e, ?_⟩
    unfold approach
    rw [moves]
    rfl
  cases able with
  | false =>
    refine Or.inl ⟨Or.inl (by simp), ⟨.capabilityError, "this body has no locomotion capability"⟩, ?_⟩
    unfold approach
    rw [moves]
    rfl
  | true =>
    rcases valid : validateVelocity s vel with e | _
    · refine Or.inl ⟨Or.inr (Or.inl (by simp)), e, ?_⟩
      unfold approach
      rw [moves, valid]
      rfl
    rcases clamped : clampVelocity s vel with e | v
    · refine Or.inl ⟨Or.inr (Or.inr (by simp)), e, ?_⟩
      unfold approach
      rw [moves, valid, clamped]
      rfl
    obtain ⟨gaited, gaitless⟩ := approach_checked dt w moves valid clamped
    cases given : w.gaitPolicy with
    | none =>
      rw [gaitless given]
      refine Or.inr ⟨?_, v, rfl, rfl, rfl, rfl⟩
      simp
    | some policy =>
      rw [gaited policy given]
      rcases inferred : policy.infer s.text s.math (observation v) dt with ⟨e | targets, policy'⟩
      · refine Or.inl ⟨Or.inr (Or.inr fun v' same => ⟨policy, e, rfl, ?_⟩), e, ?_⟩
        · cases same
          rw [inferred]
        · simp only [commandGait, inferred]
          rfl
      · refine Or.inr ⟨?_, v, rfl, rfl, ?_, ?_⟩
        · simp [inferred]
        · simp only [commandGait, inferred]
          rfl
        · simp only [commandGait, inferred]
          exact (SimulationBackend.commandJoints_spec w.backend targets).1

/-- A velocity that is not refused has finite components. -/
theorem validated_finite {vel : BodyVelocity} (valid : validateVelocity s vel = .ok ()) :
    ∃ x y z : ℚ, vel = { linearX := .fin x, linearY := .fin y, angularZ := .fin z } := by
  obtain ⟨x, y, z⟩ := vel
  cases x <;> cases y <;> cases z <;> simp [validateVelocity, PyFloat.isNan, PyFloat.isInf, bind, Except.bind] at valid ⊢

/-- `float(value or 0.0)` of a number that it can convert. -/
private theorem float_of_number {text : PyText} {value : PyVal} {limit x : PyFloat}
    (number : value.number = .ok limit) (found : text.float (value.orElse (.float 0)) = .ok x) :
    x = limit := by
  cases value with
  | bool b =>
    cases number
    cases b <;> exact (Except.ok.inj found).symm
  | int n =>
    cases number
    by_cases zero : n = 0
    · subst zero
      exact (Except.ok.inj found).symm
    · have truthy : PyVal.orElse (.int n) (.float 0) = .int n := if_pos (by simpa [PyVal.truthy] using zero)
      rw [truthy, PyText.float] at found
      split at found
      · exact (Except.ok.inj found).symm
      · cases found
  | float y =>
    cases number
    by_cases zero : limit = 0
    · subst zero
      exact (Except.ok.inj found).symm
    · have truthy : PyVal.orElse (.float limit) (.float 0) = .float limit :=
        if_pos (by simpa [PyVal.truthy, PyFloat.truthy] using zero)
      rw [truthy] at found
      exact (Except.ok.inj found).symm
  | _ => cases number

/-- `float(velocity.get(key, 0.0) or 0.0)` of a declared number. -/
private theorem read_declared {text : PyText} {body : LoadedBody} {key : String} {limit x : PyFloat}
    (given : declared body key = some limit)
    (found : (do text.float ((← body.limits.velocity.get key (.float 0)).orElse (.float 0))) = .ok x) :
    x = limit := by
  unfold declared declaredNumber at given
  cases section_ : body.limits.velocity with
  | dict items =>
    rw [section_] at given found
    change ((PyVal.lookup key items).bind fun value => value.number.toOption) = some limit at given
    change text.float (((PyVal.lookup key items).getD (.float 0)).orElse (.float 0)) = .ok x at found
    rcases under : PyVal.lookup key items with _ | value
    · rw [under] at given
      cases given
    · rw [under] at given found
      change value.number.toOption = some limit at given
      rcases number : value.number with e | y
      · rw [number] at given
        cases given
      · rw [number] at given
        cases given
        exact float_of_number number found
  | _ =>
    rw [section_] at given
    cases given

private theorem orElse_truthy (x : PyFloat) {y : PyFloat} (truthy : y.truthy = true) :
    (x.orElse y).truthy = true := by
  unfold PyFloat.orElse
  by_cases x_truthy : x.truthy = true
  · rw [if_pos x_truthy]
    exact x_truthy
  · rw [if_neg x_truthy]
    exact truthy

/-- The linear limit in effect is a declared number that is not zero, or some fallback. -/
theorem maxLinear_effective {effective : PyFloat}
    (found : maxLinear s.text s.body = .ok effective) : effective.truthy = true ∧
      ∀ limit, declared s.body "max_linear_mps" = some limit → limit ≠ 0 → effective = limit := by
  unfold maxLinear at found
  obtain ⟨read, value, found⟩ := except_bind_ok found
  by_cases truthy : read.truthy = true
  · rw [if_pos truthy] at found
    cases found
    refine ⟨truthy, fun limit given _ => read_declared given value⟩
  · rw [if_neg truthy] at found
    obtain ⟨speed, _, fallback⟩ := except_bind_ok found
    cases fallback
    refine ⟨orElse_truthy speed (by decide +kernel), fun limit given nonzero => absurd ?_ truthy⟩
    rw [read_declared given value]
    exact decide_eq_true nonzero

theorem maxAngular_effective {effective : PyFloat}
    (found : maxAngular s.text s.body = .ok effective) : effective.truthy = true ∧
      ∀ limit, declared s.body "max_angular_rps" = some limit →
        (limit ≠ 0 → effective = limit) ∧ (limit = 0 → PyFloat.lt 0 effective = true) := by
  unfold maxAngular at found
  obtain ⟨read, value, found⟩ := except_bind_ok found
  cases found
  refine ⟨orElse_truthy read (by decide +kernel), fun limit given => ?_⟩
  rw [read_declared given value]
  refine ⟨fun nonzero => if_pos (decide_eq_true nonzero), ?_⟩
  rintro rfl
  decide +kernel

private theorem permits_zero {v : PyFloat} : Permits 0 v ↔ v = 0 := by
  constructor
  · rintro (inside | ⟨-, zero⟩)
    · cases v with
      | nan => cases inside
      | inf negative => cases negative <;> exact absurd inside (by decide)
      | fin u =>
        have small : |u| ≤ 0 := (abs_le_fin u 0).mp inside
        exact congrArg PyFloat.fin (abs_nonpos_iff.mp small)
    · exact zero
  · rintro rfl
    exact Or.inr ⟨by decide, rfl⟩

/-- The clamp to the limit in effect respects a declared limit exactly when that limit is positive,
or is zero and the fallback keeps the zero. -/
private theorem permits_clamp_iff {limit effective : PyFloat} (u : ℚ) (truthy : effective.truthy = true)
    (declared : limit ≠ 0 → effective = limit) :
    Permits limit (clamp effective (.fin u)) ↔
      PyFloat.lt 0 limit = true ∨ (limit = 0 ∧ u = 0 ∧ PyFloat.lt 0 effective = true) := by
  by_cases zero : limit = 0
  · subst zero
    have still : ¬ PyFloat.lt 0 0 = true := by decide
    rw [permits_zero]
    by_cases positive : PyFloat.lt 0 effective = true
    · rw [(clamp_of_pos positive u).2.1]
      exact ⟨fun quiet => Or.inr ⟨rfl, quiet, positive⟩, fun given => (given.resolve_left still).2.1⟩
    · exact iff_of_false (clamp_of_not_pos truthy positive u).2
        fun given => positive (given.resolve_left still).2.2
  · obtain rfl := declared zero
    by_cases positive : PyFloat.lt 0 effective = true
    · exact iff_of_true (Or.inl (clamp_of_pos positive u).1) (Or.inl positive)
    · obtain ⟨beyond, moved⟩ := clamp_of_not_pos truthy positive u
      refine iff_of_false ?_ fun given => ?_
      · rintro (inside | ⟨-, none⟩)
        · exact beyond inside
        · exact moved none
      · exact given.elim positive fun given => zero given.1

/-- Where a declared limit is respected, the limit in effect is positive. -/
private theorem effective_pos {limit effective u : PyFloat} (declared : limit ≠ 0 → effective = limit)
    (respected : PyFloat.lt 0 limit = true ∨ (limit = 0 ∧ u = 0 ∧ PyFloat.lt 0 effective = true)) :
    PyFloat.lt 0 effective = true := by
  rcases respected with positive | ⟨-, -, positive⟩
  · rw [declared fun zero => by rw [zero] at positive; cases positive]
    exact positive
  · exact positive

/-- The clamped velocity is contained exactly when the declared limits can be respected. -/
private theorem within_iff {x y z : ℚ} {v : BodyVelocity} {powered : Bool}
    (clamped : clampVelocity s ⟨.fin x, .fin y, .fin z⟩ = .ok v) :
    (Within s v ∧ (powered = true → ∀ v', integrated s v = .ok v' → Within s v')) ↔
      Respected s ⟨.fin x, .fin y, .fin z⟩ powered := by
  obtain ⟨maxLin, linear, clamped⟩ := except_bind_ok clamped
  obtain ⟨maxAng, angular, clamped⟩ := except_bind_ok clamped
  obtain ⟨nonzeroLin, declaredLin⟩ := maxLinear_effective linear
  obtain ⟨nonzeroAng, declaredAng⟩ := maxAngular_effective angular
  have sent : v = ⟨clamp maxLin (.fin x), if s.body.manifest.locomotionType = "omni"
      then clamp maxLin (.fin y) else 0, clamp maxAng (.fin z)⟩ := (Except.ok.inj clamped).symm
  have moved : integrated s v =
      .ok ⟨clamp maxLin v.linearX, clamp maxLin v.linearY, clamp maxAng v.angularZ⟩ := by
    unfold integrated
    rw [linear, angular]
    rfl
  rw [moved]
  constructor
  · rintro ⟨within, inside⟩
    constructor
    · intro limit given
      have permits := within.linear limit given
      rw [sent, permits_clamp_iff x nonzeroLin (declaredLin limit given)] at permits
      refine permits.imp_right fun ⟨zero, still, positive⟩ => ⟨zero, congrArg PyFloat.fin still, ?_⟩
      intro fallback found
      rw [linear] at found
      cases found
      exact positive
    · intro limit given
      have permits := within.angular limit given
      rw [sent, permits_clamp_iff z nonzeroAng (declaredAng limit given).1] at permits
      exact permits.imp_right fun ⟨zero, still, _⟩ => ⟨zero, congrArg PyFloat.fin still⟩
    · intro notOmni power limit found
      rw [linear] at found
      cases found
      by_contra negative
      have lateral := (inside power _ rfl).lateral notOmni
      rw [sent, if_neg notOmni] at lateral
      exact (clamp_of_not_pos nonzeroLin negative 0).2 lateral
  · rintro ⟨linear', angular', lateral'⟩
    have forwards (limit : PyFloat) (given : declared s.body "max_linear_mps" = some limit) :
        PyFloat.lt 0 limit = true ∨ (limit = 0 ∧ x = 0 ∧ PyFloat.lt 0 maxLin = true) :=
      (linear' limit given).imp_right fun ⟨zero, still, positive⟩ =>
        ⟨zero, PyFloat.fin.inj still, positive maxLin linear⟩
    have turns (limit : PyFloat) (given : declared s.body "max_angular_rps" = some limit) :
        PyFloat.lt 0 limit = true ∨ (limit = 0 ∧ z = 0 ∧ PyFloat.lt 0 maxAng = true) :=
      (angular' limit given).imp_right fun ⟨zero, still⟩ =>
        ⟨zero, PyFloat.fin.inj still, (declaredAng limit given).2 zero⟩
    have within : Within s v := by
      rw [sent]
      constructor
      · intro limit given
        exact (permits_clamp_iff x nonzeroLin (declaredLin limit given)).mpr (forwards limit given)
      · intro limit given
        exact (permits_clamp_iff z nonzeroAng (declaredAng limit given).1).mpr (turns limit given)
      · exact fun notOmni => if_neg notOmni
    refine ⟨within, fun power v' same => ?_⟩
    obtain rfl := Except.ok.inj same
    constructor
    · intro limit given
      have positive := effective_pos (u := .fin x) (declaredLin limit given)
        ((forwards limit given).imp_right fun ⟨zero, still, pos⟩ => ⟨zero, congrArg PyFloat.fin still, pos⟩)
      have once : clamp maxLin v.linearX = v.linearX := by
        rw [sent]
        exact (clamp_of_pos positive x).2.2
      rw [once]
      exact within.linear limit given
    · intro limit given
      have positive := effective_pos (u := .fin z) (declaredAng limit given).1
        ((turns limit given).imp_right fun ⟨zero, still, pos⟩ => ⟨zero, congrArg PyFloat.fin still, pos⟩)
      have once : clamp maxAng v.angularZ = v.angularZ := by
        rw [sent]
        exact (clamp_of_pos positive z).2.2
      rw [once]
      exact within.angular limit given
    · intro notOmni
      have straight : v.linearY = 0 := within.lateral notOmni
      rw [straight]
      exact (clamp_of_pos (lateral' notOmni power maxLin linear) 0).2.1.mpr rfl

/-- Whatever a drive sends to the backend and has the simulator integrate is within the
declared limits exactly when the drive is refused or those limits can be respected. -/
theorem drive_contained_iff (s : Surroundings δ) (vel : BodyVelocity) (dt : PyFloat) (w : SimWorld δ) :
    Contained s vel dt w ↔ Refused s vel dt w ∨ Respected s vel w.backend.power := by
  rcases approach_cases vel dt w with ⟨refused, e, raised⟩ | ⟨sent, v, clamped, valid, run, power⟩
  · refine iff_of_true (fun v w' reached => ?_) (Or.inl refused)
    rw [reached] at raised
    cases raised
  · obtain ⟨x, y, z, rfl⟩ := validated_finite valid
    rw [or_iff_right sent, ← within_iff clamped, ← power]
    constructor
    · intro contained
      exact contained v _ (Prod.ext run rfl)
    · intro inside v' w' reached
      rw [reached] at run inside
      cases run
      exact inside

/-- A droid whose limits.yaml forbids to drive straight. -/
def turningDroid : Surroundings Unit :=
  { hallwayDroid with
    body := { hallwayDroid.body with
      limits := { velocity := .dict [(.str "max_linear_mps", .int 0)] } } }

/-- It is sent straight on at the fallback of 0.3 m/s. -/
theorem zero_limit_driven : ¬ Contained turningDroid { linearX := 1 } (.fin (1 / 10))
    { backend := { power := true, actuators := ["drive"] }, store := () } := by
  intro contained
  have permits := (contained _ _ rfl).1.linear 0 rfl
  exact absurd (permits_zero.mp permits) (by decide +kernel)

end DroidOs.System.DriveLimits
