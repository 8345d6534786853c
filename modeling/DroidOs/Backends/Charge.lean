/- GID: DroidOs/Backends/Charge
   generality: I
   source: src/droidos/backends/simulation.py
   digest: What the commands and the steps of the simulated body do to its battery. -/

import DroidOs.Backends.Simulation
import DroidOs.Core.Numbers

set_option autoImplicit false
set_option relaxedAutoImplicit false

namespace DroidOs.Backends.Charge

open DroidOs.Lib.Procedure
open DroidOs.Core.Values DroidOs.Core.Context
open DroidOs.Body.Package DroidOs.Backends.Simulation
open SimulationBackend (maxLinear maxAngular warmActuator applyOverheat step)

/-- The battery stands at a level. -/
def Charged (b : SimulationBackend) : Prop := ∃ q : ℚ, 0 ≤ q ∧ b.battery = .fin q

theorem new_charged (body : LoadedBody) : Charged (SimulationBackend.new body) := ⟨78, by decide, rfl⟩

/-- It does not charge, and it stands at no more than a given level. -/
structure Draining (limit : ℚ) (b : SimulationBackend) : Prop where
  unplugged : b.charging = false
  level : ∃ q : ℚ, 0 ≤ q ∧ q ≤ limit ∧ b.battery = .fin q

/-- Neither the flag nor the level differs. -/
structure SameCharge (b b' : SimulationBackend) : Prop where
  charging : b'.charging = b.charging
  battery : b'.battery = b.battery

theorem SameCharge.rfl {b : SimulationBackend} : SameCharge b b := ⟨by rfl, by rfl⟩

theorem SameCharge.trans {a b c : SimulationBackend} (first : SameCharge a b) (second : SameCharge b c) :
    SameCharge a c :=
  ⟨second.charging.trans first.charging, second.battery.trans first.battery⟩

theorem Draining.congr {limit : ℚ} {b b' : SimulationBackend} (draining : Draining limit b)
    (same : SameCharge b b') : Draining limit b' := by
  obtain ⟨q, positive, below, level⟩ := draining.level
  exact ⟨same.charging.trans draining.unplugged, q, positive, below, same.battery.trans level⟩

variable (text : PyText) (math : Libm) (body : LoadedBody)

/-- A velocity command moves the body and leaves its battery alone. -/
theorem commandVelocity_sameCharge {b b' : SimulationBackend} {vel : BodyVelocity} {dt : PyFloat}
    (run : b.commandVelocity text math body vel dt = .ok b') : SameCharge b b' := by
  unfold SimulationBackend.commandVelocity at run
  by_cases off : b.power = false
  · rw [if_pos (by simp [off])] at run
    cases run
    exact SameCharge.rfl
  rw [if_neg (by simp [off])] at run
  rcases linear : maxLinear text body with e | maxLin <;> rw [linear] at run
  · cases run
  rcases angular : maxAngular text body with e | maxAng <;> rw [angular] at run
  · cases run
  · cases run
    exact ⟨rfl, rfl⟩

private theorem trackJoint_sameCharge (b : SimulationBackend) (target : PyVal × PyFloat) :
    SameCharge b (b.trackJoint target) := by
  unfold SimulationBackend.trackJoint
  split
  · split <;> exact ⟨rfl, rfl⟩
  · exact SameCharge.rfl

theorem commandJoints_sameCharge (b : SimulationBackend) (targets : List (PyVal × PyFloat)) :
    SameCharge b (b.commandJoints targets) := by
  unfold SimulationBackend.commandJoints
  split
  · exact SameCharge.rfl
  · induction targets generalizing b with
    | nil => exact SameCharge.rfl
    | cons target targets ih =>
      have first := trackJoint_sameCharge b target
      rename_i on
      have powered : ¬ (!(b.trackJoint target).power) = true := by
        rw [(b.trackJoint_spec target).1]
        exact on
      exact first.trans (ih _ powered)

/-- A body that does not charge loses what it drains. -/
private theorem drainBattery_draining {limit dt : ℚ} (passes : 0 ≤ dt) {b : SimulationBackend}
    (draining : Draining limit b) : Draining limit (b.drainBattery (.fin dt)) := by
  obtain ⟨q, positive, below, level⟩ := draining.level
  have lost (rate : ℚ) : PyFloat.max 0 (b.battery - .fin rate * .fin dt) = .fin (max 0 (q - rate * dt)) := by
    have value : b.battery - .fin rate * .fin dt = .fin (q - rate * dt) := by
      rw [level, sub_eq_add_neg]
      rfl
    rw [value]
    exact PyFloat.max_fin 0 _
  have left {rate : ℚ} (drains : 0 ≤ rate) : 0 ≤ max 0 (q - rate * dt) ∧ max 0 (q - rate * dt) ≤ limit := by
    have drained : 0 ≤ rate * dt := mul_nonneg drains passes
    exact ⟨le_max_left _ _, max_le (positive.trans below) (by linarith)⟩
  refine ⟨draining.unplugged, ?_⟩
  unfold SimulationBackend.drainBattery
  dsimp only
  rw [draining.unplugged, if_neg Bool.false_ne_true]
  split
  · exact ⟨_, (left (by norm_num)).1, (left (by norm_num)).2, lost (1 / 50)⟩
  · exact ⟨_, (left (by norm_num)).1, (left (by norm_num)).2, lost (1 / 250)⟩

/-- Time passes, and the battery drains. -/
theorem step_draining {limit dt : ℚ} (passes : 0 ≤ dt) : Keeps (Draining limit) (step (.fin dt)) := by
  have warmed (name : String) : Keeps (Draining limit) (warmActuator (.fin dt) name) :=
    keeps_bind (keeps_reads _) fun _ => keeps_bind (keeps_ofExcept _) fun _ =>
      keeps_modify fun _ holds => holds.congr ⟨rfl, rfl⟩
  have overheated : Keeps (Draining limit) applyOverheat := by
    refine keeps_bind (keeps_reads _) fun fault => ?_
    split
    · exact keeps_modify fun _ holds => holds.congr ⟨rfl, rfl⟩
    · exact keeps_ite (fun _ => keeps_pure _) fun _ => keeps_raise _
    · exact keeps_pure _
  refine keeps_bind (keeps_modify fun _ holds => holds.congr ⟨rfl, rfl⟩) fun _ => ?_
  refine keeps_bind (keeps_reads _) fun _ => keeps_bind (keeps_forEach fun name _ => warmed name) fun _ => ?_
  exact keeps_bind overheated fun _ => keeps_modify fun _ holds => drainBattery_draining passes holds

end DroidOs.Backends.Charge
