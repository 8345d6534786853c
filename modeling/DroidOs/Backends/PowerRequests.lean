/- GID: DroidOs/Backends/PowerRequests
   generality: I
   source: src/droidos/backends/safety_controller.py
   digest: When the controller's answer to a power request agrees with its health report. -/

import DroidOs.Backends.SafetyController
import Mathlib.Data.List.Induction

set_option autoImplicit false
set_option relaxedAutoImplicit false

namespace DroidOs.Backends.PowerRequests

open SafetyController

/-- The controller's operations; the clock may show any time at each of them. -/
inductive Op
  | heartbeat (now : ℚ)
  | checkWatchdog (now : ℚ)
  | setLink (up : Bool)
  | engageEstop (reason : String)
  | resetEstop
  | requestPowerEnable
  | disablePower
  | reportFault (name : String)
  | clearFault (name : String)
  | clearAllFaults
  | status (now : ℚ)

def apply (c : SimulatedSafetyController) : Op → SimulatedSafetyController
  | .heartbeat now => c.heartbeat now
  | .checkWatchdog now => c.checkWatchdog now
  | .setLink up => c.setLink up
  | .engageEstop reason => c.engageEstop reason
  | .resetEstop => c.resetEstop
  | .requestPowerEnable => c.requestPowerEnable.2
  | .disablePower => c.disablePower
  | .reportFault name => c.reportFault name
  | .clearFault name => c.clearFault name
  | .clearAllFaults => c.clearAllFaults
  | .status now => (c.status now).2

/-- The controller after some operations on a new one. -/
def after (watchdogTimeout start : ℚ) (ops : List Op) : SimulatedSafetyController :=
  ops.foldl apply { watchdogTimeout := watchdogTimeout, lastContact := start }

theorem after_snoc (watchdogTimeout start : ℚ) (ops : List Op) (op : Op) :
    after watchdogTimeout start (ops ++ [op]) = apply (after watchdogTimeout start ops) op := by
  simp [after]

/-- No operation switches the controller off or sets its watchdog. -/
private theorem apply_keeps (c : SimulatedSafetyController) (op : Op) :
    (apply c op).alive = c.alive ∧ (apply c op).watchdogTimeout = c.watchdogTimeout := by
  cases op with
  | checkWatchdog now => exact ⟨c.checkWatchdog_alive now, c.checkWatchdog_watchdogTimeout now⟩
  | status now => exact ⟨c.checkWatchdog_alive now, c.checkWatchdog_watchdogTimeout now⟩
  | engageEstop reason =>
    refine ⟨?_, c.engageEstop_watchdogTimeout reason⟩
    change (c.engageEstop reason).alive = c.alive
    unfold SimulatedSafetyController.engageEstop
    dsimp only
    split <;> rfl
  | requestPowerEnable =>
    change c.requestPowerEnable.2.alive = _ ∧ c.requestPowerEnable.2.watchdogTimeout = _
    unfold SimulatedSafetyController.requestPowerEnable
    split <;> exact ⟨rfl, rfl⟩
  | _ => exact ⟨rfl, rfl⟩

theorem after_keeps (watchdogTimeout start : ℚ) (ops : List Op) :
    (after watchdogTimeout start ops).alive = true ∧
      (after watchdogTimeout start ops).watchdogTimeout = watchdogTimeout := by
  induction ops using List.reverseRecOn with
  | nil => exact ⟨rfl, rfl⟩
  | append_singleton ops op ih =>
    obtain ⟨alive, timeout⟩ := apply_keeps (after watchdogTimeout start ops) op
    rw [after_snoc]
    exact ⟨alive.trans ih.1, timeout.trans ih.2⟩

/-- A power request at this time is granted exactly when the status read at this time is
healthy, and no request closes the contactor after too long a silence. -/
structure RequestAgrees (now : ℚ) (c : SimulatedSafetyController) : Prop where
  granted : c.requestPowerEnable.1 = (c.status now).1.healthy
  contactor : c.power = false → c.requestPowerEnable.2.power = true → c.silent now = false

private theorem requestPowerEnable_granted (c : SimulatedSafetyController) :
    c.requestPowerEnable.1 = c.mayEnable := by
  unfold SimulatedSafetyController.requestPowerEnable
  cases c.mayEnable <;> rfl

private theorem requestPowerEnable_closes (c : SimulatedSafetyController) (isOpen : c.power = false) :
    c.requestPowerEnable.2.power = c.mayEnable := by
  unfold SimulatedSafetyController.requestPowerEnable
  cases c.mayEnable
  · exact isOpen
  · rfl

/-- The two expressions differ in the watchdog alone. -/
private theorem requestAgrees_iff (now : ℚ) (c : SimulatedSafetyController) :
    RequestAgrees now c ↔ ¬ (c.mayEnable = true ∧ c.silent now = true) := by
  have healthy : (c.status now).1.healthy = true ↔ c.mayEnable = true ∧ c.silent now = false := by
    rw [← c.healthy_iff now, ← c.checkWatchdog_healthy now]
    rfl
  constructor
  · rintro ⟨granted, -⟩ ⟨allowed, quiet⟩
    rw [requestPowerEnable_granted, allowed] at granted
    have watched := (healthy.mp granted.symm).2
    rw [quiet] at watched
    cases watched
  · intro sound
    constructor
    · rw [requestPowerEnable_granted, Bool.eq_iff_iff, healthy]
      exact ⟨fun allowed => ⟨allowed, eq_false_of_ne_true fun quiet => sound ⟨allowed, quiet⟩⟩, And.left⟩
    · intro isOpen closed
      rw [requestPowerEnable_closes c isOpen] at closed
      exact eq_false_of_ne_true fun quiet => sound ⟨closed, quiet⟩

/-- After any operations, at any time, power requests agree with the health report exactly
when the host is not overdue while the latch, the faults and the link would permit power. -/
theorem request_agrees_iff (watchdogTimeout start : ℚ) (ops : List Op) (now : ℚ) :
    RequestAgrees now (after watchdogTimeout start ops) ↔
      ¬ (watchdogTimeout < now - (after watchdogTimeout start ops).lastContact ∧
        (after watchdogTimeout start ops).estop = false ∧
        (after watchdogTimeout start ops).faults = [] ∧
        (after watchdogTimeout start ops).linkUp = true) := by
  obtain ⟨alive, timeout⟩ := after_keeps watchdogTimeout start ops
  have quiet : (after watchdogTimeout start ops).silent now = true ↔
      watchdogTimeout < now - (after watchdogTimeout start ops).lastContact := by
    rw [SimulatedSafetyController.silent, timeout]
    exact decide_eq_true_iff
  have allowed : (after watchdogTimeout start ops).mayEnable = true ↔
      (after watchdogTimeout start ops).estop = false ∧ (after watchdogTimeout start ops).faults = [] ∧
        (after watchdogTimeout start ops).linkUp = true := by
    rw [SimulatedSafetyController.mayEnable, alive]
    simp [and_assoc]
  rw [requestAgrees_iff, quiet, allowed, and_comm]

/-- A controller that has heard nothing for two seconds grants power. -/
theorem silent_host_powered : ¬ RequestAgrees 2 (after 1 0 []) := by
  rintro ⟨-, contactor⟩
  have heard : (after 1 0 []).silent 2 = false := contactor rfl rfl
  revert heard
  norm_num [after, SimulatedSafetyController.silent]

end DroidOs.Backends.PowerRequests
