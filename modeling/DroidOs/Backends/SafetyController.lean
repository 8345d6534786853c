/- GID: DroidOs/Backends/SafetyController
   generality: I
   source: src/droidos/backends/safety_controller.py
   digest: The simulated safety controller with its latch, contactor, faults and watchdog. -/

import DroidOs.Core.Values
import Mathlib.Data.List.Sort

set_option autoImplicit false
set_option relaxedAutoImplicit false

namespace DroidOs.Backends.SafetyController

open DroidOs.Core.Values

/-- `SimulatedSafetyController`. The set of faults is a list without repetitions;
times are exact seconds. -/
structure SimulatedSafetyController where
  alive : Bool := true
  estop : Bool := false
  power : Bool := false
  faults : List String := []
  watchdogTimeout : ℚ := 1
  lastContact : ℚ
  linkUp : Bool := true

structure SafetyControllerState where
  alive : Bool
  estopEngaged : Bool
  powerEnabled : Bool
  watchdogOk : Bool
  faults : List String
  lastHostContactAge : ℚ

namespace SafetyControllerState

variable (st : SafetyControllerState)

/-- Safe to enable power, though power may still be off. -/
def healthy : Bool := st.alive && st.watchdogOk && !st.estopEngaged && st.faults.isEmpty

def movementPermitted : Bool := st.healthy && st.powerEnabled

end SafetyControllerState

namespace SimulatedSafetyController

def heartbeat (now : ℚ) (c : SimulatedSafetyController) : SimulatedSafetyController :=
  { c with lastContact := now }

/-- Whether the host has been silent for longer than the controller tolerates. -/
def silent (now : ℚ) (c : SimulatedSafetyController) : Bool :=
  c.watchdogTimeout < now - c.lastContact

/-- `now or time.time()` is `now`, since the clock never reads zero. -/
def checkWatchdog (now : ℚ) (c : SimulatedSafetyController) : SimulatedSafetyController :=
  if !c.linkUp || c.silent now then { c with power := false } else c

def setLink (up : Bool) (c : SimulatedSafetyController) : SimulatedSafetyController :=
  { c with linkUp := up, power := c.power && up }

/-- Add to the set of faults. -/
def addFault (name : String) (c : SimulatedSafetyController) : SimulatedSafetyController :=
  { c with faults := if name ∈ c.faults then c.faults else c.faults ++ [name] }

def engageEstop (reason : String) (c : SimulatedSafetyController) : SimulatedSafetyController :=
  let c := { c with estop := true, power := false }
  if reason = "" then c else c.addFault ("estop:" ++ reason)

/-- `f.startswith("estop:")`. -/
def isEstopFault (f : String) : Bool := "estop:".toList.isPrefixOf f.toList

def resetEstop (c : SimulatedSafetyController) : SimulatedSafetyController :=
  { c with estop := false, faults := c.faults.filter fun f => !isEstopFault f }

def mayEnable (c : SimulatedSafetyController) : Bool :=
  !c.estop && c.alive && c.faults.isEmpty && c.linkUp

/-- The answer, and the controller with its contactor closed when it is yes. -/
def requestPowerEnable (c : SimulatedSafetyController) : Bool × SimulatedSafetyController :=
  if c.mayEnable then (true, { c with power := true }) else (false, c)

def disablePower (c : SimulatedSafetyController) : SimulatedSafetyController :=
  { c with power := false }

def reportFault (name : String) (c : SimulatedSafetyController) : SimulatedSafetyController :=
  { c.addFault name with power := false }

def clearFault (name : String) (c : SimulatedSafetyController) : SimulatedSafetyController :=
  { c with faults := c.faults.filter (· ≠ name) }

def clearAllFaults (c : SimulatedSafetyController) : SimulatedSafetyController :=
  { c with faults := c.faults.filter isEstopFault }

/-- The snapshot that `status` returns once its watchdog check has run. -/
def snapshot (now : ℚ) (c : SimulatedSafetyController) : SafetyControllerState where
  alive := c.alive && c.linkUp
  estopEngaged := c.estop
  powerEnabled := c.power
  watchdogOk := !c.silent now && c.linkUp
  faults := c.faults.mergeSort (fun a b => decide (a ≤ b))
  lastHostContactAge := now - c.lastContact

/-- Reading the status runs the watchdog. -/
def status (now : ℚ) (c : SimulatedSafetyController) :
    SafetyControllerState × SimulatedSafetyController :=
  ((c.checkWatchdog now).snapshot now, c.checkWatchdog now)

/-! What each operation leaves of the fields that decide about power. -/

variable (now : ℚ) (c : SimulatedSafetyController)

@[simp] theorem heartbeat_estop : (c.heartbeat now).estop = c.estop := rfl
@[simp] theorem heartbeat_power : (c.heartbeat now).power = c.power := rfl
@[simp] theorem heartbeat_faults : (c.heartbeat now).faults = c.faults := rfl
@[simp] theorem heartbeat_linkUp : (c.heartbeat now).linkUp = c.linkUp := rfl
@[simp] theorem heartbeat_alive : (c.heartbeat now).alive = c.alive := rfl
@[simp] theorem heartbeat_watchdogTimeout :
    (c.heartbeat now).watchdogTimeout = c.watchdogTimeout := rfl

@[simp] theorem checkWatchdog_estop : (c.checkWatchdog now).estop = c.estop := by
  unfold checkWatchdog
  split <;> rfl

@[simp] theorem checkWatchdog_faults : (c.checkWatchdog now).faults = c.faults := by
  unfold checkWatchdog
  split <;> rfl

@[simp] theorem checkWatchdog_linkUp : (c.checkWatchdog now).linkUp = c.linkUp := by
  unfold checkWatchdog
  split <;> rfl

@[simp] theorem checkWatchdog_alive : (c.checkWatchdog now).alive = c.alive := by
  unfold checkWatchdog
  split <;> rfl

@[simp] theorem checkWatchdog_lastContact :
    (c.checkWatchdog now).lastContact = c.lastContact := by
  unfold checkWatchdog
  split <;> rfl

@[simp] theorem checkWatchdog_watchdogTimeout :
    (c.checkWatchdog now).watchdogTimeout = c.watchdogTimeout := by
  unfold checkWatchdog
  split <;> rfl

/-- The watchdog only ever opens the contactor. -/
theorem checkWatchdog_power :
    (c.checkWatchdog now).power = (c.power && c.linkUp && !c.silent now) := by
  unfold checkWatchdog
  cases link : c.linkUp <;> cases quiet : c.silent now <;> simp

@[simp] theorem engageEstop_estop (reason : String) :
    (c.engageEstop reason).estop = true := by
  unfold engageEstop
  dsimp only
  split <;> rfl

@[simp] theorem engageEstop_power (reason : String) :
    (c.engageEstop reason).power = false := by
  unfold engageEstop
  dsimp only
  split <;> rfl

@[simp] theorem engageEstop_linkUp (reason : String) :
    (c.engageEstop reason).linkUp = c.linkUp := by
  unfold engageEstop
  dsimp only
  split <;> rfl

@[simp] theorem engageEstop_watchdogTimeout (reason : String) :
    (c.engageEstop reason).watchdogTimeout = c.watchdogTimeout := by
  unfold engageEstop
  dsimp only
  split <;> rfl

@[simp] theorem resetEstop_estop : c.resetEstop.estop = false := rfl
@[simp] theorem resetEstop_power : c.resetEstop.power = c.power := rfl
@[simp] theorem disablePower_power : c.disablePower.power = false := rfl
@[simp] theorem disablePower_estop : c.disablePower.estop = c.estop := rfl
@[simp] theorem reportFault_power (name : String) : (c.reportFault name).power = false := rfl
@[simp] theorem reportFault_estop (name : String) : (c.reportFault name).estop = c.estop := rfl
@[simp] theorem setLink_estop (up : Bool) : (c.setLink up).estop = c.estop := rfl
@[simp] theorem setLink_power (up : Bool) : (c.setLink up).power = (c.power && up) := rfl
@[simp] theorem clearFault_estop (name : String) : (c.clearFault name).estop = c.estop := rfl
@[simp] theorem clearAllFaults_estop : c.clearAllFaults.estop = c.estop := rfl

@[simp] theorem status_snd : (c.status now).2 = c.checkWatchdog now := rfl

@[simp] theorem snapshot_estopEngaged : (c.snapshot now).estopEngaged = c.estop := rfl

theorem snapshot_faults_isEmpty : (c.snapshot now).faults.isEmpty = c.faults.isEmpty := by
  have same : (c.faults.mergeSort fun a b => decide (a ≤ b)).length = c.faults.length :=
    List.length_mergeSort _
  unfold snapshot
  cases sorted : c.faults.mergeSort (fun a b => decide (a ≤ b)) with
  | nil =>
    rw [sorted] at same
    simp [List.length_eq_zero_iff.mp same.symm]
  | cons f fs =>
    rw [sorted] at same
    cases given : c.faults with
    | nil => simp [given] at same
    | cons g gs => rfl

/-- A healthy status is exactly one at which the controller would close its
contactor and its watchdog has not run out. -/
theorem healthy_iff :
    (c.snapshot now).healthy = true ↔ c.mayEnable = true ∧ c.silent now = false := by
  simp only [SafetyControllerState.healthy, snapshot_faults_isEmpty, mayEnable]
  simp only [snapshot]
  cases c.alive <;> cases c.linkUp <;> cases c.silent now <;> cases c.estop <;> simp

/-- The watchdog does not change whether the controller is healthy. -/
@[simp] theorem checkWatchdog_healthy :
    ((c.checkWatchdog now).snapshot now).healthy = (c.snapshot now).healthy := by
  rw [Bool.eq_iff_iff, healthy_iff, healthy_iff]
  simp [mayEnable, silent]

/-- A latched controller is never healthy and never closes its contactor. -/
theorem estop_not_healthy {now : ℚ} {c : SimulatedSafetyController}
    (latched : c.estop = true) : (c.snapshot now).healthy = false := by
  simp [SafetyControllerState.healthy, latched]

end SimulatedSafetyController

end DroidOs.Backends.SafetyController
