/- GID: DroidOs/Core/States
   generality: I
   source: src/droidos/core/states.py
   digest: The system state machine, its transition graph and its forced transitions. -/

import DroidOs.Core.Values

set_option autoImplicit false
set_option relaxedAutoImplicit false

namespace DroidOs.Core.States

open Values

inductive DroidState
  | poweredOff | booting | hardwareCheck | safeIdle | ready | active
  | degraded | motionInhibited | emergencyStopped | recovery | shuttingDown
  deriving DecidableEq

namespace DroidState

def value : DroidState → String
  | poweredOff => "POWERED_OFF"
  | booting => "BOOTING"
  | hardwareCheck => "HARDWARE_CHECK"
  | safeIdle => "SAFE_IDLE"
  | ready => "READY"
  | active => "ACTIVE"
  | degraded => "DEGRADED"
  | motionInhibited => "MOTION_INHIBITED"
  | emergencyStopped => "EMERGENCY_STOPPED"
  | recovery => "RECOVERY"
  | shuttingDown => "SHUTTING_DOWN"

/-- `MOTION_ALLOWED_FROM`: the states from which a new physical motion may begin. -/
def motionAllowedFrom : List DroidState := [ready, degraded, active]

/-- `MOTION_FORBIDDEN`. -/
def motionForbidden : List DroidState :=
  [poweredOff, booting, hardwareCheck, safeIdle, motionInhibited, emergencyStopped, recovery,
    shuttingDown]

/-- The two lists of the source partition the states. -/
theorem forbidden_iff (s : DroidState) : s ∈ motionForbidden ↔ s ∉ motionAllowedFrom := by
  cases s <;> decide

/-- `_TRANSITIONS`. -/
def transitions : DroidState → List DroidState
  | poweredOff => [booting]
  | booting => [hardwareCheck, recovery, shuttingDown]
  | hardwareCheck => [safeIdle, motionInhibited, emergencyStopped, recovery]
  | safeIdle => [ready, motionInhibited, emergencyStopped, shuttingDown, degraded]
  | ready => [active, safeIdle, degraded, motionInhibited, emergencyStopped, shuttingDown]
  | active => [ready, degraded, motionInhibited, emergencyStopped, shuttingDown]
  | degraded => [ready, active, safeIdle, motionInhibited, emergencyStopped, shuttingDown]
  | motionInhibited => [safeIdle, ready, emergencyStopped, shuttingDown]
  | emergencyStopped => [recovery, shuttingDown]
  | recovery => [safeIdle, shuttingDown, poweredOff]
  | shuttingDown => [poweredOff]

end DroidState

structure StateMachine where
  state : DroidState := .poweredOff
  history : List (DroidState × DroidState × String) := []

namespace StateMachine

variable (m : StateMachine)

def canTransition (dst : DroidState) : Bool := dst ∈ m.state.transitions

/-- Record a step and take it. -/
def enter (dst : DroidState) (reason : String) : StateMachine :=
  { state := dst, history := m.history ++ [(m.state, dst, reason)] }

def transition (dst : DroidState) (reason : String) : Except Exn StateMachine :=
  if dst = m.state then .ok m
  else if m.canTransition dst then .ok (m.enter dst reason)
  else .error ⟨.invalidTransition,
    "illegal state transition " ++ m.state.value ++ " -> " ++ dst.value⟩

/-- Unconditional transition. -/
def force (dst : DroidState) (reason : String) : StateMachine :=
  m.enter dst ("FORCED: " ++ reason)

def motionPermitted : Bool := m.state ∈ DroidState.motionAllowedFrom

@[simp] theorem enter_state (dst : DroidState) (reason : String) :
    (m.enter dst reason).state = dst := rfl

@[simp] theorem force_state (dst : DroidState) (reason : String) :
    (m.force dst reason).state = dst := rfl

/-- A transition that succeeds ends in the state asked for. -/
theorem transition_state {dst : DroidState} {reason : String} {m m' : StateMachine}
    (taken : m.transition dst reason = .ok m') : m'.state = dst := by
  unfold transition at taken
  split at taken
  · next same => cases taken; exact same.symm
  · split at taken
    · cases taken; rfl
    · cases taken

end StateMachine

end DroidOs.Core.States
