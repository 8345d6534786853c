/- GID: DroidOs/Services/Lifecycle
   generality: I
   source: src/droidos/services/lifecycle.py, src/droidos/services/supervisor.py
   digest: The managed service lifecycle and dependency-ordered activation. -/

import DroidOs.Core.Values
import Mathlib.Data.List.Nodup

set_option autoImplicit false
set_option relaxedAutoImplicit false

namespace DroidOs.Services.Lifecycle

open DroidOs.Lib.Procedure
open DroidOs.Core.Values

inductive LifecycleState
  | unconfigured | inactive | active | finalized
  deriving DecidableEq

inductive Hook
  | onConfigure | onActivate | onDeactivate | onCleanup
  deriving DecidableEq

/-- The mutable fields of a `ManagedService`. -/
structure ServiceRecord where
  state : LifecycleState := .unconfigured
  restartCount : Nat := 0
  lastError : String := ""

/-- A service class: its name, its `requires` and its overridable hooks. -/
structure ManagedService (ρ : Type) where
  name : String
  requires : List String := []
  hook : Hook → Proc ρ Exn Bool := fun _ => pure true

/-- The registered services, keyed by name. -/
structure Registry (ρ : Type) where
  services : List (ManagedService ρ)
  nodup : (services.map ManagedService.name).Nodup

/-- One hook that ran: the lifecycle states it found and whether it succeeded. -/
structure HookCall where
  service : String
  hook : Hook
  found : String → LifecycleState
  ok : Bool

/-- A runtime with the lifecycle of its services and the names that failed to
start at boot. The ghost field `calls` lists the hooks run so far; no decision
reads it. -/
structure Managed (ρ : Type) where
  table : String → ServiceRecord := fun _ => {}
  failedServices : List String := []
  calls : List HookCall := []
  rt : ρ

variable {ρ α : Type}

namespace Registry

variable (reg : Registry ρ)

/-- `rt.service(name)`, for a name that is registered. -/
def find (name : String) : Option (ManagedService ρ) :=
  reg.services.find? fun s => s.name = name

/-- `rt.has(name)`. -/
def has (name : String) : Bool := (reg.find name).isSome

theorem find_some {reg : Registry ρ} {name : String} {s : ManagedService ρ}
    (found : reg.find name = some s) : s ∈ reg.services ∧ s.name = name := by
  refine ⟨List.mem_of_find?_eq_some found, ?_⟩
  simpa using List.find?_some found

theorem find_of_mem {reg : Registry ρ} {s : ManagedService ρ} (member : s ∈ reg.services) :
    reg.find s.name = some s := by
  have present : (reg.find s.name).isSome := by
    simp only [find, List.find?_isSome]
    exact ⟨s, member, by simp⟩
  obtain ⟨t, found⟩ := Option.isSome_iff_exists.mp present
  obtain ⟨inside, same⟩ := find_some found
  rw [found, List.inj_on_of_nodup_map reg.nodup inside member same]

end Registry

namespace Managed

def state (m : Managed ρ) (name : String) : LifecycleState := (m.table name).state

def setRecord (m : Managed ρ) (name : String) (f : ServiceRecord → ServiceRecord) : Managed ρ :=
  { m with table := Function.update m.table name (f (m.table name)) }

def setState (m : Managed ρ) (name : String) (st : LifecycleState) : Managed ρ :=
  m.setRecord name fun r => { r with state := st }

@[simp] theorem setRecord_rt (m : Managed ρ) (name : String) (f : ServiceRecord → ServiceRecord) :
    (m.setRecord name f).rt = m.rt := rfl

@[simp] theorem setState_rt (m : Managed ρ) (name : String) (st : LifecycleState) :
    (m.setState name st).rt = m.rt := rfl

@[simp] theorem setState_calls (m : Managed ρ) (name : String) (st : LifecycleState) :
    (m.setState name st).calls = m.calls := rfl

theorem setState_state (m : Managed ρ) (name other : String) (st : LifecycleState) :
    (m.setState name st).state other = if other = name then st else m.state other := by
  simp only [state, setState, setRecord, Function.update_apply]
  split <;> simp_all

end Managed

/-- Code that works on the shared context alone. -/
def onRt (p : Proc ρ Exn α) : Proc (Managed ρ) Exn α :=
  zoom Managed.rt (fun rt m => { m with rt := rt }) p

@[simp] theorem onRt_run (p : Proc ρ Exn α) (m : Managed ρ) :
    onRt p m = ((p m.rt).1, { m with rt := (p m.rt).2 }) := rfl

/-- An invariant of the shared context is one of the whole brain. -/
theorem keeps_onRt_of {P : ρ → Prop} {p : Proc ρ Exn α} (keeps : Keeps P p) :
    Keeps (fun m : Managed ρ => P m.rt) (onRt p) :=
  keeps_zoom fun _ holds => Keeps.after keeps holds

theorem triple_onRt_of {P : ρ → Prop} {p : Proc ρ Exn α} {Q : α → ρ → Prop} {E : Exn → ρ → Prop}
    (triple : Triple P p Q E) :
    Triple (fun m : Managed ρ => P m.rt) (onRt p) (fun a m => Q a m.rt) (fun e m => E e m.rt) := by
  intro m holds
  have ends := triple m.rt holds
  rw [onRt_run]
  rcases run : p m.rt with ⟨_ | _, rt⟩ <;> rw [run] at ends <;> exact ends

/-! The transitions of one service. -/

variable (s : ManagedService ρ)

/-- Run a hook and note the call. -/
def runHook (h : Hook) (m : Managed ρ) : Except Exn Bool × Managed ρ :=
  let run := s.hook h m.rt
  let ok := match run.1 with
    | .ok b => b
    | .error _ => false
  (run.1, { m with
    rt := run.2
    calls := m.calls ++ [{ service := s.name, hook := h, found := m.state, ok := ok }] })

/-- `_guard`: an exception counts as a failure and is kept as the last error. -/
def guardHook (h : Hook) (m : Managed ρ) : Bool × Managed ρ :=
  match runHook s h m with
  | (.ok b, m') => (b, m'.setRecord s.name fun r => { r with lastError := "" })
  | (.error e, m') => (false, m'.setRecord s.name fun r => { r with lastError := e.describe })

/-- A guarded hook changes the context by its own run, notes one call and keeps
its error text; nothing else. -/
theorem guardHook_eq (h : Hook) (m : Managed ρ) :
    ∃ ok error, guardHook s h m =
      (ok, Managed.setRecord
        { m with
          rt := (s.hook h m.rt).2
          calls := m.calls ++ [{ service := s.name, hook := h, found := m.state, ok := ok }] }
        s.name fun r => { r with lastError := error }) := by
  unfold guardHook runHook
  rcases s.hook h m.rt with ⟨e | b, rt⟩
  · exact ⟨false, e.describe, rfl⟩
  · exact ⟨b, "", rfl⟩

/-- Move to `st` if the guarded hook succeeds. -/
def guardTo (h : Hook) (st : LifecycleState) (m : Managed ρ) : Bool × Managed ρ :=
  match guardHook s h m with
  | (true, m') => (true, m'.setState s.name st)
  | (false, m') => (false, m')

def configure (m : Managed ρ) : Bool × Managed ρ :=
  if m.state s.name = .unconfigured ∨ m.state s.name = .inactive then
    guardTo s .onConfigure .inactive m
  else (false, m)

def activate (m : Managed ρ) : Bool × Managed ρ :=
  if m.state s.name = .active then (true, m)
  else if m.state s.name = .inactive then guardTo s .onActivate .active m
  else
    match configure s m with
    | (true, m') => guardTo s .onActivate .active m'
    | (false, m') => (false, m')

def deactivate (m : Managed ρ) : Bool × Managed ρ :=
  if m.state s.name = .active then guardTo s .onDeactivate .inactive m else (true, m)

def cleanup (m : Managed ρ) : Bool × Managed ρ :=
  (true, (guardHook s .onCleanup m).2.setState s.name .unconfigured)

/-- `shutdown`: the cleanup hook is not guarded, the final state is. -/
def shutdown : Proc (Managed ρ) Exn Unit := fun m =>
  let m := (deactivate s m).2
  let (r, m) := runHook s .onCleanup m
  (r.map fun _ => (), m.setState s.name .finalized)

def restart (m : Managed ρ) : Bool × Managed ρ :=
  let m := m.setRecord s.name fun r => { r with restartCount := r.restartCount + 1 }
  activate s (cleanup s m).2

/-! Activation in dependency order. -/

variable (reg : Registry ρ)

/-- `if self.rt.has(dep): f(self.rt.service(dep))`. -/
def ifRegistered (f : ManagedService ρ → Managed ρ → Managed ρ) (m : Managed ρ)
    (dep : String) : Managed ρ :=
  match reg.find dep with
  | some d => f d m
  | none => m

/-- `_activate_with_deps` to a given recursion depth. What the recursive calls
return is not looked at. -/
def activateDepth : Nat → ManagedService ρ → Managed ρ → Bool × Managed ρ
  | 0, s, m => activate s m
  | depth + 1, s, m =>
    activate s (s.requires.foldl (ifRegistered reg fun d m => (activateDepth depth d m).2) m)

/-- `_activate_with_deps`. A path through an acyclic `requires` visits no service
twice, so the number of services bounds the recursion. -/
def activateWithDeps (s : ManagedService ρ) (m : Managed ρ) : Bool × Managed ρ :=
  activateDepth reg reg.services.length s m

/-! Lifecycle transitions leave the supervisor's list of failures alone. -/

@[simp] theorem guardHook_failedServices (h : Hook) (m : Managed ρ) :
    (guardHook s h m).2.failedServices = m.failedServices := by
  obtain ⟨ok, error, run⟩ := guardHook_eq s h m
  rw [run]
  rfl

@[simp] theorem guardTo_failedServices (h : Hook) (st : LifecycleState) (m : Managed ρ) :
    (guardTo s h st m).2.failedServices = m.failedServices := by
  have same := guardHook_failedServices s h m
  unfold guardTo
  rcases answer : guardHook s h m with ⟨_ | _, m'⟩ <;> rw [answer] at same <;> exact same

@[simp] theorem configure_failedServices (m : Managed ρ) :
    (configure s m).2.failedServices = m.failedServices := by
  unfold configure
  split <;> simp

@[simp] theorem activate_failedServices (m : Managed ρ) :
    (activate s m).2.failedServices = m.failedServices := by
  unfold activate
  split
  · rfl
  split
  · simp
  have same := configure_failedServices s m
  rcases answer : configure s m with ⟨_ | _, m'⟩ <;> rw [answer] at same
  · exact same
  · exact (guardTo_failedServices s _ _ m').trans same

@[simp] theorem cleanup_failedServices (m : Managed ρ) :
    (cleanup s m).2.failedServices = m.failedServices :=
  guardHook_failedServices s .onCleanup m

@[simp] theorem restart_failedServices (m : Managed ρ) :
    (restart s m).2.failedServices = m.failedServices := by
  simp [restart, Managed.setRecord]

theorem activateDepth_failedServices (depth : Nat) : ∀ (s : ManagedService ρ) (m : Managed ρ),
    (activateDepth reg depth s m).2.failedServices = m.failedServices := by
  induction depth with
  | zero => exact fun s m => activate_failedServices s m
  | succ depth ih =>
    intro s m
    rw [activateDepth, activate_failedServices]
    have deps (names : List String) (m : Managed ρ) :
        (names.foldl (ifRegistered reg fun d m => (activateDepth reg depth d m).2) m).failedServices
          = m.failedServices := by
      induction names generalizing m with
      | nil => rfl
      | cons name names rest =>
        rw [List.foldl_cons, rest]
        unfold ifRegistered
        split
        · exact ih _ m
        · rfl
    exact deps s.requires m

@[simp] theorem activateWithDeps_failedServices (s : ManagedService ρ) (m : Managed ρ) :
    (activateWithDeps reg s m).2.failedServices = m.failedServices :=
  activateDepth_failedServices reg _ s m

end DroidOs.Services.Lifecycle
