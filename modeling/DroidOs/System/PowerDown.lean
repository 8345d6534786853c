/- GID: DroidOs/System/PowerDown
   generality: I
   source: src/droidos/services/supervisor.py, src/droidos/services/lifecycle.py
   digest: How a shutdown ends, whatever the services' stopping hooks answer. -/

import DroidOs.System.PoweredStates

set_option autoImplicit false
set_option relaxedAutoImplicit false

namespace DroidOs.System.PowerDown

open DroidOs.Lib.Procedure DroidOs.Lib.Interleaving
open DroidOs.Core.Values DroidOs.Core.States DroidOs.Core.Context
open DroidOs.Services.Lifecycle DroidOs.Services.HookLaw DroidOs.Services.Supervisor
open Registration Simulated Operations LatchLaw PoweredStates

variable {ε : Type}

/-- What each service's deactivate and cleanup hook answers: True, False or an exception. -/
abbrev Outcomes : Type := String → Hook → Except Exn Bool

/-- The service with its two stopping hooks answering so. -/
def answering (outcome : Outcomes) (s : ManagedService (Runtime ε)) : ManagedService (Runtime ε) :=
  { s with
    hook
      | .onDeactivate => fun rt => (outcome s.name .onDeactivate, rt)
      | .onCleanup => fun rt => (outcome s.name .onCleanup, rt)
      | h => s.hook h }

def answeringServices (outcome : Outcomes) (reg : Registry (Runtime ε)) : Registry (Runtime ε) where
  services := reg.services.map (answering outcome)
  nodup := by
    rw [List.map_map]
    exact reg.nodup

variable (svc : Services ε) (outcome : Outcomes)

/-- The backend's own shutdown returned and left motor power off. -/
def BackendDown (env : ε) : Prop := svc.powerEnabled env = false ∧ ∃ before, svc.shutdown before = (.ok (), env)

/-- What a shutdown is to end with. -/
structure PoweredDown (reg : Registry (Runtime ε)) (m : Brain ε) : Prop where
  state : m.rt.machine.state = .poweredOff
  services : ∀ s ∈ reg.services, m.state s.name = .finalized
  backend : BackendDown svc m.rt.env
  contactor : m.rt.controller.power = false

/-- No cleanup hook raises. -/
def CleanupsReturn (reg : Registry (Runtime ε)) : Prop :=
  ∀ s ∈ reg.services, ∃ b, outcome s.name .onCleanup = .ok b

/-- From this state the backend's shutdown returns with motor power off. -/
def BackendStops (env : ε) : Prop := ∃ env', svc.shutdown env = (.ok (), env') ∧ svc.powerEnabled env' = false

variable {svc outcome}

/-- The stopping hooks change nothing but the services' records. -/
private theorem shutdown_answers (outcome : Outcomes) (s : ManagedService (Runtime ε)) (m : Brain ε) :
    (shutdown (answering outcome s) m).1 = (outcome s.name .onCleanup).map (fun _ => ()) ∧
      (shutdown (answering outcome s) m).2.rt = m.rt ∧
      ∀ name, (shutdown (answering outcome s) m).2.state name =
        if name = s.name then .finalized else m.state name := by
  have same : (deactivate (answering outcome s) m).2.rt = m.rt :=
    deactivate_holds (I := (· = m.rt)) (keeps_iff.mpr fun _ unchanged => unchanged) rfl
  refine ⟨rfl, same, fun name => ?_⟩
  rw [shutdown, Managed.setState_state]
  change (if name = s.name then LifecycleState.finalized else (deactivate (answering outcome s) m).2.state name) = _
  split
  · rfl
  · rename_i other
    exact deactivate_other (answering outcome s) m other

/-- The loop over the services reaches its end exactly when no cleanup raises. -/
private theorem stop_each (outcome : Outcomes) (services : List (ManagedService (Runtime ε))) (m : Brain ε) :
    let stopped := forEach (services.map (answering outcome)) shutdown m
    stopped.2.rt = m.rt ∧
    (stopped.1 = .ok () ↔ ∀ s ∈ services, ∃ b, outcome s.name .onCleanup = .ok b) ∧
    ∀ name, m.state name = .finalized ∨ (stopped.1 = .ok () ∧ ∃ s ∈ services, s.name = name) →
      stopped.2.state name = .finalized := by
  induction services generalizing m with
  | nil =>
    have none_ : ∀ s ∈ ([] : List (ManagedService (Runtime ε))), ∃ b, outcome s.name .onCleanup = .ok b := by simp
    refine ⟨rfl, ⟨fun _ => none_, fun _ => rfl⟩, ?_⟩
    rintro name (already | ⟨-, s, member, -⟩)
    · exact already
    · cases member
  | cons s services ih =>
    obtain ⟨answer, same, states⟩ := shutdown_answers outcome s m
    rcases run : shutdown (answering outcome s) m with ⟨r, m'⟩
    rw [run] at answer same states
    change r = _ at answer
    cases cleaned : outcome s.name .onCleanup with
    | error e =>
      rw [cleaned] at answer
      subst answer
      have raises : forEach ((s :: services).map (answering outcome)) shutdown m = (.error e, m') :=
        bind_error run
      rw [raises]
      refine ⟨same, ⟨fun ok => by (cases ok), fun all => ?_⟩, ?_⟩
      · obtain ⟨b, returned⟩ := all s (by simp)
        rw [cleaned] at returned
        cases returned
      · rintro name (already | ⟨ok, -⟩)
        · change m'.state name = _
          rw [states, already]
          split <;> rfl
        · cases ok
    | ok b =>
      rw [cleaned] at answer
      subst answer
      have goes : forEach ((s :: services).map (answering outcome)) shutdown m =
          forEach (services.map (answering outcome)) shutdown m' := bind_ok run
      obtain ⟨same', ends, states'⟩ := ih m'
      rw [goes]
      refine ⟨same'.trans same, ?_, ?_⟩
      · rw [ends]
        simp [cleaned]
      · rintro name (already | ⟨ok, t, member, rfl⟩)
        · refine states' name (.inl ?_)
          rw [states, already]
          split <;> rfl
        · rcases List.mem_cons.mp member with rfl | later
          · refine states' _ (.inl ?_)
            rw [states, if_pos rfl]
          · exact states' _ (.inr ⟨ok, t, later, rfl⟩)

/-- The part of a shutdown that follows the change of state. -/
private theorem stop_all (reg : Registry (Runtime ε)) (m : Brain ε) (closing : m.rt.machine.state = .shuttingDown) :
    PoweredDown svc reg (((do
        forEach (answeringServices outcome reg).services.reverse shutdown
        onRt (outside svc.shutdown)
        onRt (force .poweredOff "shutdown complete")) : Proc (Brain ε) Exn Unit) m).2 ↔
      CleanupsReturn outcome reg ∧ BackendStops svc m.rt.env ∧ m.rt.controller.power = false := by
  have order : (answeringServices outcome reg).services.reverse = reg.services.reverse.map (answering outcome) :=
    List.map_reverse.symm
  obtain ⟨same, ends, states⟩ := stop_each outcome reg.services.reverse m
  rw [order]
  rcases run : forEach (reg.services.reverse.map (answering outcome)) shutdown m with ⟨e | _, m'⟩
  · rw [run] at ends
    refine iff_of_false (fun down => ?_) fun all => ?_
    · rw [bind_error run] at down
      rw [run] at same
      have state := down.state
      rw [same, closing] at state
      cases state
    · have ok := ends.mpr fun s member => all.1 s (List.mem_reverse.mp member)
      cases ok
  · rw [run] at same ends states
    have returned : CleanupsReturn outcome reg := fun s member => ends.mp rfl s (List.mem_reverse.mpr member)
    have kept : m'.rt = m.rt := same
    have final (s : ManagedService (Runtime ε)) (member : s ∈ reg.services) : m'.state s.name = .finalized :=
      states s.name (.inr ⟨rfl, s, List.mem_reverse.mpr member, rfl⟩)
    rw [bind_ok run]
    rcases stops : svc.shutdown m'.rt.env with ⟨e | _, env⟩
    · have raises : onRt (outside svc.shutdown) m' = (.error e, { m' with rt := { m'.rt with env := env } }) := by
        simp [stops]
      rw [bind_error raises]
      refine iff_of_false (fun down => ?_) fun all => ?_
      · have state : m'.rt.machine.state = .poweredOff := down.state
        rw [kept, closing] at state
        cases state
      · obtain ⟨env', answer, -⟩ := all.2.1
        rw [← kept, stops] at answer
        cases answer
    · have goes : onRt (outside svc.shutdown) m' = (.ok (), { m' with rt := { m'.rt with env := env } }) := by
        simp [stops]
      rw [bind_ok goes]
      constructor
      · rintro ⟨-, -, down, contactor⟩
        refine ⟨returned, ⟨env, kept ▸ stops, down.1⟩, ?_⟩
        rw [← kept]
        exact contactor
      · rintro ⟨-, ⟨env', answer, off⟩, contactor⟩
        rw [← kept, stops] at answer
        cases answer
        refine ⟨rfl, final, ⟨off, m'.rt.env, stops⟩, ?_⟩
        rw [← kept] at contactor
        exact contactor

/-- A shutdown ends powered down exactly when no cleanup hook raises, the backend stops, and the
contactor was open before it. -/
theorem powered_down_iff (svc : Services ε) (outcome : Outcomes) (reg : Registry (Runtime ε)) (m : Brain ε) :
    PoweredDown svc reg (requestShutdown svc (answeringServices outcome reg) m).2 ↔
      CleanupsReturn outcome reg ∧ BackendStops svc m.rt.env ∧ m.rt.controller.power = false := by
  unfold requestShutdown
  rw [reads_bind]
  split
  · rw [bind_ok (onRt_run _ _)]
    exact stop_all reg _ rfl
  · rename_i closing
    exact stop_all reg m (not_not.mp closing)

/-- The simulated backend always stops. -/
theorem simulated_stops {δ : Type} (s : Surroundings δ) (w : SimWorld δ) : BackendStops (simulated s) w :=
  ⟨_, simulated_shutdown s w, rfl⟩

/-! A shutdown of the droid in the hallway. -/

/-- A shutdown halfway down the hallway, with hooks that all succeed, leaves the contactor closed. -/
theorem drive_shut_down_closed :
    let moving := (runMoves (code (simulated hallwayDroid) happening)
      (bootedPool hallwayDroid 0 .missing ()) startDrive).state
    let all : Outcomes := fun _ _ => .ok true
    (requestShutdown (simulated hallwayDroid)
      (answeringServices all (droidServices (simulated hallwayDroid))) moving).2.rt.controller.power = true ∧
    ¬ PoweredDown (simulated hallwayDroid) (droidServices (simulated hallwayDroid))
      (requestShutdown (simulated hallwayDroid)
        (answeringServices all (droidServices (simulated hallwayDroid))) moving).2 := by
  intro moving all
  have closed : (requestShutdown (simulated hallwayDroid)
      (answeringServices all (droidServices (simulated hallwayDroid))) moving).2.rt.controller.power = true := by
    decide +kernel
  refine ⟨closed, fun down => ?_⟩
  have opened := down.contactor
  rw [closed] at opened
  cases opened

end DroidOs.System.PowerDown
