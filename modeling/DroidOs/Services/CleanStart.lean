/- GID: DroidOs/Services/CleanStart
   generality: I
   source: src/droidos/services/lifecycle.py, src/droidos/services/supervisor.py
   digest: Services whose hooks all succeed come up, and the boot ends in the assessment. -/

import DroidOs.Services.Supervisor

set_option autoImplicit false
set_option relaxedAutoImplicit false

namespace DroidOs.Services.CleanStart

open DroidOs.Lib.Procedure
open DroidOs.Core.Values DroidOs.Core.States DroidOs.Core.Context
open Lifecycle SafetyGateway Supervisor

/-! One service. -/

section

variable {ρ : Type} {I : ρ → Prop} {s : ManagedService ρ} {reg : Registry ρ} {m m' m'' : Managed ρ}

/-- Every hook of the service succeeds where the invariant holds, and keeps it. -/
def Succeeds (I : ρ → Prop) (s : ManagedService ρ) : Prop :=
  ∀ h, Triple I (s.hook h) (fun ok rt => ok = true ∧ I rt) fun _ _ => False

/-- No service has been shut down for good. -/
def Open (m : Managed ρ) : Prop := ∀ name, m.state name ≠ .finalized

/-- Services have been activated at most. -/
def Grown (m m' : Managed ρ) : Prop := ∀ name, m'.state name = m.state name ∨ m'.state name = .active

theorem Grown.refl (m : Managed ρ) : Grown m m := fun _ => .inl rfl

theorem Grown.trans (first : Grown m m') (second : Grown m' m'') : Grown m m'' := by
  intro name
  rcases second name with same | active
  · rw [same]
    exact first name
  · exact .inr active

theorem Grown.active (grown : Grown m m') {name : String} (up : m.state name = .active) :
    m'.state name = .active := by
  rcases grown name with same | active
  · rw [same, up]
  · exact active

theorem Grown.open_ (grown : Grown m m') (open_ : Open m) : Open m' := by
  intro name
  rcases grown name with same | active
  · rw [same]
    exact open_ name
  · rw [active]
    decide

private theorem guardTo_succeeds (succeeds : Succeeds I s) (h : Hook) (st : LifecycleState)
    (holds : I m.rt) : ∃ m', guardTo s h st m = (true, m') ∧ I m'.rt ∧
      ∀ name, m'.state name = if name = s.name then st else m.state name := by
  have ends := succeeds h m.rt holds
  rcases run : s.hook h m.rt with ⟨e | ok, rt⟩ <;> rw [run] at ends
  · exact ends.elim
  obtain ⟨rfl, kept⟩ := ends
  refine ⟨_, by unfold guardTo guardHook runHook; rw [run], kept, fun name => ?_⟩
  rw [Managed.setState_state]
  split
  · rfl
  · simp_all [Managed.state, Managed.setRecord]

/-- A service that succeeds comes up. -/
theorem activate_up (succeeds : Succeeds I s) (holds : I m.rt) (open_ : Open m) :
    ∃ m', activate s m = (true, m') ∧ I m'.rt ∧ Grown m m' ∧ m'.state s.name = .active := by
  have grown {m' : Managed ρ} (states : ∀ name, m'.state name = if name = s.name then .active else m.state name) :
      Grown m m' ∧ m'.state s.name = .active := by
    refine ⟨fun name => ?_, by rw [states, if_pos rfl]⟩
    rw [states]
    split
    · exact .inr rfl
    · exact .inl rfl
  by_cases active : m.state s.name = .active
  · exact ⟨m, by rw [activate, if_pos active], holds, Grown.refl m, active⟩
  by_cases inactive : m.state s.name = .inactive
  · obtain ⟨m', run, kept, states⟩ := guardTo_succeeds succeeds .onActivate .active holds
    exact ⟨m', by rw [activate, if_neg active, if_pos inactive, run], kept, grown states⟩
  · have fresh : m.state s.name = .unconfigured := by
      have reopened := open_ s.name
      cases found : m.state s.name <;> simp_all
    obtain ⟨m₁, configured, between, first⟩ := guardTo_succeeds succeeds .onConfigure .inactive holds
    obtain ⟨m', run, kept, second⟩ := guardTo_succeeds succeeds .onActivate .active between
    refine ⟨m', ?_, kept, grown fun name => ?_⟩
    · rw [activate, if_neg active, if_neg inactive, configure, if_pos (.inl fresh), configured]
      exact run
    · rw [second, first]
      split <;> rfl

private theorem activateDepth_up (all : ∀ s ∈ reg.services, Succeeds I s) (depth : Nat) :
    ∀ s ∈ reg.services, ∀ m : Managed ρ, I m.rt → Open m →
      ∃ m', activateDepth reg depth s m = (true, m') ∧ I m'.rt ∧ Grown m m' ∧ m'.state s.name = .active := by
  induction depth with
  | zero => exact fun s member m holds open_ => activate_up (all s member) holds open_
  | succ depth ih =>
    intro s member m holds open_
    have deps (names : List String) (m : Managed ρ) (holds : I m.rt) (open_ : Open m) :
        I (names.foldl (ifRegistered reg fun d m => (activateDepth reg depth d m).2) m).rt ∧
          Grown m (names.foldl (ifRegistered reg fun d m => (activateDepth reg depth d m).2) m) := by
      induction names generalizing m with
      | nil => exact ⟨holds, Grown.refl m⟩
      | cons name names rest =>
        have first : I (ifRegistered reg (fun d m => (activateDepth reg depth d m).2) m name).rt ∧
            Grown m (ifRegistered reg (fun d m => (activateDepth reg depth d m).2) m name) := by
          unfold ifRegistered
          split
          · next d found =>
            obtain ⟨m', run, kept, grown, -⟩ := ih d (Registry.find_some found).1 m holds open_
            dsimp only
            rw [run]
            exact ⟨kept, grown⟩
          · exact ⟨holds, Grown.refl m⟩
        obtain ⟨later, more⟩ := rest _ first.1 (first.2.open_ open_)
        exact ⟨later, first.2.trans more⟩
    obtain ⟨kept, grown⟩ := deps s.requires m holds open_
    obtain ⟨m', run, up, more, active⟩ := activate_up (all s member) kept (grown.open_ open_)
    exact ⟨m', run, up, grown.trans more, active⟩

end

/-! The boot. -/

variable {ε : Type} {svc : Services ε} {reg : Registry (Runtime ε)} {I : Runtime ε → Prop}

/-- In the state, with the invariant. -/
def At (I : Runtime ε → Prop) (st : DroidState) (rt : Runtime ε) : Prop := I rt ∧ rt.machine.state = st

/-- What the boot has to find so that all services come up. -/
structure Starts (svc : Services ε) (reg : Registry (Runtime ε)) (I : Runtime ε → Prop) : Prop where
  hooks : ∀ st, ∀ s ∈ reg.services, Succeeds (At I st) s
  beside : ∀ rt machine steps, I rt → I { rt with machine := machine, bootReport := steps }
  connect : Keeps I (outside svc.connect)

/-- The registered services of the list are up. -/
structure Up (reg : Registry (Runtime ε)) (I : Runtime ε → Prop) (st : DroidState) (names : List String)
    (m : Brain ε) : Prop where
  holds : At I st m.rt
  open_ : Open m
  active : ∀ name ∈ names, reg.has name = true → m.state name = .active

/-- It does not raise. -/
abbrev Runs {σ α : Type} (P : σ → Prop) (p : Proc σ Exn α) (Q : σ → Prop) : Prop :=
  Triple P p (fun _ => Q) fun _ _ => False

variable {st : DroidState} {names : List String}

/-- Before the assessment: safe idle, with all critical services active. -/
structure Assessed (reg : Registry (Runtime ε)) (I : Runtime ε → Prop) (m : Brain ε) : Prop where
  holds : At I .safeIdle m.rt
  active : inactiveReasons reg m = []

private theorem assessed_of_up {m : Brain ε} (up : Up reg I .safeIdle names m)
    (critical : ∀ name ∈ motionCritical, name ∈ names) : Assessed reg I m := by
  refine ⟨up.holds, ?_⟩
  rw [inactiveReasons, List.map_eq_nil_iff, List.filter_eq_nil_iff]
  intro name member
  by_cases registered : reg.has name = true
  · simp [up.active name (critical name member) registered]
  · simp [registered]

private theorem runs_context {p : Proc (Runtime ε) Exn Unit} {st' : DroidState}
    (runs : Runs (At I st) p (At I st')) : Runs (Up reg I st names) (onRt p) (Up reg I st' names) := by
  intro m up
  have ends := runs m.rt up.holds
  rw [onRt_run]
  rcases run : p m.rt with ⟨e | _, rt⟩ <;> rw [run] at ends
  · exact ends
  · exact ⟨ends, up.open_, up.active⟩

namespace Starts

variable (starts : Starts svc reg I)
include starts

private theorem runs_report (name : String) (ok : Bool) (detail : String) :
    Runs (At I st) (report name ok detail) (At I st) :=
  fun rt holds => ⟨starts.beside rt rt.machine _ holds.1, holds.2⟩

private theorem runs_transition {dst : DroidState} (reason : String) (moves : dst ≠ st)
    (legal : dst ∈ st.transitions) : Runs (At I st) (transition dst reason) (At I dst) := by
  rintro rt ⟨holds, rfl⟩
  rw [transition_legal moves legal]
  exact ⟨starts.beside rt _ rt.bootReport holds, rfl⟩

private theorem runs_startDrivers : Runs (At I st) (startDrivers svc) (At I st) := by
  have connected : Runs (At I st) (attempt (outside svc.connect)) (At I st) :=
    fun rt holds => ⟨starts.connect.after holds.1, holds.2⟩
  refine connected.bind fun outcome => ?_
  cases outcome <;> exact starts.runs_report _ _ _

private theorem runs_startService (name : String) (gateway : "safety_gateway" ∈ names) :
    Runs (Up reg I st names) (startService reg name) (Up reg I st (names ++ [name])) := by
  intro m up
  have more {m' : Brain ε} (up' : Up reg I st names m') (active : reg.has name = true → m'.state name = .active) :
      Up reg I st (names ++ [name]) m' := by
    refine ⟨up'.holds, up'.open_, fun other member registered => ?_⟩
    rcases List.mem_append.mp member with old | new
    · exact up'.active other old registered
    · obtain rfl := List.mem_singleton.mp new
      exact active registered
  unfold startService
  by_cases same : name = "safety_gateway"
  · rw [if_pos same]
    exact more up fun registered => up.active name (same ▸ gateway) registered
  rw [if_neg same]
  rcases found : reg.find name with _ | spec
  · exact more up fun registered => by simp [Registry.has, found] at registered
  obtain ⟨member, named⟩ := Registry.find_some found
  obtain ⟨m', run, kept, grown, active⟩ :=
    activateDepth_up (starts.hooks st) reg.services.length spec member m up.holds up.open_
  have later : Up reg I st names m' :=
    ⟨kept, grown.open_ up.open_, fun other listed registered => grown.active (up.active other listed registered)⟩
  have ran : lifecycle (activateWithDeps reg spec) m = (.ok true, m') := by
    rw [lifecycle, activateWithDeps, run]
  dsimp only
  rw [bind_ok ran, reads_bind]
  exact more ⟨⟨starts.beside _ m'.rt.machine _ kept.1, kept.2⟩, later.open_, later.active⟩
    fun _ => named ▸ active

private theorem runs_startServices (rest : List String) (gateway : "safety_gateway" ∈ names) :
    Runs (Up reg I st names) (forEach rest (startService reg)) (Up reg I st (names ++ rest)) := by
  induction rest generalizing names with
  | nil =>
    rw [List.append_nil]
    exact fun m up => up
  | cons name rest ih =>
    have later : Runs (Up reg I st (names ++ [name])) (forEach rest (startService reg))
        (Up reg I st (names ++ [name] ++ rest)) := ih (List.mem_append_left _ gateway)
    rw [List.append_assoc] at later
    exact (starts.runs_startService name gateway).bind fun _ => later

/-- The boot ends in the state in which a refresh leaves a droid whose critical services are up. -/
theorem boot_settles {gateway : ManagedService (Runtime ε)}
    (found : reg.find "safety_gateway" = some gateway) {rt : Runtime ε}
    (off : rt.machine.state = .poweredOff) (holds : I rt) :
    ∃ m, Assessed reg I m ∧
      (boot svc reg { rt := rt }).2.rt.machine = (refresh svc reg m).2.rt.machine := by
  obtain ⟨member, named⟩ := Registry.find_some found
  let ended : Brain ε → Prop := fun m' => ∃ m, Assessed reg I m ∧
    m'.rt.machine = (refresh svc reg m).2.rt.machine
  have none {σ α : Type} {P Q : σ → Prop} {E : Exn → σ → Prop} {p : Proc σ Exn α} (runs : Runs P p Q) :
      Triple P p (fun _ => Q) E := runs.weaken (fun _ holds => holds) (fun _ _ holds => holds)
        fun _ _ never => never.elim
  have noted {st : DroidState} {names : List String} (name : String) (ok : Bool) (detail : String) :
      Triple (Up reg I st names) (onRt (report name ok detail)) (fun _ => Up reg I st names) fun _ => ended :=
    none (runs_context (starts.runs_report name ok detail))
  have assesses : Triple (Up reg I .safeIdle (["safety_gateway"] ++ activationOrder)) (do
      let readiness ← refresh svc reg
      onRt (report "assess_readiness" true readiness.state.value)
      return readiness) (fun _ => ended) (fun _ => ended) := by
    intro m up
    have assessed := assessed_of_up up (by decide)
    rcases run : refresh svc reg m with ⟨e | r, m'⟩
    · rw [bind_error run]
      exact ⟨m, assessed, by rw [run]⟩
    · rw [bind_ok run]
      exact ⟨m, assessed, by rw [run]; rfl⟩
  have contacted : Triple (Up reg I .booting ["safety_gateway"]) (bootAfterContact svc reg)
      (fun _ => ended) (fun _ => ended) := by
    refine Triple.bind (Q := fun _ => Up reg I .booting ["safety_gateway"]) (fun m up => up) fun _ => ?_
    refine (noted _ _ _).bind fun _ => ?_
    refine Triple.bind (none (runs_context (starts.runs_transition _ (by decide) (by decide)))) fun _ => ?_
    refine Triple.bind (none (runs_context
      ((starts.runs_report _ _ _).bind fun _ => starts.runs_report _ _ _))) fun _ => ?_
    refine Triple.bind (none (runs_context starts.runs_startDrivers)) fun _ => ?_
    refine Triple.bind (none (starts.runs_startServices _ (by simp))) fun _ => ?_
    refine Triple.bind (none (runs_context (starts.runs_transition _ (by decide) (by decide)))) fun _ => ?_
    exact (noted _ _ _).bind fun _ => assesses
  have contacts : Runs (Up reg I .booting []) (lifecycle (activate gateway)) (Up reg I .booting ["safety_gateway"]) := by
    intro m up
    obtain ⟨m', run, kept, grown, active⟩ := activate_up (starts.hooks _ gateway member) up.holds up.open_
    rw [lifecycle, run]
    refine ⟨kept, grown.open_ up.open_, fun name listed _ => ?_⟩
    obtain rfl := List.mem_singleton.mp listed
    exact named ▸ active
  have run : Triple (Up reg I .poweredOff []) (boot svc reg) (fun _ => ended) (fun _ => ended) := by
    have cleared : Runs (At I .poweredOff) (modify fun rt => { rt with bootReport := [] }) (At I .poweredOff) :=
      fun rt holds => ⟨starts.beside rt rt.machine [] holds.1, holds.2⟩
    refine Triple.bind (none (runs_context cleared)) fun _ => ?_
    refine Triple.bind (none (runs_context (starts.runs_transition _ (by decide) (by decide)))) fun _ => ?_
    refine (noted _ _ _).bind fun _ => (noted _ _ _).bind fun _ => ?_
    refine (noted _ _ _).bind fun _ => (noted _ _ _).bind fun _ => ?_
    rw [found]
    refine Triple.bind (none contacts) fun _ => ?_
    refine Triple.bind (Q := fun _ => Up reg I .booting ["safety_gateway"]) (fun m up => up) fun _ => ?_
    exact (noted _ _ _).bind fun _ => (noted _ _ _).bind fun _ => contacted
  have fresh : Up reg I .poweredOff [] ({ rt := rt } : Brain ε) :=
    ⟨⟨holds, off⟩, fun name => by simp [Managed.state], fun name listed => by cases listed⟩
  exact run.after fresh

end Starts

end DroidOs.Services.CleanStart
