/- GID: DroidOs/Services/DependencyLaw
   generality: I
   digest: Boot and restarts activate a service on active dependencies exactly as long as none failed. -/

import DroidOs.Services.ActivationOrder

set_option autoImplicit false
set_option relaxedAutoImplicit false

namespace DroidOs.Services.DependencyLaw

open DroidOs.Lib.Procedure DroidOs.Lib.Acyclic
open DroidOs.Core.Values DroidOs.Core.States DroidOs.Core.Context
open DroidOs.Body.Package
open Lifecycle SafetyGateway Supervisor ActivationOrder

variable {ε : Type} {svc : Services ε} {reg : Registry (Runtime ε)}

/-- A predicate that does not look at the shared context. -/
def Framed {ρ : Type} (I : Managed ρ → Prop) : Prop := ∀ m rt, I m → I { m with rt := rt }

theorem keeps_onRt {ρ α : Type} {I : Managed ρ → Prop} (framed : Framed I) (p : Proc ρ Exn α) :
    Keeps I (onRt p) :=
  keeps_zoom fun m holds => framed m _ holds

private theorem keeps_assessReadiness {I : Brain ε → Prop} (framed : Framed I) :
    Keeps I (assessReadiness svc reg) := by
  refine keeps_bind (keeps_onRt framed _) fun engaged => keeps_ite (fun _ => keeps_pure _) fun _ => ?_
  refine keeps_bind (keeps_onRt framed _) fun _ => keeps_bind (keeps_reads _) fun _ => ?_
  exact keeps_bind (keeps_onRt framed _) fun _ => keeps_pure _

private theorem keeps_refresh {I : Brain ε → Prop} (framed : Framed I) :
    Keeps I (refresh svc reg) := by
  refine keeps_bind (keeps_assessReadiness framed) fun _ => ?_
  refine keeps_bind (keeps_onRt framed _) fun _ => ?_
  exact keeps_bind (keeps_onRt framed _) fun _ => keeps_pure _

/-- The registered dependencies of a service have all been started at some time. -/
def DepsStarted (reg : Registry (Runtime ε)) (calls : List HookCall) (name : String) : Prop :=
  ∀ d, Requires reg d name → lastStart calls d ≠ none

/-- What holds of a brain between the steps of boot. -/
structure Booting (reg : Registry (Runtime ε)) (m : Brain ε) : Prop where
  rest : Rest reg (view m)
  backed : Backed reg (view m)
  failed : ∀ name ∈ m.failedServices, DepsStarted reg m.calls name

private theorem framed_booting : Framed (Booting reg) :=
  fun _ _ holds => ⟨holds.rest, holds.backed, holds.failed⟩

private theorem booting_startService (acyclic : NoCycle (Requires reg)) (name : String) :
    Keeps (Booting reg) (startService reg name) := by
  unfold startService
  refine keeps_ite (fun _ => keeps_pure ()) fun _ => ?_
  rcases found : reg.find name with _ | spec
  · exact keeps_pure ()
  obtain ⟨member, rfl⟩ := Registry.find_some found
  have start : Triple (Booting reg) (lifecycle (activateWithDeps reg spec))
      (fun _ m => Booting reg m ∧ DepsStarted reg m.calls spec.name) (fun _ => Booting reg) := by
    intro m holds
    obtain ⟨started, deps⟩ := started_activateWithDeps acyclic found holds.rest
    refine ⟨⟨started.rest, started.backed holds.backed, ?_⟩, deps⟩
    intro other inside d requires
    have same : (activateWithDeps reg spec m).2.failedServices = m.failedServices :=
      activateWithDeps_failedServices reg spec m
    rw [same] at inside
    exact started.later.started (holds.failed other inside d requires)
  have framed : Framed fun m : Brain ε => Booting reg m ∧ DepsStarted reg m.calls spec.name :=
    fun m rt both => ⟨framed_booting m rt both.1, both.2⟩
  refine Triple.bind start fun ok => ?_
  refine Triple.bind (Keeps.triple (keeps_reads _) fun _ _ both => both.1) fun lastError => ?_
  refine Triple.bind (Keeps.triple (keeps_onRt framed _) fun _ _ both => both.1) fun _ => ?_
  cases ok with
  | true => exact Triple.pure fun _ both => both.1
  | false =>
    intro m both
    refine ⟨both.1.rest, both.1.backed, fun other inside => ?_⟩
    rcases List.mem_append.mp inside with old | new
    · exact both.1.failed other old
    · rw [List.mem_singleton.mp new]
      exact both.2

/-- A process whose services have not been touched yet. -/
structure Fresh (m : Brain ε) : Prop where
  view : view m = ⟨fun _ => .unconfigured, []⟩
  failed : m.failedServices = []

private theorem framed_fresh : Framed (Fresh (ε := ε)) := fun _ _ holds => ⟨holds.view, holds.failed⟩

private theorem booting_of_fresh {m : Brain ε} (fresh : Fresh m) : Booting reg m := by
  refine ⟨?_, ?_, by simp [fresh.failed]⟩
  · rw [fresh.view]
    refine ⟨fun name => ⟨by simp, by simp [lastStart]⟩, fun past c rest split => ?_⟩
    simp at split
  · rw [fresh.view]
    intro name held
    cases held

/-- Boot activates the gateway itself, and then nothing else has run a hook. -/
private theorem booting_contact (acyclic : NoCycle (Requires reg)) {gateway : ManagedService _}
    (found : reg.find "safety_gateway" = some gateway) :
    Triple Fresh (lifecycle (activate gateway)) (fun _ => Booting reg) (fun _ => Booting reg) := by
  intro m fresh
  have before : Booting reg m := booting_of_fresh fresh
  obtain ⟨_, named⟩ := Registry.find_some found
  have ready : Ready reg gateway.name (view m) :=
    { others := fun name _ => before.rest.settled name
      live := (before.rest.settled _).live
      active := (before.rest.settled _).active.mp
      logged := before.rest.logged
      deps := fun d _ => Or.inr ⟨named, by simp [fresh.view]⟩ }
  have started := started_activate gateway m ready acyclic
  refine ⟨started.rest, started.backed before.backed, ?_⟩
  simp [fresh.failed]

private theorem booting_afterContact (acyclic : NoCycle (Requires reg)) :
    Keeps (Booting reg) (bootAfterContact svc reg) := by
  have onRt {α : Type} (p : Proc (Runtime ε) Exn α) : Keeps (Booting reg) (onRt p) :=
    keeps_onRt framed_booting p
  refine keeps_bind (keeps_reads _) fun _ => keeps_bind (onRt _) fun _ => ?_
  refine keeps_bind (onRt _) fun _ => keeps_bind (onRt _) fun _ => keeps_bind (onRt _) fun _ => ?_
  refine keeps_bind (keeps_forEach fun name _ => booting_startService acyclic name) fun _ => ?_
  refine keeps_bind (onRt _) fun _ => keeps_bind (onRt _) fun _ => ?_
  refine keeps_bind (keeps_refresh framed_booting) fun _ => ?_
  exact keeps_bind (onRt _) fun _ => keeps_pure _

theorem boot_booting (acyclic : NoCycle (Requires reg)) :
    Triple Fresh (boot svc reg) (fun _ => Booting reg) (fun _ => Booting reg) := by
  have start {α : Type} (p : Proc (Runtime ε) Exn α) :
      Triple Fresh (onRt p) (fun _ => Fresh) (fun _ => Booting reg) :=
    Keeps.triple (keeps_onRt framed_fresh p) fun _ _ => booting_of_fresh
  refine Triple.bind (start _) fun _ => Triple.bind (start _) fun _ => ?_
  refine Triple.bind (start _) fun _ => Triple.bind (start _) fun _ => ?_
  refine Triple.bind (start _) fun _ => Triple.bind (start _) fun _ => ?_
  rcases found : reg.find "safety_gateway" with _ | gateway
  · exact Triple.weaken (start _) (fun _ h => h) (fun _ _ => booting_of_fresh) fun _ _ h => h
  · refine Triple.bind (booting_contact acyclic found) fun _ => ?_
    refine Triple.bind (keeps_reads _) fun _ => ?_
    refine Triple.bind (keeps_onRt framed_booting _) fun _ => ?_
    exact Triple.bind (keeps_onRt framed_booting _) fun _ => booting_afterContact acyclic

/-! Restarts. -/

/-- What restarts keep after the hook calls `old`; `names` are those the loop goes over. -/
structure Restarting (reg : Registry (Runtime ε)) (old : List HookCall) (names : List String)
    (m : Brain ε) : Prop where
  rest : Rest reg (view m)
  failed : ∀ name ∈ m.failedServices ++ names, DepsStarted reg m.calls name
  grown : ∃ more, m.calls = old ++ more

variable {old : List HookCall}

private theorem restarting_restartOne (acyclic : NoCycle (Requires reg)) {names : List String}
    {name : String} (member : name ∈ names) :
    Keeps (Restarting reg old names) (restartOne reg name) := by
  unfold restartOne
  rcases found : reg.find name with _ | spec
  · exact keeps_raise _
  obtain ⟨_, rfl⟩ := Registry.find_some found
  refine keeps_bind ?_ fun ok => ?_
  · intro m holds
    have deps := holds.failed spec.name (by simp [member])
    obtain ⟨rest, more, grown⟩ := rest_restart holds.rest deps acyclic
    refine ⟨rest, fun other inside d requires => ?_, ?_⟩
    · rw [restart_failedServices] at inside
      rw [grown]
      exact started_of_grown more (holds.failed other inside d requires)
    · obtain ⟨since, before⟩ := holds.grown
      exact ⟨since ++ more, by rw [grown, before, List.append_assoc]⟩
  · cases ok with
    | false => exact keeps_pure false
    | true =>
      refine keeps_bind (keeps_modify fun m holds => ?_) fun _ => keeps_pure true
      refine ⟨holds.rest, fun other inside => holds.failed other ?_, holds.grown⟩
      rcases List.mem_append.mp inside with erased | listed
      · exact List.mem_append_left _ (List.mem_of_mem_erase erased)
      · exact List.mem_append_right _ listed

private theorem restarting_restartEach (acyclic : NoCycle (Requires reg)) {all : List String}
    (names : List String) (within : ∀ name ∈ names, name ∈ all) :
    Keeps (Restarting reg old all) (restartEach reg names) := by
  induction names with
  | nil => exact keeps_pure _
  | cons name names ih =>
    refine keeps_bind (restarting_restartOne acyclic (within name (by simp))) fun ok => ?_
    refine keeps_bind (ih fun other inside => within other (List.mem_cons_of_mem _ inside)) fun _ => ?_
    exact keeps_pure _

theorem restarting_restartFailed (acyclic : NoCycle (Requires reg)) :
    Keeps (Restarting reg old []) (restartFailed reg) := by
  refine keeps_reads_bind fun m holds => ?_
  have wider : Restarting reg old m.failedServices m := by
    refine ⟨holds.rest, fun name inside => holds.failed name ?_, holds.grown⟩
    rcases List.mem_append.mp inside with there | there <;> simpa using there
  have after := Keeps.after
    (restarting_restartEach acyclic m.failedServices fun _ inside => inside) wider
  exact ⟨after.rest, fun name inside => after.failed name (by simp_all), after.grown⟩

/-! The law over boot and restarts. -/

/-- A new process that boots and then restarts failed services a number of
times, whatever the calls return or raise. -/
def bootThenRestarts (svc : Services ε) (reg : Registry (Runtime ε)) (rt : Runtime ε) :
    Nat → Brain ε
  | 0 => (boot svc reg { rt := rt }).2
  | n + 1 => (restartFailed reg (bootThenRestarts svc reg rt n)).2

/-- No activate hook of the run found a registered dependency inactive, and what
boot leaves active has its registered dependencies active. -/
structure DependenciesHonoured (svc : Services ε) (reg : Registry (Runtime ε)) (rt : Runtime ε)
    (restarts : Nat) : Prop where
  hooks : ∀ c ∈ (bootThenRestarts svc reg rt restarts).calls, FindsDepsActive reg c
  boot : ∀ s, (bootThenRestarts svc reg rt 0).state s = .active →
    ∀ d, Requires reg d s → (bootThenRestarts svc reg rt 0).state d = .active

private theorem booting_boot (acyclic : NoCycle (Requires reg)) (rt : Runtime ε) :
    Booting reg (bootThenRestarts svc reg rt 0) := by
  have ends := @boot_booting ε svc reg acyclic { rt := rt } ⟨rfl, rfl⟩
  unfold bootThenRestarts
  rcases run : Supervisor.boot svc reg { rt := rt } with ⟨_ | _, m⟩ <;> rw [run] at ends <;> exact ends

private theorem restarting_run (acyclic : NoCycle (Requires reg)) (rt : Runtime ε) (n : Nat) :
    Restarting reg (bootThenRestarts svc reg rt 0).calls [] (bootThenRestarts svc reg rt n) := by
  induction n with
  | zero =>
    have start := @booting_boot ε svc reg acyclic rt
    exact ⟨start.rest, fun name inside => start.failed name (by simpa using inside), [], by simp⟩
  | succ n ih => exact Keeps.after (restarting_restartFailed acyclic) ih

/-- Every activate hook of boot and of any number of restarts finds its registered
dependencies active exactly when none of them had failed at its last start, and
the gateway that boot contacts first has none. -/
theorem dependencies_honoured_iff (svc : Services ε) (reg : Registry (Runtime ε))
    (acyclic : NoCycle (Requires reg)) (rt : Runtime ε) (restarts : Nat) :
    DependenciesHonoured svc reg rt restarts ↔
      ∀ past c rest, (bootThenRestarts svc reg rt restarts).calls = past ++ c :: rest →
        c.hook = .onActivate → ¬ DependencyFailed reg past c := by
  have run := @restarting_run ε svc reg acyclic rt restarts
  constructor
  · rintro ⟨hooks, -⟩ past c rest split activates ⟨d, requires, failed⟩
    have found := hooks c (by simp [split]) activates d requires
    have last := (run.rest.logged past c rest split activates d requires).1.mp found
    rcases failed with failed | ⟨_, alone⟩
    · rw [last] at failed
      cases failed
    · -- only the service itself has run hooks, so its dependency has not
      have differ : d ≠ c.service := acyclic.irrefl requires
      have none : past.filter (isStartOf d) = [] := by
        refine List.filter_eq_nil_iff.mpr fun e member start => differ ?_
        have named : e.service = d := by simp_all [isStartOf]
        exact named.symm.trans (alone e member)
      simp [lastStart, none] at last
  · intro intact
    have hooks : ∀ c ∈ (bootThenRestarts svc reg rt restarts).calls, FindsDepsActive reg c := by
      intro c member activates d requires
      obtain ⟨past, rest, split⟩ := List.append_of_mem member
      obtain ⟨found, started⟩ := run.rest.logged past c rest split activates d requires
      have sound := intact past c rest split activates
      have last : lastStart past d = some true := by
        rcases last : lastStart past d with _ | ok
        · exact absurd (started.resolve_left fun h => h last)
            fun contact => sound ⟨d, requires, Or.inr contact⟩
        · cases ok with
          | true => rfl
          | false => exact absurd ⟨d, requires, Or.inl last⟩ sound
      exact found.mpr last
    refine ⟨hooks, fun s held d requires => ?_⟩
    obtain ⟨more, grown⟩ := run.grown
    have backed := (@booting_boot ε svc reg acyclic rt).backed s held d requires
    refine backed.resolve_right ?_
    rintro ⟨c, member, broken⟩
    refine broken (hooks c ?_)
    rw [grown]
    exact List.mem_append_left _ member

/-! A state estimator that does not come up. -/

def wheeledBody : LoadedBody where
  manifest :=
    { bodyId := "r2", name := "R2", revision := "1", locomotionType := "differential" }

def failingEstimator : Registry (Runtime Unit) where
  services := [safetyGateway (inert .ascii wheeledBody),
    { name := "state_estimator", requires := ["safety_gateway"],
      hook := fun h => pure (decide (h ≠ .onActivate)) },
    { name := "world_model" },
    { name := "navigation", requires := ["safety_gateway", "state_estimator", "world_model"] }]
  nodup := by decide

def poweredUp : Runtime Unit := { now := 0, controller := { lastContact := 0 }, env := () }

private theorem navigation_requires : Requires failingEstimator "state_estimator" "navigation" :=
  ⟨by decide, _, rfl, by decide⟩

/-- The estimator's hook returns False and navigation's hook runs all the same. -/
theorem navigation_activated_on_failed_estimator :
    ¬ DependenciesHonoured (inert .ascii wheeledBody) failingEstimator poweredUp 0 := by
  intro honoured
  have ran : ∃ c ∈ (bootThenRestarts (inert .ascii wheeledBody) failingEstimator poweredUp 0).calls,
      c.service = "navigation" ∧ c.hook = .onActivate ∧ c.found "state_estimator" = .inactive := by
    decide +kernel
  obtain ⟨c, member, named, activates, inactive⟩ := ran
  have active := honoured.hooks c member activates "state_estimator"
    (by rw [named]; exact navigation_requires)
  rw [inactive] at active
  cases active

/-- How far down its chain of dependencies a service stands. -/
private def level (name : String) : Nat :=
  if name = "navigation" then 2 else if name = "state_estimator" then 1 else 0

theorem failingEstimator_noCycle : NoCycle (Requires failingEstimator) := by
  refine noCycle_of_measure level ?_
  rintro d s ⟨-, spec, found, member⟩
  obtain ⟨listed, rfl⟩ := Registry.find_some found
  have each : ∀ spec ∈ failingEstimator.services, ∀ d ∈ spec.requires, level d < level spec.name := by
    decide
  exact each spec listed d member

theorem dependencies_honoured_iff_estimator :
    NoCycle (Requires failingEstimator) ∧
    (DependenciesHonoured (inert .ascii wheeledBody) failingEstimator poweredUp 1 ↔
      ∀ past c rest, (bootThenRestarts (inert .ascii wheeledBody) failingEstimator poweredUp 1).calls
          = past ++ c :: rest →
        c.hook = .onActivate → ¬ DependencyFailed failingEstimator past c) :=
  ⟨failingEstimator_noCycle,
    dependencies_honoured_iff _ failingEstimator failingEstimator_noCycle poweredUp 1⟩

end DroidOs.Services.DependencyLaw
