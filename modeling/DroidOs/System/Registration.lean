/- GID: DroidOs/System/Registration
   generality: I
   source: src/droidos/system.py
   digest: The services that a booting system registers, and their dependencies. -/

import DroidOs.Lib.Acyclic
import DroidOs.Services.ActivationOrder
import DroidOs.Services.Supervisor

set_option autoImplicit false
set_option relaxedAutoImplicit false

namespace DroidOs.System.Registration

open DroidOs.Lib.Procedure DroidOs.Lib.Acyclic
open DroidOs.Core.Values DroidOs.Core.Context
open DroidOs.Services.Lifecycle DroidOs.Services.SafetyGateway DroidOs.Services.Supervisor
open DroidOs.Services.ActivationOrder

variable {ε : Type} (svc : Services ε)

/-- A service that overrides no hook. -/
def plainService (name : String) (requires : List String) : ManagedService (Runtime ε) where
  name := name
  requires := requires

/-- A service that overrides `_on_configure` alone. -/
def configuredService (name : String) (requires : List String) : ManagedService (Runtime ε) where
  name := name
  requires := requires
  hook
    | .onConfigure => do
      outside (svc.configure name)
      pure true
    | _ => pure true

/-- What `DroidSystem.boot` registers, in its order. -/
def droidServices : Registry (Runtime ε) where
  services := [safetyGateway svc,
    plainService "hardware" ["safety_gateway"],
    plainService "diagnostics" ["safety_gateway"],
    plainService "state_estimator" ["safety_gateway"],
    configuredService svc "world_model" [],
    configuredService svc "memory" [],
    plainService "perception" ["safety_gateway"],
    plainService "navigation" ["safety_gateway", "state_estimator", "world_model"],
    configuredService svc "motion" ["safety_gateway"],
    configuredService svc "update" ["safety_gateway"],
    plainService "executive" ["safety_gateway", "motion", "navigation", "state_estimator"],
    plainService "voice" ["safety_gateway"]]
  nodup := by simp [safetyGateway, plainService, configuredService]

theorem find_safetyGateway :
    (droidServices svc).find "safety_gateway" = some (safetyGateway svc) :=
  Registry.find_of_mem (s := safetyGateway svc) (by simp [droidServices])

/-- A registered service is the gateway, overrides no hook, or only the one that configures it. -/
theorem droidServices_each {P : ManagedService (Runtime ε) → Prop} (gateway : P (safetyGateway svc))
    (plain : ∀ name requires, P (plainService name requires))
    (configured : ∀ name requires, P (configuredService svc name requires)) :
    ∀ s ∈ (droidServices svc).services, P s := by
  intro s member
  simp only [droidServices, List.mem_cons, List.not_mem_nil, or_false] at member
  rcases member with rfl | rfl | rfl | rfl | rfl | rfl | rfl | rfl | rfl | rfl | rfl | rfl
  · exact gateway
  · exact plain _ _
  · exact plain _ _
  · exact plain _ _
  · exact configured _ _
  · exact configured _ _
  · exact plain _ _
  · exact plain _ _
  · exact configured _ _
  · exact configured _ _
  · exact plain _ _
  · exact plain _ _

theorem droidServices_hasSafety : hasSafety (droidServices svc) = true := by
  rw [hasSafety, Registry.has, find_safetyGateway]
  rfl

/-- Every hook that shutdown runs is the default one. -/
theorem shutdown_hooks_default {s : ManagedService (Runtime ε)}
    (member : s ∈ (droidServices svc).services) {h : Hook}
    (stops : h = .onDeactivate ∨ h = .onCleanup) : s.hook h = pure true := by
  have default_ : ∀ s ∈ (droidServices svc).services, ∀ h, h = .onDeactivate ∨ h = .onCleanup →
      s.hook h = pure true := by
    refine droidServices_each svc ?_ (fun _ _ h _ => rfl) fun _ _ => ?_
    · rintro h (rfl | rfl) <;> rfl
    · rintro h (rfl | rfl) <;> rfl
  exact default_ s member h stops

/-- How far down its chain of dependencies a service stands. -/
private def level (name : String) : Nat :=
  if name = "executive" then 3
  else if name = "navigation" then 2
  else if name = "safety_gateway" ∨ name = "world_model" ∨ name = "memory" then 0
  else 1

/-- The dependencies of the repository's own services have no cycle. -/
theorem droidServices_noCycle : NoCycle (Requires (droidServices svc)) := by
  refine noCycle_of_measure level ?_
  rintro d s ⟨-, spec, found, member⟩
  obtain ⟨listed, rfl⟩ := Registry.find_some found
  have each : ∀ spec ∈ (droidServices svc).services, ∀ d ∈ spec.requires,
      level d < level spec.name := by
    simp [droidServices, safetyGateway, plainService, configuredService, level]
  exact each spec listed d member

end DroidOs.System.Registration
