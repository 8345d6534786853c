/- GID: DroidOs/System/Operations
   generality: I
   source: src/droidos/system.py, src/droidos/services/supervisor.py
   digest: The operations of a booted system, and what they keep of its shared context. -/

import DroidOs.Services.HookLaw
import DroidOs.System.Registration
import DroidOs.System.TaskLaw

set_option autoImplicit false
set_option relaxedAutoImplicit false

namespace DroidOs.System.Operations

open DroidOs.Lib.Procedure DroidOs.Lib.Interleaving
open DroidOs.Lib.Interleaving.Coroutine (atomically Guard)
open DroidOs.Core.Values DroidOs.Core.States DroidOs.Core.Context
open DroidOs.Backends.SafetyController
open DroidOs.Services.Lifecycle DroidOs.Services.HookLaw
open DroidOs.Services.SafetyGateway DroidOs.Services.Supervisor
open DroidOs.Executive.Drive DroidOs.Executive.RunIntent
open DroidOs.Language.Intent DroidOs.Language.Conversation
open Registration TaskSteps TaskLaw

/-- What is asked of a booted system, the time that passes and what happens in the
outside world (`ι`). The providers of a request are as they behave during it. -/
inductive Operation (ι : Type)
  | ask (lang : LanguageService) (r : Request)
  | runIntent (intent : StructuredIntent) (user : String)
  | engageEstop (reason : String)
  | resetEstop
  | reportFault (name : String)
  | requestMotionPermission
  | releaseMotionPermission
  | heartbeat
  | status
  | healthy
  | diagnostics
  | setSafetyLink (up : Bool)
  | refresh
  | shutdown
  | restartFailed
  | cancel
  | stop
  | elapse (dt : ℚ)
  | happen (event : ι)

variable {ε ι : Type}

/-- The steps of an operation; what it returns is not looked at. -/
def code (svc : Services ε) (world : ι → ε → ε) : Operation ι → Coroutine (Brain ε) Exn Unit
  | .ask lang r => (process svc (droidServices svc) lang r).void
  | .runIntent intent user => (runIntent svc (droidServices svc) intent user).void
  | .engageEstop reason => atomically (onRt (engageEstop svc reason))
  | .resetEstop => (atomically (onRt (resetEstop svc))).void
  | .reportFault name => atomically (onRt (reportFault svc name))
  | .requestMotionPermission => (atomically (onRt (requestMotionPermission svc))).void
  | .releaseMotionPermission => atomically (onRt (releaseMotionPermission svc))
  | .heartbeat => atomically (onRt heartbeat)
  | .status => (atomically (onRt status)).void
  | .healthy => (atomically (onRt healthy)).void
  | .diagnostics => (atomically (onRt diagnostics)).void
  | .setSafetyLink up => atomically (onRt (setSafetyLink svc up))
  | .refresh => (atomically (refresh svc (droidServices svc))).void
  | .shutdown => atomically (requestShutdown svc (droidServices svc))
  | .restartFailed => (atomically (restartFailed (droidServices svc))).void
  | .cancel => atomically (onRt cancel)
  | .stop => atomically (onRt (outside svc.stop))
  | .elapse dt => atomically (onRt (modify fun rt => { rt with now := rt.now + dt }))
  | .happen event => atomically (onRt (modify fun rt => { rt with env := world event rt.env }))

/-! What an operation keeps. -/

/-- What an invariant of the shared context has to be kept by, beside the ingredients
of a task, so that every operation keeps it. -/
structure Upholds (svc : Services ε) (world : ι → ε → ε) (G : Guard (Brain ε))
    (I : Runtime ε → Prop) (P : String → Prop) : Prop
    extends Upkeep svc (droidServices svc) G I P where
  reset : ∀ m : Brain ε, I m.rt → G m (onRt (resetEstop svc)).after → I (resetEstop svc m.rt).2
  close : ∀ m : Brain ε, I m.rt → G m (requestShutdown svc (droidServices svc)).after →
    I (requestShutdown svc (droidServices svc) m).2.rt
  fault : ∀ name, Keeps I (reportFault svc name)
  release : Keeps I (releaseMotionPermission svc)
  link : ∀ up, Keeps I (setSafetyLink svc up)
  refresh : ∀ m : Brain ε, I m.rt → G m (refresh svc (droidServices svc)).after →
    I (refresh svc (droidServices svc) m).2.rt
  configure : Keeps I (onConfigure svc)
  activate : Keeps I (onActivate svc)
  elapse : ∀ dt rt, I rt → I { rt with now := rt.now + dt }
  happen : ∀ event rt, I rt → I { rt with env := world event rt.env }

variable {svc : Services ε} {world : ι → ε → ε} {G : Guard (Brain ε)} {I : Runtime ε → Prop}
variable {P : String → Prop}

/-- Of the registered services' hooks, those that configure a service and the gateway's do something. -/
theorem each_keepsHooks (configure : ∀ name, Keeps I (outside (svc.configure name)))
    {s : ManagedService (Runtime ε)} (member : s ∈ (droidServices svc).services)
    (gateway : s.name = "safety_gateway" → KeepsHooks I (safetyGateway svc)) : KeepsHooks I s := by
  refine droidServices_each svc (P := fun s => (s.name = "safety_gateway" → KeepsHooks I (safetyGateway svc)) →
    KeepsHooks I s) (fun kept => kept rfl) (fun _ _ _ _ => keeps_pure _) (fun name _ _ h => ?_) s member gateway
  cases h with
  | onConfigure => exact keeps_bind (configure name) fun _ => keeps_pure _
  | onActivate => exact keeps_pure _
  | onDeactivate => exact keeps_pure _
  | onCleanup => exact keeps_pure _

theorem droidServices_keepsHooks (attends : Attends svc I) (configure : Keeps I (onConfigure svc))
    (activate : Keeps I (onActivate svc)) : ∀ s ∈ (droidServices svc).services, KeepsHooks I s := by
  have gateway : KeepsHooks I (safetyGateway svc) := by
    intro h
    cases h with
    | onConfigure => exact configure
    | onActivate => exact activate
    | onDeactivate => exact keeps_pure _
    | onCleanup => exact keeps_pure _
  exact fun s member => each_keepsHooks (fun name => attends.quiet (.configure name)) member fun _ => gateway

/-- What the restarts of these services keep, and the list of failures does not matter to. -/
theorem keeps_restarts {reg : Registry (Runtime ε)} {J : Brain ε → Prop} {names : List String}
    (each : ∀ s ∈ reg.services, s.name ∈ names → ∀ m, J m → J (restart s m).2)
    (noted : ∀ m failed, J m → J { m with failedServices := failed }) : Keeps J (restartEach reg names) := by
  induction names with
  | nil => exact keeps_pure _
  | cons name names ih =>
    have rest : Keeps J (restartEach reg names) :=
      ih fun s member listed => each s member (List.mem_cons_of_mem name listed)
    refine keeps_bind ?_ fun _ => keeps_bind rest fun _ => keeps_pure _
    unfold restartOne
    split
    · exact keeps_raise _
    · next s found =>
      obtain ⟨member, named⟩ := Registry.find_some found
      have listed : s.name ∈ name :: names := named ▸ List.mem_cons_self
      refine keeps_bind (keeps_iff.mpr fun m holds => each s member listed m holds) fun _ => ?_
      exact keeps_ite (fun _ => keeps_bind (keeps_modify fun m holds => noted m _ holds) fun _ => keeps_pure _)
        fun _ => keeps_pure _

namespace Upholds

variable (upholds : Upholds svc world G I P)
include upholds

theorem keepsHooks : ∀ s ∈ (droidServices svc).services, KeepsHooks I s :=
  droidServices_keepsHooks upholds.toAttends upholds.configure upholds.activate

theorem keeps_restartFailed : Keeps (fun m => I m.rt) (restartFailed (droidServices svc)) := by
  refine keeps_bind (keeps_reads _) fun names => keeps_restarts (J := fun m => I m.rt) ?_ fun _ _ holds => holds
  exact fun s member _ m holds => restart_holds (upholds.keepsHooks s member) holds

/-- Every operation keeps the invariant; a task run directly must be a permitted one. -/
theorem keeps_code (approves : Approves svc (droidServices svc) P) {op : Operation ι}
    (permitted : ∀ intent user, op = .runIntent intent user → P intent.intent) :
    (code svc world op).Keeps G fun m => I m.rt := by
  have upkeep := upholds.toUpkeep
  cases op with
  | ask lang r => exact Coroutine.keeps_void (upkeep.keeps_process approves r)
  | runIntent intent user =>
    exact Coroutine.keeps_void (upkeep.keeps_runIntent (permitted intent user rfl) user)
  | engageEstop reason => exact Coroutine.keeps_atomically (keeps_onRt_of (upholds.engage reason))
  | resetEstop => exact Coroutine.keeps_void (Coroutine.keeps_atomically_of upholds.reset)
  | reportFault name => exact Coroutine.keeps_atomically (keeps_onRt_of (upholds.fault name))
  | requestMotionPermission =>
    exact Coroutine.keeps_void (Coroutine.keeps_atomically_of upholds.request)
  | releaseMotionPermission => exact Coroutine.keeps_atomically (keeps_onRt_of upholds.release)
  | heartbeat => exact Coroutine.keeps_atomically (keeps_onRt_of upholds.heartbeat)
  | status => 
    exact Coroutine.keeps_void (Coroutine.keeps_atomically
      (keeps_onRt_of (keeps_bind upholds.heartbeat fun _ => upholds.status)))
  | healthy => exact Coroutine.keeps_void (Coroutine.keeps_atomically (keeps_onRt_of upkeep.toReads.keeps_healthy))
  | diagnostics =>
    exact Coroutine.keeps_void (Coroutine.keeps_atomically (keeps_onRt_of upkeep.toReads.keeps_diagnostics))
  | setSafetyLink up => exact Coroutine.keeps_atomically (keeps_onRt_of (upholds.link up))
  | refresh => exact Coroutine.keeps_void (Coroutine.keeps_atomically_of upholds.refresh)
  | shutdown => exact Coroutine.keeps_atomically_of upholds.close
  | restartFailed => exact Coroutine.keeps_void (Coroutine.keeps_atomically upholds.keeps_restartFailed)
  | cancel =>
    exact Coroutine.keeps_atomically (keeps_onRt_of (keeps_modify fun rt holds => upholds.core rt _ holds
      ⟨rfl, rfl, rfl, rfl, rfl, rfl, rfl, rfl, rfl⟩))
  | stop => exact Coroutine.keeps_atomically (keeps_onRt_of (upholds.quiet .stop))
  | elapse dt => exact Coroutine.keeps_atomically (keeps_onRt_of (keeps_modify (upholds.elapse dt)))
  | happen event => exact Coroutine.keeps_atomically (keeps_onRt_of (keeps_modify (upholds.happen event)))

end Upholds

end DroidOs.System.Operations
