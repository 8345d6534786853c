/- GID: DroidOs/System/Boot
   generality: I
   source: src/droidos/system.py, src/droidos/services/supervisor.py
   digest: A new process and what its boot ends in. -/

import DroidOs.System.Operations

set_option autoImplicit false
set_option relaxedAutoImplicit false

namespace DroidOs.System.Boot

open DroidOs.Lib.Procedure
open DroidOs.Core.Values DroidOs.Core.States DroidOs.Core.Context
open DroidOs.Services.Lifecycle DroidOs.Services.HookLaw
open DroidOs.Services.SafetyGateway DroidOs.Services.Supervisor
open Registration

variable {ε : Type}

/-- The context of a new process: its controller is fresh, and its latch file is what
earlier processes left. -/
def newRuntime (now : ℚ) (latch : LatchFile) (env : ε) : Runtime ε where
  now := now
  controller := { lastContact := now }
  latch := latch
  env := env

/-- The process once its boot has ended. -/
def booted (svc : Services ε) (rt : Runtime ε) : Brain ε := (boot svc (droidServices svc) { rt := rt }).2

/-- What an invariant has to be kept by so that the boot keeps it once the gateway has
been contacted. -/
structure Boots (svc : Services ε) (I : Runtime ε → Prop) : Prop where
  hooks : ∀ s ∈ (droidServices svc).services, KeepsHooks I s
  reports : ∀ name ok detail, Keeps I (report name ok detail)
  enter : ∀ dst reason, dst ∉ DroidState.motionAllowedFrom → Keeps I (transition dst reason)
  connect : Keeps I (outside svc.connect)
  refresh : Keeps (fun m => I m.rt) (refresh svc (droidServices svc))

variable {svc : Services ε} {I : Runtime ε → Prop}

namespace Boots

variable (boots : Boots svc I)
include boots

private theorem keeps_startService (name : String) :
    Keeps (fun m => I m.rt) (startService (droidServices svc) name) := by
  refine keeps_ite (fun _ => keeps_pure _) fun _ => ?_
  split
  · exact keeps_pure _
  · next s found =>
    have member := (Registry.find_some found).1
    refine keeps_bind (fun m holds => activateWithDeps_holds boots.hooks member holds) fun _ => ?_
    refine keeps_bind (keeps_reads _) fun _ => ?_
    refine keeps_bind (keeps_onRt_of (boots.reports _ _ _)) fun _ => ?_
    exact keeps_ite (fun _ => keeps_modify fun _ holds => holds) fun _ => keeps_pure _

private theorem keeps_startDrivers : Keeps I (startDrivers svc) := by
  refine keeps_bind (keeps_attempt boots.connect) fun outcome => ?_
  cases outcome <;> exact boots.reports _ _ _

private theorem keeps_afterContact :
    Keeps (fun m => I m.rt) (bootAfterContact svc (droidServices svc)) := by
  refine keeps_bind (keeps_reads _) fun _ => ?_
  refine keeps_bind (keeps_onRt_of (boots.reports _ _ _)) fun _ => ?_
  refine keeps_bind (keeps_onRt_of (boots.enter _ _ (by decide))) fun _ => ?_
  refine keeps_bind (keeps_onRt_of (keeps_bind (boots.reports _ _ _) fun _ => boots.reports _ _ _))
    fun _ => ?_
  refine keeps_bind (keeps_onRt_of boots.keeps_startDrivers) fun _ => ?_
  refine keeps_bind (keeps_forEach fun name _ => boots.keeps_startService name) fun _ => ?_
  refine keeps_bind (keeps_onRt_of (boots.enter _ _ (by decide))) fun _ => ?_
  refine keeps_bind (keeps_onRt_of (boots.reports _ _ _)) fun _ => ?_
  refine keeps_bind boots.refresh fun _ => ?_
  exact keeps_bind (keeps_onRt_of (boots.reports _ _ _)) fun _ => keeps_pure _

/-- A boot at any time keeps it, whether it gets beyond its first transition or not. -/
theorem keeps_boot (cleared : ∀ rt, I rt → I { rt with bootReport := [] }) :
    Keeps (fun m => I m.rt) (boot svc (droidServices svc)) := by
  have noted (name : String) (ok : Bool) (detail : String) :
      Keeps (fun m : Brain ε => I m.rt) (onRt (report name ok detail)) :=
    keeps_onRt_of (boots.reports name ok detail)
  have clears : Keeps (fun m : Brain ε => I m.rt) (onRt (modify fun rt => { rt with bootReport := [] })) :=
    keeps_onRt_of (keeps_modify cleared)
  have gateway : safetyGateway svc ∈ (droidServices svc).services := by simp [droidServices]
  refine keeps_bind clears fun _ => ?_
  refine keeps_bind (keeps_onRt_of (boots.enter _ _ (by decide))) fun _ => ?_
  refine keeps_bind (noted _ _ _) fun _ => keeps_bind (noted _ _ _) fun _ => ?_
  refine keeps_bind (noted _ _ _) fun _ => keeps_bind (noted _ _ _) fun _ => ?_
  rw [find_safetyGateway]
  refine keeps_bind (fun m holds => activate_holds (boots.hooks _ gateway) holds) fun _ => ?_
  refine keeps_bind (keeps_reads _) fun _ => ?_
  exact keeps_bind (noted _ _ _) fun _ => keeps_bind (noted _ _ _) fun _ => boots.keeps_afterContact

/-- What the activation of the gateway ends in, the whole boot ends in. -/
theorem boot_holds {rt : Runtime ε} (off : rt.machine.state = .poweredOff)
    (contact : ∀ steps reason, I (activate (safetyGateway svc) { rt := { rt with
      bootReport := steps, machine := rt.machine.enter .booting reason } }).2.rt) :
    I (booted svc rt).rt := by
  let before : Brain ε → Prop := fun m => ∃ steps, m = { rt := { rt with bootReport := steps } }
  let contacting : Brain ε → Prop := fun m => ∃ steps reason, m = { rt := { rt with
    bootReport := steps, machine := rt.machine.enter .booting reason } }
  let ended : Brain ε → Prop := fun m => I m.rt
  have cleared : Triple before (onRt (modify fun rt => { rt with bootReport := [] }) : Proc _ Exn _)
      (fun _ => before) (fun _ => ended) := by
    rintro m ⟨steps, rfl⟩
    exact ⟨[], rfl⟩
  have entered : Triple before (onRt (transition .booting "boot start"))
      (fun _ => contacting) (fun _ => ended) := by
    rintro m ⟨steps, rfl⟩
    rw [onRt_run, transition_legal (by rw [off]; decide) (by rw [off]; decide)]
    exact ⟨steps, _, rfl⟩
  have noted (name : String) (ok : Bool) (detail : String) : Triple contacting
      (onRt (report name ok detail)) (fun _ => contacting) (fun _ => ended) := by
    rintro m ⟨steps, reason, rfl⟩
    exact ⟨_, reason, rfl⟩
  have contacted : Triple contacting (lifecycle (activate (safetyGateway svc)))
      (fun _ => ended) (fun _ => ended) := by
    rintro m ⟨steps, reason, rfl⟩
    exact contact steps reason
  have run : Triple before (boot svc (droidServices svc)) (fun _ => ended) (fun _ => ended) := by
    refine cleared.bind fun _ => entered.bind fun _ => ?_
    refine (noted _ _ _).bind fun _ => (noted _ _ _).bind fun _ => ?_
    refine (noted _ _ _).bind fun _ => (noted _ _ _).bind fun _ => ?_
    rw [find_safetyGateway]
    refine contacted.bind fun _ => keeps_bind (keeps_reads _) fun _ => ?_
    refine keeps_bind (keeps_onRt_of (boots.reports _ _ _)) fun _ => ?_
    exact keeps_bind (keeps_onRt_of (boots.reports _ _ _)) fun _ => boots.keeps_afterContact
  have ends := run { rt := rt } ⟨rt.bootReport, rfl⟩
  unfold booted
  rcases answer : boot svc (droidServices svc) { rt := rt } with ⟨_ | _, m⟩ <;>
    rw [answer] at ends <;> exact ends

end Boots

end DroidOs.System.Boot
