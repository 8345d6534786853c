/- GID: DroidOs/Services/BootLaw
   generality: G
   digest: What the steps of a boot keep, its readiness assessment finds. -/

import DroidOs.Services.HookLaw
import DroidOs.Services.Readiness

set_option autoImplicit false
set_option relaxedAutoImplicit false

namespace DroidOs.Services.BootLaw

open DroidOs.Lib.Procedure
open DroidOs.Core.Values DroidOs.Core.States DroidOs.Core.Context
open Lifecycle HookLaw SafetyGateway Supervisor Readiness

variable {ε : Type} {svc : Services ε} {reg : Registry (Runtime ε)} {J : Brain ε → Prop}

/-- Before its assessment a boot is in no state that permits motion. -/
def Before (J : Brain ε → Prop) (m : Brain ε) : Prop :=
  J m ∧ m.rt.machine.state ∉ DroidState.motionAllowedFrom

/-- What the steps of a boot keep until it assesses its readiness. J does not look at the state
machine, the report and the list of failures. -/
structure Carries (svc : Services ε) (reg : Registry (Runtime ε)) (J : Brain ε → Prop) : Prop where
  beside : ∀ m machine steps names, J m →
    J { m with rt := { m.rt with machine := machine, bootReport := steps }, failedServices := names }
  connect : Keeps J (onRt (outside svc.connect))
  activate : ∀ s ∈ reg.services, ∀ m, Before J m → Before J (activate s m).2

/-- The droid moves after the boot only if the assessment found it fit. -/
def Ended (svc : Services ε) (reg : Registry (Runtime ε)) (J : Brain ε → Prop) (m' : Brain ε) : Prop :=
  m'.rt.machine.state ∈ DroidState.motionAllowedFrom → ∃ m, J m ∧ Fit svc reg m

theorem ended_of_before {m : Brain ε} (before : Before J m) : Ended svc reg J m :=
  fun allowed => absurd allowed before.2

/-- A refresh ends in a state that permits motion only from a fit droid. -/
theorem ended_refresh (safety : hasSafety reg = true) :
    Triple (Before J) (refresh svc reg) (fun _ => Ended svc reg J) (fun _ => Ended svc reg J) := by
  refine triple_of_after fun m before => ?_
  intro allowed
  refine ⟨m, before.1, ?_⟩
  rcases found : (assessReadiness svc reg m).1 with e | r
  · obtain ⟨controller, env, kept⟩ := @assess_keeps ε svc reg safety m
    rw [refresh_error found, kept] at allowed
    exact absurd allowed before.2
  · obtain ⟨machine, run, state⟩ := refresh_ok found
    rw [run] at allowed
    change machine.state ∈ _ at allowed
    exact (assess_allowed_iff safety m).mp ⟨r, found, state ▸ allowed⟩

namespace Carries

variable (carries : Carries svc reg J)
include carries

private theorem keeps_report (name : String) (ok : Bool) (detail : String) :
    Keeps (Before J) (onRt (report name ok detail)) :=
  keeps_iff.mpr fun m before => ⟨carries.beside m m.rt.machine _ m.failedServices before.1, before.2⟩

private theorem keeps_transition {dst : DroidState} (reason : String) (parks : dst ∉ DroidState.motionAllowedFrom) :
    Keeps (Before J) (onRt (transition dst reason)) := by
  refine keeps_iff.mpr fun m before => ?_
  obtain ⟨machine, run, same | moved⟩ := transition_after dst reason m.rt
  · rw [onRt_run, run]
    exact ⟨carries.beside m machine m.rt.bootReport m.failedServices before.1, same ▸ before.2⟩
  · rw [onRt_run, run]
    refine ⟨carries.beside m machine m.rt.bootReport m.failedServices before.1, ?_⟩
    change machine.state ∉ _
    rw [moved]
    exact parks

private theorem keeps_startDrivers : Keeps (Before J) (onRt (startDrivers svc)) := by
  have connected : Keeps (Before J) (onRt (outside svc.connect)) :=
    keeps_iff.mpr fun m before => ⟨carries.connect.after before.1, before.2⟩
  refine keeps_iff.mpr fun m before => ?_
  have kept := connected.after before
  rw [onRt_run] at kept ⊢
  unfold startDrivers
  rcases run : outside svc.connect m.rt with ⟨e | _, rt⟩ <;> rw [run] at kept
  · have answer : attempt (outside svc.connect) m.rt = (.ok (.error e), rt) := by rw [attempt_run, run]
    rw [bind_ok answer]
    exact (carries.keeps_report _ _ _).after kept
  · have answer : attempt (outside svc.connect) m.rt = (.ok (.ok ()), rt) := by rw [attempt_run, run]
    rw [bind_ok answer]
    exact (carries.keeps_report _ _ _).after kept

private theorem keeps_startService (name : String) : Keeps (Before J) (startService reg name) := by
  refine keeps_ite (fun _ => keeps_pure _) fun _ => ?_
  split
  · exact keeps_pure _
  · next s found =>
    have member := (Registry.find_some found).1
    refine keeps_bind ?_ fun ok => keeps_bind (keeps_reads _) fun _ => ?_
    · exact keeps_iff.mpr fun m before => activateWithDeps_keeps carries.activate member before
    refine keeps_bind (carries.keeps_report _ _ _) fun _ => ?_
    refine keeps_ite (fun _ => keeps_modify fun m before => ?_) fun _ => keeps_pure _
    exact ⟨carries.beside m m.rt.machine m.rt.bootReport _ before.1, before.2⟩

/-- After a boot the droid moves only if what its steps kept was found fit. -/
theorem boot_ends {gateway : ManagedService (Runtime ε)} (found : reg.find "safety_gateway" = some gateway)
    {m : Brain ε} (before : Before J m) : Ended svc reg J (boot svc reg m).2 := by
  have safety : hasSafety reg = true := by
    rw [hasSafety, Registry.has, found]
    rfl
  have member := (Registry.find_some found).1
  have early {α β : Type} {p : Proc (Brain ε) Exn α} {f : α → Proc (Brain ε) Exn β} (keeps : Keeps (Before J) p)
      (rest : ∀ a, Triple (Before J) (f a) (fun _ => Ended svc reg J) fun _ => Ended svc reg J) :
      Triple (Before J) (p >>= f) (fun _ => Ended svc reg J) fun _ => Ended svc reg J :=
    Triple.bind (keeps.triple fun _ _ => ended_of_before) rest
  have noted (name : String) (ok : Bool) (detail : String) : Keeps (Before J) (onRt (report name ok detail)) :=
    carries.keeps_report name ok detail
  have contacted : Triple (Before J) (bootAfterContact svc reg) (fun _ => Ended svc reg J)
      fun _ => Ended svc reg J := by
    refine early (keeps_reads _) fun _ => early (noted _ _ _) fun _ => ?_
    refine early (carries.keeps_transition _ (by decide)) fun _ => ?_
    refine early (keeps_iff.mpr fun m before => ?_) fun _ => early carries.keeps_startDrivers fun _ => ?_
    · exact (noted _ _ _).after ((noted _ _ _).after before)
    refine early (keeps_forEach fun name _ => carries.keeps_startService name) fun _ => ?_
    refine early (carries.keeps_transition _ (by decide)) fun _ => early (noted _ _ _) fun _ => ?_
    refine Triple.bind (ended_refresh safety) fun _ => ?_
    exact keeps_iff.mpr fun m ended => ended
  have run : Triple (Before J) (boot svc reg) (fun _ => Ended svc reg J) fun _ => Ended svc reg J := by
    refine early (keeps_iff.mpr fun m before => ?_) fun _ => ?_
    · exact ⟨carries.beside m m.rt.machine [] m.failedServices before.1, before.2⟩
    refine early (carries.keeps_transition _ (by decide)) fun _ => ?_
    refine early (noted _ _ _) fun _ => early (noted _ _ _) fun _ => ?_
    refine early (noted _ _ _) fun _ => early (noted _ _ _) fun _ => ?_
    rw [found]
    refine early (keeps_iff.mpr fun m before => carries.activate gateway member m before) fun _ => ?_
    exact early (keeps_reads _) fun _ => early (noted _ _ _) fun _ => early (noted _ _ _) fun _ => contacted
  exact run.after before

end Carries

end DroidOs.Services.BootLaw
