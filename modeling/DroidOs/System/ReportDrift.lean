/- GID: DroidOs/System/ReportDrift
   generality: I
   source: src/droidos/executive/executive.py, src/droidos/language/broker.py
   digest: In which runs the droid says that it may move exactly when the broker's gate would let it. -/

import DroidOs.System.PoweredStates
import DroidOs.System.UpToDate

set_option autoImplicit false
set_option relaxedAutoImplicit false

namespace DroidOs.System.ReportDrift

open DroidOs.Lib.Procedure DroidOs.Lib.Interleaving
open DroidOs.Lib.Interleaving.Coroutine (Guard)
open DroidOs.Core.Values DroidOs.Core.States DroidOs.Core.Context
open DroidOs.Backends.SafetyController DroidOs.Backends.Simulation
open DroidOs.Services.Lifecycle DroidOs.Services.HookLaw
open DroidOs.Services.SafetyGateway DroidOs.Services.Supervisor
open DroidOs.Services.Readiness DroidOs.Services.Inhibition
open DroidOs.Executive.Drive DroidOs.Executive.RunIntent
open DroidOs.Language.Intent DroidOs.Language.Broker DroidOs.Language.Approval
open DroidOs.Language.Conversation
open Registration Operations Boot Simulated StepLaw LatchLaw StateGraph Outlook PoweredStates
open MotionReport UpToDate

variable {δ : Type} {s : Surroundings δ}

/-! Booting. -/

/-- The droid is in this state. -/
private def In (st : DroidState) (m : Brain (SimWorld δ)) : Prop := m.rt.machine.state = st

private theorem startService_returns (name : String) (m : Brain (SimWorld δ)) :
    (startService (droidServices (simulated s)) name m).1 = .ok () := by
  unfold startService
  split
  · rfl
  rcases (droidServices (simulated s)).find name with _ | spec
  · rfl
  · have ran : lifecycle (activateWithDeps (droidServices (simulated s)) spec) m =
        (.ok (activateWithDeps (droidServices (simulated s)) spec m).1,
          (activateWithDeps (droidServices (simulated s)) spec m).2) := rfl
    dsimp only
    rw [bind_ok ran, reads_bind, bind_ok (onRt_run _ _)]
    split <;> rfl

/-- A boot ends in a refresh, which finds the droid in safe idle. -/
private theorem boot_current {rt : Runtime (SimWorld δ)} (off : rt.machine.state = .poweredOff) :
    Current s (booted (simulated s) rt) := by
  have hooks (st : DroidState) : ∀ spec ∈ (droidServices (simulated s)).services,
      KeepsHooks (fun rt => rt.machine.state = st) spec :=
    (machine_primitives fun machine => machine.state = st).keepsHooks
  have moved {st dst : DroidState} (reason : String) (moves : dst ≠ st) (legal : dst ∈ st.transitions) :
      Triple (In st) (onRt (transition dst reason)) (fun _ => In dst) fun _ => Current s := by
    rintro m rfl
    rw [onRt_run, transition_legal moves legal]
    exact rfl
  have noted (st : DroidState) (name : String) (ok : Bool) (detail : String) :
      Triple (In st) (onRt (report name ok detail)) (fun _ => In st) fun _ => Current s := fun _ in_ => in_
  have started : Triple (In (δ := δ) .hardwareCheck)
      (forEach activationOrder (startService (droidServices (simulated s)))) (fun _ => In .hardwareCheck)
      fun _ => Current s := by
    have keeps (name : String) : Keeps (In .hardwareCheck) (startService (droidServices (simulated s)) name) := by
      refine keeps_ite (fun _ => keeps_pure _) fun _ => ?_
      split
      · exact keeps_pure _
      · next spec found =>
        refine keeps_bind (fun m in_ => activateWithDeps_holds (hooks .hardwareCheck) (Registry.find_some found).1 in_)
          fun ok => keeps_bind (keeps_reads _) fun _ => keeps_bind (fun _ in_ => in_) fun _ => ?_
        exact keeps_ite (fun _ => fun _ in_ => in_) fun _ => keeps_pure _
    intro m in_
    have after := (@keeps_forEach _ _ _ _ _ activationOrder fun name _ => keeps name).after in_
    have returns := @forEach_returns _ _ _ _ activationOrder (fun name _ => startService_returns (s := s) name) m
    rcases run : forEach activationOrder (startService (droidServices (simulated s))) m with ⟨e | _, m'⟩ <;>
      rw [run] at after returns
    · cases returns
    · exact after
  have assesses : Triple (In .safeIdle) (do
      let readiness ← refresh (simulated s) (droidServices (simulated s))
      onRt (report "assess_readiness" true readiness.state.value)
      return readiness) (fun _ => Current s) fun _ => Current s := by
    refine Triple.bind (Q := fun _ => Current s) (triple_of_after fun m in_ => current_refresh ?_) fun _ => ?_
    · intro permits
      rw [StateMachine.motionPermitted, show m.rt.machine.state = .safeIdle from in_] at permits
      cases permits
    · exact keeps_bind (current_onRt fun _ => keeps_iff.mpr fun _ same => same) fun _ => keeps_pure _
  have contacted : Triple (In .booting) (bootAfterContact (simulated s) (droidServices (simulated s)))
      (fun _ => Current s) fun _ => Current s := by
    refine Triple.reads_bind fun _ => (noted _ _ _ _).bind fun _ => ?_
    refine (moved _ (by decide) (by decide)).bind fun _ => ?_
    refine Triple.bind (Q := fun _ => In .hardwareCheck) (fun _ in_ => in_) fun _ => ?_
    refine Triple.bind (Q := fun _ => In .hardwareCheck) (fun _ in_ => in_) fun _ => started.bind fun _ => ?_
    exact (moved _ (by decide) (by decide)).bind fun _ => (noted _ _ _ _).bind fun _ => assesses
  have run : Triple (In .poweredOff) (boot (simulated s) (droidServices (simulated s)))
      (fun _ => Current s) fun _ => Current s := by
    refine Triple.bind (Q := fun _ => In .poweredOff) (fun _ in_ => in_) fun _ => ?_
    refine (moved _ (by decide) (by decide)).bind fun _ => (noted _ _ _ _).bind fun _ => ?_
    refine (noted _ _ _ _).bind fun _ => (noted _ _ _ _).bind fun _ => (noted _ _ _ _).bind fun _ => ?_
    rw [find_safetyGateway]
    refine Triple.bind (Q := fun _ => In .booting) (fun m in_ => ?_) fun _ => Triple.reads_bind fun _ => ?_
    · exact activate_holds (hooks .booting _ (by simp [droidServices])) in_
    · exact (noted _ _ _ _).bind fun _ => (noted _ _ _ _).bind fun _ => contacted
  exact run.after (show In .poweredOff { rt := rt } from off)

/-! Runs. -/

/-- In every run of a booted droid whose steps find what they have to, in every state reached, the
droid says that it may move exactly when the broker's gate would let it. -/
theorem report_truthful (s : Surroundings δ) (now : ℚ) (latch : LatchFile) (store : δ)
    {moves : List (Move (Operation (SimEvent δ)))}
    (timely : AllowedRun (timelyGuard s) (code (simulated s) happening) (bootedPool s now latch store) moves) :
    Truthful (simulated s) (droidServices (simulated s))
      (runMoves (code (simulated s) happening) (bootedPool s now latch store) moves).state := by
  have threads : (bootedPool s now latch store).Keeps (timelyGuard s) (Current s) := by
    intro c member
    cases member
  have current := state_runMoves threads (boot_current rfl) current_code timely
  exact truthful_of_fit (droidServices_hasSafety _) current

/-! The droid in the hallway. -/

/-- Its brain after these moves. -/
def hallwayBrain (moves : List (Move (Operation (SimEvent Unit)))) : Brain (SimWorld Unit) :=
  (runMoves (code (simulated hallwayDroid) happening) (bootedPool hallwayDroid 0 .missing ()) moves).state

/-- Its motor overheats. -/
def overheats : List (Move (Operation (SimEvent Unit))) :=
  [.start (.happen (.injectFault "motor_overheat" [])), .resume 0]

/-- It is sent to safe idle. -/
def idles : List (Move (Operation (SimEvent Unit))) :=
  .start (.runIntent returnSafeIdle "operator") :: List.replicate 3 (.resume 0)

/-- Whether droidctl reports that it may move. -/
def reportsMotion (m : Brain (SimWorld Unit)) : Option Bool :=
  ((statusDict (simulated hallwayDroid) m).1.toOption.bind (PyVal.lookup "motion_permitted")).map PyVal.truthy

/-- Whether the gate would let a motion task through. -/
def admitsMotion (m : Brain (SimWorld Unit)) : Option Bool :=
  (motionPermitted (simulated hallwayDroid) (droidServices (simulated hallwayDroid)) m).1.toOption.map Prod.fst

private theorem truthful_agree {m : Brain (SimWorld Unit)}
    (truthful : Truthful (simulated hallwayDroid) (droidServices (simulated hallwayDroid)) m) {reported admitted : Bool}
    (reports : reportsMotion m = some reported) (admits : admitsMotion m = some admitted) : reported = admitted := by
  have told := @dict_tells _ (simulated hallwayDroid) _ m rfl
  have gate : Admits (simulated hallwayDroid) (droidServices (simulated hallwayDroid)) m ↔ admitted = true := by
    unfold Admits
    unfold admitsMotion at admits
    rcases asked : (motionPermitted (simulated hallwayDroid) (droidServices (simulated hallwayDroid)) m).1 with
      e | ⟨b, why⟩ <;> rw [asked] at admits
    · cases admits
    · cases admits
      simp
  unfold reportsMotion at reports
  rcases run : statusDict (simulated hallwayDroid) m with ⟨e | items, m'⟩ <;> rw [run] at reports told
  · cases reports
  · have flag : PyVal.lookup "motion_permitted" items = some (.bool m.rt.machine.motionPermitted) := told
    have same : some (PyVal.bool m.rt.machine.motionPermitted).truthy = some reported := by
      rw [← reports]
      simp [Except.toOption, flag]
    have same : m.rt.machine.motionPermitted = reported := Option.some.inj same
    have agree := truthful.droidctl items (by rw [run])
    rw [flag, gate, same] at agree
    cases reported <;> cases admitted <;> simp_all

/-- With an overheated motor it still says that it may move, and in safe idle that it may not, while
the gate decides the opposite. -/
theorem report_drifts :
    (reportsMotion (hallwayBrain overheats) = some true ∧ admitsMotion (hallwayBrain overheats) = some false) ∧
    (reportsMotion (hallwayBrain idles) = some false ∧ admitsMotion (hallwayBrain idles) = some true) ∧
    ¬ Truthful (simulated hallwayDroid) (droidServices (simulated hallwayDroid)) (hallwayBrain overheats) ∧
    ¬ Truthful (simulated hallwayDroid) (droidServices (simulated hallwayDroid)) (hallwayBrain idles) := by
  have hot : reportsMotion (hallwayBrain overheats) = some true ∧
      admitsMotion (hallwayBrain overheats) = some false := by decide +kernel
  have idle : reportsMotion (hallwayBrain idles) = some false ∧
      admitsMotion (hallwayBrain idles) = some true := by decide +kernel
  refine ⟨hot, idle, fun truthful => ?_, fun truthful => ?_⟩
  · cases truthful_agree truthful hot.1 hot.2
  · cases truthful_agree truthful idle.1 idle.2

/-- A step that stops a ready droid is none of those that have to find something. -/
private theorem timely_of_stop {m : Brain (SimWorld δ)} {step : Brain (SimWorld δ) → Brain (SimWorld δ)}
    (ready : m.rt.machine.state = .ready) (none : m.failedServices = [])
    (stops : (step m).rt.machine.state = .emergencyStopped) : Timely s m step := by
  have permits : m.rt.machine.motionPermitted = true := by
    simp [StateMachine.motionPermitted, ready, DroidState.motionAllowedFrom]
  have prims := @machine_primitives _ (simulated s) fun machine => machine.state = .ready
  have moves {f : Brain (SimWorld δ) → Brain (SimWorld δ)} (same : step = f)
      (stays : (f m).rt.machine.state = .ready) : False := by
    rw [same, stays] at stops
    cases stops
  have parked (parks : m.rt.machine.motionPermitted = false) : False := by
    rw [permits] at parks
    cases parks
  refine ⟨fun name same => ?_, fun same => ?_, fun _ parks => (parked parks).elim, fun _ parks => (parked parks).elim,
    fun task same => ?_, fun _ => .inl (by simp [none]), fun goal d same => ?_, fun event same => ?_⟩
  · exact (moves same ((prims.keeps_fault name).after ready)).elim
  · exact (moves same ((prims.keeps_link false).after ready)).elim
  · let calm : Runtime (SimWorld δ) → Prop := fun rt => rt.machine.state = .ready ∨ rt.machine.state = .safeIdle
    have released : Keeps calm (releaseMotionPermission (simulated s)) :=
      (machine_primitives fun machine => machine.state = .ready ∨ machine.state = .safeIdle).keeps_release
    have idle : Keeps calm enterSafeIdle := by
      refine keeps_reads_bind fun rt rests => ?_
      split
      · obtain ⟨machine, run, same | moved⟩ := transition_after .safeIdle "operator requested safe idle" rt
        · rw [run, same]
          exact rests
        · rw [run]
          exact .inr moved
      · exact rests
    have kept : Keeps (fun m => calm m.rt) (hSafeIdle (simulated s) task) := by
      refine keeps_bind (keeps_onRt_of released) fun _ => keeps_bind (keeps_onRt_of idle) fun _ => ?_
      exact keeps_bind (keeps_reads _) fun _ => keeps_pure _
    have rests : calm (step m).rt := by
      rw [same]
      exact kept.after (.inl ready)
    rcases rests with stays | idles
    · rw [stops] at stays
      cases stays
    · rw [stops] at idles
      cases idles
  · exact (moves same ((prims.attends.keeps_driveTick goal d).after ready)).elim
  · exact (moves same ready).elim

/-- After an emergency stop it says that it may not move, and the gate lets nothing through. -/
theorem stop_truthful : reportsMotion (hallwayBrain [.start (.engageEstop "test"), .resume 0]) = some false ∧
    Truthful (simulated hallwayDroid) (droidServices (simulated hallwayDroid))
      (hallwayBrain [.start (.engageEstop "test"), .resume 0]) := by
  refine ⟨by decide +kernel, report_truthful hallwayDroid 0 .missing () ⟨trivial, ?_, trivial⟩⟩
  exact (allows_resume rfl).mpr (timely_of_stop (by decide +kernel) (by decide +kernel) (by decide +kernel))

end DroidOs.System.ReportDrift
