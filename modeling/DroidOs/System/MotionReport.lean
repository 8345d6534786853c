/- GID: DroidOs/System/MotionReport
   generality: I
   source: src/droidos/executive/executive.py, src/droidos/cli/droidctl.py, src/droidos/language/service.py
   digest: What the droid says about its motion, and what the broker's gate decides. -/

import DroidOs.Executive.RunIntent
import DroidOs.Language.Approval
import DroidOs.Services.Readiness

set_option autoImplicit false
set_option relaxedAutoImplicit false

namespace DroidOs.System.MotionReport

open DroidOs.Lib.Procedure
open DroidOs.Core.Values DroidOs.Core.States DroidOs.Core.Context
open DroidOs.Services.Lifecycle
open DroidOs.Services.SafetyGateway DroidOs.Services.Supervisor DroidOs.Services.Readiness
open DroidOs.Executive.RunIntent
open DroidOs.Language.Broker DroidOs.Language.Approval

variable {ε : Type} (svc : Services ε) (reg : Registry (Runtime ε))

/-- `_status_dict` of droidctl, less what the language and diagnostics services say of themselves. -/
def statusDict : Proc (Brain ε) Exn Items := do
  let battery ← onRt (outside svc.battery)
  let rt ← reads Managed.rt
  let safety ← onRt status
  return [(.str "name", .str svc.droidName),
    (.str "state", .str rt.machine.state.value),
    (.str "body", .str svc.body.bodyId),
    (.str "backend", .str svc.backendKind),
    (.str "locomotion_type", .str svc.body.manifest.locomotionType),
    (.str "battery_percent", .float (battery.percent.round 1)),
    (.str "motion_permitted", .bool rt.machine.motionPermitted),
    (.str "readiness", .str rt.readiness.state.value),
    (.str "inhibit_reasons", .list (rt.readiness.inhibitReasons.map .str)),
    (.str "safety", .dict
      [(.str "alive", .bool safety.alive),
        (.str "estop_engaged", .bool safety.estopEngaged),
        (.str "power_enabled", .bool safety.powerEnabled),
        (.str "watchdog_ok", .bool safety.watchdogOk),
        (.str "faults", .list (safety.faults.map .str)),
        (.str "movement_permitted", .bool safety.movementPermitted)])]

def safeToMove : String := "All required systems are responding; I am currently safe to move."

/-- The line of `_r_robot_get_status` about motion; the reasons are texts. -/
def motionLine (data : Items) : String :=
  if ((PyVal.lookup "motion_permitted" data).getD .none).truthy then safeToMove
  else match PyVal.lookup "inhibit_reasons" data with
    | some (.list (r :: rs)) =>
      "Movement is disabled: " ++ "; ".intercalate ((r :: rs).map svc.text.str) ++ "."
    | _ => "Movement is not currently permitted."

/-- The broker's gate would let a motion task through. -/
def Admits (m : Brain ε) : Prop := ∃ reason, (motionPermitted svc reg m).1 = .ok (true, reason)

/-- Whoever asks is told that the droid may move exactly when the gate would let it. -/
structure Truthful (m : Brain ε) : Prop where
  handler : ∀ task result, (hStatus svc reg task m).1 = .ok result →
    (PyVal.lookup "motion_permitted" result.data = some (.bool true) ↔ Admits svc reg m)
  droidctl : ∀ items, (statusDict svc m).1 = .ok items →
    (PyVal.lookup "motion_permitted" items = some (.bool true) ↔ Admits svc reg m)
  sentence : ∀ task result, (hStatus svc reg task m).1 = .ok result →
    (motionLine svc result.data = safeToMove ↔ Admits svc reg m)

variable {svc reg} {machine : StateMachine}

private theorem status_tells (safety : hasSafety reg = true) (task : Task) :
    Triple (fun m => m.rt.machine = machine) (hStatus svc reg task) (fun result _ =>
      PyVal.lookup "motion_permitted" result.data = some (.bool machine.motionPermitted)) fun _ _ => True := by
  have assessed : Keeps (fun m => m.rt.machine = machine) (assessReadiness svc reg) := by
    refine keeps_iff.mpr fun m same => ?_
    obtain ⟨controller, env, run⟩ := @assess_keeps ε svc reg safety m
    rw [run]
    exact same
  have called {α : Type} (p : Proc ε Exn α) : Triple (fun m : Brain ε => m.rt.machine = machine)
      (onRt (outside p)) (fun _ m => m.rt.machine = machine) fun _ _ => True :=
    (keeps_iff.mpr fun _ same => same : Keeps _ _).triple fun _ _ _ => trivial
  refine (called _).bind fun battery => (assessed.triple fun _ _ _ => trivial).bind fun readiness => ?_
  refine (called _).bind fun hottest m same => ?_
  rw [reads_bind, same]
  rfl

theorem dict_tells : Triple (fun m : Brain ε => m.rt.machine = machine) (statusDict svc) (fun items _ =>
    PyVal.lookup "motion_permitted" items = some (.bool machine.motionPermitted)) fun _ _ => True := by
  have read : Keeps (fun m : Brain ε => m.rt.machine = machine) (onRt (outside svc.battery)) :=
    keeps_iff.mpr fun _ same => same
  refine (read.triple fun _ _ _ => trivial).bind fun battery m same => ?_
  rw [reads_bind, same]
  rfl

/-- The line says so exactly when the flag is set. -/
private theorem motionLine_iff {data : Items} {permitted : Bool}
    (flag : PyVal.lookup "motion_permitted" data = some (.bool permitted)) :
    motionLine svc data = safeToMove ↔ permitted = true := by
  unfold motionLine
  rw [flag]
  cases permitted with
  | true => exact iff_of_true rfl rfl
  | false =>
    refine iff_of_false ?_ (by decide)
    rw [if_neg (by decide)]
    split
    · intro same
      have first := congrArg (fun line => line.toList.head?) same
      simp [safeToMove, String.toList_append] at first
    · decide

/-- All of them say what the state machine permits. -/
theorem truthful_of_fit (safety : hasSafety reg = true) {m : Brain ε}
    (same : m.rt.machine.motionPermitted = true ↔ Fit svc reg m) : Truthful svc reg m := by
  have admits : Admits svc reg m ↔ m.rt.machine.motionPermitted = true := by
    rw [same, ← assess_allowed_iff safety m]
    exact motionPermitted_iff m
  have said {items : Items} (flag : PyVal.lookup "motion_permitted" items =
      some (.bool m.rt.machine.motionPermitted)) :
      PyVal.lookup "motion_permitted" items = some (.bool true) ↔ Admits svc reg m := by
    rw [flag, admits]
    simp
  have reported {task : Task} {result : TaskResult} (ran : (hStatus svc reg task m).1 = .ok result) :
      PyVal.lookup "motion_permitted" result.data = some (.bool m.rt.machine.motionPermitted) := by
    have told := @status_tells ε svc reg _ safety task m rfl
    rcases run : hStatus svc reg task m with ⟨e | result', m'⟩ <;> rw [run] at told ran
    · cases ran
    · cases ran
      exact told
  refine ⟨fun task result ran => said (reported ran), fun items ran => ?_, fun task result ran => ?_⟩
  · have told := @dict_tells ε svc _ m rfl
    rcases run : statusDict svc m with ⟨e | items', m'⟩ <;> rw [run] at told ran
    · cases ran
    · cases ran
      exact said told
  · rw [motionLine_iff (reported ran), admits]

end DroidOs.System.MotionReport
