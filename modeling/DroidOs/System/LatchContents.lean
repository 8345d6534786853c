/- GID: DroidOs/System/LatchContents
   generality: I
   source: src/droidos/services/safety_gateway.py
   digest: Which contents of the latch file keep the next boot from moving, and which writes leave them. -/

import DroidOs.Services.BootLaw
import DroidOs.System.LatchPersistence
import DroidOs.System.RejectedBodies

set_option autoImplicit false
set_option relaxedAutoImplicit false

namespace DroidOs.System.LatchContents

open DroidOs.Lib.Procedure DroidOs.Lib.History
open DroidOs.Core.Values DroidOs.Core.States DroidOs.Core.Context
open DroidOs.Backends.SafetyController DroidOs.Backends.Simulation
open DroidOs.Services.Lifecycle DroidOs.Services.HookLaw DroidOs.Services.SafetyGateway
open DroidOs.Services.Supervisor DroidOs.Services.Readiness DroidOs.Services.BootLaw
open Registration Operations Boot Simulated StateGraph LatchPersistence RejectedBodies

/-! The file. -/

/-- A complete record that tells of no stop. -/
def ClearRecord (latch : LatchFile) : Prop := ∃ items reason stamp, latch = .document (.dict items) ∧
  PyVal.lookup "estop_engaged" items = some (.bool false) ∧
  PyVal.lookup "reason" items = some (.str reason) ∧ PyVal.lookup "stamp" items = some (.float stamp)

/-- There is a file, and it is no such record. -/
def Unsound (latch : LatchFile) : Prop := latch ≠ .missing ∧ ¬ ClearRecord latch

/-- Loading the file engages the e-stop or raises. -/
def LatchHolds : LatchFile → Prop
  | .missing | .unreadable | .malformed => False
  | .undecodable => True
  | .document v => ∀ flag, v.get "estop_engaged" .none = .ok flag → flag.truthy = true

/-- No droid whose next boot finds the file moves after that boot. -/
def Inhibits (latch : LatchFile) : Prop := ∀ {ε : Type} (svc : Services ε) (now : ℚ) (env : ε),
  (booted svc (newRuntime now latch env)).rt.machine.state ∉ DroidState.motionAllowedFrom

/-! How much of a record reaches the file, when its write is interrupted or fails. -/

inductive Written
  | nothing | cut | whole
  deriving DecidableEq

/-- One call of `_save_latch`, by `engage_estop` (estop) or by `reset_estop`; a call that a crash
interrupts does not complete. -/
structure Save where
  estop : Bool
  reason : String
  now : ℚ
  written : Written
  completed : Bool

/-- The file after the call. A proper prefix of a record is no JSON document. -/
def Save.file (save : Save) (latch : LatchFile) : LatchFile :=
  match save.written with
  | .nothing => latch
  | .cut => .malformed
  | .whole => latchRecord save.estop save.reason save.now

def fileAfter (first : LatchFile) (saves : List Save) : LatchFile :=
  saves.foldl (fun latch save => save.file latch) first

/-- The calls that completed. -/
def completedCalls (saves : List Save) : List EstopCall :=
  (saves.filter Save.completed).map fun save => if save.estop then .engaged else .reset

/-- What reaches the file is what the gateway's own write leaves there. -/
theorem saveLatch_file {ε : Type} (save : Save) (rt : Runtime ε)
    (writes : rt.latchWrite = match save.written with
      | .nothing => .failsAtOpen
      | .cut => .failsWriting .malformed
      | .whole => .succeeds) (now : rt.now = save.now) :
    (saveLatch save.estop save.reason rt).2.latch = save.file rt.latch := by
  rw [saveLatch, modify_run]
  obtain ⟨estop, reason, now', written, completed⟩ := save
  dsimp only at writes now ⊢
  rw [writes]
  cases written with
  | nothing => rfl
  | cut => rfl
  | whole => exact congrArg (latchRecord estop reason) now

/-! A file that holds. -/

section

variable {ε : Type} {svc : Services ε} {latch : LatchFile}

/-- Configuring the gateway raises or engages the e-stop. -/
private theorem onConfigure_holds (svc : Services ε) (holds : LatchHolds latch) {rt : Runtime ε} (file : rt.latch = latch) :
    (∃ e, onConfigure svc rt = (.error e, rt)) ∨
      ∃ c, onConfigure svc rt = (.ok true, { rt with controller := c }) ∧ c.estop = true := by
  have loads : (∃ e, loadLatch svc rt = (.error e, rt)) ∨
      ∃ reason, loadLatch svc rt = (.ok (), { rt with controller := rt.controller.engageEstop reason }) := by
    rcases loadLatch_cases svc rt with ⟨raises, -⟩ | ⟨v, flag, reason, -, -, -, engages⟩ |
      ⟨-, decodes, free⟩
    · exact .inl raises
    · exact .inr ⟨reason, engages⟩
    · rw [file] at decodes free
      cases latch with
      | undecodable => exact absurd rfl decodes
      | document v =>
        obtain ⟨flag, flagged, falsy⟩ := free v rfl
        rw [holds flag flagged] at falsy
        cases falsy
      | _ => exact holds.elim
  rcases loads with ⟨e, raises⟩ | ⟨reason, engages⟩
  · exact .inl ⟨e, bind_error raises⟩
  · refine .inr ⟨(rt.controller.engageEstop reason).heartbeat rt.now, ?_, by simp⟩
    unfold onConfigure
    rw [bind_ok engages]
    rfl

/-- The stop is in force, or the gateway has not come up. -/
def Held (latch : LatchFile) (m : Brain ε) : Prop := m.rt.latch = latch ∧
  (m.rt.controller.estop = true ∨ m.state "safety_gateway" = .unconfigured)

/-- An activation of another service leaves the gateway and the context beside the outside world alone. -/
private theorem activate_beside {s : ManagedService (Runtime ε)} (member : s ∈ (droidServices svc).services)
    (other : s.name ≠ "safety_gateway") (m : Brain ε) :
    (activate s m).2.state "safety_gateway" = m.state "safety_gateway" ∧
      (activate s m).2.rt.latch = m.rt.latch ∧ (activate s m).2.rt.controller = m.rt.controller ∧
      (activate s m).2.rt.machine = m.rt.machine := by
  refine ⟨activate_other s m other.symm, ?_⟩
  let same : Runtime ε → Prop := fun rt => rt.latch = m.rt.latch ∧ rt.controller = m.rt.controller ∧
    rt.machine = m.rt.machine
  have hooks : KeepsHooks same s :=
    each_keepsHooks (fun _ => keeps_iff.mpr fun _ kept => kept) member fun named => absurd named other
  exact activate_holds (I := same) hooks ⟨rfl, rfl, rfl⟩

/-- The gateway comes up with the stop in force, or not at all. -/
private theorem held_gateway (holds : LatchHolds latch) {m : Brain ε} (before : Before (Held latch) m) :
    Before (Held latch) (activate (safetyGateway svc) m).2 := by
  obtain ⟨⟨file, held⟩, parked⟩ := before
  let stopped : Runtime ε → Prop := fun rt => (rt.latch = latch ∧ rt.controller.estop = true) ∧
    rt.machine.state ∉ DroidState.motionAllowedFrom
  have done {m' : Brain ε} (ends : stopped m'.rt) : Before (Held latch) m' :=
    ⟨⟨ends.1.1, .inl ends.1.2⟩, ends.2⟩
  have activates : Keeps stopped ((safetyGateway svc).hook .onActivate) := by
    refine keeps_bind (keeps_iff.mpr fun rt ends => ends) fun _ => ?_
    refine keeps_bind (keeps_iff.mpr fun rt ends => ends) fun _ => ?_
    exact keeps_bind (keeps_iff.mpr fun rt ends => ends) fun _ => keeps_pure _
  have configures : Keeps stopped ((safetyGateway svc).hook .onConfigure) := by
    refine keeps_iff.mpr fun rt ends => ?_
    change stopped (onConfigure svc rt).2
    rcases onConfigure_holds svc holds ends.1.1 with ⟨e, raises⟩ | ⟨c, answers, engaged⟩
    · rw [raises]
      exact ends
    · rw [answers]
      exact ⟨⟨ends.1.1, engaged⟩, ends.2⟩
  rcases held with engaged | down
  · refine done (activate_holds (fun h => ?_) ⟨⟨file, engaged⟩, parked⟩)
    cases h with
    | onConfigure => exact configures
    | onActivate => exact activates
    | onDeactivate => exact keeps_pure _
    | onCleanup => exact keeps_pure _
  · rcases onConfigure_holds svc holds file with ⟨e, raises⟩ | ⟨c, answers, engaged⟩
    · have failed : (safetyGateway svc).hook .onConfigure m.rt = (.error e, m.rt) := raises
      have stays : activate (safetyGateway svc) m = (false, Managed.setRecord
          { m with calls := m.calls ++ [⟨"safety_gateway", .onConfigure, m.state, false⟩] } "safety_gateway"
          fun r => { r with lastError := e.describe }) := by
        have fresh : m.state (safetyGateway svc).name = .unconfigured := down
        simp [activate, configure, guardTo, guardHook, runHook, fresh, failed]
        rfl
      rw [stays]
      refine ⟨⟨file, .inr ?_⟩, parked⟩
      simpa [Managed.state, Managed.setRecord] using down
    · exact done (activate_fresh_holds down answers ⟨⟨file, engaged⟩, parked⟩ activates)

private theorem held_carries (holds : LatchHolds latch) : Carries svc (droidServices svc) (Held latch) where
  beside _ _ _ _ held := held
  connect := keeps_iff.mpr fun _ held => held
  activate s member m before := by
    by_cases gateway : s.name = "safety_gateway"
    · have same : (droidServices svc).find s.name = some s := Registry.find_of_mem member
      rw [gateway, find_safetyGateway] at same
      obtain rfl := Option.some.inj same
      exact held_gateway holds before
    · obtain ⟨state, file, controller, machine⟩ := activate_beside member gateway m
      refine ⟨⟨file.trans before.1.1, ?_⟩, by rw [machine]; exact before.2⟩
      rw [controller, state]
      exact before.1.2

/-- No droid moves after a boot that finds a file that holds. -/
theorem inhibits_of_holds (holds : LatchHolds latch) : Inhibits latch := by
  intro ε svc now env allowed
  have before : Before (Held latch) ({ rt := newRuntime now latch env } : Brain ε) := by
    refine ⟨⟨rfl, .inr rfl⟩, ?_⟩
    change DroidState.poweredOff ∉ DroidState.motionAllowedFrom
    decide
  obtain ⟨m, held, fit⟩ := (held_carries holds).boot_ends (find_safetyGateway svc) before allowed
  have registered : (droidServices svc).has "safety_gateway" = true := droidServices_hasSafety svc
  have active := critical_active fit.active (by decide) registered
  rcases held.2 with engaged | down
  · rw [grants_no_estop fit.granted] at engaged
    cases engaged
  · rw [down] at active
    cases active

end

/-! A file that does not. -/

private theorem loads_of_not_holds {latch : LatchFile} (fails : ¬ LatchHolds latch) {text : PyText}
    {body : DroidOs.Body.Package.LoadedBody} {minimum : PyFloat} (rt : Runtime Unit) (file : rt.latch = latch) :
    loadLatch (spotless text body minimum) rt = (.ok (), rt) := by
  unfold loadLatch
  rw [reads_bind, file]
  cases latch with
  | missing => rfl
  | unreadable => rfl
  | malformed => rfl
  | undecodable => exact absurd trivial fails
  | document v =>
    simp only [LatchHolds, not_forall] at fails
    obtain ⟨flag, flagged, clear⟩ := fails
    have answers : (ofExcept (v.get "estop_engaged" .none) : Proc (Runtime Unit) Exn PyVal) rt = (.ok flag, rt) := by
      rw [ofExcept_run, flagged]
    dsimp only
    rw [bind_ok answers, if_neg clear]
    rfl

/-- A file inhibits the next boot exactly when loading it engages the e-stop or raises. -/
theorem inhibits_iff (latch : LatchFile) : Inhibits latch ↔ LatchHolds latch := by
  refine ⟨fun inhibits => ?_, inhibits_of_holds⟩
  by_contra fails
  have limit : wheeled.limits.batteryMotionMinimum .ascii = .ok 20 := by rfl
  exact inhibits (spotless .ascii wheeled 20) 0 () (spotless_boots (loads_of_not_holds fails) rfl limit)

/-- What is asked of the file after these writes. -/
def StopSurvives (first : LatchFile) (saves : List Save) : Prop :=
  Stopped (completedCalls saves) ∨ Unsound (fileAfter first saves) → Inhibits (fileAfter first saves)

/-- A stop, or a file that is no clear record, survives these writes exactly when the file that
they leave holds. -/
theorem stop_survives_iff (first : LatchFile) (saves : List Save) :
    StopSurvives first saves ↔
      (Stopped (completedCalls saves) ∨ Unsound (fileAfter first saves) → LatchHolds (fileAfter first saves)) := by
  rw [StopSurvives, inhibits_iff]

/-- A droid that is ready after a boot shows that the file does not inhibit. -/
private theorem not_inhibits_of_ready {ε : Type} {svc : Services ε} {now : ℚ} {latch : LatchFile} {env : ε}
    (ready : (booted svc (newRuntime now latch env)).rt.machine.state = .ready) : ¬ Inhibits latch := by
  intro inhibits
  have parked := inhibits svc now env
  rw [ready] at parked
  exact absurd parked (by decide)

/-! A second stop whose write a crash interrupts. -/

def interruptedStop : List Save :=
  [⟨true, "operator", 1, .whole, true⟩, ⟨true, "operator again", 2, .cut, false⟩]

/-- The first stop is lost with the record that the second one was replacing. -/
theorem interrupted_stop_lost : Stopped (completedCalls interruptedStop) ∧
    fileAfter .missing interruptedStop = .malformed ∧
    (booted (simulated hallwayDroid) (newRuntime 3 .malformed hallwayWorld)).rt.machine.state = .ready ∧
    ¬ StopSurvives .missing interruptedStop := by
  have calls : completedCalls interruptedStop = [.engaged] := by decide +kernel
  have stopped : Stopped (completedCalls interruptedStop) := by
    rw [calls]
    exact ⟨[], .engaged, [], rfl, rfl, by simp⟩
  have file : fileAfter .missing interruptedStop = .malformed := rfl
  have ready : (booted (simulated hallwayDroid) (newRuntime 3 .malformed hallwayWorld)).rt.machine.state = .ready := by
    decide +kernel
  refine ⟨stopped, file, ready, fun survives => ?_⟩
  rw [StopSurvives, file] at survives
  exact not_inhibits_of_ready ready (survives (.inl stopped))

end DroidOs.System.LatchContents
