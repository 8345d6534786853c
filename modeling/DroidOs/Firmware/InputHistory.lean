/- GID: DroidOs/Firmware/InputHistory
   generality: I
   digest: The controller's flags as facts about the chronological history of its inputs. -/

import DroidOs.Firmware.Controller
import DroidOs.Lib.History

set_option autoImplicit false
set_option relaxedAutoImplicit false

namespace DroidOs.Firmware.InputHistory

open Protocol Controller
open DroidOs.Lib.History

/-- One input the loop acts on before it recomputes the contactor. -/
inductive Input where
  | frame (f : Frame) (ms : BitVec 32)
  | poll (hw : Hardware) (ms : BitVec 32)

def iterationInputs (i : Iteration) : List Input :=
  i.frames.map (fun fm => Input.frame fm.1 fm.2) ++ [Input.poll i.hw i.pollMs]

/-- All inputs of a run, in the order in which the loop handles them. -/
def inputs (its : List Iteration) : List Input := its.flatMap iterationInputs

/-- The handler of one input. -/
def step (s : Safety) : Input → Safety
  | .frame f ms => onHostMessage f ms s
  | .poll hw ms => pollHardwareFaults hw ms s

def isFrame (t : BitVec 8) : Input → Prop
  | .frame f _ => f.type = t
  | .poll _ _ => False

/-- The reading taken for the last frame, or the one taken at reset. -/
def lastHost (resetMs : BitVec 32) (h : List Input) : BitVec 32 :=
  h.foldl (fun last x => match x with
    | .frame _ ms => ms
    | .poll _ _ => last) resetMs

/-- At reading `ms` the last frame is HOST_TIMEOUT_MS old or older. -/
def silentAt (resetMs : BitVec 32) (h : List Input) (ms : BitVec 32) : Prop :=
  hostTimeoutMs.ule (ms - lastHost resetMs h) = true

/-- Fault bit `n` is raised by the input that follows the history. -/
def raises (resetMs : BitVec 32) (n : Nat) (past : List Input) : Input → Prop
  | .frame f _ => f.type = msgReportFault ∧ 1 ≤ f.len.toNat ∧ (f.payload 0).getLsbD n = true
  | .poll hw ms =>
      (hw.estopAsserted = true ∧ faultEstop.getLsbD n = true) ∨
      (overtempC ≤ hw.maxMotorTempC ∧ faultOvertemp.getLsbD n = true) ∨
      (hw.jointLimitTripped = true ∧ faultJointLimit.getLsbD n = true) ∨
      (silentAt resetMs past ms ∧ faultHostSilent.getLsbD n = true)

/-- The input that follows the history makes the controller enter its safe state. -/
def entersSafeState (resetMs : BitVec 32) (past : List Input) : Input → Prop
  | .frame f _ => (f.type = msgReportFault ∧ 1 ≤ f.len.toNat) ∨
      f.type ∉ [msgHeartbeat, msgEnablePower, msgDisablePower, msgClearFault, msgReportFault]
  | .poll hw ms => hw.estopAsserted = true ∨ overtempC ≤ hw.maxMotorTempC ∨
      hw.jointLimitTripped = true ∨ silentAt resetMs past ms

/-- The host asked for power and has not withdrawn the request. -/
def Requested : List Input → Prop :=
  Since (fun _ => isFrame msgEnablePower) (isFrame msgDisablePower)

/-- The physical e-stop has been read as asserted. -/
def EstopSeen : List Input → Prop :=
  Once (fun x => ∃ hw ms, x = .poll hw ms ∧ hw.estopAsserted = true)

/-- Fault bit `n` was raised and no CLEAR_FAULT that covers it came after. -/
def Stands (resetMs : BitVec 32) (n : Nat) : List Input → Prop :=
  Since (raises resetMs n) (fun x => isFrame msgClearFault x ∧ clearableFaults.getLsbD n = true)

/-- The safe state was entered and no ENABLE_POWER came after. -/
def SafePending (resetMs : BitVec 32) : List Input → Prop :=
  Since (entersSafeState resetMs) (isFrame msgEnablePower)

/-- The five decision fields and the ghost say what the history says. -/
structure Reflects (resetMs : BitVec 32) (h : List Input) (s : Safety) : Prop where
  requested : s.powerRequested = true ↔ Requested h
  latched : s.estopLatched = true ↔ EstopSeen h
  faults : ∀ n, s.faults.getLsbD n = true ↔ Stands resetMs n h
  lastHost : s.lastHostMs = lastHost resetMs h
  pending : s.safePending = true ↔ SafePending resetMs h

theorem lastHost_snoc (resetMs : BitVec 32) (h : List Input) (x : Input) :
    lastHost resetMs (h ++ [x]) = match x with
      | .frame _ ms => ms
      | .poll _ _ => lastHost resetMs h := by
  unfold lastHost
  rw [List.foldl_append]
  rfl

theorem reflects_reset (resetMs : BitVec 32) : Reflects resetMs [] (reset resetMs).safety where
  requested := by simp [reset, Requested]
  latched := by simp [reset, EstopSeen]
  faults n := by simp [reset, Stands]
  lastHost := rfl
  pending := by simp [reset, SafePending]

/-- What handling a frame does, as a statement about each field. -/
private theorem frame_fields (f : Frame) (ms : BitVec 32) (s : Safety) :
    ((onHostMessage f ms s).powerRequested = true ↔
      f.type = msgEnablePower ∨ (s.powerRequested = true ∧ f.type ≠ msgDisablePower)) ∧
    (onHostMessage f ms s).estopLatched = s.estopLatched ∧
    (∀ n, (onHostMessage f ms s).faults.getLsbD n = true ↔
      raises 0 n [] (.frame f ms) ∨ (s.faults.getLsbD n = true ∧
        ¬ (f.type = msgClearFault ∧ clearableFaults.getLsbD n = true))) ∧
    (onHostMessage f ms s).lastHostMs = ms ∧
    ((onHostMessage f ms s).safePending = true ↔
      entersSafeState 0 [] (.frame f ms) ∨ (s.safePending = true ∧ f.type ≠ msgEnablePower)) := by
  unfold onHostMessage dispatch
  split_ifs with heartbeat enable disable clear report long
  · simp [raises, entersSafeState, heartbeat, msgHeartbeat, msgEnablePower, msgDisablePower,
      msgClearFault, msgReportFault]
  · simp [raises, entersSafeState, enable, msgHeartbeat, msgEnablePower, msgDisablePower,
      msgClearFault, msgReportFault]
  · simp [raises, entersSafeState, disable, msgHeartbeat, msgEnablePower, msgDisablePower,
      msgClearFault, msgReportFault]
  · refine ⟨?_, rfl, ?_, rfl, ?_⟩
    · simp [clear, msgEnablePower, msgDisablePower, msgClearFault]
    · intro n
      simp only [raises, clear, msgReportFault, msgClearFault, BitVec.getLsbD_and,
        BitVec.getLsbD_not, Bool.and_eq_true, Bool.not_eq_true']
      by_cases standing : s.faults.getLsbD n = true
      · simp [standing, BitVec.lt_of_getLsbD standing]
      · simp [standing]
    · simp [entersSafeState, clear, msgHeartbeat, msgEnablePower, msgDisablePower,
        msgClearFault, msgReportFault]
  · have positive : 1 ≤ f.len.toNat := long
    refine ⟨?_, rfl, ?_, rfl, ?_⟩
    · simp [enterSafeState, report, msgEnablePower, msgDisablePower, msgReportFault]
    · intro n
      simp only [enterSafeState, raises, report, positive, msgClearFault, msgReportFault,
        BitVec.getLsbD_or, Bool.or_eq_true]
      simp [or_comm]
    · simp [enterSafeState, entersSafeState, report, positive]
  · have short : ¬ 1 ≤ f.len.toNat := long
    simp [raises, entersSafeState, report, short, msgHeartbeat, msgEnablePower, msgDisablePower,
      msgClearFault, msgReportFault]
  · refine ⟨?_, rfl, ?_, rfl, ?_⟩
    · simp [enterSafeState, enable, disable]
    · intro n
      simp [enterSafeState, raises, report, clear]
    · simp [enterSafeState, entersSafeState, heartbeat, enable, disable, clear, report]

/-- What one poll does, as a statement about each field. -/
private theorem poll_fields (hw : Hardware) (ms : BitVec 32) (s : Safety) :
    (pollHardwareFaults hw ms s).powerRequested = s.powerRequested ∧
    (pollHardwareFaults hw ms s).estopLatched = (s.estopLatched || hw.estopAsserted) ∧
    (∀ n, (pollHardwareFaults hw ms s).faults.getLsbD n = true ↔
      raises s.lastHostMs n [] (.poll hw ms) ∨ s.faults.getLsbD n = true) ∧
    (pollHardwareFaults hw ms s).lastHostMs = s.lastHostMs ∧
    ((pollHardwareFaults hw ms s).safePending = true ↔
      entersSafeState s.lastHostMs [] (.poll hw ms) ∨ s.safePending = true) := by
  have latch (b : Bool) : (if b then { s with estopLatched := true } else s) =
      { s with estopLatched := s.estopLatched || b } := by
    cases b <;> simp
  simp only [pollHardwareFaults, raises, entersSafeState, silentAt, InputHistory.lastHost,
    latch, List.foldl_nil]
  refine ⟨by simp, by simp, fun n => ?_, by simp, ?_⟩
  · simp only [enterIf_faults, enterIf_lastHostMs, Bool.or_eq_true, Bool.and_eq_true,
      decide_eq_true_eq]
    tauto
  · simp only [enterIf_safePending, enterIf_lastHostMs, Bool.or_eq_true, decide_eq_true_eq]
    tauto

private theorem raises_past (resetMs : BitVec 32) (n : Nat) (h : List Input) (x : Input) :
    raises resetMs n h x ↔ raises (lastHost resetMs h) n [] x := by
  cases x <;> rfl

private theorem enters_past (resetMs : BitVec 32) (h : List Input) (x : Input) :
    entersSafeState resetMs h x ↔ entersSafeState (lastHost resetMs h) [] x := by
  cases x <;> rfl

/-- One input keeps the fields in step with the history. -/
theorem reflects_step {resetMs : BitVec 32} {h : List Input} {s : Safety}
    (agree : Reflects resetMs h s) (x : Input) : Reflects resetMs (h ++ [x]) (step s x) := by
  cases x with
  | frame f ms =>
    obtain ⟨req, latch, flt, last, pend⟩ := frame_fields f ms s
    refine ⟨?_, ?_, fun n => ?_, ?_, ?_⟩
    · rw [Requested, since_snoc, ← Requested, ← agree.requested]
      exact req
    · rw [EstopSeen, once_snoc, ← EstopSeen, ← agree.latched]
      simp [step, latch]
    · rw [Stands, since_snoc, ← Stands, ← agree.faults]
      exact flt n
    · rw [lastHost_snoc]
      exact last
    · rw [SafePending, since_snoc, ← SafePending, ← agree.pending]
      exact pend
  | poll hw ms =>
    obtain ⟨req, latch, flt, last, pend⟩ := poll_fields hw ms s
    refine ⟨?_, ?_, fun n => ?_, ?_, ?_⟩
    · rw [Requested, since_snoc, ← Requested, ← agree.requested]
      simp [step, req, isFrame]
    · rw [EstopSeen, once_snoc, ← EstopSeen, ← agree.latched]
      simp [step, latch]
    · rw [Stands, since_snoc, ← Stands, ← agree.faults, raises_past, ← agree.lastHost]
      simpa [step, isFrame] using flt n
    · rw [lastHost_snoc, ← agree.lastHost]
      exact last
    · rw [SafePending, since_snoc, ← SafePending, ← agree.pending, enters_past, ← agree.lastHost]
      simpa [step, isFrame] using pend

private theorem reflects_steps {resetMs : BitVec 32} {h : List Input} {s : Safety}
    (agree : Reflects resetMs h s) (xs : List Input) :
    Reflects resetMs (h ++ xs) (xs.foldl step s) := by
  induction xs generalizing h s with
  | nil => simpa using agree
  | cons x xs ih => simpa using ih (reflects_step agree x)

theorem receiveAndPoll_eq (i : Iteration) (s : Safety) :
    receiveAndPoll i s = (iterationInputs i).foldl step s := by
  simp [receiveAndPoll, iterationInputs, List.foldl_map, step]

private theorem reflects_update {resetMs : BitVec 32} {h : List Input} {s : Safety}
    (agree : Reflects resetMs h s) (ms : BitVec 32) :
    Reflects resetMs h (updateContactor ms s) := by
  unfold updateContactor
  split <;> exact ⟨agree.requested, agree.latched, agree.faults, agree.lastHost, agree.pending⟩

@[simp] theorem inputs_snoc (its : List Iteration) (i : Iteration) :
    inputs (its ++ [i]) = inputs its ++ iterationInputs i := by
  simp [inputs]

/-- After every run from reset the fields say what the history of its inputs says. -/
theorem reflects_run (resetMs : BitVec 32) (its : List Iteration) :
    Reflects resetMs (inputs its) (run resetMs its).safety := by
  induction its using List.reverseRecOn with
  | nil => exact reflects_reset resetMs
  | append_singleton its i ih =>
    rw [run_snoc, iterate_safety, receiveAndPoll_eq, inputs_snoc]
    exact reflects_update (reflects_steps ih _) _

/-- The state on which the contactor of the last iteration is decided. -/
theorem reflects_decision (resetMs : BitVec 32) (its : List Iteration) (i : Iteration) :
    Reflects resetMs (inputs (its ++ [i])) (receiveAndPoll i (run resetMs its).safety) := by
  rw [receiveAndPoll_eq, inputs_snoc]
  exact reflects_steps (reflects_run resetMs its) _

end DroidOs.Firmware.InputHistory
