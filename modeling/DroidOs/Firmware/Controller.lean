/- GID: DroidOs/Firmware/Controller
   generality: I
   source: firmware/safety-controller/src/main.c
   digest: The control loop of the independent safety controller, one iteration at a time. -/

import DroidOs.Firmware.Protocol

set_option autoImplicit false
set_option relaxedAutoImplicit false

namespace DroidOs.Firmware.Controller

open Protocol

def stateTxHz : BitVec 32 := 50#32
def hostTimeoutMs : BitVec 32 := 100#32
def overtempC : Int := 85

/-- `safety_t` with the level last given to `hal_contactor_set`. The ghost field
`safePending` records that `enter_safe_state` has run and that no ENABLE_POWER
frame has been handled since; no decision reads it. -/
structure Safety where
  estopLatched : Bool := false
  powerRequested : Bool := false
  powerOn : Bool := false
  faults : BitVec 8 := 0#8
  lastHostMs : BitVec 32 := 0#32
  contactor : Bool := false
  safePending : Bool := false

def enterSafeState (faultBit : BitVec 8) (s : Safety) : Safety :=
  { s with
    faults := s.faults ||| faultBit
    powerOn := false
    contactor := false
    safePending := true }

/-- `now` is the reading of `hal_millis` that the last conjunct takes. -/
def mayEnablePower (now : BitVec 32) (s : Safety) : Bool :=
  !s.estopLatched && s.faults == 0#8 && (now - s.lastHostMs).ult hostTimeoutMs

/-- The bits that MSG_CLEAR_FAULT takes away; FAULT_ESTOP is not one of them. -/
def clearableFaults : BitVec 8 :=
  faultOvertemp ||| faultJointLimit ||| faultWatchdog ||| faultHostSilent

/-- The `switch` of `on_host_message`, after the heartbeat has been noted. -/
def dispatch (f : Frame) (s : Safety) : Safety :=
  if f.type = msgHeartbeat then s
  else if f.type = msgEnablePower then
    { s with powerRequested := true, safePending := false }
  else if f.type = msgDisablePower then
    { s with powerRequested := false, powerOn := false, contactor := false }
  else if f.type = msgClearFault then
    { s with faults := s.faults &&& ~~~clearableFaults }
  else if f.type = msgReportFault then
    if f.len.toNat ≥ 1 then enterSafeState (f.payload 0) s else s
  else
    -- unknown or invalid command: the safe state without a fault bit
    enterSafeState 0#8 s

def onHostMessage (f : Frame) (now : BitVec 32) (s : Safety) : Safety :=
  dispatch f { s with lastHostMs := now }

/-- The shape of every poll: `if (cond) enter_safe_state(bit)`. -/
def enterIf (cond : Bool) (faultBit : BitVec 8) (s : Safety) : Safety :=
  if cond then enterSafeState faultBit s else s

def pollHardwareFaults (hw : Hardware) (now : BitVec 32) (s : Safety) : Safety :=
  let s := if hw.estopAsserted then { s with estopLatched := true } else s
  let s := enterIf hw.estopAsserted faultEstop s
  let s := enterIf (hw.maxMotorTempC ≥ overtempC) faultOvertemp s
  let s := enterIf hw.jointLimitTripped faultJointLimit s
  enterIf (hostTimeoutMs.ule (now - s.lastHostMs)) faultHostSilent s

def updateContactor (now : BitVec 32) (s : Safety) : Safety :=
  if s.powerRequested && mayEnablePower now s then
    { s with powerOn := true, contactor := true }
  else
    { s with powerOn := false, contactor := false }

/-- The payload of the STATE frame. -/
def statePayload (now : BitVec 32) (s : Safety) : BitVec 8 × BitVec 8 :=
  let flags := stateWatchdogOk
  let flags := if (now - s.lastHostMs).ult hostTimeoutMs then flags ||| stateAlive else flags
  let flags := if s.powerOn then flags ||| statePowerOn else flags
  (flags, s.faults)

/-- The locals of `main`, with the STATE payloads sent so far, oldest first. -/
structure Main where
  safety : Safety
  nextStateTx : BitVec 32 := 0#32
  sent : List (BitVec 8 × BitVec 8) := []

/-- What one iteration of the loop reads from the board. Every call of
`hal_millis` has its own reading, in the order of the calls. -/
structure Iteration where
  frames : List (Frame × BitVec 32)
  hw : Hardware
  pollMs : BitVec 32
  updateMs : BitVec 32
  nowMs : BitVec 32
  sendMs : BitVec 32

def statePeriod : BitVec 32 := 1000#32 / stateTxHz

/-- `main` up to its loop: the contactor opens and the reset counts as contact. -/
def reset (resetMs : BitVec 32) : Main :=
  { safety := { lastHostMs := resetMs } }

/-- The safety part of one iteration, before `update_contactor`. -/
def receiveAndPoll (i : Iteration) (s : Safety) : Safety :=
  pollHardwareFaults i.hw i.pollMs
    (i.frames.foldl (fun s fm => onHostMessage fm.1 fm.2 s) s)

/-- One pass through the body of the `for` loop. -/
def iterate (m : Main) (i : Iteration) : Main :=
  let s := updateContactor i.updateMs (receiveAndPoll i m.safety)
  if m.nextStateTx.ule i.nowMs then
    { safety := s, nextStateTx := i.nowMs + statePeriod,
      sent := m.sent ++ [statePayload i.sendMs s] }
  else
    { m with safety := s }

/-- The loop from reset through the given iterations. -/
def run (resetMs : BitVec 32) (its : List Iteration) : Main :=
  its.foldl iterate (reset resetMs)

@[simp] theorem enterIf_powerRequested (c : Bool) (bit : BitVec 8) (s : Safety) :
    (enterIf c bit s).powerRequested = s.powerRequested := by
  cases c <;> rfl

@[simp] theorem enterIf_estopLatched (c : Bool) (bit : BitVec 8) (s : Safety) :
    (enterIf c bit s).estopLatched = s.estopLatched := by
  cases c <;> rfl

@[simp] theorem enterIf_lastHostMs (c : Bool) (bit : BitVec 8) (s : Safety) :
    (enterIf c bit s).lastHostMs = s.lastHostMs := by
  cases c <;> rfl

@[simp] theorem enterIf_safePending (c : Bool) (bit : BitVec 8) (s : Safety) :
    (enterIf c bit s).safePending = (s.safePending || c) := by
  cases c <;> simp [enterIf, enterSafeState]

@[simp] theorem enterIf_faults (c : Bool) (bit : BitVec 8) (s : Safety) (n : Nat) :
    (enterIf c bit s).faults.getLsbD n = (s.faults.getLsbD n || (c && bit.getLsbD n)) := by
  cases c <;> simp [enterIf, enterSafeState]

theorem run_snoc (resetMs : BitVec 32) (its : List Iteration) (i : Iteration) :
    run resetMs (its ++ [i]) = iterate (run resetMs its) i := by
  simp only [run, List.foldl_append, List.foldl_cons, List.foldl_nil]

theorem iterate_safety (m : Main) (i : Iteration) :
    (iterate m i).safety = updateContactor i.updateMs (receiveAndPoll i m.safety) := by
  unfold iterate
  split <;> rfl

end DroidOs.Firmware.Controller
