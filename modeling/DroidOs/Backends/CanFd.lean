/- GID: DroidOs/Backends/CanFd
   generality: I
   source: src/droidos/backends/canfd_hardware.py, src/droidos/backends/base.py
   digest: The physical body over a CAN-FD bus: set-point frames, telemetry, battery and power. -/

import DroidOs.Core.Context

set_option autoImplicit false
set_option relaxedAutoImplicit false

namespace DroidOs.Backends.CanFd

open DroidOs.Lib.Procedure
open DroidOs.Core.Values DroidOs.Core.Context
open DroidOs.Body.Package

/-! The 4-byte floats of `struct`, format `<f`. -/

private def littleEndian : List UInt8 → Nat
  | [] => 0
  | byte :: bytes => byte.toNat + 256 * littleEndian bytes

private def bytesOf : Nat → Nat → List UInt8
  | 0, _ => []
  | width + 1, n => UInt8.ofNat (n % 256) :: bytesOf width (n / 256)

/-- The value of a binary32 word. -/
def fromBits (bits : Nat) : PyFloat :=
  let sign : ℚ := if bits / 2 ^ 31 % 2 = 1 then -1 else 1
  let exponent : Nat := bits / 2 ^ 23 % 256
  let mantissa : Nat := bits % 2 ^ 23
  if exponent = 255 then if mantissa = 0 then .inf (bits / 2 ^ 31 % 2 = 1) else .nan
  else if exponent = 0 then .fin (sign * (mantissa : ℚ) * (2 : ℚ) ^ (-149 : ℤ))
  else .fin (sign * ((2 ^ 23 + mantissa : Nat) : ℚ) * (2 : ℚ) ^ ((exponent : ℤ) - 150))

/-- `struct.unpack("<f", data)`. -/
def unpackFloat (data : List UInt8) : PyFloat := fromBits (littleEndian data)

/-- The exponent of the power of two at or below a positive number. -/
def exponentOf (q : ℚ) : ℤ :=
  let near : ℤ := (Nat.log2 q.num.natAbs : ℤ) - Nat.log2 q.den
  if (2 : ℚ) ^ near ≤ q then near else near - 1

/-- The word without its sign that is nearest to `q`, halves to even; its exponent field
may come out too large. -/
def magnitudeBits (q : ℚ) : Nat :=
  let exponent := max (exponentOf q) (-126)
  let scaled := q * (2 : ℚ) ^ (23 - exponent)
  let below := ⌊scaled⌋
  let rest := scaled - below
  let rounded := if rest < 1 / 2 ∨ (rest = 1 / 2 ∧ below % 2 = 0) then below else below + 1
  ((exponent + 126) * 2 ^ 23 + rounded).toNat

/-- `struct.pack("<f", x)`. -/
def packFloat : PyFloat → Except Exn (List UInt8)
  | .nan => .ok (bytesOf 4 (255 * 2 ^ 23 + 2 ^ 22))
  | .inf negative => .ok (bytesOf 4 ((if negative then 2 ^ 31 else 0) + 255 * 2 ^ 23))
  | .fin q =>
    let bits := if q = 0 then 0 else magnitudeBits |q|
    if bits < 255 * 2 ^ 23 then .ok (bytesOf 4 ((if q < 0 then 2 ^ 31 else 0) + bits))
    else .error ⟨.other "OverflowError", "float too large to pack with f format"⟩

example : (packFloat 1).toOption = some [0, 0, 128, 63] ∧ unpackFloat [0, 0, 128, 63] = 1 := by
  decide +kernel

/-! The bus. -/

/-- `can.Message`, by its identifier and its data. -/
structure Message where
  arbitrationId : Nat
  data : List UInt8
  deriving DecidableEq

/-- An open bus: what was sent on it, and what has arrived and is not yet received. -/
structure Bus where
  sent : List Message := []
  inbox : List Message := []
  deriving DecidableEq

/-- The python-can package: whether it is installed, why a bus does not open, what arrives while
one is opened, why one does not close, and why it does not take a message. -/
structure PythonCan where
  installed : Bool := true
  refusesBus : Option String := none
  greeting : List Message := []
  refusesShutdown : Option Exn := none
  refuses : Message → Option String := fun _ => none

def baseCmdId : Nat := 0x200
def baseStateId : Nat := 0x300
def batteryStateId : Nat := 0x3F0
def safetyStateId : Nat := 0x010

/-! The backend. -/

/-- What a joint controller last reported. -/
structure Telemetry where
  position : PyFloat := 0
  velocity : PyFloat := 0
  temperatureC : PyFloat := 25
  currentA : PyFloat := 0

/-- `CanFdBackend`. -/
structure CanFdBackend where
  bus : Option Bus := none
  actuators : List String
  telemetry : String → Telemetry := fun _ => {}
  battery : BatteryState := { percent := 100 }
  pose : Pose := {}
  power : Bool := false
  lastRecv : ℚ := 0

namespace CanFdBackend

/-- `__init__`. -/
def new (body : LoadedBody) : CanFdBackend where
  actuators :=
    if body.manifest.requiredActuators.isEmpty then ["drive"] else body.manifest.requiredActuators

variable (can : PythonCan) (b : CanFdBackend)

/-- `_decode`. -/
def decode (msg : Message) : CanFdBackend :=
  let aid := msg.arbitrationId
  if baseStateId ≤ aid ∧ aid < baseStateId + b.actuators.length then
    if 16 ≤ msg.data.length then
      let name := b.actuators.getD (aid - baseStateId) ""
      let field (i : Nat) : PyFloat := unpackFloat ((msg.data.drop (4 * i)).take 4)
      let frame : Telemetry :=
        { position := field 0, velocity := field 1, temperatureC := field 2, currentA := field 3 }
      { b with telemetry := Function.update b.telemetry name frame }
    else b
  else if aid = batteryStateId ∧ 8 ≤ msg.data.length then
    { b with battery := { percent := unpackFloat (msg.data.take 4) } }
  else if aid = safetyStateId ∧ 1 ≤ msg.data.length then
    { b with power := (msg.data.headD 0) % 2 = 1 }
  else b

/-- `_drain`: receive what has arrived. -/
def drain (now : ℚ) : CanFdBackend :=
  match b.bus with
  | none => b
  | some bus => bus.inbox.foldl (fun b msg => decode { b with lastRecv := now } msg)
      { b with bus := some { bus with inbox := [] } }

/-- `connect`. -/
def connect (now : ℚ) : Except Exn Unit × CanFdBackend :=
  if !can.installed then
    (.error ⟨.backendError, "python-can is required for the CAN-FD backend. Install it " ++
      "(`pip install python-can`) or use the simulation backend."⟩, b)
  else match can.refusesBus with
    | some reason => (.error ⟨.backendError, "cannot open CAN-FD bus can0: " ++ reason⟩, b)
    | none => (.ok (), drain { b with bus := some { inbox := can.greeting }, power := false } now)

/-- `shutdown`. The bus is let go also when closing it raises; the power is not. -/
def shutdown : Except Exn Unit × CanFdBackend :=
  match b.bus, can.refusesShutdown with
  | some _, some e => (.error e, { b with bus := none })
  | _, _ => (.ok (), { b with bus := none, power := false })

def setPower (enabled : Bool) : CanFdBackend := { b with power := enabled }

/-- `self._index.get(name)`, with the name; of a repeated name the last index counts. -/
def index : PyVal → Option (String × Nat)
  | .str name =>
    if name ∈ b.actuators then some (name, b.actuators.length - 1 - b.actuators.reverse.idxOf name)
    else none
  | _ => none

/-- `command_velocity`. -/
def commandVelocity (now : ℚ) : Except Exn CanFdBackend :=
  match b.bus with
  | none => .error ⟨.backendError, "CAN-FD bus not connected"⟩
  | some _ => .ok (b.drain now)

/-- The set-point frame of one joint. -/
def setPoint (idx : Nat) (value : PyFloat) : Except Exn Message := do
  return { arbitrationId := baseCmdId + idx, data := ← packFloat value }

/-- The loop of `command_joints` over the targets. -/
def sendTargets (bus : Bus) : List (PyVal × PyFloat) → Except Exn Unit × Bus
  | [] => (.ok (), bus)
  | (name, value) :: targets => match b.index name with
    | none => sendTargets bus targets
    | some (joint, idx) => match setPoint idx value with
      | .error e => (.error e, bus)
      | .ok msg => match can.refuses msg with
        | some reason => (.error ⟨.backendError, "CAN send failed for " ++ joint ++ ": " ++ reason⟩, bus)
        | none => sendTargets { bus with sent := bus.sent ++ [msg] } targets

/-- `command_joints`. -/
def commandJoints (targets : List (PyVal × PyFloat)) : Except Exn Unit × CanFdBackend :=
  match b.bus with
  | none => (.error ⟨.backendError, "CAN-FD bus not connected"⟩, b)
  | some bus =>
    if !can.installed then (.error ⟨.other "ModuleNotFoundError", "No module named 'can'"⟩, b)
    else ((b.sendTargets can bus targets).1, { b with bus := some (b.sendTargets can bus targets).2 })

/-! Reads. -/

/-- What the backend knows of an actuator; it never sets a fault code. -/
def actuatorState (name : String) : ActuatorState where
  name := name
  temperatureC := (b.telemetry name).temperatureC

/-- `read_all_actuators`, one drain for each actuator. -/
def readAllActuators (now : ℚ) : List ActuatorState × CanFdBackend :=
  let b := if b.actuators.isEmpty then b else b.drain now
  (b.actuators.map b.actuatorState, b)

/-- `read_sensor`: a sensor answers while anything was received within the last second. -/
def readSensor (body : LoadedBody) (now : ℚ) (sensorId : String) : SensorReading :=
  let spec := body.sensors.find? fun s => s.id = sensorId
  { sensorId := sensorId
    type := (spec.map SensorSpec.type).getD "unknown"
    ok := now - b.lastRecv < 1
    rateHz := (spec.map SensorSpec.rateHz).getD 0 }

/-- `battery`. -/
def readBattery (now : ℚ) : BatteryState × CanFdBackend := ((b.drain now).battery, b.drain now)

/-! What receiving leaves as it is. -/

private theorem decode_frame (msg : Message) : (b.decode msg).pose = b.pose ∧ (b.decode msg).bus = b.bus ∧
    (b.decode msg).actuators = b.actuators := by
  unfold decode
  dsimp only
  split
  · split <;> exact ⟨rfl, rfl, rfl⟩
  split
  · exact ⟨rfl, rfl, rfl⟩
  split <;> exact ⟨rfl, rfl, rfl⟩

theorem decode_actuators (msg : Message) : (b.decode msg).actuators = b.actuators := (decode_frame b msg).2.2

private theorem receive_frame (now : ℚ) (msgs : List Message) :
    let after := msgs.foldl (fun b msg => decode { b with lastRecv := now } msg) b
    after.pose = b.pose ∧ after.bus = b.bus ∧ after.actuators = b.actuators := by
  induction msgs generalizing b with
  | nil => exact ⟨rfl, rfl, rfl⟩
  | cons msg msgs ih =>
    obtain ⟨pose, bus, actuators⟩ := ih (decode { b with lastRecv := now } msg)
    obtain ⟨pose', bus', actuators'⟩ := decode_frame { b with lastRecv := now } msg
    exact ⟨pose.trans pose', bus.trans bus', actuators.trans actuators'⟩

variable (now : ℚ)

theorem drain_pose : (b.drain now).pose = b.pose := by
  unfold drain
  cases opened : b.bus with
  | none => rfl
  | some bus => exact (receive_frame _ now bus.inbox).1

/-- The bus stays open or closed, and its inbox is empty. -/
theorem drain_bus : (b.drain now).bus = b.bus.map fun bus => { bus with inbox := [] } := by
  unfold drain
  cases opened : b.bus with
  | none => exact opened
  | some bus => exact (receive_frame _ now bus.inbox).2.1

theorem drain_actuators : (b.drain now).actuators = b.actuators := by
  unfold drain
  cases opened : b.bus with
  | none => rfl
  | some bus => exact (receive_frame _ now bus.inbox).2.2

/-- Nothing is left to receive. -/
theorem drain_drain : (b.drain now).drain now = b.drain now := by
  cases opened : b.bus with
  | none =>
    have closed : (b.drain now).bus = none := by rw [drain_bus, opened, Option.map_none]
    rw [drain, closed]
  | some bus =>
    have empty : (b.drain now).bus = some { bus with inbox := [] } := by rw [drain_bus, opened, Option.map_some]
    rw [drain, empty]
    change { b.drain now with bus := some { bus with inbox := [] } } = b.drain now
    rw [← empty]

/-- With nothing to receive, switching the power changes that alone. -/
theorem drain_setPower {b : CanFdBackend} {now : ℚ} (received : b.drain now = b) (enabled : Bool) :
    (b.setPower enabled).drain now = b.setPower enabled := by
  have bus := b.drain_bus now
  rw [received] at bus
  cases opened : b.bus with
  | none =>
    have closed : (b.setPower enabled).bus = none := opened
    rw [drain, closed]
  | some open_ =>
    rw [opened, Option.map_some] at bus
    have empty : (b.setPower enabled).bus = some { open_ with inbox := [] } := opened.trans bus
    rw [drain, empty]
    change { b.setPower enabled with bus := some { open_ with inbox := [] } } = b.setPower enabled
    rw [← empty]

end CanFdBackend

end DroidOs.Backends.CanFd
