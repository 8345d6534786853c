/- GID: DroidOs/Firmware/Protocol
   generality: I
   source: firmware/safety-controller/src/protocol.h, hal.h
   digest: Frame types, fault bits and state flags of the safety-controller serial protocol. -/

import Mathlib.Data.BitVec

set_option autoImplicit false
set_option relaxedAutoImplicit false

namespace DroidOs.Firmware.Protocol

/-! Host to controller. -/

def msgHeartbeat : BitVec 8 := 0x01#8
def msgEnablePower : BitVec 8 := 0x02#8
def msgDisablePower : BitVec 8 := 0x03#8
def msgClearFault : BitVec 8 := 0x04#8
def msgReportFault : BitVec 8 := 0x05#8

/-! Controller to host. -/

def msgState : BitVec 8 := 0x80#8

/-! Fault codes, one bit each. -/

def faultEstop : BitVec 8 := 0x01#8
def faultOvertemp : BitVec 8 := 0x02#8
def faultJointLimit : BitVec 8 := 0x04#8
def faultWatchdog : BitVec 8 := 0x08#8
def faultHostSilent : BitVec 8 := 0x10#8

/-! Flags of the STATE payload. -/

def stateAlive : BitVec 8 := 0x01#8
def statePowerOn : BitVec 8 := 0x02#8
def stateWatchdogOk : BitVec 8 := 0x04#8

/-- The payload buffer has a first byte. -/
scoped instance payload_nonempty : NeZero (64 : Nat) := ⟨by decide⟩

/-- What `hal_uart_read_frame` leaves behind: the type, the whole 64-byte
payload buffer and the length the frame declared. -/
structure Frame where
  type : BitVec 8
  payload : Fin 64 → BitVec 8
  len : BitVec 8

/-- The three safety inputs of one poll. -/
structure Hardware where
  estopAsserted : Bool
  maxMotorTempC : Int
  jointLimitTripped : Bool

end DroidOs.Firmware.Protocol
