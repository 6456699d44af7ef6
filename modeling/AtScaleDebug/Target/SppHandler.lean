import Mathlib.Logic.Function.Basic
import AtScaleDebug.Common

/-!
The streaming probe handler over the i3c debug devices, as far as the message
processing uses it: selecting a device, the four transfer operations and the
handling of in-band interrupts.

What the devices answer is an argument, one record of outcomes for each command
of a message. A descriptor is the index of the device it was opened for.
-/

namespace AtScaleDebug

def maxSppBusDevices : Nat := 8

/-- The device a handler starts with. -/
def firstDevice : Fin maxSppBusDevices := ⟨0, Nat.zero_lt_succ 7⟩

/-- Lengths the handler passes to the driver, whatever the caller asked for. -/
def sppReceiveLength : Nat := 255
def sppOpcodeLength : Nat := 32

def broadcastResetAction : UInt8 := 0x2A
def directResetAction : UInt8 := 0x9A
def bpkOpcode : UInt8 := 0xD7
def debugAction : UInt8 := 0xD8
def broadcastDebugAction : UInt8 := 0x58

structure SppHandler where
  devHandlers : Fin maxSppBusDevices → Bool
  deviceCount : Nat
  deviceIndex : Fin maxSppBusDevices
  driverHandle : Option (Fin maxSppBusDevices)
  thresholdStatus : Fin maxSppBusDevices → Bool
  bulkMode : Bool
  bulkAutocmdCount : Fin maxSppBusDevices → UInt8
  broadcastFilepath : Bool

/-- What an interrupt says: the buffer is free again, data is ready, or neither. -/
inductive SppIbi where
  | statusChanged
  | dataReady
  | other
  deriving DecidableEq, Repr

/-- The outcomes a command meets: the interrupts drained while it waits for the
handshake, the results of `write`, `read`, the two ioctls and the broadcast file,
and whether a response could be sent. -/
structure SppIo where
  ibis : List (Fin maxSppBusDevices × SppIbi)
  written : Bool
  received : Option (List UInt8)
  opcode : Option (List UInt8)
  action : Bool
  broadcast : Bool
  delivered : Bool

def i3cIbiHandler (h : SppHandler) : Fin maxSppBusDevices × SppIbi → SppHandler
  | (device, .statusChanged) =>
      { h with thresholdStatus := Function.update h.thresholdStatus device false }
  | (device, .dataReady) =>
      if h.bulkMode ∧ 0 < h.bulkAutocmdCount device then
        { h with bulkAutocmdCount :=
            Function.update h.bulkAutocmdCount device (h.bulkAutocmdCount device - 1) }
      else h
  | (_, .other) => h

def asdMsgCheckSppIbi (io : SppIo) (h : SppHandler) : SppHandler :=
  io.ibis.foldl i3cIbiHandler h

/-- `none` is a device number out of range or a device that is not open. -/
def sppDeviceSelect (h : SppHandler) (device : Nat) : Option SppHandler :=
  if hd : device < maxSppBusDevices then
    if h.devHandlers ⟨device, hd⟩ then
      some { h with deviceIndex := ⟨device, hd⟩, driverHandle := some ⟨device, hd⟩ }
    else none
  else none

def sendI3cCmd (io : SppIo) (h : SppHandler) : Status :=
  if h.driverHandle.isSome ∧ io.written then .ok else .err

def sppSend (io : SppIo) (h : SppHandler) (data : List UInt8) : SppHandler × Status :=
  if data.length = 0 then (h, .err)
  else
    let h := { h with thresholdStatus := Function.update h.thresholdStatus h.deviceIndex true }
    let count := h.bulkAutocmdCount h.deviceIndex + 1
    let h :=
      if h.bulkMode then
        { h with bulkAutocmdCount := Function.update h.bulkAutocmdCount h.deviceIndex count }
      else h
    (h, sendI3cCmd io h)

/-- A reset visits the first `deviceCount` slots and leaves the last open one
of them selected. -/
def sendResetRx (h : SppHandler) : SppHandler :=
  (List.range h.deviceCount).foldl (fun h device => (sppDeviceSelect h device).getD h) h

/-- The bytes read, or `none` with the devices reset. The failure threshold is
zero, so every failed read resets. -/
def sppReceive (io : SppIo) (h : SppHandler) : SppHandler × Option (List UInt8) :=
  match (io.received.map (List.take sppReceiveLength)).getD [] with
  | [] => (sendResetRx h, none)
  | bytes => (h, some bytes)

def sppSendCmd (io : SppIo) (h : SppHandler) (cmd : UInt8) : Status :=
  if cmd = bpkOpcode then (if io.opcode.isSome then .ok else .err)
  else if cmd = debugAction then (if io.action then .ok else .err)
  else if cmd = broadcastDebugAction then
    (if h.broadcastFilepath ∧ io.broadcast then .ok else .err)
  else .err

/-- The status, and the bytes stored when a read buffer went to the driver. -/
def sppSendReceiveCmd (io : SppIo) (cmd : UInt8) : Status × Option (List UInt8) :=
  if cmd = broadcastResetAction ∨ cmd = directResetAction then (.ok, none)
  else if cmd = bpkOpcode then
    match io.opcode with
    | none => (.err, some [])
    | some bytes => (.ok, some (bytes.take sppOpcodeLength))
  else if cmd = debugAction then (if io.action then .ok else .err, none)
  else (.ok, none)

end AtScaleDebug
