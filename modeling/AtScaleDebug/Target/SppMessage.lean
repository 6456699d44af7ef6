import AtScaleDebug.Lib.ByteBuffer
import AtScaleDebug.Target.Message
import AtScaleDebug.Target.SppHandler

/-!
Processing of a streaming probe message. The payload is a sequence of commands
that are decoded and executed one after the other; each appends to the response
in the output message, whose fill level is `responseCnt`.

The output buffer is a region without an end. Every write to it and every part
of it that is handed to the handler as a read buffer is recorded, as is every
value of the fill level, so that staying inside the buffer is a property of the
record. The bulk packet that collects interrupts lives in another message and is
not part of this model.
-/

namespace AtScaleDebug

open ByteBuffer

inductive SppCommand where
  | config (cmd : UInt8)
  | send (address msb lsb : UInt8) (data : List UInt8)
  | receive (address msb lsb : UInt8)
  | sendCmd (address msb lsb sppCommand : UInt8) (data : List UInt8)
  | sendReceiveCmd (address msbW lsbW sppCommand msbR lsbR : UInt8) (data : List UInt8)
  | setSimData (msb lsb : UInt8) (data : List UInt8)
  | bulk (count : UInt8)
  deriving DecidableEq, Repr

/-- Lengths travel most significant byte first. -/
def sppLength (msb lsb : UInt8) : Nat := (msb.toNat <<< 8) ||| lsb.toNat

def sendOperands (address : UInt8) : List UInt8 → Option (SppCommand × List UInt8)
  | msb :: lsb :: packet =>
      (getPacketData packet (sppLength msb lsb)).map fun (data, rest) =>
        (.send address msb lsb data, rest)
  | _ => none

def receiveOperands : List UInt8 → Option (SppCommand × List UInt8)
  | address :: msb :: lsb :: packet => some (.receive address msb lsb, packet)
  | _ => none

def sendCmdOperands (address : UInt8) : List UInt8 → Option (SppCommand × List UInt8)
  | msb :: lsb :: sppCommand :: packet =>
      (getPacketData packet (sppLength msb lsb)).map fun (data, rest) =>
        (.sendCmd address msb lsb sppCommand data, rest)
  | _ => none

def sendReceiveOperands (address : UInt8) : List UInt8 → Option (SppCommand × List UInt8)
  | msbW :: lsbW :: sppCommand :: msbR :: lsbR :: packet =>
      (getPacketData packet (sppLength msbW lsbW)).map fun (data, rest) =>
        (.sendReceiveCmd address msbW lsbW sppCommand msbR lsbR data, rest)
  | _ => none

def setSimDataOperands : List UInt8 → Option (SppCommand × List UInt8)
  | msb :: lsb :: packet =>
      (getPacketData packet (sppLength msb lsb)).map fun (data, rest) =>
        (.setSimData msb lsb data, rest)
  | _ => none

def bulkOperands : List UInt8 → Option (SppCommand × List UInt8)
  | count :: packet => some (.bulk count, packet)
  | [] => none

/-- The address of a sending command. In bulk mode it is checked at once and
becomes the bulk address, even when the rest of the command is cut off. -/
def addressed (bulkMode : Bool) (bulkAddress : UInt8)
    (operands : UInt8 → List UInt8 → Option (SppCommand × List UInt8)) :
    List UInt8 → UInt8 × Option (SppCommand × List UInt8)
  | [] => (bulkAddress, none)
  | address :: packet =>
      if bulkMode then
        if maxSppBusDevices ≤ address.toNat then (bulkAddress, none)
        else (address, operands address packet)
      else (bulkAddress, operands address packet)

/-- The next command and the rest of the packet; `none` is a short packet, an
unknown command or a bulk address out of range. -/
def nextSppCommand (bulkMode : Bool) (bulkAddress : UInt8) :
    List UInt8 → UInt8 × Option (SppCommand × List UInt8)
  | [] => (bulkAddress, none)
  | cmd :: packet =>
      if cmd ≤ 0x0F then (bulkAddress, some (.config cmd, packet))
      else if cmd = 0x10 then addressed bulkMode bulkAddress sendOperands packet
      else if cmd = 0x20 then (bulkAddress, receiveOperands packet)
      else if cmd = 0x30 then addressed bulkMode bulkAddress sendCmdOperands packet
      else if cmd = 0x40 then addressed bulkMode bulkAddress sendReceiveOperands packet
      else if cmd = 0x50 then (bulkAddress, setSimDataOperands packet)
      else if cmd = 0x60 then (bulkAddress, bulkOperands packet)
      else (bulkAddress, none)

/-- The response part of the output message. -/
structure SppOutput where
  buffer : Nat → UInt8
  responseCnt : Nat
  touched : List Region
  counts : List Nat

namespace SppOutput

/-- The cleared output buffer. -/
def initial : SppOutput := ⟨fun _ => 0, 0, [⟨0, maxDataSize⟩], [0]⟩

/-- A run of `buffer[response_cnt++] = byte`. -/
def put (o : SppOutput) (bytes : List UInt8) : SppOutput where
  buffer := blit o.buffer o.responseCnt bytes
  responseCnt := o.responseCnt + bytes.length
  touched := o.touched ++ [⟨o.responseCnt, bytes.length⟩]
  counts := o.counts ++ [o.responseCnt + bytes.length]

/-- A read buffer of `length` bytes behind the next `gap` bytes, filled with `bytes`. -/
def lend (o : SppOutput) (gap length : Nat) (bytes : List UInt8) : SppOutput :=
  { o with
    buffer := blit o.buffer (o.responseCnt + gap) bytes
    touched := o.touched ++ [⟨o.responseCnt + gap, length⟩] }

/-- `response_cnt + n` over bytes that are already in place. -/
def skip (o : SppOutput) (n : Nat) : SppOutput :=
  { o with
    responseCnt := o.responseCnt + n
    counts := o.counts ++ [o.responseCnt + n] }

/-- The read buffer of an opcode transfer, if one went to the driver. -/
def lendOpcode (o : SppOutput) : Option (List UInt8) → SppOutput
  | none => o
  | some bytes => o.lend 7 sppOpcodeLength bytes

end SppOutput

structure SppState where
  handler : SppHandler
  out : SppOutput
  bulkAddress : UInt8
  responses : List (MessageHeader × List UInt8)

/-- How a command leaves the loop: it goes on, breaks out with an error, or
returns an error from the whole function. -/
inductive SppFlow where
  | next
  | broke
  | returned
  deriving DecidableEq, Repr

/-- The header of a successful response, and the packet `send_response` makes of it. -/
def SppState.respond (s : SppState) (request : MessageHeader) : SppState :=
  let header := { request with
    sizeLsb := lsbFromMsgSize s.out.responseCnt
    sizeMsb := msbFromMsgSize s.out.responseCnt
    cmdStat := 0 }
  let payload := slice s.out.buffer 0 ((getMessageSize header).getD 0)
  { s with responses := s.responses ++ [(header, payload)] }

def awaitHandshake (io : SppIo) (h : SppHandler) (device : Fin maxSppBusDevices) : SppHandler :=
  if h.thresholdStatus device then asdMsgCheckSppIbi io h else h

def executeSend (io : SppIo) (s : SppState) (address msb lsb : UInt8) (data : List UInt8) :
    SppState × SppFlow :=
  match sppDeviceSelect s.handler address.toNat with
  | none => (s, .broke)
  | some h =>
      match sppSend io (awaitHandshake io h h.deviceIndex) data with
      | (h, .ok) => ({ s with handler := h, out := s.out.put [0x10, address, msb, lsb] }, .next)
      | (h, _) => ({ s with handler := h, out := s.out.put [0x10, address, 0, 0] }, .broke)

/-- The read buffer is cleared over its whole length before the device is read.
A failed read is not reported as an error. -/
def executeReceive (io : SppIo) (s : SppState) (address msb lsb : UInt8) : SppState × SppFlow :=
  match sppDeviceSelect s.handler address.toNat with
  | none => (s, .broke)
  | some h =>
      let cleared := List.replicate sppReceiveLength 0
      match sppReceive io h with
      | (h, some bytes) =>
          let read := bytes ++ cleared.drop bytes.length
          ({ s with
            handler := h
            out := ((s.out.lend 4 sppReceiveLength read).put [0x20, address, msb, lsb]).skip
              bytes.length }, .next)
      | (h, none) =>
          ({ s with
            handler := h
            out := (s.out.lend 4 sppReceiveLength cleared).put [0x20, address, 0, 0] }, .next)

def executeSendCmd (io : SppIo) (s : SppState) (address msb lsb sppCommand : UInt8) :
    SppState × SppFlow :=
  match sppDeviceSelect s.handler address.toNat with
  | none => (s, .broke)
  | some h =>
      let h := awaitHandshake io h h.deviceIndex
      match sppSendCmd io h sppCommand with
      | .ok =>
          ({ s with handler := h, out := s.out.put [0x30, address, msb, lsb, sppCommand] }, .next)
      | _ => ({ s with handler := h, out := s.out.put [0x30, address, 0, 0, sppCommand] }, .broke)

/-- The length asked for is checked against the buffer, but an opcode transfer
hands a read buffer of its own length to the driver. -/
def executeSendReceiveCmd (io : SppIo) (s : SppState)
    (address msbW lsbW sppCommand msbR lsbR : UInt8) : SppState × SppFlow :=
  match sppDeviceSelect s.handler address.toNat with
  | none => (s, .broke)
  | some h =>
      let s := { s with handler := awaitHandshake io h h.deviceIndex }
      let n := sppLength msbR lsbR
      if s.out.responseCnt + 7 + n > maxDataSize then (s, .broke)
      else
        let (status, lent) := sppSendReceiveCmd io sppCommand
        let out := s.out.lendOpcode lent
        match status with
        | .ok =>
            let lengths := [.ofNat ((n >>> 8) &&& 0x0F), .ofNat (n &&& 0xFF)]
            ({ s with out :=
                (out.put ([0x40, address, msbW, lsbW, sppCommand] ++ lengths)).skip n }, .next)
        | _ => ({ s with out := out.put [0x40, address, 0, 0, sppCommand, 0, 0] }, .broke)

def executeBulk (io : SppIo) (request : MessageHeader) (s : SppState) (count : UInt8) :
    SppState × SppFlow :=
  let s := { s with out := s.out.put [0x60, count] }.respond request
  if io.delivered then ({ s with handler := { s.handler with bulkMode := true } }, .next)
  else (s, .returned)

/-- `spp_set_sim_data_cmd` accepts and drops its data, so it cannot fail. -/
def executeSppCommand (io : SppIo) (request : MessageHeader) (s : SppState) :
    SppCommand → SppState × SppFlow
  | .config _ => (s, .next)
  | .send address msb lsb data => executeSend io s address msb lsb data
  | .receive address msb lsb => executeReceive io s address msb lsb
  | .sendCmd address msb lsb sppCommand _ => executeSendCmd io s address msb lsb sppCommand
  | .sendReceiveCmd address msbW lsbW sppCommand msbR lsbR _ =>
      executeSendReceiveCmd io s address msbW lsbW sppCommand msbR lsbR
  | .setSimData _ lsb _ => ({ s with out := s.out.put [0x50, lsb] }, .next)
  | .bulk count => executeBulk io request s count

/-- The command loop. `io k` holds the outcomes of the `k`-th command; a command
takes at least one byte of the packet, so as many rounds as bytes are enough. -/
def sppLoop (io : Nat → SppIo) (request : MessageHeader) :
    Nat → Nat → SppState → List UInt8 → SppState × SppFlow
  | 0, _, s, _ => (s, .next)
  | _ + 1, _, s, [] => (s, .next)
  | rounds + 1, k, s, byte :: packet =>
      if s.out.responseCnt ≥ maxDataSize then (s, .broke)
      else
        match nextSppCommand s.handler.bulkMode s.bulkAddress (byte :: packet) with
        | (bulkAddress, none) => ({ s with bulkAddress }, .broke)
        | (bulkAddress, some (command, rest)) =>
            match executeSppCommand (io k) request { s with bulkAddress } command with
            | (s, .next) => sppLoop io request rounds (k + 1) s rest
            | (s, flow) => (s, flow)

section Rounds

private theorem map_getPacketData_length {packet rest : List UInt8} {wanted : Nat}
    {make : List UInt8 → SppCommand} {command : SppCommand}
    (h : (getPacketData packet wanted).map (fun (data, rest) => (make data, rest)) =
      some (command, rest)) : rest.length ≤ packet.length := by
  obtain ⟨⟨data, rest'⟩, hdata, heq⟩ := Option.map_eq_some_iff.mp h
  cases heq
  exact getPacketData_length hdata

private theorem addressed_length {bulkMode : Bool} {bulkAddress : UInt8}
    {operands : UInt8 → List UInt8 → Option (SppCommand × List UInt8)}
    (shrinks : ∀ address packet command rest,
      operands address packet = some (command, rest) → rest.length ≤ packet.length)
    {packet rest : List UInt8} {command : SppCommand}
    (h : (addressed bulkMode bulkAddress operands packet).2 = some (command, rest)) :
    rest.length ≤ packet.length := by
  cases packet with
  | nil => cases h
  | cons address packet =>
      have hle : operands address packet = some (command, rest) →
          rest.length ≤ (address :: packet).length := fun hop =>
        (shrinks address packet command rest hop).trans (by simp)
      simp only [addressed] at h
      split at h
      · split at h
        · cases h
        · exact hle h
      · exact hle h

private theorem sendOperands_length (address : UInt8) (packet : List UInt8) (command : SppCommand)
    (rest : List UInt8) (h : sendOperands address packet = some (command, rest)) :
    rest.length ≤ packet.length := by
  simp only [sendOperands] at h
  split at h
  · refine (map_getPacketData_length h).trans ?_
    simp only [List.length_cons]
    omega
  · cases h

private theorem receiveOperands_length {packet rest : List UInt8} {command : SppCommand}
    (h : receiveOperands packet = some (command, rest)) : rest.length ≤ packet.length := by
  simp only [receiveOperands] at h
  split at h
  · cases h
    simp only [List.length_cons]
    omega
  · cases h

private theorem sendCmdOperands_length (address : UInt8) (packet : List UInt8)
    (command : SppCommand) (rest : List UInt8)
    (h : sendCmdOperands address packet = some (command, rest)) :
    rest.length ≤ packet.length := by
  simp only [sendCmdOperands] at h
  split at h
  · refine (map_getPacketData_length h).trans ?_
    simp only [List.length_cons]
    omega
  · cases h

private theorem sendReceiveOperands_length (address : UInt8) (packet : List UInt8)
    (command : SppCommand) (rest : List UInt8)
    (h : sendReceiveOperands address packet = some (command, rest)) :
    rest.length ≤ packet.length := by
  simp only [sendReceiveOperands] at h
  split at h
  · refine (map_getPacketData_length h).trans ?_
    simp only [List.length_cons]
    omega
  · cases h

private theorem setSimDataOperands_length (packet : List UInt8) (command : SppCommand)
    (rest : List UInt8) (h : setSimDataOperands packet = some (command, rest)) :
    rest.length ≤ packet.length := by
  simp only [setSimDataOperands] at h
  split at h
  · refine (map_getPacketData_length h).trans ?_
    simp only [List.length_cons]
    omega
  · cases h

private theorem bulkOperands_length {packet rest : List UInt8} {command : SppCommand}
    (h : bulkOperands packet = some (command, rest)) : rest.length ≤ packet.length := by
  simp only [bulkOperands] at h
  split at h
  · cases h
    simp only [List.length_cons]
    omega
  · cases h

/-- Decoding a command takes at least its first byte. -/
theorem nextSppCommand_length {bulkMode : Bool} {bulkAddress : UInt8} {packet rest : List UInt8}
    {command : SppCommand}
    (h : (nextSppCommand bulkMode bulkAddress packet).2 = some (command, rest)) :
    rest.length < packet.length := by
  cases packet with
  | nil => cases h
  | cons cmd packet =>
      refine Nat.lt_succ_of_le ?_
      simp only [nextSppCommand] at h
      split at h
      · cases h
        exact Nat.le_refl _
      split at h
      · exact addressed_length sendOperands_length h
      split at h
      · exact receiveOperands_length h
      split at h
      · exact addressed_length sendCmdOperands_length h
      split at h
      · exact addressed_length sendReceiveOperands_length h
      split at h
      · exact setSimDataOperands_length packet command rest h
      split at h
      · exact bulkOperands_length h
      · cases h

/-- The rounds of the loop are never what ends it. -/
theorem sppLoop_rounds (io : Nat → SppIo) (request : MessageHeader) {rounds k : Nat} (s : SppState)
    (packet : List UInt8) (enough : packet.length ≤ rounds) :
    sppLoop io request rounds k s packet = sppLoop io request packet.length k s packet := by
  induction rounds using Nat.strong_induction_on generalizing k s packet with
  | _ rounds ih =>
      cases packet with
      | nil => cases rounds <;> rfl
      | cons byte packet =>
          obtain ⟨rounds, rfl⟩ : ∃ n, rounds = n + 1 :=
            ⟨rounds - 1, by simp only [List.length_cons] at enough; omega⟩
          simp only [List.length_cons] at enough ⊢
          simp only [sppLoop]
          split
          · rfl
          · split
            · rfl
            · next bulkAddress command rest hnext =>
                have hlength := nextSppCommand_length (congrArg Prod.snd hnext)
                simp only [List.length_cons] at hlength
                split
                · next t _ =>
                    rw [ih rounds (by omega) t rest (by omega),
                      ih packet.length (by omega) t rest (by omega)]
                · rfl

end Rounds

/-- The outcomes after the loop: the interrupts drained by the two waits of the
bulk tail, and whether the last packet could be sent. -/
structure SppTailIo where
  handshake : SppIo
  autocmd : SppIo
  delivered : Bool

def sppBulkTail (tail : SppTailIo) (s : SppState) : SppState × Status :=
  let finish (h : SppHandler) := { s with handler := { h with bulkMode := false } }
  if ha : s.bulkAddress.toNat < maxSppBusDevices then
    let device : Fin maxSppBusDevices := ⟨s.bulkAddress.toNat, ha⟩
    let h := awaitHandshake tail.handshake s.handler device
    let h := if h.bulkAutocmdCount device ≠ 0 then asdMsgCheckSppIbi tail.autocmd h else h
    (finish h, if tail.delivered then .ok else .err)
  else (finish s.handler, .err)

/-- The payload as the size field of the header bounds it. -/
def sppPayload (header : MessageHeader) (buffer : Nat → UInt8) : List UInt8 :=
  slice buffer 0 ((getMessageSize header).getD 0)

/-- `old` is what the output buffer holds from the message before. -/
def processSppMessage (io : Nat → SppIo) (tail : SppTailIo) (handler : SppHandler)
    (old : Nat → UInt8) (header : MessageHeader) (buffer : Nat → UInt8) : SppState × Status :=
  let handler := { handler with bulkMode := false }
  match getMessageSize header with
  | none => (⟨handler, ⟨old, 0, [], []⟩, 0, []⟩, .err)
  | some size =>
      match sppLoop io header size 0 ⟨handler, .initial, 0, []⟩ (sppPayload header buffer) with
      | (s, .returned) => (s, .err)
      | (s, flow) =>
          if s.handler.bulkMode then sppBulkTail tail s
          else if flow = .next then
            (s.respond header, if tail.delivered then .ok else .err)
          else (s, .err)

end AtScaleDebug
