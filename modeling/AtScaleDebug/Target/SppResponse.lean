import AtScaleDebug.Target.SppMessage

/-!
When the response of a streaming probe message stays inside the output buffer.

The commands of a payload, taken by themselves, have a reach: how far behind the
response built so far they write or let the driver write. The loop checks the
fill level before a command and the requested length of one of the seven
commands, and neither is the reach. The response is safe exactly when every
reach fits behind the entries of the commands before it.
-/

namespace AtScaleDebug

def SppOutput.Safe (o : SppOutput) : Prop :=
  (∀ r ∈ o.touched, r.InBounds) ∧ ∀ n ∈ o.counts, n ≤ maxDataSize

instance (o : SppOutput) : Decidable o.Safe := inferInstanceAs (Decidable (_ ∧ _))

def SppCommand.isBulk : SppCommand → Bool
  | .bulk _ => true
  | _ => false

/-- The commands of a packet up to the first that cannot be decoded. -/
def sppCommands : Nat → Bool → List UInt8 → List SppCommand
  | 0, _, _ => []
  | _ + 1, _, [] => []
  | rounds + 1, bulkMode, byte :: packet =>
      match (nextSppCommand bulkMode 0 (byte :: packet)).2 with
      | none => []
      | some (command, rest) =>
          command :: sppCommands rounds (bulkMode || command.isBulk) rest

/-- What a command writes behind a response of `used` bytes: how far it reaches,
and the length of its entry unless processing ends with it. -/
structure SppFootprint where
  reach : Nat
  entry : Option Nat

section Footprint
variable (h : SppHandler) (io : SppIo) (used : Nat)

/-- A command for a device writes nothing when the device cannot be selected. -/
def onDevice (address : UInt8) (footprint : SppFootprint) : SppFootprint :=
  if (sppDeviceSelect h address.toNat).isSome then footprint else ⟨0, none⟩

def sppFootprint : SppCommand → SppFootprint
  | .config _ => ⟨0, some 0⟩
  | .send address _ _ data =>
      onDevice h address ⟨4, if data ≠ [] ∧ io.written then some 4 else none⟩
  | .receive address _ _ =>
      onDevice h address ⟨4 + sppReceiveLength, some (4 +
        ((io.received.map (List.take sppReceiveLength)).getD []).length)⟩
  | .sendCmd address _ _ sppCommand _ =>
      onDevice h address ⟨5, if sppSendCmd io h sppCommand = .ok then some 5 else none⟩
  | .sendReceiveCmd address _ _ sppCommand msbR lsbR _ =>
      let n := sppLength msbR lsbR
      onDevice h address
        (if used + 7 + n > maxDataSize then ⟨0, none⟩
        else
          ⟨if sppCommand = bpkOpcode then 7 + sppOpcodeLength else 7,
            if (sppSendReceiveCmd io sppCommand).1 = .ok then some (7 + n) else none⟩)
  | .setSimData _ _ _ => ⟨2, some 2⟩
  | .bulk _ => ⟨2, if io.delivered then some 2 else none⟩

end Footprint

/-- Every command executed reaches no further than the end of the buffer. -/
def SppFits (h : SppHandler) (io : Nat → SppIo) : Nat → Nat → List SppCommand → Prop
  | _, _, [] => True
  | k, used, command :: commands =>
      maxDataSize ≤ used ∨
        let footprint := sppFootprint h (io k) used command
        used + footprint.reach ≤ maxDataSize ∧
          ∀ n ∈ footprint.entry, SppFits h io (k + 1) (used + n) commands

section Output
variable (o : SppOutput)

@[simp] theorem safe_put (bytes : List UInt8) :
    (o.put bytes).Safe ↔ o.Safe ∧ o.responseCnt + bytes.length ≤ maxDataSize := by
  simp only [SppOutput.Safe, SppOutput.put, List.forall_mem_append, List.forall_mem_singleton,
    Region.InBounds]
  tauto

@[simp] theorem safe_lend (gap length : Nat) (bytes : List UInt8) :
    (o.lend gap length bytes).Safe ↔ o.Safe ∧ o.responseCnt + gap + length ≤ maxDataSize := by
  simp only [SppOutput.Safe, SppOutput.lend, List.forall_mem_append, List.forall_mem_singleton,
    Region.InBounds]
  tauto

@[simp] theorem safe_skip (n : Nat) :
    (o.skip n).Safe ↔ o.Safe ∧ o.responseCnt + n ≤ maxDataSize := by
  simp only [SppOutput.Safe, SppOutput.skip, List.forall_mem_append, List.forall_mem_singleton]
  tauto

theorem safe_lendOpcode (lent : Option (List UInt8)) :
    (o.lendOpcode lent).Safe ↔
      o.Safe ∧ (lent.isSome → o.responseCnt + 7 + sppOpcodeLength ≤ maxDataSize) := by
  cases lent <;> simp [SppOutput.lendOpcode]

@[simp] theorem lendOpcode_responseCnt (lent : Option (List UInt8)) :
    (o.lendOpcode lent).responseCnt = o.responseCnt := by
  cases lent <;> rfl

@[simp] theorem put_responseCnt (bytes : List UInt8) :
    (o.put bytes).responseCnt = o.responseCnt + bytes.length := rfl

@[simp] theorem lend_responseCnt (gap length : Nat) (bytes : List UInt8) :
    (o.lend gap length bytes).responseCnt = o.responseCnt := rfl

@[simp] theorem skip_responseCnt (n : Nat) : (o.skip n).responseCnt = o.responseCnt + n := rfl

end Output

/-- What a command leaves as it was: the devices, and the broadcast file. -/
structure SppHandler.SameDevices (h g : SppHandler) : Prop where
  devHandlers : g.devHandlers = h.devHandlers
  deviceCount : g.deviceCount = h.deviceCount
  broadcastFilepath : g.broadcastFilepath = h.broadcastFilepath

/-- The operations of the handler keep the bulk mode too. -/
structure SppHandler.Keeps (h g : SppHandler) : Prop extends h.SameDevices g where
  bulkMode : g.bulkMode = h.bulkMode

section Handler
variable {h g k : SppHandler} {io : SppIo}

theorem SppHandler.SameDevices.trans (hg : h.SameDevices g) (gk : g.SameDevices k) :
    h.SameDevices k :=
  ⟨gk.devHandlers.trans hg.devHandlers, gk.deviceCount.trans hg.deviceCount,
    gk.broadcastFilepath.trans hg.broadcastFilepath⟩

theorem SppHandler.Keeps.refl (h : SppHandler) : h.Keeps h := ⟨⟨rfl, rfl, rfl⟩, rfl⟩

theorem SppHandler.Keeps.trans (hg : h.Keeps g) (gk : g.Keeps k) : h.Keeps k :=
  ⟨hg.toSameDevices.trans gk.toSameDevices, gk.bulkMode.trans hg.bulkMode⟩

theorem sppDeviceSelect_keeps {device : Nat} (hs : sppDeviceSelect h device = some g) :
    h.Keeps g ∧ g.driverHandle.isSome := by
  rw [sppDeviceSelect] at hs
  split at hs
  · split at hs
    · cases hs
      exact ⟨⟨⟨rfl, rfl, rfl⟩, rfl⟩, rfl⟩
    · cases hs
  · cases hs

theorem sppDeviceSelect_isSome_congr (hg : h.SameDevices g) (device : Nat) :
    (sppDeviceSelect g device).isSome = (sppDeviceSelect h device).isSome := by
  simp only [sppDeviceSelect, hg.devHandlers]
  split
  · split <;> rfl
  · rfl

theorem i3cIbiHandler_keeps (h : SppHandler) (ibi : Fin maxSppBusDevices × SppIbi) :
    h.Keeps (i3cIbiHandler h ibi) ∧ (i3cIbiHandler h ibi).driverHandle = h.driverHandle := by
  obtain ⟨device, ibi⟩ := ibi
  cases ibi with
  | statusChanged => exact ⟨⟨⟨rfl, rfl, rfl⟩, rfl⟩, rfl⟩
  | dataReady =>
      simp only [i3cIbiHandler]
      split
      · exact ⟨⟨⟨rfl, rfl, rfl⟩, rfl⟩, rfl⟩
      · exact ⟨.refl h, rfl⟩
  | other => exact ⟨.refl h, rfl⟩

theorem asdMsgCheckSppIbi_keeps (io : SppIo) (h : SppHandler) :
    h.Keeps (asdMsgCheckSppIbi io h) ∧
      (asdMsgCheckSppIbi io h).driverHandle = h.driverHandle := by
  rw [asdMsgCheckSppIbi]
  generalize io.ibis = ibis
  induction ibis generalizing h with
  | nil => exact ⟨.refl h, rfl⟩
  | cons ibi ibis ih =>
      have hstep := i3cIbiHandler_keeps h ibi
      have hrest := ih (i3cIbiHandler h ibi)
      exact ⟨hstep.1.trans hrest.1, hrest.2.trans hstep.2⟩

theorem awaitHandshake_keeps (io : SppIo) (h : SppHandler) (device : Fin maxSppBusDevices) :
    h.Keeps (awaitHandshake io h device) ∧
      (awaitHandshake io h device).driverHandle = h.driverHandle := by
  rw [awaitHandshake]
  split
  · exact asdMsgCheckSppIbi_keeps io h
  · exact ⟨.refl h, rfl⟩

theorem sppSend_keeps (io : SppIo) (h : SppHandler) (data : List UInt8) :
    h.Keeps (sppSend io h data).1 := by
  rw [sppSend]
  split
  · exact .refl h
  · dsimp only
    split <;> exact ⟨⟨rfl, rfl, rfl⟩, rfl⟩

theorem sppSend_ok_iff {data : List UInt8} (hopen : h.driverHandle.isSome) :
    (sppSend io h data).2 = .ok ↔ data ≠ [] ∧ io.written = true := by
  rw [sppSend]
  split
  · next hempty => simp [List.eq_nil_of_length_eq_zero hempty]
  · next hdata =>
      have hne : data ≠ [] := fun heq => hdata (by rw [heq]; rfl)
      dsimp only
      split <;> simp [sendI3cCmd, hopen, hne]

theorem sendResetRx_keeps (h : SppHandler) : h.Keeps (sendResetRx h) := by
  rw [sendResetRx]
  generalize List.range h.deviceCount = devices
  induction devices generalizing h with
  | nil => exact .refl h
  | cons device devices ih =>
      refine SppHandler.Keeps.trans ?_ (ih ((sppDeviceSelect h device).getD h))
      cases hs : sppDeviceSelect h device with
      | none => exact .refl h
      | some g => exact (sppDeviceSelect_keeps hs).1

theorem sppReceive_spec (io : SppIo) (h : SppHandler) :
    h.Keeps (sppReceive io h).1 ∧
      (sppReceive io h).2.getD [] = (io.received.map (List.take sppReceiveLength)).getD [] := by
  rw [sppReceive]
  split
  · next hempty => exact ⟨sendResetRx_keeps h, hempty.symm⟩
  · exact ⟨.refl h, rfl⟩

theorem length_received_le (io : SppIo) :
    ((io.received.map (List.take sppReceiveLength)).getD []).length ≤ sppReceiveLength := by
  cases io.received <;> simp

theorem sppSendReceiveCmd_lends_iff (io : SppIo) (cmd : UInt8) :
    (sppSendReceiveCmd io cmd).2.isSome ↔ cmd = bpkOpcode := by
  rw [sppSendReceiveCmd]
  split
  · next hreset =>
      have hne : cmd ≠ bpkOpcode := by
        rintro rfl
        revert hreset
        decide
      simp [hne]
  · split
    · next hcmd => cases io.opcode <;> simp [hcmd]
    · next hcmd => split <;> simp [hcmd]

theorem sppSendCmd_congr (hg : h.SameDevices g) (cmd : UInt8) :
    sppSendCmd io g cmd = sppSendCmd io h cmd := by
  simp only [sppSendCmd, hg.broadcastFilepath]

end Handler

/-- A command executed in `s` wrote its footprint. -/
structure SppExecutes (h : SppHandler) (io : SppIo) (command : SppCommand) (s t : SppState)
    (flow : SppFlow) : Prop where
  safe : t.out.Safe ↔
    s.out.Safe ∧
      s.out.responseCnt + (sppFootprint h io s.out.responseCnt command).reach ≤ maxDataSize
  entry : flow = .next → ∃ n ∈ (sppFootprint h io s.out.responseCnt command).entry,
    t.out.responseCnt = s.out.responseCnt + n
  stops : flow ≠ .next → (sppFootprint h io s.out.responseCnt command).entry = none
  devices : h.SameDevices t.handler
  bulkMode : flow = .next → t.handler.bulkMode = (s.handler.bulkMode || command.isBulk)

section Execute
variable {h : SppHandler} {s : SppState} (io : SppIo)

/-- A device that cannot be selected, or a full buffer, ends the processing
before any write. -/
theorem executes_of_refused {command : SppCommand} {t : SppState}
    (same : h.SameDevices t.handler) (hout : t.out = s.out)
    (room : s.out.responseCnt < maxDataSize)
    (hfoot : sppFootprint h io s.out.responseCnt command = ⟨0, none⟩) :
    SppExecutes h io command s t .broke where
  safe := by
    rw [hout, hfoot]
    exact (and_iff_left room.le).symm
  entry := by simp
  stops _ := by rw [hfoot]
  devices := same
  bulkMode := by simp

theorem onDevice_of_none {address : UInt8} (same : h.SameDevices s.handler)
    (hnone : sppDeviceSelect s.handler address.toNat = none) (footprint : SppFootprint) :
    onDevice h address footprint = ⟨0, none⟩ := by
  have hsome := sppDeviceSelect_isSome_congr same address.toNat
  simp [onDevice, ← hsome, hnone]

theorem onDevice_of_some {address : UInt8} {g : SppHandler} (same : h.SameDevices s.handler)
    (hsome : sppDeviceSelect s.handler address.toNat = some g) (footprint : SppFootprint) :
    onDevice h address footprint = footprint := by
  have hcongr := sppDeviceSelect_isSome_congr same address.toNat
  simp [onDevice, ← hcongr, hsome]

/-- A command that appends one entry and reaches no further than it. -/
theorem executes_of_put {command : SppCommand} {t : SppState} {flow : SppFlow}
    {bytes : List UInt8} (same : h.SameDevices t.handler) (hout : t.out = s.out.put bytes)
    (hfoot : sppFootprint h io s.out.responseCnt command =
      ⟨bytes.length, if flow = .next then some bytes.length else none⟩)
    (hbulk : flow = .next → t.handler.bulkMode = (s.handler.bulkMode || command.isBulk)) :
    SppExecutes h io command s t flow where
  safe := by rw [hout, hfoot, safe_put]
  entry hflow := by
    refine ⟨bytes.length, ?_, by rw [hout, put_responseCnt]⟩
    rw [hfoot, if_pos hflow]
    rfl
  stops hflow := by rw [hfoot, if_neg hflow]
  devices := same
  bulkMode := hbulk

theorem executeSend_executes (same : h.SameDevices s.handler)
    (room : s.out.responseCnt < maxDataSize) (address msb lsb : UInt8) (data : List UInt8) :
    SppExecutes h io (.send address msb lsb data) s (executeSend io s address msb lsb data).1
      (executeSend io s address msb lsb data).2 := by
  rw [executeSend]
  cases hselect : sppDeviceSelect s.handler address.toNat with
  | none => exact executes_of_refused io same rfl room (onDevice_of_none same hselect _)
  | some g =>
      obtain ⟨hkeep, hopen⟩ := sppDeviceSelect_keeps hselect
      obtain ⟨hwait, hhandle⟩ := awaitHandshake_keeps io g g.deviceIndex
      have hok : (sppSend io (awaitHandshake io g g.deviceIndex) data).2 = .ok ↔
          data ≠ [] ∧ io.written = true := sppSend_ok_iff (by rw [hhandle]; exact hopen)
      have hall := (hkeep.trans hwait).trans
        (sppSend_keeps io (awaitHandshake io g g.deviceIndex) data)
      have hfoot : sppFootprint h io s.out.responseCnt (.send address msb lsb data) =
          ⟨4, if data ≠ [] ∧ io.written = true then some 4 else none⟩ :=
        onDevice_of_some same hselect _
      simp only [← hok] at hfoot
      dsimp only
      split
      · next k hresult =>
          rw [hresult] at hall hfoot
          have hmode : k.bulkMode = s.handler.bulkMode := hall.bulkMode
          exact executes_of_put io (same.trans hall.toSameDevices) rfl (by simpa using hfoot)
            (fun _ => by simp [hmode, SppCommand.isBulk])
      · next k status hbroke hresult =>
          rw [hresult] at hall hfoot
          rw [if_neg hbroke] at hfoot
          exact executes_of_put io (same.trans hall.toSameDevices) rfl (by simpa using hfoot)
            (by simp)

theorem executeSendCmd_executes (same : h.SameDevices s.handler)
    (room : s.out.responseCnt < maxDataSize) (address msb lsb sppCommand : UInt8)
    (data : List UInt8) :
    SppExecutes h io (.sendCmd address msb lsb sppCommand data) s
      (executeSendCmd io s address msb lsb sppCommand).1
      (executeSendCmd io s address msb lsb sppCommand).2 := by
  rw [executeSendCmd]
  cases hselect : sppDeviceSelect s.handler address.toNat with
  | none => exact executes_of_refused io same rfl room (onDevice_of_none same hselect _)
  | some g =>
      have hall := (sppDeviceSelect_keeps hselect).1.trans
        (awaitHandshake_keeps io g g.deviceIndex).1
      have hdevices := same.trans hall.toSameDevices
      have hfoot : sppFootprint h io s.out.responseCnt (.sendCmd address msb lsb sppCommand data) =
          ⟨5, if sppSendCmd io h sppCommand = .ok then some 5 else none⟩ :=
        onDevice_of_some same hselect _
      rw [← sppSendCmd_congr hdevices] at hfoot
      dsimp only
      split
      · next hresult =>
          exact executes_of_put io hdevices rfl (by simpa [hresult] using hfoot)
            (fun _ => by simp [hall.bulkMode, SppCommand.isBulk])
      · next hnot =>
          rw [if_neg hnot] at hfoot
          exact executes_of_put io hdevices rfl (by simpa using hfoot) (by simp)

theorem executeReceive_executes (same : h.SameDevices s.handler)
    (room : s.out.responseCnt < maxDataSize) (address msb lsb : UInt8) :
    SppExecutes h io (.receive address msb lsb) s (executeReceive io s address msb lsb).1
      (executeReceive io s address msb lsb).2 := by
  rw [executeReceive]
  cases hselect : sppDeviceSelect s.handler address.toNat with
  | none => exact executes_of_refused io same rfl room (onDevice_of_none same hselect _)
  | some g =>
      obtain ⟨hreceive, hbytes⟩ := sppReceive_spec io g
      have hall := (sppDeviceSelect_keeps hselect).1.trans hreceive
      have hfoot : sppFootprint h io s.out.responseCnt (.receive address msb lsb) =
          ⟨4 + sppReceiveLength, some (4 + ((sppReceive io g).2.getD []).length)⟩ := by
        rw [hbytes]
        exact onDevice_of_some same hselect _
      have hle := length_received_le io
      rw [← hbytes] at hle
      dsimp only
      split
      · next k bytes hresult =>
          rw [hresult] at hall hfoot hle
          have hmode : k.bulkMode = s.handler.bulkMode := hall.bulkMode
          simp only [Option.getD_some] at hfoot hle
          refine ⟨?_, fun _ => ?_, by simp, same.trans hall.toSameDevices, fun _ => ?_⟩
          · simp only [safe_skip, safe_put, safe_lend, put_responseCnt, lend_responseCnt, hfoot,
              List.length_cons, List.length_nil]
            refine ⟨fun hsafe => ⟨hsafe.1.1.1, by omega⟩, fun hsafe => ?_⟩
            exact ⟨⟨⟨hsafe.1, by omega⟩, by omega⟩, by omega⟩
          · simp [hfoot, Nat.add_assoc]
          · simp [hmode, SppCommand.isBulk]
      · next k hresult =>
          rw [hresult] at hall hfoot
          have hmode : k.bulkMode = s.handler.bulkMode := hall.bulkMode
          refine ⟨?_, fun _ => ?_, by simp, same.trans hall.toSameDevices, fun _ => ?_⟩
          · simp only [safe_put, safe_lend, lend_responseCnt, hfoot, List.length_cons,
              List.length_nil]
            refine ⟨fun hsafe => ⟨hsafe.1.1, by omega⟩, fun hsafe => ?_⟩
            exact ⟨⟨hsafe.1, by omega⟩, by omega⟩
          · simp [hfoot]
          · simp [hmode, SppCommand.isBulk]

/-- The response around the opcode that `sppSendReceiveCmd` lends, and its seven bytes. -/
theorem safe_sendReceiveCmd (io : SppIo) (out : SppOutput) (sppCommand : UInt8)
    (bytes : List UInt8) (hlen : bytes.length = 7) :
    ((out.lendOpcode (sppSendReceiveCmd io sppCommand).2).put bytes).Safe ↔
      out.Safe ∧ out.responseCnt +
        (if sppCommand = bpkOpcode then 7 + sppOpcodeLength else 7) ≤ maxDataSize := by
  rw [safe_put, safe_lendOpcode, sppSendReceiveCmd_lends_iff, lendOpcode_responseCnt, hlen]
  split
  · next hcmd =>
      refine ⟨fun hs => ⟨hs.1.1, ?_⟩, fun hs => ⟨⟨hs.1, fun _ => ?_⟩, by omega⟩⟩
      · have := hs.1.2 hcmd
        omega
      · omega
  · next hcmd =>
      exact ⟨fun hs => ⟨hs.1.1, hs.2⟩, fun hs => ⟨⟨hs.1, fun h => absurd h hcmd⟩, hs.2⟩⟩

theorem executeSendReceiveCmd_executes (same : h.SameDevices s.handler)
    (room : s.out.responseCnt < maxDataSize) (address msbW lsbW sppCommand msbR lsbR : UInt8)
    (data : List UInt8) :
    SppExecutes h io (.sendReceiveCmd address msbW lsbW sppCommand msbR lsbR data) s
      (executeSendReceiveCmd io s address msbW lsbW sppCommand msbR lsbR).1
      (executeSendReceiveCmd io s address msbW lsbW sppCommand msbR lsbR).2 := by
  rw [executeSendReceiveCmd]
  cases hselect : sppDeviceSelect s.handler address.toNat with
  | none => exact executes_of_refused io same rfl room (onDevice_of_none same hselect _)
  | some g =>
      have hall := (sppDeviceSelect_keeps hselect).1.trans
        (awaitHandshake_keeps io g g.deviceIndex).1
      have hdevices := same.trans hall.toSameDevices
      have hmode := hall.bulkMode
      have hfoot := onDevice_of_some same hselect
        (if s.out.responseCnt + 7 + sppLength msbR lsbR > maxDataSize then ⟨0, none⟩
        else
          ⟨if sppCommand = bpkOpcode then 7 + sppOpcodeLength else 7,
            if (sppSendReceiveCmd io sppCommand).1 = .ok then some (7 + sppLength msbR lsbR)
            else none⟩)
      change sppFootprint h io s.out.responseCnt
        (.sendReceiveCmd address msbW lsbW sppCommand msbR lsbR data) = _ at hfoot
      dsimp only
      split
      · next hfull =>
          rw [if_pos hfull] at hfoot
          exact executes_of_refused io hdevices rfl room hfoot
      · next hfull =>
          rw [if_neg hfull] at hfoot
          have hsafe := safe_sendReceiveCmd io s.out sppCommand
          split
          · next hok =>
              rw [if_pos hok] at hfoot
              refine ⟨?_, fun _ => ?_, by simp, hdevices, fun _ => ?_⟩
              · rw [hfoot, safe_skip, hsafe _ rfl]
                simp only [put_responseCnt, lendOpcode_responseCnt]
                refine and_iff_left ?_
                simp
                omega
              · simp [hfoot, Nat.add_assoc]
              · simp [hmode, SppCommand.isBulk]
          · next hnot =>
              rw [if_neg hnot] at hfoot
              refine ⟨?_, by simp, fun _ => by rw [hfoot], hdevices, by simp⟩
              rw [hfoot, hsafe _ rfl]

theorem executeSppCommand_executes (request : MessageHeader) (same : h.SameDevices s.handler)
    (room : s.out.responseCnt < maxDataSize) (command : SppCommand) :
    SppExecutes h io command s (executeSppCommand io request s command).1
      (executeSppCommand io request s command).2 := by
  cases command with
  | config cmd =>
      refine ⟨?_, ?_, ?_, same, ?_⟩ <;>
        simp [executeSppCommand, sppFootprint, SppCommand.isBulk, room.le]
  | send address msb lsb data => exact executeSend_executes io same room address msb lsb data
  | receive address msb lsb => exact executeReceive_executes io same room address msb lsb
  | sendCmd address msb lsb sppCommand data =>
      exact executeSendCmd_executes io same room address msb lsb sppCommand data
  | sendReceiveCmd address msbW lsbW sppCommand msbR lsbR data =>
      exact executeSendReceiveCmd_executes io same room address msbW lsbW sppCommand msbR lsbR data
  | setSimData msb lsb data =>
      simp only [executeSppCommand]
      exact executes_of_put io same rfl (by simp [sppFootprint]) (by simp [SppCommand.isBulk])
  | bulk count =>
      simp only [executeSppCommand, executeBulk]
      split
      · next hsent =>
          exact executes_of_put io ⟨same.devHandlers, same.deviceCount, same.broadcastFilepath⟩ rfl
            (by simp [sppFootprint, hsent]) (by simp [SppCommand.isBulk])
      · next hsent =>
          exact executes_of_put io same rfl (by simp [sppFootprint, hsent]) (by simp)

end Execute

/-- The bulk address only passes through the decoder. -/
theorem nextSppCommand_snd (bulkMode : Bool) (a b : UInt8) (packet : List UInt8) :
    (nextSppCommand bulkMode a packet).2 = (nextSppCommand bulkMode b packet).2 := by
  have haddressed : ∀ operands packet,
      (addressed bulkMode a operands packet).2 = (addressed bulkMode b operands packet).2 := by
    intro operands packet
    cases packet with
    | nil => rfl
    | cons address packet =>
        simp only [addressed]
        split
        · split <;> rfl
        · rfl
  cases packet with
  | nil => rfl
  | cons cmd packet =>
      simp only [nextSppCommand]
      repeat' first
        | rfl
        | exact haddressed _ _
        | split

/-- The response is safe along the loop exactly when the commands fit. -/
theorem sppLoop_safe {h : SppHandler} (io : Nat → SppIo) (request : MessageHeader) (rounds k : Nat)
    {s : SppState} (same : h.SameDevices s.handler) (packet : List UInt8) :
    (sppLoop io request rounds k s packet).1.out.Safe ↔
      s.out.Safe ∧
        SppFits h io k s.out.responseCnt (sppCommands rounds s.handler.bulkMode packet) := by
  induction rounds generalizing k s packet with
  | zero => simp [sppLoop, sppCommands, SppFits]
  | succ rounds ih =>
      cases packet with
      | nil => simp [sppLoop, sppCommands, SppFits]
      | cons byte packet =>
          by_cases hfull : s.out.responseCnt ≥ maxDataSize
          · rw [sppLoop, if_pos hfull]
            refine (and_iff_left ?_).symm
            simp only [sppCommands]
            split
            · exact True.intro
            · exact Or.inl hfull
          · have room : s.out.responseCnt < maxDataSize := Nat.lt_of_not_le hfull
            rw [sppLoop, if_neg hfull, sppCommands,
              nextSppCommand_snd s.handler.bulkMode 0 s.bulkAddress]
            rcases nextSppCommand s.handler.bulkMode s.bulkAddress (byte :: packet) with
              ⟨bulkAddress, _ | ⟨command, rest⟩⟩
            · simp [SppFits]
            · have hexec := executeSppCommand_executes (s := { s with bulkAddress }) (io k)
                request same room command
              simp only [SppFits, hfull, false_or]
              rcases hresult : executeSppCommand (io k) request { s with bulkAddress } command with
                ⟨t, flow⟩
              rw [hresult] at hexec
              have stopped (hflow : flow ≠ .next) : t.out.Safe ↔ s.out.Safe ∧
                  s.out.responseCnt + (sppFootprint h (io k) s.out.responseCnt command).reach ≤
                    maxDataSize ∧
                  ∀ n ∈ (sppFootprint h (io k) s.out.responseCnt command).entry,
                    SppFits h io (k + 1) (s.out.responseCnt + n)
                      (sppCommands rounds (s.handler.bulkMode || command.isBulk) rest) := by
                have hentry := hexec.stops hflow
                simp only at hentry
                rw [hexec.safe, hentry]
                simp
              cases flow with
              | next =>
                  obtain ⟨n, hn, hcount⟩ := hexec.entry rfl
                  rw [ih (k + 1) hexec.devices rest, hexec.safe, hcount, hexec.bulkMode rfl,
                    and_assoc]
                  simp only [Option.mem_def] at hn
                  simp [hn]
              | broke => exact stopped (by simp)
              | returned => exact stopped (by simp)

theorem sppBulkTail_out (tail : SppTailIo) (s : SppState) : (sppBulkTail tail s).1.out = s.out := by
  simp only [sppBulkTail]
  split <;> rfl

theorem initial_safe : SppOutput.initial.Safe := by decide

/-- The output of a message is safe exactly when each of its commands, placed
behind the entries of the commands before it, reaches no further than the end of
the buffer. -/
theorem spp_response_safe_iff (io : Nat → SppIo) (tail : SppTailIo) (handler : SppHandler)
    (old : Nat → UInt8) (header : MessageHeader) (buffer : Nat → UInt8) :
    (processSppMessage io tail handler old header buffer).1.out.Safe ↔
      SppFits handler io 0 0
        (sppCommands (sppPayload header buffer).length false (sppPayload header buffer)) := by
  simp only [processSppMessage]
  cases hsize : getMessageSize header with
  | none => simp [sppPayload, hsize, sppCommands, SppFits, SppOutput.Safe]
  | some size =>
      have hlength : (sppPayload header buffer).length = size := by simp [sppPayload, hsize]
      have hsafe := sppLoop_safe (h := handler) io header size 0
        (s := ⟨{ handler with bulkMode := false }, .initial, 0, []⟩) ⟨rfl, rfl, rfl⟩
        (sppPayload header buffer)
      rw [hlength]
      dsimp only
      rcases hresult : sppLoop io header size 0
        ⟨{ handler with bulkMode := false }, .initial, 0, []⟩ (sppPayload header buffer) with
        ⟨s, flow⟩
      rw [hresult] at hsafe
      simp only [initial_safe, true_and] at hsafe
      have hloop : s.out.Safe ↔ SppFits handler io 0 0
          (sppCommands size false (sppPayload header buffer)) := hsafe
      have hexit (flow : SppFlow) : (if s.handler.bulkMode then sppBulkTail tail s
          else if flow = .next then (s.respond header, if tail.delivered then .ok else .err)
          else (s, .err)).1.out = s.out := by
        split
        · exact sppBulkTail_out tail s
        · split <;> rfl
      cases flow with
      | returned => exact hloop
      | next =>
          rw [← hexit .next] at hloop
          exact hloop
      | broke =>
          rw [← hexit .broke] at hloop
          exact hloop

/-- All eight devices open, nothing pending. -/
def idleSppHandler : SppHandler where
  devHandlers _ := true
  deviceCount := 8
  deviceIndex := ⟨0, by decide⟩
  driverHandle := none
  thresholdStatus _ := false
  bulkMode := false
  bulkAutocmdCount _ := 0
  broadcastFilepath := true

def workingDevice : SppIo := ⟨[], true, some [0], some [], true, true, true⟩

def messageBuffer (payload : List UInt8) : Nat → UInt8 := fun i => payload.getD i 0

/-- A reset action that asks for 2990 bytes is answered without any transfer and
leaves three bytes, one less than the entry of a send. -/
theorem spp_response_overflows :
    let payload : List UInt8 := [0x40, 0, 0, 0, broadcastResetAction, 0x0B, 0xAE,
      0x10, 0, 0, 1, 0xAA]
    let header : MessageHeader := ⟨1, 0, 0, 5, 12, 0, 0, 0⟩
    ¬ (processSppMessage (fun _ => workingDevice) ⟨workingDevice, workingDevice, true⟩
      idleSppHandler (fun _ => 0) header (messageBuffer payload)).1.out.Safe := by
  decide

end AtScaleDebug
