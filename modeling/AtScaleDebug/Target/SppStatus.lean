import AtScaleDebug.Target.BulkMode

/-!
How the failure of a command is reported. A command that fails ends the loop with an
error, and outside of bulk mode this is what `process_spp_message` returns. In bulk mode
the tail returns the status of the bulk packet instead, so a failure behind an
`SPP_BULK` goes unreported whenever that packet can be sent.
-/

namespace AtScaleDebug

section Failure

/-- Selecting the device fails, or what is done on it does. -/
def failsOn (h : SppHandler) (address : UInt8) (operation : SppHandler → Bool) : Bool :=
  match sppDeviceSelect h address.toNat with
  | none => true
  | some h => operation h

/-- The command is not carried out. A read that fails is not a failure, and the response
of a command with a read has to fit. -/
def SppCommand.fails (io : SppIo) (s : SppState) : SppCommand → Bool
  | .send address _ _ data => failsOn s.handler address fun h =>
      (sppSend io (awaitHandshake io h h.deviceIndex) data).2 ≠ .ok
  | .receive address _ _ => failsOn s.handler address fun _ => false
  | .sendCmd address _ _ sppCommand _ => failsOn s.handler address fun h =>
      sppSendCmd io (awaitHandshake io h h.deviceIndex) sppCommand ≠ .ok
  | .sendReceiveCmd address _ _ sppCommand msbR lsbR _ => failsOn s.handler address fun _ =>
      s.out.responseCnt + 7 + sppLength msbR lsbR > maxDataSize ∨
        (sppSendReceiveCmd io sppCommand).1 ≠ .ok
  | .config _ | .setSimData _ _ _ | .bulk _ => false

/-- The commands carried out before the one that fails, if one does: it is unknown or cut
off, it fails when it is executed, or the response is full. -/
def failsAfter (enabled : Bool) (io : Nat → SppPollIo) (request : MessageHeader) :
    Nat → Nat → SppState → SppBulk → List UInt8 → Option (List SppCommand)
  | 0, _, _, _, _ | _ + 1, _, _, _, [] => none
  | rounds + 1, k, s, b, byte :: packet =>
      if s.out.responseCnt ≥ maxDataSize then some []
      else
        match nextSppCommand s.handler.bulkMode s.bulkAddress (byte :: packet) with
        | (_, none) => some []
        | (bulkAddress, some (command, rest)) =>
            let (ibis, b) := drainCommand enabled s.handler b (io k).polled command
            let outcomes := (io k).outcomes request s ibis
            if command.fails outcomes { s with bulkAddress } then some []
            else
              match executeSppCommand outcomes request { s with bulkAddress } command with
              | (s, .next) =>
                  (failsAfter enabled io request rounds (k + 1) s (bulkAfter b .next command)
                    rest).map (command :: ·)
              | _ => none

/-- The commands a message carries out before one fails. -/
def SppRequest.failsAfter (r : SppRequest) (s : SppSession) : Option (List SppCommand) :=
  (getMessageSize r.header).bind fun size =>
    AtScaleDebug.failsAfter r.enabled r.io r.header size 0
      ⟨{ s.handler with bulkMode := false }, .initial, 0, []⟩ s.bulk (sppPayload r.header r.buffer)

/-- A command ends the loop with an error exactly when it fails. -/
theorem executeSppCommand_broke_iff (io : SppIo) (request : MessageHeader) (s : SppState)
    (command : SppCommand) :
    (executeSppCommand io request s command).2 = .broke ↔ command.fails io s = true := by
  cases command with
  | config | setSimData => exact iff_of_false (by rintro ⟨⟩) (by rintro ⟨⟩)
  | bulk count =>
      simp only [executeSppCommand, executeBulk]
      split
      · exact iff_of_false (by rintro ⟨⟩) (by rintro ⟨⟩)
      · exact iff_of_false (by rintro ⟨⟩) (by rintro ⟨⟩)
  | send address msb lsb data =>
      simp only [executeSppCommand, executeSend, SppCommand.fails, failsOn]
      cases sppDeviceSelect s.handler address.toNat with
      | none => exact iff_of_true rfl rfl
      | some h =>
          dsimp only
          split
          · next heq => simp [heq]
          · next hnot heq => simpa [heq] using hnot
  | receive address msb lsb =>
      simp only [executeSppCommand, executeReceive, SppCommand.fails, failsOn]
      cases sppDeviceSelect s.handler address.toNat with
      | none => exact iff_of_true rfl rfl
      | some h =>
          dsimp only
          split
          · exact iff_of_false (by rintro ⟨⟩) (by rintro ⟨⟩)
          · exact iff_of_false (by rintro ⟨⟩) (by rintro ⟨⟩)
  | sendCmd address msb lsb sppCommand data =>
      simp only [executeSppCommand, executeSendCmd, SppCommand.fails, failsOn]
      cases sppDeviceSelect s.handler address.toNat with
      | none => exact iff_of_true rfl rfl
      | some h =>
          dsimp only
          split
          · next heq => simp [heq]
          · next hnot => simpa using hnot
  | sendReceiveCmd address msbW lsbW sppCommand msbR lsbR data =>
      simp only [executeSppCommand, executeSendReceiveCmd, SppCommand.fails, failsOn]
      cases sppDeviceSelect s.handler address.toNat with
      | none => exact iff_of_true rfl rfl
      | some h =>
          dsimp only
          split
          · next hfull => simp [hfull]
          · next hfits =>
              split
              · next heq => simp [heq, hfits]
              · next hnot => simpa [hfits] using hnot

end Failure

section Loop

theorem isBulk_of_fails {io : SppIo} {s : SppState} {command : SppCommand}
    (h : command.fails io s = true) : command.isBulk = false := by
  cases command with
  | bulk count => cases h
  | config | send | receive | sendCmd | sendReceiveCmd | setSimData => rfl

/-- A command that is carried out. -/
theorem executeSppCommand_next {io : SppIo} {request : MessageHeader} {s t : SppState}
    {command : SppCommand} (h : executeSppCommand io request s command = (t, .next)) :
    t.handler.bulkMode = (s.handler.bulkMode || command.isBulk) ∧
      t.bulkAddress = s.bulkAddress := by
  cases hbulk : command.isBulk with
  | false =>
      obtain ⟨hmode, hsame, _⟩ := executeSppCommand_mode io request s hbulk
      rw [h] at hmode hsame
      exact ⟨by rw [hmode, Bool.or_false], hsame⟩
  | true =>
      cases command with
      | bulk count =>
          obtain ⟨hsame, ⟨_, _, hon⟩ | ⟨_, hflow, _⟩⟩ := executeSppCommand_bulk h
          · exact ⟨by rw [hon, Bool.or_true], hsame⟩
          · cases hflow
      | config | send | receive | sendCmd | sendReceiveCmd | setSimData => cases hbulk

/-- The loop breaks at the command that fails, in bulk mode if an `SPP_BULK` was carried
out before it. -/
theorem sppBulkLoop_fails (enabled : Bool) (io : Nat → SppPollIo) (request : MessageHeader)
    (rounds k : Nat) {s t : SppState} {b c : SppBulk} {flow : SppFlow} {packet : List UInt8}
    {before : List SppCommand} (haddress : s.bulkAddress.toNat < maxSppBusDevices)
    (hfails : failsAfter enabled io request rounds k s b packet = some before)
    (hloop : sppBulkLoop enabled io request rounds k s b packet = (t, c, flow)) :
    flow = .broke ∧ t.handler.bulkMode = (s.handler.bulkMode || before.any SppCommand.isBulk) ∧
      t.bulkAddress.toNat < maxSppBusDevices := by
  induction rounds generalizing k s b packet before with
  | zero => cases hfails
  | succ rounds ih =>
      cases packet with
      | nil => cases hfails
      | cons byte packet =>
          have hnew := nextSppCommand_address s.handler.bulkMode haddress (byte :: packet)
          obtain ⟨hfull, hround⟩ | ⟨bulkAddress, hroom, hnext, hround⟩ |
            ⟨bulkAddress, command, rest, u, step, hroom, hnext, hexecute, hround⟩ :=
            sppBulkLoop_round enabled io request rounds k s b byte packet
          · simp only [failsAfter, ge_iff_le, if_pos hfull] at hfails
            cases hfails
            cases hround.symm.trans hloop
            exact ⟨rfl, (Bool.or_false _).symm, haddress⟩
          · rw [hnext] at hnew
            simp only [failsAfter, ge_iff_le, if_neg (Nat.not_le.mpr hroom), hnext] at hfails
            cases hfails
            cases hround.symm.trans hloop
            exact ⟨rfl, (Bool.or_false _).symm, hnew⟩
          · rw [hnext] at hnew
            rw [hround] at hloop
            have hbroke := executeSppCommand_broke_iff ((io k).outcomes request s
              (drainCommand enabled s.handler b (io k).polled command).1) request
              { s with bulkAddress } command
            rw [hexecute] at hbroke
            simp only [failsAfter, if_neg (Nat.not_le.mpr hroom), hnext, hexecute] at hfails
            split at hfails
            · next hfailed =>
                obtain rfl := hbroke.mpr hfailed
                cases hfails
                cases hloop
                obtain ⟨hmode, hsame, _⟩ := executeSppCommand_mode ((io k).outcomes request s
                  (drainCommand enabled s.handler b (io k).polled command).1) request
                  { s with bulkAddress } (isBulk_of_fails hfailed)
                rw [hexecute] at hmode hsame
                exact ⟨rfl, by rw [hmode, List.any_nil, Bool.or_false], hsame ▸ hnew⟩
            · cases step with
              | next =>
                  obtain ⟨later, hlater, rfl⟩ := Option.map_eq_some_iff.mp hfails
                  obtain ⟨hmode, hsame⟩ := executeSppCommand_next hexecute
                  obtain ⟨hflow, hfinal, hend⟩ := ih (k + 1) (hsame ▸ hnew) hlater hloop
                  refine ⟨hflow, ?_, hend⟩
                  rw [hfinal, hmode, List.any_cons, Bool.or_assoc]
              | broke => cases hfails
              | returned => cases hfails

end Loop

section Fill

/-- The fill level of the bulk packet and the number of its events. -/
structure BulkFill where
  bufferCount : Nat
  ibiCount : Nat

def SppBulk.fill (b : SppBulk) : BulkFill := ⟨b.bufferCount, b.ibiCount⟩

/-- What an event does to them. It is stored, in an empty packet if there is no room by the
count of the code, or it is sent by itself. -/
def BulkFill.event (enabled : Bool) (f : BulkFill) (e : BpkEvent) : BulkFill :=
  if enabled = true ∧ checkSppAutoCmdEvent e = true ∧ 0 < f.bufferCount then
    if f.bufferCount + e.data.length ≥ maxDataSize ∨ f.ibiCount = sppBulkResponseIbiMaxCount then
      ⟨2 + (e.data.length + 2), 1⟩
    else ⟨f.bufferCount + (e.data.length + 2), f.ibiCount + 1⟩
  else f

variable (enabled : Bool) {b : SppBulk}

theorem sendBpkEvent_fill (b : SppBulk) (e : BpkEvent) (io : BpkIo) :
    (sendBpkEvent enabled b e io).1.fill = b.fill.event enabled e := by
  obtain ⟨hstores, hroom, heq⟩ | ⟨hstores, hroom, heq⟩ | ⟨hstores, heq⟩ :=
    sendBpkEvent_cases b e enabled io
  · rw [heq]
    exact ((if_pos hstores).trans (if_pos hroom)).symm
  · rw [heq]
    exact ((if_pos hstores).trans (if_neg hroom)).symm
  · rw [heq]
    exact (if_neg hstores).symm

theorem eventRun_fill (b : SppBulk) (events : List (BpkEvent × BpkIo)) :
    (eventRun enabled b events).fill =
      (events.map Prod.fst).foldl (BulkFill.event enabled) b.fill := by
  induction events generalizing b with
  | nil => rfl
  | cons p events ih =>
      rw [List.map_cons, List.foldl_cons, ← sendBpkEvent_fill enabled b p.1 p.2, ← ih]
      rfl

/-- A packet that is under way has at most one byte too many. -/
theorem eventRun_bufferCount_le (h : b.bufferCount ≤ maxDataSize + 1)
    (events : List (BpkEvent × BpkIo)) :
    (eventRun enabled b events).bufferCount ≤ maxDataSize + 1 := by
  have hstep (f : BulkFill) (e : BpkEvent) (hf : f.bufferCount ≤ maxDataSize + 1) :
      (f.event enabled e).bufferCount ≤ maxDataSize + 1 := by
    have hfits := e.fits
    rw [eventBufferSize] at hfits
    rw [maxDataSize] at hf ⊢
    rw [BulkFill.event, maxDataSize]
    split
    · split
      · dsimp only
        omega
      · next hroom =>
          dsimp only
          omega
    · exact hf
  have hfill := congrArg BulkFill.bufferCount (eventRun_fill enabled b events)
  refine hfill.trans_le ?_
  exact List.foldlRecOn (events.map Prod.fst) (BulkFill.event enabled) h
    fun f hf e _ => hstep f e hf

/-- In bulk mode a packet is under way. -/
theorem sppBulkLoop_bufferCount_le (io : Nat → SppPollIo) (request : MessageHeader)
    (rounds k : Nat) {s t : SppState} {c : SppBulk} {flow : SppFlow} (packet : List UInt8)
    (h : s.handler.bulkMode = true → b.bufferCount ≤ maxDataSize + 1)
    (hloop : sppBulkLoop enabled io request rounds k s b packet = (t, c, flow)) :
    t.handler.bulkMode = true → c.bufferCount ≤ maxDataSize + 1 := by
  induction rounds generalizing k s b packet with
  | zero =>
      cases hloop
      exact h
  | succ rounds ih =>
      cases packet with
      | nil =>
          cases hloop
          exact h
      | cons byte packet =>
          obtain ⟨hfull, hround⟩ | ⟨bulkAddress, hroom, hnext, hround⟩ |
            ⟨bulkAddress, command, rest, u, step, hroom, hnext, hexecute, hround⟩ :=
            sppBulkLoop_round enabled io request rounds k s b byte packet
          · cases hround.symm.trans hloop
            exact h
          · cases hround.symm.trans hloop
            exact h
          · rw [hround] at hloop
            obtain ⟨events, hevents⟩ :=
              drainCommand_run enabled s.handler b (io k).polled command
            have hafter : u.handler.bulkMode = true →
                (bulkAfter (drainCommand enabled s.handler b (io k).polled command).2 step
                  command).bufferCount ≤ maxDataSize + 1 := by
              rw [hevents]
              cases hbulk : command.isBulk with
              | false =>
                  obtain ⟨hmode, -⟩ := executeSppCommand_mode ((io k).outcomes request s
                    (drainCommand enabled s.handler b (io k).polled command).1) request
                    { s with bulkAddress } hbulk
                  rw [hexecute] at hmode
                  rw [bulkAfter_of_not_bulk hbulk, hmode]
                  exact fun hon => eventRun_bufferCount_le enabled (h hon) events
              | true =>
                  cases command with
                  | bulk count =>
                      obtain ⟨-, ⟨-, rfl, -⟩ | ⟨-, rfl, hmode⟩⟩ := executeSppCommand_bulk hexecute
                      · exact fun _ => show 2 ≤ maxDataSize + 1 by decide
                      · rw [hmode]
                        exact fun hon => eventRun_bufferCount_le enabled (h hon) events
                  | config | send | receive | sendCmd | sendReceiveCmd | setSimData =>
                      cases hbulk
            cases step with
            | next => exact ih (k + 1) rest hafter hloop
            | broke | returned =>
                cases hloop
                exact hafter

end Fill

section Report

/-- The state and the bulk packet before the tail of the message. -/
def SppRequest.beforeTail (r : SppRequest) (s : SppSession) : SppState × SppBulk :=
  let (t, b, _) := sppBulkLoop r.enabled r.io r.header ((getMessageSize r.header).getD 0) 0
    ⟨{ s.handler with bulkMode := false }, .initial, 0, []⟩ s.bulk (sppPayload r.header r.buffer)
  (t, b)

/-- The events of the tail fill the packet, from its level before the tail, past the size of
a message. -/
def SppRequest.TailOverfills (r : SppRequest) (before : SppState × SppBulk) : Prop :=
  ∃ ha : before.1.bulkAddress.toNat < maxSppBusDevices,
    let events := tailEvents r ⟨before.1.bulkAddress.toNat, ha⟩ before.1.handler before.2
    maxDataSize <
      ((events.map Prod.fst).foldl (BulkFill.event r.enabled) before.2.fill).bufferCount

/-- The message ends with an error, and the client is told so. -/
structure FailureReported (s : SppSession) (r : SppRequest) : Prop where
  status : (processSppRequest s r).2.2 = .err
  packet : errorMessage r.header asdFailureProcessSppMsg ∈ (processMessageSpp true s r).2

/-- The error message follows the status. -/
theorem failureReported_iff {s : SppSession} {r : SppRequest}
    (hsupported : r.header.cmdStat = 0 ∨ r.header.cmdStat = 0x80 ∨ r.header.cmdStat = 1) :
    FailureReported s r ↔ (processSppRequest s r).2.2 = .err := by
  constructor
  · exact fun h => h.status
  · intro hstatus
    refine ⟨hstatus, ?_⟩
    have hnot := mt not_supported_iff.mp (not_not.mpr hsupported)
    rw [processMessageSpp, if_neg hnot, if_neg (by decide)]
    dsimp only
    rw [hstatus]
    exact List.mem_append_right _ List.mem_cons_self

theorem finishBulk_status {r : SppRequest} {t : SppState} (b : SppBulk)
    (ha : t.bulkAddress.toNat < maxSppBusDevices) (hwritten : r.written = true) :
    (finishBulk r t b).2.2 = .err ↔
      getMessageSize
        (eventHeader (drainTail r ⟨t.bulkAddress.toNat, ha⟩ t.handler b).2.2.bufferCount) =
        none := by
  have hsent : (sendBulkBpkEvent (drainTail r ⟨t.bulkAddress.toNat, ha⟩ t.handler b).2.2
      r.written).2 = .ok ↔ getMessageSize
        (eventHeader (drainTail r ⟨t.bulkAddress.toNat, ha⟩ t.handler b).2.2.bufferCount) ≠
        none := by
    simp [sendBulkBpkEvent, hwritten, Option.isSome_iff_ne_none]
  rw [finishBulk, dif_pos ha]
  dsimp only
  rw [sppBulkTail, dif_pos ha]
  dsimp only
  by_cases hnone : getMessageSize
      (eventHeader (drainTail r ⟨t.bulkAddress.toNat, ha⟩ t.handler b).2.2.bufferCount) = none
  · rw [if_neg (by rw [decide_eq_true_eq, hsent]; exact not_not.mpr hnone)]
    exact iff_of_true rfl hnone
  · rw [if_pos (by rw [decide_eq_true_eq, hsent]; exact hnone)]
    exact iff_of_false (by rintro ⟨⟩) hnone

/-- The packet of the tail is refused when it is overfilled. -/
theorem tailRefused_iff {r : SppRequest} {t : SppState} {b : SppBulk}
    (ha : t.bulkAddress.toNat < maxSppBusDevices) (hfits : b.bufferCount ≤ maxDataSize + 1) :
    getMessageSize
        (eventHeader (drainTail r ⟨t.bulkAddress.toNat, ha⟩ t.handler b).2.2.bufferCount) = none ↔
      r.TailOverfills (t, b) := by
  have hevents := drainTail_events r ⟨t.bulkAddress.toNat, ha⟩ t.handler b
  have hfill := congrArg BulkFill.bufferCount (eventRun_fill r.enabled b
    (tailEvents r ⟨t.bulkAddress.toNat, ha⟩ t.handler b))
  rw [hevents, getMessageSize_eventHeader (eventRun_bufferCount_le r.enabled hfits _),
    SppRequest.TailOverfills, exists_prop_of_true ha]
  dsimp only
  rw [← hfill, SppBulk.fill]
  split
  · next hle => exact iff_of_false (by rintro ⟨⟩) (Nat.not_lt.mpr hle)
  · next hlarge => exact iff_of_true rfl (Nat.lt_of_not_le hlarge)

/-- A message with a command that fails, on a transport that works, is reported if and only
if no `SPP_BULK` was carried out before that command, or the events of the tail overfill the
bulk packet, which `send_response` then refuses. -/
theorem spp_failure_reported {s : SppSession} {r : SppRequest} {before : List SppCommand}
    (hsupported : r.header.cmdStat = 0 ∨ r.header.cmdStat = 0x80 ∨ r.header.cmdStat = 1)
    (hwritten : r.written = true) (hfails : r.failsAfter s = some before) :
    FailureReported s r ↔
      (∀ command ∈ before, command.isBulk = false) ∨ r.TailOverfills (r.beforeTail s) := by
  obtain ⟨size, hsize, hloopFails⟩ := Option.bind_eq_some_iff.mp hfails
  obtain ⟨t, b, flow, hloop, hresult⟩ := processSppRequest_loop s hsize
  have hzero : (0 : UInt8).toNat < maxSppBusDevices := by decide
  obtain ⟨rfl, hmode, ha⟩ :=
    sppBulkLoop_fails r.enabled r.io r.header size 0 hzero hloopFails hloop
  rw [Bool.false_or] at hmode
  have hbefore : r.beforeTail s = (t, b) := by
    simp only [SppRequest.beforeTail, hsize, Option.getD_some, hloop]
  rw [failureReported_iff hsupported, hresult, if_neg (by rintro ⟨⟩), hbefore]
  cases hany : before.any SppCommand.isBulk with
  | false =>
      rw [hany] at hmode
      rw [if_neg (ne_true_of_eq_false hmode), if_neg (by rintro ⟨⟩)]
      refine iff_of_true rfl (.inl fun command hmem => ?_)
      exact Bool.eq_false_of_not_eq_true (List.any_eq_false.mp hany command hmem)
  | true =>
      rw [hany] at hmode
      have hfits := sppBulkLoop_bufferCount_le r.enabled r.io r.header size 0 _
        (fun hon => absurd hon Bool.false_ne_true) hloop hmode
      rw [if_pos hmode, finishBulk_status b ha hwritten, tailRefused_iff ha hfits]
      refine (or_iff_right fun hnone => ?_).symm
      obtain ⟨command, hmem, hisBulk⟩ := List.any_eq_true.mp hany
      exact ne_true_of_eq_false (hnone command hmem) hisBulk

/-- An unknown command by itself. -/
theorem spp_failure_reported_unknown :
    let s : SppSession := ⟨awaitingHandler, .initial, fun _ => 0⟩
    let r := restartRequest [0xFF] (fun _ => true) []
    r.failsAfter s = some [] ∧ FailureReported s r := by
  intro s r
  have hfails : r.failsAfter s = some [] := by decide +kernel
  exact ⟨hfails, (spp_failure_reported (.inl rfl) rfl hfails).mpr (.inl (by rintro command ⟨⟩))⟩

/-- The same command behind an `SPP_BULK`. -/
theorem spp_failure_overwritten :
    let s : SppSession := ⟨awaitingHandler, .initial, fun _ => 0⟩
    let r := restartRequest [0x60, 1, 0xFF] (fun _ => true) []
    r.failsAfter s = some [.bulk 1] ∧ (processSppRequest s r).2.2 = .ok := by
  decide +kernel

end Report

end AtScaleDebug
