import AtScaleDebug.Lib.WrapCounter
import AtScaleDebug.Target.BulkMode

/-!
The counters of automatic commands. In bulk mode every send to a device counts up and
every interrupt of it with data ready counts down, and the end of a bulk waits until the
counter of its last device is zero. The counters are bytes and a bulk has room for more
sends than they can count, so they are right exactly as long as no send finds its counter
at 255; the 256th send that is not answered makes the wait end before it starts.
-/

namespace AtScaleDebug

open ByteBuffer WrapCounter

section Moves

/-- How many values a counter has. -/
def autocmdValues : Nat := 256

def SppHandler.autocmdCounts (h : SppHandler) (device : Fin maxSppBusDevices) : Nat :=
  (h.bulkAutocmdCount device).toNat

def ibiMoves : Fin maxSppBusDevices × SppIbi → List (Move (Fin maxSppBusDevices))
  | (device, .dataReady) => [.down device]
  | (_, .statusChanged) | (_, .other) => []

/-- The interrupts that a handler takes; they only count in bulk mode. -/
def SppHandler.ibisMoves (h : SppHandler) (ibis : List (Fin maxSppBusDevices × SppIbi)) :
    List (Move (Fin maxSppBusDevices)) :=
  if h.bulkMode then ibis.flatMap ibiMoves else []

/-- A send to the selected device. One without data is refused before it counts. -/
def SppHandler.sendMoves (h : SppHandler) (data : List UInt8) :
    List (Move (Fin maxSppBusDevices)) :=
  if h.bulkMode ∧ data ≠ [] then [.up h.deviceIndex] else []

/-- What a command does to the counters that takes the given interrupts. -/
def commandMoves (h : SppHandler) (ibis : List (Fin maxSppBusDevices × SppIbi)) :
    SppCommand → List (Move (Fin maxSppBusDevices))
  | .send address _ _ data =>
      match sppDeviceSelect h address.toNat with
      | some h => h.ibisMoves ibis ++ h.sendMoves data
      | none => []
  | .sendCmd address _ _ _ _ | .sendReceiveCmd address _ _ _ _ _ _ =>
      match sppDeviceSelect h address.toNat with
      | some h => h.ibisMoves ibis
      | none => []
  | _ => []

/-- The moves of the command loop, in the order of the commands. -/
def loopMoves (enabled : Bool) (io : Nat → SppPollIo) (request : MessageHeader) :
    Nat → Nat → SppState → SppBulk → List UInt8 → List (Move (Fin maxSppBusDevices))
  | 0, _, _, _, _ => []
  | _ + 1, _, _, _, [] => []
  | rounds + 1, k, s, b, byte :: packet =>
      if s.out.responseCnt ≥ maxDataSize then []
      else
        match nextSppCommand s.handler.bulkMode s.bulkAddress (byte :: packet) with
        | (_, none) => []
        | (bulkAddress, some (command, rest)) =>
            let (ibis, b) := drainCommand enabled s.handler b (io k).polled command
            commandMoves s.handler ibis command ++
              match executeSppCommand ((io k).outcomes request s ibis) request
                { s with bulkAddress } command with
              | (s, .next) =>
                  loopMoves enabled io request rounds (k + 1) s (bulkAfter b .next command) rest
              | _ => []

end Moves

section Counts
variable {h g : SppHandler}

theorem SppHandler.autocmdCounts_congr (hcounts : g.bulkAutocmdCount = h.bulkAutocmdCount) :
    g.autocmdCounts = h.autocmdCounts :=
  congrArg (fun counts device => (counts device).toNat) hcounts

theorem sppDeviceSelect_counts {device : Nat} (hg : sppDeviceSelect h device = some g) :
    g.bulkAutocmdCount = h.bulkAutocmdCount ∧ g.bulkMode = h.bulkMode := by
  rw [sppDeviceSelect] at hg
  split at hg
  · split at hg
    · cases hg
      exact ⟨rfl, rfl⟩
    · cases hg
  · cases hg

theorem i3cIbiHandler_same (h : SppHandler) (ibi : Fin maxSppBusDevices × SppIbi) :
    (i3cIbiHandler h ibi).bulkMode = h.bulkMode ∧
      (i3cIbiHandler h ibi).deviceIndex = h.deviceIndex := by
  obtain ⟨device, kind⟩ := ibi
  cases kind with
  | statusChanged | other => exact ⟨rfl, rfl⟩
  | dataReady =>
      rw [i3cIbiHandler]
      split
      · exact ⟨rfl, rfl⟩
      · exact ⟨rfl, rfl⟩

theorem foldl_ibis_same (h : SppHandler) (ibis : List (Fin maxSppBusDevices × SppIbi)) :
    (ibis.foldl i3cIbiHandler h).bulkMode = h.bulkMode ∧
      (ibis.foldl i3cIbiHandler h).deviceIndex = h.deviceIndex := by
  induction ibis generalizing h with
  | nil => exact ⟨rfl, rfl⟩
  | cons ibi ibis ih =>
      obtain ⟨hmode, hindex⟩ := ih (i3cIbiHandler h ibi)
      obtain ⟨hfirst, hdevice⟩ := i3cIbiHandler_same h ibi
      exact ⟨hmode.trans hfirst, hindex.trans hdevice⟩

theorem counts_update (counts : Fin maxSppBusDevices → UInt8) (device : Fin maxSppBusDevices)
    (count : UInt8) :
    (fun d => (Function.update counts device count d).toNat) =
      Function.update (fun d => (counts d).toNat) device count.toNat :=
  Function.comp_update UInt8.toNat counts device count

theorem i3cIbiHandler_counts (h : SppHandler) (ibi : Fin maxSppBusDevices × SppIbi) :
    (i3cIbiHandler h ibi).autocmdCounts =
      Machine.run (wrapping autocmdValues) h.autocmdCounts (h.ibisMoves [ibi]) := by
  obtain ⟨device, kind⟩ := ibi
  rw [SppHandler.ibisMoves, List.flatMap_singleton]
  cases kind with
  | statusChanged | other => split <;> rfl
  | dataReady =>
      rw [i3cIbiHandler]
      split
      · next hcounts =>
          have hone : (1 : UInt8) ≤ h.bulkAutocmdCount device := hcounts.2
          have hcount := counts_update h.bulkAutocmdCount device (h.bulkAutocmdCount device - 1)
          rw [UInt8.toNat_sub_of_le _ _ hone] at hcount
          rw [if_pos hcounts.1]
          exact hcount
      · next hidle =>
          split
          · next hmode =>
              have hzero : (h.bulkAutocmdCount device).toNat = 0 :=
                Nat.le_zero.mp (Nat.not_lt.mp fun hpos => hidle ⟨hmode, hpos⟩)
              refine (Function.update_eq_self_iff.mpr ?_).symm
              change (h.bulkAutocmdCount device).toNat - 1 = (h.bulkAutocmdCount device).toNat
              rw [hzero]
          · rfl

theorem ibisMoves_cons (h : SppHandler) (ibi : Fin maxSppBusDevices × SppIbi)
    (ibis : List (Fin maxSppBusDevices × SppIbi)) :
    h.ibisMoves (ibi :: ibis) = h.ibisMoves [ibi] ++ (i3cIbiHandler h ibi).ibisMoves ibis := by
  rw [SppHandler.ibisMoves, SppHandler.ibisMoves, SppHandler.ibisMoves,
    (i3cIbiHandler_same h ibi).1]
  split
  · rw [List.flatMap_cons, List.flatMap_singleton]
  · rfl

theorem ibisMoves_append (h : SppHandler) (ibis more : List (Fin maxSppBusDevices × SppIbi)) :
    h.ibisMoves (ibis ++ more) = h.ibisMoves ibis ++ h.ibisMoves more := by
  rw [SppHandler.ibisMoves, SppHandler.ibisMoves, SppHandler.ibisMoves]
  split
  · exact List.flatMap_append
  · rfl

theorem foldl_ibis_counts (h : SppHandler) (ibis : List (Fin maxSppBusDevices × SppIbi)) :
    (ibis.foldl i3cIbiHandler h).autocmdCounts =
      Machine.run (wrapping autocmdValues) h.autocmdCounts (h.ibisMoves ibis) := by
  induction ibis generalizing h with
  | nil =>
      rw [SppHandler.ibisMoves]
      split <;> rfl
  | cons ibi ibis ih =>
      rw [List.foldl_cons, ih, ibisMoves_cons h ibi ibis, Machine.run_append,
        ← i3cIbiHandler_counts]

theorem sppSend_counts (io : SppIo) (h : SppHandler) (data : List UInt8) :
    (sppSend io h data).1.autocmdCounts =
      Machine.run (wrapping autocmdValues) h.autocmdCounts (h.sendMoves data) := by
  rw [sppSend, SppHandler.sendMoves]
  split
  · next hempty =>
      have hnil : data = [] := List.eq_nil_of_length_eq_zero hempty
      rw [if_neg fun hsome => hsome.2 hnil]
      rfl
  · next hsome =>
      have hdata : data ≠ [] := fun hnil => hsome (by rw [hnil]; rfl)
      by_cases hmode : h.bulkMode
      · have hcount := counts_update h.bulkAutocmdCount h.deviceIndex
          (h.bulkAutocmdCount h.deviceIndex + 1)
        rw [UInt8.toNat_add] at hcount
        rw [if_pos ⟨hmode, hdata⟩]
        dsimp only
        rw [if_pos hmode]
        exact hcount
      · rw [if_neg fun hsome => hmode hsome.1]
        dsimp only
        rw [if_neg hmode]
        rfl

theorem sendResetRx_counts (h : SppHandler) :
    (sendResetRx h).bulkAutocmdCount = h.bulkAutocmdCount := by
  rw [sendResetRx]
  generalize List.range h.deviceCount = devices
  induction devices generalizing h with
  | nil => rfl
  | cons device devices ih =>
      rw [List.foldl_cons, ih]
      cases hselect : sppDeviceSelect h device with
      | none => rfl
      | some g => exact (sppDeviceSelect_counts hselect).1

theorem sppReceive_counts (io : SppIo) (h : SppHandler) :
    (sppReceive io h).1.bulkAutocmdCount = h.bulkAutocmdCount := by
  rw [sppReceive]
  split
  · exact sendResetRx_counts h
  · rfl

end Counts

section Commands
variable {enabled : Bool} {io : SppIo} {request : MessageHeader} {s t : SppState} {b : SppBulk}
  {flow : SppFlow} {polled : List Polled}

/-- A command takes no interrupts unless it waits for the handshake. -/
theorem awaitHandshake_drained {g : SppHandler} {device : Nat} {command : SppCommand}
    (hselect : sppDeviceSelect s.handler device = some g)
    (hwaits : waitingHandler s.handler command =
      (sppDeviceSelect s.handler device).filter fun h => h.thresholdStatus h.deviceIndex)
    (hibis : io.ibis = (drainCommand enabled s.handler b polled command).1) :
    awaitHandshake io g g.deviceIndex = io.ibis.foldl i3cIbiHandler g := by
  rw [awaitHandshake]
  split
  · rfl
  · next hidle =>
      have hnone : waitingHandler s.handler command = none := by
        rw [hwaits, hselect, Option.filter_some, if_neg hidle]
      rw [hibis, drainCommand, hnone]
      rfl

/-- The wait for the handshake takes the interrupts and leaves the mode and the device. -/
theorem awaitHandshake_counts {g : SppHandler} {device : Nat} {command : SppCommand}
    (hselect : sppDeviceSelect s.handler device = some g)
    (hwaits : waitingHandler s.handler command =
      (sppDeviceSelect s.handler device).filter fun h => h.thresholdStatus h.deviceIndex)
    (hibis : io.ibis = (drainCommand enabled s.handler b polled command).1) :
    (awaitHandshake io g g.deviceIndex).autocmdCounts = Machine.run (wrapping autocmdValues)
        s.handler.autocmdCounts (g.ibisMoves io.ibis) ∧
      ∀ data, (awaitHandshake io g g.deviceIndex).sendMoves data = g.sendMoves data := by
  rw [awaitHandshake_drained hselect hwaits hibis]
  obtain ⟨hmode, hdevice⟩ := foldl_ibis_same g io.ibis
  constructor
  · rw [foldl_ibis_counts, SppHandler.autocmdCounts_congr (sppDeviceSelect_counts hselect).1]
  · intro data
    rw [SppHandler.sendMoves, SppHandler.sendMoves, hmode, hdevice]

theorem executeSend_counts (enabled : Bool) (b : SppBulk) (polled : List Polled)
    {address msb lsb : UInt8} {data : List UInt8}
    (h : executeSend io s address msb lsb data = (t, flow))
    (hibis : io.ibis =
      (drainCommand enabled s.handler b polled (.send address msb lsb data)).1) :
    t.handler.autocmdCounts = Machine.run (wrapping autocmdValues) s.handler.autocmdCounts
      (commandMoves s.handler io.ibis (.send address msb lsb data)) := by
  rw [executeSend] at h
  rw [commandMoves]
  split at h
  · next hselect =>
      cases h
      rw [hselect]
      rfl
  · next g hselect =>
      obtain ⟨hcounts, hmoves⟩ := awaitHandshake_counts hselect rfl hibis
      have hsent := sppSend_counts io (awaitHandshake io g g.deviceIndex) data
      rw [hcounts, hmoves, ← Machine.run_append] at hsent
      rw [hselect]
      split at h
      · next sent hsend =>
          cases h
          rw [hsend] at hsent
          exact hsent
      · next sent _ _ hsend =>
          cases h
          rw [hsend] at hsent
          exact hsent

theorem executeReceive_counts {address msb lsb : UInt8}
    (h : executeReceive io s address msb lsb = (t, flow)) :
    t.handler.autocmdCounts = s.handler.autocmdCounts := by
  rw [executeReceive] at h
  split at h
  · cases h
    rfl
  · next g hselect =>
      have hreceived : (sppReceive io g).1.autocmdCounts = s.handler.autocmdCounts := by
        rw [SppHandler.autocmdCounts_congr (sppReceive_counts io g),
          SppHandler.autocmdCounts_congr (sppDeviceSelect_counts hselect).1]
      dsimp only at h
      split at h
      · next received bytes hreceive =>
          cases h
          rw [hreceive] at hreceived
          exact hreceived
      · next received hreceive =>
          cases h
          rw [hreceive] at hreceived
          exact hreceived

theorem executeSendCmd_counts (enabled : Bool) (b : SppBulk) (polled : List Polled)
    {address msb lsb sppCommand : UInt8} {data : List UInt8}
    (h : executeSendCmd io s address msb lsb sppCommand = (t, flow))
    (hibis : io.ibis =
      (drainCommand enabled s.handler b polled (.sendCmd address msb lsb sppCommand data)).1) :
    t.handler.autocmdCounts = Machine.run (wrapping autocmdValues) s.handler.autocmdCounts
      (commandMoves s.handler io.ibis (.sendCmd address msb lsb sppCommand data)) := by
  rw [executeSendCmd] at h
  rw [commandMoves]
  split at h
  · next hselect =>
      cases h
      rw [hselect]
      rfl
  · next g hselect =>
      have hcounts := (awaitHandshake_counts hselect rfl hibis).1
      rw [hselect]
      dsimp only at h
      split at h
      · cases h
        exact hcounts
      · cases h
        exact hcounts

theorem executeSendReceiveCmd_counts (enabled : Bool) (b : SppBulk) (polled : List Polled)
    {address msbW lsbW sppCommand msbR lsbR : UInt8} {data : List UInt8}
    (h : executeSendReceiveCmd io s address msbW lsbW sppCommand msbR lsbR = (t, flow))
    (hibis : io.ibis = (drainCommand enabled s.handler b polled
      (.sendReceiveCmd address msbW lsbW sppCommand msbR lsbR data)).1) :
    t.handler.autocmdCounts = Machine.run (wrapping autocmdValues) s.handler.autocmdCounts
      (commandMoves s.handler io.ibis
        (.sendReceiveCmd address msbW lsbW sppCommand msbR lsbR data)) := by
  rw [executeSendReceiveCmd] at h
  rw [commandMoves]
  split at h
  · next hselect =>
      cases h
      rw [hselect]
      rfl
  · next g hselect =>
      have hcounts := (awaitHandshake_counts hselect rfl hibis).1
      rw [hselect]
      dsimp only at h
      split at h
      · cases h
        exact hcounts
      · split at h
        · cases h
          exact hcounts
        · cases h
          exact hcounts

theorem executeSppCommand_counts (enabled : Bool) (b : SppBulk) (polled : List Polled)
    {command : SppCommand} (h : executeSppCommand io request s command = (t, flow))
    (hibis : io.ibis = (drainCommand enabled s.handler b polled command).1) :
    t.handler.autocmdCounts = Machine.run (wrapping autocmdValues) s.handler.autocmdCounts
      (commandMoves s.handler io.ibis command) := by
  cases command with
  | config | setSimData =>
      cases h
      rfl
  | bulk count =>
      simp only [executeSppCommand, executeBulk] at h
      split at h
      · cases h
        rfl
      · cases h
        rfl
  | send address msb lsb data => exact executeSend_counts enabled b polled h hibis
  | receive address msb lsb => exact executeReceive_counts h
  | sendCmd address msb lsb sppCommand data => exact executeSendCmd_counts enabled b polled h hibis
  | sendReceiveCmd address msbW lsbW sppCommand msbR lsbR data =>
      exact executeSendReceiveCmd_counts enabled b polled h hibis

end Commands

section Loop
variable {enabled : Bool} {io : Nat → SppPollIo} {request : MessageHeader}

theorem autocmdCounts_lt (h : SppHandler) (device : Fin maxSppBusDevices) :
    h.autocmdCounts device < autocmdValues := UInt8.toNat_lt (h.bulkAutocmdCount device)

theorem ibisMoves_downs (h : SppHandler) (ibis : List (Fin maxSppBusDevices × SppIbi)) :
    ∀ move ∈ h.ibisMoves ibis, ∃ device, move = .down device := by
  intro move hmem
  rw [SppHandler.ibisMoves] at hmem
  split at hmem
  · obtain ⟨⟨device, kind⟩, _, hmove⟩ := List.mem_flatMap.mp hmem
    cases kind with
    | dataReady => exact ⟨device, List.mem_singleton.mp hmove⟩
    | statusChanged | other => cases hmove
  · cases hmem

/-- A command counts up at most once, and last. -/
theorem commandMoves_split (h : SppHandler) (ibis : List (Fin maxSppBusDevices × SppIbi))
    (command : SppCommand) :
    ∃ downs last, commandMoves h ibis command = downs ++ last ∧
      (∀ move ∈ downs, ∃ device, move = .down device) ∧ last.length ≤ 1 := by
  have hnone : ∃ downs last, ([] : List (Move (Fin maxSppBusDevices))) = downs ++ last ∧
      (∀ move ∈ downs, ∃ device, move = .down device) ∧ last.length ≤ 1 :=
    ⟨[], [], rfl, by rintro move ⟨⟩, Nat.zero_le 1⟩
  have hibis (g : SppHandler) : ∃ downs last, g.ibisMoves ibis = downs ++ last ∧
      (∀ move ∈ downs, ∃ device, move = .down device) ∧ last.length ≤ 1 :=
    ⟨_, [], (List.append_nil _).symm, ibisMoves_downs g ibis, Nat.zero_le 1⟩
  cases command with
  | config | receive | setSimData | bulk => exact hnone
  | send address msb lsb data =>
      rw [commandMoves]
      split
      · next g hselect =>
          refine ⟨_, _, rfl, ibisMoves_downs g ibis, ?_⟩
          rw [SppHandler.sendMoves]
          split
          · exact Nat.le_refl 1
          · exact Nat.zero_le 1
      · exact hnone
  | sendCmd | sendReceiveCmd =>
      rw [commandMoves]
      split
      · exact hibis _
      · exact hnone

theorem loopMoves_step {k : Nat} {s t : SppState} {b : SppBulk} {byte bulkAddress : UInt8}
    {packet rest : List UInt8} {command : SppCommand} {flow : SppFlow} (rounds : Nat)
    (hroom : s.out.responseCnt < maxDataSize)
    (hnext : nextSppCommand s.handler.bulkMode s.bulkAddress (byte :: packet) =
      (bulkAddress, some (command, rest)))
    (hexecute : executeSppCommand ((io k).outcomes request s
      (drainCommand enabled s.handler b (io k).polled command).1) request { s with bulkAddress }
      command = (t, flow)) :
    loopMoves enabled io request (rounds + 1) k s b (byte :: packet) =
      commandMoves s.handler (drainCommand enabled s.handler b (io k).polled command).1 command ++
        if flow = .next then
          loopMoves enabled io request rounds (k + 1) t
            (bulkAfter (drainCommand enabled s.handler b (io k).polled command).2 .next command)
            rest
        else [] := by
  rw [loopMoves, if_neg (Nat.not_le.mpr hroom), hnext]
  dsimp only
  rw [hexecute]
  cases flow with
  | next => rfl
  | broke | returned => rfl

/-- What a round adds to the moves, however many more rounds there are. -/
theorem loopMoves_round (enabled : Bool) (io : Nat → SppPollIo) (request : MessageHeader)
    (k : Nat) (s : SppState) (b : SppBulk) (byte : UInt8) (packet : List UInt8) :
    (∀ rounds, loopMoves enabled io request (rounds + 1) k s b (byte :: packet) = []) ∨
    ∃ ibis command t c flow rest,
      t.handler.autocmdCounts = Machine.run (wrapping autocmdValues) s.handler.autocmdCounts
        (commandMoves s.handler ibis command) ∧
      ∀ rounds, loopMoves enabled io request (rounds + 1) k s b (byte :: packet) =
        commandMoves s.handler ibis command ++
          if flow = SppFlow.next then loopMoves enabled io request rounds (k + 1) t c rest
          else [] := by
  obtain ⟨hfull, _⟩ | ⟨bulkAddress, hroom, hnext, _⟩ |
    ⟨bulkAddress, command, rest, t, flow, hroom, hnext, hexecute, _⟩ :=
    sppBulkLoop_round enabled io request 0 k s b byte packet
  · exact .inl fun rounds => by rw [loopMoves, if_pos hfull]
  · exact .inl fun rounds => by rw [loopMoves, if_neg (Nat.not_le.mpr hroom), hnext]
  · have hcounts := executeSppCommand_counts enabled b (io k).polled hexecute rfl
    exact .inr ⟨_, command, t, _, flow, rest, hcounts, fun rounds =>
      loopMoves_step rounds hroom hnext hexecute⟩

theorem sppBulkLoop_counts (rounds k : Nat) (s : SppState) (b : SppBulk) (packet : List UInt8) :
    (sppBulkLoop enabled io request rounds k s b packet).1.handler.autocmdCounts =
      Machine.run (wrapping autocmdValues) s.handler.autocmdCounts
        (loopMoves enabled io request rounds k s b packet) := by
  induction rounds generalizing k s b packet with
  | zero => rfl
  | succ rounds ih =>
      cases packet with
      | nil => rfl
      | cons byte packet =>
          obtain ⟨hfull, hround⟩ | ⟨bulkAddress, hroom, hnext, hround⟩ |
            ⟨bulkAddress, command, rest, t, flow, hroom, hnext, hexecute, hround⟩ :=
            sppBulkLoop_round enabled io request rounds k s b byte packet
          · rw [hround, loopMoves, if_pos hfull]
            rfl
          · rw [hround, loopMoves, if_neg (Nat.not_le.mpr hroom), hnext]
            rfl
          · have hcounts := executeSppCommand_counts enabled b (io k).polled hexecute rfl
            rw [hround, loopMoves_step rounds hroom hnext hexecute, Machine.run_append]
            split
            · rw [ih, hcounts]
              rfl
            · exact hcounts

/-- The counters are exact after every command if and only if every send finds room. -/
theorem loopMoves_room_iff (rounds k : Nat) (s : SppState) (b : SppBulk) (packet : List UInt8) :
    (∀ first ≤ rounds,
      Machine.run (wrapping autocmdValues) s.handler.autocmdCounts
          (loopMoves enabled io request first k s b packet) =
        Machine.run exact s.handler.autocmdCounts
          (loopMoves enabled io request first k s b packet)) ↔
      Machine.Meets exact (Room autocmdValues) s.handler.autocmdCounts
        (loopMoves enabled io request rounds k s b packet) := by
  induction rounds generalizing k s b packet with
  | zero =>
      refine iff_of_true (fun first hfirst => ?_) True.intro
      rw [Nat.le_zero.mp hfirst]
      rfl
  | succ rounds ih =>
      cases packet with
      | nil =>
          refine iff_of_true (fun first _ => ?_) True.intro
          cases first with
          | zero | succ => rfl
      | cons byte packet =>
          obtain hnone | ⟨ibis, command, t, c, flow, rest, hcounts, hmoves⟩ :=
            loopMoves_round enabled io request k s b byte packet
          · rw [hnone rounds]
            refine iff_of_true (fun first _ => ?_) True.intro
            cases first with
            | zero => rfl
            | succ first =>
                rw [hnone first]
                rfl
          · obtain ⟨downs, last, hsplit, hdowns, hlast⟩ := commandMoves_split s.handler ibis command
            have hcommand := run_wrapping_iff (autocmdCounts_lt s.handler) hdowns hlast
            rw [← hsplit] at hcommand
            have hrounds := run_wrapping_append_iff
              (fun first => if flow = .next then
                loopMoves enabled io request first (k + 1) t c rest else [])
              rounds (ite_self []) hcommand fun hexact => ?_
            · rw [hmoves rounds, ← hrounds]
              constructor
              · intro h first hfirst
                rw [← hmoves first]
                exact h (first + 1) (Nat.succ_le_succ hfirst)
              · intro h first hfirst
                cases first with
                | zero => rfl
                | succ first =>
                    rw [hmoves first]
                    exact h first (Nat.le_of_succ_le_succ hfirst)
            · rw [← hexact, ← hcounts]
              by_cases hflow : flow = .next
              · simp only [if_pos hflow]
                exact ih (k + 1) t c rest
              · simp only [if_neg hflow]
                exact iff_of_true (fun _ _ => rfl) True.intro

end Loop

section Message

/-- The two waits at the end of a bulk: the device of the last send, the handler they
start with, and the interrupts that each of them takes. -/
structure LastWaits where
  device : Fin maxSppBusDevices
  handler : SppHandler
  handshake : List (Fin maxSppBusDevices × SppIbi)
  autocmd : List (Fin maxSppBusDevices × SppIbi)

/-- The handler whose counter is tested, which is after the wait for the handshake. -/
def LastWaits.tested (w : LastWaits) : SppHandler := w.handshake.foldl i3cIbiHandler w.handler

/-- A command takes at least one byte. -/
def SppRequest.rounds (r : SppRequest) : Nat := (getMessageSize r.header).getD 0

/-- What the first commands of a message lead to. -/
def SppRequest.executed (r : SppRequest) (s : SppSession) (rounds : Nat) :
    SppState × SppBulk × SppFlow :=
  sppBulkLoop r.enabled r.io r.header rounds 0
    ⟨{ s.handler with bulkMode := false }, .initial, 0, []⟩ s.bulk (sppPayload r.header r.buffer)

def SppRequest.executedMoves (r : SppRequest) (s : SppSession) (rounds : Nat) :
    List (Move (Fin maxSppBusDevices)) :=
  loopMoves r.enabled r.io r.header rounds 0
    ⟨{ s.handler with bulkMode := false }, .initial, 0, []⟩ s.bulk (sppPayload r.header r.buffer)

/-- The waits at the end of a message, unless it returns early or is not in bulk mode. -/
def SppRequest.lastWaits (r : SppRequest) (s : SppSession) : Option LastWaits :=
  match r.executed s r.rounds with
  | (_, _, .returned) => none
  | (t, b, _) =>
      if ha : t.handler.bulkMode ∧ t.bulkAddress.toNat < maxSppBusDevices then
        let (handshake, autocmd, _) := drainTail r ⟨t.bulkAddress.toNat, ha.2⟩ t.handler b
        some ⟨⟨t.bulkAddress.toNat, ha.2⟩, t.handler, handshake, autocmd⟩
      else none

/-- The moves of a message up to the test of the counter, given the waits. -/
def SppRequest.movesToTest (r : SppRequest) (s : SppSession) (w : LastWaits) :
    List (Move (Fin maxSppBusDevices)) :=
  r.executedMoves s r.rounds ++ w.handler.ibisMoves w.handshake

/-- All moves of a message. -/
def SppRequest.autocmdMoves (r : SppRequest) (s : SppSession) :
    List (Move (Fin maxSppBusDevices)) :=
  match r.lastWaits s with
  | some w => r.movesToTest s w ++ w.handler.ibisMoves w.autocmd
  | none => r.executedMoves s r.rounds

/-- The counters are those of an exact count: after every command and at the end of the
message. The end waits for data if and only if some is outstanding of the device of the last
send; the counters of the other devices are not tested. -/
structure AutocmdAccounted (s : SppSession) (r : SppRequest) : Prop where
  commands : ∀ rounds ≤ r.rounds, (r.executed s rounds).1.handler.autocmdCounts =
    Machine.run exact s.handler.autocmdCounts (r.executedMoves s rounds)
  tested : ∀ w, r.lastWaits s = some w → (w.tested.bulkAutocmdCount w.device = 0 ↔
    Machine.run exact s.handler.autocmdCounts (r.movesToTest s w) w.device = 0)
  message : (processSppRequest s r).1.handler.autocmdCounts =
    Machine.run exact s.handler.autocmdCounts (r.autocmdMoves s)

/-- No send finds its device with 255 sends that were not answered. -/
def SppRequest.SendsFit (r : SppRequest) (s : SppSession) : Prop :=
  Machine.Meets exact (Room autocmdValues) s.handler.autocmdCounts (r.executedMoves s r.rounds)

variable {s : SppSession} {r : SppRequest}

theorem executed_counts (rounds : Nat) :
    (r.executed s rounds).1.handler.autocmdCounts =
      Machine.run (wrapping autocmdValues) s.handler.autocmdCounts (r.executedMoves s rounds) :=
  sppBulkLoop_counts rounds 0 _ s.bulk _

theorem lastWaits_of_loop {t : SppState} {b : SppBulk} {flow : SppFlow}
    (hexecuted : r.executed s r.rounds = (t, b, flow)) (hflow : flow ≠ .returned)
    (ha : t.handler.bulkMode ∧ t.bulkAddress.toNat < maxSppBusDevices)
    {handshake autocmd : List (Fin maxSppBusDevices × SppIbi)} {c : SppBulk}
    (hdrained : drainTail r ⟨t.bulkAddress.toNat, ha.2⟩ t.handler b = (handshake, autocmd, c)) :
    r.lastWaits s = some ⟨⟨t.bulkAddress.toNat, ha.2⟩, t.handler, handshake, autocmd⟩ := by
  rw [SppRequest.lastWaits, hexecuted]
  cases flow with
  | returned => exact absurd rfl hflow
  | next | broke =>
      dsimp only
      rw [dif_pos ha, hdrained]

theorem lastWaits_of_none {t : SppState} {b : SppBulk} {flow : SppFlow}
    (hexecuted : r.executed s r.rounds = (t, b, flow))
    (hnone : flow = .returned ∨
      ¬ (t.handler.bulkMode ∧ t.bulkAddress.toNat < maxSppBusDevices)) :
    r.lastWaits s = none := by
  rw [SppRequest.lastWaits, hexecuted]
  cases flow with
  | returned => rfl
  | next | broke => exact dif_neg (hnone.resolve_left (by rintro ⟨⟩))

theorem lastWaits_handler {w : LastWaits} (hw : r.lastWaits s = some w) :
    w.handler = (r.executed s r.rounds).1.handler := by
  rw [SppRequest.lastWaits] at hw
  split at hw
  · cases hw
  · next t b flow _ hexecuted =>
      split at hw
      · cases hw
        rw [hexecuted]
      · cases hw

theorem tested_counts {w : LastWaits} (hw : r.lastWaits s = some w) :
    w.tested.autocmdCounts =
      Machine.run (wrapping autocmdValues) s.handler.autocmdCounts (r.movesToTest s w) := by
  rw [LastWaits.tested, foldl_ibis_counts, SppRequest.movesToTest, Machine.run_append,
    ← executed_counts, lastWaits_handler hw]

section Tail
variable {device : Fin maxSppBusDevices} {h : SppHandler} {b c : SppBulk}
  {handshake autocmd : List (Fin maxSppBusDevices × SppIbi)}

theorem drainTail_handshake (hdrained : drainTail r device h b = (handshake, autocmd, c))
    (hready : ¬ h.thresholdStatus device) : handshake = [] := by
  have hfirst : (drainTail r device h b).1 = handshake := congrArg Prod.fst hdrained
  simp only [drainTail] at hfirst
  rw [← hfirst, if_neg hready]

theorem drainTail_autocmd (hdrained : drainTail r device h b = (handshake, autocmd, c))
    (hready : (handshake.foldl i3cIbiHandler h).bulkAutocmdCount device = 0) : autocmd = [] := by
  have hfirst : (drainTail r device h b).1 = handshake := congrArg Prod.fst hdrained
  have hsecond : (drainTail r device h b).2.1 = autocmd := congrArg (fun d => d.2.1) hdrained
  rw [← hfirst] at hready
  simp only [drainTail] at hsecond hready
  rw [← hsecond, if_neg (not_not.mpr hready)]

end Tail

/-- The end of a bulk takes the interrupts of both waits. -/
theorem finishBulk_handler {t : SppState} {b : SppBulk}
    (ha : t.bulkAddress.toNat < maxSppBusDevices)
    {handshake autocmd : List (Fin maxSppBusDevices × SppIbi)} {c : SppBulk}
    (hdrained : drainTail r ⟨t.bulkAddress.toNat, ha⟩ t.handler b = (handshake, autocmd, c)) :
    (finishBulk r t b).1.handler =
      { (handshake ++ autocmd).foldl i3cIbiHandler t.handler with bulkMode := false } := by
  have hawait : awaitHandshake (.draining handshake) t.handler ⟨t.bulkAddress.toNat, ha⟩ =
      handshake.foldl i3cIbiHandler t.handler := by
    rw [awaitHandshake]
    split
    · rfl
    · next hready =>
        rw [drainTail_handshake hdrained hready]
        rfl
  rw [finishBulk, dif_pos ha, hdrained]
  dsimp only
  rw [sppBulkTail, dif_pos ha]
  dsimp only
  rw [hawait, List.foldl_append]
  split
  · rfl
  · next hready =>
      rw [drainTail_autocmd hdrained (not_not.mp hready)]
      rfl

theorem processSppRequest_counts (s : SppSession) (r : SppRequest) :
    (processSppRequest s r).1.handler.autocmdCounts =
      Machine.run (wrapping autocmdValues) s.handler.autocmdCounts (r.autocmdMoves s) := by
  cases hsize : getMessageSize r.header with
  | none =>
      have hrounds : r.rounds = 0 := by
        rw [SppRequest.rounds, hsize]
        rfl
      have hexecuted : r.executed s r.rounds =
          (⟨{ s.handler with bulkMode := false }, .initial, 0, []⟩, s.bulk, .next) := by
        rw [hrounds]
        rfl
      rw [SppRequest.autocmdMoves,
        lastWaits_of_none hexecuted (.inr fun h => Bool.false_ne_true h.1), hrounds]
      simp only [processSppRequest, hsize]
      rfl
  | some size =>
      obtain ⟨t, b, flow, hloop, hresult⟩ := processSppRequest_loop s hsize
      have hexecuted : r.executed s r.rounds = (t, b, flow) := by
        rw [SppRequest.rounds, hsize]
        exact hloop
      have hcounts : t.handler.autocmdCounts = Machine.run (wrapping autocmdValues)
          s.handler.autocmdCounts (r.executedMoves s r.rounds) := by
        rw [← executed_counts, hexecuted]
      rw [hresult, SppRequest.autocmdMoves]
      by_cases hreturned : flow = .returned
      · rw [if_pos hreturned, lastWaits_of_none hexecuted (.inl hreturned)]
        exact hcounts
      rw [if_neg hreturned]
      by_cases ha : t.handler.bulkMode ∧ t.bulkAddress.toNat < maxSppBusDevices
      · obtain ⟨⟨handshake, autocmd, c⟩, hdrained⟩ :
          ∃ drained, drainTail r ⟨t.bulkAddress.toNat, ha.2⟩ t.handler b = drained := ⟨_, rfl⟩
        have hfinish : (finishBulk r t b).1.handler.autocmdCounts =
            ((handshake ++ autocmd).foldl i3cIbiHandler t.handler).autocmdCounts := by
          rw [finishBulk_handler ha.2 hdrained]
          rfl
        rw [if_pos ha.1, lastWaits_of_loop hexecuted hreturned ha hdrained, hfinish,
          foldl_ibis_counts, ibisMoves_append, hcounts, ← Machine.run_append, ← List.append_assoc]
        rfl
      · rw [lastWaits_of_none hexecuted (.inr ha)]
        by_cases hmode : t.handler.bulkMode
        · rw [if_pos hmode, finishBulk, dif_neg fun hlt => ha ⟨hmode, hlt⟩]
          dsimp only
          rw [sppBulkTail, dif_neg fun hlt => ha ⟨hmode, hlt⟩]
          exact hcounts
        · rw [if_neg hmode]
          split
          · exact hcounts
          · exact hcounts

/-- In every bulk message, from any state and with any interrupts: the counters are exact and
the test at the end, of the device of the last send, is right if and only if no device ever
has more than 255 sends that were not answered. -/
theorem autocmd_accounted (s : SppSession) (r : SppRequest) :
    AutocmdAccounted s r ↔ r.SendsFit s := by
  have hroom : (∀ rounds ≤ r.rounds, Machine.run (wrapping autocmdValues) s.handler.autocmdCounts
      (r.executedMoves s rounds) = Machine.run exact s.handler.autocmdCounts
        (r.executedMoves s rounds)) ↔ r.SendsFit s :=
    loopMoves_room_iff r.rounds 0 ⟨{ s.handler with bulkMode := false }, .initial, 0, []⟩ s.bulk _
  constructor
  · intro haccounted
    refine hroom.mp fun rounds hrounds => ?_
    rw [← executed_counts]
    exact haccounted.commands rounds hrounds
  · intro hfit
    have hdowns {w : LastWaits} (ibis : List (Fin maxSppBusDevices × SppIbi))
        {moves : List (Move (Fin maxSppBusDevices))}
        (hmoves : Machine.Meets exact (Room autocmdValues) s.handler.autocmdCounts moves) :
        Machine.Meets exact (Room autocmdValues) s.handler.autocmdCounts
          (moves ++ w.handler.ibisMoves ibis) :=
      (Machine.meets_append _ _ _ _ _).mpr ⟨hmoves, meets_downs (ibisMoves_downs _ ibis)⟩
    have hrun {moves : List (Move (Fin maxSppBusDevices))}
        (hmoves : Machine.Meets exact (Room autocmdValues) s.handler.autocmdCounts moves) :=
      run_wrapping (autocmdCounts_lt s.handler) hmoves
    refine ⟨fun rounds hrounds => ?_, fun w hw => ?_, ?_⟩
    · rw [executed_counts]
      exact hroom.mpr hfit rounds hrounds
    · rw [SppRequest.movesToTest, ← hrun (hdowns w.handshake hfit), ← SppRequest.movesToTest,
        ← tested_counts hw]
      exact UInt8.toNat_inj.symm
    · rw [processSppRequest_counts]
      refine hrun ?_
      rw [SppRequest.autocmdMoves]
      split
      · next w hw => exact hdowns w.autocmd (hdowns w.handshake hfit)
      · exact hfit

end Message

section Unanswered

/-- A send of one byte to the first device. -/
def sendByte : List UInt8 := [0x10, 0, 0, 1, 0xAA]

/-- A bulk of 256 sends of which none is answered. -/
def unansweredRequest : SppRequest where
  header := ⟨0, 0, 0, 7, 2, 5, 0, 0⟩
  buffer := messageBuffer ([0x60, 1] ++ (List.replicate 256 sendByte).flatten)
  enabled := true
  io := fun _ => ⟨⟨[], true, none, none, true, true, true⟩, []⟩
  handshake := []
  autocmd := []
  written := true

theorem slice_messageBuffer (payload : List UInt8) :
    slice (messageBuffer payload) 0 payload.length = payload := by
  refine List.ext_getElem (length_slice _ _ _) fun i _ hi => ?_
  simp only [slice, messageBuffer, List.getElem_map, List.getElem_range, Nat.zero_add]
  rw [List.getD_eq_getElem?_getD, List.getElem?_eq_getElem hi, Option.getD_some]

theorem select_firstDevice {h : SppHandler} (hopen : h.devHandlers firstDevice = true) :
    sppDeviceSelect h (0 : UInt8).toNat =
      some { h with deviceIndex := firstDevice, driverHandle := some firstDevice } := by
  rw [sppDeviceSelect, dif_pos (by decide)]
  exact if_pos hopen

/-- A send that takes no interrupts and is not answered. -/
theorem unanswered_send (io : SppIo) (request : MessageHeader) {s : SppState}
    (hnone : io.ibis = []) (hwritten : io.written = true) (hmode : s.handler.bulkMode = true)
    (hopen : s.handler.devHandlers firstDevice = true) :
    ∃ t, executeSppCommand io request s (.send 0 0 1 [0xAA]) = (t, .next) ∧
      t.handler.bulkMode = true ∧ t.handler.devHandlers firstDevice = true ∧
      t.out.responseCnt = s.out.responseCnt + 4 := by
  have hselect := select_firstDevice hopen
  have hawait (h : SppHandler) : awaitHandshake io h h.deviceIndex = h := by
    rw [awaitHandshake, asdMsgCheckSppIbi, hnone]
    split
    · rfl
    · rfl
  obtain ⟨g, hsend, hkeeps⟩ : ∃ g, sppSend io { s.handler with
      deviceIndex := firstDevice, driverHandle := some firstDevice } [0xAA] = (g, .ok) ∧
      s.handler.Keeps g := by
    have hkept := sppSend_keeps io { s.handler with
      deviceIndex := firstDevice, driverHandle := some firstDevice } [0xAA]
    refine ⟨_, Prod.ext rfl ?_, (sppDeviceSelect_keeps hselect).1.trans hkept⟩
    exact (sppSend_ok_iff rfl).mpr ⟨by decide, hwritten⟩
  refine ⟨{ s with handler := g, out := s.out.put [0x10, 0, 0, 1] }, ?_,
    hkeeps.bulkMode.trans hmode, (congrFun hkeeps.devHandlers firstDevice).trans hopen, rfl⟩
  rw [executeSppCommand, executeSend, hselect]
  dsimp only
  rw [hawait, hsend]

theorem unanswered_moves (request : MessageHeader) (n k : Nat) {s : SppState} {b : SppBulk}
    (hmode : s.handler.bulkMode = true) (hopen : s.handler.devHandlers firstDevice = true)
    (hroom : s.out.responseCnt + 4 * n ≤ maxDataSize) :
    loopMoves true unansweredRequest.io request n k s b (List.replicate n sendByte).flatten =
      List.replicate n (.up firstDevice) := by
  induction n generalizing k s b with
  | zero => rfl
  | succ n ih =>
      have hnext : nextSppCommand s.handler.bulkMode s.bulkAddress
          (sendByte ++ (List.replicate n sendByte).flatten) =
          (0, some (.send 0 0 1 [0xAA], (List.replicate n sendByte).flatten)) := by
        rw [hmode]
        rfl
      have hdrained : (drainCommand true s.handler b (unansweredRequest.io k).polled
          (.send 0 0 1 [0xAA])).1 = [] := by
        rw [drainCommand]
        split
        · rfl
        · rfl
      obtain ⟨t, hexecute, hmodeNext, hopenNext, hcount⟩ := unanswered_send
        ((unansweredRequest.io k).outcomes request s (drainCommand true s.handler b
          (unansweredRequest.io k).polled (.send 0 0 1 [0xAA])).1) request
        (s := { s with bulkAddress := 0 }) hdrained rfl hmode hopen
      have hbelow : s.out.responseCnt < maxDataSize := by omega
      have hmoves : commandMoves s.handler [] (.send 0 0 1 [0xAA]) = [.up firstDevice] := by
        rw [commandMoves, select_firstDevice hopen]
        dsimp only
        rw [SppHandler.ibisMoves, SppHandler.sendMoves, if_pos hmode,
          if_pos ⟨hmode, List.cons_ne_nil _ _⟩]
        rfl
      rw [List.replicate_succ, List.flatten_cons]
      refine (loopMoves_step n hbelow hnext hexecute).trans ?_
      rw [hdrained, hmoves, if_pos rfl, ih _ hmodeNext hopenNext]
      · rfl
      · rw [hcount]
        dsimp only
        omega

/-- The `SPP_BULK` in front of the sends. -/
theorem unanswered_start (sends : List UInt8) :
    ∃ t c, loopMoves true unansweredRequest.io unansweredRequest.header 257 0
        ⟨{ awaitingHandler with bulkMode := false }, .initial, 0, []⟩ .initial
        (0x60 :: 1 :: sends) =
        loopMoves true unansweredRequest.io unansweredRequest.header 256 1 t c sends ∧
      t.handler.bulkMode = true ∧ t.handler.devHandlers firstDevice = true ∧
      t.out.responseCnt = 2 := by
  let start : SppState := ⟨{ awaitingHandler with bulkMode := false }, .initial, 0, []⟩
  have hbelow : start.out.responseCnt < maxDataSize := by decide
  have hnext : nextSppCommand start.handler.bulkMode start.bulkAddress (0x60 :: 1 :: sends) =
      (0, some (.bulk 1, sends)) := rfl
  have hexecute : executeSppCommand ((unansweredRequest.io 0).outcomes unansweredRequest.header
      start (drainCommand true start.handler .initial (unansweredRequest.io 0).polled (.bulk 1)).1)
      unansweredRequest.header start (.bulk 1) =
      ({ { start with out := start.out.put [0x60, 1] }.respond unansweredRequest.header with
        handler := { start.handler with bulkMode := true } }, .next) := if_pos (by decide)
  exact ⟨_, _, loopMoves_step 256 hbelow hnext hexecute, rfl, rfl, rfl⟩

theorem unanswered_executedMoves :
    unansweredRequest.executedMoves ⟨awaitingHandler, .initial, fun _ => 0⟩ 257 =
      List.replicate 256 (.up firstDevice) := by
  have hlength : ([0x60, 1] ++ (List.replicate 256 sendByte).flatten).length = 1282 := by
    rw [List.length_append, List.length_flatten, List.map_replicate, List.sum_replicate_nat]
    rfl
  have hpayload : sppPayload unansweredRequest.header unansweredRequest.buffer =
      0x60 :: 1 :: (List.replicate 256 sendByte).flatten := by
    have hslice := slice_messageBuffer ([0x60, 1] ++ (List.replicate 256 sendByte).flatten)
    rw [hlength] at hslice
    exact hslice
  obtain ⟨t, c, hstart, hmode, hopen, hcount⟩ :=
    unanswered_start (List.replicate 256 sendByte).flatten
  rw [SppRequest.executedMoves, hpayload]
  refine hstart.trans (unanswered_moves _ 256 1 hmode hopen ?_)
  rw [hcount]
  decide

/-- After 256 sends the counter is zero while all of them are outstanding, so the end of
the bulk does not wait for their data. -/
theorem autocmd_count_wraps :
    let s : SppSession := ⟨awaitingHandler, .initial, fun _ => 0⟩
    let r := unansweredRequest
    ((r.executed s 257).1.handler.autocmdCounts firstDevice = 0 ∧
      Machine.run exact s.handler.autocmdCounts (r.executedMoves s 257) firstDevice = 256) ∧
    ¬ AutocmdAccounted s r := by
  intro s r
  have hwrapped : (r.executed s 257).1.handler.autocmdCounts firstDevice = 0 := by
    rw [executed_counts, unanswered_executedMoves]
    decide +kernel
  have hexact : Machine.run exact s.handler.autocmdCounts (r.executedMoves s 257) firstDevice =
      256 := by
    rw [unanswered_executedMoves]
    decide +kernel
  refine ⟨⟨hwrapped, hexact⟩, fun haccounted => ?_⟩
  have hsame := congrFun (haccounted.commands 257 (by decide)) firstDevice
  rw [hwrapped, hexact] at hsame
  cases hsame

end Unanswered

end AtScaleDebug
