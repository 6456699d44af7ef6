import AtScaleDebug.Target.JtagEquivalence
import AtScaleDebug.Target.JtagGrammar

/-!
The command loop of a bundle, without its count of rounds. A command takes bytes
off the packet and nothing puts any back, not even the look ahead of a scan, so
the count never ends the loop and a run is determined by its packet: the empty
packet ends it, a command of the table is carried out and the run goes on with
what is left.

Most commands add nothing to the response and do not look at the rest of the
packet. They are one case here; the others are the status command and the scans.
-/

namespace AtScaleDebug

section LookAhead

theorem skippedOperands_cases {cmd : UInt8} {count : Nat} (h : skippedOperands cmd = some count) :
    ¬ isTapState cmd ∧ (count = 1 ∨ count = 2) := by
  rw [skippedOperands] at h
  split at h
  · next hone =>
      cases h
      refine ⟨fun htap => ?_, .inl rfl⟩
      obtain rfl | rfl | rfl | rfl | rfl | rfl := hone
      all_goals exact absurd htap (by decide)
  · split at h
    · next htwo =>
        cases h
        refine ⟨fun htap => ?_, .inr rfl⟩
        obtain rfl | rfl := htwo
        all_goals exact absurd htap (by decide)
    · cases h

theorem length_lt_of_cut {cmd : UInt8} {count : Nat} {packet : List UInt8}
    (h : skippedOperands cmd = some count)
    (hone : ∀ operand rest, packet = operand :: rest → count = 1 → False)
    (htwo : ∀ operand second rest, packet = operand :: second :: rest → count = 2 → False) :
    packet.length < count := by
  obtain rfl | rfl := (skippedOperands_cases h).2
  · cases packet with
    | nil => exact Nat.one_pos
    | cons operand rest => exact (hone operand rest rfl rfl).elim
  · match packet with
    | [] => exact Nat.two_pos
    | [_] => exact Nat.one_lt_two
    | operand :: second :: rest => exact (htwo operand second rest rfl rfl).elim

/-- A look ahead by what it makes of the end of the packet, behind the given operand; of the
command that it stops at; and of a command that is cut off. -/
structure LookAhead (α : Type) where
  ended : Option UInt8 → α
  found : UInt8 → α
  cut : List UInt8 → α

namespace LookAhead
variable {α : Type} (l : LookAhead α)

def read (last : Option UInt8) : List UInt8 → α
  | [] => l.ended last
  | cmd :: packet =>
      if isTapState cmd then l.found cmd
      else
        match skippedOperands cmd, packet with
        | some 1, operand :: packet => read (some operand) packet
        | some 2, operand :: _ :: packet => read (some operand) packet
        | some _, packet => l.cut (cmd :: packet)
        | none, _ => l.found cmd

theorem read_skip (last : Option UInt8) {cmd : UInt8} {operands : List UInt8}
    (hskip : skippedOperands cmd = some operands.length) (packet : List UInt8) :
    l.read last (cmd :: (operands ++ packet)) = l.read operands.head? packet := by
  obtain ⟨htap, hcount⟩ := skippedOperands_cases hskip
  rw [read.eq_def]
  dsimp only
  rw [if_neg htap, hskip]
  obtain hone | htwo := hcount
  · obtain ⟨operand, rfl⟩ := List.length_eq_one_iff.mp hone
    rfl
  · obtain ⟨operand, second, rfl⟩ := List.length_eq_two.mp htwo
    rfl

theorem read_cut (last : Option UInt8) {cmd : UInt8} {count : Nat} {operands : List UInt8}
    (hskip : skippedOperands cmd = some count) (hcut : operands.length < count) :
    l.read last (cmd :: operands) = l.cut (cmd :: operands) := by
  obtain ⟨htap, hcount⟩ := skippedOperands_cases hskip
  rw [read.eq_def]
  dsimp only
  rw [if_neg htap, hskip]
  obtain rfl | rfl := hcount
  · obtain rfl : operands = [] := List.eq_nil_of_length_eq_zero (Nat.lt_one_iff.mp hcut)
    rfl
  · cases operands with
    | nil => rfl
    | cons operand operands =>
        obtain rfl : operands = [] := by
          refine List.eq_nil_of_length_eq_zero ?_
          rw [List.length_cons] at hcut
          omega
        rfl

/-- The look ahead stops at a TAP state and at any other command. -/
theorem read_found (last : Option UInt8) {cmd : UInt8}
    (h : isTapState cmd ∨ skippedOperands cmd = none) (packet : List UInt8) :
    l.read last (cmd :: packet) = l.found cmd := by
  rw [read.eq_def]
  dsimp only
  by_cases htap : isTapState cmd
  · rw [if_pos htap]
  · rw [if_neg htap, h.resolve_left htap]

def cmd2 : LookAhead NextCmd2 where
  ended last := ⟨last, none⟩
  found cmd := ⟨some cmd, none⟩
  cut packet := ⟨none, some packet⟩

end LookAhead

theorem nextCmd2_eq_read (last : Option UInt8) (packet : List UInt8) :
    nextCmd2 last packet = LookAhead.cmd2.read last packet := by
  fun_induction nextCmd2 last packet with
  | case1 => rfl
  | case2 last cmd packet htap =>
      exact (LookAhead.cmd2.read_found last (.inl htap) packet).symm
  | case3 last cmd htap operand packet hskip ih =>
      have hskip : skippedOperands cmd = some [operand].length := hskip
      exact ih.trans (LookAhead.cmd2.read_skip last hskip packet).symm
  | case4 last cmd htap operand second packet hskip ih =>
      have hskip : skippedOperands cmd = some [operand, second].length := hskip
      exact ih.trans (LookAhead.cmd2.read_skip last hskip packet).symm
  | case5 last cmd htap count packet hone htwo hskip =>
      exact (LookAhead.cmd2.read_cut last hskip (length_lt_of_cut hskip hone htwo)).symm
  | case6 last cmd packet htap hskip =>
      exact (LookAhead.cmd2.read_found last (.inr hskip) packet).symm

theorem nextCmd2_skip (last : Option UInt8) {cmd : UInt8} {operands : List UInt8}
    (hskip : skippedOperands cmd = some operands.length) (packet : List UInt8) :
    nextCmd2 last (cmd :: (operands ++ packet)) = nextCmd2 operands.head? packet := by
  rw [nextCmd2_eq_read, nextCmd2_eq_read, LookAhead.read_skip _ last hskip]

theorem nextCmd2_cut (last : Option UInt8) {cmd : UInt8} {count : Nat} {operands : List UInt8}
    (hskip : skippedOperands cmd = some count) (hcut : operands.length < count) :
    nextCmd2 last (cmd :: operands) = ⟨none, some (cmd :: operands)⟩ := by
  rw [nextCmd2_eq_read, LookAhead.read_cut _ last hskip hcut, LookAhead.cmd2]

theorem nextCmd2_found (last : Option UInt8) {cmd : UInt8}
    (h : isTapState cmd ∨ skippedOperands cmd = none) (packet : List UInt8) :
    nextCmd2 last (cmd :: packet) = ⟨some cmd, none⟩ := by
  rw [nextCmd2_eq_read, LookAhead.read_found _ last h, LookAhead.cmd2]

end LookAhead

section Lengths

variable {mode : JtagChainSelectMode} {packet rest : List UInt8} {command : JtagCommand}

theorem JtagCommand.encode_ne_nil (c : JtagCommand) : c.encode ≠ [] := by
  cases c <;> exact List.cons_ne_nil _ _

theorem nextJtagCommand_length (h : nextJtagCommand mode packet = some (command, rest)) :
    rest.length < packet.length := by
  have hpos := List.length_pos_iff.mpr command.encode_ne_nil
  rw [(nextJtagCommand_eq_some h).2, List.length_append]
  omega

theorem skipWaitCycles_length (h : skipWaitCycles packet = some rest) :
    rest.length ≤ packet.length := by
  fun_induction skipWaitCycles packet with
  | case1 =>
      cases h
      exact Nat.le_refl _
  | case2 => cases h
  | case3 data packet ih =>
      have hle := ih h
      simp only [List.length_cons]
      omega
  | case4 =>
      cases h
      exact Nat.le_refl _

theorem nextCmd2_cut_length {last : Option UInt8} (h : (nextCmd2 last packet).cut = some rest) :
    rest.length ≤ packet.length := by
  fun_induction nextCmd2 last packet with
  | case1 => cases h
  | case2 => cases h
  | case3 last cmd hstate operand packet hskip ih =>
      have hle := ih h
      simp only [List.length_cons]
      omega
  | case4 last cmd hstate operand second packet hskip ih =>
      have hle := ih h
      simp only [List.length_cons]
      omega
  | case5 =>
      cases h
      exact Nat.le_refl _
  | case6 => cases h

end Lengths

section Commands

variable (io : JtagIo) (s : JtagMsgState) (rest : List UInt8)

theorem JtagMsgState.carryOut_rest (command : JtagCommand) (result : JtagSession × Status) :
    (s.carryOut command rest result).2.2 = rest := by
  obtain ⟨session, status⟩ := result
  cases status <;> rfl

/-- The shift of a scan once its end state is known. -/
def shiftScan (command : JtagCommand) (r : ShiftRequest) : JtagMsgState × Status :=
  match r.output, shift io s.session r with
  | none, (session, .ok, _) =>
      ({ s with session, executed := s.executed ++ [(command, .nothing)] }, .ok)
  | some buffer, (session, .ok, tdo) =>
      ({ session
         out := { s.out.lend buffer.length with
           response := (s.out.lend buffer.length).response ++ tdo }
         executed := s.executed ++ [(command, .bytes tdo)] }, .ok)
  | none, (session, status, _) => ({ s with session }, status)
  | some buffer, (session, status, _) =>
      ({ s with session, out := s.out.lend buffer.length }, status)

theorem executeShift_eq (command : JtagCommand) (type : ScanType)
    (request : JtagState → ShiftRequest) :
    executeShift io s rest command type request =
      match determineShiftEndState s.session.driverMode s.session.jtag.active.tapState type
          rest with
      | (none, rest) => (s, .err, rest)
      | (some endState, rest) =>
          ((shiftScan io s command (request endState)).1,
            (shiftScan io s command (request endState)).2, rest) := by
  rw [executeShift]
  obtain ⟨_ | endState, left⟩ := determineShiftEndState s.session.driverMode
    s.session.jtag.active.tapState type rest
  · rfl
  · dsimp only [shiftScan]
    obtain ⟨session, status, tdo⟩ := shift io s.session (request endState)
    cases (request endState).output <;> cases status <;> rfl

theorem determineShiftEndState_length (mode : JtagDriverMode) (current : JtagState)
    (type : ScanType) :
    (determineShiftEndState mode current type rest).2.length ≤ rest.length := by
  cases rest with
  | nil => exact Nat.le_refl _
  | cons cmd packet =>
      simp only [determineShiftEndState]
      split
      · cases mode with
        | software => exact Nat.le_refl _
        | hardware =>
            dsimp only
            cases hcut : (nextCmd2 none packet).cut with
            | none => exact Nat.le_refl _
            | some left =>
                have hle := nextCmd2_cut_length hcut
                exact Nat.le_succ_of_le hle
      · split
        · exact Nat.le_refl _
        · exact Nat.le_refl _

theorem executeShift_length (command : JtagCommand) (type : ScanType)
    (request : JtagState → ShiftRequest) :
    (executeShift io s rest command type request).2.2.length ≤ rest.length := by
  have hle := determineShiftEndState_length rest s.session.driverMode
    s.session.jtag.active.tapState type
  rw [executeShift_eq]
  split
  · rename_i heq
    rwa [heq] at hle
  · rename_i heq
    rwa [heq] at hle

theorem executeReadingScan_length (cmd : UInt8)
    {scan : JtagMsgState → JtagMsgState × Status × List UInt8}
    (h : ∀ s, (scan s).2.2.length ≤ rest.length) :
    (executeReadingScan s rest cmd scan).2.2.length ≤ rest.length := by
  rw [executeReadingScan]
  split
  · exact Nat.le_refl _
  · exact h _

theorem executeWritePins_length (data : UInt8) (chainBytes : List UInt8) :
    (executeWritePins io s rest data chainBytes).2.2.length ≤ rest.length := by
  have hrest := s.carryOut_rest rest (.writePins data chainBytes) (writePins io s.session data)
  rw [executeWritePins]
  split
  · rename_i heq
    rw [heq] at hrest
    cases hrest
    split
    · split
      · rename_i hskip
        exact skipWaitCycles_length hskip
      · exact Nat.le_refl _
    · exact Nat.le_refl _
  · exact Nat.le_of_eq (congrArg List.length hrest)

theorem executeReadStatus_rest (cmd data : UInt8) :
    (executeReadStatus io s rest cmd data).2.2 = rest := by
  rw [executeReadStatus]
  split
  · rfl
  · dsimp only
    split
    · rfl
    · rfl

theorem executeJtagCommand_length (c : JtagCommand) :
    (executeJtagCommand io s rest c).2.2.length ≤ rest.length := by
  cases c with
  | writePins data chainBytes => exact executeWritePins_length io s rest data chainBytes
  | readStatus cmd data =>
      exact Nat.le_of_eq (congrArg List.length (executeReadStatus_rest io s rest cmd data))
  | writeScan scan => exact executeShift_length io s rest _ _ _
  | readScan cmd =>
      exact executeReadingScan_length s rest cmd fun s => executeShift_length io s rest _ _ _
  | readWriteScan scan =>
      exact executeReadingScan_length s rest scan.cmd fun s => executeShift_length io s rest _ _ _
  | cutScan cmd => exact executeReadingScan_length s rest cmd fun _ => Nat.le_refl _
  | _ => exact Nat.le_of_eq (congrArg List.length (s.carryOut_rest rest _ _))

end Commands

section Silent

namespace JtagCommand

/-- A command that adds nothing to the response. -/
def Silent : JtagCommand → Prop
  | .readStatus _ _ | .writeScan _ | .readScan _ | .readWriteScan _ | .cutScan _ => False
  | _ => True

/-- What such a command does to the session. -/
def silentResult (io : JtagIo) (s : JtagSession) : JtagCommand → JtagSession × Status
  | .writeEventConfig data => AtScaleDebug.writeEventConfig io s data
  | .jtagFreq data => setTck io s data
  | .drPrefix data => setPadding s .drPost data.toNat
  | .drPostfix data => setPadding s .drPre data.toNat
  | .irPrefix lsb msb => setPadding s .irPost (littleEndian lsb msb)
  | .irPostfix lsb msb => setPadding s .irPre (littleEndian lsb msb)
  | .prdyTimeout data => ({ s with prdyTimeout := data }, .ok)
  | .writePins data _ => AtScaleDebug.writePins io s data
  | .waitCycles _ data => AtScaleDebug.waitCycles io s data
  | .waitPrdy =>
      let (s, status, _) := s.targetCall io (.waitPrdy s.prdyTimeout)
      (s, status)
  | .tapReset =>
      let (jtag, status) := jtagTapReset io.driver s.jtag
      (s.jtagCall .tapReset jtag, status)
  | .waitSync timeoutLsb timeoutMsb delayLsb delayMsb =>
      AtScaleDebug.waitSync io s (littleEndian timeoutLsb timeoutMsb)
        (littleEndian delayLsb delayMsb)
  | .tapState cmd =>
      let (jtag, status) := jtagSetTapState io.driver s.jtag (.ofCommand cmd)
      (s.jtagCall (.setTapState (.ofCommand cmd)) jtag, status)
  | _ => (s, .ok)

end JtagCommand

variable (io : JtagIo) {c : JtagCommand}

theorem executeJtagCommand_silent (s : JtagMsgState) (rest : List UInt8) (h : c.Silent)
    (hreset : ¬c.AssertsReset) :
    executeJtagCommand io s rest c = s.carryOut c rest (c.silentResult io s.session) := by
  cases c with
  | writePins data chainBytes =>
      change executeWritePins io s rest data chainBytes =
        s.carryOut (.writePins data chainBytes) rest (writePins io s.session data)
      rw [executeWritePins]
      rcases hresult : s.carryOut (.writePins data chainBytes) rest (writePins io s.session data)
        with ⟨t, status, left⟩
      cases status with
      | ok => exact if_neg hreset
      | err => rfl
      | timeout => rfl
  | readStatus _ _ | writeScan _ | readScan _ | readWriteScan _ | cutScan _ => exact absurd h id
  | _ => rfl

end Silent

section Reading

/-- A transfer returns as many bytes as it has bits for. -/
def JtagDriver.Fills (driver : JtagDriver) : Prop :=
  ∀ count x tdo, driver count (.xfer x) = some tdo → tdo.length = divRoundUp x.length 8

/-- A transfer of the data of a scan into a buffer: its length and what is on TDI.
The padding of the software path comes from the local array, which is longer. -/
def JtagXfer.Carries (x : JtagXfer) (bits : Nat) (input : Option (List UInt8))
    (buffer : List UInt8) : Prop :=
  x.length = bits ∧ x.tdio = shiftTdio bits input (some buffer)

/-- Call number `i` of the driver is a transfer of the data, and the driver answers
it with these bytes. -/
def JtagHandler.Received (driver : JtagDriver) (s : JtagHandler) (i bits : Nat)
    (input : Option (List UInt8)) (buffer tdo : List UInt8) : Prop :=
  ∃ x : JtagXfer, s.calls[i]? = some (.xfer x) ∧ x.Carries bits input buffer ∧
    driver i (.xfer x) = some tdo

theorem callAt_mono {α : Type} {before now : List α} {i : Nat} {call : α}
    (hgrown : before <+: now) (h : before[i]? = some call) : now[i]? = some call := by
  obtain ⟨hlt, rfl⟩ := List.getElem?_eq_some_iff.mp h
  exact List.prefix_iff_getElem?.mp hgrown i hlt

variable {driver : JtagDriver} {s t : JtagHandler}

theorem JtagHandler.Received.mono {i bits : Nat} {input : Option (List UInt8)}
    {buffer tdo : List UInt8} (h : s.Received driver i bits input buffer tdo)
    (hgrown : s.calls <+: t.calls) : t.Received driver i bits input buffer tdo := by
  obtain ⟨x, hcall, hcarries, htdo⟩ := h
  exact ⟨x, callAt_mono hgrown hcall, hcarries, htdo⟩

theorem memcpyS_length (dest : List UInt8) {src : Option (List UInt8)} {count : Nat}
    (hsrc : ∀ bytes ∈ src, count ≤ bytes.length) :
    (memcpyS dest src count).length = dest.length := by
  simp only [memcpyS]
  split
  · rfl
  · split
    · exact List.length_replicate
    · rename_i bytes
      have hle := hsrc bytes rfl
      split
      · exact List.length_replicate
      · simp only [List.length_append, List.length_take, List.length_drop]
        omega

theorem transfer_ok {padding : BitVec 32} {n : Nat} {input output result : Option (List UInt8)}
    {current endState : JtagState}
    (h : transfer driver s padding n input output current endState = (t, .ok, result)) :
    ∃ x tdo, x.length = n ∧ x.tdio = shiftTdio n input output ∧ t.calls = s.calls ++ [.xfer x] ∧
      driver s.calls.length (.xfer x) = some tdo ∧
      result = output.map fun _ => receiveTdo n (shiftTdio n input output) tdo := by
  simp only [transfer, JtagHandler.ioctl] at h
  split at h
  · cases h
  · rename_i u tdo heq
    cases h
    obtain ⟨hu, hdriver⟩ := Prod.mk.inj heq
    refine ⟨_, tdo, rfl, rfl, ?_, hdriver, rfl⟩
    rw [← hu]
    rfl

theorem transfer_calls (driver : JtagDriver) (s : JtagHandler) (padding : BitVec 32) (n : Nat)
    (input output : Option (List UInt8)) (current endState : JtagState) :
    s.calls <+: (transfer driver s padding n input output current endState).1.calls := by
  simp only [transfer, JtagHandler.ioctl]
  split
  · rename_i u heq
    obtain ⟨hu, -⟩ := Prod.mk.inj heq
    rw [← hu]
    exact List.prefix_append _ _
  · rename_i u tdo heq
    obtain ⟨hu, -⟩ := Prod.mk.inj heq
    rw [← hu]
    exact List.prefix_append _ _

theorem performShift_calls (driver : JtagDriver) (s : JtagHandler) (n : Nat)
    (input output : Option (List UInt8)) (current endState : JtagState) :
    s.calls <+: (performShift driver s n input output current endState).1.calls :=
  transfer_calls driver s 0 n input output current endState

/-- A transfer into a buffer of the right length returns what the driver read. -/
theorem transfer_received (fills : driver.Fills) {padding : BitVec 32} {n : Nat}
    {input result : Option (List UInt8)} {buffer : List UInt8} {current endState : JtagState}
    (hin : ∀ bytes ∈ input, divRoundUp n 8 ≤ bytes.length)
    (hbuffer : buffer.length = divRoundUp n 8)
    (h : transfer driver s padding n input (some buffer) current endState = (t, .ok, result)) :
    ∃ tdo, result = some tdo ∧ tdo.length = divRoundUp n 8 ∧
      t.Received driver s.calls.length n input buffer tdo := by
  obtain ⟨x, tdo, rfl, hdata, hcalls, hdriver, hresult⟩ := transfer_ok h
  have hlength := fills _ _ _ hdriver
  have htdio : (shiftTdio x.length input (some buffer)).length = divRoundUp x.length 8 :=
    (memcpyS_length buffer hin).trans hbuffer
  refine ⟨tdo, ?_, hlength, x, ?_, ⟨rfl, hdata⟩, hdriver⟩
  · rw [hresult, Option.map_some, receiveTdo, List.take_of_length_le (Nat.le_of_eq hlength),
      List.drop_of_length_le (Nat.le_of_eq htdio), List.append_nil]
  · rw [hcalls, List.getElem?_append_right (Nat.le_refl _), Nat.sub_self]
    rfl

theorem shiftPreFix_calls (driver : JtagDriver) (s : JtagHandler) (preFix : Nat)
    (padData : List UInt8) (current : JtagState) :
    s.calls <+: (shiftPreFix driver s preFix padData current).1.calls := by
  rw [shiftPreFix]
  split
  · dsimp only
    split
    · exact performShift_calls driver (s.setScanState .run) preFix (some padData) none current
        current
    · exact List.prefix_refl _
  · exact List.prefix_refl _

theorem shiftData_received (fills : driver.Fills) {r : ShiftRequest} {buffer : List UInt8}
    {postFix : Nat} {padData : List UInt8} {current : JtagState} {result : Option (List UInt8)}
    (hout : r.output = some buffer) (hbuffer : buffer.length = divRoundUp r.numberOfBits 8)
    (h : shiftData driver s r postFix padData current = (t, .ok, result)) :
    ∃ tdo, result = some tdo ∧ tdo.length = divRoundUp r.numberOfBits 8 ∧
      t.Received driver s.calls.length r.numberOfBits r.input buffer tdo := by
  rw [shiftData, hout] at h
  split at h
  · dsimp only at h
    split at h
    · rename_i u output hfirst
      obtain ⟨tdo, rfl, hlength, hreceived⟩ :=
        transfer_received fills r.input_covers hbuffer hfirst
      have hcalls := performShift_calls driver u postFix (some padData) none current r.endState
      rcases hsecond : performShift driver u postFix (some padData) none current r.endState
        with ⟨w, status, unused⟩
      rw [hsecond] at h hcalls
      cases h
      exact ⟨tdo, rfl, hlength, hreceived.mono hcalls⟩
    · rename_i hfailed
      exact absurd h (hfailed _ _)
  · split at h
    · rename_i u output hfirst
      cases h
      obtain ⟨tdo, rfl, hlength, hreceived⟩ :=
        transfer_received fills r.input_covers hbuffer hfirst
      refine ⟨tdo, rfl, hlength, hreceived.mono ?_⟩
      split
      · exact List.prefix_refl _
      · exact List.prefix_refl _
    · rename_i hfailed
      exact absurd h (hfailed _ _)

theorem jtagShiftHw_received (fills : driver.Fills) {r : ShiftRequest} {buffer : List UInt8}
    {result : Option (List UInt8)} (hout : r.output = some buffer)
    (hbuffer : buffer.length = divRoundUp r.numberOfBits 8)
    (h : jtagShiftHw driver s r = (t, .ok, result)) :
    ∃ tdo, result = some tdo ∧ tdo.length = divRoundUp r.numberOfBits 8 ∧
      t.Received driver s.calls.length r.numberOfBits r.input buffer tdo := by
  simp only [jtagShiftHw, hout] at h
  split at h
  · cases h
  · -- only the scan state is set before the transfer
    split at h <;> split at h <;>
      · have hreceived := transfer_received fills r.input_covers hbuffer h
        exact hreceived

/-- A scan that reads and succeeds returns the bytes of the transfer of its data. -/
theorem jtagShift_received (fills : driver.Fills) {r : ShiftRequest} {buffer : List UInt8}
    {result : Option (List UInt8)} (hout : r.output = some buffer)
    (hbuffer : buffer.length = divRoundUp r.numberOfBits 8)
    (h : jtagShift driver s r = (t, .ok, result)) :
    ∃ i tdo, s.calls.length ≤ i ∧ result = some tdo ∧ tdo.length = divRoundUp r.numberOfBits 8 ∧
      t.Received driver i r.numberOfBits r.input buffer tdo := by
  rw [jtagShift] at h
  split at h
  · obtain ⟨tdo, hresult, hlength, hreceived⟩ := jtagShiftHw_received fills hout hbuffer h
    exact ⟨_, tdo, Nat.le_refl _, hresult, hlength, hreceived⟩
  · dsimp only at h
    split at h
    · cases h
    · rename_i preFix postFix padData _
      have hcalls := shiftPreFix_calls driver s preFix padData s.active.tapState
      split at h
      · rename_i u hgrown
        rw [hgrown] at hcalls
        obtain ⟨tdo, hresult, hlength, hreceived⟩ := shiftData_received fills hout hbuffer h
        exact ⟨_, tdo, hcalls.length_le, hresult, hlength, hreceived⟩
      · rename_i hfailed _
        cases h
        exact absurd rfl hfailed

end Reading

section Growth

theorem JtagHandler.ioctl_calls (driver : JtagDriver) (s : JtagHandler) (call : DriverCall) :
    s.calls <+: (s.ioctl driver call).1.calls :=
  List.prefix_append _ _

theorem jtagSetTapState_calls (driver : JtagDriver) (s : JtagHandler) (tapState : JtagState) :
    s.calls <+: (jtagSetTapState driver s tapState).1.calls := by
  have hioctl := s.ioctl_calls driver
    (.setState (decide (tapState = .tlr)) s.active.tapState tapState)
  simp only [jtagSetTapState]
  split
  · split
    · rename_i heq
      rwa [heq] at hioctl
    · rename_i heq
      rwa [heq] at hioctl
  · exact List.prefix_refl _

theorem jtagWaitCycles_calls (driver : JtagDriver) (s : JtagHandler) (numberOfCycles : Nat) :
    s.calls <+: (jtagWaitCycles driver s numberOfCycles).1.calls := by
  have hioctl := s.ioctl_calls driver (.bitbang numberOfCycles)
  rw [jtagWaitCycles]
  split
  · exact List.prefix_refl _
  · split
    · rename_i heq
      rwa [heq] at hioctl
    · rename_i heq
      rwa [heq] at hioctl

theorem jtagSetJtagTck_calls (driver : JtagDriver) (s : JtagHandler) (tck : Nat) :
    s.calls <+: (jtagSetJtagTck driver s tck).1.calls := by
  have hioctl := s.ioctl_calls driver (.setFreq (apbFreq / if tck = 0 then 1 else tck))
  rw [jtagSetJtagTck]
  split
  · rename_i heq
    rwa [heq] at hioctl
  · rename_i heq
    rwa [heq] at hioctl

theorem shiftData_calls (driver : JtagDriver) (s : JtagHandler) (r : ShiftRequest) (postFix : Nat)
    (padData : List UInt8) (current : JtagState) :
    s.calls <+: (shiftData driver s r postFix padData current).1.calls := by
  rw [shiftData]
  split
  · have hcalls := performShift_calls driver (s.setScanState .done) r.numberOfBits r.input
      r.output current current
    dsimp only
    rcases hfirst : performShift driver (s.setScanState .done) r.numberOfBits r.input r.output
      current current with ⟨u, status, output⟩
    rw [hfirst] at hcalls
    cases status with
    | ok => exact hcalls.trans (performShift_calls driver u postFix (some padData) none _ _)
    | err => exact hcalls
    | timeout => exact hcalls
  · have hcalls := performShift_calls driver s r.numberOfBits r.input r.output current r.endState
    rcases hfirst : performShift driver s r.numberOfBits r.input r.output current r.endState
      with ⟨u, status, output⟩
    rw [hfirst] at hcalls
    cases status with
    | ok =>
        dsimp only
        split
        · exact hcalls
        · exact hcalls
    | err => exact hcalls
    | timeout => exact hcalls

theorem jtagShiftHw_calls (driver : JtagDriver) (s : JtagHandler) (r : ShiftRequest) :
    s.calls <+: (jtagShiftHw driver s r).1.calls := by
  simp only [jtagShiftHw]
  split
  · exact List.prefix_refl _
  · refine List.IsPrefix.trans ?_ (transfer_calls _ _ _ _ _ _ _ _)
    split <;> split <;> exact List.prefix_refl _

theorem jtagShift_calls (driver : JtagDriver) (s : JtagHandler) (r : ShiftRequest) :
    s.calls <+: (jtagShift driver s r).1.calls := by
  rw [jtagShift]
  split
  · exact jtagShiftHw_calls driver s r
  · dsimp only
    split
    · exact List.prefix_refl _
    · rename_i preFix postFix padData _
      have hcalls := shiftPreFix_calls driver s preFix padData s.active.tapState
      rcases hgrown : shiftPreFix driver s preFix padData s.active.tapState with ⟨u, status⟩
      rw [hgrown] at hcalls
      cases status with
      | ok => exact hcalls.trans (shiftData_calls driver u r postFix padData _)
      | err => exact hcalls
      | timeout => exact hcalls

/-- The driver calls behind a call of the session. -/
def HandlerCall.ioctls : HandlerCall → List DriverCall
  | .jtag _ ioctls => ioctls
  | .target _ => []

/-- A session goes on from another: the modes stay, calls are only added, and the
driver received what is behind the added ones. -/
structure JtagSession.Extends (s t : JtagSession) : Prop where
  driverMode : t.driverMode = s.driverMode
  chainMode : t.chainMode = s.chainMode
  added : ∃ added, t.calls = s.calls ++ added ∧
    t.jtag.calls = s.jtag.calls ++ added.flatMap HandlerCall.ioctls

/-- How many driver calls came before call number `i` of a session that goes on
from the first one. -/
def JtagSession.ioctlsBefore (first s : JtagSession) (i : Nat) : Nat :=
  first.jtag.calls.length +
    (((s.calls.take i).drop first.calls.length).flatMap HandlerCall.ioctls).length

namespace JtagSession.Extends

theorem refl (s : JtagSession) : s.Extends s :=
  ⟨rfl, rfl, [], (List.append_nil _).symm, (List.append_nil _).symm⟩

theorem trans {s t u : JtagSession} (h : s.Extends t) (k : t.Extends u) : s.Extends u := by
  obtain ⟨first, hcalls, hioctls⟩ := h.added
  obtain ⟨second, kcalls, kioctls⟩ := k.added
  refine ⟨k.driverMode.trans h.driverMode, k.chainMode.trans h.chainMode, first ++ second, ?_, ?_⟩
  · rw [kcalls, hcalls, List.append_assoc]
  · rw [kioctls, hioctls, List.flatMap_append, List.append_assoc]

theorem calls {s t : JtagSession} (h : s.Extends t) : s.calls <+: t.calls := by
  obtain ⟨added, hcalls, -⟩ := h.added
  exact ⟨added, hcalls.symm⟩

theorem jtagCall {s : JtagSession} {jtag : JtagHandler} (call : JtagCall)
    (h : s.jtag.calls <+: jtag.calls) : s.Extends (s.jtagCall call jtag) := by
  refine ⟨rfl, rfl, _, rfl, ?_⟩
  rw [List.flatMap_singleton]
  exact (List.prefix_iff_eq_append.mp h).symm

theorem targetCall (io : JtagIo) (s : JtagSession) (call : TargetCall) :
    s.Extends (s.targetCall io call).1 :=
  ⟨rfl, rfl, [.target call], rfl, (List.append_nil _).symm⟩

/-- A call that was made keeps its place among the driver calls. -/
theorem ioctlsBefore_eq {first s t : JtagSession} (h : s.Extends t) {i : Nat}
    (hi : i ≤ s.calls.length) : first.ioctlsBefore t i = first.ioctlsBefore s i := by
  obtain ⟨added, hcalls, -⟩ := h.added
  rw [JtagSession.ioctlsBefore, hcalls, List.take_append_of_le_length hi]
  rfl

/-- The next call starts where the driver calls end. -/
theorem ioctlsBefore_length {first s : JtagSession} (h : first.Extends s) :
    first.ioctlsBefore s s.calls.length = s.jtag.calls.length := by
  obtain ⟨added, hcalls, hioctls⟩ := h.added
  rw [JtagSession.ioctlsBefore, List.take_length, hcalls, List.drop_left, hioctls,
    List.length_append]

end JtagSession.Extends

variable (io : JtagIo)

theorem asdWriteSetActiveChainEvent_extends (s : JtagSession) (chain : Nat) :
    s.Extends (asdWriteSetActiveChainEvent io s chain).1 := by
  have hwrite := JtagSession.Extends.targetCall io s (.write .tckMuxSelect (chain = 1))
  rw [asdWriteSetActiveChainEvent]
  rcases hcall : s.targetCall io (.write .tckMuxSelect (chain = 1)) with ⟨t, status, asserted⟩
  rw [hcall] at hwrite
  cases status with
  | ok =>
      refine (hwrite.trans (.targetCall io t .chainSelectDelay)).trans (.jtagCall _ ?_)
      exact (jtagSetActiveChain_calls _ _).symm ▸ List.prefix_refl _
  | err => exact hwrite
  | timeout => exact hwrite

theorem writePins_extends (s : JtagSession) (data : UInt8) :
    s.Extends (writePins io s data).1 := by
  rw [writePins]
  split
  · exact .targetCall io s _
  · split
    · split
      · split
        · exact .refl s
        · exact asdWriteSetActiveChainEvent_extends io s _
      · exact .refl s
    · exact .refl s

theorem setPadding_extends (s : JtagSession) (padding : JtagPaddingType) (value : Nat) :
    s.Extends (setPadding s padding value).1 :=
  .jtagCall _ ((jtagSetPadding_calls s.jtag padding value).symm ▸ List.prefix_refl _)

theorem waitSync_extends (s : JtagSession) (timeout delay : Nat) :
    s.Extends (waitSync io s timeout delay).1 := by
  have hwait := JtagSession.Extends.targetCall io s (.waitSync timeout delay)
  rw [waitSync]
  rcases hcall : s.targetCall io (.waitSync timeout delay) with ⟨t, status, asserted⟩
  rw [hcall] at hwait
  cases status <;> exact hwait

theorem silentResult_extends (s : JtagSession) (c : JtagCommand) :
    s.Extends (c.silentResult io s).1 := by
  cases c with
  | writeEventConfig data =>
      change s.Extends (writeEventConfig io s data).1
      rw [writeEventConfig]
      dsimp only
      split
      · exact .targetCall io s _
      · exact .refl s
  | jtagFreq data => exact .jtagCall _ (jtagSetJtagTck_calls _ _ _)
  | drPrefix _ | drPostfix _ | irPrefix _ _ | irPostfix _ _ => exact setPadding_extends s _ _
  | prdyTimeout data => exact ⟨rfl, rfl, (JtagSession.Extends.refl s).added⟩
  | writePins data chainBytes => exact writePins_extends io s data
  | waitCycles cmd data => exact .jtagCall _ (jtagWaitCycles_calls _ _ _)
  | waitPrdy => exact .targetCall io s _
  | tapReset => exact .jtagCall _ (jtagSetTapState_calls io.driver s.jtag .tlr)
  | tapState cmd => exact .jtagCall _ (jtagSetTapState_calls io.driver s.jtag _)
  | waitSync timeoutLsb timeoutMsb delayLsb delayMsb =>
      exact waitSync_extends io s _ _
  | _ => exact .refl s

theorem carryOut_session (s : JtagMsgState) (c : JtagCommand) (rest : List UInt8)
    (result : JtagSession × Status) : (s.carryOut c rest result).1.session = result.1 := by
  obtain ⟨session, status⟩ := result
  cases status <;> rfl

theorem shift_extends (s : JtagSession) (r : ShiftRequest) : s.Extends (shift io s r).1 :=
  .jtagCall _ (jtagShift_calls _ _ _)

theorem shiftScan_session (s : JtagMsgState) (c : JtagCommand) (r : ShiftRequest) :
    (shiftScan io s c r).1.session = (shift io s.session r).1 := by
  rw [shiftScan]
  obtain ⟨session, status, tdo⟩ := shift io s.session r
  cases r.output <;> cases status <;> rfl

theorem executeShift_extends (s : JtagMsgState) (rest : List UInt8) (c : JtagCommand)
    (type : ScanType) (request : JtagState → ShiftRequest) :
    s.session.Extends (executeShift io s rest c type request).1.session := by
  rw [executeShift_eq]
  split
  · exact .refl _
  · rw [shiftScan_session]
    exact shift_extends io s.session _

theorem executeReadingScan_extends (s : JtagMsgState) (rest : List UInt8) (cmd : UInt8)
    {scan : JtagMsgState → JtagMsgState × Status × List UInt8}
    (h : ∀ t : JtagMsgState, t.session.Extends (scan t).1.session) :
    s.session.Extends (executeReadingScan s rest cmd scan).1.session := by
  rw [executeReadingScan]
  split
  · exact .refl _
  · exact h { s with out := s.out.put [cmd] }

theorem executeWritePins_session (s : JtagMsgState) (rest : List UInt8) (data : UInt8)
    (chainBytes : List UInt8) :
    (executeWritePins io s rest data chainBytes).1.session = (writePins io s.session data).1 := by
  have hsession := carryOut_session s (.writePins data chainBytes) rest
    (writePins io s.session data)
  rw [executeWritePins]
  rcases hresult : s.carryOut (.writePins data chainBytes) rest (writePins io s.session data)
    with ⟨t, status, left⟩
  rw [hresult] at hsession
  cases status with
  | ok =>
      dsimp only
      split
      · split
        · exact hsession
        · exact hsession
      · exact hsession
  | err => exact hsession
  | timeout => exact hsession

theorem executeJtagCommand_extends (s : JtagMsgState) (rest : List UInt8) (c : JtagCommand) :
    s.session.Extends (executeJtagCommand io s rest c).1.session := by
  by_cases hsilent : c.Silent
  · by_cases hreset : c.AssertsReset
    · cases c with
      | writePins data chainBytes =>
          rw [executeJtagCommand, executeWritePins_session]
          exact writePins_extends io s.session data
      | _ => exact absurd hreset id
    · rw [executeJtagCommand_silent io s rest hsilent hreset, carryOut_session]
      exact silentResult_extends io s.session c
  · cases c with
    | readStatus cmd data =>
        rw [executeJtagCommand, executeReadStatus]
        split
        · exact .refl _
        · have hread := JtagSession.Extends.targetCall io s.session (.read (data &&& 0x7F))
          dsimp only
          rcases hcall : s.session.targetCall io (.read (data &&& 0x7F)) with ⟨t, status, asserted⟩
          rw [hcall] at hread
          cases status <;> exact hread
    | writeScan scan => exact executeShift_extends io s rest _ _ _
    | readScan cmd =>
        exact executeReadingScan_extends s rest cmd fun t => executeShift_extends io t rest _ _ _
    | readWriteScan scan =>
        exact executeReadingScan_extends s rest scan.cmd fun t =>
          executeShift_extends io t rest _ _ _
    | cutScan cmd => exact executeReadingScan_extends s rest cmd fun t => .refl _
    | _ => exact absurd trivial hsilent

end Growth

section Loop

variable (io : JtagIo)

theorem jtagLoop_rounds {n m : Nat} {s : JtagMsgState} {packet : List UInt8}
    (hn : packet.length ≤ n) (hm : packet.length ≤ m) :
    jtagLoop io n s packet = jtagLoop io m s packet := by
  induction n generalizing m s packet with
  | zero =>
      cases List.eq_nil_of_length_eq_zero (Nat.le_zero.mp hn)
      cases m <;> rfl
  | succ n ih =>
      cases packet with
      | nil => cases m <;> rfl
      | cons byte packet =>
          cases m with
          | zero => cases hm
          | succ m =>
              simp only [jtagLoop]
              split
              · rfl
              · rename_i command rest hnext
                have hlt := nextJtagCommand_length hnext
                have hle := executeJtagCommand_length io s rest command
                split
                · rename_i heq
                  rw [heq] at hle
                  simp only [List.length_cons] at hn hm hlt hle
                  exact ih (by omega) (by omega)
                · rfl

/-- The run of the loop over a packet. -/
def runJtag (s : JtagMsgState) (packet : List UInt8) : JtagMsgState × Status :=
  jtagLoop io packet.length s packet

theorem runJtag_of_none {s : JtagMsgState} {packet : List UInt8} (hne : packet ≠ [])
    (h : nextJtagCommand s.session.chainMode packet = none) : runJtag io s packet = (s, .err) := by
  cases packet with
  | nil => exact absurd rfl hne
  | cons byte packet => simp only [runJtag, List.length_cons, jtagLoop, h]

theorem runJtag_of_some {s : JtagMsgState} {packet rest : List UInt8} {c : JtagCommand}
    (h : nextJtagCommand s.session.chainMode packet = some (c, rest)) :
    runJtag io s packet =
      match executeJtagCommand io s rest c with
      | (s, .ok, rest) => runJtag io s rest
      | (s, status, _) => (s, status) := by
  cases packet with
  | nil => cases h
  | cons byte packet =>
      have hlt := nextJtagCommand_length h
      have hle := executeJtagCommand_length io s rest c
      simp only [runJtag, List.length_cons, jtagLoop, h]
      rcases hresult : executeJtagCommand io s rest c with ⟨t, status, left⟩
      rw [hresult] at hle
      cases status with
      | ok =>
          simp only [List.length_cons] at hlt hle
          exact jtagLoop_rounds io (by omega) (Nat.le_refl _)
      | err => rfl
      | timeout => rfl

/-- Induction over a run: it ends with the packet, with something that is no
command or with a command that fails, or a command succeeds and it goes on. -/
theorem runJtag_induction {P : JtagMsgState → List UInt8 → JtagMsgState × Status → Prop}
    (ended : ∀ s, P s [] (s, .ok))
    (stuck : ∀ s packet, packet ≠ [] → nextJtagCommand s.session.chainMode packet = none →
      P s packet (s, .err))
    (failed : ∀ s packet c rest t status left,
      nextJtagCommand s.session.chainMode packet = some (c, rest) →
      executeJtagCommand io s rest c = (t, status, left) → status ≠ .ok → P s packet (t, status))
    (step : ∀ s packet c rest t left,
      nextJtagCommand s.session.chainMode packet = some (c, rest) →
      executeJtagCommand io s rest c = (t, .ok, left) → P t left (runJtag io t left) →
      P s packet (runJtag io t left))
    (s : JtagMsgState) (packet : List UInt8) : P s packet (runJtag io s packet) := by
  induction hn : packet.length using Nat.strong_induction_on generalizing s packet with
  | _ n ih =>
      by_cases hne : packet = []
      · cases hne
        exact ended s
      · cases hnext : nextJtagCommand s.session.chainMode packet with
        | none =>
            rw [runJtag_of_none io hne hnext]
            exact stuck s packet hne hnext
        | some decoded =>
            obtain ⟨c, rest⟩ := decoded
            have hlt := nextJtagCommand_length hnext
            have hle := executeJtagCommand_length io s rest c
            rw [runJtag_of_some io hnext]
            rcases hresult : executeJtagCommand io s rest c with ⟨t, status, left⟩
            rw [hresult] at hle
            cases status with
            | ok =>
                refine step s packet c rest t left hnext hresult (ih left.length ?_ t left rfl)
                exact Nat.lt_of_le_of_lt hle (hn ▸ hlt)
            | err => exact failed s packet c rest t .err left hnext hresult (by decide)
            | timeout => exact failed s packet c rest t .timeout left hnext hresult (by decide)

theorem skippedOperands_eq_some {cmd : UInt8} {n : Nat} (h : skippedOperands cmd = some n) :
    ((cmd = 0 ∨ cmd = 2 ∨ cmd = 3 ∨ cmd = 0x10 ∨ cmd = 0x11 ∨ cmd = 1) ∧ n = 1) ∨
      ((cmd = 4 ∨ cmd = 5) ∧ n = 2) := by
  rw [skippedOperands] at h
  split at h
  · rename_i hone
    cases h
    exact .inl ⟨hone, rfl⟩
  · split at h
    · rename_i htwo
      cases h
      exact .inr ⟨htwo, rfl⟩
    · cases h

/-- What is left when the look ahead is cut off is no command. -/
theorem nextCmd2_cut_stuck (mode : JtagChainSelectMode) {last : Option UInt8}
    {packet left : List UInt8} (h : (nextCmd2 last packet).cut = some left) :
    left ≠ [] ∧ nextJtagCommand mode left = none := by
  fun_induction nextCmd2 last packet with
  | case1 => cases h
  | case2 => cases h
  | case3 last cmd hstate operand packet hskip ih => exact ih h
  | case4 last cmd hstate operand second packet hskip ih => exact ih h
  | case5 last cmd hstate n packet hone htwo hskip =>
      cases h
      refine ⟨List.cons_ne_nil _ _, ?_⟩
      rcases skippedOperands_eq_some hskip with ⟨hcmd, rfl⟩ | ⟨hcmd, rfl⟩
      · cases packet with
        | nil => rcases hcmd with rfl | rfl | rfl | rfl | rfl | rfl <;> rfl
        | cons operand packet => exact absurd rfl (hone operand packet rfl)
      · match packet with
        | [] => rcases hcmd with rfl | rfl <;> rfl
        | [_] => rcases hcmd with rfl | rfl <;> rfl
        | operand :: second :: packet => exact absurd rfl (htwo operand second packet rfl)
  | case6 => cases h

theorem determineShiftEndState_left (mode : JtagChainSelectMode) (driverMode : JtagDriverMode)
    (current : JtagState) (type : ScanType) (rest : List UInt8) :
    (determineShiftEndState driverMode current type rest).2 = rest ∨
      (determineShiftEndState driverMode current type rest).2 ≠ [] ∧
        nextJtagCommand mode (determineShiftEndState driverMode current type rest).2 = none := by
  cases rest with
  | nil => exact .inl rfl
  | cons cmd packet =>
      simp only [determineShiftEndState]
      split
      · cases driverMode with
        | software => exact .inl rfl
        | hardware =>
            dsimp only
            cases hcut : (nextCmd2 none packet).cut with
            | none => exact .inl rfl
            | some left => exact .inr (nextCmd2_cut_stuck mode hcut)
      · split
        · exact .inl rfl
        · exact .inl rfl

/-- A command that succeeds leaves the rest of the packet as it is. The exceptions
are the wait cycles after a reset, and a look ahead in hardware mode that runs
into the end of the packet, after which the loop fails. -/
theorem executeJtagCommand_left (mode : JtagChainSelectMode) (s : JtagMsgState)
    (rest : List UInt8) {c : JtagCommand} (hreset : ¬c.AssertsReset) :
    (executeJtagCommand io s rest c).2.2 = rest ∨
      (executeJtagCommand io s rest c).2.2 ≠ [] ∧
        nextJtagCommand mode (executeJtagCommand io s rest c).2.2 = none := by
  have hshift : ∀ (t : JtagMsgState) (type : ScanType) (request : JtagState → ShiftRequest),
      (executeShift io t rest c type request).2.2 =
        (determineShiftEndState t.session.driverMode t.session.jtag.active.tapState type
          rest).2 := by
    intro t type request
    rw [executeShift_eq]
    split
    · rename_i heq
      rw [heq]
    · rename_i heq
      rw [heq]
  have hreading : ∀ (cmd : UInt8) (type : ScanType) (request : JtagState → ShiftRequest),
      (executeReadingScan s rest cmd fun t => executeShift io t rest c type request).2.2 = rest ∨
        (executeReadingScan s rest cmd fun t => executeShift io t rest c type request).2.2 =
          (determineShiftEndState s.session.driverMode s.session.jtag.active.tapState type
            rest).2 := by
    intro cmd type request
    rw [executeReadingScan]
    split
    · exact .inl rfl
    · exact .inr (hshift _ _ _)
  by_cases hsilent : c.Silent
  · rw [executeJtagCommand_silent io s rest hsilent hreset, s.carryOut_rest]
    exact .inl rfl
  · cases c with
    | readStatus cmd data => exact .inl (executeReadStatus_rest io s rest cmd data)
    | writeScan scan =>
        rw [executeJtagCommand, hshift]
        exact determineShiftEndState_left mode _ _ _ rest
    | readScan cmd =>
        rcases hreading cmd .read (readRequest cmd) with hleft | hleft
        · exact .inl hleft
        · rw [executeJtagCommand, hleft]
          exact determineShiftEndState_left mode _ _ _ rest
    | readWriteScan scan =>
        rcases hreading scan.cmd .readWrite (scan.request true) with hleft | hleft
        · exact .inl hleft
        · rw [executeJtagCommand, hleft]
          exact determineShiftEndState_left mode _ _ _ rest
    | cutScan cmd =>
        rw [executeJtagCommand, executeReadingScan]
        split
        · exact .inl rfl
        · exact .inl rfl
    | _ => exact absurd trivial hsilent

theorem executeJtagCommand_cut (s : JtagMsgState) (rest : List UInt8) {c : JtagCommand}
    (h : c.Cut) : (executeJtagCommand io s rest c).2.1 = .err := by
  cases c with
  | cutScan cmd =>
      rw [executeJtagCommand, executeReadingScan]
      split
      · rfl
      · rfl
  | _ => exact absurd h id

theorem jtagPayload_length {header : MessageHeader} {n : Nat} (buffer : Nat → UInt8)
    (h : getMessageSize header = some n) : (jtagPayload header buffer).length = n := by
  rw [jtagPayload, h, Option.getD_some, ByteBuffer.length_slice]

/-- What is made of the end of the loop. -/
def bundleResult (header : MessageHeader) (accepted : Bool) : JtagMsgState × Status → JtagResult
  | (s, .ok) =>
      match sendResponse header s.out.response 0 with
      | some packet => ⟨s, [packet], if accepted then .ok else .err⟩
      | none => ⟨s, [], .err⟩
  | (s, status) => ⟨s, [], status⟩

theorem bundleResult_state (header : MessageHeader) (accepted : Bool)
    (result : JtagMsgState × Status) : (bundleResult header accepted result).state = result.1 := by
  obtain ⟨s, status⟩ := result
  cases status with
  | ok =>
      rw [bundleResult]
      split
      · rfl
      · rfl
  | err => rfl
  | timeout => rfl

theorem bundleResult_ok (header : MessageHeader) (accepted : Bool) {s : JtagMsgState}
    (h : s.out.response.length ≤ maxDataSize) :
    bundleResult header accepted (s, .ok) =
      ⟨s, [({ header with
        sizeLsb := lsbFromMsgSize s.out.response.length
        sizeMsb := msbFromMsgSize s.out.response.length
        cmdStat := 0 }, s.out.response)], if accepted then .ok else .err⟩ := by
  rw [bundleResult, sendResponse_eq header 0 h]

theorem bundleResult_failed (header : MessageHeader) (accepted : Bool) {s : JtagMsgState}
    {status : Status} (h : status ≠ .ok) :
    bundleResult header accepted (s, status) = ⟨s, [], status⟩ := by
  cases status with
  | ok => exact absurd rfl h
  | err => rfl
  | timeout => rfl

/-- A bundle is the run over its payload, and the response if the run succeeds. -/
theorem processJtagMessage_eq {header : MessageHeader} {n : Nat} (s : JtagSession)
    (buffer : Nat → UInt8) (accepted : Bool) (h : getMessageSize header = some n) :
    processJtagMessage io s header buffer accepted =
      bundleResult header accepted
        (runJtag io ⟨s, .initial, []⟩ (jtagPayload header buffer)) := by
  rw [processJtagMessage, h, runJtag, jtagPayload_length buffer h]
  rfl

end Loop

end AtScaleDebug
