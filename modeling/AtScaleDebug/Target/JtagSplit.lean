import AtScaleDebug.Target.JtagResponse

/-!
Splitting a bundle between two scans of the same kind. The client may do so, and
the comment at the start of a bundle calls it safe. The look ahead of a scan is
what could tell the difference: it reads on in the packet, in hardware mode over
any number of configuration commands. It stops at the latest at the scan that the
first part ends with, and behind that scan both an empty packet and another scan
of its kind mean that the TAP stays where it is.
-/

namespace AtScaleDebug

section LookAhead

variable {mode : JtagChainSelectMode} {c : JtagCommand} {cs : List JtagCommand}
  {packet : List UInt8}

/-- The commands end with a scan, and the packet starts with one of its kind. -/
def Continues (cs : List JtagCommand) (packet : List UInt8) : Prop :=
  ∃ last type cmd rest, cs.getLast? = some last ∧ last.scanType = some type ∧
    packet = cmd :: rest ∧ ScanType.Covers type cmd

theorem Continues.tail (h : Continues (c :: cs) packet) (hc : c.scanType = none) :
    Continues cs packet := by
  obtain ⟨last, type, cmd, rest, hlast, htype, hpacket, hcovers⟩ := h
  cases cs with
  | nil =>
      obtain rfl : c = last := Option.some.inj hlast
      rw [hc] at htype
      cases htype
  | cons d ds => exact ⟨last, type, cmd, rest, by simpa using hlast, htype, hpacket, hcovers⟩

theorem Continues.of_cons {d : JtagCommand} (h : Continues (c :: d :: cs) packet) :
    Continues (d :: cs) packet := by
  obtain ⟨last, type, cmd, rest, hlast, htype, hpacket, hcovers⟩ := h
  exact ⟨last, type, cmd, rest, by simpa using hlast, htype, hpacket, hcovers⟩

theorem skippedOperands_of_le {cmd : UInt8} (h : 0x12 ≤ cmd) : skippedOperands cmd = none := by
  rw [skippedOperands, if_neg (by grind), if_neg (by grind)]

/-- How the look ahead reads a command of the table: it passes over one or two
operands, or it stops. -/
theorem encode_lookAhead (h : c.WellFormed mode) :
    (c.scanType = none ∧ ∃ cmd operand, c.encode = [cmd, operand] ∧ ¬isTapState cmd ∧
      skippedOperands cmd = some 1) ∨
    (c.scanType = none ∧ ∃ cmd operand second, c.encode = [cmd, operand, second] ∧
      ¬isTapState cmd ∧ skippedOperands cmd = some 2) ∨
    ∃ cmd operands, c.encode = cmd :: operands ∧ (isTapState cmd ∨ skippedOperands cmd = none) := by
  cases c with
  | writeEventConfig data => exact .inl ⟨rfl, _, _, rfl, by decide, rfl⟩
  | jtagFreq data => exact .inl ⟨rfl, _, _, rfl, by decide, rfl⟩
  | drPrefix data => exact .inl ⟨rfl, _, _, rfl, by decide, rfl⟩
  | drPostfix data => exact .inl ⟨rfl, _, _, rfl, by decide, rfl⟩
  | irPrefix lsb msb => exact .inr (.inl ⟨rfl, _, _, _, rfl, by decide, rfl⟩)
  | irPostfix lsb msb => exact .inr (.inl ⟨rfl, _, _, _, rfl, by decide, rfl⟩)
  | waitCycles cmd data =>
      obtain rfl | rfl := h
      · exact .inl ⟨rfl, _, _, rfl, by decide, rfl⟩
      · exact .inl ⟨rfl, _, _, rfl, by decide, rfl⟩
  | readStatus cmd data =>
      have hcmd : 0x08 ≤ cmd ∧ cmd ≤ 0x0F := h
      refine .inr (.inr ⟨_, _, rfl, .inr ?_⟩)
      rw [skippedOperands, if_neg (by grind), if_neg (by grind)]
  | tapState cmd => exact .inr (.inr ⟨_, _, rfl, .inl h⟩)
  | writeScan scan =>
      have hscan : ScanType.write.Covers scan.cmd := h
      have hle : 0x12 ≤ scan.cmd := UInt8.le_trans (by decide) hscan.le
      exact .inr (.inr ⟨_, _, rfl, .inr (skippedOperands_of_le hle)⟩)
  | readScan cmd =>
      have hscan : ScanType.read.Covers cmd := h
      have hle : 0x12 ≤ cmd := UInt8.le_trans (by decide) hscan.le
      exact .inr (.inr ⟨_, _, rfl, .inr (skippedOperands_of_le hle)⟩)
  | readWriteScan scan =>
      have hscan : ScanType.readWrite.Covers scan.cmd := h
      have hle : 0x12 ≤ scan.cmd := UInt8.le_trans (by decide) hscan.le
      exact .inr (.inr ⟨_, _, rfl, .inr (skippedOperands_of_le hle)⟩)
  | cutScan cmd => exact absurd h id
  | prdyTimeout _ | writePins _ _ | waitPrdy | clearTimeout | tapReset | waitSync _ _ _ _ =>
      exact .inr (.inr ⟨_, _, rfl, .inr rfl⟩)

/-- The look ahead sees no difference between the end of the first part and the
second part behind it, and it is not cut off. -/
theorem nextCmd2_append (last : Option UInt8) (hwf : ∀ c ∈ cs, c.WellFormed mode)
    (h : Continues cs packet) :
    nextCmd2 last (cs.flatMap JtagCommand.encode ++ packet) =
        nextCmd2 last (cs.flatMap JtagCommand.encode) ∧
      (nextCmd2 last (cs.flatMap JtagCommand.encode)).cut = none := by
  induction cs generalizing last with
  | nil =>
      obtain ⟨_, _, _, _, hlast, -⟩ := h
      cases hlast
  | cons c cs ih =>
      have htail : ∀ c ∈ cs, c.WellFormed mode := fun d hd => hwf d (List.mem_cons_of_mem c hd)
      rw [List.flatMap_cons]
      rcases encode_lookAhead (hwf c List.mem_cons_self) with
        ⟨hscan, cmd, operand, hencode, hstate, hskip⟩ |
        ⟨hscan, cmd, operand, second, hencode, hstate, hskip⟩ | ⟨cmd, operands, hencode, hstop⟩
      · simp only [hencode, List.cons_append, List.nil_append, nextCmd2, if_neg hstate, hskip]
        exact ih (some operand) htail (h.tail hscan)
      · simp only [hencode, List.cons_append, List.nil_append, nextCmd2, if_neg hstate, hskip]
        exact ih (some operand) htail (h.tail hscan)
      · simp only [hencode, List.cons_append, nextCmd2_found _ hstop]
        trivial

/-- Each scan finds the same end state in both packets, and stays where it is in them. -/
def LooksAlike (c : JtagCommand) (packet other : List UInt8) : Prop :=
  ∀ driverMode current type, c.scanType = some type →
    determineShiftEndState driverMode current type other =
        ((determineShiftEndState driverMode current type packet).1, other) ∧
      (determineShiftEndState driverMode current type packet).2 = packet

/-- The end state of a scan is the same whether the second part follows or not,
and so is the place where the packet goes on. -/
theorem looksAlike_append (hwf : ∀ c ∈ cs, c.WellFormed mode) (h : Continues (c :: cs) packet) :
    LooksAlike c (cs.flatMap JtagCommand.encode) (cs.flatMap JtagCommand.encode ++ packet) := by
  intro driverMode current type hc
  cases cs with
  | nil =>
      obtain ⟨last, type', cmd, rest, hlast, htype, rfl, hcovers⟩ := h
      obtain rfl : c = last := Option.some.inj hlast
      obtain rfl : type = type' := Option.some.inj (hc.symm.trans htype)
      refine ⟨?_, rfl⟩
      rw [List.flatMap_nil, List.nil_append]
      simp only [determineShiftEndState, if_neg hcovers.not_isTapState, if_pos hcovers]
  | cons d ds =>
      have hd := hwf d List.mem_cons_self
      obtain ⟨cmd, operands, hencode⟩ := List.exists_cons_of_ne_nil d.encode_ne_nil
      rw [List.flatMap_cons, hencode, List.append_assoc, List.cons_append, List.cons_append]
      by_cases hstate : isTapState cmd
      · obtain ⟨rfl, rfl⟩ := encode_of_isTapState hd hencode hstate
        have hds : ∀ c ∈ ds, c.WellFormed mode := fun c hmem => hwf c (List.mem_cons_of_mem _ hmem)
        obtain ⟨hsame, hcut⟩ := nextCmd2_append none hds (h.of_cons.tail rfl)
        simp only [determineShiftEndState, if_pos hstate, List.nil_append]
        cases driverMode with
        | software => exact ⟨rfl, rfl⟩
        | hardware =>
            simp only [hsame, hcut]
            exact ⟨rfl, rfl⟩
      · simp only [determineShiftEndState, if_neg hstate]
        split
        · exact ⟨rfl, rfl⟩
        · exact ⟨rfl, rfl⟩

end LookAhead

section FirstPart

variable (io : JtagIo) {mode : JtagChainSelectMode} {c : JtagCommand} {cs : List JtagCommand}
  {packet rest other : List UInt8}

theorem executeShift_alike (s : JtagMsgState) {type : ScanType}
    (request : JtagState → ShiftRequest) (hc : c.scanType = some type)
    (h : LooksAlike c rest other) :
    let part := executeShift io s rest c type request
    executeShift io s other c type request = (part.1, part.2.1, other) ∧ part.2.2 = rest := by
  obtain ⟨hsame, hleft⟩ := h s.session.driverMode s.session.jtag.active.tapState type hc
  rw [executeShift_eq, executeShift_eq, hsame]
  rcases hend : determineShiftEndState s.session.driverMode s.session.jtag.active.tapState type
    rest with ⟨_ | endState, left⟩
  · rw [hend] at hleft
    exact ⟨rfl, hleft⟩
  · rw [hend] at hleft
    exact ⟨rfl, hleft⟩

theorem executeReadingScan_alike (s : JtagMsgState) {cmd : UInt8}
    (scan : List UInt8 → JtagMsgState → JtagMsgState × Status × List UInt8)
    (h : ∀ t, scan other t = ((scan rest t).1, (scan rest t).2.1, other) ∧
      (scan rest t).2.2 = rest) :
    let part := executeReadingScan s rest cmd (scan rest)
    executeReadingScan s other cmd (scan other) = (part.1, part.2.1, other) ∧
      part.2.2 = rest := by
  dsimp only
  rw [executeReadingScan, executeReadingScan]
  split
  · exact ⟨rfl, rfl⟩
  · exact h _

/-- A command does the same in front of both packets, and leaves them as they are. -/
theorem executeJtagCommand_alike (s : JtagMsgState) (hc : c.WellFormed mode)
    (hreset : ¬c.AssertsReset) (h : LooksAlike c rest other) :
    let part := executeJtagCommand io s rest c
    executeJtagCommand io s other c = (part.1, part.2.1, other) ∧ part.2.2 = rest := by
  by_cases hsilent : c.Silent
  · dsimp only
    rw [executeJtagCommand_silent io s _ hsilent hreset,
      executeJtagCommand_silent io s _ hsilent hreset]
    obtain ⟨session, status⟩ := c.silentResult io s.session
    cases status <;> exact ⟨rfl, rfl⟩
  · cases c with
    | readStatus cmd data =>
        dsimp only [executeJtagCommand]
        rw [executeReadStatus, executeReadStatus]
        split
        · exact ⟨rfl, rfl⟩
        · dsimp only
          obtain ⟨session, status, asserted⟩ := s.session.targetCall io (.read (data &&& 0x7F))
          cases status <;> exact ⟨rfl, rfl⟩
    | writeScan scan => exact executeShift_alike io s _ rfl h
    | readScan cmd =>
        exact executeReadingScan_alike s
          (fun rest t => executeShift io t rest (.readScan cmd) .read (readRequest cmd))
          fun t => executeShift_alike io t _ rfl h
    | readWriteScan scan =>
        exact executeReadingScan_alike s
          (fun rest t => executeShift io t rest (.readWriteScan scan) .readWrite
            (scan.request true))
          fun t => executeShift_alike io t _ rfl h
    | cutScan cmd => exact absurd hc id
    | _ => exact absurd trivial hsilent

/-- The run over both parts is the run over the first and then over the second. -/
theorem runJtag_append (s : JtagMsgState) (hwf : ∀ c ∈ cs, c.WellFormed s.session.chainMode)
    (hreset : ∀ c ∈ cs, ¬c.AssertsReset) (h : cs ≠ [] → Continues cs packet) :
    runJtag io s (cs.flatMap JtagCommand.encode ++ packet) =
      match runJtag io s (cs.flatMap JtagCommand.encode) with
      | (t, .ok) => runJtag io t packet
      | (t, status) => (t, status) := by
  induction cs generalizing s with
  | nil => rfl
  | cons c cs ih =>
      have hc := hwf c List.mem_cons_self
      have htail : ∀ d ∈ cs, d.WellFormed s.session.chainMode :=
        fun d hd => hwf d (List.mem_cons_of_mem c hd)
      have hcontinues := h (List.cons_ne_nil c cs)
      obtain ⟨hsame, hleft⟩ := executeJtagCommand_alike io s hc (hreset c List.mem_cons_self)
        (looksAlike_append htail hcontinues)
      have hmode := (executeJtagCommand_extends io s (cs.flatMap JtagCommand.encode) c).chainMode
      rw [List.flatMap_cons, List.append_assoc, runJtag_of_some io (nextJtagCommand_encode _ hc),
        runJtag_of_some io (nextJtagCommand_encode _ hc), hsame]
      rcases hpart : executeJtagCommand io s (cs.flatMap JtagCommand.encode) c with
        ⟨t, status, left⟩
      rw [hpart] at hleft hmode
      cases status with
      | ok =>
          replace hleft : left = cs.flatMap JtagCommand.encode := hleft
          rw [hleft]
          refine ih t ?_ (fun d hd => hreset d (List.mem_cons_of_mem c hd)) ?_
          · rw [hmode]
            exact htail
          · intro hne
            obtain ⟨d, ds, rfl⟩ := List.exists_cons_of_ne_nil hne
            exact hcontinues.of_cons
      | err => rfl
      | timeout => rfl

end FirstPart

section SecondPart

variable (io : JtagIo) {before : List UInt8}

/-- The same session, with a response that the first one has more of at its start. -/
structure Behind (before : List UInt8) (s t : JtagMsgState) : Prop where
  session : s.session = t.session
  response : s.out.response = before ++ t.out.response

theorem Behind.length_le {s t : JtagMsgState} (h : Behind before s t) :
    t.out.response.length ≤ s.out.response.length := by
  rw [h.response, List.length_append]
  exact Nat.le_add_left _ _

/-- A result that one run has, the other has too, with its own response. -/
def Follows (before : List UInt8) (one other : JtagMsgState × Status × List UInt8) : Prop :=
  one.2.1 = .ok → Behind before one.1 other.1 ∧ other.2 = one.2

theorem carryOut_follows {s t : JtagMsgState} (h : Behind before s t) (c : JtagCommand)
    (rest : List UInt8) (result : JtagSession × Status) :
    Follows before (s.carryOut c rest result) (t.carryOut c rest result) := by
  obtain ⟨session, status⟩ := result
  cases status with
  | ok => exact fun _ => ⟨⟨rfl, h.response⟩, rfl⟩
  | err => rintro ⟨⟩
  | timeout => rintro ⟨⟩

theorem executeWritePins_follows {s t : JtagMsgState} (h : Behind before s t) (rest : List UInt8)
    (data : UInt8) (chainBytes : List UInt8) :
    Follows before (executeWritePins io s rest data chainBytes)
      (executeWritePins io t rest data chainBytes) := by
  have hcarry := carryOut_follows h (.writePins data chainBytes) rest (writePins io s.session data)
  rw [executeWritePins, executeWritePins, ← h.session]
  rcases hs : s.carryOut (.writePins data chainBytes) rest (writePins io s.session data)
    with ⟨s', status, left⟩
  rcases ht : t.carryOut (.writePins data chainBytes) rest (writePins io s.session data)
    with ⟨t', status', left'⟩
  rw [hs, ht] at hcarry
  cases status with
  | ok =>
      obtain ⟨hbehind, heq⟩ := hcarry rfl
      cases heq
      dsimp only
      split
      · split
        · exact fun _ => ⟨hbehind, rfl⟩
        · rintro ⟨⟩
      · exact fun _ => ⟨hbehind, rfl⟩
  | err => rintro ⟨⟩
  | timeout => rintro ⟨⟩

theorem executeReadStatus_follows {s t : JtagMsgState} (h : Behind before s t) (rest : List UInt8)
    (cmd data : UInt8) :
    Follows before (executeReadStatus io s rest cmd data)
      (executeReadStatus io t rest cmd data) := by
  have hle := h.length_le
  rw [executeReadStatus, executeReadStatus, ← h.session]
  split
  · rintro ⟨⟩
  · rename_i hfits
    rw [if_neg (by omega)]
    dsimp only
    obtain ⟨session, status, asserted⟩ := s.session.targetCall io (.read (data &&& 0x7F))
    cases status with
    | ok =>
        refine fun _ => ⟨⟨rfl, ?_⟩, rfl⟩
        simp only [JtagOutput.put, h.response, List.append_assoc]
    | err => rintro ⟨⟩
    | timeout => rintro ⟨⟩

theorem executeShift_follows {s t : JtagMsgState} (h : Behind before s t) (rest : List UInt8)
    (c : JtagCommand) (type : ScanType) (request : JtagState → ShiftRequest) :
    Follows before (executeShift io s rest c type request)
      (executeShift io t rest c type request) := by
  rw [executeShift_eq, executeShift_eq, ← h.session]
  split
  · rintro ⟨⟩
  · rename_i endState left _
    rw [shiftScan, shiftScan, ← h.session]
    obtain ⟨session, status, tdo⟩ := shift io s.session (request endState)
    cases (request endState).output with
    | none =>
        cases status with
        | ok => exact fun _ => ⟨⟨rfl, h.response⟩, rfl⟩
        | err => rintro ⟨⟩
        | timeout => rintro ⟨⟩
    | some buffer =>
        cases status with
        | ok =>
            refine fun _ => ⟨⟨rfl, ?_⟩, rfl⟩
            simp only [JtagOutput.lend, h.response, List.append_assoc]
        | err => rintro ⟨⟩
        | timeout => rintro ⟨⟩

theorem executeReadingScan_follows {s t : JtagMsgState} (h : Behind before s t)
    (rest : List UInt8) (cmd : UInt8)
    {scan : JtagMsgState → JtagMsgState × Status × List UInt8}
    (hscan : ∀ {s t : JtagMsgState}, Behind before s t → Follows before (scan s) (scan t)) :
    Follows before (executeReadingScan s rest cmd scan) (executeReadingScan t rest cmd scan) := by
  have hle := h.length_le
  rw [executeReadingScan, executeReadingScan]
  split
  · rintro ⟨⟩
  · rename_i hfits
    rw [if_neg (by omega)]
    refine hscan ⟨h.session, ?_⟩
    simp only [JtagOutput.put, h.response, List.append_assoc]

theorem executeJtagCommand_follows {s t : JtagMsgState} (h : Behind before s t)
    (rest : List UInt8) (c : JtagCommand) :
    Follows before (executeJtagCommand io s rest c) (executeJtagCommand io t rest c) := by
  by_cases hsilent : c.Silent ∧ ¬c.AssertsReset
  · rw [executeJtagCommand_silent io s rest hsilent.1 hsilent.2,
      executeJtagCommand_silent io t rest hsilent.1 hsilent.2, ← h.session]
    exact carryOut_follows h c rest _
  · cases c with
    | writePins data chainBytes => exact executeWritePins_follows io h rest data chainBytes
    | readStatus cmd data => exact executeReadStatus_follows io h rest cmd data
    | writeScan scan => exact executeShift_follows io h rest _ _ _
    | readScan cmd =>
        exact executeReadingScan_follows h rest cmd fun h => executeShift_follows io h rest _ _ _
    | readWriteScan scan =>
        exact executeReadingScan_follows h rest scan.cmd fun h =>
          executeShift_follows io h rest _ _ _
    | cutScan cmd => exact executeReadingScan_follows h rest cmd fun _ => by rintro ⟨⟩
    | _ => exact absurd ⟨trivial, id⟩ hsilent

/-- A run that succeeds behind some response also succeeds at the start of one. -/
theorem runJtag_behind (s : JtagMsgState) (packet : List UInt8) :
    ∀ t, Behind before s t → (runJtag io s packet).2 = .ok →
      (runJtag io t packet).2 = .ok ∧
        Behind before (runJtag io s packet).1 (runJtag io t packet).1 := by
  refine runJtag_induction io (P := fun s packet result => ∀ t, Behind before s t →
    result.2 = .ok → (runJtag io t packet).2 = .ok ∧
      Behind before result.1 (runJtag io t packet).1) ?_ ?_ ?_ ?_ s packet
  · intro s t h _
    exact ⟨rfl, h⟩
  · intro s packet _ _ t _ hok
    cases hok
  · intro s packet c rest s' status left _ _ hstatus t _ hok
    exact absurd hok hstatus
  · intro s packet c rest s' left hnext hresult ih t h hok
    have hfollows := executeJtagCommand_follows io h rest c
    rw [hresult] at hfollows
    obtain ⟨hbehind, heq⟩ := hfollows rfl
    rw [h.session] at hnext
    rcases hother : executeJtagCommand io t rest c with ⟨t', status, left'⟩
    rw [hother] at hbehind heq
    cases heq
    rw [runJtag_of_some io hnext, hother]
    exact ih t' hbehind hok

end SecondPart

section Bundles

/-- The message has this payload. -/
structure HasPayload (header : MessageHeader) (buffer : Nat → UInt8) (payload : List UInt8) :
    Prop where
  size : getMessageSize header = some payload.length
  payload : jtagPayload header buffer = payload

theorem processJtagMessage_of_runJtag (io : JtagIo) {s : JtagSession} {t : JtagMsgState}
    {header : MessageHeader} {buffer : Nat → UInt8} {payload : List UInt8}
    (hpayload : HasPayload header buffer payload)
    (h : runJtag io ⟨s, .initial, []⟩ payload = (t, .ok)) :
    ∃ packet, processJtagMessage io s header buffer true = ⟨t, [packet], .ok⟩ ∧
      packet.2 = t.out.response := by
  rw [processJtagMessage_eq io s buffer true hpayload.size, hpayload.payload, h,
    bundleResult_ok header true (runJtag_length_le io h)]
  exact ⟨_, rfl, rfl⟩

/-- A bundle that is accepted is also accepted when it is split between two scans
of the same kind: in either mode, from any session and whatever the driver and the
target answer, the second message ends in the session of the whole bundle, with
the same calls made in the same order, and the two responses together are the one
of the whole bundle. -/
theorem jtag_bundle_split (io : JtagIo) (s : JtagSession) (cs : List JtagCommand)
    (first second : List UInt8) (whole part rest : MessageHeader)
    (wholeBuffer partBuffer restBuffer : Nat → UInt8)
    (hwhole : HasPayload whole wholeBuffer (first ++ second))
    (hpart : HasPayload part partBuffer first) (hrest : HasPayload rest restBuffer second)
    (hdecodes : Decodes s.chainMode first cs) (hreset : ∀ c ∈ cs, ¬c.AssertsReset)
    (hcontinues : Continues cs second)
    (haccepted : (processJtagMessage io s whole wholeBuffer true).status = .ok) :
    let one := processJtagMessage io s whole wholeBuffer true
    let two := processJtagMessage io s part partBuffer true
    let three := processJtagMessage io two.state.session rest restBuffer true
    two.status = .ok ∧ three.status = .ok ∧ three.state.session = one.state.session ∧
      one.sent.length = 1 ∧ two.sent.length = 1 ∧ three.sent.length = 1 ∧
      two.sent.flatMap Prod.snd ++ three.sent.flatMap Prod.snd = one.sent.flatMap Prod.snd := by
  obtain ⟨hwf, rfl⟩ := hdecodes
  have hok := ((processJtagMessage_status io hwhole.size).mp haccepted).2
  rw [hwhole.payload] at hok
  have happend := runJtag_append io ⟨s, .initial, []⟩ hwf hreset fun _ => hcontinues
  rcases hfirst : runJtag io ⟨s, .initial, []⟩ (cs.flatMap JtagCommand.encode) with ⟨t, status⟩
  rw [hfirst] at happend
  rw [happend] at hok
  cases status with
  | err => cases hok
  | timeout => cases hok
  | ok =>
      dsimp only at happend hok
      have hbehind : Behind t.out.response t ⟨t.session, .initial, []⟩ :=
        ⟨rfl, (List.append_nil _).symm⟩
      obtain ⟨hsecond, hfinal⟩ := runJtag_behind io t second _ hbehind hok
      rcases hrun : runJtag io t second with ⟨u, status⟩
      rcases hrun' : runJtag io ⟨t.session, .initial, []⟩ second with ⟨w, status'⟩
      rw [hrun] at happend hok hfinal
      rw [hrun'] at hsecond hfinal
      cases hok
      cases hsecond
      obtain ⟨packet, hone, hpacket⟩ := processJtagMessage_of_runJtag io hwhole happend
      obtain ⟨packet', htwo, hpacket'⟩ := processJtagMessage_of_runJtag io hpart hfirst
      obtain ⟨packet'', hthree, hpacket''⟩ := processJtagMessage_of_runJtag io hrest hrun'
      dsimp only
      rw [hone, htwo, hthree]
      refine ⟨rfl, rfl, hfinal.session.symm, rfl, rfl, rfl, ?_⟩
      simp only [List.flatMap_singleton, hpacket, hpacket', hpacket'']
      exact hfinal.response.symm

/-- Two reads in hardware mode, of which the second leaves the shift state and is
followed by a configuration command between two TAP state commands. -/
theorem jtag_bundle_split_two_reads :
    let s := shiftingSession .hardware
    let second : List UInt8 := [0x88, 0x25, 0x02, 0x03, 0x21]
    let one := processJtagMessage answeringIo s (jtagHeader 6 0) (bufferOf (0x88 :: second)) true
    let two := processJtagMessage answeringIo s (jtagHeader 1 0) (bufferOf [0x88]) true
    let three := processJtagMessage answeringIo two.state.session (jtagHeader 5 0)
      (bufferOf second) true
    one.status = .ok ∧ one.sent.flatMap Prod.snd = [0x88, 0xFF, 0x88, 0xFF] ∧
      two.status = .ok ∧ three.status = .ok ∧ three.state.session = one.state.session ∧
      one.sent.length = 1 ∧ two.sent.length = 1 ∧ three.sent.length = 1 ∧
      two.sent.flatMap Prod.snd ++ three.sent.flatMap Prod.snd = one.sent.flatMap Prod.snd := by
  refine ⟨by decide +kernel, by decide +kernel, ?_⟩
  exact jtag_bundle_split answeringIo (shiftingSession .hardware) [.readScan 0x88] [0x88]
    [0x88, 0x25, 0x02, 0x03, 0x21] (jtagHeader 6 0) (jtagHeader 1 0) (jtagHeader 5 0)
    (bufferOf [0x88, 0x88, 0x25, 0x02, 0x03, 0x21]) (bufferOf [0x88])
    (bufferOf [0x88, 0x25, 0x02, 0x03, 0x21]) ⟨rfl, rfl⟩ ⟨rfl, rfl⟩ ⟨rfl, rfl⟩
    ⟨by decide, rfl⟩ (by decide) ⟨_, .read, _, _, rfl, rfl, rfl, by decide⟩ (by decide +kernel)

end Bundles

end AtScaleDebug
