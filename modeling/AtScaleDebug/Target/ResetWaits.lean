import AtScaleDebug.Target.JtagParser
import AtScaleDebug.Target.JtagSplit

/-!
The wait cycles that are skipped behind an assertion of the reset button, against a build
without `SKIP_WAIT_CYCLES_DURING_RESET` that never had them in its packet. Up to the
assertion the two builds do the same, because no look ahead gets past a pin command. Behind
it they differ in what one byte alone means: to the command loop it can be a whole command,
to the loop that skips, which takes two bytes at a time, it is a wait that is cut off.
-/

namespace AtScaleDebug

section Builds

/-- `skips` says whether the build defines `SKIP_WAIT_CYCLES_DURING_RESET`. -/
def executeJtagCommandWhen (skips : Bool) (io : JtagIo) (s : JtagMsgState) (rest : List UInt8) :
    JtagCommand → JtagMsgState × Status × List UInt8
  | .writePins data chainBytes =>
      if skips then executeWritePins io s rest data chainBytes
      else s.carryOut (.writePins data chainBytes) rest (writePins io s.session data)
  | command => executeJtagCommand io s rest command

def jtagLoopWhen (skips : Bool) (io : JtagIo) :
    Nat → JtagMsgState → List UInt8 → JtagMsgState × Status
  | 0, s, _ => (s, .ok)
  | _ + 1, s, [] => (s, .ok)
  | rounds + 1, s, byte :: packet =>
      match nextJtagCommand s.session.chainMode (byte :: packet) with
      | none => (s, .err)
      | some (command, rest) =>
          match executeJtagCommandWhen skips io s rest command with
          | (s, .ok, rest) => jtagLoopWhen skips io rounds s rest
          | (s, status, _) => (s, status)

def processJtagMessageWhen (skips : Bool) (io : JtagIo) (s : JtagSession) (header : MessageHeader)
    (buffer : Nat → UInt8) (accepted : Bool) : JtagResult :=
  match getMessageSize header with
  | none => ⟨⟨s, ⟨[], []⟩, []⟩, [], .err⟩
  | some size =>
      match jtagLoopWhen skips io size ⟨s, .initial, []⟩ (jtagPayload header buffer) with
      | (s, .ok) =>
          match sendResponse header s.out.response 0 with
          | some packet => ⟨s, [packet], if accepted then .ok else .err⟩
          | none => ⟨s, [], .err⟩
      | (s, status) => ⟨s, [], status⟩

variable (io : JtagIo)

theorem executeJtagCommandWhen_eq {c : JtagCommand} (skips : Bool) (s : JtagMsgState)
    (rest : List UInt8) (hreset : ¬c.AssertsReset) :
    executeJtagCommandWhen skips io s rest c = executeJtagCommand io s rest c := by
  cases c with
  | writePins data chainBytes =>
      cases skips with
      | true => rfl
      | false =>
          exact (executeJtagCommand_silent io s rest (c := .writePins data chainBytes) trivial
            hreset).symm
  | _ => rfl

theorem jtagLoopWhen_true (rounds : Nat) (s : JtagMsgState) (packet : List UInt8) :
    jtagLoopWhen true io rounds s packet = jtagLoop io rounds s packet := by
  induction rounds generalizing s packet with
  | zero => rfl
  | succ rounds ih =>
      cases packet with
      | nil => rfl
      | cons byte packet =>
          have hexecute : ∀ rest c, executeJtagCommandWhen true io s rest c =
              executeJtagCommand io s rest c := by
            intro rest c
            cases c <;> rfl
          cases hnext : nextJtagCommand s.session.chainMode (byte :: packet) with
          | none => simp only [jtagLoopWhen, jtagLoop, hnext]
          | some decoded =>
              obtain ⟨c, rest⟩ := decoded
              simp only [jtagLoopWhen, jtagLoop, hnext, hexecute]
              rcases executeJtagCommand io s rest c with ⟨t, status, left⟩
              cases status with
              | ok => exact ih t left
              | err => rfl
              | timeout => rfl

theorem processJtagMessageWhen_eq {header : MessageHeader} {n : Nat} (skips : Bool)
    (s : JtagSession) (buffer : Nat → UInt8) (accepted : Bool)
    (h : getMessageSize header = some n) :
    processJtagMessageWhen skips io s header buffer accepted =
      bundleResult header accepted
        (jtagLoopWhen skips io n ⟨s, .initial, []⟩ (jtagPayload header buffer)) := by
  rw [processJtagMessageWhen, h]
  rfl

/-- The build that skips is the one of the other modules. -/
theorem processJtagMessageWhen_true :
    processJtagMessageWhen true io = processJtagMessage io := by
  funext s header buffer accepted
  cases hsize : getMessageSize header with
  | none => simp only [processJtagMessageWhen, processJtagMessage, hsize]
  | some n =>
      rw [processJtagMessageWhen_eq io true s buffer accepted hsize,
        processJtagMessage_eq io s buffer accepted hsize, jtagLoopWhen_true, runJtag,
        jtagPayload_length buffer hsize]

end Builds

section Waits
variable {mode : JtagChainSelectMode} {packet : List UInt8}

/-- The packet without the complete `WAIT_CYCLES_TCK_DISABLE` commands it starts with. -/
def dropWaitCycles : List UInt8 → List UInt8
  | cmd :: data :: packet =>
      if cmd = 0x10 then dropWaitCycles packet else cmd :: data :: packet
  | packet => packet

theorem dropWaitCycles_spec (packet : List UInt8) :
    (∃ operands : List UInt8, packet =
      (operands.map (JtagCommand.waitCycles 0x10)).flatMap JtagCommand.encode ++
        dropWaitCycles packet) ∧
    ∀ data rest, dropWaitCycles packet ≠ 0x10 :: data :: rest := by
  fun_induction dropWaitCycles packet with
  | case1 data packet ih =>
      obtain ⟨⟨operands, hpacket⟩, hmaximal⟩ := ih
      refine ⟨⟨data :: operands, ?_⟩, hmaximal⟩
      rw [List.map_cons, List.flatMap_cons, List.append_assoc, ← hpacket]
      rfl
  | case2 cmd data packet hcmd =>
      refine ⟨⟨[], rfl⟩, ?_⟩
      rintro _ _ ⟨⟩
      exact hcmd rfl
  | case3 packet hshort =>
      refine ⟨⟨[], rfl⟩, ?_⟩
      rintro data rest rfl
      exact hshort _ _ _ rfl

/-- Skipping drops the waits, but not in front of a single byte. -/
theorem skipWaitCycles_eq (packet : List UInt8) :
    skipWaitCycles packet = if (dropWaitCycles packet).length = 1 then none
      else some (dropWaitCycles packet) := by
  fun_induction skipWaitCycles packet with
  | case1 => rfl
  | case2 => rfl
  | case3 data packet ih =>
      have hdrop : dropWaitCycles (0x10 :: data :: packet) = dropWaitCycles packet := if_pos rfl
      rw [ih, hdrop]
  | case4 cmd data packet hcmd =>
      have hdrop : dropWaitCycles (cmd :: data :: packet) = cmd :: data :: packet := if_neg hcmd
      rw [hdrop, if_neg (by simp)]

theorem NoResetAssertion.tail {cs : List JtagCommand} (hcs : ∀ c ∈ cs, c.WellFormed mode)
    (h : NoResetAssertion mode (cs.flatMap JtagCommand.encode ++ packet)) :
    NoResetAssertion mode packet := by
  intro ds rest hds hpacket d hd
  refine h (cs ++ ds) rest ?_ ?_ d (List.mem_append_right cs hd)
  · intro c hc
    exact (List.mem_append.mp hc).elim (hcs c) (hds c)
  · rw [hpacket, List.flatMap_append, List.append_assoc]

theorem NoResetAssertion.dropWaitCycles (h : NoResetAssertion mode packet) :
    NoResetAssertion mode (dropWaitCycles packet) := by
  obtain ⟨⟨operands, hpacket⟩, -⟩ := dropWaitCycles_spec packet
  rw [hpacket] at h
  refine h.tail ?_
  intro c hc
  obtain ⟨data, -, rfl⟩ := List.mem_map.mp hc
  exact .inl rfl

end Waits

section Runs
variable (io : JtagIo) {mode : JtagChainSelectMode} {c : JtagCommand} {cs : List JtagCommand}
  {packet : List UInt8}

theorem noResetAssertion_of_none (h : nextJtagCommand mode packet = none) :
    NoResetAssertion mode packet := by
  intro cs rest hcs hpacket d hd
  cases cs with
  | nil => cases hd
  | cons c cs =>
      rw [hpacket, List.flatMap_cons, List.append_assoc,
        nextJtagCommand_encode _ (hcs c List.mem_cons_self)] at h
      cases h

theorem NoResetAssertion.next {rest : List UInt8} (hreset : NoResetAssertion mode packet)
    (hnext : nextJtagCommand mode packet = some (c, rest)) : ¬c.AssertsReset := by
  obtain ⟨hcut | hwf, hpacket⟩ := nextJtagCommand_eq_some hnext
  · cases c with
    | cutScan cmd => exact id
    | _ => exact absurd hcut id
  · refine hreset [c] rest (List.forall_mem_singleton.mpr hwf) ?_ c (List.mem_singleton_self c)
    rw [hpacket, List.flatMap_singleton]

/-- What a command that succeeds leaves of such a packet. -/
theorem NoResetAssertion.left {s t : JtagMsgState} {rest left : List UInt8}
    (hreset : NoResetAssertion s.session.chainMode packet)
    (hnext : nextJtagCommand s.session.chainMode packet = some (c, rest))
    (hresult : executeJtagCommand io s rest c = (t, .ok, left)) :
    NoResetAssertion t.session.chainMode left := by
  obtain ⟨hwf, hpacket⟩ := nextJtagCommand_eq_some hnext
  have hcut : ¬c.Cut := by
    intro hcut
    have herr := executeJtagCommand_cut io s rest hcut
    rw [hresult] at herr
    cases herr
  have hmode := (executeJtagCommand_extends io s rest c).chainMode
  have hleft := executeJtagCommand_left io s.session.chainMode s rest (hreset.next hnext)
  rw [hresult] at hmode hleft
  rw [hmode]
  rcases hleft with rfl | ⟨-, hstuck⟩
  · rw [hpacket, ← List.flatMap_singleton JtagCommand.encode] at hreset
    exact hreset.tail (List.forall_mem_singleton.mpr (hwf.resolve_left hcut))
  · exact noResetAssertion_of_none hstuck

/-- Without an assertion of the reset button the two builds are the same. -/
theorem jtagLoopWhen_of_noReset (skips : Bool) (rounds : Nat) (s : JtagMsgState)
    (packet : List UInt8) (hreset : NoResetAssertion s.session.chainMode packet) :
    jtagLoopWhen skips io rounds s packet = jtagLoop io rounds s packet := by
  induction rounds generalizing s packet with
  | zero => rfl
  | succ rounds ih =>
      cases packet with
      | nil => rfl
      | cons byte packet =>
          simp only [jtagLoopWhen, jtagLoop]
          cases hnext : nextJtagCommand s.session.chainMode (byte :: packet) with
          | none => rfl
          | some decoded =>
              obtain ⟨c, rest⟩ := decoded
              dsimp only
              rw [executeJtagCommandWhen_eq io skips s rest (hreset.next hnext)]
              rcases hresult : executeJtagCommand io s rest c with ⟨t, status, left⟩
              cases status with
              | ok => exact ih t left (hreset.left io hnext hresult)
              | err => rfl
              | timeout => rfl

end Runs

section UpToReset
variable (io : JtagIo) {mode : JtagChainSelectMode} {c w : JtagCommand} {cs : List JtagCommand}
  {packet : List UInt8}

/-- Neither a TAP state, nor a scan, nor a command that the look ahead passes over. -/
structure StopsLookAhead (cmd : UInt8) : Prop where
  notTapState : ¬isTapState cmd
  notScan : ∀ type : ScanType, ¬type.Covers cmd
  notSkipped : skippedOperands cmd = none

theorem nextCmd2_stopped {stop : UInt8} (hstop : StopsLookAhead stop) (last : Option UInt8)
    (hwf : ∀ c ∈ cs, c.WellFormed mode) (packet other : List UInt8) :
    nextCmd2 last (cs.flatMap JtagCommand.encode ++ stop :: packet) =
        nextCmd2 last (cs.flatMap JtagCommand.encode ++ stop :: other) ∧
      (nextCmd2 last (cs.flatMap JtagCommand.encode ++ stop :: other)).cut = none := by
  induction cs generalizing last with
  | nil =>
      rw [List.flatMap_nil, List.nil_append, List.nil_append,
        nextCmd2_found _ (.inr hstop.notSkipped), nextCmd2_found _ (.inr hstop.notSkipped)]
      trivial
  | cons c cs ih =>
      obtain ⟨hc, htail⟩ := List.forall_mem_cons.mp hwf
      rw [List.flatMap_cons]
      rcases encode_lookAhead hc with
        ⟨-, cmd, operand, hencode, hstate, hskip⟩ |
        ⟨-, cmd, operand, second, hencode, hstate, hskip⟩ | ⟨cmd, operands, hencode, hfound⟩
      · simp only [hencode, List.cons_append, List.nil_append, nextCmd2, if_neg hstate, hskip]
        exact ih (some operand) htail
      · simp only [hencode, List.cons_append, List.nil_append, nextCmd2, if_neg hstate, hskip]
        exact ih (some operand) htail
      · simp only [hencode, List.cons_append, nextCmd2_found _ hfound]
        trivial

/-- What stands behind a command that stops the look ahead makes no difference to the scans
in front of it. -/
theorem looksAlike_stopped {stop : UInt8} (hstop : StopsLookAhead stop)
    (hwf : ∀ c ∈ cs, c.WellFormed mode) (packet other : List UInt8) :
    LooksAlike c (cs.flatMap JtagCommand.encode ++ stop :: packet)
      (cs.flatMap JtagCommand.encode ++ stop :: other) := by
  intro driverMode current type hc
  cases cs with
  | nil =>
      simp only [List.flatMap_nil, List.nil_append, determineShiftEndState,
        if_neg hstop.notTapState, if_neg (hstop.notScan type)]
      trivial
  | cons d ds =>
      obtain ⟨hd, hds⟩ := List.forall_mem_cons.mp hwf
      obtain ⟨cmd, operands, hencode⟩ := List.exists_cons_of_ne_nil d.encode_ne_nil
      rw [List.flatMap_cons, hencode, List.append_assoc, List.append_assoc, List.cons_append,
        List.cons_append]
      by_cases hstate : isTapState cmd
      · obtain ⟨rfl, rfl⟩ := encode_of_isTapState hd hencode hstate
        obtain ⟨hsame, hcut⟩ := nextCmd2_stopped hstop none hds other packet
        simp only [determineShiftEndState, if_pos hstate, List.nil_append]
        cases driverMode with
        | software => exact ⟨rfl, rfl⟩
        | hardware =>
            simp only [hsame, hcut]
            exact ⟨rfl, rfl⟩
      · simp only [determineShiftEndState, if_neg hstate]
        split
        · exact ⟨rfl, rfl⟩
        · exact ⟨rfl, rfl⟩

theorem stopsLookAhead_writePins : StopsLookAhead 0x07 :=
  ⟨by decide, by intro type; cases type <;> decide, rfl⟩

/-- What a build makes of the packet behind the assertion. -/
def afterReset (skips : Bool) (packet : List UInt8) : Option (List UInt8) :=
  if skips then skipWaitCycles packet else some packet

theorem looksAlike_reset (hwf : ∀ c ∈ cs ++ [w], c.WellFormed mode) (hasserts : w.AssertsReset)
    (packet : List UInt8) :
    LooksAlike c ((cs ++ [w]).flatMap JtagCommand.encode)
      ((cs ++ [w]).flatMap JtagCommand.encode ++ packet) := by
  have hcs : ∀ c ∈ cs, c.WellFormed mode := fun c hc => hwf c (List.mem_append_left _ hc)
  rw [List.flatMap_append, List.flatMap_singleton, List.append_assoc]
  cases w with
  | writePins data chainBytes => exact looksAlike_stopped stopsLookAhead_writePins hcs _ _
  | _ => exact absurd hasserts id

theorem afterReset_length {skips : Bool} {left : List UInt8}
    (h : afterReset skips packet = some left) : left.length ≤ packet.length := by
  cases skips with
  | true => exact skipWaitCycles_length h
  | false =>
      cases h
      exact Nat.le_refl _

theorem jtagLoopWhen_of_some (skips : Bool) (rounds : Nat) {s : JtagMsgState}
    {rest : List UInt8} (h : nextJtagCommand s.session.chainMode packet = some (c, rest)) :
    jtagLoopWhen skips io (rounds + 1) s packet =
      match executeJtagCommandWhen skips io s rest c with
      | (s, .ok, rest) => jtagLoopWhen skips io rounds s rest
      | (s, status, _) => (s, status) := by
  cases packet with
  | nil => cases h
  | cons byte packet => simp only [jtagLoopWhen, h]

theorem executeJtagCommandWhen_reset (skips : Bool) (s : JtagMsgState) (rest : List UInt8)
    (hasserts : w.AssertsReset) :
    executeJtagCommandWhen skips io s rest w =
      match executeJtagCommand io s [] w with
      | (t, .ok, _) =>
          match afterReset skips rest with
          | some left => (t, .ok, left)
          | none => (t, .err, rest)
      | (t, status, _) => (t, status, rest) := by
  cases w with
  | writePins data chainBytes =>
      have hcond : Pin.ofIndex (data &&& 0x7F).toNat = some .resetButton ∧ data >>> 7 = 1 :=
        hasserts
      rcases hresult : writePins io s.session data with ⟨session, status⟩
      cases status with
      | ok =>
          cases hskip : skipWaitCycles rest <;> cases skips <;>
            simp only [executeJtagCommandWhen, executeJtagCommand, executeWritePins, hresult,
              JtagMsgState.carryOut, if_pos hcond, hskip, skipWaitCycles, afterReset, if_true,
              Bool.false_eq_true, if_false]
      | err | timeout =>
          cases skips <;>
            simp only [executeJtagCommandWhen, executeJtagCommand, executeWritePins, hresult,
              JtagMsgState.carryOut, if_true, Bool.false_eq_true, if_false]
  | _ => exact absurd hasserts id

/-- The assertion itself: what is behind it goes through `afterReset`. -/
theorem jtagLoopWhen_reset (skips : Bool) (rounds : Nat) (s : JtagMsgState)
    (hw : w.WellFormed s.session.chainMode) (hasserts : w.AssertsReset)
    (hrest : ∀ left ∈ afterReset skips packet, NoResetAssertion s.session.chainMode left)
    (hrounds : packet.length ≤ rounds) :
    jtagLoopWhen skips io (rounds + 1) s (w.encode ++ packet) =
      match runJtag io s w.encode with
      | (t, .ok) =>
          match afterReset skips packet with
          | some left => runJtag io t left
          | none => (t, .err)
      | (t, status) => (t, status) := by
  have hrun := runJtag_of_some io (nextJtagCommand_encode [] hw)
  rw [List.append_nil] at hrun
  rw [hrun, jtagLoopWhen_of_some io skips rounds (nextJtagCommand_encode _ hw),
    executeJtagCommandWhen_reset io skips s packet hasserts]
  have hmode := (executeJtagCommand_extends io s [] w).chainMode
  have hle := executeJtagCommand_length io s [] w
  rcases hresult : executeJtagCommand io s [] w with ⟨t, status, unread⟩
  rw [hresult] at hmode hle
  cases status with
  | ok =>
      obtain rfl : unread = [] := List.eq_nil_of_length_eq_zero (Nat.le_zero.mp hle)
      have hend : runJtag io t [] = (t, .ok) := rfl
      simp only [hend]
      cases hafter : afterReset skips packet with
      | none => rfl
      | some left =>
          have hshorter := afterReset_length hafter
          have hnone := hrest left hafter
          rw [← hmode] at hnone
          exact (jtagLoopWhen_of_noReset io skips rounds t left hnone).trans
            (jtagLoop_rounds io (Nat.le_trans hshorter hrounds) (Nat.le_refl _))
  | err => rfl
  | timeout => rfl

/-- Up to the assertion a build does what it does on a packet that ends there; what it makes
of the packet behind it is said by `afterReset`. -/
theorem jtagLoopWhen_append_reset (skips : Bool) (rounds : Nat) (s : JtagMsgState)
    (hwf : ∀ c ∈ cs ++ [w], c.WellFormed s.session.chainMode) (hasserts : w.AssertsReset)
    (honly : ∀ c ∈ cs, ¬c.AssertsReset)
    (hrest : ∀ left ∈ afterReset skips packet, NoResetAssertion s.session.chainMode left)
    (hrounds : ((cs ++ [w]).flatMap JtagCommand.encode ++ packet).length ≤ rounds) :
    jtagLoopWhen skips io rounds s ((cs ++ [w]).flatMap JtagCommand.encode ++ packet) =
      match runJtag io s ((cs ++ [w]).flatMap JtagCommand.encode) with
      | (t, .ok) =>
          match afterReset skips packet with
          | some left => runJtag io t left
          | none => (t, .err)
      | (t, status) => (t, status) := by
  have hpos : ∀ c : JtagCommand, 0 < c.encode.length :=
    fun c => List.length_pos_iff.mpr c.encode_ne_nil
  induction cs generalizing rounds s with
  | nil =>
      rw [List.nil_append, List.flatMap_singleton] at hrounds ⊢
      rw [List.length_append] at hrounds
      have := hpos w
      obtain ⟨rounds, rfl⟩ : ∃ n, rounds = n + 1 := ⟨rounds - 1, by omega⟩
      exact jtagLoopWhen_reset io skips rounds s (hwf w List.mem_cons_self) hasserts hrest
        (by omega)
  | cons c cs ih =>
      obtain ⟨hc, hwf⟩ := List.forall_mem_cons.mp hwf
      obtain ⟨hreset, honly⟩ := List.forall_mem_cons.mp honly
      rw [List.cons_append, List.flatMap_cons, List.append_assoc] at hrounds ⊢
      rw [List.length_append] at hrounds
      have := hpos c
      obtain ⟨rounds, rfl⟩ : ∃ n, rounds = n + 1 := ⟨rounds - 1, by omega⟩
      obtain ⟨hsame, hleft⟩ := executeJtagCommand_alike io s hc hreset
        (looksAlike_reset hwf hasserts packet)
      rw [runJtag_of_some io (nextJtagCommand_encode _ hc),
        jtagLoopWhen_of_some io skips rounds (nextJtagCommand_encode _ hc),
        executeJtagCommandWhen_eq io skips s _ hreset, hsame]
      have hmode := (executeJtagCommand_extends io s
        ((cs ++ [w]).flatMap JtagCommand.encode) c).chainMode
      rcases hresult : executeJtagCommand io s ((cs ++ [w]).flatMap JtagCommand.encode) c with
        ⟨t, status, left⟩
      rw [hresult] at hmode hleft
      cases status with
      | ok =>
          obtain rfl : left = (cs ++ [w]).flatMap JtagCommand.encode := hleft
          rw [← hmode] at hwf hrest
          exact ih rounds t hwf honly hrest (by omega)
      | err => rfl
      | timeout => rfl

/-- The first command of a packet that ends with `w`. -/
theorem encode_eq_append {rest : List UInt8} (hwf : ∀ d ∈ cs ++ [w], d.WellFormed mode)
    (hc : c.WellFormed mode)
    (hpacket : c.encode ++ rest = (cs ++ [w]).flatMap JtagCommand.encode) :
    (cs = [] ∧ c = w ∧ rest = []) ∨
      ∃ ds, cs = c :: ds ∧ rest = (ds ++ [w]).flatMap JtagCommand.encode := by
  have hread := nextJtagCommand_encode rest hc
  rw [hpacket] at hread
  cases cs with
  | nil =>
      rw [List.nil_append, List.flatMap_singleton, ← List.append_nil w.encode,
        nextJtagCommand_encode [] (hwf w List.mem_cons_self)] at hread
      cases hread
      exact .inl ⟨rfl, rfl, rfl⟩
  | cons d ds =>
      rw [List.cons_append, List.flatMap_cons,
        nextJtagCommand_encode _ (hwf d List.mem_cons_self)] at hread
      cases hread
      exact .inr ⟨ds, rfl, rfl⟩

theorem Carried.eq_nil {executed : List JtagCommand} (h : Carried mode packet executed)
    (hpacket : packet = []) : executed = [] := by
  cases h with
  | done => rfl
  | command | reset =>
      exact absurd (List.append_eq_nil_iff.mp hpacket).1 (JtagCommand.encode_ne_nil _)

/-- A packet that ends with the assertion has all of its commands carried out. -/
theorem Carried.eq_of_reset {executed : List JtagCommand} (h : Carried mode packet executed)
    (hwf : ∀ c ∈ cs ++ [w], c.WellFormed mode) (hasserts : w.AssertsReset)
    (honly : ∀ c ∈ cs, ¬c.AssertsReset)
    (hpacket : packet = (cs ++ [w]).flatMap JtagCommand.encode) : executed = cs ++ [w] := by
  induction h generalizing cs with
  | done =>
      rw [List.flatMap_append, List.flatMap_singleton] at hpacket
      exact absurd (List.append_eq_nil_iff.mp hpacket.symm).2 w.encode_ne_nil
  | command hc hkept _ ih =>
      obtain ⟨-, rfl, -⟩ | ⟨ds, rfl, hrest⟩ := encode_eq_append hwf hc hpacket
      · exact absurd hasserts hkept
      · have htail := ih (fun d hd => hwf d (List.mem_cons_of_mem _ hd))
          (fun d hd => honly d (List.mem_cons_of_mem _ hd)) hrest
        rw [htail, List.cons_append]
  | reset hc hreset hskipped htail _ =>
      obtain ⟨rfl, rfl, rfl⟩ | ⟨ds, rfl, -⟩ := encode_eq_append hwf hc hpacket
      · cases hskipped
        rw [htail.eq_nil rfl, List.nil_append]
      · exact absurd hreset (honly _ List.mem_cons_self)

theorem length_answers {executed : List (JtagCommand × JtagReply)}
    (h : ∀ e ∈ executed, (answer e).length = e.1.responseLength) :
    (executed.flatMap answer).length = bundleLength (executed.map Prod.fst) := by
  induction executed with
  | nil => rfl
  | cons e executed ih =>
      obtain ⟨he, htail⟩ := List.forall_mem_cons.mp h
      rw [List.flatMap_cons, List.length_append, he, ih htail]
      rfl

/-- The length of the response after the assertion. -/
theorem runJtag_reset_length {s : JtagSession} {t : JtagMsgState}
    (hwf : ∀ c ∈ cs ++ [w], c.WellFormed s.chainMode) (hasserts : w.AssertsReset)
    (honly : ∀ c ∈ cs, ¬c.AssertsReset)
    (hrun : runJtag io ⟨s, .initial, []⟩ ((cs ++ [w]).flatMap JtagCommand.encode) = (t, .ok)) :
    t.out.response.length = bundleLength (cs ++ [w]) ∧ bundleLength (cs ++ [w]) ≤ maxDataSize := by
  have hkept := (runJtag_kept io s ⟨s, .initial, []⟩
    ((cs ++ [w]).flatMap JtagCommand.encode) JtagOutput.initial_inBounds
    (JtagMsgState.answered_initial io s)).2
  rw [hrun] at hkept
  obtain ⟨hanswered, entries, hexecuted, hcarried⟩ := hkept rfl
  have hlength : t.out.response.length = bundleLength (cs ++ [w]) := by
    rw [← hcarried.eq_of_reset hwf hasserts honly rfl, hanswered.response,
      length_answers hanswered.lengths]
    exact congrArg (fun executed => bundleLength (executed.map Prod.fst)) hexecuted
  exact ⟨hlength, hlength ▸ hanswered.bounded⟩

end UpToReset

section SingleByte
variable (io : JtagIo)

/-- One byte that the command loop carries out as a command, or as the beginning of one, with
a response of this length before it. -/
def TakenAlone (length : Nat) (byte : UInt8) : Prop :=
  byte = 0x12 ∨ byte = 0x13 ∨ byte = 0x14 ∨ isTapState byte ∨
    (0x80 ≤ byte ∧ length + 1 + scanBytes byte ≤ maxDataSize)

instance (length : Nat) (byte : UInt8) : Decidable (TakenAlone length byte) :=
  inferInstanceAs (Decidable (_ ∨ _))

theorem scanOperand_nil (cmd : UInt8) : scanOperand cmd [] = none := by
  have hpos : 0 < scanBits cmd := by
    rw [scanBits]
    split <;> omega
  refine dif_neg ?_
  rw [scanBytes, divRoundUp, List.length_nil]
  omega

theorem nextJtagCommand_single (mode : JtagChainSelectMode) (byte : UInt8) :
    nextJtagCommand mode [byte] =
      if byte = 0x12 then some (.waitPrdy, [])
      else if byte = 0x13 then some (.clearTimeout, [])
      else if byte = 0x14 then some (.tapReset, [])
      else if isTapState byte then some (.tapState byte, [])
      else if ScanType.read.Covers byte then some (.readScan byte, [])
      else if 0xC0 ≤ byte then some (.cutScan byte, [])
      else none := by
  by_cases hle : 0x20 ≤ byte
  · rw [nextJtagCommand_of_le hle, readWriteOperand, scanOperand_nil]
    grind [ScanType.Covers]
  · by_cases hprdy : byte = 0x12
    · rw [hprdy]
      rfl
    by_cases hclear : byte = 0x13
    · rw [hclear]
      rfl
    by_cases hreset : byte = 0x14
    · rw [hreset]
      rfl
    have htap : ¬isTapState byte := fun h => hle h.1
    have hscan : ∀ type : ScanType, ¬type.Covers byte := fun type h => hle h.tap_le
    have hread : ¬0xC0 ≤ byte := fun h => hle (UInt8.le_trans (by decide) h)
    simp only [nextJtagCommand, oneOperand, twoOperands, writePinsOperands, waitSyncOperands,
      if_neg hprdy, if_neg hclear, if_neg hreset, if_neg htap, if_neg (hscan _), if_neg hread,
      ite_self]

theorem runJtag_of_last {t : JtagMsgState} {packet : List UInt8} {c : JtagCommand}
    (hnext : nextJtagCommand t.session.chainMode packet = some (c, [])) :
    runJtag io t packet =
      ((executeJtagCommand io t [] c).1, (executeJtagCommand io t [] c).2.1) := by
  have hle := executeJtagCommand_length io t [] c
  rw [runJtag_of_some io hnext]
  rcases hresult : executeJtagCommand io t [] c with ⟨u, status, left⟩
  rw [hresult] at hle
  cases status with
  | ok =>
      obtain rfl : left = [] := List.eq_nil_of_length_eq_zero (Nat.le_zero.mp hle)
      rfl
  | err => rfl
  | timeout => rfl

theorem runJtag_single_refused (t : JtagMsgState) {byte : UInt8}
    (h : ¬TakenAlone t.out.response.length byte) : runJtag io t [byte] = (t, .err) := by
  simp only [TakenAlone, not_or, not_and] at h
  obtain ⟨hprdy, hclear, hreset, htap, hfits⟩ := h
  have hfull : 0x80 ≤ byte → t.out.response.length + 1 + scanBytes byte > maxDataSize :=
    fun hle => Nat.lt_of_not_le (hfits hle)
  have hnext := nextJtagCommand_single t.session.chainMode byte
  rw [if_neg hprdy, if_neg hclear, if_neg hreset, if_neg htap] at hnext
  split at hnext
  · next hread =>
      rw [runJtag_of_last io hnext, executeJtagCommand, executeReadingScan, if_pos (hfull hread.1)]
  · split at hnext
    · next hcut =>
        rw [runJtag_of_last io hnext, executeJtagCommand, executeReadingScan,
          if_pos (hfull (UInt8.le_trans (by decide) hcut))]
    · exact runJtag_of_none io (List.cons_ne_nil _ _) hnext

theorem runJtag_of_last_silent {t : JtagMsgState} {packet : List UInt8} {c : JtagCommand}
    (hnext : nextJtagCommand t.session.chainMode packet = some (c, [])) (hsilent : c.Silent)
    (hreset : ¬c.AssertsReset) :
    (runJtag io t packet).1.session = (c.silentResult io t.session).1 := by
  rw [runJtag_of_last io hnext, executeJtagCommand_silent io t [] hsilent hreset, carryOut_session]

/-- A call of its own, its byte in the response, or success. -/
theorem runJtag_single_taken (t : JtagMsgState) {byte : UInt8}
    (h : TakenAlone t.out.response.length byte) :
    let result := runJtag io t [byte]
    (∃ call, result.1.session.calls = t.session.calls ++ [call]) ∨
      result.1.out.response = t.out.response ++ [byte] ∨
      (result.2 = .ok ∧ result.1.out = t.out) := by
  have hnext := nextJtagCommand_single t.session.chainMode byte
  dsimp only
  rcases h with rfl | rfl | rfl | htap | ⟨hle, hfits⟩
  · left
    rw [runJtag_of_last_silent io hnext trivial id]
    exact ⟨_, rfl⟩
  · rw [runJtag_of_last io hnext]
    exact .inr (.inr ⟨rfl, rfl⟩)
  · left
    rw [runJtag_of_last_silent io hnext trivial id]
    exact ⟨_, rfl⟩
  · have hstate : nextJtagCommand t.session.chainMode [byte] = some (.tapState byte, []) :=
      (nextJtagCommand_of_le htap.1).trans (if_pos htap)
    left
    rw [runJtag_of_last_silent io hstate trivial id]
    exact ⟨_, rfl⟩
  · have hroom : ¬t.out.response.length + 1 + scanBytes byte > maxDataSize := Nat.not_lt.mpr hfits
    have htap : ¬isTapState byte := by
      intro htap
      exact absurd (UInt8.le_trans hle htap.2) (by decide)
    have hne : ∀ k : UInt8, k < 0x80 → byte ≠ k := by
      rintro k hk rfl
      exact UInt8.not_le.mpr hk hle
    rw [if_neg (hne _ (by decide)), if_neg (hne _ (by decide)), if_neg (hne _ (by decide)),
      if_neg htap] at hnext
    split at hnext
    · left
      rw [runJtag_of_last io hnext, executeJtagCommand, executeReadingScan, if_neg hroom,
        executeShift_eq]
      exact ⟨_, congrArg JtagSession.calls (shiftScan_session io _ _ _)⟩
    · next hread =>
        have hcut : 0xC0 ≤ byte := by grind [ScanType.Covers]
        rw [if_pos hcut] at hnext
        rw [runJtag_of_last io hnext, executeJtagCommand, executeReadingScan, if_neg hroom]
        exact .inr (.inl rfl)

end SingleByte

section Bundles
variable (io : JtagIo)

/-- The same calls to the handlers, the same status and the same response, sent or not. -/
structure SameBundle (one other : JtagResult) : Prop where
  calls : one.state.session.calls = other.state.session.calls
  status : one.status = other.status
  response : one.state.out.response = other.state.out.response
  sent : one.sent = other.sent

instance (one other : JtagResult) : Decidable (SameBundle one other) :=
  decidable_of_iff (one.state.session.calls = other.state.session.calls ∧
    one.status = other.status ∧ one.state.out.response = other.state.out.response ∧
    one.sent = other.sent) ⟨fun ⟨h, i, j, k⟩ => ⟨h, i, j, k⟩, fun ⟨h, i, j, k⟩ => ⟨h, i, j, k⟩⟩

/-- Two headers that may differ in their size fields. -/
def SameButSize (header other : MessageHeader) : Prop :=
  { header with sizeLsb := other.sizeLsb, sizeMsb := other.sizeMsb } = other

instance (header other : MessageHeader) : Decidable (SameButSize header other) :=
  inferInstanceAs (Decidable (_ = _))

theorem sendResponse_sameButSize {header other : MessageHeader} (h : SameButSize header other)
    (response : List UInt8) (cmdStat : UInt8) :
    sendResponse header response cmdStat = sendResponse other response cmdStat := by
  rw [sendResponse, sendResponse, ← h]

theorem bundleResult_sameButSize {header other : MessageHeader} (h : SameButSize header other)
    (accepted : Bool) (result : JtagMsgState × Status) :
    bundleResult header accepted result = bundleResult other accepted result := by
  obtain ⟨t, status⟩ := result
  cases status with
  | ok => simp only [bundleResult, sendResponse_sameButSize h]
  | err => rfl
  | timeout => rfl

theorem SameBundle.refl (result : JtagResult) : SameBundle result result := ⟨rfl, rfl, rfl, rfl⟩

/-- A run that fails is the same bundle as one that goes on with a single byte only if the
byte is refused. -/
theorem sameBundle_single_iff (header : MessageHeader) (accepted : Bool) (t : JtagMsgState)
    (byte : UInt8) (hlength : t.out.response.length ≤ maxDataSize) :
    SameBundle (bundleResult header accepted (t, .err))
        (bundleResult header accepted (runJtag io t [byte])) ↔
      ¬TakenAlone t.out.response.length byte := by
  constructor
  · rintro ⟨hcalls, -, hresponse, hsent⟩ htaken
    rw [bundleResult_state, bundleResult_state] at hcalls hresponse
    rcases runJtag_single_taken io t htaken with ⟨call, hcall⟩ | hput | ⟨hok, hout⟩
    · rw [hcall] at hcalls
      exact absurd hcalls.symm (by simp)
    · rw [hput] at hresponse
      exact absurd hresponse.symm (by simp)
    · rcases hrun : runJtag io t [byte] with ⟨u, status⟩
      rw [hrun] at hok hout hsent
      replace hok : status = .ok := hok
      replace hout : u.out = t.out := hout
      rw [hok, bundleResult_ok header accepted (by rw [hout]; exact hlength)] at hsent
      cases hsent
  · intro hrefused
    rw [runJtag_single_refused io t hrefused]
    exact .refl _

/-- A bundle that asserts the reset button once, against the build without the skipping and
the payload without the waits behind the assertion: the calls, the status and the response
are the same, unless what the waits leave is a single byte that is taken alone. -/
theorem reset_waits_dropped (s : JtagSession) (cs : List JtagCommand) (w : JtagCommand)
    (first rest : List UInt8) (header other : MessageHeader) (buffer otherBuffer : Nat → UInt8)
    (accepted : Bool) (hpayload : HasPayload header buffer (first ++ rest))
    (hother : HasPayload other otherBuffer (first ++ dropWaitCycles rest))
    (hheader : SameButSize header other) (hdecodes : Decodes s.chainMode first (cs ++ [w]))
    (hasserts : w.AssertsReset) (honly : ∀ c ∈ cs, ¬c.AssertsReset)
    (hrest : NoResetAssertion s.chainMode rest) :
    SameBundle (processJtagMessage io s header buffer accepted)
        (processJtagMessageWhen false io s other otherBuffer accepted) ↔
      ¬((runJtag io ⟨s, .initial, []⟩ first).2 = .ok ∧
        ∃ byte, dropWaitCycles rest = [byte] ∧ TakenAlone (bundleLength (cs ++ [w])) byte) := by
  obtain ⟨hwf, rfl⟩ := hdecodes
  rw [← processJtagMessageWhen_true,
    processJtagMessageWhen_eq io true s buffer accepted hpayload.size,
    processJtagMessageWhen_eq io false s otherBuffer accepted hother.size, hpayload.payload,
    hother.payload, bundleResult_sameButSize hheader]
  have hdropped : ∀ left ∈ afterReset false (dropWaitCycles rest),
      NoResetAssertion s.chainMode left := by
    rintro left ⟨⟩
    exact hrest.dropWaitCycles
  have hskipped : ∀ left ∈ afterReset true rest, NoResetAssertion s.chainMode left := by
    intro left hleft
    replace hleft : skipWaitCycles rest = some left := hleft
    rw [skipWaitCycles_eq] at hleft
    split at hleft
    · cases hleft
    · cases hleft
      exact hrest.dropWaitCycles
  rw [jtagLoopWhen_append_reset io true _ ⟨s, .initial, []⟩ hwf hasserts honly hskipped
      (Nat.le_refl _),
    jtagLoopWhen_append_reset io false _ ⟨s, .initial, []⟩ hwf hasserts honly hdropped
      (Nat.le_refl _)]
  rcases hfirst : runJtag io ⟨s, .initial, []⟩ ((cs ++ [w]).flatMap JtagCommand.encode) with
    ⟨t, status⟩
  cases status with
  | err => exact iff_of_true (.refl _) fun h => nomatch h.1
  | timeout => exact iff_of_true (.refl _) fun h => nomatch h.1
  | ok =>
      obtain ⟨hlength, hfits⟩ := runJtag_reset_length io hwf hasserts honly hfirst
      rw [← hlength, and_iff_right rfl]
      have hafter : afterReset true rest = if (dropWaitCycles rest).length = 1 then none
          else some (dropWaitCycles rest) := skipWaitCycles_eq rest
      have hplain : afterReset false (dropWaitCycles rest) = some (dropWaitCycles rest) := rfl
      simp only [hafter, hplain]
      by_cases hsingle : (dropWaitCycles rest).length = 1
      · obtain ⟨byte, hbyte⟩ := List.length_eq_one_iff.mp hsingle
        rw [if_pos hsingle, hbyte]
        refine (sameBundle_single_iff io other accepted t byte (hlength ▸ hfits)).trans ?_
        refine not_congr ⟨fun h => ⟨byte, rfl, h⟩, ?_⟩
        rintro ⟨_, ⟨⟩, h⟩
        exact h
      · rw [if_neg hsingle]
        refine iff_of_true (.refl _) ?_
        rintro ⟨byte, hbyte, -⟩
        exact hsingle (congrArg List.length hbyte)

/-- Two waits behind the assertion, then TAP reset and a TAP state command. -/
theorem reset_waits_dropped_two_commands :
    let s := shiftingSession .hardware
    let rest : List UInt8 := [0x10, 0x05, 0x10, 0x00, 0x14, 0x21]
    dropWaitCycles rest = [0x14, 0x21] ∧
      SameBundle (processJtagMessage answeringIo s (jtagHeader 8 0)
          (bufferOf ([0x07, 0x82] ++ rest)) true)
        (processJtagMessageWhen false answeringIo s (jtagHeader 4 0)
          (bufferOf [0x07, 0x82, 0x14, 0x21]) true) := by
  refine ⟨by decide, ?_⟩
  have hdecodes : Decodes .single [0x10, 0x05, 0x10, 0x00, 0x14, 0x21]
      [.waitCycles 0x10 0x05, .waitCycles 0x10 0x00, .tapReset, .tapState 0x21] :=
    ⟨by decide, rfl⟩
  refine (reset_waits_dropped answeringIo (shiftingSession .hardware) [] (.writePins 0x82 [])
    [0x07, 0x82] _ (jtagHeader 8 0) (jtagHeader 4 0) (bufferOf _)
    (bufferOf [0x07, 0x82, 0x14, 0x21]) true ⟨rfl, rfl⟩ ⟨rfl, rfl⟩ (by decide)
    ⟨by decide, rfl⟩ (by decide) (by decide)
    (noResetAssertion_of_decodes hdecodes (by decide))).mpr ?_
  rintro ⟨-, byte, hbyte, -⟩
  cases hbyte

/-- One wait behind the assertion, then TAP reset as the last byte: the build that skips
refuses the bundle. -/
theorem reset_waits_lose_command :
    let s := shiftingSession .hardware
    let rest : List UInt8 := [0x10, 0x00, 0x14]
    let one := processJtagMessage answeringIo s (jtagHeader 5 0)
      (bufferOf ([0x07, 0x82] ++ rest)) true
    let other := processJtagMessageWhen false answeringIo s (jtagHeader 3 0)
      (bufferOf [0x07, 0x82, 0x14]) true
    Decodes .single ([0x07, 0x82] ++ rest)
        [.writePins 0x82 [], .waitCycles 0x10 0x00, .tapReset] ∧
      dropWaitCycles rest = [0x14] ∧ SameButSize (jtagHeader 5 0) (jtagHeader 3 0) ∧
      one.status = .err ∧ other.status = .ok ∧ ¬SameBundle one other := by
  refine ⟨⟨by decide, rfl⟩, by decide, by decide, by decide +kernel, by decide +kernel, ?_⟩
  decide +kernel

end Bundles

end AtScaleDebug
