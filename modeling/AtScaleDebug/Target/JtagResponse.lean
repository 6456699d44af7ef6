import Mathlib.Data.List.Forall2
import AtScaleDebug.Target.JtagRun

/-!
What comes back for a bundle. The response is built in place, command by command,
and a command byte is stored before the rest of its scan is known to succeed. So
the invariant has two parts: whatever happens, nothing is written or handed out
beyond the buffer, and as long as nothing has failed the filled part is exactly
the answers of the commands carried out so far. Each answer is backed by a call of
its own, which the handlers received after those of the answers before it.
-/

namespace AtScaleDebug

section Answers

/-- The bytes of the response that a command with its reply stands for. -/
def answer : JtagCommand × JtagReply → List UInt8
  | (.readStatus cmd data, .pin asserted) =>
      [cmd, if asserted then (data &&& 0x7F) ||| 0x80 else data &&& 0x7F]
  | (.readScan cmd, .bytes tdo) => cmd :: tdo
  | (.readWriteScan scan, .bytes tdo) => scan.cmd :: tdo
  | _ => []

/-- Call number `i` of the session is a scan of that many bits, and the bytes are
what the driver answered to the transfer of its data, which is number `k` of the
driver calls of this very scan. -/
def JtagSession.Scanned (io : JtagIo) (first s : JtagSession) (i bits : Nat)
    (input : Option (List UInt8)) (tdo : List UInt8) : Prop :=
  ∃ endState ioctls k x,
    s.calls[i]? = some (.jtag (.shift bits input (divRoundUp bits 8) endState) ioctls) ∧
      ioctls[k]? = some (.xfer x) ∧
      x.Carries bits input (List.replicate (divRoundUp bits 8) 0) ∧
      io.driver (first.ioctlsBefore s i + k) (.xfer x) = some tdo

/-- Call number `i` of the session is what the reply was got from. -/
def JtagSession.Backs (io : JtagIo) (first s : JtagSession) (i : Nat) :
    JtagCommand × JtagReply → Prop
  | (.readStatus _ data, .pin asserted) =>
      s.calls[i]? = some (.target (.read (data &&& 0x7F))) ∧
        io.target i (.read (data &&& 0x7F)) = (.ok, asserted)
  | (.readScan cmd, .bytes tdo) => first.Scanned io s i (scanBits cmd) none tdo
  | (.readWriteScan scan, .bytes tdo) =>
      first.Scanned io s i (scanBits scan.cmd) (some scan.data) tdo
  | _ => False

theorem JtagSession.Scanned.mono {io : JtagIo} {first s t : JtagSession} {i bits : Nat}
    {input : Option (List UInt8)} {tdo : List UInt8} (h : first.Scanned io s i bits input tdo)
    (hext : s.Extends t) : first.Scanned io t i bits input tdo := by
  obtain ⟨endState, ioctls, k, x, hcall, hioctl, hcarries, htdo⟩ := h
  have hi := (List.getElem?_eq_some_iff.mp hcall).1
  refine ⟨endState, ioctls, k, x, callAt_mono hext.calls hcall, hioctl, hcarries, ?_⟩
  rw [hext.ioctlsBefore_eq (Nat.le_of_lt hi)]
  exact htdo

theorem JtagSession.Backs.mono {io : JtagIo} {first s t : JtagSession} {i : Nat}
    {entry : JtagCommand × JtagReply} (h : first.Backs io s i entry) (hext : s.Extends t) :
    first.Backs io t i entry := by
  obtain ⟨c, reply⟩ := entry
  cases c with
  | readStatus cmd data =>
      cases reply with
      | pin asserted => exact ⟨callAt_mono hext.calls h.1, h.2⟩
      | _ => exact h
  | readScan cmd =>
      cases reply with
      | bytes tdo => exact JtagSession.Scanned.mono h hext
      | _ => exact h
  | readWriteScan scan =>
      cases reply with
      | bytes tdo => exact JtagSession.Scanned.mono h hext
      | _ => exact h
  | _ => exact h

/-- The commands that were answered, one call each and in the order of the calls,
none of them older than the first session. -/
def Backed (io : JtagIo) (first s : JtagSession) (executed : List (JtagCommand × JtagReply)) :
    Prop :=
  ∃ indices : List Nat, indices.Pairwise (· < ·) ∧
    (∀ i ∈ indices, first.calls.length ≤ i ∧ i < s.calls.length) ∧
    List.Forall₂ (first.Backs io s) indices (executed.filter (·.2 ≠ .nothing))

/-- The filled part of the response is what the commands carried out stand for. -/
structure JtagMsgState.Answered (io : JtagIo) (first : JtagSession) (s : JtagMsgState) :
    Prop where
  response : s.out.response = s.executed.flatMap answer
  bounded : s.out.response.length ≤ maxDataSize
  lengths : ∀ e ∈ s.executed, (answer e).length = e.1.responseLength
  replies : Backed io first s.session s.executed
  started : first.Extends s.session

variable {io : JtagIo} {first : JtagSession}

theorem Backed.mono {s t : JtagSession} {executed : List (JtagCommand × JtagReply)}
    (h : Backed io first s executed) (hext : s.Extends t) : Backed io first t executed := by
  obtain ⟨indices, hsorted, hrange, hbacks⟩ := h
  refine ⟨indices, hsorted, ?_, hbacks.imp fun _ _ hbacks => hbacks.mono hext⟩
  intro i hi
  exact ⟨(hrange i hi).1, Nat.lt_of_lt_of_le (hrange i hi).2 hext.calls.length_le⟩

theorem Backed.silent {s : JtagSession} {executed : List (JtagCommand × JtagReply)}
    (h : Backed io first s executed) (c : JtagCommand) :
    Backed io first s (executed ++ [(c, .nothing)]) := by
  obtain ⟨indices, hsorted, hrange, hbacks⟩ := h
  refine ⟨indices, hsorted, hrange, ?_⟩
  simpa using hbacks

theorem Backed.snoc {s t : JtagSession} {executed : List (JtagCommand × JtagReply)}
    {entry : JtagCommand × JtagReply} {i : Nat} (h : Backed io first s executed)
    (hext : s.Extends t) (hstarted : first.Extends s) (hi : s.calls.length ≤ i)
    (hlt : i < t.calls.length) (hbacks : first.Backs io t i entry) (hreply : entry.2 ≠ .nothing) :
    Backed io first t (executed ++ [entry]) := by
  obtain ⟨indices, hsorted, hrange, hall⟩ := h
  refine ⟨indices ++ [i], ?_, ?_, ?_⟩
  · refine List.pairwise_append.mpr ⟨hsorted, List.pairwise_singleton _ _, ?_⟩
    intro j hj k hk
    cases List.mem_singleton.mp hk
    exact Nat.lt_of_lt_of_le (hrange j hj).2 hi
  · intro j hj
    rcases List.mem_append.mp hj with hj | hj
    · exact ⟨(hrange j hj).1, Nat.lt_of_lt_of_le (hrange j hj).2 hext.calls.length_le⟩
    · cases List.mem_singleton.mp hj
      exact ⟨Nat.le_trans hstarted.calls.length_le hi, hlt⟩
  · rw [List.filter_append, List.filter_cons_of_pos (by simpa using hreply), List.filter_nil]
    exact List.rel_append (hall.imp fun _ _ hbacks => hbacks.mono hext) (.cons hbacks .nil)

namespace JtagMsgState

/-- A command without an answer. -/
theorem Answered.silent {s : JtagMsgState} (h : s.Answered io first) (c : JtagCommand)
    (hlength : c.responseLength = 0) {session : JtagSession} (hext : s.session.Extends session) :
    ({ s with session, executed := s.executed ++ [(c, .nothing)] } : JtagMsgState).Answered io
      first where
  response := by
    have hnil : answer (c, .nothing) = [] := by cases c <;> rfl
    simpa [hnil] using h.response
  bounded := h.bounded
  lengths := by
    intro e he
    rcases List.mem_append.mp he with he | he
    · exact h.lengths e he
    · cases List.mem_singleton.mp he
      rw [hlength]
      cases c <;> rfl
  replies := (h.replies.mono hext).silent c
  started := h.started.trans hext

/-- A command with one. -/
theorem Answered.snoc {s t : JtagMsgState} {entry : JtagCommand × JtagReply} {i : Nat}
    (h : s.Answered io first) (hext : s.session.Extends t.session)
    (hexecuted : t.executed = s.executed ++ [entry])
    (hresponse : t.out.response = s.out.response ++ answer entry)
    (hbounded : t.out.response.length ≤ maxDataSize)
    (hlength : (answer entry).length = entry.1.responseLength)
    (hi : s.session.calls.length ≤ i) (hlt : i < t.session.calls.length)
    (hbacks : first.Backs io t.session i entry) (hreply : entry.2 ≠ .nothing) :
    t.Answered io first where
  response := by
    rw [hresponse, hexecuted, h.response, List.flatMap_append, List.flatMap_singleton]
  bounded := hbounded
  lengths := by
    intro e he
    rw [hexecuted] at he
    rcases List.mem_append.mp he with he | he
    · exact h.lengths e he
    · cases List.mem_singleton.mp he
      exact hlength
  replies := hexecuted ▸ h.replies.snoc hext h.started hi hlt hbacks hreply
  started := h.started.trans hext

end JtagMsgState

end Answers

section Steps

variable (io : JtagIo) {first : JtagSession} {s : JtagMsgState} (rest : List UInt8)

def JtagOutput.InBounds (o : JtagOutput) : Prop := ∀ r ∈ o.touched, r.InBounds

theorem JtagOutput.InBounds.put {o : JtagOutput} (h : o.InBounds) {bytes : List UInt8}
    (hfits : o.response.length + bytes.length ≤ maxDataSize) : (o.put bytes).InBounds := by
  intro r hr
  rcases List.mem_append.mp hr with hr | hr
  · exact h r hr
  · cases List.mem_singleton.mp hr
    exact hfits

theorem JtagOutput.InBounds.lend {o : JtagOutput} (h : o.InBounds) {length : Nat}
    (hfits : o.response.length + length ≤ maxDataSize) : (o.lend length).InBounds := by
  intro r hr
  rcases List.mem_append.mp hr with hr | hr
  · exact h r hr
  · cases List.mem_singleton.mp hr
    exact hfits

/-- What is kept by a command whose result is given. -/
structure JtagMsgState.Kept (io : JtagIo) (first : JtagSession) (s : JtagMsgState)
    (c : JtagCommand) (t : JtagMsgState) (status : Status) : Prop where
  inBounds : t.out.InBounds
  answered : status = .ok →
    t.Answered io first ∧ ∃ reply, t.executed = s.executed ++ [(c, reply)]

theorem carryOut_kept (hbounds : s.out.InBounds) (h : s.Answered io first) {c : JtagCommand}
    (hlength : c.responseLength = 0) {result : JtagSession × Status}
    (hext : s.session.Extends result.1) :
    s.Kept io first c (s.carryOut c rest result).1 (s.carryOut c rest result).2.1 := by
  obtain ⟨session, status⟩ := result
  cases status with
  | ok => exact ⟨hbounds, fun _ => ⟨h.silent c hlength hext, .nothing, rfl⟩⟩
  | err => exact ⟨hbounds, by rintro ⟨⟩⟩
  | timeout => exact ⟨hbounds, by rintro ⟨⟩⟩

theorem executeWritePins_kept (hbounds : s.out.InBounds) (h : s.Answered io first) (data : UInt8)
    (chainBytes : List UInt8) :
    s.Kept io first (.writePins data chainBytes) (executeWritePins io s rest data chainBytes).1
      (executeWritePins io s rest data chainBytes).2.1 := by
  have hkept := carryOut_kept io rest hbounds h (c := .writePins data chainBytes) rfl
    (writePins_extends io s.session data)
  rw [executeWritePins]
  rcases hresult : s.carryOut (.writePins data chainBytes) rest (writePins io s.session data)
    with ⟨t, status, left⟩
  rw [hresult] at hkept
  cases status with
  | ok =>
      dsimp only
      split
      · split
        · exact hkept
        · exact ⟨hkept.inBounds, by rintro ⟨⟩⟩
      · exact hkept
  | err => exact hkept
  | timeout => exact hkept

theorem executeReadStatus_kept (hbounds : s.out.InBounds) (h : s.Answered io first)
    (cmd data : UInt8) :
    s.Kept io first (.readStatus cmd data) (executeReadStatus io s rest cmd data).1
      (executeReadStatus io s rest cmd data).2.1 := by
  rw [executeReadStatus]
  split
  · exact ⟨hbounds, by rintro ⟨⟩⟩
  · rename_i hfits
    have hext := JtagSession.Extends.targetCall io s.session (.read (data &&& 0x7F))
    dsimp only
    rcases hcall : s.session.targetCall io (.read (data &&& 0x7F)) with ⟨session, status, asserted⟩
    obtain ⟨hsession, hread⟩ := Prod.mk.inj hcall
    rw [hcall] at hext
    cases status with
    | ok =>
        refine ⟨hbounds.put (Nat.le_of_not_lt hfits), fun _ => ⟨?_, .pin asserted, rfl⟩⟩
        have hlast : session.calls[s.session.calls.length]? =
            some (.target (.read (data &&& 0x7F))) := by
          rw [← hsession]
          exact List.getElem?_concat_length
        refine h.snoc hext rfl rfl ?_ rfl (Nat.le_refl _)
          (List.getElem?_eq_some_iff.mp hlast).1 ⟨hlast, hread⟩ (by rintro ⟨⟩)
        simpa [JtagOutput.put] using Nat.le_of_not_lt hfits
    | err => exact ⟨hbounds, by rintro ⟨⟩⟩
    | timeout => exact ⟨hbounds, by rintro ⟨⟩⟩

theorem shift_length {session t : JtagSession} {r : ShiftRequest} {buffer tdo : List UInt8}
    (hout : r.output = some buffer) (hbuffer : buffer.length = divRoundUp r.numberOfBits 8)
    (h : shift io session r = (t, .ok, tdo)) : tdo.length = divRoundUp r.numberOfBits 8 := by
  rw [shift] at h
  rcases hshift : jtagShift io.driver session.jtag r with ⟨jtag, status, output⟩
  rw [hshift] at h
  cases h
  obtain ⟨_, _, _, rfl, hlength, _⟩ := jtagShift_received io.fills hout hbuffer hshift
  exact hlength

theorem shift_scanned {session t : JtagSession} {r : ShiftRequest} {tdo : List UInt8}
    (hstarted : first.Extends session)
    (hout : r.output = some (List.replicate (divRoundUp r.numberOfBits 8) 0))
    (h : shift io session r = (t, .ok, tdo)) :
    first.Scanned io t session.calls.length r.numberOfBits r.input tdo := by
  have hext := shift_extends io session r
  rw [h] at hext
  rw [shift] at h
  rcases hshift : jtagShift io.driver session.jtag r with ⟨jtag, status, output⟩
  rw [hshift] at h
  cases h
  obtain ⟨j, tdo, hj, rfl, -, x, hcall, hcarries, htdo⟩ :=
    jtagShift_received io.fills hout List.length_replicate hshift
  obtain ⟨k, rfl⟩ := Nat.exists_eq_add_of_le hj
  refine ⟨r.endState, jtag.calls.drop session.jtag.calls.length, k, x, ?_, ?_, hcarries, ?_⟩
  · rw [hout, Option.map_some, Option.getD_some, List.length_replicate]
    exact List.getElem?_concat_length
  · rw [List.getElem?_drop, hcall]
  · rw [hext.ioctlsBefore_eq (Nat.le_refl _), hstarted.ioctlsBefore_length]
    exact htdo

theorem shiftScan_writes_kept (hbounds : s.out.InBounds) (h : s.Answered io first)
    {c : JtagCommand} (hlength : c.responseLength = 0) {r : ShiftRequest} (hout : r.output = none) :
    s.Kept io first c (shiftScan io s c r).1 (shiftScan io s c r).2 := by
  have hext := shift_extends io s.session r
  rw [shiftScan, hout]
  rcases hshift : shift io s.session r with ⟨session, status, tdo⟩
  rw [hshift] at hext
  cases status with
  | ok => exact ⟨hbounds, fun _ => ⟨h.silent c hlength hext, .nothing, rfl⟩⟩
  | err => exact ⟨hbounds, by rintro ⟨⟩⟩
  | timeout => exact ⟨hbounds, by rintro ⟨⟩⟩

/-- A scan that reads: its command byte, then the bytes it read. -/
theorem shiftScan_reads_kept (hbounds : s.out.InBounds) (h : s.Answered io first)
    {c : JtagCommand} {cmd : UInt8} {r : ShiftRequest} (hbits : r.numberOfBits = scanBits cmd)
    (hout : r.output = some (scanBuffer cmd)) (hlength : c.responseLength = 1 + scanBytes cmd)
    (hanswer : ∀ tdo, answer (c, .bytes tdo) = cmd :: tdo)
    (hbacks : ∀ session i tdo, first.Scanned io session i (scanBits cmd) r.input tdo →
      first.Backs io session i (c, .bytes tdo))
    (hfits : s.out.response.length + 1 + scanBytes cmd ≤ maxDataSize) :
    s.Kept io first c (shiftScan io { s with out := s.out.put [cmd] } c r).1
      (shiftScan io { s with out := s.out.put [cmd] } c r).2 := by
  have hbuffer : (scanBuffer cmd).length = scanBytes cmd := List.length_replicate
  have hput : (s.out.put [cmd]).response.length = s.out.response.length + 1 :=
    List.length_append
  have hlent : ((s.out.put [cmd]).lend (scanBuffer cmd).length).InBounds :=
    (hbounds.put (by simpa using Nat.le_trans (Nat.le_add_right _ _) hfits)).lend
      (by rw [hput, hbuffer]; exact hfits)
  have hext := shift_extends io s.session r
  rw [shiftScan, hout]
  rcases hshift : shift io s.session r with ⟨session, status, tdo⟩
  rw [hshift] at hext
  cases status with
  | ok =>
      have htdo := shift_length io hout (by rw [hbuffer, hbits]; rfl) hshift
      have hscanned := shift_scanned io h.started (by rw [hout, hbits]; rfl) hshift
      rw [hbits] at htdo hscanned
      refine ⟨hlent, fun _ => ⟨?_, .bytes tdo, rfl⟩⟩
      obtain ⟨_, _, _, _, hcall, -⟩ := id hscanned
      refine h.snoc hext rfl ?_ ?_ ?_ (Nat.le_refl _) (List.getElem?_eq_some_iff.mp hcall).1
        (hbacks session _ tdo hscanned) (by rintro ⟨⟩)
      · simp [JtagOutput.put, JtagOutput.lend, hanswer]
      · simp only [JtagOutput.put, JtagOutput.lend, List.length_append, List.length_singleton,
          htdo]
        exact hfits
      · rw [hanswer, hlength, List.length_cons, htdo, Nat.add_comm]
        rfl
  | err => exact ⟨hlent, by rintro ⟨⟩⟩
  | timeout => exact ⟨hlent, by rintro ⟨⟩⟩

theorem executeShift_kept {c : JtagCommand} {type : ScanType}
    {request : JtagState → ShiftRequest} {u : JtagMsgState} (hbounds : u.out.InBounds)
    (h : ∀ endState, s.Kept io first c (shiftScan io u c (request endState)).1
      (shiftScan io u c (request endState)).2) :
    s.Kept io first c (executeShift io u rest c type request).1
      (executeShift io u rest c type request).2.1 := by
  rw [executeShift_eq]
  split
  · exact ⟨hbounds, by rintro ⟨⟩⟩
  · exact h _

theorem executeReadingScan_kept (hbounds : s.out.InBounds) {c : JtagCommand} {cmd : UInt8}
    {scan : JtagMsgState → JtagMsgState × Status × List UInt8}
    (h : s.out.response.length + 1 + scanBytes cmd ≤ maxDataSize →
      s.Kept io first c (scan { s with out := s.out.put [cmd] }).1
        (scan { s with out := s.out.put [cmd] }).2.1) :
    s.Kept io first c (executeReadingScan s rest cmd scan).1
      (executeReadingScan s rest cmd scan).2.1 := by
  rw [executeReadingScan]
  split
  · exact ⟨hbounds, by rintro ⟨⟩⟩
  · rename_i hfits
    exact h (Nat.le_of_not_lt hfits)

/-- The command byte of a scan that fits is stored inside the buffer. -/
theorem JtagOutput.InBounds.putCmd {o : JtagOutput} (h : o.InBounds) {cmd : UInt8}
    (hfits : o.response.length + 1 + scanBytes cmd ≤ maxDataSize) : (o.put [cmd]).InBounds :=
  h.put (Nat.le_trans (Nat.le_add_right _ _) hfits)

theorem JtagCommand.Silent.responseLength {c : JtagCommand} (h : c.Silent) :
    c.responseLength = 0 := by
  cases c with
  | readStatus _ _ | writeScan _ | readScan _ | readWriteScan _ | cutScan _ => exact absurd h id
  | _ => rfl

theorem executeJtagCommand_kept (hbounds : s.out.InBounds) (h : s.Answered io first)
    (c : JtagCommand) :
    s.Kept io first c (executeJtagCommand io s rest c).1 (executeJtagCommand io s rest c).2.1 := by
  by_cases hsilent : c.Silent ∧ ¬c.AssertsReset
  · rw [executeJtagCommand_silent io s rest hsilent.1 hsilent.2]
    exact carryOut_kept io rest hbounds h hsilent.1.responseLength
      (silentResult_extends io s.session c)
  · cases c with
    | writePins data chainBytes => exact executeWritePins_kept io rest hbounds h data chainBytes
    | readStatus cmd data => exact executeReadStatus_kept io rest hbounds h cmd data
    | writeScan scan =>
        exact executeShift_kept io rest hbounds fun _ => shiftScan_writes_kept io hbounds h rfl rfl
    | readScan cmd =>
        refine executeReadingScan_kept io rest hbounds fun hfits => ?_
        refine executeShift_kept io rest (hbounds.putCmd hfits) fun endState => ?_
        exact shiftScan_reads_kept io hbounds h rfl rfl rfl (fun _ => rfl) (fun _ _ _ => id) hfits
    | readWriteScan scan =>
        refine executeReadingScan_kept io rest hbounds fun hfits => ?_
        refine executeShift_kept io rest (hbounds.putCmd hfits) fun endState => ?_
        exact shiftScan_reads_kept io hbounds h rfl rfl rfl (fun _ => rfl) (fun _ _ _ => id) hfits
    | cutScan cmd =>
        exact executeReadingScan_kept io rest hbounds fun hfits =>
          ⟨hbounds.putCmd hfits, by rintro ⟨⟩⟩
    | _ => exact absurd ⟨trivial, id⟩ hsilent

end Steps

section Runs

/-- The commands of a packet that are carried out: all of them, but for the wait
cycles that directly follow an assertion of the reset button. -/
inductive Carried (mode : JtagChainSelectMode) : List UInt8 → List JtagCommand → Prop where
  | done : Carried mode [] []
  | command {c : JtagCommand} {rest : List UInt8} {cs : List JtagCommand} (wf : c.WellFormed mode)
      (kept : ¬c.AssertsReset) (tail : Carried mode rest cs) :
      Carried mode (c.encode ++ rest) (c :: cs)
  | reset {c : JtagCommand} {rest left : List UInt8} {cs : List JtagCommand}
      (wf : c.WellFormed mode) (asserts : c.AssertsReset)
      (skipped : skipWaitCycles rest = some left) (tail : Carried mode left cs) :
      Carried mode (c.encode ++ rest) (c :: cs)

variable (io : JtagIo)

theorem executeWritePins_reset {s t : JtagMsgState} {rest left : List UInt8} {data : UInt8}
    {chainBytes : List UInt8} (hreset : (JtagCommand.writePins data chainBytes).AssertsReset)
    (h : executeWritePins io s rest data chainBytes = (t, .ok, left)) :
    skipWaitCycles rest = some left := by
  have hrest := s.carryOut_rest rest (.writePins data chainBytes) (writePins io s.session data)
  rw [executeWritePins] at h
  rcases hresult : s.carryOut (.writePins data chainBytes) rest (writePins io s.session data)
    with ⟨u, status, after⟩
  rw [hresult] at h hrest
  cases status with
  | ok =>
      have hcond : Pin.ofIndex (data &&& 0x7F).toNat = some .resetButton ∧ data >>> 7 = 1 := hreset
      cases hrest
      dsimp only at h
      rw [if_pos hcond] at h
      split at h
      · rename_i hskip
        cases h
        exact hskip
      · cases h
  | err => cases h
  | timeout => cases h

/-- What a run keeps: the bounds in any case, and the answers if it succeeds. -/
theorem runJtag_kept (first : JtagSession) (s : JtagMsgState) (packet : List UInt8) :
    s.out.InBounds → s.Answered io first →
      (runJtag io s packet).1.out.InBounds ∧
        ((runJtag io s packet).2 = .ok →
          (runJtag io s packet).1.Answered io first ∧
            ∃ entries, (runJtag io s packet).1.executed = s.executed ++ entries ∧
              Carried s.session.chainMode packet (entries.map Prod.fst)) := by
  refine runJtag_induction io (P := fun s packet result => s.out.InBounds → s.Answered io first →
    result.1.out.InBounds ∧ (result.2 = .ok → result.1.Answered io first ∧
      ∃ entries, result.1.executed = s.executed ++ entries ∧
        Carried s.session.chainMode packet (entries.map Prod.fst))) ?_ ?_ ?_ ?_ s packet
  · intro s hbounds h
    exact ⟨hbounds, fun _ => ⟨h, [], (List.append_nil _).symm, .done⟩⟩
  · intro s packet _ _ hbounds h
    exact ⟨hbounds, by rintro ⟨⟩⟩
  · intro s packet c rest t status left hnext hresult hstatus hbounds h
    have hkept := executeJtagCommand_kept io rest hbounds h c
    rw [hresult] at hkept
    exact ⟨hkept.inBounds, fun hok => absurd hok hstatus⟩
  · intro s packet c rest t left hnext hresult ih hbounds h
    have hkept := executeJtagCommand_kept io rest hbounds h c
    have hmode := (executeJtagCommand_extends io s rest c).chainMode
    rw [hresult] at hkept hmode
    obtain ⟨hanswered, reply, hexecuted⟩ := hkept.answered rfl
    obtain ⟨hbounds', hrun⟩ := ih hkept.inBounds hanswered
    refine ⟨hbounds', fun hok => ?_⟩
    obtain ⟨hfinal, entries, hentries, hcarried⟩ := hrun hok
    refine ⟨hfinal, (c, reply) :: entries, ?_, ?_⟩
    · rw [hentries, hexecuted, List.append_assoc]
      rfl
    · obtain ⟨hwf, rfl⟩ := nextJtagCommand_eq_some hnext
      have hcut : ¬c.Cut := by
        intro hcut
        have herr := executeJtagCommand_cut io s rest hcut
        rw [hresult] at herr
        cases herr
      replace hwf := hwf.resolve_left hcut
      replace hmode : t.session.chainMode = s.session.chainMode := hmode
      rw [hmode] at hcarried
      by_cases hreset : c.AssertsReset
      · cases c with
        | writePins data chainBytes =>
            exact .reset hwf hreset (executeWritePins_reset io hreset hresult) hcarried
        | _ => exact absurd hreset id
      · rcases executeJtagCommand_left io s.session.chainMode s rest hreset with hleft | hstuck
        · rw [hresult] at hleft
          cases hleft
          exact .command hwf hreset hcarried
        · -- the look ahead was cut off, so the run cannot have succeeded
          rw [hresult] at hstuck
          rw [← hmode] at hstuck
          rw [runJtag_of_none io hstuck.1 hstuck.2] at hok
          cases hok

theorem JtagMsgState.answered_initial (s : JtagSession) :
    (⟨s, .initial, []⟩ : JtagMsgState).Answered io s where
  response := rfl
  bounded := Nat.zero_le _
  lengths := by rintro e ⟨⟩
  replies := ⟨[], .nil, (by rintro i ⟨⟩), .nil⟩
  started := .refl s

theorem JtagOutput.initial_inBounds : JtagOutput.initial.InBounds := by
  intro r hr
  cases List.mem_singleton.mp hr
  exact Nat.le_refl _

theorem runJtag_length_le {s : JtagSession} {packet : List UInt8} {t : JtagMsgState}
    (h : runJtag io ⟨s, .initial, []⟩ packet = (t, .ok)) : t.out.response.length ≤ maxDataSize := by
  have hkept := (runJtag_kept io s ⟨s, .initial, []⟩ packet
    JtagOutput.initial_inBounds (JtagMsgState.answered_initial io s)).2
  rw [h] at hkept
  exact (hkept rfl).1.bounded

theorem processJtagMessage_status {s : JtagSession} {header : MessageHeader} {n : Nat}
    {buffer : Nat → UInt8} {accepted : Bool} (hsize : getMessageSize header = some n) :
    (processJtagMessage io s header buffer accepted).status = .ok ↔
      accepted = true ∧ (runJtag io ⟨s, .initial, []⟩ (jtagPayload header buffer)).2 = .ok := by
  rw [processJtagMessage_eq io s buffer accepted hsize]
  rcases hrun : runJtag io ⟨s, .initial, []⟩ (jtagPayload header buffer) with ⟨t, status⟩
  by_cases hok : status = .ok
  · cases hok
    rw [bundleResult_ok header accepted (runJtag_length_le io hrun)]
    cases accepted <;> simp
  · rw [bundleResult_failed header accepted hok]
    exact ⟨fun h => absurd h hok, fun h => h.2⟩

theorem processJtagMessage_state {s : JtagSession} {header : MessageHeader} {n : Nat}
    {buffer : Nat → UInt8} {accepted : Bool} (hsize : getMessageSize header = some n) :
    (processJtagMessage io s header buffer accepted).state =
      (runJtag io ⟨s, .initial, []⟩ (jtagPayload header buffer)).1 := by
  rw [processJtagMessage_eq io s buffer accepted hsize, bundleResult_state]

/-- The packet of a successful bundle: the answers of the commands that were
carried out, in their order, with the length of all of them in the header. -/
structure Responds (io : JtagIo) (s : JtagSession) (payload : List UInt8) (t : JtagMsgState)
    (packet : Packet) : Prop where
  cmdStat : packet.1.cmdStat = 0
  size : getMessageSize packet.1 = some packet.2.length
  response : packet.2 = t.executed.flatMap answer
  lengths : ∀ e ∈ t.executed, (answer e).length = e.1.responseLength
  carried : Carried s.chainMode payload (t.executed.map Prod.fst)
  replies : Backed io s t.session t.executed

/-- The one packet of a message with JTAG available, in the three ways it can end. -/
def AnswersJtag (io : JtagIo) (s : JtagSession) (header : MessageHeader) (buffer : Nat → UInt8)
    (packet : Packet) : Prop :=
  let result := processJtagMessage io s header buffer true
  if header.cmdStat ≠ 0 ∧ header.cmdStat ≠ 0x80 ∧ header.cmdStat ≠ 1 then
    packet = errorMessage header asdMsgNotSupported
  else if result.status = .ok then
    Responds io s (jtagPayload header buffer) result.state packet
  else packet = errorMessage header asdFailureProcessJtagMsg

theorem processJtagMessage_inBounds (s : JtagSession) (header : MessageHeader)
    (buffer : Nat → UInt8) (accepted : Bool) :
    (processJtagMessage io s header buffer accepted).state.out.InBounds := by
  cases hsize : getMessageSize header with
  | none =>
      rw [processJtagMessage, hsize]
      rintro r ⟨⟩
  | some n =>
      rw [processJtagMessage_state io hsize]
      exact (runJtag_kept io s ⟨s, .initial, []⟩ (jtagPayload header buffer)
        JtagOutput.initial_inBounds (JtagMsgState.answered_initial io s)).1

/-- A bundle either fails without a packet or sends its response. -/
theorem processJtagMessage_sent (s : JtagSession) (header : MessageHeader)
    (buffer : Nat → UInt8) :
    let result := processJtagMessage io s header buffer true
    (result.status ≠ .ok ∧ result.sent = []) ∨
      (result.status = .ok ∧ ∃ packet, result.sent = [packet] ∧ packet.1.tag = header.tag ∧
        packet.1.originId = header.originId ∧
        Responds io s (jtagPayload header buffer) result.state packet) := by
  cases hsize : getMessageSize header with
  | none =>
      rw [processJtagMessage, hsize]
      exact .inl ⟨by rintro ⟨⟩, rfl⟩
  | some n =>
      have hkept := (runJtag_kept io s ⟨s, .initial, []⟩ (jtagPayload header buffer)
        JtagOutput.initial_inBounds (JtagMsgState.answered_initial io s)).2
      rw [processJtagMessage_eq io s buffer true hsize]
      rcases hrun : runJtag io ⟨s, .initial, []⟩ (jtagPayload header buffer) with ⟨t, status⟩
      rw [hrun] at hkept
      by_cases hok : status = .ok
      · cases hok
        obtain ⟨hanswered, entries, hentries, hcarried⟩ := hkept rfl
        dsimp only at hentries hcarried
        rw [List.nil_append] at hentries
        rw [bundleResult_ok header true hanswered.bounded]
        refine .inr ⟨rfl, _, rfl, rfl, rfl, rfl, ?_, hanswered.response, hanswered.lengths, ?_,
          hanswered.replies⟩
        · exact getMessageSize_of_length header 0 hanswered.bounded
        · rw [hentries]
          exact hcarried
      · rw [bundleResult_failed header true hok]
        exact .inl ⟨hok, rfl⟩

/-- A target and a driver that succeed and read ones. -/
def answeringIo : JtagIo where
  driver _ call :=
    match call with
    | .xfer x => some (List.replicate (divRoundUp x.length 8) 0xFF)
    | _ => some []
  target _ _ := (.ok, true)
  fills := by
    rintro count x tdo ⟨⟩
    exact List.length_replicate

/-- A session after JTAG was initialised and the TAPs moved to their shift states. -/
def shiftingSession (driverMode : JtagDriverMode) : JtagSession where
  jtag := { jtagHandler with
    chains := fun _ => { JtagChainState.initial with tapState := .shfDr }
    driverOpen := true
    swMode := driverMode = .software }
  driverMode := driverMode
  chainMode := .single
  prdyTimeout := 0
  calls := []

def jtagHeader (size : Nat) (cmdStat : UInt8) : MessageHeader :=
  ⟨2, 0, 0, 1, lsbFromMsgSize size, msbFromMsgSize size, 5, cmdStat⟩

def bufferOf (payload : List UInt8) (i : Nat) : UInt8 := payload.getD i 0

/-- For every message, both modes and all outcomes of the driver and the target:
nothing beyond the output buffer is written or handed out, and with JTAG available
exactly one packet goes out, with the tag and the origin of the request. -/
theorem jtag_response_construction (s : JtagSession) (header : MessageHeader)
    (buffer : Nat → UInt8) :
    (∀ accepted, (processJtagMessage io s header buffer accepted).state.out.InBounds) ∧
      (s.jtag.driverOpen = true →
        ∃ packet, (processMessageJtag io s header buffer true).2 = [packet] ∧
          packet.1.tag = header.tag ∧ packet.1.originId = header.originId ∧
          AnswersJtag io s header buffer packet) := by
  refine ⟨processJtagMessage_inBounds io s header buffer, fun hopen => ?_⟩
  simp only [processMessageJtag, AnswersJtag, hopen]
  split
  · exact ⟨_, rfl, rfl, rfl, rfl⟩
  · rcases processJtagMessage_sent io s header buffer with
      ⟨hfailed, hsent⟩ | ⟨hok, packet, hsent, htag, horigin, hresponds⟩
    · rw [if_neg (by decide), if_neg hfailed, hsent]
      refine ⟨_, rfl, rfl, rfl, ?_⟩
      rw [if_neg hfailed]
    · rw [if_neg (by decide), if_pos hok, hsent]
      refine ⟨packet, rfl, htag, horigin, ?_⟩
      rwa [if_pos hok]

/-- A pin is read and nine bits are scanned; the header counts all five bytes. -/
theorem jtag_response_status_and_scan :
    let payload : List UInt8 := [0x08, 0x01, 0x89]
    let s := shiftingSession .hardware
    let header := jtagHeader 3 0
    s.jtag.driverOpen = true ∧
      (processMessageJtag answeringIo s header (bufferOf payload) true).2 =
        [(jtagHeader 5 0, [0x08, 0x81, 0x89, 0xFF, 0xFF])] ∧
      ∃ packet, (processMessageJtag answeringIo s header (bufferOf payload) true).2 = [packet] ∧
        packet.1.tag = header.tag ∧ packet.1.originId = header.originId ∧
        AnswersJtag answeringIo s header (bufferOf payload) packet :=
  ⟨rfl, by decide +kernel, (jtag_response_construction answeringIo _ _ _).2 rfl⟩

/-- A bundle with an unknown command status is refused without being processed. -/
theorem jtag_response_refused :
    let s := shiftingSession .software
    let header := jtagHeader 0 2
    let result := processJtagMessage answeringIo s header (bufferOf []) true
    s.jtag.driverOpen = true ∧
      ∃ packet, (processMessageJtag answeringIo s header (bufferOf []) true).2 = [packet] ∧
        ¬Responds answeringIo s [] result.state packet ∧
        packet ≠ errorMessage header asdFailureProcessJtagMsg := by
  refine ⟨rfl, errorMessage (jtagHeader 0 2) asdMsgNotSupported, rfl, ?_, by decide⟩
  intro h
  exact absurd h.cmdStat (by decide)

end Runs

end AtScaleDebug
