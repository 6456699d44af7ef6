import AtScaleDebug.Target.JtagResponse
import AtScaleDebug.Target.ScanPadding

/-!
The command loop against the meaning of a bundle, in software mode and with
calls that succeed. One lemma for each call says when it is refused, how it moves
what the commands depend on, and what it adds to the record of calls. They give
the same for a command that another one follows, and by induction over the
commands for a payload that decodes. A payload that does not decode cannot succeed,
because what a successful run has carried out is the whole payload.
-/

namespace AtScaleDebug

/-- Every call to the driver and to the target succeeds. -/
structure JtagIo.Succeeds (io : JtagIo) : Prop where
  driver : ∀ count call, io.driver count call ≠ none
  target : ∀ count call, (io.target count call).1 = .ok

theorem JtagIo.Succeeds.driver_eq {io : JtagIo} (h : io.Succeeds) :
    ∃ tdo, io.driver = .succeeding tdo := by
  refine ⟨fun count call => (io.driver count call).getD [], ?_⟩
  funext count call
  obtain ⟨tdo, htdo⟩ := Option.ne_none_iff_exists'.mp (h.driver count call)
  rw [JtagDriver.succeeding, htdo]
  rfl

section Calls

def JtagSession.requests (s : JtagSession) : List HandlerRequest := s.calls.map HandlerCall.request

/-- From one session to another, with the given view and after the given calls. -/
structure JtagSession.Performs (s t : JtagSession) (v : BundleView)
    (requests : List HandlerRequest) : Prop where
  view : t.view = v
  requests : t.requests = s.requests ++ requests

/-- An operation succeeds exactly when it is permitted, and then performs these
calls. -/
def Decided (permitted : Prop) (s : JtagSession) (v : BundleView) (requests : List HandlerRequest)
    (result : JtagSession × Status) : Prop :=
  (permitted ∧ result.2 = .ok ∧ s.Performs result.1 v requests) ∨
    (¬permitted ∧ result.2 ≠ .ok)

theorem JtagSession.Performs.refl (s : JtagSession) : s.Performs s s.view [] :=
  ⟨rfl, (List.append_nil _).symm⟩

theorem JtagSession.Performs.trans {s t u : JtagSession} {v w : BundleView}
    {requests more : List HandlerRequest} (h : s.Performs t v requests)
    (k : t.Performs u w more) : s.Performs u w (requests ++ more) :=
  ⟨k.view, by rw [k.requests, h.requests, List.append_assoc]⟩

theorem targetCall_performs (io : JtagIo) (s : JtagSession) (call : TargetCall) :
    s.Performs (s.targetCall io call).1 s.view [.inr call] :=
  ⟨rfl, List.map_append⟩

theorem jtagCall_requests (s : JtagSession) (call : JtagCall) (jtag : JtagHandler) :
    (s.jtagCall call jtag).requests = s.requests ++ [.inl call] :=
  List.map_append

theorem view_jtagCall_of_scans {s : JtagSession} {jtag : JtagHandler} {c : JtagChainState}
    {bits : List Bool} (call : JtagCall) (h : s.jtag.Scans jtag c bits) :
    (s.jtagCall call jtag).view = s.view.moveTo c.tapState := by
  have htaps : (s.jtagCall call jtag).view.tapStates = (s.view.moveTo c.tapState).tapStates := by
    funext chain
    simp only [JtagSession.view, JtagSession.jtagCall, BundleView.moveTo, h.chains,
      Function.update_apply]
    split
    · rfl
    · rfl
  have hactive : (s.jtagCall call jtag).view.activeChain = s.view.activeChain := h.activeChain
  calc (s.jtagCall call jtag).view
      = ⟨(s.jtagCall call jtag).view.tapStates, (s.jtagCall call jtag).view.activeChain,
          s.view.prdyTimeout⟩ := rfl
    _ = s.view.moveTo c.tapState := by rw [htaps, hactive]; rfl

theorem view_tapState (s : JtagSession) : s.view.tapState = s.jtag.active.tapState := rfl

theorem BundleView.moveTo_tapState (v : BundleView) : v.moveTo v.tapState = v := by
  rw [BundleView.moveTo, BundleView.tapState, Function.update_eq_self]

theorem set_isSome_iff (old : JtagShiftPadding) (padding : JtagPaddingType) (value : Nat) :
    (old.set padding value).isSome ↔
      match padding with
      | .drPre | .drPost => value ≤ drMaxPadSize
      | .irPre | .irPost => value ≤ irMaxPadSize := by
  have hle : drMaxPadSize ≤ irMaxPadSize := by decide
  rw [JtagShiftPadding.set]
  split
  · cases padding <;> simp <;> omega
  · cases padding with
    | drPre | drPost =>
        dsimp only
        split
        · simp
          omega
        · simp
          omega
    | irPre | irPost =>
        simp
        omega

theorem setPadding_decided (s : JtagSession) {padding : JtagPaddingType} {value : Nat}
    {permitted : Prop} (h : (s.jtag.active.shiftPadding.set padding value).isSome ↔ permitted) :
    Decided permitted s s.view [.inl (.setPadding padding value)] (setPadding s padding value) := by
  rw [setPadding, jtagSetPadding]
  cases hset : s.jtag.active.shiftPadding.set padding value with
  | none =>
      rw [hset] at h
      exact .inr ⟨fun hperm => absurd (h.mpr hperm) (by rintro ⟨⟩), by rintro ⟨⟩⟩
  | some shiftPadding =>
      rw [hset] at h
      have hscans : s.jtag.Scans (s.jtag.setShiftPadding shiftPadding)
          { s.jtag.active with shiftPadding } [] :=
        ⟨rfl, rfl, rfl, [], (List.append_nil _).symm, rfl⟩
      refine .inl ⟨h.mp rfl, rfl, ?_, jtagCall_requests s _ _⟩
      exact (view_jtagCall_of_scans _ hscans).trans s.view.moveTo_tapState

theorem jtagSetActiveChain_of_lt (s : JtagHandler) {chain : Nat} (h : chain < maxScanChains) :
    jtagSetActiveChain s chain = ({ s with activeChain := ⟨chain, h⟩ }, .ok) := by
  rw [jtagSetActiveChain, dif_pos ⟨Int.natCast_nonneg chain, Int.ofNat_lt.mpr h⟩]
  rfl

variable {io : JtagIo} (hio : io.Succeeds)
include hio

theorem targetCall_ok (s : JtagSession) (call : TargetCall) :
    (s.targetCall io call).2.1 = .ok := hio.target _ _

theorem jtagSetTapState_decided (s : JtagSession) (call : JtagCall) (tapState : JtagState) :
    Decided True s (s.view.moveTo tapState) [.inl call]
      (s.jtagCall call (jtagSetTapState io.driver s.jtag tapState).1,
        (jtagSetTapState io.driver s.jtag tapState).2) := by
  obtain ⟨tdo, htdo⟩ := hio.driver_eq
  rw [htdo]
  obtain ⟨hok, hscans⟩ := jtagSetTapState_scans tdo s.jtag tapState
  exact .inl ⟨trivial, hok, view_jtagCall_of_scans call hscans, jtagCall_requests s call _⟩

theorem setTck_decided (s : JtagSession) (data : UInt8) :
    Decided True s s.view [.inl (.setJtagTck (jtagTck data))] (setTck io s data) := by
  obtain ⟨tdo, htdo⟩ := hio.driver_eq
  rw [setTck, htdo]
  exact .inl ⟨trivial, rfl, rfl, jtagCall_requests s _ _⟩

theorem waitCycles_decided (s : JtagSession) (data : UInt8) :
    Decided True s s.view [.inl (.waitCycles (if data.toNat = 0 then 256 else data.toNat))]
      (waitCycles io s data) := by
  obtain ⟨tdo, htdo⟩ := hio.driver_eq
  have hle : ¬(if data.toNat = 0 then 256 else data.toNat) > maxWaitCycles := by
    have hlt := data.toNat_lt
    rw [maxWaitCycles]
    split <;> omega
  rw [waitCycles, htdo]
  dsimp only
  rw [jtagWaitCycles, if_neg hle]
  exact .inl ⟨trivial, rfl, rfl, jtagCall_requests s _ _⟩

theorem writeEventConfig_decided (s : JtagSession) (data : UInt8) :
    Decided True s s.view
      (if (data &&& 0x7F).toNat < writeConfigMax then
        [.inr (.writeEventConfig (data &&& 0x7F) (data >>> 7 = 1))]
      else []) (writeEventConfig io s data) := by
  rw [writeEventConfig]
  dsimp only
  split
  · exact .inl ⟨trivial, targetCall_ok hio s _, targetCall_performs io s _⟩
  · exact .inl ⟨trivial, rfl, .refl s⟩

theorem waitSync_decided (s : JtagSession) (timeout delay : Nat) :
    Decided True s s.view [.inr (.waitSync timeout delay)] (waitSync io s timeout delay) := by
  have hok := targetCall_ok hio s (.waitSync timeout delay)
  have hperforms := targetCall_performs io s (.waitSync timeout delay)
  rw [waitSync]
  rcases hcall : s.targetCall io (.waitSync timeout delay) with ⟨t, status, asserted⟩
  rw [hcall] at hok hperforms
  cases hok
  exact .inl ⟨trivial, rfl, hperforms⟩

/-- A chain is selected with the TCK mux, a delay and the call to the handler. -/
theorem asdWriteSetActiveChainEvent_decided (s : JtagSession) {chain : Nat}
    (h : chain < maxScanChains) :
    Decided True s { s.view with activeChain := ⟨chain, h⟩ }
      [.inr (.write .tckMuxSelect (chain = 1)), .inr .chainSelectDelay,
        .inl (.setActiveChain chain)] (asdWriteSetActiveChainEvent io s chain) := by
  have hok := targetCall_ok hio s (.write .tckMuxSelect (chain = 1))
  have hmux := targetCall_performs io s (.write .tckMuxSelect (chain = 1))
  rw [asdWriteSetActiveChainEvent]
  rcases hcall : s.targetCall io (.write .tckMuxSelect (chain = 1)) with ⟨t, status, asserted⟩
  rw [hcall] at hok hmux
  cases hok
  have hdelay := hmux.trans (targetCall_performs io t .chainSelectDelay)
  dsimp only
  rw [jtagSetActiveChain_of_lt _ h]
  refine .inl ⟨trivial, rfl, ?_, ?_⟩
  · rw [← hmux.view]
    rfl
  · rw [jtagCall_requests, hdelay.requests, List.append_assoc]
    rfl

theorem writePins_decided (s : JtagSession) (data : UInt8) (chainBytes : List UInt8)
    (next : Option JtagCommand) :
    Decided ((JtagCommand.writePins data chainBytes).Permitted s.chainMode s.view) s
      ((JtagCommand.writePins data chainBytes).after s.chainMode s.view next)
      (pinRequests s.chainMode data) (writePins io s data) := by
  change Decided (JtagCommand.namesPin data ∨ data &&& 0x40 = 0x40 ∧
      (s.chainMode = .single → chainSelection data < maxScanChains)) s
    (s.view.select (JtagCommand.namedChain s.chainMode data)) (pinRequests s.chainMode data)
    (writePins io s data)
  rw [writePins, pinRequests.eq_def, JtagCommand.namesPin]
  cases hpin : Pin.ofIndex (data &&& 0x7F).toNat with
  | some pin =>
      have hchain : JtagCommand.namedChain s.chainMode data = none :=
        dif_neg fun h => absurd (hpin.symm.trans h.1.1) (by rintro ⟨⟩)
      rw [hchain]
      exact .inl ⟨.inl (by rintro ⟨⟩), targetCall_ok hio s _, targetCall_performs io s _⟩
  | none =>
      dsimp only
      by_cases hbit : data &&& 0x40 = 0x40
      · rw [if_pos hbit]
        have hselects : selectsChain data := ⟨hpin, hbit⟩
        cases hmode : s.chainMode with
        | single =>
            dsimp only
            by_cases hlt : chainSelection data < maxScanChains
            · have hchain : JtagCommand.namedChain .single data = some ⟨chainSelection data, hlt⟩ :=
                dif_pos ⟨hselects, rfl, hlt⟩
              rw [if_neg (Nat.not_le.mpr hlt), hchain]
              rcases asdWriteSetActiveChainEvent_decided hio s hlt with
                ⟨-, hok, hperforms⟩ | ⟨hfalse, -⟩
              · exact .inl ⟨.inr ⟨hbit, fun _ => hlt⟩, hok, hperforms⟩
              · exact absurd trivial hfalse
            · rw [if_pos (Nat.not_lt.mp hlt)]
              refine .inr ⟨?_, by rintro ⟨⟩⟩
              rintro (hnone | ⟨-, hchain⟩)
              · exact hnone rfl
              · exact hlt (hchain rfl)
        | multi =>
            have hchain : JtagCommand.namedChain .multi data = none :=
              dif_neg fun h => absurd h.2.1 (by decide)
            rw [hchain]
            exact .inl ⟨.inr ⟨hbit, by rintro ⟨⟩⟩, rfl, .refl s⟩
      · rw [if_neg hbit]
        refine .inr ⟨?_, by rintro ⟨⟩⟩
        rintro (hnone | ⟨hset, -⟩)
        · exact hnone rfl
        · exact hbit hset

/-- Every command that adds nothing to the response. -/
theorem silentResult_decided (s : JtagSession) {c : JtagCommand} (h : c.Silent)
    (next : Option JtagCommand) :
    Decided (c.Permitted s.chainMode s.view) s (c.after s.chainMode s.view next)
      (c.requests s.chainMode s.view next) (c.silentResult io s) := by
  cases c with
  | writeEventConfig data => exact writeEventConfig_decided hio s data
  | jtagFreq data => exact setTck_decided hio s data
  | drPrefix data => exact setPadding_decided s (set_isSome_iff _ .drPost _)
  | drPostfix data => exact setPadding_decided s (set_isSome_iff _ .drPre _)
  | irPrefix lsb msb => exact setPadding_decided s (set_isSome_iff _ .irPost _)
  | irPostfix lsb msb => exact setPadding_decided s (set_isSome_iff _ .irPre _)
  | prdyTimeout data => exact .inl ⟨trivial, rfl, rfl, (List.append_nil _).symm⟩
  | writePins data chainBytes => exact writePins_decided hio s data chainBytes next
  | waitCycles cmd data => exact waitCycles_decided hio s data
  | waitPrdy => exact .inl ⟨trivial, targetCall_ok hio s _, targetCall_performs io s _⟩
  | clearTimeout => exact .inl ⟨trivial, rfl, .refl s⟩
  | tapReset => exact jtagSetTapState_decided hio s .tapReset .tlr
  | waitSync timeoutLsb timeoutMsb delayLsb delayMsb => exact waitSync_decided hio s _ _
  | tapState cmd => exact jtagSetTapState_decided hio s _ _
  | readStatus _ _ | writeScan _ | readScan _ | readWriteScan _ | cutScan _ => exact absurd h id

/-- A scan is refused outside of the shift states. -/
theorem shift_decided (s : JtagSession) (r : ShiftRequest) :
    Decided (s.view.tapState = .shfDr ∨ s.view.tapState = .shfIr) s (s.view.moveTo r.endState)
      [.inl (.shift r.numberOfBits r.input ((r.output.map List.length).getD 0) r.endState)]
      ((shift io s r).1, (shift io s r).2.1) := by
  obtain ⟨tdo, htdo⟩ := hio.driver_eq
  have hiff := bits_isSome_iff s.jtag.active.shiftPadding s.jtag.active.tapState
  rw [shift, htdo]
  cases hscan : s.jtag.active.scan r with
  | none =>
      rw [scan_eq_none hscan] at hiff
      rw [jtagShift_of_scan_none tdo s.jtag hscan]
      exact .inr ⟨fun hshift => absurd (hiff.mpr hshift) (by rintro ⟨⟩), by rintro ⟨⟩⟩
  | some scanned =>
      obtain ⟨c, bits⟩ := scanned
      obtain ⟨pre, post, bit, hbits, rfl, -⟩ := scan_eq_some hscan
      obtain ⟨hok, hscans⟩ := jtagShift_scans tdo s.jtag hscan
      rw [hbits] at hiff
      exact .inl ⟨hiff.mp rfl, hok, view_jtagCall_of_scans _ hscans, jtagCall_requests s _ _⟩

end Calls

section LookAhead

variable {mode : JtagChainSelectMode} {c : JtagCommand} {cs : List JtagCommand}

theorem covers_iff_scanType (type : ScanType) {cmd : UInt8} {operands : List UInt8}
    (h : c.WellFormed mode) (hencode : c.encode = cmd :: operands) :
    type.Covers cmd ↔ c.scanType = some type := by
  have hscan : ∀ own : ScanType, own.Covers cmd → (type.Covers cmd ↔ some own = some type) := by
    intro own hown
    refine ⟨fun hcovers => ?_, fun heq => Option.some.inj heq ▸ hown⟩
    by_contra hne
    exact hown.disjoint type (fun heq => hne (congrArg some heq.symm)) hcovers
  have hlow : cmd < 0x40 → (type.Covers cmd ↔ (none : Option ScanType) = some type) := by
    intro hlt
    refine ⟨fun hcovers => ?_, by rintro ⟨⟩⟩
    exact absurd hcovers.le (UInt8.not_le.mpr hlt)
  cases c with
  | readStatus first data =>
      cases hencode
      have hrange : 0x08 ≤ cmd ∧ cmd ≤ 0x0F := h
      exact hlow (by grind)
  | waitCycles first data =>
      cases hencode
      obtain rfl | rfl := h
      · exact hlow (by decide)
      · exact hlow (by decide)
  | tapState first =>
      cases hencode
      have hrange : 0x20 ≤ cmd ∧ cmd ≤ 0x2F := h
      exact hlow (by grind)
  | writeScan scan =>
      cases hencode
      exact hscan .write h
  | readScan first =>
      cases hencode
      exact hscan .read h
  | readWriteScan scan =>
      cases hencode
      exact hscan .readWrite h
  | cutScan first => exact absurd h id
  | _ =>
      cases hencode
      exact hlow (by decide)

/-- In software mode the look ahead decides by the next command alone. -/
theorem determineShiftEndState_software (v : BundleView) {type : ScanType}
    (hc : c.scanType = some type) (hwf : ∀ c ∈ cs, c.WellFormed mode) :
    let result := determineShiftEndState .software v.tapState type (cs.flatMap JtagCommand.encode)
    (c.MayPrecede cs.head? ∧
      result = (some (v.endState cs.head?), cs.flatMap JtagCommand.encode)) ∨
    (¬c.MayPrecede cs.head? ∧ result.1 = none) := by
  cases cs with
  | nil => exact .inl ⟨trivial, rfl⟩
  | cons d ds =>
      have hd := hwf d List.mem_cons_self
      obtain ⟨cmd, operands, hencode⟩ := List.exists_cons_of_ne_nil d.encode_ne_nil
      have hcovers := covers_iff_scanType type hd hencode
      rw [List.flatMap_cons, hencode, List.cons_append, List.head?_cons]
      by_cases hstate : isTapState cmd
      · obtain ⟨rfl, rfl⟩ := encode_of_isTapState hd hencode hstate
        simp only [determineShiftEndState, if_pos hstate]
        exact .inl ⟨trivial, rfl⟩
      · have hprecede : c.MayPrecede (some d) ↔ d.scanType = some type := by
          cases d with
          | tapState first =>
              cases hencode
              exact absurd hd hstate
          | _ => simp [JtagCommand.MayPrecede, hc]
        have hend : v.endState (some d) = v.tapState := by
          cases d with
          | tapState first =>
              cases hencode
              exact absurd hd hstate
          | _ => rfl
        simp only [determineShiftEndState, if_neg hstate]
        by_cases htype : type.Covers cmd
        · rw [if_pos htype, hend]
          exact .inl ⟨hprecede.mpr (hcovers.mp htype), rfl⟩
        · rw [if_neg htype]
          exact .inr ⟨fun h => htype (hcovers.mpr (hprecede.mp h)), rfl⟩

theorem mayPrecede_of_scanType (h : c.scanType = none) (next : Option JtagCommand) :
    c.MayPrecede next := by
  cases next with
  | none => trivial
  | some next =>
      cases next with
      | tapState cmd => trivial
      | _ => exact .inl h

theorem JtagCommand.Silent.scanType (h : c.Silent) : c.scanType = none := by
  cases c with
  | readStatus _ _ | writeScan _ | readScan _ | readWriteScan _ | cutScan _ => exact absurd h id
  | _ => rfl

end LookAhead

section Commands

/-- What a command that succeeds does to the state of a bundle. -/
structure JtagMsgState.Carries (s : JtagMsgState) (c : JtagCommand) (rest : List UInt8)
    (v : BundleView) (requests : List HandlerRequest)
    (result : JtagMsgState × Status × List UInt8) : Prop where
  status : result.2.1 = .ok
  left : result.2.2 = rest
  performs : s.session.Performs result.1.session v requests
  length : result.1.out.response.length = s.out.response.length + c.responseLength

variable {io : JtagIo} (hio : io.Succeeds) {mode : JtagChainSelectMode} {c : JtagCommand}
  {cs : List JtagCommand}
include hio

/-- A scan once its command byte is stored. -/
theorem executeShift_decided (s : JtagMsgState) (hsoftware : s.session.driverMode = .software)
    {type : ScanType} (request : JtagState → ShiftRequest) (hc : c.scanType = some type)
    (hwf : ∀ c ∈ cs, c.WellFormed mode) {bits : Nat} {input output : Option (List UInt8)}
    (hrequest : ∀ endState, (request endState).numberOfBits = bits ∧
      (request endState).input = input ∧ (request endState).output = output ∧
      (request endState).endState = endState)
    (hbuffer : ∀ buffer ∈ output, buffer.length = divRoundUp bits 8) :
    let v := s.session.view
    let endState := v.endState cs.head?
    let result := executeShift io s (cs.flatMap JtagCommand.encode) c type request
    let length := (output.map List.length).getD 0
    (((v.tapState = .shfDr ∨ v.tapState = .shfIr) ∧ c.MayPrecede cs.head?) ∧
      result.2.1 = .ok ∧ result.2.2 = cs.flatMap JtagCommand.encode ∧
      s.session.Performs result.1.session (v.moveTo endState)
        [.inl (.shift bits input length endState)] ∧
      result.1.out.response.length = s.out.response.length + length) ∨
    (¬((v.tapState = .shfDr ∨ v.tapState = .shfIr) ∧ c.MayPrecede cs.head?) ∧
      result.2.1 ≠ .ok) := by
  dsimp only
  have hlook := determineShiftEndState_software s.session.view hc hwf
  rw [executeShift_eq, hsoftware, ← view_tapState]
  rcases hlook with ⟨hprecede, hend⟩ | ⟨hprecede, hend⟩
  · rw [hend]
    dsimp only
    obtain ⟨hbits, hin, hout, hstate⟩ := hrequest (s.session.view.endState cs.head?)
    have hshift := shift_decided hio s.session (request (s.session.view.endState cs.head?))
    rw [hbits, hin, hout, hstate] at hshift
    rw [shiftScan, hout]
    rcases hresult : shift io s.session (request (s.session.view.endState cs.head?)) with
      ⟨session, status, tdo⟩
    rw [hresult] at hshift
    rcases hshift with ⟨hperm, hok, hperforms⟩ | ⟨hperm, hfailed⟩
    · dsimp only at hok
      cases hok
      cases output with
      | none => exact .inl ⟨⟨hperm, hprecede⟩, rfl, rfl, hperforms, rfl⟩
      | some buffer =>
          have hlength := hbuffer buffer rfl
          have htdo := shift_length io hout (by rw [hbits, hlength]) hresult
          refine .inl ⟨⟨hperm, hprecede⟩, rfl, rfl, hperforms, ?_⟩
          simp only [JtagOutput.lend, List.length_append, htdo, hbits, Option.map_some,
            Option.getD_some, hlength]
    · refine .inr ⟨fun h => hperm h.1, ?_⟩
      cases output <;> cases status <;> first | exact absurd rfl hfailed | rintro ⟨⟩
  · rcases hresult : determineShiftEndState .software s.session.view.tapState type
      (cs.flatMap JtagCommand.encode) with ⟨endState, left⟩
    rw [hresult] at hend
    cases hend
    exact .inr ⟨fun h => hprecede h.2, by rintro ⟨⟩⟩

/-- A scan that reads also has to fit into the response. -/
theorem executeReadingScan_decided (s : JtagMsgState)
    (hsoftware : s.session.driverMode = .software) {type : ScanType} {cmd : UInt8}
    (request : JtagState → ShiftRequest) (hc : c.scanType = some type)
    (hwf : ∀ c ∈ cs, c.WellFormed mode) {input : Option (List UInt8)}
    (hrequest : ∀ endState, (request endState).numberOfBits = scanBits cmd ∧
      (request endState).input = input ∧ (request endState).output = some (scanBuffer cmd) ∧
      (request endState).endState = endState)
    (hlength : c.responseLength = 1 + scanBytes cmd) :
    let v := s.session.view
    let endState := v.endState cs.head?
    let rest := cs.flatMap JtagCommand.encode
    let result := executeReadingScan s rest cmd fun t => executeShift io t rest c type request
    let permitted := (v.tapState = .shfDr ∨ v.tapState = .shfIr) ∧ c.MayPrecede cs.head? ∧
      s.out.response.length + c.responseLength ≤ maxDataSize
    (permitted ∧ s.Carries c rest (v.moveTo endState)
      [.inl (.shift (scanBits cmd) input (scanBytes cmd) endState)] result) ∨
    (¬permitted ∧ result.2.1 ≠ .ok) := by
  have hbuffer : (scanBuffer cmd).length = scanBytes cmd := List.length_replicate
  dsimp only
  rw [executeReadingScan, hlength]
  split
  · rename_i hfull
    refine .inr ⟨fun h => ?_, by rintro ⟨⟩⟩
    omega
  · rename_i hfits
    have hshift := executeShift_decided hio { s with out := s.out.put [cmd] } hsoftware request hc
      hwf hrequest (by rintro buffer ⟨⟩; exact hbuffer)
    rcases hshift with ⟨⟨htap, hprecede⟩, hok, hleft, hperforms, hresponse⟩ | ⟨hperm, hfailed⟩
    · rw [Option.map_some, Option.getD_some, hbuffer] at hperforms hresponse
      refine .inl ⟨⟨htap, hprecede, by omega⟩, hok, hleft, hperforms, ?_⟩
      rw [hresponse, hlength, JtagOutput.put, List.length_append, List.length_singleton,
        Nat.add_assoc]
    · exact .inr ⟨fun h => hperm ⟨h.1, h.2.1⟩, hfailed⟩

theorem executeReadStatus_decided (s : JtagMsgState) (rest : List UInt8) (cmd data : UInt8) :
    let result := executeReadStatus io s rest cmd data
    (s.out.response.length + 2 ≤ maxDataSize ∧ s.Carries (.readStatus cmd data) rest s.session.view
      [.inr (.read (data &&& 0x7F))] result) ∨
    (¬s.out.response.length + 2 ≤ maxDataSize ∧ result.2.1 ≠ .ok) := by
  dsimp only
  rw [executeReadStatus]
  split
  · exact .inr ⟨by omega, by rintro ⟨⟩⟩
  · have hok := targetCall_ok hio s.session (.read (data &&& 0x7F))
    have hperforms := targetCall_performs io s.session (.read (data &&& 0x7F))
    dsimp only
    rcases hcall : s.session.targetCall io (.read (data &&& 0x7F)) with ⟨t, status, asserted⟩
    rw [hcall] at hok hperforms
    cases hok
    exact .inl ⟨by omega, rfl, rfl, hperforms, List.length_append⟩

/-- Whether a command succeeds, from what it depends on, the command behind it and
the space in the response; and what it does then. -/
theorem executeJtagCommand_decided (s : JtagMsgState)
    (hsoftware : s.session.driverMode = .software) (hlength : s.out.response.length ≤ maxDataSize)
    (hc : c.WellFormed mode) (hwf : ∀ c ∈ cs, c.WellFormed mode) (hreset : ¬c.AssertsReset) :
    let v := s.session.view
    let chainMode := s.session.chainMode
    let permitted := c.Permitted chainMode v ∧ c.MayPrecede cs.head? ∧
      s.out.response.length + c.responseLength ≤ maxDataSize
    let result := executeJtagCommand io s (cs.flatMap JtagCommand.encode) c
    (permitted ∧ s.Carries c (cs.flatMap JtagCommand.encode) (c.after chainMode v cs.head?)
      (c.requests chainMode v cs.head?) result) ∨ (¬permitted ∧ result.2.1 ≠ .ok) := by
  dsimp only
  by_cases hsilent : c.Silent
  · have hprecede := mayPrecede_of_scanType hsilent.scanType cs.head?
    have hzero := hsilent.responseLength
    have hdecided := silentResult_decided hio s.session hsilent cs.head?
    rw [executeJtagCommand_silent io s _ hsilent hreset]
    rcases hresult : c.silentResult io s.session with ⟨session, status⟩
    rw [hresult] at hdecided
    rcases hdecided with ⟨hperm, hok, hperforms⟩ | ⟨hperm, hfailed⟩
    · cases hok
      exact .inl ⟨⟨hperm, hprecede, by rw [hzero]; exact hlength⟩, rfl, rfl, hperforms,
        by rw [hzero]; rfl⟩
    · refine .inr ⟨fun h => hperm h.1, ?_⟩
      cases status with
      | ok => exact absurd rfl hfailed
      | err => rintro ⟨⟩
      | timeout => rintro ⟨⟩
  · cases c with
    | readStatus cmd data =>
        rcases executeReadStatus_decided hio s (cs.flatMap JtagCommand.encode) cmd data with
          ⟨hfits, hcarries⟩ | ⟨hfull, hfailed⟩
        · exact .inl ⟨⟨trivial, mayPrecede_of_scanType rfl _, hfits⟩, hcarries⟩
        · exact .inr ⟨fun h => hfull h.2.2, hfailed⟩
    | writeScan scan =>
        have hshift := executeShift_decided hio s hsoftware (c := .writeScan scan)
          (scan.request false) rfl hwf (fun _ => ⟨rfl, rfl, rfl, rfl⟩)
          (by rintro buffer ⟨⟩)
        rcases hshift with ⟨⟨htap, hprecede⟩, hok, hleft, hperforms, hresponse⟩ | ⟨hperm, hfailed⟩
        · exact .inl ⟨⟨htap, hprecede, hlength⟩, hok, hleft, hperforms, hresponse⟩
        · exact .inr ⟨fun h => hperm ⟨h.1, h.2.1⟩, hfailed⟩
    | readScan cmd =>
        exact executeReadingScan_decided hio s hsoftware (c := .readScan cmd) (readRequest cmd) rfl
          hwf (fun _ => ⟨rfl, rfl, rfl, rfl⟩) rfl
    | readWriteScan scan =>
        exact executeReadingScan_decided hio s hsoftware (c := .readWriteScan scan)
          (scan.request true) rfl hwf (fun _ => ⟨rfl, rfl, rfl, rfl⟩) rfl
    | cutScan cmd => exact absurd hc id
    | _ => exact absurd trivial hsilent

/-- A payload of the table succeeds exactly when its commands are allowed where
they stand and their answers fit, and then makes the calls of its commands. -/
theorem runJtag_decided (s : JtagMsgState) (hsoftware : s.session.driverMode = .software)
    (hlength : s.out.response.length ≤ maxDataSize)
    (hwf : ∀ c ∈ cs, c.WellFormed s.session.chainMode) (hreset : ∀ c ∈ cs, ¬c.AssertsReset) :
    let v := s.session.view
    let chainMode := s.session.chainMode
    let permitted := Accepted chainMode v cs ∧
      s.out.response.length + bundleLength cs ≤ maxDataSize
    let result := runJtag io s (cs.flatMap JtagCommand.encode)
    (permitted ∧ result.2 = .ok ∧
      result.1.session.requests = s.session.requests ++ bundleRequests chainMode v cs) ∨
    (¬permitted ∧ result.2 ≠ .ok) := by
  induction cs generalizing s with
  | nil => exact .inl ⟨⟨trivial, hlength⟩, rfl, (List.append_nil _).symm⟩
  | cons c cs ih =>
      have hc := hwf c List.mem_cons_self
      have htail : ∀ d ∈ cs, d.WellFormed s.session.chainMode :=
        fun d hd => hwf d (List.mem_cons_of_mem c hd)
      have hext := executeJtagCommand_extends io s (cs.flatMap JtagCommand.encode) c
      have hsum : bundleLength (c :: cs) = c.responseLength + bundleLength cs := rfl
      dsimp only
      rw [List.flatMap_cons, runJtag_of_some io (nextJtagCommand_encode _ hc), hsum]
      have hdecided := executeJtagCommand_decided hio s hsoftware hlength hc htail
        (hreset c List.mem_cons_self)
      dsimp only at hdecided
      rcases hresult : executeJtagCommand io s (cs.flatMap JtagCommand.encode) c with
        ⟨t, status, left⟩
      rw [hresult] at hdecided hext
      rcases hdecided with ⟨⟨hperm, hprecede, hfits⟩, hok, hleft, hperforms, hresponse⟩ |
        ⟨hperm, hfailed⟩
      · dsimp only at hok hleft hresponse
        cases hok
        cases hleft
        have hrun := ih t (hext.driverMode.trans hsoftware) (by omega)
          (by rw [hext.chainMode]; exact htail) (fun d hd => hreset d (List.mem_cons_of_mem c hd))
        rw [hperforms.view, hext.chainMode, hresponse] at hrun
        rcases hrun with ⟨⟨haccepted, hrest⟩, hok, hrequests⟩ | ⟨hnot, hfailed⟩
        · refine .inl ⟨⟨⟨hperm, hprecede, haccepted⟩, by omega⟩, hok, ?_⟩
          rw [hrequests, hperforms.requests, List.append_assoc]
          rfl
        · exact .inr ⟨fun h => hnot ⟨h.1.2.2, by omega⟩, hfailed⟩
      · refine .inr ⟨fun h => hperm ⟨h.1.1, h.1.2.1, by omega⟩, ?_⟩
        cases status with
        | ok => exact absurd rfl hfailed
        | err => rintro ⟨⟩
        | timeout => rintro ⟨⟩

end Commands

section Bundles

/-- Without a reset, what is carried out is all of the payload. -/
theorem Carried.decodes {mode : JtagChainSelectMode} {payload : List UInt8}
    {cs : List JtagCommand} (h : Carried mode payload cs)
    (hreset : NoResetAssertion mode payload) : Decodes mode payload cs := by
  induction h with
  | done => exact ⟨by rintro c ⟨⟩, rfl⟩
  | @command c rest cs hwf _ _ ih =>
      have hrest : NoResetAssertion mode rest := by
        intro ds left hds hleft d hd
        refine hreset (c :: ds) left ?_ ?_ d (List.mem_cons_of_mem c hd)
        · exact List.forall_mem_cons.mpr ⟨hwf, hds⟩
        · rw [hleft, List.flatMap_cons, List.append_assoc]
      obtain ⟨hcs, hpayload⟩ := ih hrest
      refine ⟨List.forall_mem_cons.mpr ⟨hwf, hcs⟩, ?_⟩
      rw [List.flatMap_cons, ← hpayload]
  | @reset c rest left cs hwf hasserts _ _ _ =>
      refine absurd hasserts (hreset [c] rest ?_ ?_ c (List.mem_singleton_self c))
      · exact List.forall_mem_singleton.mpr hwf
      · rw [List.flatMap_singleton]

theorem Decodes.no_reset {mode : JtagChainSelectMode} {payload : List UInt8}
    {cs : List JtagCommand} (h : Decodes mode payload cs)
    (hreset : NoResetAssertion mode payload) : ∀ c ∈ cs, ¬c.AssertsReset :=
  hreset cs [] h.1 (h.2.trans (List.append_nil _).symm)

/-- The commands of a payload are determined by it, so it is enough to look at one
reading of it. -/
theorem noResetAssertion_of_decodes {mode : JtagChainSelectMode} {payload : List UInt8}
    {cs : List JtagCommand} (h : Decodes mode payload cs) (hno : ∀ c ∈ cs, ¬c.AssertsReset) :
    NoResetAssertion mode payload := by
  intro ds rest hds hpayload d hd
  induction ds generalizing cs payload with
  | nil => cases hd
  | cons first ds ih =>
      have hfirst := List.forall_mem_cons.mp hds
      rw [List.flatMap_cons, List.append_assoc] at hpayload
      have hread := nextJtagCommand_encode (ds.flatMap JtagCommand.encode ++ rest) hfirst.1
      rw [← hpayload, h.2] at hread
      cases cs with
      | nil => cases hread
      | cons c cs =>
          have hc := List.forall_mem_cons.mp h.1
          rw [List.flatMap_cons, nextJtagCommand_encode _ hc.1] at hread
          obtain ⟨rfl, hrest⟩ := Prod.mk.inj (Option.some.inj hread)
          rcases List.mem_cons.mp hd with rfl | hd
          · exact hno _ List.mem_cons_self
          · exact ih ⟨hc.2, rfl⟩ (fun e he => hno e (List.mem_cons_of_mem _ he)) hfirst.2 hrest hd

end Bundles

end AtScaleDebug
