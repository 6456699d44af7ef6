import AtScaleDebug.Target.LookAhead

/-!
The end state that the look ahead of the hardware mode chooses, against the commands it
reads. `NextTapState` says by the command table which second TAP state command follows, and
no operand has a part in that. The source decides by the byte its pointer stands at, and
where the packet ends behind a command that was passed over this is an operand.
-/

namespace AtScaleDebug

open ByteBuffer

section Reference

/-- The TAP state command behind the complete configuration commands that the packet
starts with. -/
def nextTapState : List UInt8 → Option UInt8
  | [] => none
  | cmd :: packet =>
      if isTapState cmd then some cmd
      else
        match skippedOperands cmd, packet with
        | some 1, _ :: packet => nextTapState packet
        | some 2, _ :: _ :: packet => nextTapState packet
        | _, _ => none

/-- The commands that may stand between the two TAP states, by the command table. -/
def JtagCommand.Configures : JtagCommand → Prop
  | .writeEventConfig _ | .jtagFreq _ | .drPrefix _ | .drPostfix _ | .irPrefix _ _
  | .irPostfix _ _ | .waitCycles _ _ => True
  | _ => False

/-- The same by the command table. -/
def NextTapState (packet : List UInt8) (second : UInt8) : Prop :=
  ∃ (cs : List JtagCommand) (rest : List UInt8), (∀ c ∈ cs, c.Configures ∧ c.WellFormed .single) ∧
    isTapState second ∧ packet = cs.flatMap JtagCommand.encode ++ second :: rest

/-- The end state by the two TAP state commands that follow the scan. -/
def shiftEndState (first : UInt8) (second : Option UInt8) : JtagState :=
  match second.map JtagState.ofCommand with
  | none => .ofCommand first
  | some second =>
      if second = .pauDr ∨ second = .pauIr then second
      else if second = .rti ∨ (JtagState.ofCommand first = .ex1Dr ∧ second = .selDr) then .rti
      else .ofCommand first

/-- The packet is made of complete configuration commands, and the first operand of the
last one is the given byte. -/
inductive EndsInOperand : List UInt8 → UInt8 → Prop where
  | last {cmd operand : UInt8} {operands : List UInt8}
      (hskip : skippedOperands cmd = some (operand :: operands).length) :
      EndsInOperand (cmd :: operand :: operands) operand
  | skip {cmd operand : UInt8} {operands packet : List UInt8}
      (hskip : skippedOperands cmd = some operands.length) (hrest : EndsInOperand packet operand) :
      EndsInOperand (cmd :: (operands ++ packet)) operand

/-- As a second TAP state command the byte would change the end state. -/
def Redirects (first byte : UInt8) : Prop :=
  isTapState byte ∧
    ((JtagState.ofCommand byte ∈ [.pauDr, .pauIr, .rti] ∧
        JtagState.ofCommand byte ≠ .ofCommand first) ∨
      (JtagState.ofCommand first = .ex1Dr ∧ JtagState.ofCommand byte = .selDr))

instance (first byte : UInt8) : Decidable (Redirects first byte) :=
  inferInstanceAs (Decidable (_ ∧ _))

end Reference

section Table
variable {mode : JtagChainSelectMode} {packet : List UInt8}

def LookAhead.tapState : LookAhead (Option UInt8) where
  ended _ := none
  found cmd := if isTapState cmd then some cmd else none
  cut _ := none

/-- No operand has a part in the result, so the one to start from may be any. -/
theorem nextTapState_eq_read (last : Option UInt8) (packet : List UInt8) :
    nextTapState packet = LookAhead.tapState.read last packet := by
  fun_induction nextTapState packet generalizing last with
  | case1 => rfl
  | case2 cmd packet htap =>
      rw [LookAhead.read_found _ last (.inl htap)]
      exact (if_pos htap).symm
  | case3 cmd htap operand packet hskip ih =>
      have hskip : skippedOperands cmd = some [operand].length := hskip
      exact (ih (some operand)).trans (LookAhead.tapState.read_skip last hskip packet).symm
  | case4 cmd htap operand second packet hskip ih =>
      have hskip : skippedOperands cmd = some [operand, second].length := hskip
      exact (ih (some operand)).trans (LookAhead.tapState.read_skip last hskip packet).symm
  | case5 cmd packet htap hone htwo =>
      cases hskip : skippedOperands cmd with
      | none =>
          rw [LookAhead.read_found _ last (.inr hskip)]
          exact (if_neg htap).symm
      | some count =>
          refine (LookAhead.tapState.read_cut last hskip (length_lt_of_cut hskip ?_ ?_)).symm
          · rintro operand rest heq rfl
            exact hone operand rest hskip heq
          · rintro operand second rest heq rfl
            exact htwo operand second rest hskip heq

theorem nextTapState_skip {cmd : UInt8} {operands : List UInt8}
    (hskip : skippedOperands cmd = some operands.length) (packet : List UInt8) :
    nextTapState (cmd :: (operands ++ packet)) = nextTapState packet := by
  rw [nextTapState_eq_read none, LookAhead.read_skip _ none hskip, ← nextTapState_eq_read]

theorem nextTapState_found {cmd : UInt8} (h : isTapState cmd ∨ skippedOperands cmd = none)
    (packet : List UInt8) :
    nextTapState (cmd :: packet) = if isTapState cmd then some cmd else none := by
  rw [nextTapState_eq_read none, LookAhead.read_found _ none h, LookAhead.tapState]

theorem nextTapState_cut {cmd : UInt8} {count : Nat} {operands : List UInt8}
    (hskip : skippedOperands cmd = some count) (hcut : operands.length < count) :
    nextTapState (cmd :: operands) = none := by
  rw [nextTapState_eq_read none, LookAhead.read_cut _ none hskip hcut, LookAhead.tapState]

theorem JtagCommand.Configures.encode {c : JtagCommand} (h : c.Configures)
    (hwf : c.WellFormed mode) :
    ∃ cmd operands, c.encode = cmd :: operands ∧ skippedOperands cmd = some operands.length := by
  cases c with
  | writeEventConfig | jtagFreq | drPrefix | drPostfix | irPrefix | irPostfix =>
      exact ⟨_, _, rfl, rfl⟩
  | waitCycles cmd data =>
      obtain rfl | rfl := hwf
      · exact ⟨_, _, rfl, rfl⟩
      · exact ⟨_, _, rfl, rfl⟩
  | _ => exact h.elim

/-- A command byte with operands that the look ahead passes over is such a command. -/
theorem exists_configures {cmd : UInt8} {operands : List UInt8}
    (hskip : skippedOperands cmd = some operands.length) :
    ∃ c : JtagCommand, (c.Configures ∧ c.WellFormed mode) ∧ c.encode = cmd :: operands := by
  obtain ⟨hcmd, hone⟩ | ⟨hcmd, htwo⟩ := skippedOperands_eq_some hskip
  · obtain ⟨operand, rfl⟩ := List.length_eq_one_iff.mp hone
    obtain rfl | rfl | rfl | rfl | rfl | rfl := hcmd
    · exact ⟨.writeEventConfig operand, ⟨trivial, trivial⟩, rfl⟩
    · exact ⟨.drPrefix operand, ⟨trivial, trivial⟩, rfl⟩
    · exact ⟨.drPostfix operand, ⟨trivial, trivial⟩, rfl⟩
    · exact ⟨.waitCycles 0x10 operand, ⟨trivial, .inl rfl⟩, rfl⟩
    · exact ⟨.waitCycles 0x11 operand, ⟨trivial, .inr rfl⟩, rfl⟩
    · exact ⟨.jtagFreq operand, ⟨trivial, trivial⟩, rfl⟩
  · obtain ⟨lsb, msb, rfl⟩ := List.length_eq_two.mp htwo
    obtain rfl | rfl := hcmd
    · exact ⟨.irPrefix lsb msb, ⟨trivial, trivial⟩, rfl⟩
    · exact ⟨.irPostfix lsb msb, ⟨trivial, trivial⟩, rfl⟩

theorem NextTapState.cons {c : JtagCommand} {second : UInt8} (h : c.Configures)
    (hwf : c.WellFormed .single) (hnext : NextTapState packet second) :
    NextTapState (c.encode ++ packet) second := by
  obtain ⟨cs, rest, hcs, htap, rfl⟩ := hnext
  refine ⟨c :: cs, rest, List.forall_mem_cons.mpr ⟨⟨h, hwf⟩, hcs⟩, htap, ?_⟩
  rw [List.flatMap_cons, List.append_assoc]

/-- The reference reads the packet by the command table. -/
theorem nextTapState_iff (second : UInt8) :
    nextTapState packet = some second ↔ NextTapState packet second := by
  constructor
  · intro h
    induction packet using lookAhead_induction with
    | nil => cases h
    | found cmd packet hfound =>
        rw [nextTapState_found hfound] at h
        split at h
        · next htap =>
            cases h
            exact ⟨[], packet, nofun, htap, rfl⟩
        · cases h
    | cut cmd count operands hskip hcut =>
        rw [nextTapState_cut hskip hcut] at h
        cases h
    | skip cmd operand operands packet hskip ih =>
        rw [nextTapState_skip hskip] at h
        obtain ⟨c, hc, hencode⟩ := exists_configures hskip
        have hcons := (ih h).cons hc.1 hc.2
        rwa [hencode] at hcons
  · rintro ⟨cs, rest, hcs, htap, rfl⟩
    induction cs with
    | nil =>
        rw [List.flatMap_nil, List.nil_append, nextTapState.eq_def]
        exact if_pos htap
    | cons c cs ih =>
        obtain ⟨⟨hc, hwf⟩, hcs⟩ := List.forall_mem_cons.mp hcs
        obtain ⟨cmd, operands, hencode, hskip⟩ := hc.encode hwf
        rw [List.flatMap_cons, List.append_assoc, hencode, List.cons_append,
          nextTapState_skip hskip]
        exact ih hcs

end Table

section Pointer
variable {packet : List UInt8}

theorem EndsInOperand.nextCmd2 {operand : UInt8} (h : EndsInOperand packet operand)
    (last : Option UInt8) :
    AtScaleDebug.nextCmd2 last packet = ⟨some operand, none⟩ ∧ nextTapState packet = none := by
  induction h generalizing last with
  | last hskip =>
      have hpointer := nextCmd2_skip last hskip []
      have htap := nextTapState_skip hskip []
      rw [List.append_nil] at hpointer htap
      exact ⟨hpointer, htap⟩
  | skip hskip _ ih => exact ⟨(nextCmd2_skip last hskip _).trans (ih _).1,
      (nextTapState_skip hskip _).trans (ih last).2⟩

/-- Where the pointer ends: at the second TAP state, nowhere or at another command, or at
an operand. -/
inductive PointerOutcome (last : Option UInt8) (packet : List UInt8) : Prop where
  | found (second : UInt8) (htap : isTapState second)
      (hbyte : (nextCmd2 last packet).byte = some second)
      (hnext : nextTapState packet = some second)
  | other (hbyte : ∀ byte ∈ (nextCmd2 last packet).byte, ¬ isTapState byte)
      (hnext : nextTapState packet = none)
  | empty (hpacket : packet = [])
  | operand (byte : UInt8) (hends : EndsInOperand packet byte)

theorem PointerOutcome.skip {last : Option UInt8} {cmd operand : UInt8} {operands : List UInt8}
    (hskip : skippedOperands cmd = some (operand :: operands).length)
    (h : PointerOutcome (some operand) packet) :
    PointerOutcome last (cmd :: (operand :: operands ++ packet)) := by
  have hpointer := nextCmd2_skip last hskip packet
  have hnext := nextTapState_skip hskip packet
  obtain ⟨second, htap, hbyte, hsecond⟩ | ⟨hbyte, hnone⟩ | hpacket | ⟨byte, hends⟩ := h
  · refine .found second htap ?_ (hnext.trans hsecond)
    rw [hpointer]
    exact hbyte
  · refine .other ?_ (hnext.trans hnone)
    rw [hpointer]
    exact hbyte
  · refine .operand operand ?_
    rw [hpacket, List.append_nil]
    exact .last hskip
  · exact .operand byte (.skip hskip hends)

theorem pointerOutcome (last : Option UInt8) (packet : List UInt8) :
    PointerOutcome last packet := by
  induction packet using lookAhead_induction generalizing last with
  | nil => exact .empty rfl
  | found cmd packet hfound =>
      have hbyte := congrArg NextCmd2.byte (nextCmd2_found last hfound packet)
      have hnext := nextTapState_found hfound packet
      by_cases htap : isTapState cmd
      · exact .found cmd htap hbyte (hnext.trans (if_pos htap))
      · refine .other ?_ (hnext.trans (if_neg htap))
        rw [hbyte]
        rintro byte ⟨⟩
        exact htap
  | cut cmd count operands hskip hcut =>
      refine .other ?_ (nextTapState_cut hskip hcut)
      rw [nextCmd2_cut last hskip hcut]
      nofun
  | skip cmd operand operands packet hskip ih => exact (ih (some operand)).skip hskip

end Pointer

section EndState
variable {first : UInt8}

theorem jtagEndState_of_isTapState {second : UInt8} (h : isTapState second) :
    jtagEndState first (some second) = shiftEndState first (some second) := by
  simp only [jtagEndState, if_pos h, shiftEndState, Option.map_some]
  split
  · rfl
  · split
    · next hrti => rw [if_pos (.inl hrti)]
    · next hrti => simp only [hrti, false_or]

theorem jtagEndState_of_not {byte : Option UInt8} (h : ∀ b ∈ byte, ¬ isTapState b) :
    jtagEndState first byte = shiftEndState first none := by
  cases byte with
  | none => rfl
  | some byte => exact if_neg (h byte rfl)

/-- A byte that is read as a second TAP state changes the end state if it redirects. -/
theorem redirects_iff (byte : UInt8) :
    jtagEndState first (some byte) = shiftEndState first none ↔ ¬ Redirects first byte := by
  by_cases htap : isTapState byte
  · rw [jtagEndState_of_isTapState htap, Redirects, and_iff_right htap, shiftEndState,
      shiftEndState, Option.map_some, Option.map_none]
    generalize JtagState.ofCommand byte = second
    generalize JtagState.ofCommand first = state
    cases second with
    | pauDr | pauIr | rti => simp [eq_comm]
    | selDr => cases state <;> decide
    | _ => simp
  · rw [jtagEndState_of_not (by rintro b ⟨⟩; exact htap)]
    exact iff_of_true rfl fun h => htap h.1

/-- In hardware mode, with the TAP state command `first` behind the scan, the end state is
the one by the commands that follow if and only if the packet does not end behind a
configuration command whose first operand redirects it. -/
theorem shift_end_state_by_commands (current : JtagState) (type : ScanType) (p : PacketData)
    (first : UInt8) (packet : List UInt8) (htap : isTapState first)
    (hleft : p.left = first :: packet) :
    (determineShiftEndStateAt .hardware (some current) type p).1 =
        some (shiftEndState first (nextTapState packet)) ↔
      ¬ ∃ operand, EndsInOperand packet operand ∧ Redirects first operand := by
  have hend := (determineShiftEndStateAt_agrees .hardware type p current).endState
  rw [hleft] at hend
  have hlist : (determineShiftEndState .hardware current type (first :: packet)).1 =
      some (jtagEndState first (nextCmd2 none packet).byte) := by
    simp only [determineShiftEndState, if_pos htap]
  rw [hend, hlist, Option.some_inj]
  obtain ⟨second, hsecond, hbyte, hnext⟩ | ⟨hbyte, hnext⟩ | rfl | ⟨operand, hends⟩ :=
    pointerOutcome none packet
  · rw [hbyte, hnext]
    refine iff_of_true (jtagEndState_of_isTapState hsecond) ?_
    rintro ⟨operand, hends, -⟩
    rw [(hends.nextCmd2 none).2] at hnext
    cases hnext
  · rw [hnext]
    refine iff_of_true (jtagEndState_of_not hbyte) ?_
    rintro ⟨operand, hends, hredirects⟩
    rw [(hends.nextCmd2 none).1] at hbyte
    exact hbyte operand rfl hredirects.1
  · refine iff_of_true rfl ?_
    rintro ⟨_, ⟨⟩, -⟩
  · obtain ⟨hpointer, hnone⟩ := hends.nextCmd2 none
    rw [hpointer, hnone, redirects_iff]
    refine not_congr ⟨fun h => ⟨operand, hends, h⟩, ?_⟩
    rintro ⟨other, hother, h⟩
    have hsame := hpointer.symm.trans (hother.nextCmd2 none).1
    cases hsame
    exact h

/-- Behind the scan stand Exit1-DR, a `DR_PREFIX` and Pause-DR. -/
theorem shift_end_state_by_commands_pause :
    let p : PacketData := ⟨fun i => [0x25, 0x02, 0x21, 0x26].getD i 0, 0, 0, 4⟩
    (determineShiftEndStateAt .hardware (some .shfDr) .write p).1 =
        some (shiftEndState 0x25 (nextTapState [0x02, 0x21, 0x26])) ∧
      shiftEndState 0x25 (nextTapState [0x02, 0x21, 0x26]) = .pauDr := by
  refine ⟨?_, by decide⟩
  refine (shift_end_state_by_commands .shfDr .write _ 0x25 [0x02, 0x21, 0x26]
    (by decide) rfl).mpr ?_
  rintro ⟨operand, hends, -⟩
  exact absurd (hends.nextCmd2 none).2 (by decide)

/-- Behind the scan stand Exit1-DR and a `DR_PREFIX` of 33, which is 0x21 and so would be
the TAP state command for Run-Test/Idle. -/
theorem shift_end_state_by_operand :
    let p : PacketData := ⟨fun i => [0x25, 0x02, 0x21].getD i 0, 0, 0, 3⟩
    p.left = [0x25, 0x02, 0x21] ∧ nextTapState [0x02, 0x21] = none ∧
      shiftEndState 0x25 none = .ex1Dr ∧
      (determineShiftEndStateAt .hardware (some .shfDr) .write p).1 = some .rti ∧
      (determineShiftEndStateAt .hardware (some .shfDr) .write p).1 ≠
        some (shiftEndState 0x25 (nextTapState [0x02, 0x21])) := by
  decide

end EndState

end AtScaleDebug
