import AtScaleDebug.Target.JtagRun

/-!
The look ahead of `determine_shift_end_state` over the packet as the source keeps it:
a pointer and a count of the bytes used, both moved forward by `get_packet_data` and
moved back at the end. The second look ahead is taken back only if its pointer is not
null, and a command that is cut off leaves it null with its bytes counted as used.
-/

namespace AtScaleDebug

open ByteBuffer

/-- `struct packet_data`. The pointer is a position in `data`. -/
structure PacketData where
  data : Nat → UInt8
  nextData : Nat
  used : Nat
  total : Nat

namespace PacketData

/-- The bytes of the packet that are not used yet. -/
def left (p : PacketData) : List UInt8 := slice p.data p.nextData (p.total - p.used)

def advance (p : PacketData) (n : Nat) : PacketData :=
  { p with nextData := p.nextData + n, used := p.used + n }

/-- The other way, as the source takes a look ahead back. -/
def unpeek (p : PacketData) (n : Nat) : PacketData :=
  { p with nextData := p.nextData - n, used := p.used - n }

/-- `get_packet_data`: where the bytes are, and the packet behind them. -/
def getPacketData (p : PacketData) (wanted : Nat) : Option (Nat × PacketData) :=
  if p.used + wanted > p.total then none else some (p.nextData, p.advance wanted)

/-- The cursor is where it was. -/
structure SameCursor (p q : PacketData) : Prop where
  used : q.used = p.used
  nextData : q.nextData = p.nextData

end PacketData

section Source

/-- `next_cmd2_ptr`, `next_cmd2_counter` and the packet. -/
structure NextCmd2Peek where
  pointer : Option Nat
  counter : Nat
  packet : PacketData

/-- The `while` loop of the look ahead. It takes at least one byte each time, so as many
rounds as there are bytes left are enough. -/
def peekNextCmd2 : Nat → NextCmd2Peek → NextCmd2Peek
  | 0, s => s
  | rounds + 1, ⟨pointer, counter, p⟩ =>
      if p.used < p.total then
        match p.getPacketData 1 with
        | none => ⟨none, counter, p⟩
        | some (pointer, p) =>
            if isTapState (p.data pointer) then ⟨some pointer, counter + 1, p⟩
            else
              match skippedOperands (p.data pointer) with
              | none => ⟨some pointer, counter + 1, p⟩
              | some operands =>
                  match p.getPacketData operands with
                  | none => ⟨none, counter + 1, p⟩
                  | some (pointer, p) =>
                      peekNextCmd2 rounds ⟨some pointer, counter + 1 + operands, p⟩
      else ⟨pointer, counter, p⟩

/-- Without a pointer the second look ahead is not taken back. -/
def NextCmd2Peek.takeBack (s : NextCmd2Peek) : PacketData :=
  let p := s.packet.unpeek 1
  if s.pointer.isSome then p.unpeek s.counter else p

/-- `determine_shift_end_state` with the packet it leaves behind. The end state is `none`
for `ST_ERR`; `current` is `none` if `JTAG_get_tap_state` fails. -/
def determineShiftEndStateAt (mode : JtagDriverMode) (current : Option JtagState)
    (type : ScanType) (p : PacketData) : Option JtagState × PacketData :=
  match current with
  | none => (none, p)
  | some current =>
      match p.getPacketData 1 with
      | none => (some current, p)
      | some (pointer, p) =>
          let cmd := p.data pointer
          if isTapState cmd then
            let peek : NextCmd2Peek :=
              match mode with
              | .software => ⟨none, 0, p⟩
              | .hardware => peekNextCmd2 (p.total - p.used) ⟨none, 0, p⟩
            (some (jtagEndState cmd (peek.pointer.map p.data)), peek.takeBack)
          else if type.Covers cmd then (some current, p.unpeek 1)
          else (none, p.unpeek 1)

end Source

section Cut

/-- A run of configuration commands that the look ahead passes over, and one more whose
operands are not all in the packet. -/
inductive CutOff : List UInt8 → Prop where
  | here {cmd : UInt8} {count : Nat} {operands : List UInt8}
      (hskip : skippedOperands cmd = some count) (hcut : operands.length < count) :
      CutOff (cmd :: operands)
  | skip {cmd : UInt8} {operands packet : List UInt8}
      (hskip : skippedOperands cmd = some operands.length) (hrest : CutOff packet) :
      CutOff (cmd :: (operands ++ packet))

/-- What follows the scan is a TAP state and then a configuration command that is cut
off by the end of the packet. -/
def CutBehindTapState : List UInt8 → Prop
  | [] => False
  | cmd :: packet => isTapState cmd ∧ CutOff packet

/-- Induction over the commands that the look ahead reads. -/
theorem lookAhead_induction {P : List UInt8 → Prop} (nil : P [])
    (found : ∀ cmd packet, isTapState cmd ∨ skippedOperands cmd = none → P (cmd :: packet))
    (cut : ∀ cmd count operands, skippedOperands cmd = some count → operands.length < count →
      P (cmd :: operands))
    (skip : ∀ cmd operand operands packet, skippedOperands cmd = some (operand :: operands).length →
      P packet → P (cmd :: (operand :: operands ++ packet)))
    (packet : List UInt8) : P packet := by
  induction hn : packet.length using Nat.strong_induction_on generalizing packet with
  | _ n ih =>
      cases packet with
      | nil => exact nil
      | cons cmd packet =>
          cases hskip : skippedOperands cmd with
          | none => exact found cmd packet (.inr hskip)
          | some count =>
              by_cases hcut : packet.length < count
              · exact cut cmd count packet hskip hcut
              have hcount := (skippedOperands_cases hskip).2
              have hlength : (packet.take count).length = count :=
                List.length_take_of_le (Nat.le_of_not_lt hcut)
              obtain ⟨operand, operands, htake⟩ : ∃ operand operands,
                  packet.take count = operand :: operands :=
                List.exists_cons_of_length_pos (by omega)
              have hrest := ih (packet.drop count).length ?_ (packet.drop count) rfl
              · have hfirst := skip cmd operand operands (packet.drop count) ?_ hrest
                · rwa [← htake, List.take_append_drop] at hfirst
                · rw [← htake, hlength]
                  exact hskip
              · simp only [List.length_drop, List.length_cons] at hn ⊢
                omega

/-- The look ahead ends without a pointer exactly where a command is cut off. -/
theorem cutOff_iff (last : Option UInt8) (packet : List UInt8) :
    CutOff packet ↔ (nextCmd2 last packet).cut ≠ none := by
  constructor
  · intro h
    induction h generalizing last with
    | here hskip hcut =>
        rw [nextCmd2_cut last hskip hcut]
        exact Option.some_ne_none _
    | skip hskip _ ih =>
        rw [nextCmd2_skip last hskip]
        exact ih _
  · intro h
    induction packet using lookAhead_induction generalizing last with
    | nil => exact absurd rfl h
    | found cmd packet hfound =>
        rw [nextCmd2_found last hfound] at h
        exact absurd rfl h
    | cut cmd count operands hskip hcut => exact .here hskip hcut
    | skip cmd operand operands packet hskip ih =>
        rw [nextCmd2_skip last hskip] at h
        exact .skip hskip (ih _ h)

end Cut

section Cursor

namespace PacketData
variable (p : PacketData)

theorem length_left : p.left.length = p.total - p.used := length_slice _ _ _

theorem left_advance {n : Nat} (h : p.used + n ≤ p.total) :
    p.left = slice p.data p.nextData n ++ (p.advance n).left := by
  have hsplit : p.total - p.used = n + (p.total - (p.used + n)) := by omega
  rw [left, hsplit, slice_add]
  rfl

theorem left_cons (h : p.used < p.total) :
    p.left = p.data p.nextData :: (p.advance 1).left := p.left_advance (n := 1) h

theorem left_nil (h : p.total ≤ p.used) : p.left = [] := by
  rw [left, Nat.sub_eq_zero_of_le h, slice_zero]

theorem advance_advance (m n : Nat) : (p.advance m).advance n = p.advance (m + n) := by
  simp only [advance, Nat.add_assoc]

theorem unpeek_advance (m n : Nat) : (p.advance (m + n)).unpeek n = p.advance m := by
  simp only [advance, unpeek, ← Nat.add_assoc, Nat.add_sub_cancel]

end PacketData

/-- What the second look ahead does: it ends with its counter at the bytes it took, or at
a command that is cut off, one byte behind its start. -/
inductive PeekOutcome (s t : NextCmd2Peek) : Prop where
  | found (n : Nat) (hpacket : t.packet = s.packet.advance n) (hcounter : t.counter = s.counter + n)
      (hpointer : n ≠ 0 ∨ s.pointer.isSome → t.pointer.isSome)
      (hnext : nextCmd2 (s.pointer.map s.packet.data) s.packet.left =
        ⟨t.pointer.map s.packet.data, none⟩)
  | cut (n : Nat) (hpacket : t.packet = s.packet.advance (n + 1)) (hpointer : t.pointer = none)
      (hnext : nextCmd2 (s.pointer.map s.packet.data) s.packet.left =
        ⟨none, some (s.packet.advance n).left⟩)

theorem PeekOutcome.refl {s : NextCmd2Peek} (h : s.packet.left = []) : PeekOutcome s s := by
  refine .found 0 rfl rfl (fun hsome => hsome.resolve_left (not_not.mpr rfl)) ?_
  rw [h]
  rfl

/-- The operands of a command that is passed over are all there. -/
theorem nextCmd2_passed {p : PacketData} {count : Nat} (hmore : p.used < p.total)
    (hskip : skippedOperands (p.data p.nextData) = some count)
    (hfits : (p.advance 1).used + count ≤ (p.advance 1).total) (last : Option UInt8) :
    nextCmd2 last p.left =
      nextCmd2 (some (p.data (p.nextData + 1))) (p.advance (1 + count)).left := by
  have hbehind := (p.advance 1).left_advance hfits
  rw [PacketData.advance_advance] at hbehind
  have hlength : (slice p.data (p.nextData + 1) count).length = count := length_slice _ _ _
  have hhead : (slice p.data (p.nextData + 1) count).head? = some (p.data (p.nextData + 1)) := by
    obtain rfl | rfl := (skippedOperands_cases hskip).2
    · rfl
    · rfl
  rw [p.left_cons hmore, hbehind]
  refine (nextCmd2_skip _ (hlength.symm ▸ hskip) _).trans ?_
  exact congrArg (fun last => nextCmd2 last (p.advance (1 + count)).left) hhead

/-- What comes of the look ahead behind a command that is passed over. -/
theorem PeekOutcome.passed {p : PacketData} {count counter : Nat} {pointer : Option Nat}
    {t : NextCmd2Peek}
    (hpassed : nextCmd2 (pointer.map p.data) p.left =
      nextCmd2 (some (p.data (p.nextData + 1))) (p.advance (1 + count)).left)
    (h : PeekOutcome ⟨some (p.nextData + 1), counter + 1 + count, p.advance (1 + count)⟩ t) :
    PeekOutcome ⟨pointer, counter, p⟩ t := by
  obtain ⟨n, hpacket, hcounter, hpointer, hrest⟩ | ⟨n, hpacket, hpointer, hrest⟩ := h
  · refine .found (1 + count + n) ?_ ?_ (fun _ => hpointer (.inr rfl)) (hpassed.trans hrest)
    · rw [hpacket, PacketData.advance_advance]
    · rw [hcounter]
      dsimp only
      omega
  · refine .cut (1 + count + n) ?_ hpointer (hpassed.trans (hrest.trans ?_))
    · rw [hpacket, PacketData.advance_advance, ← Nat.add_assoc]
    · rw [PacketData.advance_advance]

theorem peekNextCmd2_outcome (rounds : Nat) {s : NextCmd2Peek}
    (h : s.packet.left.length ≤ rounds) : PeekOutcome s (peekNextCmd2 rounds s) := by
  induction rounds generalizing s with
  | zero => exact .refl (List.eq_nil_of_length_eq_zero (Nat.le_zero.mp h))
  | succ rounds ih =>
      obtain ⟨pointer, counter, p⟩ := s
      rw [peekNextCmd2]
      by_cases hmore : p.used < p.total
      swap
      · rw [if_neg hmore]
        exact .refl (p.left_nil (Nat.le_of_not_lt hmore))
      have hget : p.getPacketData 1 = some (p.nextData, p.advance 1) :=
        if_neg (Nat.not_lt.mpr hmore)
      have hleft := p.left_cons hmore
      rw [if_pos hmore, hget]
      dsimp only
      by_cases htap : isTapState ((p.advance 1).data p.nextData)
      · rw [if_pos htap]
        refine .found 1 rfl rfl (fun _ => rfl) ?_
        rw [hleft]
        exact nextCmd2_found _ (.inl htap) _
      rw [if_neg htap]
      cases hskip : skippedOperands ((p.advance 1).data p.nextData) with
      | none =>
          refine .found 1 rfl rfl (fun _ => rfl) ?_
          rw [hleft]
          exact nextCmd2_found _ (.inr hskip) _
      | some count =>
          dsimp only
          by_cases hfits : (p.advance 1).used + count ≤ (p.advance 1).total
          · have hnext : (p.advance 1).getPacketData count =
                some (p.nextData + 1, p.advance (1 + count)) := by
              rw [PacketData.getPacketData, if_neg (Nat.not_lt.mpr hfits),
                PacketData.advance_advance]
              rfl
            have hshort : (p.advance (1 + count)).left.length ≤ rounds := by
              rw [PacketData.length_left] at h ⊢
              simp only [PacketData.advance] at h ⊢
              omega
            rw [hnext]
            exact .passed (nextCmd2_passed hmore hskip hfits _) (ih hshort)
          · have hnext : (p.advance 1).getPacketData count = none :=
              if_pos (Nat.lt_of_not_le hfits)
            have hcut : (p.advance 1).left.length < count := by
              have hcount := (skippedOperands_cases hskip).2
              rw [PacketData.length_left]
              omega
            rw [hnext]
            refine .cut 0 rfl rfl ?_
            rw [hleft]
            refine (nextCmd2_cut _ hskip hcut).trans ?_
            exact congrArg (fun packet => NextCmd2.mk none (some packet)) hleft.symm

/-- The cursor after the whole look ahead that starts behind the first command. -/
theorem PeekOutcome.takeBack {p : PacketData} {t : NextCmd2Peek}
    (h : PeekOutcome ⟨none, 0, p.advance 1⟩ t) :
    (t.takeBack = p ∧ (nextCmd2 none (p.advance 1).left).cut = none) ∨
    ∃ n, t.takeBack = p.advance (n + 1) ∧
      (nextCmd2 none (p.advance 1).left).cut = some (p.advance (n + 1)).left := by
  rw [NextCmd2Peek.takeBack]
  obtain ⟨n, hpacket, hcounter, hpointer, hnext⟩ | ⟨n, hpacket, hpointer, hnext⟩ := h
  · dsimp only at hpacket hcounter hpointer
    rw [PacketData.advance_advance] at hpacket
    refine .inl ⟨?_, congrArg NextCmd2.cut hnext⟩
    rw [hpacket, hcounter]
    split
    · have hback := p.unpeek_advance 0 n
      rw [Nat.zero_add] at hback
      rw [Nat.add_comm 1 n, PacketData.unpeek_advance, Nat.zero_add]
      exact hback
    · next hnone =>
        have hzero : n = 0 := by
          by_contra hne
          exact hnone (hpointer (.inl hne))
        subst hzero
        exact PacketData.unpeek_advance p 0 1
  · dsimp only at hpacket hnext
    rw [PacketData.advance_advance] at hpacket
    refine .inr ⟨n, ?_, ?_⟩
    · rw [hpointer, hpacket, ← Nat.add_assoc, PacketData.unpeek_advance, Nat.add_comm 1 n]
      rfl
    · rw [PacketData.advance_advance, Nat.add_comm 1 n] at hnext
      exact congrArg NextCmd2.cut hnext

theorem PeekOutcome.byte {s t : NextCmd2Peek} (h : PeekOutcome s t) :
    (nextCmd2 (s.pointer.map s.packet.data) s.packet.left).byte =
      t.pointer.map s.packet.data := by
  obtain ⟨_, _, _, _, hnext⟩ | ⟨_, _, hpointer, hnext⟩ := h
  · rw [hnext]
  · rw [hnext, hpointer]
    rfl

end Cursor

section Result
variable (mode : JtagDriverMode) (type : ScanType) (p : PacketData)

/-- The cursor goes on when a command is cut off behind a TAP state, in hardware mode,
and otherwise stays. -/
inductive CursorOutcome (q : PacketData) : Prop where
  | same (heq : q = p) (hnot : ¬ (mode = .hardware ∧ CutBehindTapState p.left))
  | moved (n : Nat) (heq : q = p.advance (n + 1)) (hmode : mode = .hardware)
      (hcut : CutBehindTapState p.left)

/-- The look ahead over the cursor is the one over the bytes that are left. -/
structure LookAheadAgrees (current : JtagState) (result : Option JtagState × PacketData) :
    Prop where
  endState : result.1 = (determineShiftEndState mode current type p.left).1
  left : result.2.left = (determineShiftEndState mode current type p.left).2
  cursor : CursorOutcome mode p result.2

theorem LookAheadAgrees.unmoved {mode : JtagDriverMode} {type : ScanType} {p q : PacketData}
    {current : JtagState} {state : Option JtagState} (heq : q = p)
    (hlist : determineShiftEndState mode current type p.left = (state, p.left))
    (hnot : ¬ (mode = .hardware ∧ CutBehindTapState p.left)) :
    LookAheadAgrees mode type p current (state, q) :=
  ⟨(congrArg Prod.fst hlist).symm,
    (congrArg PacketData.left heq).trans (congrArg Prod.snd hlist).symm, .same heq hnot⟩

theorem determineShiftEndStateAt_agrees (current : JtagState) :
    LookAheadAgrees mode type p current
      (determineShiftEndStateAt mode (some current) type p) := by
  by_cases hmore : p.used < p.total
  swap
  · have hget : p.getPacketData 1 = none := if_pos (Nat.lt_of_not_le hmore)
    have hnil := p.left_nil (Nat.le_of_not_lt hmore)
    simp only [determineShiftEndStateAt, hget]
    have hno : ¬ CutBehindTapState p.left := hnil ▸ not_false
    refine .unmoved rfl ?_ fun h => hno h.2
    rw [hnil]
    rfl
  have hget : p.getPacketData 1 = some (p.nextData, p.advance 1) := if_neg (Nat.not_lt.mpr hmore)
  have hleft := p.left_cons hmore
  have hback : (p.advance 1).unpeek 1 = p := PacketData.unpeek_advance p 0 1
  have hcut : CutBehindTapState p.left ↔
      isTapState (p.data p.nextData) ∧ CutOff (p.advance 1).left := hleft ▸ Iff.rfl
  simp only [determineShiftEndStateAt, hget]
  by_cases htap : isTapState ((p.advance 1).data p.nextData)
  · rw [if_pos htap]
    cases mode with
    | software =>
        have hlist : determineShiftEndState .software current type p.left =
            (some (jtagEndState (p.data p.nextData) none), p.left) := by
          rw [hleft]
          exact if_pos htap
        exact .unmoved hback hlist fun h => absurd h.1 (by decide)
    | hardware =>
        have hlist : determineShiftEndState .hardware current type p.left =
            (some (jtagEndState (p.data p.nextData) (nextCmd2 none (p.advance 1).left).byte),
              (nextCmd2 none (p.advance 1).left).cut.getD p.left) := by
          rw [hleft]
          exact if_pos htap
        dsimp only
        have outcome := peekNextCmd2_outcome ((p.advance 1).total - (p.advance 1).used)
          (s := ⟨none, 0, p.advance 1⟩) (Nat.le_of_eq (p.advance 1).length_left)
        have hbyte := congrArg (fun byte => some (jtagEndState (p.data p.nextData) byte))
          outcome.byte.symm
        have hend := hbyte.trans (congrArg Prod.fst hlist).symm
        obtain ⟨hsame, hnone⟩ | ⟨n, hmoved, hsome⟩ := outcome.takeBack
        · refine ⟨hend, ?_, .same hsame fun h => ?_⟩
          · rw [hlist, hnone]
            exact congrArg PacketData.left hsame
          · exact (cutOff_iff none _).mp (hcut.mp h.2).2 hnone
        · refine ⟨hend, ?_, .moved n hmoved rfl (hcut.mpr ⟨htap, (cutOff_iff none _).mpr ?_⟩)⟩
          · rw [hlist, hsome]
            exact congrArg PacketData.left hmoved
          · rw [hsome]
            exact Option.some_ne_none _
  · have hsame : ¬ (mode = .hardware ∧ CutBehindTapState p.left) := fun h => htap (hcut.mp h.2).1
    rw [if_neg htap]
    split
    · next hcovers =>
        have hlist : determineShiftEndState mode current type p.left = (some current, p.left) := by
          rw [hleft]
          exact (if_neg htap).trans (if_pos hcovers)
        exact .unmoved hback hlist hsame
    · next hcovers =>
        have hlist : determineShiftEndState mode current type p.left = (none, p.left) := by
          rw [hleft]
          exact (if_neg htap).trans (if_neg hcovers)
        exact .unmoved hback hlist hsame

/-- For every packet and cursor, scan type, TAP state and driver mode, the cursor is where
it was on entry, whatever the status, if and only if the look ahead of the hardware mode
does not meet a configuration command that is cut off by the end of the packet. -/
theorem look_ahead_restores (current : Option JtagState) :
    p.SameCursor (determineShiftEndStateAt mode current type p).2 ↔
      ¬ (mode = .hardware ∧ current.isSome ∧ CutBehindTapState p.left) := by
  cases current with
  | none => exact iff_of_true ⟨rfl, rfl⟩ fun h => absurd h.2.1 (by decide)
  | some current =>
      obtain ⟨heq, hnot⟩ | ⟨n, heq, hmode, hcut⟩ :=
        (determineShiftEndStateAt_agrees mode type p current).cursor
      · refine iff_of_true ?_ fun h => hnot ⟨h.1, h.2.2⟩
        rw [heq]
        exact ⟨rfl, rfl⟩
      · refine iff_of_false (fun h => ?_) (not_not.mpr ⟨hmode, rfl, hcut⟩)
        have hused := h.used
        rw [heq, PacketData.advance] at hused
        dsimp only at hused
        omega

/-- Behind a scan follow Exit1-DR and an `IR_PREFIX` with one of its two bytes. -/
theorem look_ahead_moves :
    let p : PacketData := ⟨fun i => [0x25, 0x04, 0x01].getD i 0, 0, 0, 3⟩
    (determineShiftEndStateAt .hardware (some .shfDr) .write p).1 = some .ex1Dr ∧
      (determineShiftEndStateAt .hardware (some .shfDr) .write p).2.used = 1 ∧
      ¬ p.SameCursor (determineShiftEndStateAt .hardware (some .shfDr) .write p).2 := by
  refine ⟨by decide, by decide, fun h => ?_⟩
  exact absurd h.used (by decide)

end Result

end AtScaleDebug
