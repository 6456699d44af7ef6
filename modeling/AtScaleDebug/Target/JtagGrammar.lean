import AtScaleDebug.Target.JtagMessage

/-!
The commands of a bundle as bytes, by the command table of the protocol and not
by the code that reads them, and the two facts that tie the reader to the table:
what is written is read back, with what follows left alone, and what is read was
written that way.

A read-write scan whose data is cut off has no bytes in the table. The reader
still makes a command of it, because the code puts the command byte into the
response before it looks for the data.

On top of the table stands what a bundle means: where each of its commands is
allowed, how far the TAP state of the active chain has got, and which calls the
two handlers receive, in the terms of the protocol and without the loop, the
packet and the driver. This is the software mode, in which the end state of a
scan is told by the next command alone.
-/

namespace AtScaleDebug

namespace JtagCommand

def encode : JtagCommand → List UInt8
  | .writeEventConfig data => [0x00, data]
  | .jtagFreq data => [0x01, data]
  | .drPrefix data => [0x02, data]
  | .drPostfix data => [0x03, data]
  | .irPrefix lsb msb => [0x04, lsb, msb]
  | .irPostfix lsb msb => [0x05, lsb, msb]
  | .prdyTimeout data => [0x06, data]
  | .writePins data chainBytes => 0x07 :: data :: chainBytes
  | .readStatus cmd data => [cmd, data]
  | .waitCycles cmd data => [cmd, data]
  | .waitPrdy => [0x12]
  | .clearTimeout => [0x13]
  | .tapReset => [0x14]
  | .waitSync timeoutLsb timeoutMsb delayLsb delayMsb =>
      [0x19, timeoutLsb, timeoutMsb, delayLsb, delayMsb]
  | .tapState cmd => [cmd]
  | .writeScan scan => scan.cmd :: scan.data
  | .readScan cmd => [cmd]
  | .readWriteScan scan => scan.cmd :: scan.data
  | .cutScan cmd => [cmd]

/-- The bytes that follow the operand of a pin command. -/
def chainBytesLength (mode : JtagChainSelectMode) (data : UInt8) : Nat :=
  if selectsChain data ∧ mode = .multi then chainSelection data + 1 else 0

/-- A command of the table with all of its operands. -/
def WellFormed (mode : JtagChainSelectMode) : JtagCommand → Prop
  | .writePins data chainBytes => chainBytes.length = chainBytesLength mode data
  | .readStatus cmd _ => 0x08 ≤ cmd ∧ cmd ≤ 0x0F
  | .waitCycles cmd _ => cmd = 0x10 ∨ cmd = 0x11
  | .tapState cmd => isTapState cmd
  | .writeScan scan => ScanType.write.Covers scan.cmd
  | .readScan cmd => ScanType.read.Covers cmd
  | .readWriteScan scan => ScanType.readWrite.Covers scan.cmd
  | .cutScan _ => False
  | _ => True

instance (mode : JtagChainSelectMode) : (c : JtagCommand) → Decidable (c.WellFormed mode)
  | .writePins _ _ => inferInstanceAs (Decidable (_ = _))
  | .readStatus _ _ => inferInstanceAs (Decidable (_ ∧ _))
  | .waitCycles _ _ => inferInstanceAs (Decidable (_ ∨ _))
  | .tapState cmd => inferInstanceAs (Decidable (isTapState cmd))
  | .writeScan scan => inferInstanceAs (Decidable (ScanType.write.Covers scan.cmd))
  | .readScan cmd => inferInstanceAs (Decidable (ScanType.read.Covers cmd))
  | .readWriteScan scan => inferInstanceAs (Decidable (ScanType.readWrite.Covers scan.cmd))
  | .cutScan _ => .isFalse id
  | .writeEventConfig _ | .jtagFreq _ | .drPrefix _ | .drPostfix _ | .irPrefix _ _
  | .irPostfix _ _ | .prdyTimeout _ | .waitPrdy | .clearTimeout | .tapReset
  | .waitSync _ _ _ _ => .isTrue trivial

end JtagCommand

section Reader

variable {mode : JtagChainSelectMode} {packet rest : List UInt8} {command : JtagCommand}

theorem ScanType.Covers.le {type : ScanType} {cmd : UInt8} (h : type.Covers cmd) : 0x40 ≤ cmd := by
  cases type with
  | write => exact h.1
  | read => exact UInt8.le_trans (by decide) h.1
  | readWrite => exact UInt8.le_trans (by decide) h.1

theorem ScanType.Covers.tap_le {type : ScanType} {cmd : UInt8} (h : type.Covers cmd) :
    0x20 ≤ cmd :=
  UInt8.le_trans (by decide) h.le

theorem ScanType.Covers.disjoint {type : ScanType} {cmd : UInt8} (h : type.Covers cmd)
    (other : ScanType) (hne : other ≠ type) : ¬other.Covers cmd := by
  intro hother
  cases type <;> cases other <;> grind [ScanType.Covers]

theorem ScanType.Covers.not_isTapState {type : ScanType} {cmd : UInt8} (h : type.Covers cmd) :
    ¬isTapState cmd := by
  intro hstate
  have hle := UInt8.le_trans h.le hstate.2
  exact absurd hle (by decide)

theorem scanOperand_append (scan : ScanData) (rest : List UInt8) :
    scanOperand scan.cmd (scan.data ++ rest) = some (scan, rest) := by
  obtain ⟨cmd, data, hcovers⟩ := scan
  have hle : scanBytes cmd ≤ (data ++ rest).length := by
    rw [List.length_append, hcovers]
    exact Nat.le_add_right _ _
  rw [scanOperand, dif_pos hle]
  simp [← hcovers]

theorem scanOperand_eq_some {cmd : UInt8} {scan : ScanData}
    (h : scanOperand cmd packet = some (scan, rest)) :
    scan.cmd = cmd ∧ packet = scan.data ++ rest := by
  rw [scanOperand] at h
  split at h
  · cases h
    exact ⟨rfl, (List.take_append_drop _ _).symm⟩
  · cases h

theorem writePinsOperands_append {data : UInt8} {chainBytes : List UInt8}
    (h : (JtagCommand.writePins data chainBytes).WellFormed mode) :
    writePinsOperands mode (data :: (chainBytes ++ rest)) =
      some (.writePins data chainBytes, rest) := by
  have hlength : chainBytes.length = JtagCommand.chainBytesLength mode data := h
  rw [JtagCommand.chainBytesLength] at hlength
  rw [writePinsOperands]
  split
  · rename_i hmulti
    rw [if_pos hmulti] at hlength
    simp [getPacketData, ← hlength]
  · rename_i hsingle
    rw [if_neg hsingle, List.length_eq_zero_iff] at hlength
    rw [hlength]
    rfl

theorem writePinsOperands_eq_some (h : writePinsOperands mode packet = some (command, rest)) :
    command.WellFormed mode ∧ 0x07 :: packet = command.encode ++ rest := by
  cases packet with
  | nil => cases h
  | cons data packet =>
      rw [writePinsOperands] at h
      split at h
      · rename_i hmulti
        rw [getPacketData] at h
        split at h
        · rename_i hle
          cases h
          refine ⟨?_, ?_⟩
          · rw [JtagCommand.WellFormed, JtagCommand.chainBytesLength, if_pos hmulti]
            exact List.length_take_of_le hle
          · rw [JtagCommand.encode, List.cons_append, List.cons_append, List.take_append_drop]
        · cases h
      · rename_i hsingle
        cases h
        refine ⟨?_, rfl⟩
        rw [JtagCommand.WellFormed, JtagCommand.chainBytesLength, if_neg hsingle]
        rfl

/-- A read-write scan, cut off or not. -/
def readWriteOperand (cmd : UInt8) (packet : List UInt8) : JtagCommand × List UInt8 :=
  match scanOperand cmd packet with
  | some (scan, rest) => (.readWriteScan scan, rest)
  | none => (.cutScan cmd, packet)

/-- The commands of the upper part of the table. -/
theorem nextJtagCommand_of_le {cmd : UInt8} (h : 0x20 ≤ cmd) :
    nextJtagCommand mode (cmd :: packet) =
      if isTapState cmd then some (.tapState cmd, packet)
      else if ScanType.write.Covers cmd then
        (scanOperand cmd packet).map fun (scan, rest) => (.writeScan scan, rest)
      else if ScanType.read.Covers cmd then some (.readScan cmd, packet)
      else if 0xC0 ≤ cmd then some (readWriteOperand cmd packet)
      else none := by
  have hne : ∀ k : UInt8, k < 0x20 → cmd ≠ k := by
    intro k hk heq
    grind
  rw [nextJtagCommand, if_neg (hne 0 (by decide)), if_neg (hne 1 (by decide)),
    if_neg (hne 2 (by decide)), if_neg (hne 3 (by decide)), if_neg (hne 4 (by decide)),
    if_neg (hne 5 (by decide)), if_neg (hne 6 (by decide)), if_neg (hne 7 (by decide)),
    if_neg (fun hstatus => by grind), if_neg (not_or_intro (hne 0x10 (by decide))
    (hne 0x11 (by decide))), if_neg (hne 0x12 (by decide)), if_neg (hne 0x13 (by decide)),
    if_neg (hne 0x14 (by decide)), if_neg (hne 0x19 (by decide)), readWriteOperand]
  cases scanOperand cmd packet <;> rfl

theorem nextJtagCommand_encode (rest : List UInt8) (h : command.WellFormed mode) :
    nextJtagCommand mode (command.encode ++ rest) = some (command, rest) := by
  cases command with
  | writePins data chainBytes => exact writePinsOperands_append h
  | readStatus cmd data =>
      rw [JtagCommand.encode, List.cons_append]
      grind [nextJtagCommand, JtagCommand.WellFormed, oneOperand]
  | waitCycles cmd data =>
      obtain rfl | rfl := h
      · rfl
      · rfl
  | tapState cmd =>
      have hstate : isTapState cmd := h
      exact (nextJtagCommand_of_le hstate.1).trans (if_pos hstate)
  | writeScan scan =>
      have hscan : ScanType.write.Covers scan.cmd := h
      rw [JtagCommand.encode, List.cons_append, nextJtagCommand_of_le hscan.tap_le,
        if_neg hscan.not_isTapState, if_pos hscan, scanOperand_append]
      rfl
  | readScan cmd =>
      have hscan : ScanType.read.Covers cmd := h
      rw [JtagCommand.encode, List.cons_append, nextJtagCommand_of_le hscan.tap_le,
        if_neg hscan.not_isTapState, if_neg (hscan.disjoint .write (by decide)), if_pos hscan]
      rfl
  | readWriteScan scan =>
      have hscan : ScanType.readWrite.Covers scan.cmd := h
      rw [JtagCommand.encode, List.cons_append, nextJtagCommand_of_le hscan.tap_le,
        if_neg hscan.not_isTapState, if_neg (hscan.disjoint .write (by decide)),
        if_neg (hscan.disjoint .read (by decide)), if_pos hscan.1, readWriteOperand,
        scanOperand_append]
  | cutScan cmd => exact absurd h id
  | writeEventConfig _ | jtagFreq _ | drPrefix _ | drPostfix _ | irPrefix _ _ | irPostfix _ _
  | prdyTimeout _ | waitPrdy | clearTimeout | tapReset | waitSync _ _ _ _ => rfl

theorem oneOperand_eq_some {make : UInt8 → JtagCommand}
    (h : oneOperand make packet = some (command, rest)) :
    ∃ data, packet = data :: rest ∧ command = make data := by
  cases packet with
  | nil => cases h
  | cons data packet =>
      cases h
      exact ⟨data, rfl, rfl⟩

theorem twoOperands_eq_some {make : UInt8 → UInt8 → JtagCommand}
    (h : twoOperands make packet = some (command, rest)) :
    ∃ lsb msb, packet = lsb :: msb :: rest ∧ command = make lsb msb := by
  match packet, h with
  | lsb :: msb :: packet, h =>
      cases h
      exact ⟨lsb, msb, rfl, rfl⟩

theorem waitSyncOperands_eq_some (h : waitSyncOperands packet = some (command, rest)) :
    command.WellFormed mode ∧ 0x19 :: packet = command.encode ++ rest := by
  match packet, h with
  | _ :: _ :: _ :: _ :: _, h =>
      cases h
      exact ⟨trivial, rfl⟩

/-- A command the table does not have. -/
def JtagCommand.Cut : JtagCommand → Prop
  | .cutScan _ => True
  | _ => False

/-- A command that is read from a packet is encoded at its front. -/
def ReadsFront (mode : JtagChainSelectMode) (packet : List UInt8)
    (result : Option (JtagCommand × List UInt8)) : Prop :=
  ∀ command rest, result = some (command, rest) →
    (command.Cut ∨ command.WellFormed mode) ∧ packet = command.encode ++ rest

section Front
variable {cmd : UInt8}

theorem ReadsFront.none : ReadsFront mode packet none := by rintro command rest ⟨⟩

theorem ReadsFront.bare (hencode : command.encode = [cmd]) (h : command.WellFormed mode) :
    ReadsFront mode (cmd :: packet) (some (command, packet)) := by
  rintro _ _ ⟨⟩
  rw [hencode]
  exact ⟨.inr h, rfl⟩

theorem ReadsFront.one {make : UInt8 → JtagCommand}
    (hencode : ∀ data, (make data).encode = [cmd, data])
    (h : ∀ data, (make data).WellFormed mode) :
    ReadsFront mode (cmd :: packet) (oneOperand make packet) := by
  intro command rest heq
  obtain ⟨data, rfl, rfl⟩ := oneOperand_eq_some heq
  rw [hencode]
  exact ⟨.inr (h data), rfl⟩

theorem ReadsFront.two {make : UInt8 → UInt8 → JtagCommand}
    (hencode : ∀ lsb msb, (make lsb msb).encode = [cmd, lsb, msb])
    (h : ∀ lsb msb, (make lsb msb).WellFormed mode) :
    ReadsFront mode (cmd :: packet) (twoOperands make packet) := by
  intro command rest heq
  obtain ⟨lsb, msb, rfl, rfl⟩ := twoOperands_eq_some heq
  rw [hencode]
  exact ⟨.inr (h lsb msb), rfl⟩

theorem ReadsFront.write (h : ScanType.write.Covers cmd) :
    ReadsFront mode (cmd :: packet)
      ((scanOperand cmd packet).map fun (scan, rest) => (.writeScan scan, rest)) := by
  intro command rest heq
  obtain ⟨⟨scan, after⟩, hscan, hsome⟩ := Option.map_eq_some_iff.mp heq
  cases hsome
  obtain ⟨rfl, rfl⟩ := scanOperand_eq_some hscan
  exact ⟨.inr h, rfl⟩

/-- A read-write scan without all of its data is read as one that is cut off. -/
theorem ReadsFront.readWrite (h : 0xC0 ≤ cmd) :
    ReadsFront mode (cmd :: packet)
      (match scanOperand cmd packet with
        | some (scan, rest) => some (.readWriteScan scan, rest)
        | Option.none => some (.cutScan cmd, packet)) := by
  intro command rest heq
  split at heq
  · next scan after hscan =>
      cases heq
      obtain ⟨rfl, rfl⟩ := scanOperand_eq_some hscan
      have hle : scan.cmd ≤ 0xFF :=
        UInt8.le_iff_toNat_le.mpr (Nat.le_of_lt_succ scan.cmd.toNat_lt)
      exact ⟨.inr ⟨h, hle⟩, rfl⟩
  · cases heq
    exact ⟨.inl trivial, rfl⟩

end Front

theorem nextJtagCommand_readsFront : ReadsFront mode packet (nextJtagCommand mode packet) := by
  cases packet with
  | nil => exact .none
  | cons cmd packet =>
      rw [nextJtagCommand]
      refine iteInduction (fun h => .one (fun _ => by rw [h]; rfl) fun _ => trivial) fun _ => ?_
      refine iteInduction (fun h => .one (fun _ => by rw [h]; rfl) fun _ => trivial) fun _ => ?_
      refine iteInduction (fun h => .one (fun _ => by rw [h]; rfl) fun _ => trivial) fun _ => ?_
      refine iteInduction (fun h => .one (fun _ => by rw [h]; rfl) fun _ => trivial) fun _ => ?_
      refine iteInduction (fun h => .two (fun _ _ => by rw [h]; rfl) fun _ _ => trivial) fun _ => ?_
      refine iteInduction (fun h => .two (fun _ _ => by rw [h]; rfl) fun _ _ => trivial) fun _ => ?_
      refine iteInduction (fun h => .one (fun _ => by rw [h]; rfl) fun _ => trivial) fun _ => ?_
      refine iteInduction (fun h command rest heq => ?_) fun _ => ?_
      · rw [h]
        exact (writePinsOperands_eq_some heq).imp_left .inr
      refine iteInduction (fun hstatus => .one (fun _ => rfl) fun _ => hstatus) fun _ => ?_
      refine iteInduction (fun hwait => .one (fun _ => rfl) fun _ => hwait) fun _ => ?_
      refine iteInduction (fun h => .bare (by rw [h]; rfl) trivial) fun _ => ?_
      refine iteInduction (fun h => .bare (by rw [h]; rfl) trivial) fun _ => ?_
      refine iteInduction (fun h => .bare (by rw [h]; rfl) trivial) fun _ => ?_
      refine iteInduction (fun h command rest heq => ?_) fun _ => ?_
      · rw [h]
        exact (waitSyncOperands_eq_some heq).imp_left .inr
      refine iteInduction (fun htap => .bare rfl htap) fun _ => ?_
      refine iteInduction (fun hwrite => .write hwrite) fun _ => ?_
      refine iteInduction (fun hread => .bare rfl hread) fun _ => ?_
      exact iteInduction (fun hscan => .readWrite hscan) fun _ => .none

theorem nextJtagCommand_eq_some (h : nextJtagCommand mode packet = some (command, rest)) :
    (command.Cut ∨ command.WellFormed mode) ∧ packet = command.encode ++ rest :=
  nextJtagCommand_readsFront command rest h

theorem encode_of_isTapState {c : JtagCommand} {cmd : UInt8} {operands : List UInt8}
    (h : c.WellFormed mode) (hencode : c.encode = cmd :: operands) (hstate : isTapState cmd) :
    c = .tapState cmd ∧ operands = [] := by
  have hread := nextJtagCommand_encode [] h
  rw [List.append_nil, hencode, nextJtagCommand_of_le hstate.1, if_pos hstate] at hread
  cases hread
  exact ⟨rfl, rfl⟩

end Reader

section Meaning

/-- What the commands of a bundle depend on beside their operands. -/
structure BundleView where
  tapStates : Fin maxScanChains → JtagState
  activeChain : Fin maxScanChains
  prdyTimeout : UInt8

def BundleView.tapState (v : BundleView) : JtagState := v.tapStates v.activeChain

def BundleView.moveTo (v : BundleView) (state : JtagState) : BundleView :=
  { v with tapStates := Function.update v.tapStates v.activeChain state }

def BundleView.select (v : BundleView) : Option (Fin maxScanChains) → BundleView
  | some chain => { v with activeChain := chain }
  | none => v

def JtagSession.view (s : JtagSession) : BundleView where
  tapStates chain := (s.jtag.chains chain).tapState
  activeChain := s.jtag.activeChain
  prdyTimeout := s.prdyTimeout

/-- The state in which a scan leaves the TAP. -/
def BundleView.endState (v : BundleView) : Option JtagCommand → JtagState
  | some (.tapState cmd) => .ofCommand cmd
  | _ => v.tapState

namespace JtagCommand

def scanType : JtagCommand → Option ScanType
  | .writeScan _ => some .write
  | .readScan _ => some .read
  | .readWriteScan _ => some .readWrite
  | _ => none

/-- What may come directly after a scan. -/
def MayPrecede (c : JtagCommand) : Option JtagCommand → Prop
  | none => True
  | some (.tapState _) => True
  | some next => c.scanType = none ∨ next.scanType = c.scanType

def namesPin (data : UInt8) : Prop := Pin.ofIndex (data &&& 0x7F).toNat ≠ none

/-- The chain a pin operand names in single chain mode. -/
def namedChain (mode : JtagChainSelectMode) (data : UInt8) : Option (Fin maxScanChains) :=
  if h : selectsChain data ∧ mode = .single ∧ chainSelection data < maxScanChains then
    some ⟨chainSelection data, h.2.2⟩
  else none

/-- Where a command with its operands is allowed. -/
def Permitted (mode : JtagChainSelectMode) (v : BundleView) : JtagCommand → Prop
  | .drPrefix data | .drPostfix data => data.toNat ≤ drMaxPadSize
  | .irPrefix lsb msb | .irPostfix lsb msb => littleEndian lsb msb ≤ irMaxPadSize
  | .writePins data _ =>
      namesPin data ∨
        data &&& 0x40 = 0x40 ∧ (mode = .single → chainSelection data < maxScanChains)
  | .writeScan _ | .readScan _ | .readWriteScan _ => v.tapState = .shfDr ∨ v.tapState = .shfIr
  | _ => True

/-- The view after a command that the given one follows. -/
def after (mode : JtagChainSelectMode) (v : BundleView) (next : Option JtagCommand) :
    JtagCommand → BundleView
  | .prdyTimeout data => { v with prdyTimeout := data }
  | .writePins data _ => v.select (namedChain mode data)
  | .tapReset => v.moveTo .tlr
  | .tapState cmd => v.moveTo (.ofCommand cmd)
  | .writeScan _ | .readScan _ | .readWriteScan _ => v.moveTo (v.endState next)
  | _ => v

/-- How many bytes of the response a command takes. -/
def responseLength : JtagCommand → Nat
  | .readStatus _ _ => 2
  | .readScan cmd => 1 + scanBytes cmd
  | .readWriteScan scan => 1 + scanBytes scan.cmd
  | _ => 0

end JtagCommand

/-- A call to one of the two handlers, without what the driver made of it. -/
abbrev HandlerRequest := JtagCall ⊕ TargetCall

def HandlerCall.request : HandlerCall → HandlerRequest
  | .jtag call _ => .inl call
  | .target call => .inr call

/-- A pin operand: the pin it names, else the chain in single chain mode, which is
reached through the TCK mux. -/
def pinRequests (mode : JtagChainSelectMode) (data : UInt8) : List HandlerRequest :=
  match Pin.ofIndex (data &&& 0x7F).toNat with
  | some pin => [.inr (.write pin (data >>> 7 = 1))]
  | none =>
      match mode with
      | .single =>
          [.inr (.write .tckMuxSelect (chainSelection data = 1)), .inr .chainSelectDelay,
            .inl (.setActiveChain (chainSelection data))]
      | .multi => []

/-- The calls of a command that the given one follows: a scan length of zero means
64 bits, a cycle count of zero 256, a divisor of zero 64, and what takes two
bytes has the low one first. -/
def JtagCommand.requests (mode : JtagChainSelectMode) (v : BundleView)
    (next : Option JtagCommand) : JtagCommand → List HandlerRequest
  | .writeEventConfig data =>
      if (data &&& 0x7F).toNat < writeConfigMax then
        [.inr (.writeEventConfig (data &&& 0x7F) (data >>> 7 = 1))]
      else []
  | .jtagFreq data => [.inl (.setJtagTck (jtagTck data))]
  | .drPrefix data => [.inl (.setPadding .drPost data.toNat)]
  | .drPostfix data => [.inl (.setPadding .drPre data.toNat)]
  | .irPrefix lsb msb => [.inl (.setPadding .irPost (littleEndian lsb msb))]
  | .irPostfix lsb msb => [.inl (.setPadding .irPre (littleEndian lsb msb))]
  | .prdyTimeout _ => []
  | .writePins data _ => pinRequests mode data
  | .readStatus _ data => [.inr (.read (data &&& 0x7F))]
  | .waitCycles _ data =>
      [.inl (.waitCycles (if data.toNat = 0 then 256 else data.toNat))]
  | .waitPrdy => [.inr (.waitPrdy v.prdyTimeout)]
  | .clearTimeout => []
  | .tapReset => [.inl .tapReset]
  | .waitSync timeoutLsb timeoutMsb delayLsb delayMsb =>
      [.inr (.waitSync (littleEndian timeoutLsb timeoutMsb) (littleEndian delayLsb delayMsb))]
  | .tapState cmd => [.inl (.setTapState (.ofCommand cmd))]
  | .writeScan scan => [.inl (.shift (scanBits scan.cmd) (some scan.data) 0 (v.endState next))]
  | .readScan cmd => [.inl (.shift (scanBits cmd) none (scanBytes cmd) (v.endState next))]
  | .readWriteScan scan =>
      [.inl (.shift (scanBits scan.cmd) (some scan.data) (scanBytes scan.cmd) (v.endState next))]
  | .cutScan _ => []

/-- The commands, one after the other, are allowed where they stand. -/
def Accepted (mode : JtagChainSelectMode) : BundleView → List JtagCommand → Prop
  | _, [] => True
  | v, c :: cs =>
      c.Permitted mode v ∧ c.MayPrecede cs.head? ∧ Accepted mode (c.after mode v cs.head?) cs

def bundleRequests (mode : JtagChainSelectMode) :
    BundleView → List JtagCommand → List HandlerRequest
  | _, [] => []
  | v, c :: cs =>
      c.requests mode v cs.head? ++ bundleRequests mode (c.after mode v cs.head?) cs

def bundleLength : List JtagCommand → Nat
  | [] => 0
  | c :: cs => c.responseLength + bundleLength cs

/-- The payload is these commands of the table and nothing else. -/
def Decodes (mode : JtagChainSelectMode) (payload : List UInt8) (cs : List JtagCommand) : Prop :=
  (∀ c ∈ cs, c.WellFormed mode) ∧ payload = cs.flatMap JtagCommand.encode

def JtagCommand.AssertsReset : JtagCommand → Prop
  | .writePins data _ =>
      Pin.ofIndex (data &&& 0x7F).toNat = some .resetButton ∧ data >>> 7 = 1
  | _ => False

instance : (c : JtagCommand) → Decidable c.AssertsReset
  | .writePins _ _ => inferInstanceAs (Decidable (_ ∧ _))
  | .writeEventConfig _ | .jtagFreq _ | .drPrefix _ | .drPostfix _ | .irPrefix _ _
  | .irPostfix _ _ | .prdyTimeout _ | .readStatus _ _ | .waitCycles _ _ | .waitPrdy
  | .clearTimeout | .tapReset | .waitSync _ _ _ _ | .tapState _ | .writeScan _ | .readScan _
  | .readWriteScan _ | .cutScan _ => .isFalse id

/-- No command that the payload starts with, read by the table, asserts the reset
button. -/
def NoResetAssertion (mode : JtagChainSelectMode) (payload : List UInt8) : Prop :=
  ∀ (cs : List JtagCommand) rest, (∀ c ∈ cs, c.WellFormed mode) →
    payload = cs.flatMap JtagCommand.encode ++ rest → ∀ c ∈ cs, ¬c.AssertsReset

end Meaning

end AtScaleDebug
