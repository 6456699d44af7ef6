import AtScaleDebug.Lib.LastWrite
import AtScaleDebug.Target.JtagParser
import AtScaleDebug.Target.LookAhead

/-!
The configuration commands of a bundle. Each of them names one setting of the session and
changes nothing else; a padding beyond its limit is refused. The clock is an exception: its
byte is documented as two bits of prescale and six of divisor, and taken apart as three
bits and five, so an operand from 0x20 on sets another frequency than the one asked for.
-/

namespace AtScaleDebug

open ByteBuffer LastWrite

section Source

inductive WriteCfg where
  | jtagFreq | drPrefix | drPostfix | irPrefix | irPostfix | prdyTimeout
  deriving DecidableEq, Repr

def WriteCfg.code : WriteCfg → UInt8
  | .jtagFreq => 1
  | .drPrefix => 2
  | .drPostfix => 3
  | .irPrefix => 4
  | .irPostfix => 5
  | .prdyTimeout => 6

/-- The bytes behind the command. -/
def WriteCfg.operandLength : WriteCfg → Nat
  | .irPrefix | .irPostfix => 2
  | .jtagFreq | .drPrefix | .drPostfix | .prdyTimeout => 1

/-- A setting from the next bytes of the packet, when they are all there. -/
def withOperand (s : JtagSession) (p : PacketData) (wanted : Nat)
    (apply : Nat → JtagSession × Status) : JtagSession × Status × PacketData :=
  match p.getPacketData wanted with
  | none => (s, .err, p)
  | some (pointer, p) => ((apply pointer).1, (apply pointer).2, p)

def writeCfg (io : JtagIo) (s : JtagSession) (p : PacketData) :
    WriteCfg → JtagSession × Status × PacketData
  | .jtagFreq => withOperand s p 1 fun pointer => setTck io s (p.data pointer)
  | .drPrefix => withOperand s p 1 fun pointer => setPadding s .drPost (p.data pointer).toNat
  | .drPostfix => withOperand s p 1 fun pointer => setPadding s .drPre (p.data pointer).toNat
  | .irPrefix => withOperand s p 2 fun pointer =>
      setPadding s .irPost ((p.data (pointer + 1)).toNat <<< 8 ||| (p.data pointer).toNat)
  | .irPostfix => withOperand s p 2 fun pointer =>
      setPadding s .irPre ((p.data (pointer + 1)).toNat <<< 8 ||| (p.data pointer).toNat)
  | .prdyTimeout => withOperand s p 1 fun pointer =>
      ({ s with prdyTimeout := p.data pointer }, .ok)

end Source

section Bundle

theorem littleEndian_eq_or (lsb msb : UInt8) :
    msb.toNat <<< 8 ||| lsb.toNat = littleEndian lsb msb := by
  rw [littleEndian, Nat.add_comm]
  exact (Nat.shiftLeft_add_eq_or_of_lt lsb.toNat_lt _).symm

variable {p : PacketData}

theorem withOperand_short {s : JtagSession} {wanted : Nat} {apply : Nat → JtagSession × Status}
    (h : p.total < p.used + wanted) : withOperand s p wanted apply = (s, .err, p) := by
  rw [withOperand, PacketData.getPacketData, if_pos h]

theorem withOperand_complete {s : JtagSession} {wanted : Nat} {apply : Nat → JtagSession × Status}
    (h : p.used + wanted ≤ p.total) :
    withOperand s p wanted apply =
      ((apply p.nextData).1, (apply p.nextData).2, p.advance wanted) := by
  rw [withOperand, PacketData.getPacketData, if_neg (Nat.not_lt.mpr h)]

theorem oneOperand_left (make : UInt8 → JtagCommand) (h : p.used + 1 ≤ p.total) :
    oneOperand make p.left = some (make (p.data p.nextData), (p.advance 1).left) := by
  rw [p.left_cons h, oneOperand]

theorem twoOperands_left (make : UInt8 → UInt8 → JtagCommand) (h : p.used + 2 ≤ p.total) :
    twoOperands make p.left =
      some (make (p.data p.nextData) (p.data (p.nextData + 1)), (p.advance 2).left) := by
  have hleft : p.left = p.data p.nextData :: p.data (p.nextData + 1) :: (p.advance 2).left :=
    p.left_advance h
  rw [hleft, twoOperands]

theorem oneOperand_short (make : UInt8 → JtagCommand) (h : p.total < p.used + 1) :
    oneOperand make p.left = none := by
  rw [p.left_nil (Nat.le_of_lt_succ h), oneOperand]

theorem twoOperands_short (make : UInt8 → UInt8 → JtagCommand) (h : p.total < p.used + 2) :
    twoOperands make p.left = none := by
  have hlength : p.left.length < 2 := by
    rw [p.length_left]
    omega
  match p.left, hlength with
  | [], _ | [_], _ => rfl

variable (io : JtagIo) (mode : JtagChainSelectMode) {cmd : WriteCfg} (s : JtagSession)

/-- A command that is cut off is none of the bundle either. -/
theorem writeCfg_short (h : p.total < p.used + cmd.operandLength) :
    nextJtagCommand mode (cmd.code :: p.left) = none ∧ writeCfg io s p cmd = (s, .err, p) := by
  cases cmd with
  | jtagFreq | drPrefix | drPostfix | prdyTimeout =>
      exact ⟨oneOperand_short _ h, withOperand_short h⟩
  | irPrefix | irPostfix => exact ⟨twoOperands_short _ h, withOperand_short h⟩

/-- The function over the cursor does what the command of the bundle does. -/
theorem writeCfg_complete (h : p.used + cmd.operandLength ≤ p.total) :
    ∃ command, nextJtagCommand mode (cmd.code :: p.left) =
        some (command, (p.advance cmd.operandLength).left) ∧
      writeCfg io s p cmd = ((command.silentResult io s).1, (command.silentResult io s).2,
        p.advance cmd.operandLength) := by
  cases cmd with
  | jtagFreq | drPrefix | drPostfix | prdyTimeout =>
      exact ⟨_, oneOperand_left _ h, withOperand_complete h⟩
  | irPrefix | irPostfix =>
      refine ⟨_, twoOperands_left _ h, ?_⟩
      simp only [writeCfg, littleEndian_eq_or]
      exact withOperand_complete h

end Bundle

section Settings

/-- What the configuration commands set. -/
inductive JtagSetting where
  | tck
  | padding (chain : Fin maxScanChains) (type : JtagPaddingType)
  | prdyTimeout
  deriving DecidableEq

def DriverCall.frequency? : DriverCall → Option Nat
  | .setFreq freq => some freq
  | _ => none

def JtagShiftPadding.get (p : JtagShiftPadding) : JtagPaddingType → Nat
  | .drPre => p.drPre
  | .drPost => p.drPost
  | .irPre => p.irPre
  | .irPost => p.irPost

/-- The value of a setting. The clock is what the driver was told last, if it was. -/
def JtagSession.setting (s : JtagSession) : JtagSetting → Option Nat
  | .tck => lastWrite DriverCall.frequency? s.jtag.calls
  | .padding chain type => some ((s.jtag.chains chain).shiftPadding.get type)
  | .prdyTimeout => some s.prdyTimeout.toNat

/-- All that is not a setting is the same. -/
structure JtagSession.SameBesides (s t : JtagSession) : Prop where
  activeChain : t.jtag.activeChain = s.jtag.activeChain
  driverOpen : t.jtag.driverOpen = s.jtag.driverOpen
  swMode : t.jtag.swMode = s.jtag.swMode
  driverMode : t.driverMode = s.driverMode
  chainMode : t.chainMode = s.chainMode
  tapState : ∀ chain, (t.jtag.chains chain).tapState = (s.jtag.chains chain).tapState
  scanState : ∀ chain, (t.jtag.chains chain).scanState = (s.jtag.chains chain).scanState

def JtagPaddingType.limit : JtagPaddingType → Nat
  | .drPre | .drPost => drMaxPadSize
  | .irPre | .irPost => irMaxPadSize

def JtagSetting.Allows : JtagSetting → Nat → Prop
  | .padding _ type, value => value ≤ type.limit
  | .tck, _ | .prdyTimeout, _ => True

/-- A setting is set to a value, or refuses it, and nothing else happens. -/
structure SettingWritten (setting : JtagSetting) (value : Nat) (s : JtagSession)
    (result : JtagSession × Status) : Prop where
  besides : s.SameBesides result.1
  others : ∀ other, other ≠ setting → result.1.setting other = s.setting other
  accepted : setting.Allows value → result.2 = .ok ∧ result.1.setting setting = some value
  refused : ¬ setting.Allows value → result.2 = .err ∧ result.1.setting setting = s.setting setting

variable (s : JtagSession)

theorem prdyTimeout_written (data : UInt8) :
    SettingWritten .prdyTimeout data.toNat s ({ s with prdyTimeout := data }, .ok) where
  besides := ⟨rfl, rfl, rfl, rfl, rfl, fun _ => rfl, fun _ => rfl⟩
  others other hother := by
    cases other with
    | prdyTimeout => exact absurd rfl hother
    | tck | padding => rfl
  accepted _ := ⟨rfl, rfl⟩
  refused hrefused := absurd True.intro hrefused

theorem jtagTck_pos (data : UInt8) : 0 < jtagTck data := by
  rw [jtagTck]
  refine Nat.mul_pos ?_ ?_
  · split <;> decide
  · split
    · decide
    · next hdivisor => exact Nat.pos_of_ne_zero hdivisor

/-- The frequency of the clock is the one the code computes. -/
theorem setTck_written (io : JtagIo) (data : UInt8)
    (hdriver : ∀ count freq, (io.driver count (.setFreq freq)).isSome) :
    SettingWritten .tck (apbFreq / jtagTck data) s (setTck io s data) := by
  obtain ⟨tdo, htdo⟩ := Option.isSome_iff_exists.mp
    (hdriver s.jtag.calls.length (apbFreq / jtagTck data))
  have hset : jtagSetJtagTck io.driver s.jtag (jtagTck data) =
      ({ s.jtag with calls := s.jtag.calls ++ [.setFreq (apbFreq / jtagTck data)] }, .ok) := by
    rw [jtagSetJtagTck, if_neg (Nat.ne_of_gt (jtagTck_pos data)), JtagHandler.ioctl, htdo]
  rw [setTck, hset]
  refine ⟨⟨rfl, rfl, rfl, rfl, rfl, fun _ => rfl, fun _ => rfl⟩, fun other hother => ?_,
    fun _ => ⟨rfl, ?_⟩, fun hrefused => absurd True.intro hrefused⟩
  · cases other with
    | tck => exact absurd rfl hother
    | padding | prdyTimeout => rfl
  · exact lastWrite_concat rfl

theorem get_set {old new : JtagShiftPadding} {type : JtagPaddingType} {value : Nat}
    (h : old.set type value = some new) :
    new.get type = value ∧ ∀ other, other ≠ type → new.get other = old.get other := by
  rw [JtagShiftPadding.set] at h
  split at h
  · cases h
  · cases type with
    | drPre | drPost =>
        dsimp only at h
        split at h
        · cases h
        · cases h
          refine ⟨rfl, fun other hother => ?_⟩
          cases other with
          | drPre | drPost | irPre | irPost => first | rfl | exact absurd rfl hother
    | irPre | irPost =>
        cases h
        refine ⟨rfl, fun other hother => ?_⟩
        cases other with
        | drPre | drPost | irPre | irPost => first | rfl | exact absurd rfl hother

theorem allows_padding_iff (old : JtagShiftPadding) (chain : Fin maxScanChains)
    (type : JtagPaddingType) (value : Nat) :
    (JtagSetting.padding chain type).Allows value ↔ (old.set type value).isSome := by
  rw [set_isSome_iff]
  cases type with
  | drPre | drPost | irPre | irPost => exact Iff.rfl

theorem setPadding_written (type : JtagPaddingType) (value : Nat) :
    SettingWritten (.padding s.jtag.activeChain type) value s (setPadding s type value) := by
  have hallows := allows_padding_iff s.jtag.active.shiftPadding s.jtag.activeChain type value
  rw [setPadding, jtagSetPadding]
  cases hset : s.jtag.active.shiftPadding.set type value with
  | none =>
      rw [hset] at hallows
      refine ⟨⟨rfl, rfl, rfl, rfl, rfl, fun _ => rfl, fun _ => rfl⟩, fun other _ => ?_,
        fun h => ?_, fun _ => ⟨rfl, rfl⟩⟩
      · cases other with
        | tck | padding | prdyTimeout => rfl
      · cases hallows.mp h
  | some shiftPadding =>
      rw [hset] at hallows
      obtain ⟨hvalue, hothers⟩ := get_set hset
      have hactive (chain : Fin maxScanChains) (hchain : chain ≠ s.jtag.activeChain) :
          (s.jtag.setShiftPadding shiftPadding).chains chain = s.jtag.chains chain :=
        Function.update_of_ne hchain _ _
      have hself : (s.jtag.setShiftPadding shiftPadding).chains s.jtag.activeChain =
          { s.jtag.active with shiftPadding } := Function.update_self _ _ _
      have hkeeps {α : Type} (field : JtagChainState → α)
          (hfield : field { s.jtag.active with shiftPadding } = field s.jtag.active)
          (chain : Fin maxScanChains) :
          field ((s.jtag.setShiftPadding shiftPadding).chains chain) =
            field (s.jtag.chains chain) := by
        by_cases hchain : chain = s.jtag.activeChain
        · rw [hchain, hself, hfield]
          rfl
        · rw [hactive chain hchain]
      refine ⟨⟨rfl, rfl, rfl, rfl, rfl, hkeeps _ rfl, hkeeps _ rfl⟩, fun other hother => ?_,
        fun _ => ⟨rfl, ?_⟩, fun hrefused => absurd (hallows.mpr rfl) hrefused⟩
      · cases other with
        | tck | prdyTimeout => rfl
        | padding chain otherType =>
            refine congrArg some ?_
            change ((s.jtag.setShiftPadding shiftPadding).chains chain).shiftPadding.get _ = _
            by_cases hchain : chain = s.jtag.activeChain
            · subst hchain
              rw [hself]
              exact hothers otherType fun htype => hother (htype ▸ rfl)
            · rw [hactive chain hchain]
      · change some (((s.jtag.setShiftPadding shiftPadding).chains _).shiftPadding.get _) = _
        rw [hself, hvalue]

end Settings

section Documented

/-- What the protocol calls a prefix is the padding behind the data. -/
def WriteCfg.setting (chain : Fin maxScanChains) : WriteCfg → JtagSetting
  | .jtagFreq => .tck
  | .drPrefix => .padding chain .drPost
  | .drPostfix => .padding chain .drPre
  | .irPrefix => .padding chain .irPost
  | .irPostfix => .padding chain .irPre
  | .prdyTimeout => .prdyTimeout

/-- Bits 7:6 are the prescale, bits 5:0 the divisor. -/
def tckDivider (data : UInt8) : Nat :=
  2 ^ (data >>> 6).toNat * if (data &&& 0x3F).toNat = 0 then 64 else (data &&& 0x3F).toNat

/-- The value that the operand asks for. -/
def WriteCfg.value (p : PacketData) : WriteCfg → Nat
  | .jtagFreq => apbFreq / tckDivider (p.data p.nextData)
  | .irPrefix | .irPostfix => littleEndian (p.data p.nextData) (p.data (p.nextData + 1))
  | .drPrefix | .drPostfix | .prdyTimeout => (p.data p.nextData).toNat

/-- A command whose operand is cut off does nothing, and any other takes exactly its operand
and writes the setting it names. -/
structure WritesSetting (cmd : WriteCfg) (s : JtagSession) (p : PacketData)
    (result : JtagSession × Status × PacketData) : Prop where
  short : p.total < p.used + cmd.operandLength → result = (s, .err, p)
  complete : p.used + cmd.operandLength ≤ p.total →
    result.2.2 = p.advance cmd.operandLength ∧
      SettingWritten (cmd.setting s.jtag.activeChain) (cmd.value p) s (result.1, result.2.1)

variable {s : JtagSession} {p : PacketData}

theorem withOperand_writes_iff {cmd : WriteCfg} {apply : Nat → JtagSession × Status} :
    WritesSetting cmd s p (withOperand s p cmd.operandLength apply) ↔
      (p.used + cmd.operandLength ≤ p.total →
        SettingWritten (cmd.setting s.jtag.activeChain) (cmd.value p) s (apply p.nextData)) := by
  constructor
  · intro h henough
    have hwritten := (h.complete henough).2
    rwa [withOperand_complete henough] at hwritten
  · intro h
    refine ⟨withOperand_short, fun henough => ?_⟩
    rw [withOperand_complete henough]
    exact ⟨rfl, h henough⟩

/-- The two ways to take the byte apart agree on the first 32 values. -/
theorem jtagTck_frequency_iff (data : UInt8) :
    apbFreq / jtagTck data = apbFreq / tckDivider data ↔ ¬ 0x20 ≤ data := by
  have hall : ∀ n : Fin 256, apbFreq / jtagTck (.ofNat n) = apbFreq / tckDivider (.ofNat n) ↔
      ¬ (0x20 : UInt8) ≤ .ofNat n := by decide +kernel
  have hdata := hall ⟨data.toNat, data.toNat_lt⟩
  rwa [UInt8.ofNat_toNat] at hdata

theorem setTck_documented_iff (io : JtagIo) (data : UInt8)
    (hdriver : ∀ count freq, (io.driver count (.setFreq freq)).isSome) :
    SettingWritten .tck (apbFreq / tckDivider data) s (setTck io s data) ↔ ¬ 0x20 ≤ data := by
  have hcode := setTck_written s io data hdriver
  rw [← jtagTck_frequency_iff]
  constructor
  · intro hdocumented
    have hset := (hcode.accepted True.intro).2
    rw [(hdocumented.accepted True.intro).2] at hset
    exact (Option.some_inj.mp hset).symm
  · intro hsame
    rwa [hsame] at hcode

/-- For every packet, cursor and state, as long as the driver takes the frequency:
`write_cfg` does what is documented, except for a clock operand from 0x20 on. -/
theorem write_cfg_settings (io : JtagIo)
    (hdriver : ∀ count freq, (io.driver count (.setFreq freq)).isSome)
    (cmd : WriteCfg) (s : JtagSession) (p : PacketData) :
    WritesSetting cmd s p (writeCfg io s p cmd) ↔
      ¬ (cmd = .jtagFreq ∧ p.used + 1 ≤ p.total ∧ 0x20 ≤ p.data p.nextData) := by
  cases cmd with
  | jtagFreq =>
      refine withOperand_writes_iff.trans ⟨?_, fun hsmall henough => ?_⟩
      · rintro h ⟨_, henough, hlarge⟩
        exact (setTck_documented_iff io _ hdriver).mp (h henough) hlarge
      · exact (setTck_documented_iff io _ hdriver).mpr fun hlarge =>
          hsmall ⟨rfl, henough, hlarge⟩
  | drPrefix =>
      refine iff_of_true (withOperand_writes_iff.mpr fun _ => ?_) (by rintro ⟨⟨⟩, _⟩)
      exact setPadding_written s .drPost _
  | drPostfix =>
      refine iff_of_true (withOperand_writes_iff.mpr fun _ => ?_) (by rintro ⟨⟨⟩, _⟩)
      exact setPadding_written s .drPre _
  | irPrefix =>
      refine iff_of_true (withOperand_writes_iff.mpr fun _ => ?_) (by rintro ⟨⟨⟩, _⟩)
      rw [littleEndian_eq_or]
      exact setPadding_written s .irPost _
  | irPostfix =>
      refine iff_of_true (withOperand_writes_iff.mpr fun _ => ?_) (by rintro ⟨⟨⟩, _⟩)
      rw [littleEndian_eq_or]
      exact setPadding_written s .irPre _
  | prdyTimeout =>
      refine iff_of_true (withOperand_writes_iff.mpr fun _ => ?_) (by rintro ⟨⟨⟩, _⟩)
      exact prdyTimeout_written s _

/-- The two bytes of an `IR_PREFIX`. -/
theorem write_cfg_settings_ir :
    let p : PacketData := ⟨fun i => [0x04, 0xD0, 0x07].getD i 0, 1, 1, 3⟩
    WritesSetting .irPrefix (shiftingSession .software) p
      (writeCfg answeringIo (shiftingSession .software) p .irPrefix) :=
  (write_cfg_settings answeringIo (fun _ _ => rfl) .irPrefix _ _).mpr (by rintro ⟨⟨⟩, _⟩)

/-- Prescale 1 and divisor 32 are asked for, and 2 and 64 are set. -/
theorem write_cfg_misreads :
    let p : PacketData := ⟨fun i => [0x01, 0x20].getD i 0, 1, 1, 2⟩
    let result := writeCfg answeringIo (shiftingSession .software) p .jtagFreq
    (tckDivider 0x20 = 32 ∧ result.1.setting .tck = some (apbFreq / 128)) ∧
      ¬ WritesSetting .jtagFreq (shiftingSession .software) p result := by
  intro p result
  refine ⟨by decide, fun h => ?_⟩
  have hset := ((h.complete (by decide)).2.accepted True.intro).2
  exact absurd hset (by decide)

end Documented

end AtScaleDebug
