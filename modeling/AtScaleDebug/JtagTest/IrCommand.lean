import Mathlib.Algebra.BigOperators.Ring.Finset
import Mathlib.Data.Nat.Bitwise
import Mathlib.Tactic.Ring
import AtScaleDebug.Lib.LittleEndian
import AtScaleDebug.Lib.Machine

/-!
The IR command of the JTAG test. `jtag_test` puts the instruction of every uncore at the
front of a buffer, after it has shifted what is there by the width of an instruction
register, one bit at a time. Only the bytes the command needs are cleared before.
-/

namespace AtScaleDebug

open ByteBuffer LittleEndian

def maxTdoSize : Nat := 2048

structure ShiftState where
  buffer : Nat → UInt8
  carry : UInt8

/-- One round of the loop of `shift_left`. -/
def ShiftState.byte (s : ShiftState) (i : Nat) : ShiftState :=
  let next : UInt8 := if s.buffer i &&& 0x80 ≠ 0 then 1 else 0
  ⟨Function.update s.buffer i (s.buffer i <<< 1 ||| s.carry), next⟩

@[simp] theorem ShiftState.byte_buffer (s : ShiftState) (i : Nat) :
    (s.byte i).buffer = Function.update s.buffer i (s.buffer i <<< 1 ||| s.carry) := rfl

@[simp] theorem ShiftState.byte_carry (s : ShiftState) (i : Nat) :
    (s.byte i).carry = if s.buffer i &&& 0x80 ≠ 0 then 1 else 0 := rfl

def shiftLeft (bufferSize : Nat) (buffer : Nat → UInt8) : Nat → UInt8 :=
  (Machine.run ShiftState.byte ⟨buffer, 0⟩ (List.range bufferSize)).buffer

section Code
variable (numUncores irShiftSize irValue : UInt32)

def irSize : Nat := ((numUncores * irShiftSize + 7) / 8).toNat

/-- What is done for one uncore. -/
def addUncore (command : Nat → UInt8) : Nat → UInt8 :=
  Function.update ((shiftLeft (irSize numUncores irShiftSize))^[irShiftSize.toNat] command) 0
    irValue.toUInt8

/-- `ir_command` behind the loop over the uncores, from what the array holds at first. -/
def irCommand (array : Nat → UInt8) : Nat → UInt8 :=
  (addUncore numUncores irShiftSize irValue)^[numUncores.toNat]
    (blit array 0 (List.replicate (irSize numUncores irShiftSize) 0))

end Code

section ShiftLeft

/-- Shifting a byte loses its top bit to the carry. -/
theorem shiftByte_value {b carry : UInt8} (h : carry.toNat < 2) :
    (b <<< 1 ||| carry).toNat + 256 * (if b &&& 0x80 ≠ 0 then (1 : UInt8) else 0).toNat =
      2 * b.toNat + carry.toNat := by
  have hall : ∀ n < 256, ∀ c < 2, (UInt8.ofNat n <<< 1 ||| .ofNat c).toNat +
      256 * (if UInt8.ofNat n &&& 0x80 ≠ 0 then (1 : UInt8) else 0).toNat = 2 * n + c := by
    decide +kernel
  have hbyte := hall b.toNat b.toNat_lt carry.toNat h
  rwa [UInt8.ofNat_toNat, UInt8.ofNat_toNat] at hbyte

/-- After the bytes before `size` have been shifted. -/
structure ShiftState.Shifted (buffer : Nat → UInt8) (size : Nat) (s : ShiftState) : Prop where
  doubled : value (slice s.buffer 0 size) + 256 ^ size * s.carry.toNat =
    2 * value (slice buffer 0 size)
  carry : s.carry.toNat < 2
  rest : ∀ i, size ≤ i → s.buffer i = buffer i

theorem ShiftState.Shifted.byte {buffer : Nat → UInt8} {size : Nat} {s : ShiftState}
    (h : s.Shifted buffer size) : (s.byte size).Shifted buffer (size + 1) where
  doubled := by
    have hfront : slice (s.byte size).buffer 0 size = slice s.buffer 0 size :=
      slice_congr fun i _ hi => Function.update_of_ne (by omega) _ _
    have hbyte := shiftByte_value (b := s.buffer size) h.carry
    rw [← byte_carry] at hbyte
    rw [value_slice_succ, value_slice_succ, hfront, Nat.zero_add, byte_buffer,
      Function.update_self, Nat.mul_add, ← h.doubled]
    calc value (slice s.buffer 0 size) +
          256 ^ size * (s.buffer size <<< 1 ||| s.carry).toNat +
          256 ^ (size + 1) * (s.byte size).carry.toNat
      _ = value (slice s.buffer 0 size) + 256 ^ size *
          ((s.buffer size <<< 1 ||| s.carry).toNat + 256 * (s.byte size).carry.toNat) := by ring
      _ = value (slice s.buffer 0 size) + 256 ^ size * s.carry.toNat +
          2 * (256 ^ size * (buffer size).toNat) := by
            rw [hbyte, h.rest size (Nat.le_refl size)]
            ring
  carry := by
    rw [byte_carry]
    split
    · exact Nat.one_lt_two
    · exact Nat.two_pos
  rest i hi := by
    rw [byte_buffer, Function.update_of_ne (by omega)]
    exact h.rest i (by omega)

theorem shifted_run (buffer : Nat → UInt8) (size : Nat) :
    (Machine.run ShiftState.byte ⟨buffer, 0⟩ (List.range size)).Shifted buffer size := by
  induction size with
  | zero => exact ⟨rfl, Nat.two_pos, fun _ _ => rfl⟩
  | succ size ih =>
      rw [List.range_succ, Machine.run_append]
      exact ih.byte

/-- `shift_left` leaves what is behind its bytes. -/
theorem shiftLeft_behind (buffer : Nat → UInt8) {size i : Nat} (h : size ≤ i) :
    shiftLeft size buffer i = buffer i :=
  (shifted_run buffer size).rest i h

/-- `shift_left` doubles the number, as far as it fits. -/
theorem value_shiftLeft (size : Nat) (buffer : Nat → UInt8) :
    value (slice (shiftLeft size buffer) 0 size) =
      2 * value (slice buffer 0 size) % 2 ^ (8 * size) := by
  have hvalue := (shifted_run buffer size).doubled
  have hlt := value_slice_lt (shiftLeft size buffer) 0 size
  have hpow : 2 ^ (8 * size) = 256 ^ size := Nat.pow_mul 2 8 size
  rw [hpow, ← hvalue, Nat.add_mul_mod_self_left]
  exact (Nat.mod_eq_of_lt hlt).symm

theorem value_shiftLeft_iterate (size count : Nat) (buffer : Nat → UInt8) :
    value (slice ((shiftLeft size)^[count] buffer) 0 size) =
      2 ^ count * value (slice buffer 0 size) % 2 ^ (8 * size) := by
  induction count with
  | zero =>
      have hlt := value_slice_lt buffer 0 size
      have hpow : 2 ^ (8 * size) = 256 ^ size := Nat.pow_mul 2 8 size
      rw [Nat.pow_zero, Nat.one_mul, hpow, Nat.mod_eq_of_lt hlt]
      rfl
  | succ count ih =>
      rw [Function.iterate_succ_apply', value_shiftLeft, ih, Nat.mul_mod_mod, ← Nat.mul_assoc,
        Nat.pow_succ']

theorem shiftLeft_iterate_behind (buffer : Nat → UInt8) {size i : Nat} (h : size ≤ i)
    (count : Nat) : (shiftLeft size)^[count] buffer i = buffer i := by
  induction count with
  | zero => rfl
  | succ count ih => rw [Function.iterate_succ_apply', shiftLeft_behind _ h, ih]

end ShiftLeft

section Uncores
variable {numUncores irShiftSize : UInt32} (irValue : UInt32) {command : Nat → UInt8}

/-- Where nothing is lost at the top, the instruction is put before the ones that are
there: the shift leaves a zero in its place. -/
theorem value_addUncore {taken : Nat} (hshift : 8 ≤ irShiftSize.toNat)
    (htaken : value (slice command 0 (irSize numUncores irShiftSize)) < 2 ^ taken)
    (hroom : taken + irShiftSize.toNat ≤ 8 * irSize numUncores irShiftSize) :
    value (slice (addUncore numUncores irShiftSize irValue command) 0
        (irSize numUncores irShiftSize)) =
      2 ^ irShiftSize.toNat * value (slice command 0 (irSize numUncores irShiftSize)) +
        irValue.toUInt8.toNat := by
  have hlt : 2 ^ irShiftSize.toNat * value (slice command 0 (irSize numUncores irShiftSize)) <
      2 ^ (8 * irSize numUncores irShiftSize) :=
    calc 2 ^ irShiftSize.toNat * value (slice command 0 (irSize numUncores irShiftSize))
      _ < 2 ^ irShiftSize.toNat * 2 ^ taken := Nat.mul_lt_mul_of_pos_left htaken (Nat.two_pow_pos _)
      _ = 2 ^ (taken + irShiftSize.toNat) := by rw [Nat.pow_add, Nat.mul_comm]
      _ ≤ 2 ^ (8 * irSize numUncores irShiftSize) := Nat.pow_le_pow_right Nat.two_pos hroom
  have hshifted := value_shiftLeft_iterate (irSize numUncores irShiftSize) irShiftSize.toNat command
  rw [Nat.mod_eq_of_lt hlt] at hshifted
  have hbyte : 2 ^ 8 ∣ 2 ^ irShiftSize.toNat := Nat.pow_dvd_pow 2 hshift
  rw [addUncore, value_update_front _ _ (by omega), hshifted]
  rw [hshifted]
  exact Nat.mod_eq_zero_of_dvd (hbyte.mul_right _)

/-- The instructions so far take as many bits as the registers have. -/
theorem value_uncores {array : Nat → UInt8} {count : Nat} (hshift : 8 ≤ irShiftSize.toNat)
    (hroom : count * irShiftSize.toNat ≤ 8 * irSize numUncores irShiftSize)
    (hclear : value (slice array 0 (irSize numUncores irShiftSize)) = 0) :
    value (slice ((addUncore numUncores irShiftSize irValue)^[count] array) 0
        (irSize numUncores irShiftSize)) =
      ∑ k ∈ Finset.range count, irValue.toUInt8.toNat * 2 ^ (k * irShiftSize.toNat) ∧
    value (slice ((addUncore numUncores irShiftSize irValue)^[count] array) 0
        (irSize numUncores irShiftSize)) < 2 ^ (count * irShiftSize.toNat) := by
  induction count with
  | zero =>
      rw [Function.iterate_zero_apply, hclear]
      exact ⟨rfl, Nat.two_pow_pos _⟩
  | succ count ih =>
      rw [Nat.add_one_mul] at hroom
      obtain ⟨hsum, hlt⟩ := ih (by omega)
      have hnext := value_addUncore irValue hshift hlt hroom
      rw [Function.iterate_succ_apply', hnext, Nat.add_one_mul]
      constructor
      · rw [hsum, Finset.sum_range_succ', Finset.mul_sum, Nat.zero_mul, Nat.pow_zero, Nat.mul_one]
        congr 1
        refine Finset.sum_congr rfl fun k _ => ?_
        rw [Nat.add_one_mul, Nat.pow_add, Nat.mul_comm, Nat.mul_assoc]
      · have hbyte : irValue.toUInt8.toNat < 2 ^ irShiftSize.toNat :=
          Nat.lt_of_lt_of_le irValue.toUInt8.toNat_lt (Nat.pow_le_pow_right Nat.two_pos hshift)
        rw [Nat.pow_add, Nat.mul_comm (2 ^ (count * irShiftSize.toNat))]
        have hmul := Nat.mul_le_mul_left (2 ^ irShiftSize.toNat) (Nat.succ_le_of_lt hlt)
        rw [Nat.mul_succ] at hmul
        omega

theorem irSize_eq (hfits : (numUncores.toNat * irShiftSize.toNat + 7) / 8 ≤ maxTdoSize) :
    irSize numUncores irShiftSize = (numUncores.toNat * irShiftSize.toNat + 7) / 8 := by
  have hseven : UInt32.toNat 7 = 7 := rfl
  have height : UInt32.toNat 8 = 8 := rfl
  rw [maxTdoSize] at hfits
  rw [irSize, UInt32.toNat_div, UInt32.toNat_add, UInt32.toNat_mul, hseven, height,
    Nat.mod_eq_of_lt (by omega), Nat.mod_eq_of_lt (by omega)]

/-- The bytes of the array behind the command keep what they held. -/
theorem irCommand_behind (array : Nat → UInt8) {i : Nat} (hsize : 0 < irSize numUncores irShiftSize)
    (h : irSize numUncores irShiftSize ≤ i) :
    irCommand numUncores irShiftSize irValue array i = array i := by
  have hcount (count : Nat) (buffer : Nat → UInt8) :
      (addUncore numUncores irShiftSize irValue)^[count] buffer i = buffer i := by
    induction count with
    | zero => rfl
    | succ count ih =>
        rw [Function.iterate_succ_apply', addUncore, Function.update_of_ne (by omega),
          shiftLeft_iterate_behind _ h, ih]
  rw [irCommand, hcount, blit, if_pos (Nat.zero_le i), List.getElem?_eq_none]
  · rfl
  · rwa [List.length_replicate]

end Uncores

/-- Every `shift_left` doubles its number as far as it fits, and the command is the sum of
the instructions, each at its place in the chain. -/
theorem ir_command_value (numUncores irShiftSize irValue : UInt32) (array : Nat → UInt8)
    (hshift : 8 ≤ irShiftSize.toNat)
    (hfits : (numUncores.toNat * irShiftSize.toNat + 7) / 8 ≤ maxTdoSize)
    (hvalue : irValue.toNat < 2 ^ 8) :
    (∀ size buffer, value (slice (shiftLeft size buffer) 0 size) =
      2 * value (slice buffer 0 size) % 2 ^ (8 * size)) ∧
    value (slice (irCommand numUncores irShiftSize irValue array) 0
        ((numUncores.toNat * irShiftSize.toNat + 7) / 8)) =
      ∑ k ∈ Finset.range numUncores.toNat, irValue.toNat * 2 ^ (k * irShiftSize.toNat) := by
  have hsize := irSize_eq hfits
  have hbyte : irValue.toUInt8.toNat = irValue.toNat := by
    rw [UInt32.toNat_toUInt8, Nat.mod_eq_of_lt hvalue]
  have hclear : value (slice (blit array 0 (List.replicate (irSize numUncores irShiftSize) 0)) 0
      (irSize numUncores irShiftSize)) = 0 := by
    have hblit := slice_blit array 0 (List.replicate (irSize numUncores irShiftSize) 0)
    rw [List.length_replicate] at hblit
    rw [hblit, value_replicate_zero]
  have hroom : numUncores.toNat * irShiftSize.toNat ≤ 8 * irSize numUncores irShiftSize := by omega
  have hsum := value_uncores irValue hshift hroom hclear
  rw [← hsize, ← hbyte]
  exact ⟨value_shiftLeft, hsum.1⟩

/-- Two instruction registers of eleven bits. -/
theorem ir_command_value_two :
    let command := irCommand 2 11 2 fun _ => 0xFF
    (∀ size buffer, value (slice (shiftLeft size buffer) 0 size) =
      2 * value (slice buffer 0 size) % 2 ^ (8 * size)) ∧
    value (slice command 0 3) = ∑ k ∈ Finset.range 2, 2 * 2 ^ (k * 11) ∧
    slice command 0 4 = [0x02, 0x10, 0x00, 0xFF] := by
  intro command
  have hsum := ir_command_value 2 11 2 (fun _ => 0xFF) (by decide) (by decide) (by decide)
  exact ⟨hsum.1, hsum.2, by decide +kernel⟩

end AtScaleDebug
