import Mathlib.Data.Nat.Digits.Defs
import Mathlib.Logic.Function.Basic
import AtScaleDebug.Lib.ByteBuffer

/-!
Bytes as a number, the least significant byte first, how the number changes with the
first and the last byte, and its digits to the base 16.
-/

namespace AtScaleDebug.LittleEndian

open ByteBuffer

def value (bytes : List UInt8) : Nat := Nat.ofDigits 256 (bytes.map UInt8.toNat)

@[simp] theorem value_nil : value [] = 0 := rfl

theorem value_cons (b : UInt8) (bytes : List UInt8) :
    value (b :: bytes) = b.toNat + 256 * value bytes := by
  rw [value, List.map_cons, Nat.ofDigits_cons, value]

theorem value_replicate_zero (n : Nat) : value (List.replicate n 0) = 0 := by
  rw [value, List.map_replicate]
  exact Nat.ofDigits_replicate_zero

theorem value_append (bytes more : List UInt8) :
    value (bytes ++ more) = value bytes + 256 ^ bytes.length * value more := by
  rw [value, List.map_append, Nat.ofDigits_append, List.length_map, value, value]

theorem value_lt (bytes : List UInt8) : value bytes < 256 ^ bytes.length := by
  have hlt : ∀ digit ∈ bytes.map UInt8.toNat, digit < 256 := by
    intro digit hdigit
    obtain ⟨b, -, rfl⟩ := List.mem_map.mp hdigit
    exact b.toNat_lt
  have hpow := Nat.ofDigits_lt_base_pow_length (by decide) hlt
  rwa [List.length_map] at hpow

/-- The digits of a byte to the base 16, the lower one first. -/
def nibbles (byte : Nat) : List Nat := [byte % 16, byte / 16]

theorem length_flatMap_nibbles (bytes : List Nat) :
    (bytes.flatMap nibbles).length = 2 * bytes.length := by
  induction bytes with
  | nil => rfl
  | cons byte bytes ih =>
      rw [List.flatMap_cons, List.length_append, ih, List.length_cons]
      exact Nat.add_comm 2 _

theorem ofDigits_nibbles (bytes : List Nat) :
    Nat.ofDigits 16 (bytes.flatMap nibbles) = Nat.ofDigits 256 bytes := by
  induction bytes with
  | nil => rfl
  | cons byte bytes ih =>
      rw [List.flatMap_cons, nibbles, List.cons_append, List.singleton_append, Nat.ofDigits_cons,
        Nat.ofDigits_cons, ih, Nat.ofDigits_cons]
      omega

/-- The digits that have room: all, or all but a leading zero. -/
theorem ofDigits_take_nibbles {bytes : List Nat} {last total : Nat}
    (h : total = 2 * (bytes.length + 1) ∨ total = 2 * bytes.length + 1 ∧ last / 16 = 0) :
    (((bytes ++ [last]).flatMap nibbles).take total).length = total ∧
      Nat.ofDigits 16 (((bytes ++ [last]).flatMap nibbles).take total) =
        Nat.ofDigits 256 (bytes ++ [last]) := by
  have hlength := length_flatMap_nibbles (bytes ++ [last])
  rw [List.length_append, List.length_singleton] at hlength
  rw [List.length_take, hlength, ← ofDigits_nibbles]
  rcases h with rfl | ⟨rfl, hzero⟩
  · rw [List.take_of_length_le (Nat.le_of_eq hlength)]
    exact ⟨Nat.min_self _, rfl⟩
  · refine ⟨by omega, ?_⟩
    have hfront : (bytes.flatMap nibbles ++ [last % 16]).length = 2 * bytes.length + 1 := by
      rw [List.length_append, length_flatMap_nibbles, List.length_singleton]
    have hall : (bytes ++ [last]).flatMap nibbles =
        bytes.flatMap nibbles ++ [last % 16] ++ [0] := by
      rw [List.flatMap_append, List.flatMap_singleton, nibbles, hzero, List.append_assoc]
      rfl
    rw [hall, List.take_left' hfront, Nat.ofDigits_append_zero]

theorem nibbles_lt {bytes : List Nat} (h : ∀ byte ∈ bytes, byte < 256) :
    ∀ digit ∈ bytes.flatMap nibbles, digit < 16 := by
  intro digit hdigit
  obtain ⟨byte, hbyte, hmem⟩ := List.mem_flatMap.mp hdigit
  have hlt := h byte hbyte
  rw [nibbles, List.mem_cons, List.mem_singleton] at hmem
  omega

section Memory
variable (buf : Nat → UInt8)

theorem value_slice_lt (off n : Nat) : value (slice buf off n) < 256 ^ n := by
  have hlt := value_lt (slice buf off n)
  rwa [length_slice] at hlt

theorem value_slice_succ (off n : Nat) :
    value (slice buf off (n + 1)) = value (slice buf off n) + 256 ^ n * (buf (off + n)).toNat := by
  have hlast : value (slice buf (off + n) 1) = (buf (off + n)).toNat := value_cons _ []
  rw [slice_add, value_append, length_slice, hlast]

theorem value_slice_front (off n : Nat) :
    value (slice buf off (n + 1)) = (buf off).toNat + 256 * value (slice buf (off + 1) n) := by
  rw [Nat.add_comm n 1, slice_add, ← value_cons]
  rfl

/-- A byte that is put in front of a number whose first byte is free. -/
theorem value_update_front {n : Nat} (b : UInt8) (hpos : 0 < n)
    (hfree : value (slice buf 0 n) % 256 = 0) :
    value (slice (Function.update buf 0 b) 0 n) = value (slice buf 0 n) + b.toNat := by
  obtain ⟨m, rfl⟩ := Nat.exists_eq_add_one_of_ne_zero (Nat.ne_of_gt hpos)
  have hrest : slice (Function.update buf 0 b) 1 m = slice buf 1 m :=
    slice_congr fun i hi _ => Function.update_of_ne (Nat.ne_of_gt hi) _ _
  have hlt := (buf 0).toNat_lt
  rw [value_slice_front] at hfree
  rw [value_slice_front, value_slice_front, Function.update_self, Nat.zero_add, hrest]
  omega

/-- The number modulo a number that only cuts the last byte. -/
theorem value_slice_mod (off n m : Nat) :
    value (slice buf off (n + 1)) % (256 ^ n * m) =
      value (slice buf off n) + 256 ^ n * ((buf (off + n)).toNat % m) := by
  have hlt := value_slice_lt buf off n
  have hpos : 0 < 256 ^ n := Nat.pow_pos (by decide)
  rw [Nat.mod_mul, value_slice_succ, Nat.add_mul_mod_self_left, Nat.mod_eq_of_lt hlt,
    Nat.add_mul_div_left _ _ hpos, Nat.div_eq_of_lt hlt, Nat.zero_add]

end Memory

end AtScaleDebug.LittleEndian
