import Mathlib.Logic.Function.Basic
import AtScaleDebug.Lib.CString
import AtScaleDebug.Lib.LittleEndian
import AtScaleDebug.Lib.Machine

/-!
The hexadecimal text of a shift in the log: `buffer_to_hex`. It goes through the bytes from
the least significant one on and through the text backwards. The index may leave the text
at its front, so it is an integer, and so are the places of `result`.
-/

namespace AtScaleDebug

open ByteBuffer CString LittleEndian

/-- `itoh`. -/
def itoh (digit : Nat) : UInt8 := (asciiBytes "0123456789abcdef").getD digit 0

/-- The index, the memory around `result` and where it was written. -/
structure HexState where
  resultIndex : Int
  result : Int → UInt8
  written : List Int

/-- `result[result_index--] = c`. -/
def HexState.store (s : HexState) (c : UInt8) : HexState where
  resultIndex := s.resultIndex - 1
  result := Function.update s.result s.resultIndex c
  written := s.written ++ [s.resultIndex]

@[simp] theorem HexState.store_resultIndex (s : HexState) (c : UInt8) :
    (s.store c).resultIndex = s.resultIndex - 1 := rfl

@[simp] theorem HexState.store_result (s : HexState) (c : UInt8) :
    (s.store c).result = Function.update s.result s.resultIndex c := rfl

@[simp] theorem HexState.store_written (s : HexState) (c : UInt8) :
    (s.store c).written = s.written ++ [s.resultIndex] := rfl

section Code
variable (numberOfBits numberOfBytes : UInt32) (buffer : Nat → UInt8)

def lastBitMask : Nat := 0xFF >>> (8 - (numberOfBits % 8).toNat)

def hexStart : Int :=
  let resultIndex := (numberOfBytes * 2 - 1).toInt32.toInt
  if numberOfBytes > 0 ∧ lastBitMask numberOfBits ≠ 0 ∧
      ((buffer (numberOfBytes.toNat - 1)).toNat &&& lastBitMask numberOfBits) >>> 4 = 0 then
    resultIndex - 1
  else resultIndex

/-- The mask of a byte; the excess bits of the last one are cut off. -/
def hexMask (i : Nat) : Nat :=
  if i + 1 = numberOfBytes.toNat ∧ numberOfBits % 8 ≠ 0 then lastBitMask numberOfBits else 0xFF

def maskedByte (i : Nat) : Nat := (buffer i).toNat &&& hexMask numberOfBits numberOfBytes i

/-- One round of the loop. -/
def HexState.byte (s : HexState) (i : Nat) : HexState :=
  let masked := maskedByte numberOfBits numberOfBytes buffer i
  let s := s.store (itoh (masked &&& 0xF))
  if s.resultIndex ≥ 0 then s.store (itoh (masked >>> 4)) else s

def bufferToHex (result : Int → UInt8) : HexState :=
  Machine.run (HexState.byte numberOfBits numberOfBytes buffer)
    ⟨hexStart numberOfBits numberOfBytes buffer, result, []⟩ (List.range numberOfBytes.toNat)

/-- `ASD_log_shift`, where the line is logged: the number of bits and the text that it
shows. -/
def asdLogShift (sizeBytes : UInt32) : Option (UInt32 × List UInt8) :=
  if sizeBytes = 0 ∨ numberOfBits = 0 then none
  else
    let numberOfBytes := (numberOfBits + 7) / 8
    let (numberOfBits, numberOfBytes) :=
      if numberOfBytes > sizeBytes then (sizeBytes * 8, sizeBytes)
      else (numberOfBits, numberOfBytes)
    let result := (bufferToHex numberOfBits numberOfBytes buffer fun _ => 0).result
    some (numberOfBits,
      ((List.range (2 * sizeBytes.toNat + 1)).map fun k : Nat => result k).takeWhile (· ≠ 0))

end Code

section Spec

def hexDigit (c : UInt8) : Option Nat :=
  if isdigit c then some (c.toNat - 0x30)
  else if 0x61 ≤ c ∧ c ≤ 0x66 then some (c.toNat - 0x61 + 10)
  else none

/-- The number that a text of hexadecimal digits is. -/
def hexNumber (text : List UInt8) : Option Nat :=
  text.foldlM (fun n c => (hexDigit c).map (16 * n + ·)) 0

/-- What a bit count and a buffer are rendered as. The text is as long as it takes, or one
digit shorter where the value leaves that one zero. -/
structure RendersHex (bits bytes : Nat) (buffer : Nat → UInt8) (before : Int → UInt8)
    (s : HexState) : Prop where
  inside : ∀ k ∈ s.written, 0 ≤ k ∧ k ≤ 2 * bytes - 1
  frame : ∀ k, k ∉ s.written → s.result k = before k
  text : ∃ n, s.written.reverse = (List.range n).map Int.ofNat ∧
    hexNumber ((List.range n).map fun k : Nat => s.result k) =
      some (value (slice buffer 0 bytes) % 2 ^ bits) ∧
    (n = 2 * bytes ∨ n + 1 = 2 * bytes ∧ value (slice buffer 0 bytes) % 2 ^ bits < 16 ^ n)

end Spec

section Text

theorem hexDigit_itoh : ∀ digit < 16, hexDigit (itoh digit) = some digit := by decide

theorem hexNumber_concat (text : List UInt8) (c : UInt8) :
    hexNumber (text ++ [c]) =
      (hexNumber text).bind fun n => (hexDigit c).map (16 * n + ·) := by
  rw [hexNumber, List.foldlM_append]
  refine congrArg (Option.bind _) (funext fun n => ?_)
  rw [List.foldlM_cons]
  cases hexDigit c with
  | none => rfl
  | some digit => rfl

/-- Digits that are written from the last one on are read as their number. -/
theorem hexNumber_reverse {digits : List Nat} (h : ∀ digit ∈ digits, digit < 16) :
    hexNumber (digits.map itoh).reverse = some (Nat.ofDigits 16 digits) := by
  induction digits with
  | nil => rfl
  | cons digit digits ih =>
      rw [List.forall_mem_cons] at h
      rw [List.map_cons, List.reverse_cons, hexNumber_concat, ih h.2, Option.bind_some,
        hexDigit_itoh digit h.1, Option.map_some, Nat.ofDigits_cons, Nat.add_comm]

end Text

section Stored

/-- The characters stored so far, from the index `top` down. -/
structure HexState.Stored (top : Int) (before : Int → UInt8) (text : List UInt8)
    (s : HexState) : Prop where
  index : s.resultIndex = top - text.length
  written : s.written = (List.range text.length).map fun k : Nat => top - k
  holds : ∀ (k : Nat) c, text[k]? = some c → s.result (top - k) = c
  frame : ∀ k, k ∉ s.written → s.result k = before k

variable {top : Int} {before : Int → UInt8} {text : List UInt8} {s : HexState}

theorem HexState.Stored.store (h : s.Stored top before text) (c : UInt8) :
    (s.store c).Stored top before (text ++ [c]) where
  index := by
    rw [store_resultIndex, h.index, List.length_append, List.length_singleton]
    omega
  written := by
    rw [store_written, h.written, h.index, List.length_append, List.length_singleton,
      List.range_succ, List.map_append, List.map_singleton]
  holds k d hd := by
    rw [store_result, h.index]
    rcases Nat.lt_trichotomy k text.length with hlt | rfl | hgt
    · rw [List.getElem?_append_left hlt] at hd
      rw [Function.update_of_ne (by omega)]
      exact h.holds k d hd
    · rw [List.getElem?_concat_length] at hd
      cases hd
      exact Function.update_self _ _ _
    · rw [List.getElem?_append_right (Nat.le_of_lt hgt), List.getElem?_eq_none] at hd
      · cases hd
      · rw [List.length_singleton]
        omega
  frame k hk := by
    rw [store_written, List.mem_append, not_or, List.mem_singleton] at hk
    rw [store_result, Function.update_of_ne hk.2]
    exact h.frame k hk.1

/-- A text that has come to the front was written without gaps. -/
theorem HexState.Stored.written_reverse (h : s.Stored (text.length - 1) before text) :
    s.written.reverse = (List.range text.length).map Int.ofNat := by
  rw [h.written]
  apply List.ext_getElem
  · rw [List.length_reverse, List.length_map, List.length_map]
  · intro k hk _
    rw [List.length_reverse, List.length_map, List.length_range] at hk
    simp only [List.getElem_reverse, List.getElem_map, List.getElem_range, List.length_map,
      List.length_range, Int.ofNat_eq_natCast]
    omega

theorem HexState.Stored.text_eq (h : s.Stored (text.length - 1) before text) :
    ((List.range text.length).map fun k : Nat => s.result k) = text.reverse := by
  apply List.ext_getElem
  · rw [List.length_map, List.length_range, List.length_reverse]
  · intro k hk _
    rw [List.length_map, List.length_range] at hk
    rw [List.getElem_map, List.getElem_range, List.getElem_reverse,
      ← h.holds (text.length - 1 - k) _ (List.getElem?_eq_getElem (by omega))]
    congr 1
    omega

variable (numberOfBits numberOfBytes : UInt32) (buffer : Nat → UInt8)

theorem HexState.Stored.byte (h : s.Stored top before text) (i : Nat) :
    (s.byte numberOfBits numberOfBytes buffer i).Stored top before
      (text ++ ((nibbles (maskedByte numberOfBits numberOfBytes buffer i)).take
        (if s.resultIndex ≥ 1 then 2 else 1)).map itoh) := by
  have hlow (n : Nat) : n &&& 0xF = n % 16 := Nat.and_two_pow_sub_one_eq_mod n 4
  have hhigh (n : Nat) : n >>> 4 = n / 16 := Nat.shiftRight_eq_div_pow n 4
  have hfirst := h.store (itoh (maskedByte numberOfBits numberOfBytes buffer i % 16))
  simp only [HexState.byte, hlow, hhigh, store_resultIndex]
  by_cases hroom : s.resultIndex ≥ 1
  · rw [if_pos (show s.resultIndex - 1 ≥ 0 by omega), if_pos hroom]
    have hsecond := hfirst.store (itoh (maskedByte numberOfBits numberOfBytes buffer i / 16))
    rwa [List.append_assoc] at hsecond
  · rw [if_neg (show ¬ s.resultIndex - 1 ≥ 0 by omega), if_neg hroom]
    exact hfirst

/-- The digits of the bytes, as many as there is room for. -/
theorem HexState.Stored.loop {total : Nat} (bytes : Nat) (h : s.Stored (total - 1) before [])
    (hroom : 2 * bytes ≤ total + 1) :
    (Machine.run (HexState.byte numberOfBits numberOfBytes buffer) s (List.range bytes)).Stored
      (total - 1) before
      (((((List.range bytes).map (maskedByte numberOfBits numberOfBytes buffer)).flatMap
        nibbles).take total).map itoh) := by
  induction bytes with
  | zero =>
      rw [List.range_zero, List.map_nil, List.flatMap_nil, List.take_nil]
      exact h
  | succ bytes ih =>
      have hbefore := ih (by omega)
      have hlength := length_flatMap_nibbles
        ((List.range bytes).map (maskedByte numberOfBits numberOfBytes buffer))
      rw [List.length_map, List.length_range] at hlength
      rw [List.take_of_length_le (by omega)] at hbefore
      have hindex := hbefore.index
      rw [List.length_map, hlength] at hindex
      rw [List.range_succ, Machine.run_append, Machine.run_cons, Machine.run_nil, List.map_append,
        List.map_singleton, List.flatMap_append, List.flatMap_singleton, List.take_append,
        hlength, List.take_of_length_le (by omega), List.map_append]
      have hafter := hbefore.byte numberOfBits numberOfBytes buffer bytes
      -- the last digit of the last byte may have no room
      split at hafter
      · next hge =>
          have hall : (nibbles (maskedByte numberOfBits numberOfBytes buffer bytes)).length ≤
              total - 2 * bytes := show 2 ≤ total - 2 * bytes by omega
          rw [List.take_of_length_le (Nat.le_refl 2)] at hafter
          rwa [List.take_of_length_le hall]
      · next hlt =>
          have hone : total - 2 * bytes = 1 := by omega
          rwa [hone]

end Stored

section Masks
variable {numberOfBits numberOfBytes : UInt32} (buffer : Nat → UInt8) {i : Nat}

/-- How many bits of the last byte belong to the shift. -/
def lastBits (bits : Nat) : Nat := (bits - 1) % 8 + 1

theorem lastBitMask_eq : lastBitMask numberOfBits = 2 ^ (numberOfBits.toNat % 8) - 1 := by
  have hmask : ∀ r < 8, 0xFF >>> (8 - r) = 2 ^ r - 1 := by decide
  rw [lastBitMask, UInt32.toNat_mod]
  exact hmask _ (Nat.mod_lt _ (by decide))

theorem mod_eight_ne_zero_iff : numberOfBits % 8 ≠ 0 ↔ numberOfBits.toNat % 8 ≠ 0 := by
  have hzero := (UInt32.toNat_inj (a := numberOfBits % 8) (b := 0)).not
  rw [UInt32.toNat_mod] at hzero
  exact hzero.symm

theorem maskedByte_inner (h : i + 1 ≠ numberOfBytes.toNat) :
    maskedByte numberOfBits numberOfBytes buffer i = (buffer i).toNat := by
  rw [maskedByte, hexMask, if_neg fun hlast => h hlast.1]
  exact (Nat.and_two_pow_sub_one_eq_mod _ 8).trans (Nat.mod_eq_of_lt (buffer i).toNat_lt)

theorem maskedByte_last (h : i + 1 = numberOfBytes.toNat) (hpos : 0 < numberOfBits.toNat) :
    maskedByte numberOfBits numberOfBytes buffer i =
      (buffer i).toNat % 2 ^ lastBits numberOfBits.toNat := by
  rw [maskedByte, hexMask, lastBits]
  by_cases hexcess : numberOfBits % 8 ≠ 0
  · have hmod := mod_eight_ne_zero_iff.mp hexcess
    have hbits : (numberOfBits.toNat - 1) % 8 + 1 = numberOfBits.toNat % 8 := by omega
    rw [if_pos ⟨h, hexcess⟩, lastBitMask_eq, hbits, Nat.and_two_pow_sub_one_eq_mod]
  · have hmod := mod_eight_ne_zero_iff.not.mp hexcess
    have hbits : (numberOfBits.toNat - 1) % 8 + 1 = 8 := by omega
    rw [if_neg fun hlast => hexcess hlast.2, hbits]
    exact Nat.and_two_pow_sub_one_eq_mod _ 8

/-- The bytes without the excess bits are the number modulo the bits of the shift. -/
theorem value_maskedBytes {m : Nat} (hbytes : m + 1 = numberOfBytes.toNat)
    (hbits : numberOfBits.toNat = 8 * m + lastBits numberOfBits.toNat) :
    Nat.ofDigits 256 ((List.range (m + 1)).map (maskedByte numberOfBits numberOfBytes buffer)) =
      value (slice buffer 0 (m + 1)) % 2 ^ numberOfBits.toNat := by
  have hpos : 0 < numberOfBits.toNat := by
    rw [hbits]
    exact Nat.succ_pos _
  have hinner : (List.range m).map (maskedByte numberOfBits numberOfBytes buffer) =
      (slice buffer 0 m).map UInt8.toNat := by
    rw [slice, List.map_map]
    refine List.map_congr_left fun i hi => ?_
    have hlt := List.mem_range.mp hi
    rw [maskedByte_inner buffer (by omega), Function.comp_apply, Nat.zero_add]
  have hpow : 2 ^ numberOfBits.toNat = 256 ^ m * 2 ^ lastBits numberOfBits.toNat := by
    conv_lhs => rw [hbits, Nat.pow_add, Nat.pow_mul]
  rw [hpow, value_slice_mod, List.range_succ, List.map_append, List.map_singleton,
    Nat.ofDigits_append, hinner, List.length_map, length_slice, Nat.ofDigits_singleton,
    maskedByte_last buffer hbytes hpos, Nat.zero_add]
  rfl

/-- The index of the last place in two digits for each byte. -/
theorem lastIndex_eq {m : Nat} (hbytes : m + 1 = numberOfBytes.toNat)
    (hsmall : numberOfBytes.toNat < 2 ^ 30) :
    (numberOfBytes * 2 - 1).toInt32.toInt = ((2 * m + 1 : Nat) : Int) := by
  have hvalue : (numberOfBytes * 2 - 1).toBitVec.toNat = 2 * m + 1 := by
    have htwo : UInt32.toNat 2 = 2 := rfl
    have hone : UInt32.toNat 1 = 1 := rfl
    rw [← hbytes] at hsmall
    rw [UInt32.toNat_toBitVec, UInt32.toNat_sub, UInt32.toNat_mul, ← hbytes, htwo, hone]
    omega
  have hint := BitVec.toInt_eq_toNat_of_lt (x := (numberOfBytes * 2 - 1).toBitVec) (by omega)
  rw [hvalue] at hint
  exact hint

/-- There is room for all digits, or for all but the first one if that is zero. -/
theorem exists_hexStart_eq (numberOfBits : UInt32) {m : Nat} (hbytes : m + 1 = numberOfBytes.toNat)
    (hsmall : numberOfBytes.toNat < 2 ^ 30) :
    ∃ total : Nat, hexStart numberOfBits numberOfBytes buffer = total - 1 ∧
      (total = 2 * (m + 1) ∨
        total = 2 * m + 1 ∧ maskedByte numberOfBits numberOfBytes buffer m / 16 = 0) := by
  rw [hexStart, lastIndex_eq hbytes hsmall]
  split
  · next hdrop =>
      obtain ⟨-, hmask, hzero⟩ := hdrop
      have hexcess : numberOfBits % 8 ≠ 0 := by
        refine mod_eight_ne_zero_iff.mpr fun hmod => hmask ?_
        rw [lastBitMask_eq, hmod]
        rfl
      refine ⟨2 * m + 1, rfl, .inr ⟨rfl, ?_⟩⟩
      rw [maskedByte, hexMask, if_pos ⟨hbytes, hexcess⟩, ← Nat.shiftRight_eq_div_pow _ 4]
      rwa [← hbytes] at hzero
  · exact ⟨2 * (m + 1), by omega, .inl rfl⟩

end Masks

section Renders
variable {numberOfBits numberOfBytes : UInt32} (buffer : Nat → UInt8)

theorem maskedByte_lt (i : Nat) : maskedByte numberOfBits numberOfBytes buffer i < 256 :=
  Nat.lt_of_le_of_lt Nat.and_le_left (buffer i).toNat_lt

/-- The digits of the number that are stored. -/
theorem bufferToHex_stored {m : Nat} (result : Int → UInt8) (hbytes : m + 1 = numberOfBytes.toNat)
    (hsmall : numberOfBytes.toNat < 2 ^ 30)
    (hbits : numberOfBits.toNat = 8 * m + lastBits numberOfBits.toNat) :
    ∃ digits : List Nat, (digits.length = 2 * (m + 1) ∨ digits.length = 2 * m + 1) ∧
      (∀ digit ∈ digits, digit < 16) ∧
      Nat.ofDigits 16 digits = value (slice buffer 0 (m + 1)) % 2 ^ numberOfBits.toNat ∧
      (bufferToHex numberOfBits numberOfBytes buffer result).Stored (digits.length - 1) result
        (digits.map itoh) := by
  obtain ⟨total, hstart, htotal⟩ := exists_hexStart_eq buffer numberOfBits hbytes hsmall
  let inner := (List.range m).map (maskedByte numberOfBits numberOfBytes buffer)
  let digits := ((inner ++ [maskedByte numberOfBits numberOfBytes buffer m]).flatMap nibbles).take
    total
  have hmasked : (List.range (m + 1)).map (maskedByte numberOfBits numberOfBytes buffer) =
      inner ++ [maskedByte numberOfBits numberOfBytes buffer m] := by
    rw [List.range_succ, List.map_append, List.map_singleton]
  have hinner : inner.length = m := by rw [List.length_map, List.length_range]
  have hdigits : digits.length = total ∧ Nat.ofDigits 16 digits =
      Nat.ofDigits 256 (inner ++ [maskedByte numberOfBits numberOfBytes buffer m]) :=
    ofDigits_take_nibbles (by rwa [hinner])
  have hinit : HexState.Stored (total - 1) result []
      ⟨hexStart numberOfBits numberOfBytes buffer, result, []⟩ :=
    ⟨hstart.trans (Int.sub_zero _).symm, rfl, by rintro k c ⟨⟩, fun _ _ => rfl⟩
  have hloop := hinit.loop numberOfBits numberOfBytes buffer (m + 1) (by omega)
  rw [hmasked] at hloop
  refine ⟨digits, ?_, ?_, ?_, ?_⟩
  · omega
  · intro digit hdigit
    refine nibbles_lt (fun byte hbyte => ?_) digit (List.mem_of_mem_take hdigit)
    rw [← hmasked] at hbyte
    obtain ⟨i, -, rfl⟩ := List.mem_map.mp hbyte
    exact maskedByte_lt buffer i
  · rw [hdigits.2, ← hmasked, value_maskedBytes buffer hbytes hbits]
  · rw [bufferToHex, ← hbytes, hdigits.1]
    exact hloop

end Renders

/-- For every shift of at least one bit the text holds its value and nothing else is
written. -/
theorem buffer_to_hex_renders (numberOfBits numberOfBytes : UInt32) (buffer : Nat → UInt8)
    (result : Int → UInt8) (hbits : 1 ≤ numberOfBits.toNat)
    (hbytes : numberOfBytes.toNat = (numberOfBits.toNat + 7) / 8) :
    RendersHex numberOfBits.toNat numberOfBytes.toNat buffer result
      (bufferToHex numberOfBits numberOfBytes buffer result) := by
  obtain ⟨m, hm⟩ : ∃ m, m + 1 = numberOfBytes.toNat := ⟨numberOfBytes.toNat - 1, by omega⟩
  have hlast : numberOfBits.toNat = 8 * m + lastBits numberOfBits.toNat := by
    rw [lastBits]
    omega
  have hlt := numberOfBits.toNat_lt
  obtain ⟨digits, hlength, hsmall, hvalue, hstored⟩ :=
    bufferToHex_stored buffer result hm (by omega) hlast
  rw [← List.length_map itoh] at hstored
  have hwritten := hstored.written_reverse
  have htext := hstored.text_eq
  rw [List.length_map] at hwritten htext
  rw [← hm]
  refine ⟨fun k hk => ?_, hstored.frame, digits.length, hwritten, ?_, ?_⟩
  · rw [← List.mem_reverse, hwritten] at hk
    obtain ⟨place, hplace, rfl⟩ := List.mem_map.mp hk
    have hbelow := List.mem_range.mp hplace
    rw [Int.ofNat_eq_natCast]
    omega
  · rw [htext, hexNumber_reverse hsmall, hvalue]
  · refine hlength.imp_right fun hshort => ⟨by omega, ?_⟩
    rw [← hvalue]
    exact Nat.ofDigits_lt_base_pow_length (by decide) hsmall

/-- Twelve bits of two bytes. -/
theorem buffer_to_hex_renders_twelve :
    let buffer : Nat → UInt8 := fun i => if i = 0 then 0xAB else 0xFD
    let s := bufferToHex 12 2 buffer fun _ => 0
    RendersHex 12 2 buffer (fun _ => 0) s ∧
      (List.range 4).map (fun k : Nat => s.result k) = asciiBytes "dab" ++ [0] := by
  intro buffer s
  exact ⟨buffer_to_hex_renders 12 2 buffer _ (by decide) (by decide), by decide⟩

section LogShift
variable {text : List UInt8} {n bits bytes : Nat} {buffer : Nat → UInt8} {s : HexState}

theorem zero_notMem_of_hexNumber (h : hexNumber text = some n) : 0 ∉ text := by
  induction text using List.reverseRecOn generalizing n with
  | nil => rintro ⟨⟩
  | append_singleton text c ih =>
      rw [hexNumber_concat] at h
      obtain ⟨front, hfront, hlast⟩ := Option.bind_eq_some_iff.mp h
      obtain ⟨digit, hdigit, -⟩ := Option.map_eq_some_iff.mp hlast
      rw [List.mem_append, List.mem_singleton, not_or]
      refine ⟨ih hfront, ?_⟩
      rintro rfl
      cases hdigit

/-- In memory of zeros the text is a string. -/
theorem RendersHex.string (h : RendersHex bits bytes buffer (fun _ => 0) s) {size : Nat}
    (hsize : bytes ≤ size) :
    hexNumber (((List.range (2 * size + 1)).map fun k : Nat => s.result k).takeWhile (· ≠ 0)) =
      some (value (slice buffer 0 bytes) % 2 ^ bits) := by
  obtain ⟨n, hwritten, hnumber, hlength⟩ := h.text
  have hdigits := zero_notMem_of_hexNumber hnumber
  obtain ⟨rest, hrest⟩ : ∃ rest, 2 * size + 1 = n + (rest + 1) := ⟨2 * size - n, by omega⟩
  have hbehind : s.result n = 0 := by
    refine h.frame n fun hmem => ?_
    rw [← List.mem_reverse, hwritten, List.mem_map] at hmem
    obtain ⟨k, hk, heq⟩ := hmem
    have hlt := List.mem_range.mp hk
    rw [Int.ofNat_eq_natCast] at heq
    omega
  rw [hrest, List.range_add, List.map_append, List.takeWhile_append_of_pos,
    List.range_succ_eq_map, List.map_cons, List.map_cons, Nat.add_zero, hbehind,
    List.takeWhile_cons_of_neg, List.append_nil, hnumber]
  · simp
  · intro c hc
    exact decide_eq_true fun hzero => hdigits (hzero ▸ hc)

theorem toNat_ceilBytes {n : UInt32} (h : n.toNat + 7 < 2 ^ 32) :
    ((n + 7) / 8).toNat = (n.toNat + 7) / 8 := by
  have hsum : n.toNat + UInt32.toNat 7 < 2 ^ 32 := h
  rw [UInt32.toNat_div, UInt32.toNat_add, Nat.mod_eq_of_lt hsum]
  rfl

/-- The line shows the value of the bits it announces. -/
theorem asdLogShift_shows {numberOfBits sizeBytes : UInt32} (buffer : Nat → UInt8)
    (hbits : 1 ≤ numberOfBits.toNat) (hwrap : numberOfBits.toNat + 7 < 2 ^ 32)
    (hsize : 1 ≤ sizeBytes.toNat) :
    ∃ shown text, asdLogShift numberOfBits buffer sizeBytes = some (shown, text) ∧
      shown.toNat = min numberOfBits.toNat (8 * sizeBytes.toNat) ∧
      hexNumber text =
        some (value (slice buffer 0 ((shown.toNat + 7) / 8)) % 2 ^ shown.toNat) := by
  have hsizeZero : sizeBytes ≠ 0 := fun h => by
    rw [h] at hsize
    exact absurd hsize (by decide)
  have hbitsZero : numberOfBits ≠ 0 := fun h => by
    rw [h] at hbits
    exact absurd hbits (by decide)
  have hbytes := toNat_ceilBytes hwrap
  rw [asdLogShift, if_neg (not_or.mpr ⟨hsizeZero, hbitsZero⟩)]
  by_cases hlong : (numberOfBits + 7) / 8 > sizeBytes
  · have hcut := UInt32.lt_iff_toNat_lt.mp hlong
    rw [hbytes] at hcut
    have hshown : (sizeBytes * 8).toNat = 8 * sizeBytes.toNat := by
      have height : UInt32.toNat 8 = 8 := rfl
      rw [UInt32.toNat_mul, height, Nat.mod_eq_of_lt (by omega), Nat.mul_comm]
    have hceil : sizeBytes.toNat = ((sizeBytes * 8).toNat + 7) / 8 := by omega
    have hrenders := buffer_to_hex_renders (sizeBytes * 8) sizeBytes buffer (fun _ => 0)
      (by omega) hceil
    simp only [if_pos hlong]
    refine ⟨sizeBytes * 8, _, rfl, by omega, ?_⟩
    rw [← hceil]
    exact hrenders.string (Nat.le_refl _)
  · have hfits := UInt32.not_lt.mp hlong
    rw [UInt32.le_iff_toNat_le, hbytes] at hfits
    have hrenders := buffer_to_hex_renders numberOfBits ((numberOfBits + 7) / 8) buffer (fun _ => 0)
      hbits hbytes
    simp only [if_neg hlong]
    refine ⟨numberOfBits, _, rfl, by omega, ?_⟩
    rw [← hbytes]
    exact hrenders.string (by omega)

end LogShift

end AtScaleDebug
