import Mathlib.Data.List.Basic

/-!
Unbounded memory regions with block writes. A region is a function from
offsets to cells, so a write past its nominal end is representable and the
bounds are a property to be proved about the offsets that are used.
-/

namespace AtScaleDebug.ByteBuffer

universe u
variable {β : Type u}

/-- Write a block at an offset. -/
def blit (buf : Nat → β) (off : Nat) (block : List β) : Nat → β := fun i =>
  if off ≤ i then (block[i - off]?).getD (buf i) else buf i

/-- Read `len` cells from an offset. -/
def slice (buf : Nat → β) (off len : Nat) : List β :=
  (List.range len).map fun i => buf (off + i)

@[simp] theorem length_slice (buf : Nat → β) (off len : Nat) :
    (slice buf off len).length = len := by
  simp [slice]

@[simp] theorem slice_zero (buf : Nat → β) (off : Nat) : slice buf off 0 = [] := rfl

theorem slice_add (buf : Nat → β) (off m n : Nat) :
    slice buf off (m + n) = slice buf off m ++ slice buf (off + m) n := by
  simp [slice, List.range_add, Nat.add_assoc]

theorem take_slice (buf : Nat → β) (off : Nat) {n len : Nat} (h : n ≤ len) :
    (slice buf off len).take n = slice buf off n := by
  obtain ⟨m, rfl⟩ := Nat.exists_eq_add_of_le h
  rw [slice_add, List.take_left' (length_slice buf off n)]

theorem blit_nil (buf : Nat → β) (off : Nat) : blit buf off [] = buf := by
  funext i
  simp [blit]

theorem blit_of_lt (buf : Nat → β) {off i : Nat} (block : List β) (h : i < off) :
    blit buf off block i = buf i := by
  simp only [blit]
  rw [if_neg (by omega)]

theorem blit_at (buf : Nat → β) (off : Nat) (block : List β) (i : Nat) (h : i < block.length) :
    blit buf off block (off + i) = block[i] := by
  simp [blit, h]

theorem blit_of_ge (buf : Nat → β) {off i : Nat} (block : List β) (h : off + block.length ≤ i) :
    blit buf off block i = buf i := by
  have hnone : block[i - off]? = none := List.getElem?_eq_none (by omega)
  simp [blit, hnone]

/-- Appending to the filled prefix of a region. -/
theorem slice_blit_append (buf : Nat → β) (off : Nat) (block : List β) :
    slice (blit buf off block) 0 (off + block.length) = slice buf 0 off ++ block := by
  apply List.ext_getElem
  · simp
  · intro i h _
    simp only [length_slice] at h
    by_cases hi : i < off
    · rw [List.getElem_append_left (by simpa using hi)]
      simp [slice, blit_of_lt buf block hi]
    · rw [List.getElem_append_right (by simp; omega)]
      have hoff : off + (i - off) = i := by omega
      have hat := blit_at buf off block (i - off) (by omega)
      rw [hoff] at hat
      simpa [slice] using hat

/-- Overwriting the front of a region. -/
theorem slice_blit_front (buf : Nat → β) (block : List β) {len : Nat} (h : block.length ≤ len) :
    slice (blit buf 0 block) 0 len = block ++ (slice buf 0 len).drop block.length := by
  apply List.ext_getElem
  · simp
    omega
  · intro i hi _
    simp only [length_slice] at hi
    by_cases hblock : i < block.length
    · rw [List.getElem_append_left hblock]
      simp [slice, blit, hblock]
    · rw [List.getElem_append_right (by omega)]
      have hi' : block.length + (i - block.length) = i := by omega
      simp [slice, blit, hblock, hi']

theorem slice_congr {buf buf' : Nat → β} {off len : Nat}
    (h : ∀ i, off ≤ i → i < off + len → buf i = buf' i) :
    slice buf off len = slice buf' off len := by
  refine List.map_congr_left fun i hi => h (off + i) (Nat.le_add_right _ _) ?_
  have hlt := List.mem_range.mp hi
  omega

theorem slice_blit (buf : Nat → β) (off : Nat) (block : List β) :
    slice (blit buf off block) off block.length = block := by
  apply List.ext_getElem
  · simp
  · intro i hi _
    simp only [length_slice] at hi
    simp [slice, blit_at buf off block i hi]

/-- A write leaves what lies before it. -/
theorem slice_blit_before (buf : Nat → β) (block : List β) {off len start : Nat}
    (h : off + len ≤ start) : slice (blit buf start block) off len = slice buf off len :=
  slice_congr fun _ _ hi => blit_of_lt buf block (by omega)

/-- A write leaves what lies behind it. -/
theorem slice_blit_behind (buf : Nat → β) (block : List β) {off len start : Nat}
    (h : start + block.length ≤ off) :
    slice (blit buf start block) off len = slice buf off len :=
  slice_congr fun _ hi _ => blit_of_ge buf block (by omega)

/-- A part of a slice. -/
theorem take_drop_slice (buf : Nat → β) {off len total : Nat} (h : off + len ≤ total) :
    ((slice buf 0 total).drop off).take len = slice buf off len := by
  apply List.ext_getElem
  · simp
    omega
  · intro i _ _
    simp [slice]

end AtScaleDebug.ByteBuffer
