import Mathlib.Data.List.Basic

/-!
Codes for values that can be read off the front of a list, whatever follows. A list of
values is written one after the other; it is read back by taking one value at a time, and
no other list of values is written the same way. `Packed` says of a sequence of packets
that each value went into one of them as a whole.
-/

namespace AtScaleDebug

universe u v

/-- How values are written, and how one is read off the front of a list. -/
structure PrefixCode (α : Type u) (β : Type v) where
  encode : α → List β
  next : List β → Option (α × List β)
  nonempty : ∀ a, encode a ≠ []
  next_encode : ∀ a rest, next (encode a ++ rest) = some (a, rest)

namespace PrefixCode
variable {α : Type u} {β : Type v} (code : PrefixCode α β) {as bs : List α}

def encodeAll (as : List α) : List β := as.flatMap code.encode

@[simp] theorem encodeAll_nil : code.encodeAll [] = [] := rfl

@[simp] theorem encodeAll_cons (a : α) (as : List α) :
    code.encodeAll (a :: as) = code.encode a ++ code.encodeAll as := List.flatMap_cons

@[simp] theorem encodeAll_append (as bs : List α) :
    code.encodeAll (as ++ bs) = code.encodeAll as ++ code.encodeAll bs := List.flatMap_append

theorem length_encode_pos (a : α) : 0 < (code.encode a).length :=
  List.length_pos_iff.mpr (code.nonempty a)

/-- A value takes at least one element, so as many rounds as elements are enough. -/
def decode : Nat → List β → Option (List α)
  | _, [] => some []
  | 0, _ :: _ => none
  | rounds + 1, b :: bytes =>
      (code.next (b :: bytes)).bind fun (a, rest) => (decode rounds rest).map (a :: ·)

def decodeAll (bytes : List β) : Option (List α) := code.decode bytes.length bytes

theorem decode_encodeAll {rounds : Nat} (h : (code.encodeAll as).length ≤ rounds) :
    code.decode rounds (code.encodeAll as) = some as := by
  induction as generalizing rounds with
  | nil => cases rounds <;> rfl
  | cons a as ih =>
      have hpos := code.length_encode_pos a
      rw [encodeAll_cons, List.length_append] at h
      obtain ⟨rounds, rfl⟩ : ∃ n, rounds = n + 1 := ⟨rounds - 1, by omega⟩
      obtain ⟨b, bytes, hbytes⟩ := List.exists_cons_of_ne_nil
        (List.append_ne_nil_of_left_ne_nil (code.nonempty a) (code.encodeAll as))
      have htail : code.decode rounds (code.encodeAll as) = some as := ih (by omega)
      rw [encodeAll_cons, hbytes, decode, ← hbytes, code.next_encode, Option.bind_some]
      dsimp only
      rw [htail, Option.map_some]

/-- What is written is read back. -/
theorem decodeAll_encodeAll (as : List α) : code.decodeAll (code.encodeAll as) = some as :=
  code.decode_encodeAll (Nat.le_refl _)

theorem encodeAll_injective (h : code.encodeAll as = code.encodeAll bs) : as = bs := by
  have hread := code.decodeAll_encodeAll as
  rw [h, code.decodeAll_encodeAll] at hread
  exact (Option.some.inj hread).symm

/-- The packets are the values in their order, each of them in one packet, behind what was
in the first packet before. -/
def Packed (before : List β) (as : List α) (packets : List (List β)) : Prop :=
  ∃ first groups, as = first ++ List.flatten groups ∧
    packets = (before ++ code.encodeAll first) :: groups.map code.encodeAll

variable {code} {before : List β} {packets : List (List β)}

theorem Packed.nil (before : List β) : code.Packed before [] [before] :=
  ⟨[], [], rfl, by simp⟩

/-- A value is put behind what is in the packet. -/
theorem Packed.put {a : α} (h : code.Packed (before ++ code.encode a) as packets) :
    code.Packed before (a :: as) packets := by
  obtain ⟨first, groups, rfl, rfl⟩ := h
  exact ⟨a :: first, groups, rfl, by simp⟩

/-- The packet is sent as it is, and the next one starts with a value. -/
theorem Packed.send {a : α} (h : code.Packed (code.encode a) as packets) :
    code.Packed before (a :: as) (before :: packets) := by
  obtain ⟨first, groups, rfl, rfl⟩ := h
  exact ⟨[], (a :: first) :: groups, rfl, by simp⟩

theorem Packed.flatten (h : code.Packed before as packets) :
    packets.flatten = before ++ code.encodeAll as := by
  obtain ⟨first, groups, rfl, rfl⟩ := h
  have hgroups : (groups.map code.encodeAll).flatten = code.encodeAll groups.flatten := by
    induction groups with
    | nil => rfl
    | cons group groups ih => simp [ih]
  rw [List.flatten_cons, hgroups, encodeAll_append, List.append_assoc]

end PrefixCode

end AtScaleDebug
