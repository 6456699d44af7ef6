import Mathlib.Data.List.Basic

/-!
Streams of frames with a fixed-length header that announces the length of the
payload. `parse` is the one-shot reference: it cuts a whole stream into
frames, in order, and stops at an incomplete frame, at a header without an
admissible length, or after a frame its consumer refuses. The consumer sees
all frames delivered so far.
-/

namespace AtScaleDebug.Framing

universe u
variable {β : Type u}

abbrev Frame (β : Type u) := List β × List β

/-- A frame format: the header length, never zero, and the announced length. -/
structure Format (β : Type u) where
  headerLength : Nat
  pos : 0 < headerLength
  payloadLength : List β → Option Nat

variable (format : Format β) (accepts : List (Frame β) → Bool)

/-- The frames of `stream` for a consumer that has already seen `seen`. -/
def parse (seen : List (Frame β)) (stream : List β) : List (Frame β) :=
  if stream.length < format.headerLength then []
  else
    match format.payloadLength (stream.take format.headerLength) with
    | none => []
    | some n =>
        let body := stream.drop format.headerLength
        if body.length < n then []
        else
          let frame := (stream.take format.headerLength, body.take n)
          if accepts (seen ++ [frame]) then frame :: parse (seen ++ [frame]) (body.drop n)
          else [frame]
termination_by stream.length
decreasing_by
  have := format.pos
  simp only [List.length_drop]
  omega

variable {format accepts}

theorem parse_of_short_header {seen : List (Frame β)} {stream : List β}
    (h : stream.length < format.headerLength) : parse format accepts seen stream = [] := by
  rw [parse, if_pos h]

section Header
variable {seen : List (Frame β)} {header : List β}
  (hlen : header.length = format.headerLength)
include hlen

theorem parse_of_bad_header (rest : List β) (h : format.payloadLength header = none) :
    parse format accepts seen (header ++ rest) = [] := by
  rw [parse, if_neg (by simp [hlen]), List.take_left' hlen, h]

theorem parse_of_short_payload {n : Nat} {rest : List β}
    (h : format.payloadLength header = some n) (hshort : rest.length < n) :
    parse format accepts seen (header ++ rest) = [] := by
  rw [parse, if_neg (by simp [hlen]), List.take_left' hlen, h]
  simp [List.drop_left' hlen, hshort]

theorem parse_frame (payload rest : List β)
    (h : format.payloadLength header = some payload.length) :
    parse format accepts seen (header ++ payload ++ rest) =
      (header, payload) ::
        if accepts (seen ++ [(header, payload)]) then
          parse format accepts (seen ++ [(header, payload)]) rest
        else [] := by
  rw [parse, if_neg (by simp [hlen]), List.append_assoc, List.take_left' hlen, h]
  simp only [List.drop_left' hlen, List.length_append, List.take_left, List.drop_left]
  rw [if_neg (by omega)]
  split <;> rfl

end Header

section Streams

def frameBytes (frame : Frame β) : List β := frame.1 ++ frame.2

/-- The header has its length and announces the payload. -/
structure Framed (format : Format β) (frame : Frame β) : Prop where
  header : frame.1.length = format.headerLength
  payload : format.payloadLength frame.1 = some frame.2.length

/-- What has arrived as a whole when the first `k` bytes of a stream have, by the sizes of
what it is made of. -/
def arrived {α : Type*} (size : α → Nat) : Nat → List α → List α
  | _, [] => []
  | k, x :: xs => if size x ≤ k then x :: arrived size (k - size x) xs else []

theorem arrived_map {α γ : Type*} (size : γ → Nat) (f : α → γ) (k : Nat) (xs : List α) :
    arrived size k (xs.map f) = (arrived (fun x => size (f x)) k xs).map f := by
  induction xs generalizing k with
  | nil => rfl
  | cons x xs ih =>
      rw [List.map_cons, arrived, arrived]
      split
      · rw [ih, List.map_cons]
      · rfl

theorem arrived_of_le {α : Type*} {code : α → List β} {k : Nat} {xs : List α}
    (h : (xs.flatMap code).length ≤ k) : arrived (fun x => (code x).length) k xs = xs := by
  induction xs generalizing k with
  | nil => rfl
  | cons x xs ih =>
      rw [List.flatMap_cons, List.length_append] at h
      have hrest : (xs.flatMap code).length ≤ k - (code x).length := Nat.le_sub_of_add_le' h
      have hfits : (code x).length ≤ k := Nat.le_of_add_right_le h
      rw [arrived, if_pos hfits, ih hrest]

theorem arrived_sublist {α : Type*} (size : α → Nat) (k : Nat) (xs : List α) :
    (arrived size k xs).Sublist xs := by
  induction xs generalizing k with
  | nil => exact List.Sublist.refl []
  | cons x xs ih =>
      rw [arrived]
      split
      · exact (ih (k - size x)).cons_cons x
      · exact List.nil_sublist _

/-- A consumer that takes everything reads, of any part of the stream, the frames that have
arrived as a whole. -/
theorem parse_take {frames : List (Frame β)} (hframed : ∀ f ∈ frames, Framed format f)
    (haccepts : ∀ seen, accepts seen = true) (seen : List (Frame β)) (k : Nat) :
    parse format accepts seen ((frames.flatMap frameBytes).take k) =
      arrived (fun f => (frameBytes f).length) k frames := by
  induction frames generalizing seen k with
  | nil =>
      rw [List.flatMap_nil, List.take_nil]
      exact parse_of_short_header format.pos
  | cons f frames ih =>
      have hf := hframed f List.mem_cons_self
      have hlength : (frameBytes f).length = format.headerLength + f.2.length := by
        rw [frameBytes, List.length_append, hf.header]
      rw [List.flatMap_cons, arrived, hlength]
      by_cases hheader : k < format.headerLength
      · rw [if_neg (by omega)]
        apply parse_of_short_header
        exact Nat.lt_of_le_of_lt (List.length_take_le k _) hheader
      have hcut (rest : List β) :
          (frameBytes f ++ rest).take k = f.1 ++ (f.2 ++ rest).take (k - format.headerLength) := by
        have htake : f.1.take k = f.1 := List.take_of_length_le (by rw [hf.header]; omega)
        rw [frameBytes, List.append_assoc, List.take_append, hf.header, htake]
      rw [hcut]
      by_cases hpayload : k < format.headerLength + f.2.length
      · rw [if_neg (by omega)]
        apply parse_of_short_payload hf.header hf.payload
        exact Nat.lt_of_le_of_lt (List.length_take_le _ _) (by omega)
      · have htake : f.2.take (k - format.headerLength) = f.2 :=
          List.take_of_length_le (by omega)
        rw [if_pos (by omega), List.take_append, htake, ← List.append_assoc,
          parse_frame hf.header f.2 _ hf.payload, if_pos (haccepts _), Nat.sub_sub]
        exact congrArg (f :: ·) (ih (fun g hg => hframed g (List.mem_cons_of_mem f hg)) _ _)

end Streams

end AtScaleDebug.Framing
