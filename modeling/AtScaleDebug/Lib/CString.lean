import Mathlib.Data.List.Infix
import Mathlib.Data.List.TakeWhile

/-!
Strings of C: bytes without a zero, and the functions of its library that the parsers of
such strings use. They work on the bytes before the terminator.
-/

namespace AtScaleDebug

structure CString where
  bytes : List UInt8
  noNul : 0 ∉ bytes
  deriving DecidableEq, Repr

namespace CString

def asciiBytes (text : String) : List UInt8 := text.toList.map fun c => .ofNat c.toNat

/-- `strstr` sees memory up to its first zero byte. -/
def strstr (memory key : List UInt8) : Bool :=
  (memory.takeWhile (· ≠ 0)).tails.any fun tail => key.isPrefixOf tail

/-- The tokens of `strsep`, empty ones included. -/
def strsep (bytes : List UInt8) (delim : UInt8) : List (List UInt8) := bytes.splitOn delim

/-- The tokens of `strtok`. -/
def strtok (bytes : List UInt8) (delim : UInt8) : List (List UInt8) :=
  (bytes.splitOn delim).filter (· ≠ [])

def tolower (c : UInt8) : UInt8 := if 0x41 ≤ c ∧ c ≤ 0x5A then c + 0x20 else c

def isspace (c : UInt8) : Bool := c = 0x20 ∨ 0x09 ≤ c ∧ c ≤ 0x0D

def isdigit (c : UInt8) : Bool := 0x30 ≤ c ∧ c ≤ 0x39

def decimal (digits : List UInt8) : Nat :=
  digits.foldl (fun value digit => 10 * value + (digit.toNat - 0x30)) 0

/-- The decimal number at the front of a string, as `strtol` finds it before it looks at
the range: white space, a sign, digits. `none` is no conversion. -/
def numeral (bytes : List UInt8) : Option Int :=
  let value (rest : List UInt8) : Option Nat :=
    let digits := rest.takeWhile isdigit
    if digits = [] then none else some (decimal digits)
  match bytes.dropWhile isspace with
  | [] => none
  | c :: rest =>
      if c = 0x2D then (value rest).map fun n => -(n : Int)
      else if c = 0x2B then (value rest).map Int.ofNat
      else (value (c :: rest)).map Int.ofNat

/-- `strtol`, where it converts something in the range of a `long`. -/
def strtol (longMax : Nat) (bytes : List UInt8) : Option Int :=
  (numeral bytes).filter fun n => -(longMax : Int) - 1 ≤ n ∧ n ≤ longMax

/-- What `strtol` leaves behind the number that it finds. -/
def afterNumeral (bytes : List UInt8) : List UInt8 :=
  match bytes.dropWhile isspace with
  | [] => []
  | c :: rest => (if c = 0x2D ∨ c = 0x2B then rest else c :: rest).dropWhile isdigit

/-- `strtol` of a string that is to be a number as a whole. -/
def strtolWhole (longMax : Nat) (bytes : List UInt8) : Option Int :=
  if afterNumeral bytes = [] then strtol longMax bytes else none

/-- The unanchored regular expression `key[0-9]+`. -/
def numbered (key bytes : List UInt8) : Bool :=
  bytes.tails.any fun tail => key.isPrefixOf tail && (tail.drop key.length).head?.any isdigit

theorem mem_of_mem_splitOn {bytes token : List UInt8} {delim c : UInt8}
    (htoken : token ∈ bytes.splitOn delim) (hc : c ∈ token) : c ∈ bytes := by
  induction bytes generalizing token with
  | nil =>
      rw [List.splitOn_nil, List.mem_singleton] at htoken
      rw [htoken] at hc
      cases hc
  | cons b bytes ih =>
      rw [List.splitOn_cons_eq_if_modifyHead] at htoken
      split at htoken
      · rcases List.mem_cons.mp htoken with rfl | htoken
        · cases hc
        · exact List.mem_cons_of_mem b (ih htoken hc)
      · cases hsplit : bytes.splitOn delim with
        | nil => exact absurd hsplit (List.splitOn_ne_nil delim bytes)
        | cons first more =>
            rw [hsplit, List.modifyHead_cons] at htoken
            rcases List.mem_cons.mp htoken with rfl | htoken
            · rcases List.mem_cons.mp hc with rfl | hc
              · exact List.mem_cons_self
              · exact List.mem_cons_of_mem b (ih (hsplit ▸ List.mem_cons_self) hc)
            · exact List.mem_cons_of_mem b (ih (hsplit ▸ List.mem_cons_of_mem first htoken) hc)

section Numbers
variable {longMax : Nat} {bytes rest : List UInt8} {d : UInt8} {n : Int}

theorem numbered_iff {key : List UInt8} : numbered key bytes = true ↔
    ∃ front d rest, bytes = front ++ (key ++ d :: rest) ∧ isdigit d = true := by
  simp only [numbered, List.any_eq_true, List.mem_tails, Bool.and_eq_true,
    List.isPrefixOf_iff_prefix]
  constructor
  · intro h
    obtain ⟨tail, ⟨front, hfront⟩, ⟨behind, hbehind⟩, hdigit⟩ := h
    rw [← hbehind, List.drop_left] at hdigit
    cases behind with
    | nil => cases hdigit
    | cons d rest => exact ⟨front, d, rest, by rw [hbehind, hfront], hdigit⟩
  · intro h
    obtain ⟨front, d, rest, hbytes, hdigit⟩ := h
    refine ⟨key ++ d :: rest, ⟨front, hbytes.symm⟩, ⟨d :: rest, rfl⟩, ?_⟩
    rw [List.drop_left]
    exact hdigit

theorem mem_of_strtolWhole (h : strtolWhole longMax bytes = some n) :
    ∀ c ∈ bytes, isspace c = true ∨ c = 0x2D ∨ c = 0x2B ∨ isdigit c = true := by
  intro c hc
  rw [strtolWhole] at h
  split at h
  · next hend =>
      rw [afterNumeral] at hend
      rw [← List.takeWhile_append_dropWhile (p := isspace) (l := bytes), List.mem_append] at hc
      cases hc with
      | inl hspace => exact .inl (List.mem_takeWhile_imp hspace)
      | inr hnumeral =>
          cases hdrop : bytes.dropWhile isspace with
          | nil =>
              rw [hdrop] at hnumeral
              cases hnumeral
          | cons sign rest =>
              rw [hdrop] at hnumeral hend
              dsimp only at hend
              rw [List.dropWhile_eq_nil_iff] at hend
              split at hend
              · next hsign =>
                  cases List.mem_cons.mp hnumeral with
                  | inl heq => exact .inr (heq ▸ hsign.imp_right .inl)
                  | inr hrest => exact .inr (.inr (.inr (hend c hrest)))
              · exact .inr (.inr (.inr (hend c hnumeral)))
  · cases h

theorem isdigit_cases (h : isdigit d = true) : isspace d = false ∧ d ≠ 0x2D ∧ d ≠ 0x2B := by
  simp only [isdigit, decide_eq_true_eq, UInt8.le_iff_toNat_le] at h
  refine ⟨?_, ?_, ?_⟩
  · simp only [isspace, decide_eq_false_iff_not, UInt8.le_iff_toNat_le, ← UInt8.toNat_inj]
    grind
  · intro heq
    rw [heq] at h
    exact absurd h (by decide)
  · intro heq
    rw [heq] at h
    exact absurd h (by decide)

theorem takeWhile_digits (hd : isdigit d = true) (h : ∀ c ∈ rest, isdigit c = true) :
    (d :: rest).takeWhile isdigit = d :: rest := by
  rw [List.takeWhile_eq_self_iff]
  intro c hc
  cases List.mem_cons.mp hc with
  | inl heq => exact heq ▸ hd
  | inr hrest => exact h c hrest

/-- A number without a sign. -/
theorem strtolWhole_digits (hd : isdigit d = true) : strtolWhole longMax (d :: rest) = some n ↔
    (∀ c ∈ rest, isdigit c = true) ∧ decimal (d :: rest) ≤ longMax ∧ n = decimal (d :: rest) := by
  obtain ⟨hspace, hminus, hplus⟩ := isdigit_cases hd
  have hdrop : (d :: rest).dropWhile isspace = d :: rest := by
    rw [List.dropWhile_cons_of_neg (by rw [hspace]; decide)]
  have hend : afterNumeral (d :: rest) = rest.dropWhile isdigit := by
    rw [afterNumeral, hdrop]
    simp only [hminus, hplus, or_self, if_false, List.dropWhile_cons_of_pos hd]
  rw [strtolWhole, hend]
  split
  · next hnil =>
      have hall := List.dropWhile_eq_nil_iff.mp hnil
      have hnumeral : numeral (d :: rest) = some (decimal (d :: rest) : Int) := by
        simp only [numeral, hdrop, hminus, hplus, if_false, takeWhile_digits hd hall,
          reduceCtorEq, Option.map_some]
        rfl
      rw [strtol, hnumeral, Option.filter_some, and_iff_right hall]
      simp only [decide_eq_true_eq, Option.ite_none_right_eq_some, Option.some.injEq]
      omega
  · next hother => exact iff_of_false nofun fun h => hother (List.dropWhile_eq_nil_iff.mpr h.1)

/-- A number behind a minus sign. -/
theorem strtolWhole_minus (hd : isdigit d = true) :
    strtolWhole longMax (0x2D :: d :: rest) = some n ↔
      (∀ c ∈ rest, isdigit c = true) ∧ decimal (d :: rest) ≤ longMax + 1 ∧
        n = -(decimal (d :: rest) : Int) := by
  have hdrop : (0x2D :: d :: rest).dropWhile isspace = 0x2D :: d :: rest :=
    List.dropWhile_cons_of_neg (by decide)
  have hend : afterNumeral (0x2D :: d :: rest) = rest.dropWhile isdigit := by
    rw [afterNumeral, hdrop]
    simp only [true_or, if_true, List.dropWhile_cons_of_pos hd]
  rw [strtolWhole, hend]
  split
  · next hnil =>
      have hall := List.dropWhile_eq_nil_iff.mp hnil
      have hnumeral : numeral (0x2D :: d :: rest) = some (-(decimal (d :: rest) : Int)) := by
        simp only [numeral, hdrop, if_true, takeWhile_digits hd hall, reduceCtorEq, if_false,
          Option.map_some]
        rfl
      rw [strtol, hnumeral, Option.filter_some, and_iff_right hall]
      simp only [decide_eq_true_eq, Option.ite_none_right_eq_some, Option.some.injEq]
      omega
  · next hother => exact iff_of_false nofun fun h => hother (List.dropWhile_eq_nil_iff.mpr h.1)

end Numbers

end CString

end AtScaleDebug
