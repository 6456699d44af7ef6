import AtScaleDebug.Lib.CString
import AtScaleDebug.Lib.LastWrite
import AtScaleDebug.Server.RemoteLog

/-!
The stream list of a log option: `strtostreams`. The names stand between commas and are
compared in lower case, through a copy of ten bytes. Every token assigns the result, so
that the last one decides.

The output, the input and the copy of the input are there; `NULL` gives false otherwise.
-/

namespace AtScaleDebug

open CString

def logStreamNone : UInt16 := 0
def logStreamJtag : UInt16 := 2
def logStreamPins : UInt16 := 4
def logStreamI2c : UInt16 := 8
def logStreamTest : UInt16 := 16
def logStreamSpp : UInt16 := 128
def logStreamAll : UInt16 := 0xFFFF

def strToStreamMax : Nat := 10

/-- The names in the order in which they are compared. -/
def streamNames : List (String × UInt16) :=
  [("none", logStreamNone), ("network", logStreamNetwork), ("jtag", logStreamJtag),
    ("pins", logStreamPins), ("i2c", logStreamI2c), ("test", logStreamTest),
    ("daemon", logStreamDaemon), ("sdk", logStreamSdk), ("i3c_dbg", logStreamSpp),
    ("all", logStreamAll)]

/-- `temp`: the first bytes of the token, and zeros. -/
def streamTemp (token : List UInt8) : List UInt8 :=
  (token.take strToStreamMax).map tolower ++ List.replicate (strToStreamMax - token.length) 0

/-- `strcmp_s` finds no difference between the array and a shorter string. -/
def strcmpS (dest src : List UInt8) : Bool := dest.takeWhile (· ≠ 0) = src

def streamNamed (temp : List UInt8) : Option UInt16 :=
  (streamNames.find? fun name => strcmpS temp (asciiBytes name.1)).map Prod.snd

@[ext] structure StreamList where
  result : Bool
  output : UInt16
  deriving DecidableEq, Repr

/-- One round of the loop. -/
def StreamList.token (s : StreamList) (token : List UInt8) : StreamList :=
  match streamNamed (streamTemp token) with
  | some stream => ⟨true, s.output ||| stream⟩
  | none => ⟨false, s.output⟩

def strtostreams (input : CString) : StreamList :=
  Machine.run StreamList.token ⟨false, logStreamNone⟩ (strsep input.bytes 0x2C)

section Spec

/-- The token is the name of the stream, in any case. -/
def NamesStream (token : List UInt8) (stream : UInt16) : Prop :=
  ∃ name ∈ streamNames, token.map tolower = asciiBytes name.1 ∧ name.2 = stream

def IsStreamName (token : List UInt8) : Prop := ∃ stream, NamesStream token stream

/-- Lists of names are accepted and nothing else, and give the bits of all streams named. -/
structure ParsesStreams (input : CString) : Prop where
  accepts : (strtostreams input).result = true ↔
    ∀ token ∈ strsep input.bytes 0x2C, IsStreamName token
  output : (strtostreams input).result = true → ∀ bit,
    (strtostreams input).output.toNat.testBit bit = true ↔
      ∃ token ∈ strsep input.bytes 0x2C, ∃ stream,
        NamesStream token stream ∧ stream.toNat.testBit bit = true
  order : (strtostreams input).result = true → ∀ other : CString,
    (strsep other.bytes 0x2C).Perm (strsep input.bytes 0x2C) →
      strtostreams other = strtostreams input

end Spec

section Names
variable {token name : List UInt8}

theorem tolower_ne_zero {c : UInt8} (h : c ≠ 0) : tolower c ≠ 0 := by
  rw [tolower]
  split
  · next hupper =>
      obtain ⟨hlow, hhigh⟩ := hupper
      intro hzero
      have hsum := congrArg UInt8.toNat hzero
      rw [UInt8.toNat_add] at hsum
      rw [UInt8.le_iff_toNat_le] at hlow hhigh
      have hconst : (0x41 : UInt8).toNat = 65 ∧ (0x5A : UInt8).toNat = 90 ∧
        (0x20 : UInt8).toNat = 32 ∧ (0 : UInt8).toNat = 0 := by decide
      omega
  · exact h

/-- The copy is long enough for every name, so what it cuts off makes no difference. -/
theorem strcmpS_streamTemp (htoken : 0 ∉ token) (hname : name.length < strToStreamMax) :
    strcmpS (streamTemp token) name = true ↔ token.map tolower = name := by
  have hlower : ∀ c ∈ (token.take strToStreamMax).map tolower, decide (c ≠ 0) = true := by
    intro c hc
    obtain ⟨b, hb, rfl⟩ := List.mem_map.mp hc
    refine decide_eq_true (tolower_ne_zero fun hzero => htoken ?_)
    exact hzero ▸ List.mem_of_mem_take hb
  have hcopy : (streamTemp token).takeWhile (· ≠ 0) = (token.map tolower).take strToStreamMax := by
    rw [streamTemp, List.takeWhile_append_of_pos hlower, List.takeWhile_replicate,
      if_neg (by decide), List.append_nil, List.map_take]
  rw [strcmpS, hcopy, decide_eq_true_iff]
  constructor
  · intro h
    have hlength := congrArg List.length h
    rw [List.length_take] at hlength
    rwa [List.take_of_length_le (by omega)] at h
  · intro h
    rw [h, List.take_of_length_le (Nat.le_of_lt hname)]

theorem streamNames_length : ∀ name ∈ streamNames, (asciiBytes name.1).length < strToStreamMax := by
  decide

/-- No two entries have the same name. -/
theorem streamNames_unique : ∀ name ∈ streamNames, ∀ other ∈ streamNames,
    asciiBytes name.1 = asciiBytes other.1 → name = other := by
  decide

/-- The comparisons find the stream that a token names. -/
theorem streamNamed_eq_some_iff {stream : UInt16} (htoken : 0 ∉ token) :
    streamNamed (streamTemp token) = some stream ↔ NamesStream token stream := by
  have hcmp {name : String × UInt16} (hname : name ∈ streamNames) :
      strcmpS (streamTemp token) (asciiBytes name.1) = true ↔
        token.map tolower = asciiBytes name.1 :=
    strcmpS_streamTemp htoken (streamNames_length name hname)
  rw [streamNamed, Option.map_eq_some_iff]
  constructor
  · rintro ⟨name, hfind, rfl⟩
    have hname := List.mem_of_find?_eq_some hfind
    have hequal := List.find?_some hfind
    exact ⟨name, hname, (hcmp hname).mp hequal, rfl⟩
  · rintro ⟨name, hname, heq, rfl⟩
    cases hfind : streamNames.find? fun name => strcmpS (streamTemp token) (asciiBytes name.1) with
    | none => exact absurd ((hcmp hname).mpr heq) (List.find?_eq_none.mp hfind name hname)
    | some other =>
        have hother := List.mem_of_find?_eq_some hfind
        have hequal := List.find?_some hfind
        have hsame := ((hcmp hother).mp hequal).symm.trans heq
        exact ⟨other, rfl, congrArg Prod.snd (streamNames_unique other hother name hname hsame)⟩

theorem isSome_streamNamed_iff (htoken : 0 ∉ token) :
    (streamNamed (streamTemp token)).isSome = true ↔ IsStreamName token := by
  rw [Option.isSome_iff_exists]
  exact exists_congr fun stream => streamNamed_eq_some_iff htoken

end Names

section Parses
variable (input : CString)

theorem noNul_of_mem_strsep {token : List UInt8} (h : token ∈ strsep input.bytes 0x2C) :
    0 ∉ token := fun hzero => input.noNul (mem_of_mem_splitOn h hzero)

/-- The result is that of the last token. -/
theorem strtostreams_result : (strtostreams input).result = true ↔
    ∃ token ∈ (strsep input.bytes 0x2C).getLast?, IsStreamName token := by
  let known (token : List UInt8) : Bool := (streamNamed (streamTemp token)).isSome
  have hassigns (s : StreamList) (token : List UInt8) :
      (s.token token).result = (some (known token)).elim s.result id := by
    simp only [StreamList.token, Option.elim_some, id_eq, known]
    split
    · next hname => rw [hname, Option.isSome_some]
    · next hname => rw [hname, Option.isSome_none]
  have hlast : (strtostreams input).result =
      (LastWrite.lastWrite (some ∘ known) (strsep input.bytes 0x2C)).elim false id :=
    LastWrite.run_assigned StreamList.result hassigns
  rw [hlast, LastWrite.lastWrite, List.filterMap_eq_map, List.getLast?_map]
  cases hend : (strsep input.bytes 0x2C).getLast? with
  | none => exact iff_of_false Bool.false_ne_true (by rintro ⟨token, ⟨⟩, _⟩)
  | some token =>
      have hmem := noNul_of_mem_strsep input (List.mem_of_getLast? hend)
      simp only [Option.map_some, Option.elim_some, id_eq, known, isSome_streamNamed_iff hmem,
        Option.mem_def, Option.some.injEq, exists_eq_left']

/-- The bits of the output are those of the streams named, with or without other tokens. -/
theorem strtostreams_testBit (bit : Nat) :
    (strtostreams input).output.toNat.testBit bit = true ↔
      ∃ token ∈ strsep input.bytes 0x2C, ∃ stream,
        NamesStream token stream ∧ stream.toNat.testBit bit = true := by
  let flag (s : StreamList) : Bool := s.output.toNat.testBit bit
  have hsets (s : StreamList) (token : List UInt8) : flag (s.token token) =
      (flag s || (streamNamed (streamTemp token)).elim false (·.toNat.testBit bit)) := by
    simp only [StreamList.token, flag]
    split
    · next hname => rw [hname, Option.elim_some, UInt16.toNat_or, Nat.testBit_or]
    · next hname => rw [hname, Option.elim_none, Bool.or_false]
  have hset : flag (strtostreams input) = true ↔ flag ⟨false, logStreamNone⟩ = true ∨
      ∃ token ∈ strsep input.bytes 0x2C, ∃ stream,
        streamNamed (streamTemp token) = some stream ∧ stream.toNat.testBit bit = true :=
    LastWrite.run_set_iff hsets
  have hnone : flag ⟨false, logStreamNone⟩ ≠ true := ne_true_of_eq_false (Nat.zero_testBit bit)
  refine hset.trans ((or_iff_right hnone).trans ?_)
  refine exists_congr fun token => and_congr_right fun hmem => exists_congr fun stream => ?_
  rw [streamNamed_eq_some_iff (noNul_of_mem_strsep input hmem)]

theorem strsep_ne_nil : strsep input.bytes 0x2C ≠ [] := List.splitOn_ne_nil 0x2C input.bytes

/-- A list of names is accepted. -/
theorem result_of_names (h : ∀ token ∈ strsep input.bytes 0x2C, IsStreamName token) :
    (strtostreams input).result = true := by
  have hlast := List.getLast?_eq_some_getLast (strsep_ne_nil input)
  exact (strtostreams_result input).mpr ⟨_, hlast, h _ (List.mem_of_getLast? hlast)⟩

variable {input}

/-- Lists of the same names give the same, in whatever order they stand. -/
theorem strtostreams_perm {other : CString}
    (hperm : (strsep other.bytes 0x2C).Perm (strsep input.bytes 0x2C))
    (h : ∀ token ∈ strsep input.bytes 0x2C, IsStreamName token) :
    strtostreams other = strtostreams input := by
  have hother := fun token hmem => h token (hperm.mem_iff.mp hmem)
  ext1
  · rw [result_of_names input h, result_of_names other hother]
  · refine UInt16.toNat.inj (Nat.eq_of_testBit_eq fun bit => Bool.eq_iff_iff.mpr ?_)
    rw [strtostreams_testBit, strtostreams_testBit]
    exact exists_congr fun token => and_congr_left fun _ => hperm.mem_iff

/-- A list is parsed as its tokens say if and only if its last token is no name or all are. -/
theorem strtostreams_parses_iff (input : CString) :
    ParsesStreams input ↔
      ((∃ token ∈ (strsep input.bytes 0x2C).getLast?, IsStreamName token) →
        ∀ token ∈ strsep input.bytes 0x2C, IsStreamName token) := by
  rw [← strtostreams_result]
  constructor
  · exact fun h => h.accepts.mp
  · intro h
    exact ⟨⟨h, result_of_names input⟩, fun _ => strtostreams_testBit input,
      fun hresult other hperm => strtostreams_perm hperm (h hresult)⟩

/-- An unknown name before a known one is accepted, and refused behind it. -/
theorem strtostreams_accepts_unknown :
    let input : CString := ⟨asciiBytes "bogus,jtag", by decide⟩
    let other : CString := ⟨asciiBytes "jtag,bogus", by decide⟩
    strtostreams input = ⟨true, logStreamJtag⟩ ∧ strtostreams other = ⟨false, logStreamJtag⟩ ∧
      ¬ ParsesStreams input := by
  intro input other
  have haccepted : strtostreams input = ⟨true, logStreamJtag⟩ := by decide +kernel
  have hrefused : strtostreams other = ⟨false, logStreamJtag⟩ := by decide +kernel
  refine ⟨haccepted, hrefused, fun h => ?_⟩
  have hperm : (strsep other.bytes 0x2C).Perm (strsep input.bytes 0x2C) := by decide +kernel
  have hsame := h.order (congrArg StreamList.result haccepted) other hperm
  rw [haccepted, hrefused] at hsame
  cases hsame

end Parses

end AtScaleDebug
