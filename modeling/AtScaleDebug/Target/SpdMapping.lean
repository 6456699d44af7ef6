import AtScaleDebug.Lib.CString
import AtScaleDebug.Lib.LastWrite
import AtScaleDebug.Target.BusHandlers
import Mathlib.Data.List.Count

/-!
How the I3C handler finds the device files of a bus. The kernel numbers the buses in the
order in which they are bound, and the directory of each says to which bus of the platform
it belongs. `create_spd_mapping` reads all directories and keeps the bound index of each
bus of the platform.
-/

namespace AtScaleDebug

open CString

def maxI3cDevFilename : Nat := 256
def uninitializedSpdBusMapEntry : Int := -1

structure SysDirEntry where
  name : CString
  isDir : Bool

/-- A file that opens: whether it can be moved in, its length where `ftell` gives it, and
what is read of that length. -/
structure SysFile where
  seeks : Bool
  length : Option Nat
  data : List UInt8

/-- The directory of the I3C devices in the order of `readdir`, `none` when it does not open,
the files by their paths, and what the array for a name holds when it is not written. -/
structure SysBus where
  entries : Option (List SysDirEntry)
  file : List UInt8 → Option SysFile
  array : List UInt8

section Code
variable (longMax : Nat) (sys : SysBus)

def i3cSysBusDevices : List UInt8 := asciiBytes "/sys/bus/i3c/devices/"

/-- The paths are made by `snprintf`. -/
def ofNodePath (busName : CString) (file : String) : List UInt8 :=
  (i3cSysBusDevices ++ busName.bytes ++ asciiBytes file).take (maxI3cDevFilename - 1)

/-- `is_spd_bus`, with whether the bus was found. -/
def isSpdBus (busName : CString) : Bool :=
  (sys.file (ofNodePath busName "/of_node/jdec-spd")).isSome &&
    (sys.file (ofNodePath busName "/of_node/hub@70,3C000000100")).isNone

/-- The number is stored as an `int`. No error of the range is left from before: the last
call that failed did not find the file of a hub. -/
def getBoundIndex (busName : CString) : Option Int :=
  (strtolWhole longMax (busName.bytes.drop 4)).map fun val => val.bmod 0x100000000

/-- The string in the array: the last byte of the file is overwritten by the terminator. An
empty file leaves the array. -/
def platformName (data : List UInt8) : List UInt8 :=
  (if data = [] then sys.array else data.dropLast).takeWhile (· ≠ 0)

/-- The number in the name of a bus of the platform, stored as a byte. -/
def namedIndex (name : List UInt8) : Option UInt8 :=
  if numbered (asciiBytes "i3c") name then
    match strtolWhole longMax (name.drop 3) with
    | none => none
    | some val => if val < maxIxCBuses then some (.ofNat (val % 0x100).toNat) else none
  else none

def getPlatformIndex (busName : CString) : Option UInt8 :=
  match sys.file (ofNodePath busName "/of_node/name") with
  | none => none
  | some file =>
      if !file.seeks then none
      else
        match file.length with
        | none => none
        | some length =>
            if length < maxI3cDevFilename then
              if file.data.length = length then namedIndex longMax (platformName sys file.data)
              else none
            else none

/-- What an entry of the directory adds to the map. -/
def spdIndices (entry : SysDirEntry) : Option (Fin maxIxCBuses × Int) :=
  if entry.isDir then none
  else if !numbered (asciiBytes "i3c-") entry.name.bytes then none
  else if !isSpdBus sys entry.name then none
  else
    match getBoundIndex longMax entry.name with
    | none => none
    | some boundIndex =>
        match getPlatformIndex longMax sys entry.name with
        | none => none
        | some platIndex =>
            if h : platIndex.toNat < maxIxCBuses then some (⟨platIndex.toNat, h⟩, boundIndex)
            else none

structure SpdScan where
  spdMap : Fin maxIxCBuses → Int
  spdBusCount : UInt8

/-- One round of the loop of `create_spd_mapping`. -/
def SpdScan.entry (s : SpdScan) (entry : SysDirEntry) : SpdScan :=
  match spdIndices longMax sys entry with
  | none => s
  | some (platIndex, boundIndex) =>
      ⟨Function.update s.spdMap platIndex boundIndex, s.spdBusCount + 1⟩

def createSpdMapping : (Fin maxIxCBuses → Int) × Status :=
  match sys.entries with
  | none => (fun _ => uninitializedSpdBusMapEntry, .err)
  | some entries =>
      let s := Machine.run (SpdScan.entry longMax sys)
        ⟨fun _ => uninitializedSpdBusMapEntry, 0⟩ entries
      (s.spdMap, if s.spdBusCount > 0 then .ok else .err)

/-- The device files of a bus, by the index that the kernel gave it. -/
def i3cDev (boundIndex : Int) (i : Fin i3cMaxDevHandlers) : String :=
  "/dev/i3c-" ++ toString boundIndex ++ "-3c00000000" ++ String.ofList (Nat.toDigits 16 i)

/-- `i3c_open_device_drivers`, with the devices that open. -/
def i3cOpenDeviceFiles (opens : String → Bool) (h : I3cHandler) (bus : UInt8) :
    I3cHandler × Status :=
  if hbus : bus.toNat < maxIxCBuses then
    match createSpdMapping longMax sys with
    | (spdMap, .ok) =>
        if spdMap ⟨bus.toNat, hbus⟩ = uninitializedSpdBusMapEntry then (h, .err)
        else
          let opened := fun i => opens (i3cDev (spdMap ⟨bus.toNat, hbus⟩) i)
          ({ h with
              i3cBus := bus
              driverHandlers := fun i => if opened i then some ⟨bus, false⟩ else none },
            if ∃ i, opened i = true then .ok else .err)
    | _ => (h, .err)
  else (h, .err)

end Code

section Names
variable {longMax : Nat} {n : Int}

def IsNumeral (digits : List UInt8) : Prop := digits ≠ [] ∧ ∀ c ∈ digits, isdigit c = true

/-- The names of buses with the index that is read from them. A name with one character too
many in front has a negative one. -/
def BoundName (longMax : Nat) (name : List UInt8) (n : Int) : Prop :=
  ∃ digits, IsNumeral digits ∧
    ((name = asciiBytes "i3c-" ++ digits ∧ decimal digits ≤ longMax ∧
        n = (decimal digits : Int).bmod 0x100000000) ∨
      ∃ c, name = c :: (asciiBytes "i3c-" ++ digits) ∧ decimal digits ≤ longMax + 1 ∧
        n = (-(decimal digits : Int)).bmod 0x100000000)

/-- The names of buses of the platform. -/
def PlatformName (longMax : Nat) (name : List UInt8) (n : Nat) : Prop :=
  ∃ digits, IsNumeral digits ∧ name = asciiBytes "i3c" ++ digits ∧ decimal digits ≤ longMax ∧
    n = decimal digits

/-- A number has no `c`, so the key that is searched for starts before it. -/
theorem front_short {front behind : List UInt8} {k : Nat}
    (h : strtolWhole longMax ((front ++ 0x69 :: 0x33 :: 0x63 :: behind).drop k) = some n) :
    front.length + 2 < k := by
  apply Nat.lt_of_not_le
  intro hle
  have hmem : (0x63 : UInt8) ∈ (front ++ 0x69 :: 0x33 :: 0x63 :: behind).drop k := by
    have hsplit : front ++ 0x69 :: 0x33 :: 0x63 :: behind =
        (front ++ [0x69, 0x33]) ++ 0x63 :: behind := by
      rw [List.append_assoc]
      rfl
    rw [hsplit, List.drop_append_of_le_length (by rw [List.length_append]; exact hle)]
    exact List.mem_append_right _ List.mem_cons_self
  exact absurd (mem_of_strtolWhole h 0x63 hmem) (by decide)

theorem isNumeral_cons {d : UInt8} {rest : List UInt8} :
    IsNumeral (d :: rest) ↔ isdigit d = true ∧ ∀ c ∈ rest, isdigit c = true := by
  rw [IsNumeral, List.forall_mem_cons]
  exact and_iff_right (List.cons_ne_nil d rest)

theorem boundName_iff {name : List UInt8} :
    numbered (asciiBytes "i3c-") name = true ∧
        (strtolWhole longMax (name.drop 4)).map (fun val => val.bmod 0x100000000) = some n ↔
      BoundName longMax name n := by
  rw [Option.map_eq_some_iff]
  constructor
  · intro h
    obtain ⟨hnumbered, val, hval, rfl⟩ := h
    obtain ⟨front, d, rest, hname, hd⟩ := numbered_iff.mp hnumbered
    rw [hname] at hval ⊢
    have hshort := front_short hval
    cases front with
    | nil =>
        obtain ⟨hrest, hle, heq⟩ := (strtolWhole_digits hd).mp hval
        exact ⟨d :: rest, isNumeral_cons.mpr ⟨hd, hrest⟩, .inl ⟨rfl, hle, by rw [heq]⟩⟩
    | cons c front =>
        cases front with
        | nil =>
            obtain ⟨hrest, hle, heq⟩ := (strtolWhole_minus hd).mp hval
            exact ⟨d :: rest, isNumeral_cons.mpr ⟨hd, hrest⟩, .inr ⟨c, rfl, hle, by rw [heq]⟩⟩
        | cons c' front =>
            rw [List.length_cons, List.length_cons] at hshort
            omega
  · intro h
    obtain ⟨digits, hdigits, hform⟩ := h
    cases digits with
    | nil => exact absurd rfl hdigits.1
    | cons d rest =>
        obtain ⟨hd, hrest⟩ := isNumeral_cons.mp hdigits
        cases hform with
        | inl hplain =>
            obtain ⟨hname, hle, hn⟩ := hplain
            rw [hname]
            exact ⟨numbered_iff.mpr ⟨[], d, rest, rfl, hd⟩, _,
              (strtolWhole_digits hd).mpr ⟨hrest, hle, rfl⟩, hn.symm⟩
        | inr hprefixed =>
            obtain ⟨c, hname, hle, hn⟩ := hprefixed
            rw [hname]
            exact ⟨numbered_iff.mpr ⟨[c], d, rest, rfl, hd⟩, _,
              (strtolWhole_minus hd).mpr ⟨hrest, hle, rfl⟩, hn.symm⟩

/-- The search for the key is as good as a match of the whole name. -/
theorem platformName_iff {name : List UInt8} :
    numbered (asciiBytes "i3c") name = true ∧ strtolWhole longMax (name.drop 3) = some n ↔
      ∃ m : Nat, n = m ∧ PlatformName longMax name m := by
  constructor
  · intro h
    obtain ⟨hnumbered, hval⟩ := h
    obtain ⟨front, d, rest, hname, hd⟩ := numbered_iff.mp hnumbered
    rw [hname] at hval ⊢
    have hshort := front_short hval
    cases front with
    | nil =>
        obtain ⟨hrest, hle, heq⟩ := (strtolWhole_digits hd).mp hval
        exact ⟨_, heq, d :: rest, isNumeral_cons.mpr ⟨hd, hrest⟩, rfl, hle, rfl⟩
    | cons c front =>
        rw [List.length_cons] at hshort
        omega
  · intro h
    obtain ⟨m, rfl, digits, hdigits, rfl, hle, rfl⟩ := h
    cases digits with
    | nil => exact absurd rfl hdigits.1
    | cons d rest =>
        obtain ⟨hd, hrest⟩ := isNumeral_cons.mp hdigits
        exact ⟨numbered_iff.mpr ⟨[], d, rest, rfl, hd⟩,
          (strtolWhole_digits hd).mpr ⟨hrest, hle, rfl⟩⟩

end Names

section Mapping
variable {longMax : Nat} {sys : SysBus} {entry : SysDirEntry} {p : Fin maxIxCBuses} {n : Int}

theorem namedIndex_iff {name : List UInt8} :
    (∃ platIndex ∈ namedIndex longMax name, platIndex.toNat = p) ↔
      PlatformName longMax name p := by
  rw [namedIndex]
  constructor
  · intro h
    obtain ⟨platIndex, hindex, hp⟩ := h
    split at hindex
    · next hnumbered =>
        cases hval : strtolWhole longMax (name.drop 3) with
        | none =>
            rw [hval] at hindex
            cases hindex
        | some val =>
            obtain ⟨m, rfl, hname⟩ := platformName_iff.mp ⟨hnumbered, hval⟩
            rw [hval] at hindex
            dsimp only at hindex
            split at hindex
            · next hlt =>
                rw [Option.mem_some_iff] at hindex
                have hm : m = p := by
                  rw [← hp, ← hindex, UInt8.toNat_ofNat', maxIxCBuses] at *
                  omega
                exact hm ▸ hname
            · cases hindex
    · cases hindex
  · intro hname
    obtain ⟨hnumbered, hval⟩ := platformName_iff.mpr ⟨(p : Nat), rfl, hname⟩
    have hp : (p : Nat) < 8 := p.isLt
    have hbyte : ((p : Int) % 0x100).toNat = p := by omega
    refine ⟨.ofNat p, ?_, ?_⟩
    · rw [if_pos hnumbered, hval]
      dsimp only
      rw [if_pos (Int.ofNat_lt.mpr p.isLt), hbyte]
      rfl
    · rw [UInt8.toNat_ofNat']
      omega

/-- The file with the name that the platform has for a bus can be read, and names it. -/
def NamedFile (longMax : Nat) (sys : SysBus) (busName : CString) (p : Fin maxIxCBuses) : Prop :=
  ∃ file ∈ sys.file (ofNodePath busName "/of_node/name"), file.seeks = true ∧
    file.length = some file.data.length ∧ file.data.length < maxI3cDevFilename ∧
    PlatformName longMax (platformName sys file.data) p

theorem getPlatformIndex_iff {busName : CString} :
    (∃ platIndex ∈ getPlatformIndex longMax sys busName, platIndex.toNat = p) ↔
      NamedFile longMax sys busName p := by
  rw [getPlatformIndex, NamedFile]
  cases hfile : sys.file (ofNodePath busName "/of_node/name") with
  | none => simp only [Option.mem_def, reduceCtorEq, false_and, exists_false]
  | some file =>
      simp only [Option.mem_some_iff, exists_eq_left']
      cases hseeks : file.seeks with
      | false => simp only [Bool.not_false, if_true, Option.mem_def, reduceCtorEq, false_and,
          exists_false, Bool.false_eq_true]
      | true =>
          cases hlength : file.length with
          | none => simp only [Bool.not_true, Bool.false_eq_true, if_false, Option.mem_def,
              reduceCtorEq, false_and, and_false, exists_false]
          | some length =>
              simp only [Bool.not_true, Bool.false_eq_true, if_false, true_and,
                Option.some.injEq]
              by_cases hread : file.data.length = length
              · by_cases hfits : length < maxI3cDevFilename
                · simp only [hread, hfits, if_true, true_and, namedIndex_iff]
                · simp only [hread, hfits, if_false, Option.mem_def, reduceCtorEq, false_and,
                    and_false, exists_false]
              · simp only [hread, if_false, ite_self, Option.mem_def, reduceCtorEq, false_and,
                  exists_false, Ne.symm hread]

/-- An entry for an SPD bus, with its place in the platform and its bound index. -/
structure SpdBus (longMax : Nat) (sys : SysBus) (entry : SysDirEntry) (p : Fin maxIxCBuses)
    (n : Int) : Prop where
  link : entry.isDir = false
  spd : isSpdBus sys entry.name = true
  bound : BoundName longMax entry.name.bytes n
  platform : NamedFile longMax sys entry.name p

theorem spdIndices_iff : spdIndices longMax sys entry = some (p, n) ↔
    SpdBus longMax sys entry p n := by
  have hbound : numbered (asciiBytes "i3c-") entry.name.bytes = true ∧
      getBoundIndex longMax entry.name = some n ↔ BoundName longMax entry.name.bytes n :=
    boundName_iff
  have hplatform : (∃ platIndex ∈ getPlatformIndex longMax sys entry.name,
      platIndex.toNat = p) ↔ NamedFile longMax sys entry.name p := getPlatformIndex_iff
  constructor
  · intro h
    rw [spdIndices] at h
    split at h
    · cases h
    · next hlink =>
        split at h
        · cases h
        · next hnumbered =>
            split at h
            · cases h
            · next hspd =>
                rw [Bool.not_eq_true, Bool.not_eq_false'] at hnumbered hspd
                cases hindex : getBoundIndex longMax entry.name with
                | none =>
                    rw [hindex] at h
                    cases h
                | some boundIndex =>
                    cases hplat : getPlatformIndex longMax sys entry.name with
                    | none =>
                        rw [hindex, hplat] at h
                        cases h
                    | some platIndex =>
                        rw [hindex, hplat] at h
                        dsimp only at h
                        split at h
                        · cases h
                          exact ⟨by rwa [Bool.not_eq_true] at hlink, hspd,
                            hbound.mp ⟨hnumbered, hindex⟩, hplatform.mp ⟨platIndex, hplat, rfl⟩⟩
                        · cases h
  · intro h
    obtain ⟨hnumbered, hindex⟩ := hbound.mpr h.bound
    obtain ⟨platIndex, hplat, hp⟩ := hplatform.mpr h.platform
    simp only [spdIndices, h.link, hnumbered, h.spd, hindex, Option.mem_def.mp hplat,
      Bool.false_eq_true, if_false, Bool.not_true, hp, Fin.eta, p.isLt, dite_true]

/-- The last entry for a bus of the platform. -/
def LastSpd (longMax : Nat) (sys : SysBus) (entries : List SysDirEntry) (p : Fin maxIxCBuses)
    (n : Int) : Prop :=
  ∃ front entry back, entries = front ++ entry :: back ∧ SpdBus longMax sys entry p n ∧
    ∀ other ∈ back, ∀ m, ¬ SpdBus longMax sys other p m

/-- What an entry writes to the map for one bus. -/
def spdWrite (longMax : Nat) (sys : SysBus) (p : Fin maxIxCBuses) (entry : SysDirEntry) :
    Option Int :=
  ((spdIndices longMax sys entry).filter fun indices => indices.1 = p).map Prod.snd

theorem spdWrite_eq_some_iff : spdWrite longMax sys p entry = some n ↔
    SpdBus longMax sys entry p n := by
  rw [← spdIndices_iff, spdWrite, Option.map_eq_some_iff]
  constructor
  · intro h
    obtain ⟨⟨q, m⟩, hindices, rfl⟩ := h
    rw [Option.filter_eq_some_iff, decide_eq_true_eq] at hindices
    obtain ⟨hindices, rfl⟩ := hindices
    exact hindices
  · intro h
    exact ⟨(p, n), by rw [h, Option.filter_some, if_pos (decide_eq_true rfl)], rfl⟩

theorem spdWrite_eq_none_iff : spdWrite longMax sys p entry = none ↔
    ∀ m, ¬ SpdBus longMax sys entry p m := by
  rw [Option.eq_none_iff_forall_ne_some]
  exact forall_congr' fun m => not_congr spdWrite_eq_some_iff

theorem lastSpd_iff {entries : List SysDirEntry} :
    LastWrite.lastWrite (spdWrite longMax sys p) entries = some n ↔
      LastSpd longMax sys entries p n := by
  simp only [LastWrite.lastWrite_eq_some_iff, LastSpd, spdWrite_eq_some_iff, spdWrite_eq_none_iff]

theorem entry_spdMap (s : SpdScan) (entry : SysDirEntry) :
    (s.entry longMax sys entry).spdMap p =
      (spdWrite longMax sys p entry).elim (s.spdMap p) id := by
  rw [SpdScan.entry, spdWrite]
  cases spdIndices longMax sys entry with
  | none => rfl
  | some indices =>
      obtain ⟨q, m⟩ := indices
      dsimp only
      rw [Option.filter_some]
      by_cases hq : q = p
      · rw [if_pos (decide_eq_true hq), hq, Function.update_self]
        rfl
      · rw [if_neg (by rw [decide_eq_false hq]; decide), Function.update_of_ne (Ne.symm hq)]
        rfl

theorem run_spdMap (s : SpdScan) (entries : List SysDirEntry) :
    (Machine.run (SpdScan.entry longMax sys) s entries).spdMap p =
      (LastWrite.lastWrite (spdWrite longMax sys p) entries).elim (s.spdMap p) id :=
  LastWrite.run_assigned (fun s : SpdScan => s.spdMap p) entry_spdMap

/-- The buses are counted in a byte. -/
theorem run_spdBusCount (s : SpdScan) (entries : List SysDirEntry) :
    (Machine.run (SpdScan.entry longMax sys) s entries).spdBusCount =
      s.spdBusCount + .ofNat (entries.countP fun e => (spdIndices longMax sys e).isSome) := by
  induction entries generalizing s with
  | nil => exact (UInt8.add_zero _).symm
  | cons entry entries ih =>
      rw [Machine.run_cons, ih, SpdScan.entry]
      cases hindices : spdIndices longMax sys entry with
      | none => rw [List.countP_cons_of_neg (by rw [hindices]; decide)]
      | some indices =>
          rw [List.countP_cons_of_pos (by rw [hindices]; rfl), UInt8.ofNat_add, UInt8.add_assoc,
            UInt8.add_comm 1]
          rfl

/-- The bus of the platform is mapped to this index: some entries were counted, their number
is no multiple of 256, and the last one for the bus has an index other than -1. -/
structure MappedTo (longMax : Nat) (sys : SysBus) (p : Fin maxIxCBuses) (n : Int) : Prop where
  counted : ∃ entries ∈ sys.entries,
    (entries.countP fun e => (spdIndices longMax sys e).isSome) % 256 ≠ 0 ∧
      LastSpd longMax sys entries p n
  ne : n ≠ uninitializedSpdBusMapEntry

theorem createSpdMapping_iff : (createSpdMapping longMax sys).2 = .ok ∧
    (createSpdMapping longMax sys).1 p = n ∧ n ≠ uninitializedSpdBusMapEntry ↔
      MappedTo longMax sys p n := by
  rw [createSpdMapping]
  cases hentries : sys.entries with
  | none =>
      refine iff_of_false (fun h => nomatch h.1) fun h => ?_
      obtain ⟨entries, hsome, -⟩ := h.counted
      rw [hentries] at hsome
      cases hsome
  | some entries =>
      have hcount : (0 : UInt8) + .ofNat (entries.countP fun e =>
          (spdIndices longMax sys e).isSome) > 0 ↔
            (entries.countP fun e => (spdIndices longMax sys e).isSome) % 256 ≠ 0 := by
        rw [UInt8.zero_add, gt_iff_lt, UInt8.lt_iff_toNat_lt, UInt8.toNat_ofNat']
        exact Nat.pos_iff_ne_zero
      simp only [run_spdBusCount, run_spdMap, hcount]
      constructor
      · intro h
        obtain ⟨hok, hmap, hne⟩ := h
        refine ⟨⟨entries, hentries, ?_, ?_⟩, hne⟩
        · by_contra hzero
          rw [if_neg (not_not.mpr hzero)] at hok
          cases hok
        · rw [← lastSpd_iff]
          cases hlast : LastWrite.lastWrite (spdWrite longMax sys p) entries with
          | none =>
              rw [hlast] at hmap
              exact absurd hmap.symm hne
          | some m =>
              rw [hlast] at hmap
              exact congrArg some hmap
      · intro h
        obtain ⟨entries', hsome, hnonzero, hlast⟩ := h.counted
        rw [hentries] at hsome
        cases hsome
        rw [if_pos hnonzero, lastSpd_iff.mpr hlast]
        exact ⟨rfl, rfl, h.ne⟩

/-- The bound index that `i3c_open_device_drivers` uses for a bus. -/
def SysBus.mapped (longMax : Nat) (sys : SysBus) (bus : UInt8) : Option Int :=
  if hbus : bus.toNat < maxIxCBuses then
    match createSpdMapping longMax sys with
    | (spdMap, .ok) =>
        if spdMap ⟨bus.toNat, hbus⟩ = uninitializedSpdBusMapEntry then none
        else some (spdMap ⟨bus.toNat, hbus⟩)
    | _ => none
  else none

theorem mapped_eq_some_iff {bus : UInt8} : sys.mapped longMax bus = some n ↔
    ∃ hbus : bus.toNat < maxIxCBuses, MappedTo longMax sys ⟨bus.toNat, hbus⟩ n := by
  simp only [← createSpdMapping_iff]
  rw [SysBus.mapped]
  split
  · next hbus =>
      rw [exists_prop_of_true hbus]
      generalize createSpdMapping longMax sys = mapping
      obtain ⟨spdMap, status⟩ := mapping
      cases status with
      | ok =>
          dsimp only
          split
          · next hunset => exact iff_of_false nofun fun h => h.2.2 (h.2.1.symm.trans hunset)
          · next hset =>
              rw [Option.some.injEq]
              exact ⟨fun h => ⟨rfl, h, h ▸ hset⟩, fun h => h.2.1⟩
      | err | timeout => exact iff_of_false nofun fun h => nomatch h.1
  · next hbus => exact iff_of_false nofun fun h => hbus h.1

/-- The device files open as `i3cOpenDeviceDrivers` has it, for a bus that is mapped. -/
theorem i3cOpenDeviceFiles_eq (opens : String → Bool) (h : I3cHandler) (bus : UInt8) :
    i3cOpenDeviceFiles longMax sys opens h bus =
      i3cOpenDeviceDrivers ⟨(sys.mapped longMax bus).isSome, fun i =>
        (sys.mapped longMax bus).any fun boundIndex => opens (i3cDev boundIndex i)⟩ h bus := by
  rw [i3cOpenDeviceFiles, i3cOpenDeviceDrivers, SysBus.mapped]
  by_cases hbus : bus.toNat < maxIxCBuses
  · rw [dif_pos hbus, dif_pos hbus, if_neg (Nat.not_le.mpr hbus)]
    generalize createSpdMapping longMax sys = mapping
    obtain ⟨spdMap, status⟩ := mapping
    cases status with
    | ok =>
        dsimp only
        split
        · rfl
        · rfl
    | err | timeout => rfl
  · rw [dif_neg hbus, if_pos (Nat.le_of_not_lt hbus)]

/-- For a handler without open devices, a file of a bus of the platform opens if and only if
it is the one that the kernel made for the device on the bus with the index that the last
entry for it gives, and the files of no other bus are opened. -/
theorem spd_device_opened_iff (opens : String → Bool) (h : I3cHandler) (bus : UInt8) :
    (∀ i, ((i3cOpenDeviceFiles longMax sys opens (i3cCloseDeviceDrivers h) bus).1.driverHandlers
        i).isSome ↔
      ∃ n, (∃ hbus : bus.toNat < maxIxCBuses, MappedTo longMax sys ⟨bus.toNat, hbus⟩ n) ∧
        opens (i3cDev n i) = true) ∧
      ((i3cOpenDeviceFiles longMax sys opens (i3cCloseDeviceDrivers h) bus).2 = .ok ↔
        (i3cOpenDeviceFiles longMax sys opens (i3cCloseDeviceDrivers h) bus).1.Opened) := by
  simp only [← mapped_eq_some_iff]
  rw [i3cOpenDeviceFiles_eq, i3cOpenDeviceDrivers]
  cases hmapped : sys.mapped longMax bus with
  | none =>
      have hclosed : ¬ (i3cCloseDeviceDrivers h).Opened := fun hopened => by
        obtain ⟨i, hi⟩ := hopened
        cases hi
      simp only [Option.isSome_none, Bool.not_false, if_true, ite_self, hclosed, reduceCtorEq,
        false_and, exists_false, iff_false, and_true]
      intro i hi
      cases hi
  | some n =>
      obtain ⟨hbus, -⟩ := mapped_eq_some_iff.mp hmapped
      simp only [Nat.not_le.mpr hbus, if_false, Option.isSome_some, Bool.not_true,
        Bool.false_eq_true, Option.any_some, Option.some.injEq, exists_eq_left', I3cHandler.openOn,
        I3cHandler.Opened, Option.isSome_ite, implies_true, true_and, ite_eq_left_iff, reduceCtorEq,
        imp_false, not_not]

end Mapping

end AtScaleDebug
