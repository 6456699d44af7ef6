import Mathlib.Algebra.Group.Nat.Defs
import AtScaleDebug.Lib.CString
import AtScaleDebug.Lib.RingSlots
import AtScaleDebug.Target.BusOptions

/-!
The bus lists of the command line: `process_command_line` with the options `-i`, `-c` and
`-d`, each of which may come any number of times. Their numbers are counted in one byte
for each part of the bus options, across all options, and the first of them are placed.

`long_max` is the largest `long`. The arguments are those of `main`, so they end at their
first zero byte.
-/

namespace AtScaleDebug

open CString RingSlots

def maxInputSize : Nat := 100

/-- `validateCharInputs`. The length is taken in sixteen bits, and only as many
characters are looked at. -/
def validateCharInputs (input : List UInt8)
    (alphabetUpper alphabetLower numerics extraChars comma dash : Bool) : Bool :=
  let strSize := input.length % 2 ^ 16
  let good (c : UInt8) : Bool :=
    alphabetUpper && (0x41 ≤ c && c ≤ 0x5A) || alphabetLower && (0x61 ≤ c && c ≤ 0x7A) ||
      numerics && isdigit c || extraChars && (c = 0x2E || c = 0x2F) || comma && c = 0x2C ||
      dash && (c = 0x2D || c = 0x5F)
  0 < strSize && strSize < maxInputSize && (input.take strSize).all good

/-- The two parts of the bus options. -/
inductive BusPart where
  | ixc
  | spp
  deriving DecidableEq, Repr

def BusPart.base : BusPart → Nat
  | .ixc => 0
  | .spp => maxIxCBuses

def BusPart.room : BusPart → Nat
  | .ixc => maxIxCBuses
  | .spp => maxSppBuses

inductive BusFlag where
  | i
  | c
  | d
  deriving DecidableEq, Repr

namespace BusFlag

def part : BusFlag → BusPart
  | .i | .c => .ixc
  | .d => .spp

def type : BusFlag → BusConfigType
  | .i => .i2c
  | .c => .i3c
  | .d => .spp

def enable : BusFlag → BusOptions → BusOptions
  | .i, o => { o with enableI2c := true }
  | .c, o => { o with enableI3c := true }
  | .d, o => { o with enableSpp := true }

end BusFlag

structure BusOption where
  flag : BusFlag
  optarg : CString

/-- `bus_counter` and `spp_counter`, and the options. -/
structure BusArgs where
  options : BusOptions
  counter : BusPart → UInt8

/-- The arguments are static, and so without a bus; the defaults enable none. -/
def BusArgs.initial : BusArgs :=
  ⟨⟨false, false, false, fun _ => 0, fun _ => .notAllowed, 4⟩, fun _ => 0⟩

/-- One number. The first one that an option places becomes the default bus. -/
def BusArgs.listBus (s : BusArgs) (flag : BusFlag) (first : Bool) (bus : UInt8) :
    BusArgs × Bool :=
  let counter := s.counter flag.part
  let counted := { s with counter := Function.update s.counter flag.part (counter + 1) }
  if counter.toNat ≥ flag.part.room then (counted, first)
  else
    ({ counted with
      options :=
        { s.options.place (flag.part.base + counter.toNat) flag.type bus with
          bus := if first then bus else s.options.bus } }, false)

section Parse
variable (longMax : Nat)

/-- The loop over the tokens. A token without a number, or with one that is out of range,
ends the list of its option. -/
def BusArgs.listBuses (flag : BusFlag) : BusArgs → Bool → List (List UInt8) → BusArgs
  | s, _, [] => s
  | s, first, token :: rest =>
      match strtol longMax token with
      | none => s
      | some bus =>
          let (s, first) := s.listBus flag first (.ofInt bus)
          listBuses flag s first rest

/-- The argument consists of digits and commas, as far as it is checked. -/
def BusOption.Valid (o : BusOption) : Prop :=
  validateCharInputs o.optarg.bytes false false true false true false = true

instance (o : BusOption) : Decidable o.Valid := inferInstanceAs (Decidable (_ = _))

def processBusOption (s : BusArgs) (o : BusOption) : Option BusArgs :=
  let s := { s with options := o.flag.enable s.options }
  if o.Valid then some (s.listBuses longMax o.flag true (strtok o.optarg.bytes 0x2C)) else none

/-- `process_command_line`, where it comes to an end; `none` is a command line that is
refused. -/
def processCommandLine (opts : List BusOption) : Option BusArgs :=
  opts.foldlM (processBusOption longMax) .initial

end Parse

section Listed

/-- The numbers of an argument. -/
def BusOption.listed (o : BusOption) : List (BusConfigType × Int) :=
  ((strtok o.optarg.bytes 0x2C).filterMap numeral).map (Prod.mk o.flag.type)

/-- The numbers that the options list for a part. -/
def listedBuses (part : BusPart) (opts : List BusOption) : List (BusConfigType × Int) :=
  (opts.filter (·.flag.part = part)).flatMap BusOption.listed

/-- Both parts hold the first numbers listed for them, with their types and values, and
nothing else. -/
def HoldsListed (opts : List BusOption) (o : BusOptions) : Prop :=
  ∀ part : BusPart, ∀ j < part.room,
    match (listedBuses part opts)[j]? with
    | some (type, bus) =>
        o.busConfigType (part.base + j) = type ∧
          ((o.busConfigMap (part.base + j)).toNat : Int) = bus
    | none => o.busConfigType (part.base + j) = .notAllowed ∧ o.busConfigMap (part.base + j) = 0

variable (longMax : Nat)

/-- The numbers up to the token that ends the list. -/
def numbersRead : List (List UInt8) → List Int
  | [] => []
  | token :: rest =>
      match strtol longMax token with
      | none => []
      | some bus => bus :: numbersRead rest

def BusOption.read (o : BusOption) : List (BusConfigType × Int) :=
  (numbersRead longMax (strtok o.optarg.bytes 0x2C)).map (Prod.mk o.flag.type)

def readBuses (part : BusPart) (opts : List BusOption) : List (BusConfigType × Int) :=
  (opts.filter (·.flag.part = part)).flatMap (BusOption.read longMax)

/-- Each of the first numbers listed for a part fits a bus number, and the last of the
numbers read at its position, counted in one byte, has its type and this value. -/
def ListsFit (opts : List BusOption) : Prop :=
  ∀ part : BusPart, ∀ j < part.room, ∀ listed ∈ (listedBuses part opts)[j]?,
    ∃ last ∈ lastAt 256 j 0 (readBuses longMax part opts),
      last.1 = listed.1 ∧ last.2 % 256 = listed.2

end Listed

section Fills

def BusArgs.entry (s : BusArgs) (part : BusPart) (j : Nat) : BusConfigType × UInt8 :=
  (s.options.busConfigType (part.base + j), s.options.busConfigMap (part.base + j))

def busEntry (read : BusConfigType × Int) : BusConfigType × UInt8 := (read.1, .ofInt read.2)

/-- What numbers that are read from the position `start` on do to a part. -/
structure Fills (part : BusPart) (start : Nat) (reads : List (BusConfigType × Int))
    (s t : BusArgs) : Prop where
  counter : (t.counter part).toNat = (start + reads.length) % 256
  entry : ∀ j < part.room,
    t.entry part j = ((lastAt 256 j start reads).map busEntry).getD (s.entry part j)

variable {part : BusPart} {start : Nat} {reads more : List (BusConfigType × Int)}
  {s t u : BusArgs}

theorem Fills.nil (hcounter : (t.counter part).toNat = start % 256)
    (hentry : ∀ j < part.room, t.entry part j = s.entry part j) : Fills part start [] s t :=
  ⟨hcounter, hentry⟩

theorem Fills.trans (h : Fills part start reads s t)
    (hmore : Fills part (start + reads.length) more t u) :
    Fills part start (reads ++ more) s u where
  counter := by rw [hmore.counter, List.length_append, Nat.add_assoc]
  entry j hj := by
    rw [hmore.entry j hj, h.entry j hj, lastAt_append]
    cases lastAt 256 j (start + reads.length) more with
    | some read => rfl
    | none => rfl

/-- The two parts do not overlap. -/
theorem base_add_ne {other : BusPart} {i j : Nat} (hne : part ≠ other) (hi : i < part.room)
    (hj : j < other.room) : part.base + i ≠ other.base + j := by
  cases part <;> cases other <;>
    simp only [BusPart.base, BusPart.room, maxIxCBuses, maxSppBuses] at hi hj ⊢ <;>
    first | omega | exact absurd rfl hne

theorem listBus_entry_self (flag : BusFlag) (first : Bool) (bus : UInt8) {j : Nat}
    (hj : j < flag.part.room) :
    (s.listBus flag first bus).1.entry flag.part j =
      if (s.counter flag.part).toNat = j then (flag.type, bus) else s.entry flag.part j := by
  simp only [BusArgs.listBus]
  split
  · next hfull => rw [if_neg (by omega)]; rfl
  · simp only [BusArgs.entry, BusOptions.place, Function.update_apply]
    split
    · next hat =>
        have hcounter := Nat.add_left_cancel hat
        rw [if_pos hcounter.symm]
    · next hat =>
        have hne : (s.counter flag.part).toNat ≠ j := fun h => hat (congrArg (_ + ·) h.symm)
        rw [if_neg hne]

theorem listBus_entry_other (flag : BusFlag) (first : Bool) (bus : UInt8) {j : Nat}
    (hne : part ≠ flag.part) (hj : j < part.room) :
    (s.listBus flag first bus).1.entry part j = s.entry part j := by
  simp only [BusArgs.listBus]
  split
  · rfl
  · next hroom =>
      have hdiffer := base_add_ne hne hj (Nat.lt_of_not_le hroom)
      simp only [BusArgs.entry, BusOptions.place, Function.update_of_ne hdiffer]

theorem listBus_counter (flag : BusFlag) (first : Bool) (bus : UInt8) :
    (s.listBus flag first bus).1.counter =
      Function.update s.counter flag.part (s.counter flag.part + 1) := by
  simp only [BusArgs.listBus]
  split
  · rfl
  · rfl

/-- A number goes to the slot that is counted for its part. -/
theorem listBus_fills (flag : BusFlag) (first : Bool) (bus : Int)
    (hstart : (s.counter part).toNat = start % 256) :
    Fills part start (if flag.part = part then [(flag.type, bus)] else []) s
      (s.listBus flag first (.ofInt bus)).1 := by
  split
  · next hpart =>
      subst hpart
      constructor
      · rw [listBus_counter, Function.update_self, UInt8.toNat_add, hstart, List.length_singleton]
        exact Nat.mod_add_mod start 256 1
      · intro j hj
        rw [listBus_entry_self flag first _ hj, hstart, lastAt_singleton]
        split
        · rfl
        · rfl
  · next hpart =>
      have hne : part ≠ flag.part := fun h => hpart h.symm
      refine .nil ?_ fun j hj => listBus_entry_other flag first _ hne hj
      rw [listBus_counter, Function.update_of_ne hne, hstart]

variable (longMax : Nat)

theorem listBuses_fills (flag : BusFlag) (first : Bool) (tokens : List (List UInt8))
    (hstart : (s.counter part).toNat = start % 256) :
    Fills part start
      (if flag.part = part then (numbersRead longMax tokens).map (Prod.mk flag.type) else []) s
      (s.listBuses longMax flag first tokens) := by
  have hnil : Fills part start (if flag.part = part then [] else []) s s := by
    rw [ite_self]
    exact .nil hstart fun _ _ => rfl
  induction tokens generalizing s start first with
  | nil => exact hnil
  | cons token rest ih =>
      rw [BusArgs.listBuses, numbersRead]
      cases htoken : strtol longMax token with
      | none => exact hnil
      | some bus =>
          have hfirst := listBus_fills flag first bus hstart
          have hall := hfirst.trans (ih (s.listBus flag first (.ofInt bus)).2 hfirst.counter ?_)
          · refine (congrArg (Fills part start · s _) ?_).mp hall
            split
            · rfl
            · rfl
          · rw [ite_self]
            exact .nil hfirst.counter fun _ _ => rfl

theorem processBusOption_fills {o : BusOption}
    (hstart : (s.counter part).toNat = start % 256)
    (h : processBusOption longMax s o = some t) :
    Fills part start (if o.flag.part = part then o.read longMax else []) s t := by
  rw [processBusOption] at h
  split at h
  · cases h
    have hsame : s.entry part =
        BusArgs.entry { s with options := o.flag.enable s.options } part := by
      cases o.flag <;> rfl
    have hlist := listBuses_fills (s := { s with options := o.flag.enable s.options }) longMax
      o.flag true (strtok o.optarg.bytes 0x2C) hstart
    exact ⟨hlist.counter, fun j hj => hsame ▸ hlist.entry j hj⟩
  · cases h

theorem foldlM_fills {opts : List BusOption} (hstart : (s.counter part).toNat = start % 256)
    (h : opts.foldlM (processBusOption longMax) s = some t) :
    Fills part start (readBuses longMax part opts) s t := by
  induction opts generalizing s start with
  | nil =>
      cases h
      exact .nil hstart fun _ _ => rfl
  | cons o opts ih =>
      rw [List.foldlM_cons] at h
      obtain ⟨u, hu, hrest⟩ := Option.bind_eq_some_iff.mp h
      have hfirst := processBusOption_fills longMax hstart hu
      have hall := hfirst.trans (ih hfirst.counter hrest)
      refine (congrArg (Fills part start · s _) ?_).mp hall
      rw [readBuses, readBuses, List.filter_cons]
      by_cases hpart : o.flag.part = part
      · simp only [hpart, decide_true, if_true, List.flatMap_cons]
      · simp only [hpart, decide_false, if_false, List.nil_append, Bool.false_eq_true]

end Fills

section Buses
variable (longMax : Nat) (part : BusPart) (opts : List BusOption)

theorem length_numbersRead (tokens : List (List UInt8)) :
    (numbersRead longMax tokens).length ≤ (tokens.filterMap numeral).length := by
  induction tokens with
  | nil => exact Nat.le_refl 0
  | cons token rest ih =>
      rw [numbersRead]
      cases htoken : strtol longMax token with
      | none => exact Nat.zero_le _
      | some bus =>
          rw [List.filterMap_cons_some (Option.eq_some_of_filter_eq_some htoken)]
          exact Nat.succ_le_succ ih

theorem length_readBuses :
    (readBuses longMax part opts).length ≤ (listedBuses part opts).length := by
  rw [readBuses, listedBuses]
  induction opts.filter (·.flag.part = part) with
  | nil => exact Nat.le_refl 0
  | cons o rest ih =>
      rw [List.flatMap_cons, List.flatMap_cons, List.length_append, List.length_append]
      refine Nat.add_le_add ?_ ih
      rw [BusOption.read, BusOption.listed, List.length_map, List.length_map]
      exact length_numbersRead longMax _

variable {longMax part opts}

theorem listed_allowed {type : BusConfigType} {bus : Int}
    (h : (type, bus) ∈ listedBuses part opts) : type ≠ .notAllowed := by
  obtain ⟨o, -, ho⟩ := List.mem_flatMap.mp h
  obtain ⟨n, -, heq⟩ := List.mem_map.mp ho
  cases heq
  cases o.flag <;> decide

/-- A slot holds the number listed at its position if and only if that fits. -/
theorem entry_listed_iff {last : Option (BusConfigType × Int)} {type : BusConfigType} {bus : Int}
    (htype : type ≠ .notAllowed) :
    (((last.map busEntry).getD (.notAllowed, 0)).1 = type ∧
        (((last.map busEntry).getD (.notAllowed, 0)).2.toNat : Int) = bus) ↔
      ∃ read ∈ last, read.1 = type ∧ read.2 % 256 = bus := by
  cases last with
  | none =>
      refine iff_of_false (fun h => htype h.1.symm) ?_
      rintro ⟨read, ⟨⟩, _⟩
  | some read =>
      have hvalue : ((UInt8.ofInt read.2).toNat : Int) = read.2 % 256 := by
        rw [UInt8.ofInt, UInt8.toNat_ofNat']
        omega
      simp only [Option.map_some, Option.getD_some, busEntry, hvalue, Option.mem_def,
        Option.some.injEq, exists_eq_left']

theorem holdsListed_iff {s : BusArgs} (h : processCommandLine longMax opts = some s) :
    HoldsListed opts s.options ↔ ListsFit longMax opts := by
  refine forall_congr' fun part => forall₂_congr fun j hj => ?_
  have hfills : Fills part 0 (readBuses longMax part opts) .initial s := foldlM_fills longMax rfl h
  have hentry := hfills.entry j hj
  have hinitial : BusArgs.initial.entry part j = (.notAllowed, 0) := rfl
  rw [hinitial] at hentry
  have htype := congrArg Prod.fst hentry
  have hmap := congrArg Prod.snd hentry
  simp only [BusArgs.entry] at htype hmap
  rw [htype, hmap]
  cases hlisted : (listedBuses part opts)[j]? with
  | none =>
      have hshort := Nat.le_trans (length_readBuses longMax part opts)
        (List.getElem?_eq_none_iff.mp hlisted)
      rw [lastAt_of_length_le hshort]
      exact iff_of_true ⟨rfl, rfl⟩ (by rintro _ ⟨⟩)
  | some listed =>
      obtain ⟨type, bus⟩ := listed
      refine (entry_listed_iff (listed_allowed (List.mem_of_getElem? hlisted))).trans ?_
      simp only [Option.mem_def, Option.some.injEq, forall_eq']

theorem processBusOption_eq_some_iff {s t : BusArgs} {o : BusOption} :
    processBusOption longMax s o = some t ↔
      o.Valid ∧ BusArgs.listBuses longMax o.flag { s with options := o.flag.enable s.options } true
        (strtok o.optarg.bytes 0x2C) = t := by
  rw [processBusOption]
  split
  · next hvalid => rw [Option.some.injEq, and_iff_right hvalid]
  · next hinvalid => exact iff_of_false (by rintro ⟨⟩) fun h => hinvalid h.1

/-- A command line is accepted if and only if all its arguments are. -/
theorem accepted_iff (s : BusArgs) :
    (∃ t, opts.foldlM (processBusOption longMax) s = some t) ↔ ∀ o ∈ opts, o.Valid := by
  induction opts generalizing s with
  | nil => exact iff_of_true ⟨s, rfl⟩ (by rintro o ⟨⟩)
  | cons o opts ih =>
      rw [List.forall_mem_cons, List.foldlM_cons]
      constructor
      · rintro ⟨t, ht⟩
        obtain ⟨u, hu, hrest⟩ := Option.bind_eq_some_iff.mp ht
        exact ⟨(processBusOption_eq_some_iff.mp hu).1, (ih u).mp ⟨t, hrest⟩⟩
      · rintro ⟨hvalid, hrest⟩
        obtain ⟨t, ht⟩ := (ih _).mpr hrest
        refine ⟨t, Option.bind_eq_some_iff.mpr ⟨_, ?_, ht⟩⟩
        exact processBusOption_eq_some_iff.mpr ⟨hvalid, rfl⟩

/-- For every sequence of options the buses of the command line are the first ones listed
if and only if it is refused or the lists fit. -/
theorem command_line_buses (longMax : Nat) (opts : List BusOption) :
    (∀ s ∈ processCommandLine longMax opts, HoldsListed opts s.options) ↔
      ((∀ o ∈ opts, o.Valid) → ListsFit longMax opts) := by
  have haccepted : (∃ s, processCommandLine longMax opts = some s) ↔ ∀ o ∈ opts, o.Valid :=
    accepted_iff .initial
  rw [← haccepted]
  constructor
  · rintro h ⟨s, hs⟩
    exact (holdsListed_iff hs).mp (h s hs)
  · intro h s hs
    exact (holdsListed_iff hs).mpr (h ⟨s, hs⟩)

/-- `300` becomes bus 44. Behind 256 buses the counter starts again, and the bus `9` of
`-c` takes the entry of the bus `7`. -/
theorem command_line_turns_buses :
    let longMax := 2 ^ 63 - 1
    let big : List BusOption := [⟨.i, ⟨asciiBytes "300", by decide⟩⟩]
    let zeros (n : Nat) : List UInt8 := (List.replicate n (asciiBytes "0,")).flatten
    let long : List BusOption :=
      ⟨.i, ⟨asciiBytes "7", by decide⟩⟩ ::
        List.replicate 5 ⟨.i, ⟨zeros 49, by decide +kernel⟩⟩ ++
        [⟨.i, ⟨zeros 10, by decide⟩⟩, ⟨.c, ⟨asciiBytes "9", by decide⟩⟩]
    (∃ s ∈ processCommandLine longMax big,
      s.entry .ixc 0 = (.i2c, 44) ∧ ¬ HoldsListed big s.options) ∧
    (∃ s ∈ processCommandLine longMax long,
      s.entry .ixc 0 = (.i3c, 9) ∧ ¬ HoldsListed long s.options) := by
  intro longMax big zeros long
  have hbig : (processCommandLine longMax big).map (·.entry .ixc 0) = some (.i2c, 44) := by
    decide +kernel
  have hlong : (processCommandLine longMax long).map (·.entry .ixc 0) = some (.i3c, 9) := by
    decide +kernel
  have hlisted : (listedBuses .ixc big)[0]? = some (.i2c, 300) := by decide +kernel
  have hseven : (listedBuses .ixc long)[0]? = some (.i2c, 7) := by decide +kernel
  constructor
  · obtain ⟨s, hs, hentry⟩ := Option.map_eq_some_iff.mp hbig
    refine ⟨s, hs, hentry, fun hholds => ?_⟩
    have hfirst := hholds .ixc 0 (by decide)
    rw [hlisted] at hfirst
    have hbus : s.options.busConfigMap 0 = 44 := congrArg Prod.snd hentry
    exact absurd (hbus ▸ hfirst.2) (by decide)
  · obtain ⟨s, hs, hentry⟩ := Option.map_eq_some_iff.mp hlong
    refine ⟨s, hs, hentry, fun hholds => ?_⟩
    have hfirst := hholds .ixc 0 (by decide)
    rw [hseven] at hfirst
    have htype : s.options.busConfigType 0 = .i3c := congrArg Prod.fst hentry
    exact absurd (htype ▸ hfirst.1) (by decide)

/-- While the counter of neither part starts again, the positions are those of the list. -/
theorem listsFit_iff_of_short
    (hshort : ∀ part, (readBuses longMax part opts).length ≤ 256) :
    ListsFit longMax opts ↔
      ∀ part : BusPart, ∀ j < part.room, ∀ listed ∈ (listedBuses part opts)[j]?,
        ∃ read ∈ (readBuses longMax part opts)[j]?,
          read.1 = listed.1 ∧ read.2 % 256 = listed.2 := by
  refine forall_congr' fun part => ?_
  simp only [lastAt_eq_getElem? (hshort part)]

end Buses

section Enabled
variable {flag : BusFlag} {s t : BusArgs}

/-- The I2C and I3C part is well formed, and the kind of the option may be placed there. -/
structure BusArgs.Enabled (s : BusArgs) (flag : BusFlag) : Prop where
  wf : s.options.Wf
  kind : flag.part = .ixc → s.options.IxCEntry flag.type

theorem BusArgs.enabled_enable (h : s.options.Wf) :
    { s with options := flag.enable s.options }.Enabled flag := by
  cases flag with
  | i => exact ⟨fun i hi => (h i hi).mono (fun _ => rfl) id, fun _ => .i2c rfl⟩
  | c => exact ⟨fun i hi => (h i hi).mono id fun _ => rfl, fun _ => .i3c rfl⟩
  | d => exact ⟨fun i hi => (h i hi).mono id id, by rintro ⟨⟩⟩

theorem BusArgs.Enabled.listBus (first : Bool) (bus : UInt8) (h : s.Enabled flag) :
    (s.listBus flag first bus).1.Enabled flag := by
  simp only [BusArgs.listBus]
  split
  · exact ⟨h.wf, h.kind⟩
  · next hroom =>
      refine ⟨fun i hi => ?_, fun hpart => (h.kind hpart).mono id id⟩
      refine BusOptions.IxCEntry.mono (o := s.options) ?_ id id
      simp only [BusOptions.place, Function.update_apply]
      split
      · next hat =>
          refine h.kind ?_
          -- an SPP entry lies behind the part
          cases hpart : flag.part with
          | ixc => rfl
          | spp =>
              rw [hpart, BusPart.base] at hat
              omega
      · exact h.wf i hi

variable {longMax : Nat}

theorem BusArgs.Enabled.listBuses (first : Bool) (tokens : List (List UInt8))
    (h : s.Enabled flag) : (s.listBuses longMax flag first tokens).Enabled flag := by
  induction tokens generalizing s first with
  | nil => exact h
  | cons token rest ih =>
      rw [BusArgs.listBuses]
      split
      · exact h
      · exact ih _ (h.listBus first _)

theorem foldlM_wf {opts : List BusOption} (hs : s.options.Wf)
    (h : opts.foldlM (processBusOption longMax) s = some t) : t.options.Wf := by
  induction opts generalizing s with
  | nil => cases h; exact hs
  | cons o opts ih =>
      rw [List.foldlM_cons] at h
      obtain ⟨u, hu, hrest⟩ := Option.bind_eq_some_iff.mp h
      rw [processBusOption_eq_some_iff] at hu
      exact ih (hu.2 ▸ ((BusArgs.enabled_enable hs).listBuses true _).wf) hrest

/-- The handlers can rely on the options of a command line, and so can a client that finds
no platform. -/
theorem processCommandLine_wf {opts : List BusOption} {s : BusArgs}
    (h : processCommandLine longMax opts = some s) : s.options.Wf :=
  foldlM_wf (fun _ _ => .notAllowed) h

end Enabled

end AtScaleDebug
