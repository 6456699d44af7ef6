import Mathlib.Algebra.Group.Nat.Defs
import Mathlib.Algebra.Ring.Int.Defs
import AtScaleDebug.Lib.CString
import AtScaleDebug.Target.AgentControl

/-!
The version of the target: `read_openbmc_version` takes the BMC version from a line of
`/etc/os-release` when the message handler is created, and the agent control command
`OBTAIN_DOWNSTREAM_VERSION` answers with it behind the version of the daemon.

The copies are made with `memcpy_s`, which is not part of the repository. Whether it fails
is a function of the size of the destination and the number of bytes; it does when the
bytes do not fit.
-/

namespace AtScaleDebug

open ByteBuffer CString

/-- `OPENBMC_V`, without the terminator. -/
def openbmcV : List UInt8 := asciiBytes "OPENBMC_VERSION"

def sizeofOpenbmcV : Nat := openbmcV.length + 1

/-- `asd_version`, with the terminator. -/
def asdVersion : List UInt8 := asciiBytes "ASD_BMC_v1.6.9" ++ [0]

def sizeofBmcVersion : Nat := 120

structure MemcpyS where
  fails : Nat → Nat → Bool
  fails_of_lt : ∀ {dmax slen : Nat}, dmax < slen → fails dmax slen = true

/-- `bmc_version` and `bmc_version_size`. -/
structure BmcVersion where
  bytes : List UInt8
  size : Int
  length_bytes : bytes.length = sizeofBmcVersion

/-- What is left of a number in an `int`. -/
def toInt (n : Int) : Int := n.bmod (2 ^ 32)

/-- An `int` that is taken for a `size_t`. -/
def toSizeT (n : Int) : Nat := (n % 2 ^ 64).toNat

section Read

/-- The lines that `getline` returns, with their ends. -/
def lines : List UInt8 → List (List UInt8)
  | [] => []
  | byte :: rest =>
      if byte = 0x0A then [byte] :: lines rest
      else
        match lines rest with
        | [] => [[byte]]
        | line :: more => (byte :: line) :: more

/-- The first double quotes become `<`, the others `>`. -/
def markQuotes : Bool → List UInt8 → List UInt8
  | _, [] => []
  | first, byte :: rest =>
      if byte = 34 then (if first then 0x3C else 0x3E) :: markQuotes false rest
      else byte :: markQuotes first rest

/-- The array is filled up with zeros. -/
def BmcVersion.holding (text : List UInt8) (size : Int) : BmcVersion where
  bytes := (text ++ List.replicate sizeofBmcVersion 0).take sizeofBmcVersion
  size
  length_bytes := by simp

/-- `none` is a file that does not open. The size is stored before the copy. -/
def readOpenbmcVersion (m : MemcpyS) (osRelease : Option (List UInt8)) : BmcVersion × Status :=
  match osRelease with
  | none => (.holding [] 0, .err)
  | some content =>
      match (lines content).find? (strstr · openbmcV) with
      | none => (.holding [] 0, .err)
      | some line =>
          let size := toInt (line.length - sizeofOpenbmcV - 1)
          if m.fails sizeofBmcVersion (toSizeT size) then (.holding [] size, .err)
          else
            (.holding (markQuotes true ((line.drop sizeofOpenbmcV).take (toSizeT size))) size, .ok)

end Read

section Reply

/-- What the bytes of the answer are copied from. -/
inductive VersionSource where
  | asdVersion
  | bmcVersion
  | text
  deriving DecidableEq, Repr

/-- The output buffer, and what was read for it. -/
structure VersionReply where
  buffer : Nat → UInt8
  status : Status
  reads : List (VersionSource × Nat)

def VersionReply.memcpyS (m : MemcpyS) (s : VersionReply) (off dmax : Nat)
    (source : VersionSource) (memory : Nat → UInt8) (slen : Nat) : VersionReply :=
  if m.fails dmax slen then { s with status := .err }
  else
    { s with
      buffer := blit s.buffer off (slice memory 0 slen)
      reads := s.reads ++ [(source, slen)] }

/-- `asd_msg_on_msg_recv`, `OBTAIN_DOWNSTREAM_VERSION_CMD`. `behind` is what the memory
holds from `bmc_version` on, where that array does not say it. -/
def obtainVersion (m : MemcpyS) (v : BmcVersion) (r : AgentRequest) (behind : Nat → UInt8) :
    VersionReply :=
  let s : VersionReply := ⟨blit r.out 0 [r.header.cmdStat], .ok, []⟩
  let s := s.memcpyS m 1 asdVersion.length .asdVersion (asdVersion.getD · 0) asdVersion.length
  let s := s.memcpyS m asdVersion.length 1 .text (fun _ => 0x5F) 1
  let s := s.memcpyS m (asdVersion.length + 1) (toSizeT v.size) .bmcVersion
    (blit behind 0 v.bytes) (toSizeT v.size)
  s.memcpyS m (toSizeT (asdVersion.length + v.size + 1)) 1 .text (fun _ => 0) 1

/-- The size is added up in the lower size field. -/
def versionHeader (v : BmcVersion) (request : MessageHeader) : MessageHeader :=
  { request with
    sizeLsb := 1 + .ofNat asdVersion.length + UInt8.ofInt v.size, sizeMsb := 0, cmdStat := 0 }

def versionPacket (m : MemcpyS) (v : BmcVersion) (r : AgentRequest) (behind : Nat → UInt8) :
    Packet :=
  (versionHeader v r.header,
    slice (obtainVersion m v r behind).buffer 0
      ((getMessageSize (versionHeader v r.header)).getD 0))

end Reply

section Honest

/-- A read of the answer stays inside its source. -/
def ReadsInside (v : BmcVersion) : VersionSource × Nat → Prop
  | (.asdVersion, n) => n ≤ asdVersion.length
  | (.bmcVersion, n) => (n : Int) ≤ v.size ∧ n ≤ v.bytes.length
  | (.text, n) => n = 1

/-- The version that was read is bounded, and the answer is made of it alone. -/
structure VersionHonest (m : MemcpyS) (v : BmcVersion) (r : AgentRequest)
    (behind : Nat → UInt8) : Prop where
  bounded : 0 ≤ v.size ∧ v.size ≤ sizeofBmcVersion
  inside : ∀ read ∈ (obtainVersion m v r behind).reads, ReadsInside v read
  length : ((versionPacket m v r behind).2.length : Int) = 1 + asdVersion.length + v.size
  size : getMessageSize (versionPacket m v r behind).1 =
    some (versionPacket m v r behind).2.length

/-- The line with the version, if there is one, is as long as the name of the version
with its terminator and its end, and at most as much longer as the array is. -/
def VersionFits (osRelease : Option (List UInt8)) : Prop :=
  ∀ content ∈ osRelease, ∀ line ∈ (lines content).find? (strstr · openbmcV),
    sizeofOpenbmcV + 1 ≤ line.length % 2 ^ 32 ∧
      line.length % 2 ^ 32 ≤ sizeofOpenbmcV + 1 + sizeofBmcVersion

theorem toInt_bounded_iff (n : Nat) :
    0 ≤ toInt (n - sizeofOpenbmcV - 1) ∧ toInt (n - sizeofOpenbmcV - 1) ≤ sizeofBmcVersion ↔
      sizeofOpenbmcV + 1 ≤ n % 2 ^ 32 ∧ n % 2 ^ 32 ≤ sizeofOpenbmcV + 1 + sizeofBmcVersion := by
  have hkey : sizeofOpenbmcV = 16 := rfl
  simp only [toInt, Int.bmod_def, hkey, sizeofBmcVersion]
  omega

theorem versionFits_some {content line : List UInt8}
    (h : (lines content).find? (strstr · openbmcV) = some line) :
    VersionFits (some content) ↔ sizeofOpenbmcV + 1 ≤ line.length % 2 ^ 32 ∧
      line.length % 2 ^ 32 ≤ sizeofOpenbmcV + 1 + sizeofBmcVersion := by
  simp only [VersionFits, Option.mem_def, Option.some.injEq, forall_eq', h]

/-- After the file is read the size is in bounds if and only if the line fits. -/
theorem readOpenbmcVersion_bounded_iff (m : MemcpyS) (osRelease : Option (List UInt8)) :
    (0 ≤ (readOpenbmcVersion m osRelease).1.size ∧
        (readOpenbmcVersion m osRelease).1.size ≤ sizeofBmcVersion) ↔ VersionFits osRelease := by
  have hzero : (0 : Int) ≤ 0 ∧ (0 : Int) ≤ sizeofBmcVersion := by decide
  cases osRelease with
  | none => exact iff_of_true hzero (by rintro _ ⟨⟩)
  | some content =>
      cases hline : (lines content).find? (strstr · openbmcV) with
      | none =>
          simp only [readOpenbmcVersion, hline]
          refine iff_of_true hzero ?_
          rintro _ ⟨⟩ line hmem
          rw [hline] at hmem
          cases hmem
      | some line =>
          rw [versionFits_some hline, ← toInt_bounded_iff]
          simp only [readOpenbmcVersion, hline]
          split
          · exact Iff.rfl
          · exact Iff.rfl

theorem mem_memcpyS_reads {m : MemcpyS} {s : VersionReply} {off dmax slen : Nat}
    {source : VersionSource} {memory : Nat → UInt8} {read : VersionSource × Nat}
    (h : read ∈ (s.memcpyS m off dmax source memory slen).reads) :
    read ∈ s.reads ∨ read = (source, slen) := by
  rw [VersionReply.memcpyS] at h
  split at h
  · exact .inl h
  · exact (List.mem_append.mp h).imp_right List.mem_singleton.mp

/-- The four copies. -/
theorem mem_obtainVersion_reads {m : MemcpyS} {v : BmcVersion} {r : AgentRequest}
    {behind : Nat → UInt8} {read : VersionSource × Nat}
    (h : read ∈ (obtainVersion m v r behind).reads) :
    read = (.asdVersion, asdVersion.length) ∨ read = (.text, 1) ∨
      read = (.bmcVersion, toSizeT v.size) := by
  rcases mem_memcpyS_reads h with h | h
  · rcases mem_memcpyS_reads h with h | h
    · rcases mem_memcpyS_reads h with h | h
      · rcases mem_memcpyS_reads h with h | h
        · cases h
        · exact .inl h
      · exact .inr (.inl h)
    · exact .inr (.inr h)
  · exact .inr (.inl h)

theorem getMessageSize_of_lsb {header : MessageHeader} (h : header.sizeMsb = 0) :
    getMessageSize header = some header.sizeLsb.toNat := by
  have hlsb : (header.sizeLsb &&& 0xFF).toNat = header.sizeLsb.toNat := by
    rw [UInt8.toNat_and]
    exact (Nat.and_two_pow_sub_one_eq_mod _ 8).trans (Nat.mod_eq_of_lt header.sizeLsb.toNat_lt)
  have hmsb : ((0 : UInt8) &&& 0x1F).toNat <<< 8 = 0 := by decide
  have hlt := header.sizeLsb.toNat_lt
  simp only [getMessageSize, h, hlsb, hmsb, Nat.or_zero]
  exact if_neg (by rw [maxDataSize]; omega)

section Bounded
variable {v : BmcVersion} (h : 0 ≤ v.size ∧ v.size ≤ sizeofBmcVersion)

include h

theorem toSizeT_size : (toSizeT v.size : Int) = v.size := by
  rw [sizeofBmcVersion] at h
  rw [toSizeT]
  omega

theorem getMessageSize_versionHeader (request : MessageHeader) :
    getMessageSize (versionHeader v request) =
      some (1 + asdVersion.length + toSizeT v.size) := by
  have hsize := toSizeT_size h
  have hasd : asdVersion.length = 15 := rfl
  rw [sizeofBmcVersion] at h
  refine (getMessageSize_of_lsb rfl).trans (congrArg some ?_)
  simp only [versionHeader, UInt8.ofInt, UInt8.toNat_add, UInt8.toNat_ofNat', hasd,
    UInt8.toNat_one]
  omega

end Bounded

/-- For every content of the file the version is bounded and answered honestly if and only
if it fits. -/
theorem version_reply_honest (m : MemcpyS) (osRelease : Option (List UInt8)) (r : AgentRequest)
    (behind : Nat → UInt8) :
    VersionHonest m (readOpenbmcVersion m osRelease).1 r behind ↔ VersionFits osRelease := by
  rw [← readOpenbmcVersion_bounded_iff m]
  constructor
  · exact VersionHonest.bounded
  · intro h
    generalize (readOpenbmcVersion m osRelease).1 = v at h ⊢
    have hheader := getMessageSize_versionHeader h r.header
    have hlength : (versionPacket m v r behind).2.length =
        1 + asdVersion.length + toSizeT v.size := by
      rw [versionPacket, length_slice, hheader, Option.getD_some]
    refine ⟨h, fun read hread => ?_, ?_, hheader.trans (congrArg some hlength.symm)⟩
    · obtain rfl | rfl | rfl := mem_obtainVersion_reads hread
      · exact Nat.le_refl _
      · exact rfl
      · refine ⟨Int.le_of_eq (toSizeT_size h), ?_⟩
        rw [v.length_bytes, ← Int.ofNat_le, toSizeT_size h]
        exact h.2
    · rw [hlength, Int.natCast_add, Int.natCast_add, toSizeT_size h]
      rfl

/-- A `memcpy_s` that fails only where it has to. -/
def plainMemcpyS : MemcpyS := ⟨fun dmax slen => dmax < slen, by simp⟩

/-- A version of 199 bytes is not copied and answered with 199 bytes all the same, out of
the 120 of the array; a line that ends behind the name leaves a negative size. -/
theorem version_reply_overreads :
    let long := asciiBytes "OPENBMC_VERSION=" ++ List.replicate 199 0x31 ++ [0x0A]
    let short := asciiBytes "OPENBMC_VERSION" ++ [0x0A]
    let header : MessageHeader := ⟨0, 0, 0, 0, 0, 0, 0, 5⟩
    let r : AgentRequest := ⟨header, fun _ => 0, fun _ => 0, none, fun _ => false⟩
    let v := (readOpenbmcVersion plainMemcpyS (some long)).1
    v.size = 199 ∧ v.bytes = List.replicate 120 0 ∧
      (.bmcVersion, 199) ∈ (obtainVersion plainMemcpyS v r fun _ => 0).reads ∧
      ¬ VersionHonest plainMemcpyS v r (fun _ => 0) ∧
      (readOpenbmcVersion plainMemcpyS (some short)).1.size = -1 := by
  intro long short header r v
  have hsize : v.size = 199 := by decide +kernel
  refine ⟨hsize, by decide +kernel, by decide +kernel, fun honest => ?_, by decide⟩
  have hle := honest.bounded.2
  rw [hsize] at hle
  exact absurd hle (by decide)

end Honest

section Refines

/-- Copies that fit succeed, apart from empty ones. -/
structure MemcpyS.Copies (m : MemcpyS) : Prop where
  succeeds : ∀ n, 0 < n → n ≤ sizeofBmcVersion → m.fails n n = false

variable {m : MemcpyS} {v : BmcVersion}

theorem slice_memcpyS (hm : m.Copies) {s : VersionReply} {off n : Nat} {source : VersionSource}
    {memory : Nat → UInt8} (hn : n ≤ sizeofBmcVersion) :
    slice (s.memcpyS m off n source memory n).buffer 0 (off + n) =
      slice s.buffer 0 off ++ slice memory 0 n := by
  rw [VersionReply.memcpyS]
  split
  · next hfails =>
      have hzero : n = 0 := by
        by_contra hne
        exact ne_true_of_eq_false (hm.succeeds n (Nat.pos_of_ne_zero hne) hn) hfails
      rw [hzero, Nat.add_zero, slice_zero, List.append_nil]
  · have happend := slice_blit_append s.buffer off (slice memory 0 n)
    rwa [length_slice] at happend

theorem slice_memcpyS_before (s : VersionReply) {off dmax slen n : Nat} (source : VersionSource)
    (memory : Nat → UInt8) (hn : n ≤ off) :
    slice (s.memcpyS m off dmax source memory slen).buffer 0 n = slice s.buffer 0 n := by
  rw [VersionReply.memcpyS]
  split
  · rfl
  · exact slice_blit_before s.buffer _ (by omega)

/-- The bytes of the answer. -/
theorem obtainVersion_bytes (hm : m.Copies) (h : 0 ≤ v.size ∧ v.size ≤ sizeofBmcVersion)
    (r : AgentRequest) (behind : Nat → UInt8) :
    slice (obtainVersion m v r behind).buffer 0 (1 + asdVersion.length + toSizeT v.size) =
      r.header.cmdStat :: asdVersion.dropLast ++ [0x5F] ++ v.bytes.take (toSizeT v.size) := by
  have hsize := toSizeT_size h
  have hle : toSizeT v.size ≤ sizeofBmcVersion := by
    rw [← Int.ofNat_le, hsize]
    exact h.2
  have hend : toSizeT (asdVersion.length + v.size + 1) =
      1 + asdVersion.length + toSizeT v.size := by
    have hasd : asdVersion.length = 15 := rfl
    rw [sizeofBmcVersion] at h
    rw [toSizeT, hasd]
    omega
  have hversion : slice (blit behind 0 v.bytes) 0 (toSizeT v.size) =
      v.bytes.take (toSizeT v.size) := by
    have hall := slice_blit_append behind 0 v.bytes
    rw [Nat.zero_add, slice_zero, List.nil_append, v.length_bytes] at hall
    exact (take_slice _ 0 hle).symm.trans (congrArg (List.take _) hall)
  -- the underscore replaces the terminator of the first version
  have hfirst (s : VersionReply) (hs : slice s.buffer 0 1 = [r.header.cmdStat]) :
      slice (s.memcpyS m 1 asdVersion.length .asdVersion (asdVersion.getD · 0)
        asdVersion.length).buffer 0 asdVersion.length =
          r.header.cmdStat :: asdVersion.dropLast := by
    have hfits : asdVersion.length ≤ sizeofBmcVersion := by decide
    have hall : slice (s.memcpyS m 1 asdVersion.length .asdVersion (asdVersion.getD · 0)
        asdVersion.length).buffer 0 (1 + asdVersion.length) =
          slice s.buffer 0 1 ++ slice (asdVersion.getD · 0) 0 asdVersion.length :=
      slice_memcpyS hm hfits
    rw [← take_slice _ 0 (Nat.le_add_left asdVersion.length 1), hall, hs]
    rfl
  rw [obtainVersion, hend, slice_memcpyS_before _ _ _ (Nat.le_refl _),
    Nat.add_comm 1 asdVersion.length, slice_memcpyS hm hle, slice_memcpyS hm (by decide),
    hfirst _ rfl, hversion]
  rfl

/-- The size fields of an answer of fewer than 256 bytes. -/
theorem versionHeader_eq (h : 0 ≤ v.size ∧ v.size ≤ sizeofBmcVersion) (request : MessageHeader)
    {size : Nat} (hsize : size = 1 + asdVersion.length + toSizeT v.size) :
    versionHeader v request = { request with
      sizeLsb := .ofNat (size &&& 0xFF), sizeMsb := .ofNat ((size >>> 8) &&& 0x1F),
      cmdStat := 0 } := by
  have hint := toSizeT_size h
  have hasd : asdVersion.length = 15 := rfl
  rw [sizeofBmcVersion] at h
  have hand : size &&& 0xFF = size := by
    refine (Nat.and_two_pow_sub_one_eq_mod size 8).trans (Nat.mod_eq_of_lt ?_)
    omega
  have hshift : size >>> 8 = 0 := by
    rw [Nat.shiftRight_eq_div_pow]
    omega
  have hlsb : 1 + UInt8.ofNat asdVersion.length + UInt8.ofInt v.size = UInt8.ofNat size := by
    refine UInt8.toNat.inj ?_
    simp only [UInt8.ofInt, UInt8.toNat_add, UInt8.toNat_ofNat', UInt8.toNat_one]
    omega
  rw [versionHeader, hlsb, hand, hshift]
  rfl

/-- A version in bounds is answered as the agent control answers with its text. -/
theorem versionPacket_eq (hm : m.Copies) (h : 0 ≤ v.size ∧ v.size ≤ sizeofBmcVersion)
    {c : MsgConfig} (hc : c.asdVersion = asdVersion) {s : MsgState}
    (hs : s.bmcVersion = v.bytes.take (toSizeT v.size)) (r : AgentRequest)
    (behind : Nat → UInt8) :
    versionPacket m v r behind = (obtainDownstreamVersion c s r).1.packet r := by
  have hint := toSizeT_size h
  have hasd : asdVersion.length = 15 := rfl
  have htext : s.bmcVersion.length = toSizeT v.size := by
    rw [hs, List.length_take, v.length_bytes]
    rw [sizeofBmcVersion] at h ⊢
    omega
  have hsize : (1 + c.asdVersion.length + s.bmcVersion.length) % 256 =
      1 + asdVersion.length + toSizeT v.size := by
    rw [hc, htext]
    rw [sizeofBmcVersion] at h
    omega
  simp only [obtainDownstreamVersion, AgentReply.packet]
  rw [← versionHeader_eq h r.header hsize, versionPacket, getMessageSize_versionHeader h,
    Option.getD_some, obtainVersion_bytes hm h, hc, hs]
  refine congrArg (Prod.mk _) ?_
  generalize htaken : v.bytes.take (toSizeT v.size) = text at hs ⊢
  have hlength : (r.header.cmdStat :: asdVersion.dropLast ++ [0x5F] ++ text).length =
      1 + asdVersion.length + toSizeT v.size := by
    rw [← htext, hs]
    simp only [List.length_append, List.length_cons, List.length_nil, List.length_dropLast]
    omega
  have hbytes := slice_blit_append r.out 0
    (r.header.cmdStat :: asdVersion.dropLast ++ [0x5F] ++ text ++ [0])
  rw [Nat.zero_add, slice_zero, List.nil_append] at hbytes
  rw [← hlength, ← take_slice _ 0 (List.prefix_append _ [0]).length_le, hbytes,
    List.take_left' rfl]

end Refines

end AtScaleDebug
