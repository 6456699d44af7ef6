import AtScaleDebug.Common

/-!
The four byte message header, with its bit fields as the packed C structure
lays them out, and the payload length it announces; and what the processing of
every type of message shares: reading operands off the packet, the size fields of
a response and the error messages.
-/

namespace AtScaleDebug

def maxDataSize : Nat := 3000
def messageHeaderSize : Nat := 4

structure MessageHeader where
  originId : UInt8
  reserved : UInt8
  encBit : UInt8
  type : UInt8
  sizeLsb : UInt8
  sizeMsb : UInt8
  tag : UInt8
  cmdStat : UInt8
  deriving DecidableEq, Repr

/-- The fields of the header stored at `bytes`, lowest bits first. -/
def MessageHeader.ofBytes (bytes : Nat → UInt8) : MessageHeader where
  originId := bytes 0 &&& 0x07
  reserved := (bytes 0 >>> 3) &&& 0x01
  encBit := (bytes 0 >>> 4) &&& 0x01
  type := bytes 0 >>> 5
  sizeLsb := bytes 1
  sizeMsb := bytes 2 &&& 0x1F
  tag := bytes 2 >>> 5
  cmdStat := bytes 3

/-- The header as it lies in memory. -/
def MessageHeader.toBytes (header : MessageHeader) : List UInt8 :=
  [header.originId ||| header.reserved <<< 3 ||| header.encBit <<< 4 ||| header.type <<< 5,
    header.sizeLsb, header.sizeMsb ||| header.tag <<< 5, header.cmdStat]

/-- `none` is the source's `-1`. -/
def getMessageSize (header : MessageHeader) : Option Nat :=
  let result := (header.sizeLsb &&& 0xFF).toNat ||| ((header.sizeMsb &&& 0x1F).toNat <<< 8)
  if result > maxDataSize then none else some result

theorem getMessageSize_le {header : MessageHeader} {n : Nat}
    (h : getMessageSize header = some n) : n ≤ maxDataSize := by
  unfold getMessageSize at h
  dsimp only at h
  split at h
  · cases h
  · cases h
    omega

abbrev Packet := MessageHeader × List UInt8

def asdFailureInitJtagHandler : UInt8 := 0x26
def asdFailureInitI2cHandler : UInt8 := 0x27
def asdMsgCryptNotSupported : UInt8 := 0x25
def asdMsgNotSupported : UInt8 := 0x29
def asdFailureProcessI2cMsg : UInt8 := 0x2B
def asdFailureProcessI2cLock : UInt8 := 0x2C
def asdI2cMsgNotSupported : UInt8 := 0x2D
def asdFailureRemoveI2cLock : UInt8 := 0x2E
def asdFailureXdpPresent : UInt8 := 0x30
def asdPacketContinuation : UInt8 := 0x80
def asdFailureProcessJtagMsg : UInt8 := 0x2A
def asdFailureInitVprobeHandler : UInt8 := 0x31
def asdFailureInitSppHandler : UInt8 := 0x3C
def asdFailureProcessSppMsg : UInt8 := 0x3D

/-- `send_error_message`. -/
def errorMessage (request : MessageHeader) (cmdStat : UInt8) : Packet :=
  ({ request with type := 1, sizeLsb := 0, sizeMsb := 0, cmdStat }, [])

def lsbFromMsgSize (responseCnt : Nat) : UInt8 := .ofNat (responseCnt &&& 0xFF)

def msbFromMsgSize (responseCnt : Nat) : UInt8 :=
  .ofNat ((min responseCnt maxDataSize >>> 8) &&& 0x1F)

/-- `send_response` of a message with the given response: the packet, unless its
size fields are out of range. -/
def sendResponse (request : MessageHeader) (response : List UInt8) (cmdStat : UInt8) :
    Option Packet :=
  let header := { request with
    sizeLsb := lsbFromMsgSize response.length
    sizeMsb := msbFromMsgSize response.length
    cmdStat }
  (getMessageSize header).map fun size => (header, response.take size)

/-- The upper size field is capped, the lower one is not. -/
theorem sizeFields_eq (n : Nat) :
    (lsbFromMsgSize n &&& 0xFF).toNat ||| ((msbFromMsgSize n &&& 0x1F).toNat <<< 8) =
      min n maxDataSize / 256 * 256 + n % 256 := by
  have hlsb : (lsbFromMsgSize n &&& 0xFF).toNat = n % 256 := by
    rw [UInt8.toNat_and, lsbFromMsgSize, UInt8.toNat_ofNat']
    have h255 : ∀ k, k &&& 255 = k % 256 := fun k => Nat.and_two_pow_sub_one_eq_mod k 8
    have hff : (0xFF : UInt8).toNat = 255 := rfl
    rw [hff, h255, h255]
    omega
  have hmsb : (msbFromMsgSize n &&& 0x1F).toNat = min n maxDataSize / 256 := by
    rw [UInt8.toNat_and, msbFromMsgSize, UInt8.toNat_ofNat']
    have h31 : ∀ k, k &&& 31 = k % 32 := fun k => Nat.and_two_pow_sub_one_eq_mod k 5
    have h1f : (0x1F : UInt8).toNat = 31 := rfl
    rw [h1f, h31, h31, Nat.shiftRight_eq_div_pow, maxDataSize]
    omega
  rw [hlsb, hmsb, Nat.or_comm, ← Nat.shiftLeft_add_eq_or_of_lt (Nat.mod_lt n (by decide)),
    Nat.shiftLeft_eq]

/-- The cap shows from the next multiple of 256 on. -/
theorem sizeFields_of_lt {n : Nat} (h : n < 3072) :
    (lsbFromMsgSize n &&& 0xFF).toNat ||| ((msbFromMsgSize n &&& 0x1F).toNat <<< 8) = n := by
  rw [sizeFields_eq, maxDataSize]
  omega

/-- The two size fields hold every length a response can have. -/
theorem getMessageSize_of_length (request : MessageHeader) {n : Nat} (cmdStat : UInt8)
    (h : n ≤ maxDataSize) :
    getMessageSize { request with
      sizeLsb := lsbFromMsgSize n, sizeMsb := msbFromMsgSize n, cmdStat } = some n := by
  have hlt : n < 3072 := Nat.lt_of_le_of_lt h (by decide)
  simp only [getMessageSize, sizeFields_of_lt hlt]
  exact if_neg (Nat.not_lt.mpr h)

/-- The fields of the I2C responses and of the agent control. -/
theorem getMessageSize_of_fields (request : MessageHeader) {n : Nat} (cmdStat : UInt8)
    (h : n ≤ maxDataSize) :
    getMessageSize { request with
      sizeLsb := .ofNat (n &&& 0xFF), sizeMsb := .ofNat ((n >>> 8) &&& 0x1F), cmdStat } =
      some n := by
  rw [← getMessageSize_of_length request cmdStat h, msbFromMsgSize, Nat.min_eq_left h]
  rfl

theorem sendResponse_eq (request : MessageHeader) {response : List UInt8} (cmdStat : UInt8)
    (h : response.length ≤ maxDataSize) :
    sendResponse request response cmdStat = some ({ request with
      sizeLsb := lsbFromMsgSize response.length
      sizeMsb := msbFromMsgSize response.length
      cmdStat }, response) := by
  simp only [sendResponse, getMessageSize_of_length request cmdStat h, Option.map_some,
    List.take_length]

section HeaderSize

def MessageHeader.sized (header : MessageHeader) (n : Nat) : MessageHeader :=
  { header with sizeLsb := lsbFromMsgSize n, sizeMsb := msbFromMsgSize n }

/-- What the three functions make of a size. One that is too large keeps its lower byte
under the upper byte of the cap. -/
theorem getMessageSize_sized (header : MessageHeader) (n : Nat) :
    getMessageSize (header.sized n) =
      if n ≤ maxDataSize then some n
      else if n % 256 ≤ maxDataSize % 256 then some (maxDataSize / 256 * 256 + n % 256)
      else none := by
  simp only [getMessageSize, MessageHeader.sized, sizeFields_eq]
  by_cases hfits : n ≤ maxDataSize
  · rw [Nat.min_eq_left hfits, Nat.div_add_mod' n 256, if_neg (Nat.not_lt.mpr hfits),
      if_pos hfits]
  · have hcap : maxDataSize / 256 * 256 + maxDataSize % 256 = maxDataSize :=
      Nat.div_add_mod' maxDataSize 256
    rw [Nat.min_eq_right (Nat.le_of_not_le hfits), if_neg hfits]
    by_cases hlow : n % 256 ≤ maxDataSize % 256
    · rw [if_neg (by omega), if_pos hlow]
    · rw [if_pos (by omega), if_neg hlow]

/-- The size is read back, or the cap for a larger one, and nothing less. -/
structure SizeReadBack (header : MessageHeader) (n : UInt32) : Prop where
  size : getMessageSize (header.sized n.toNat) = some (min n.toNat maxDataSize)
  not_less : ∀ size ∈ getMessageSize (header.sized n.toNat), min n.toNat maxDataSize ≤ size

theorem size_read_back_iff (header : MessageHeader) (n : UInt32) :
    SizeReadBack header n ↔ n.toNat ≤ maxDataSize ∨ n.toNat % 256 = maxDataSize % 256 := by
  have hsize : getMessageSize (header.sized n.toNat) = some (min n.toNat maxDataSize) ↔
      n.toNat ≤ maxDataSize ∨ n.toNat % 256 = maxDataSize % 256 := by
    rw [getMessageSize_sized, maxDataSize]
    split
    · next hfits => exact iff_of_true (congrArg some (Nat.min_eq_left hfits).symm) (.inl hfits)
    · next hlarge =>
        rw [Nat.min_eq_right (Nat.le_of_not_le hlarge), or_iff_right hlarge]
        split
        · rw [Option.some.injEq]
          omega
        · exact iff_of_false (by rintro ⟨⟩) (by omega)
  refine ⟨fun h => hsize.mp h.size, fun h => ⟨hsize.mpr h, fun size hmem => ?_⟩⟩
  rw [hsize.mpr h] at hmem
  cases hmem
  exact Nat.le_refl _

/-- 3328 bytes are announced as 2816, and 3001 bytes are not sent. -/
theorem size_read_back_less :
    let header : MessageHeader := ⟨0, 0, 0, 0, 0, 0, 0, 0⟩
    getMessageSize (header.sized 3328) = some 2816 ∧ getMessageSize (header.sized 3001) = none ∧
      ¬ SizeReadBack header 3328 ∧ ¬ SizeReadBack header 3001 := by
  intro header
  have hless : getMessageSize (header.sized 3328) = some 2816 := by decide
  have hnone : getMessageSize (header.sized 3001) = none := by decide
  refine ⟨hless, hnone, fun h => ?_, fun h => ?_⟩
  · exact absurd (h.not_less 2816 hless) (by decide)
  · exact absurd (hnone.symm.trans h.size) (by decide)

end HeaderSize

/-- A part of a message buffer. -/
structure Region where
  offset : Nat
  length : Nat
  deriving DecidableEq, Repr

def Region.InBounds (r : Region) : Prop := r.offset + r.length ≤ maxDataSize

instance (r : Region) : Decidable r.InBounds := inferInstanceAs (Decidable (_ ≤ _))

def getPacketData (packet : List UInt8) (wanted : Nat) : Option (List UInt8 × List UInt8) :=
  if wanted ≤ packet.length then some (packet.take wanted, packet.drop wanted) else none

theorem getPacketData_length {packet data rest : List UInt8} {wanted : Nat}
    (h : getPacketData packet wanted = some (data, rest)) : rest.length ≤ packet.length := by
  rw [getPacketData] at h
  split at h
  · cases h
    simp
  · cases h

end AtScaleDebug
