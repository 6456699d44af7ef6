import AtScaleDebug.Lib.ByteBuffer
import AtScaleDebug.Lib.Machine
import AtScaleDebug.Target.Message
import AtScaleDebug.Target.SppHandler

/-!
The events of the streaming probe and the packet that collects them in bulk mode.

The packet is a message of its own with two counters: how much of its buffer is
filled, and how many events are in it. Both are globals that outlive the message
that uses them; a fill level of zero is what says that no bulk is under way. The
buffer is a region without an end, and what is stored where and handed to
`send_response` is recorded.
-/

namespace AtScaleDebug

open ByteBuffer

def eventBufferSize : Nat := 512

def asdEventBpk : UInt8 := 14
def asdEventBulkBpk : UInt8 := 15
def broadcastMessageOriginId : UInt8 := 7
def sppBulkResponseIbiMaxCount : Nat := 255

def sppIbiDataReady : UInt8 := 0xAD
def sppIbiStatusChanged : UInt8 := 0x5C
def sppIbiSubreasonBufferThreshold : UInt8 := 0x00
def sppIbiSubreasonPrdy : UInt8 := 0x83
def sppIbiSubreasonOverflow : UInt8 := 0xFF

/-- The event data of an `ASD_EVENT_BPK`. The size field is the length of `data`. -/
structure BpkEvent where
  addr : Fin maxSppBusDevices
  data : List UInt8
  fits : data.length ≤ eventBufferSize
  deriving DecidableEq

def checkSppAutoCmdEvent (e : BpkEvent) : Bool :=
  match e.data with
  | reason :: subreason :: _ =>
      (reason = sppIbiDataReady ∨ reason = sppIbiStatusChanged) ∧
        subreason = sppIbiSubreasonBufferThreshold
  | _ => false

def checkSppPrdyEvent (e : BpkEvent) : Bool :=
  match e.data with
  | reason :: subreason :: _ =>
      reason = sppIbiStatusChanged ∧
        (subreason = sppIbiSubreasonPrdy ∨ subreason = sppIbiSubreasonOverflow)
  | _ => false

/-- The header of an event packet of `responseCnt` bytes. -/
def eventHeader (responseCnt : Nat) : MessageHeader where
  originId := broadcastMessageOriginId
  reserved := 0
  encBit := 0
  type := 1
  sizeLsb := lsbFromMsgSize responseCnt
  sizeMsb := msbFromMsgSize responseCnt
  tag := broadcastMessageOriginId
  cmdStat := 0

/-- The bytes of an event in a bulk packet. The size takes one byte. -/
def BpkEvent.entry (e : BpkEvent) : List UInt8 :=
  [.ofNat (e.data.length &&& 0xFF), .ofNat (e.addr.val &&& 0xFF)] ++ e.data

/-- The packet of an event that is sent by itself. -/
def BpkEvent.packet (e : BpkEvent) : Packet :=
  (eventHeader (e.data.length + 2), asdEventBpk :: .ofNat (e.addr.val &&& 0xFF) :: e.data)

/-- A bulk packet keeps the fill level it was made with. -/
inductive BulkRecord where
  | started
  | saved (event : BpkEvent) (position : Nat)
  | packed (count : Nat) (header : MessageHeader) (payload : List UInt8)
  | alone (event : BpkEvent)

/-- `spp_bulk_out_msg.buffer`, `spp_bulk_response_buffer_count` and
`spp_bulk_response_ibi_count`. The header of the message is zero up to what is set
for each packet. -/
structure SppBulk where
  buffer : Nat → UInt8
  bufferCount : Nat
  ibiCount : Nat
  log : List BulkRecord

namespace SppBulk

def initial : SppBulk := ⟨fun _ => 0, 0, 0, []⟩

def record (b : SppBulk) (r : BulkRecord) : SppBulk := { b with log := b.log ++ [r] }

/-- What an `SPP_BULK` does before it is answered. -/
def clear (b : SppBulk) : SppBulk := { b with buffer := fun _ => 0 }

/-- The first two bytes are kept for the kind of the packet and the number of events. -/
def restart (b : SppBulk) : SppBulk := { b with bufferCount := 2, ibiCount := 0 }

/-- A run of `buffer[count++] = byte`. -/
def save (b : SppBulk) (e : BpkEvent) : SppBulk :=
  { b with
    buffer := blit b.buffer b.bufferCount e.entry
    bufferCount := b.bufferCount + e.entry.length
    ibiCount := b.ibiCount + 1 }.record (.saved e b.bufferCount)

/-- The first two bytes are set when the packet is sent. -/
def sealed (b : SppBulk) : SppBulk :=
  { b with buffer := blit b.buffer 0 [asdEventBulkBpk, .ofNat b.ibiCount] }

def packet (b : SppBulk) : BulkRecord :=
  .packed b.bufferCount (eventHeader b.bufferCount)
    (slice b.sealed.buffer 0 ((getMessageSize (eventHeader b.bufferCount)).getD 0))

end SppBulk

/-- `send_response` refuses a size that the size fields cannot announce. -/
def sendBulkBpkEvent (b : SppBulk) (written : Bool) : SppBulk × Status :=
  (b.sealed.record b.packet,
    if (getMessageSize (eventHeader b.bufferCount)).isSome ∧ written then .ok else .err)

/-- The writes of one event: the bulk packet that makes room for it, and its own. -/
structure BpkIo where
  flushed : Bool
  written : Bool

/-- A bulk is under way and takes the event; `enabled` is the configured bulk response. -/
def Stores (b : SppBulk) (e : BpkEvent) (enabled : Bool) : Prop :=
  enabled = true ∧ checkSppAutoCmdEvent e = true ∧ 0 < b.bufferCount

/-- The packet is sent before the event is stored. -/
def MakesRoom (b : SppBulk) (e : BpkEvent) : Prop :=
  b.bufferCount + e.data.length ≥ maxDataSize ∨ b.ibiCount = sppBulkResponseIbiMaxCount

instance (b : SppBulk) (e : BpkEvent) (enabled : Bool) : Decidable (Stores b e enabled) :=
  inferInstanceAs (Decidable (_ ∧ _))

instance (b : SppBulk) (e : BpkEvent) : Decidable (MakesRoom b e) :=
  inferInstanceAs (Decidable (_ ∨ _))

def sendBpkEvent (enabled : Bool) (b : SppBulk) (e : BpkEvent) (io : BpkIo) : SppBulk × Status :=
  if Stores b e enabled then
    if MakesRoom b e then
      let (b, result) := sendBulkBpkEvent b io.flushed
      (b.restart.save e, result)
    else (b.save e, .ok)
  else (b.record (.alone e), if io.written then .ok else .err)

section Machine

/-- What happens to the bulk packet: an `SPP_BULK` that was answered or one whose
answer failed, an event, and the end of a message in bulk mode. -/
inductive BulkAction where
  | start
  | refused
  | event (enabled : Bool) (e : BpkEvent) (io : BpkIo)
  | finish (written : Bool)

def bulkStep (b : SppBulk) : BulkAction → SppBulk
  | .start => b.clear.restart.record .started
  | .refused => b.clear
  | .event enabled e io => (sendBpkEvent enabled b e io).1
  | .finish written => { (sendBulkBpkEvent b written).1 with bufferCount := 0, ibiCount := 0 }

end Machine

section Spec
variable (b : SppBulk) (e : BpkEvent)

theorem BpkEvent.length_entry : e.entry.length = e.data.length + 2 := rfl

/-- A device address fits in its byte. -/
theorem BpkEvent.toNat_addr : (UInt8.ofNat (e.addr.val &&& 0xFF)).toNat = e.addr.val := by
  have hlt : e.addr.val < 8 := e.addr.isLt
  rw [Nat.and_two_pow_sub_one_eq_mod e.addr.val 8, UInt8.toNat_ofNat']
  omega

@[simp] theorem record_bufferCount (r : BulkRecord) :
    (b.record r).bufferCount = b.bufferCount := rfl

@[simp] theorem record_ibiCount (r : BulkRecord) : (b.record r).ibiCount = b.ibiCount := rfl

@[simp] theorem record_buffer (r : BulkRecord) : (b.record r).buffer = b.buffer := rfl

@[simp] theorem record_log (r : BulkRecord) : (b.record r).log = b.log ++ [r] := rfl

@[simp] theorem save_bufferCount :
    (b.save e).bufferCount = b.bufferCount + (e.data.length + 2) := rfl

@[simp] theorem save_ibiCount : (b.save e).ibiCount = b.ibiCount + 1 := rfl

@[simp] theorem save_log : (b.save e).log = b.log ++ [.saved e b.bufferCount] := rfl

@[simp] theorem restart_log : b.restart.log = b.log := rfl

/-- What an event can do to the bulk packet. -/
theorem sendBpkEvent_cases (enabled : Bool) (io : BpkIo) :
    (Stores b e enabled ∧ MakesRoom b e ∧
      (sendBpkEvent enabled b e io).1 = (sendBulkBpkEvent b io.flushed).1.restart.save e) ∨
    (Stores b e enabled ∧ ¬ MakesRoom b e ∧ (sendBpkEvent enabled b e io).1 = b.save e) ∨
    (¬ Stores b e enabled ∧ (sendBpkEvent enabled b e io).1 = b.record (.alone e)) := by
  by_cases hstores : Stores b e enabled
  · by_cases hroom : MakesRoom b e
    · refine .inl ⟨hstores, hroom, ?_⟩
      rw [sendBpkEvent, if_pos hstores, if_pos hroom]
    · refine .inr (.inl ⟨hstores, hroom, ?_⟩)
      rw [sendBpkEvent, if_pos hstores, if_neg hroom]
  · refine .inr (.inr ⟨hstores, ?_⟩)
    rw [sendBpkEvent, if_neg hstores]

end Spec

end AtScaleDebug
