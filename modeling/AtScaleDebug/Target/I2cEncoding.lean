import AtScaleDebug.Lib.PrefixCode
import AtScaleDebug.Target.I2cMessages

/-!
The messages between the queue and the response. A message is put into the queue in
the driver's format, where the transfer fills in what was read, and taken out again one
by one while the response is built. Its entry names the direction and the length, so the
entries of a flush can be read back from the bytes of all the packets they went into,
and none of them is cut in two.
-/

namespace AtScaleDebug

open ByteBuffer

section Builder

/-- `asd_i2c_msg`. Of the buffer, as much as the length says is in use. -/
structure AsdI2cMsg where
  read : Bool
  forceStop : Bool
  address : UInt8
  length : UInt8
  buffer : Nat → UInt8
  short : length.toNat ≤ asdI2cBufferLen

def i2cMRd : UInt16 := 0x0001

/-- The driver's `i2c_msg`, with the memory its buffer points to. -/
structure DriverI2cMsg where
  addr : UInt16
  flags : UInt16
  len : UInt16
  buf : List UInt8
  short : len.toNat ≤ asdI2cBufferLen
  allocated : buf.length = len.toNat
  deriving DecidableEq

def copyAsdToI2c (asd : AsdI2cMsg) : DriverI2cMsg where
  addr := asd.address.toUInt16
  flags := if asd.read then 0 ||| i2cMRd else 0
  len := asd.length.toUInt16
  buf := slice asd.buffer 0 asd.length.toNat
  short := by rw [UInt8.toNat_toUInt16]; exact asd.short
  allocated := by rw [UInt8.toNat_toUInt16, length_slice]

theorem DriverI2cMsg.toNat_length (i2c : DriverI2cMsg) : i2c.len.toUInt8.toNat = i2c.len.toNat := by
  have hshort := i2c.short
  rw [UInt16.toNat_toUInt8, Nat.mod_eq_of_lt (by unfold asdI2cBufferLen at hshort; omega)]

/-- What the message does not set keeps its value in `asd`. -/
def copyI2cToAsd (asd : AsdI2cMsg) (i2c : DriverI2cMsg) : AsdI2cMsg where
  read := i2c.flags &&& i2cMRd = i2cMRd
  forceStop := asd.forceStop
  address := i2c.addr.toUInt8
  length := i2c.len.toUInt8
  buffer := blit asd.buffer 0 (i2c.buf.take asdI2cBufferLen)
  short := by rw [i2c.toNat_length]; exact i2c.short

def i2cMsgAdd (builder : List DriverI2cMsg) (msg : AsdI2cMsg) : List DriverI2cMsg :=
  builder ++ [copyAsdToI2c msg]

def i2cMsgGetCount (builder : List DriverI2cMsg) : Nat := builder.length

def i2cMsgGetAsdI2cMsg (builder : List DriverI2cMsg) (index : Nat) (msg : AsdI2cMsg) :
    AsdI2cMsg × Status :=
  match builder[index]? with
  | some i2c => (copyI2cToAsd msg i2c, .ok)
  | none => (msg, .err)

/-- The bytes the loop puts into the output buffer for a message. -/
def AsdI2cMsg.entry (msg : AsdI2cMsg) (ack : Bool) : List UInt8 :=
  [(if msg.read then 0x20 else 0x60) + msg.length,
    if ack then 0x80 + msg.length else msg.length] ++
    if msg.read then slice msg.buffer 0 msg.length.toNat else []

/-- The loop of `build_responses` from index `k` on. All messages are copied to the one
local variable `msg`. -/
def buildResponsesLoop (request : MessageHeader) (continued : Nat → Bool) (ack : Bool)
    (builder : List DriverI2cMsg) : Nat → Nat → AsdI2cMsg → I2cOutput → I2cOutput × Status
  | 0, _, _, o => (o, .ok)
  | rounds + 1, k, msg, o =>
      match i2cMsgGetAsdI2cMsg builder k msg with
      | (msg, .ok) =>
          if msg.length.toNat + o.response.length + 2 > maxDataSize then
            let o := o.send request asdPacketContinuation
            if continued k then
              buildResponsesLoop request continued ack builder rounds (k + 1) msg
                { o with response := msg.entry ack }
            else (o, .err)
          else
            buildResponsesLoop request continued ack builder rounds (k + 1) msg
              { o with response := o.response ++ msg.entry ack }
      | (_, status) => (o, status)

/-- `build_responses`; `msg` is what the local variable holds before it is set. -/
def buildResponsesOf (request : MessageHeader) (continued : Nat → Bool) (ack : Bool)
    (builder : List DriverI2cMsg) (msg : AsdI2cMsg) (o : I2cOutput) : I2cOutput × Status :=
  buildResponsesLoop request continued ack builder (i2cMsgGetCount builder) 0 msg o

end Builder

section Queue
variable (request : MessageHeader) (continued : Nat → Bool) (ack : Bool)

/-- The message in the queue as the model of the flush has it. -/
def DriverI2cMsg.msg (i2c : DriverI2cMsg) : I2cMsg where
  read := i2c.flags &&& i2cMRd = i2cMRd
  address := i2c.addr.toUInt8
  buffer := i2c.buf
  short := by rw [i2c.allocated]; exact i2c.short

theorem DriverI2cMsg.length_msg (i2c : DriverI2cMsg) :
    i2c.msg.buffer.length = i2c.len.toUInt8.toNat := by
  rw [toNat_length]
  exact i2c.allocated

theorem copyI2cToAsd_entry (asd : AsdI2cMsg) (i2c : DriverI2cMsg) :
    (copyI2cToAsd asd i2c).entry ack = i2c.msg.entry ack := by
  have hlength : UInt8.ofNat i2c.msg.buffer.length = i2c.len.toUInt8 := by
    rw [i2c.length_msg, UInt8.ofNat_toNat]
  have htake : i2c.buf.take asdI2cBufferLen = i2c.buf :=
    List.take_of_length_le (i2c.allocated ▸ i2c.short)
  have hdata : slice (copyI2cToAsd asd i2c).buffer 0 (copyI2cToAsd asd i2c).length.toNat =
      i2c.msg.buffer := by
    have hfront := slice_blit asd.buffer 0 i2c.buf
    rw [i2c.allocated, ← i2c.toNat_length] at hfront
    rw [copyI2cToAsd, htake]
    exact hfront
  rw [AsdI2cMsg.entry, hdata, I2cMsg.entry, hlength]
  rfl

/-- A message that is queued and taken out again is reported as it was. -/
theorem copyAsdToI2c_entry (asd other : AsdI2cMsg) :
    (copyI2cToAsd other (copyAsdToI2c asd)).entry ack = asd.entry ack := by
  have hlength : (copyAsdToI2c asd).len.toUInt8 = asd.length := by
    simp [copyAsdToI2c]
  have hread : (copyAsdToI2c asd).msg.read = asd.read := by
    cases hread : asd.read <;> simp [copyAsdToI2c, DriverI2cMsg.msg, hread, i2cMRd]
  rw [copyI2cToAsd_entry, I2cMsg.entry, (copyAsdToI2c asd).length_msg, hlength, hread,
    UInt8.ofNat_toNat]
  rfl

theorem buildResponsesLoop_eq (builder rest : List DriverI2cMsg) (msg : AsdI2cMsg)
    (o : I2cOutput) :
    buildResponsesLoop request continued ack (builder ++ rest) rest.length builder.length msg o =
      buildResponses request continued ack builder.length (rest.map DriverI2cMsg.msg) o := by
  induction rest generalizing builder msg o with
  | nil => rfl
  | cons i2c rest ih =>
      have hget : i2cMsgGetAsdI2cMsg (builder ++ i2c :: rest) builder.length msg =
          (copyI2cToAsd msg i2c, .ok) := by
        simp [i2cMsgGetAsdI2cMsg]
      have hsize : (copyI2cToAsd msg i2c).length.toNat = i2c.msg.buffer.length :=
        i2c.length_msg.symm
      have hnext := ih (builder ++ [i2c])
      simp only [List.append_assoc, List.singleton_append, List.length_append,
        List.length_singleton] at hnext
      simp only [List.length_cons, buildResponsesLoop, hget, hsize, copyI2cToAsd_entry, hnext,
        List.map_cons, buildResponses]

/-- The source's loop over the queue is the model's over the messages in it. -/
theorem buildResponsesOf_eq (builder : List DriverI2cMsg) (msg : AsdI2cMsg) (o : I2cOutput) :
    buildResponsesOf request continued ack builder msg o =
      buildResponses request continued ack 0 (builder.map DriverI2cMsg.msg) o :=
  buildResponsesLoop_eq request continued ack [] builder msg o

end Queue

section Entries

/-- What an entry says: the acknowledge bit, and for a read what was read. -/
structure I2cEntry where
  read : Bool
  length : Fin (asdI2cBufferLen + 1)
  ack : Bool
  data : List UInt8
  fits : data.length = if read then length.val else 0
  deriving DecidableEq

def I2cEntry.encode (e : I2cEntry) : List UInt8 :=
  [(if e.read then 0x20 else 0x60) + .ofNat e.length,
    if e.ack then 0x80 + .ofNat e.length else .ofNat e.length] ++ e.data

theorem i2cLength_lt (cmd : UInt8) : i2cLength cmd < asdI2cBufferLen + 1 :=
  Nat.lt_succ_of_le (i2cLength_le cmd)

/-- A read command has bit 6 clear, an acknowledged transfer bit 7 of the second byte set. -/
def I2cEntry.next : List UInt8 → Option (I2cEntry × List UInt8)
  | cmd :: status :: bytes =>
      let read : Bool := cmd &&& 0x40 = 0
      let size := if read then i2cLength cmd else 0
      if h : size ≤ bytes.length then
        some (⟨read, ⟨i2cLength cmd, i2cLength_lt cmd⟩, status &&& 0x80 ≠ 0, bytes.take size,
          List.length_take_of_le h⟩, bytes.drop size)
      else none
  | _ => none

private theorem command_bits (read : Bool) (length : Fin (asdI2cBufferLen + 1)) :
    let cmd : UInt8 := (if read then 0x20 else 0x60) + .ofNat length
    i2cLength cmd = length ∧ (cmd &&& 0x40 = 0 ↔ read = true) := by
  revert length
  cases read <;> decide

private theorem status_bits (ack : Bool) (length : Fin (asdI2cBufferLen + 1)) :
    ((if ack then 0x80 + .ofNat length else .ofNat length : UInt8) &&& 0x80 ≠ 0) ↔ ack = true := by
  revert length
  cases ack <;> decide

theorem I2cEntry.next_encode (e : I2cEntry) (rest : List UInt8) :
    I2cEntry.next (e.encode ++ rest) = some (e, rest) := by
  obtain ⟨read, length, ack, data, fits⟩ := e
  obtain ⟨hlength, hread⟩ := command_bits read length
  have hack := status_bits ack length
  have hfits : data.length ≤ (data ++ rest).length := by
    rw [List.length_append]
    exact Nat.le_add_right _ _
  simp only [encode, List.cons_append, List.nil_append, next, hlength, hread, hack,
    Bool.decide_eq_true, ← fits, List.take_left, List.drop_left]
  exact dif_pos hfits

def i2cEntryCode : PrefixCode I2cEntry UInt8 where
  encode := I2cEntry.encode
  next := I2cEntry.next
  nonempty _ := List.cons_ne_nil _ _
  next_encode := I2cEntry.next_encode

/-- The entry of a message in the queue. -/
def I2cMsg.report (m : I2cMsg) (ack : Bool) : I2cEntry where
  read := m.read
  length := ⟨m.buffer.length, Nat.lt_succ_of_le m.short⟩
  ack := ack
  data := if m.read then m.buffer else []
  fits := by split <;> rfl

theorem encode_report (m : I2cMsg) (ack : Bool) :
    i2cEntryCode.encode (m.report ack) = m.entry ack := rfl

theorem length_entry_le (m : I2cMsg) (ack : Bool) : (m.entry ack).length ≤ m.buffer.length + 2 := by
  cases hread : m.read <;> simp [I2cMsg.entry, hread]

end Entries

section Packets
variable (request : MessageHeader) (ack : Bool)

/-- A packet that announces that more follows, with all of its payload. -/
structure ContinuationPacket (packet : Packet) : Prop where
  cmdStat : packet.1.cmdStat = asdPacketContinuation
  size : getMessageSize packet.1 = some packet.2.length
  bounded : packet.2.length ≤ maxDataSize

theorem send_continuation (o : I2cOutput) (h : o.response.length ≤ maxDataSize) :
    ∃ packet, (o.send request asdPacketContinuation).sent = o.sent ++ [packet] ∧
      packet.2 = o.response ∧ ContinuationPacket packet :=
  ⟨_, rfl, rfl, rfl, getMessageSize_of_fields request asdPacketContinuation h, h⟩

theorem buildResponses_packed (k : Nat) (msgs : List I2cMsg) (o : I2cOutput)
    (h : o.response.length ≤ maxDataSize) :
    ∃ packets response,
      buildResponses request (fun _ => true) ack k msgs o = (⟨response, o.sent ++ packets⟩, .ok) ∧
      response.length ≤ maxDataSize ∧ (∀ packet ∈ packets, ContinuationPacket packet) ∧
      i2cEntryCode.Packed o.response (msgs.map (·.report ack))
        (packets.map Prod.snd ++ [response]) := by
  induction msgs generalizing k o with
  | nil =>
      refine ⟨[], o.response, ?_, h, by simp, .nil _⟩
      rw [buildResponses, List.append_nil]
  | cons m msgs ih =>
      have hentry := length_entry_le m ack
      by_cases hfull : m.buffer.length + o.response.length + 2 > maxDataSize
      · have hshort : (m.entry ack).length ≤ maxDataSize := by
          have hbuffer : m.buffer.length ≤ 15 := m.short
          unfold maxDataSize
          omega
        obtain ⟨packets, response, hrun, hresponse, hpackets, hpacked⟩ :=
          ih (k + 1) { o.send request asdPacketContinuation with response := m.entry ack } hshort
        obtain ⟨packet, hsent, hbytes, hpacket⟩ := send_continuation request o h
        refine ⟨packet :: packets, response, ?_, hresponse,
          List.forall_mem_cons.mpr ⟨hpacket, hpackets⟩, ?_⟩
        · rw [buildResponses, if_pos hfull, if_pos rfl, hrun, hsent, List.append_assoc,
            List.singleton_append]
        · rw [List.map_cons, List.map_cons, List.cons_append, hbytes]
          rw [← encode_report] at hpacked
          exact hpacked.send
      · obtain ⟨packets, response, hrun, hresponse, hpackets, hpacked⟩ :=
          ih (k + 1) { o with response := o.response ++ m.entry ack } (by
            rw [List.length_append]
            omega)
        rw [← encode_report] at hpacked
        refine ⟨packets, response, ?_, hresponse, hpackets, hpacked.put⟩
        rw [buildResponses, if_neg hfull, hrun]

/-- A flush reports the messages of the queue in their order behind what was in the
response, each in one packet; the packets are full-sized at most, all but the last are
continued, and the entries can be read back from the bytes of all of them. -/
theorem i2c_responses_packed (builder : List DriverI2cMsg) (msg : AsdI2cMsg) (o : I2cOutput)
    (h : o.response.length ≤ maxDataSize) :
    let entries := builder.map (·.msg.report ack)
    ∃ packets response,
      buildResponsesOf request (fun _ => true) ack builder msg o =
        (⟨response, o.sent ++ packets⟩, .ok) ∧
      packets.flatMap Prod.snd ++ response =
        o.response ++ builder.flatMap (fun i2c => i2c.msg.entry ack) ∧
      (∀ packet ∈ packets, ContinuationPacket packet) ∧ response.length ≤ maxDataSize ∧
      i2cEntryCode.Packed o.response entries (packets.map Prod.snd ++ [response]) ∧
      i2cEntryCode.decodeAll ((packets.flatMap Prod.snd ++ response).drop o.response.length) =
        some entries := by
  obtain ⟨packets, response, hrun, hresponse, hpackets, hpacked⟩ :=
    buildResponses_packed request ack 0 (builder.map DriverI2cMsg.msg) o h
  have hbytes := hpacked.flatten
  rw [List.flatten_append, List.flatten_singleton, ← List.flatMap_def] at hbytes
  rw [List.map_map] at hpacked hbytes
  refine ⟨packets, response, ?_, ?_, hpackets, hresponse, hpacked, ?_⟩
  · rw [buildResponsesOf_eq, hrun]
  · rw [hbytes, PrefixCode.encodeAll, List.flatMap_map]
    rfl
  · rw [hbytes, List.drop_left]
    exact i2cEntryCode.decodeAll_encodeAll _

/-- A read and a write behind a response with no room for either. -/
theorem i2c_responses_packed_full :
    let read : AsdI2cMsg := ⟨true, false, 0x50, 2, fun _ => 7, by decide⟩
    let write : AsdI2cMsg := ⟨false, true, 0x51, 1, fun _ => 9, by decide⟩
    let builder := i2cMsgAdd (i2cMsgAdd [] read) write
    let o : I2cOutput := ⟨List.replicate maxDataSize 0, []⟩
    o.response.length ≤ maxDataSize ∧ ∃ packets response,
      buildResponsesOf (.ofBytes fun _ => 0) (fun _ => true) true builder read o =
        (⟨response, packets⟩, .ok) ∧
      packets.flatMap Prod.snd ++ response =
        o.response ++ [0x22, 0x82, 7, 7, 0x61, 0x81] ∧
      ∀ packet ∈ packets, ContinuationPacket packet := by
  intro read write builder o
  have hlength : o.response.length ≤ maxDataSize := Nat.le_of_eq List.length_replicate
  obtain ⟨packets, response, hrun, hbytes, hpackets, -⟩ :=
    i2c_responses_packed (.ofBytes fun _ => 0) true builder read o hlength
  have hentries : builder.flatMap (fun i2c => i2c.msg.entry true) =
      [0x22, 0x82, 7, 7, 0x61, 0x81] := by decide
  rw [hentries] at hbytes
  exact ⟨hlength, packets, response, hrun, hbytes, hpackets⟩

end Packets

end AtScaleDebug
