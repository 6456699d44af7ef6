import AtScaleDebug.Lib.ByteBuffer
import AtScaleDebug.Lib.Framing
import AtScaleDebug.Target.Message

/-!
The resumable reader of client messages. `asdMsgRead` is called whenever the
client's socket is readable and continues where the last call stopped. The
socket, the pending-data query and the receiver of complete messages are
oracles indexed by how often they were used; the reader is compared with the
one-shot parser of the whole stream.
-/

namespace AtScaleDebug

open ByteBuffer Framing

inductive ReadState where
  | initial
  | header
  | buffer
  deriving DecidableEq, Repr

structure IncomingMsg where
  readState : ReadState
  header : Nat → UInt8
  buffer : Nat → UInt8
  readIndex : Nat
  dataSize : Nat

/-- A request to the transport: where in the message the bytes go, and how many
are asked for. -/
inductive ReadRequest where
  | header (offset length : Nat)
  | buffer (offset length : Nat)
  deriving DecidableEq, Repr

/-- The request stays inside the header or inside the buffer. -/
def ReadRequest.InBounds : ReadRequest → Prop
  | .header offset length => offset + length ≤ messageHeaderSize
  | .buffer offset length => offset + length ≤ maxDataSize

/-- The oracles. The `k`-th read returns as many bytes as `chunk k` allows, but
at least one while the stream lasts; `pending k` and `ioctl k` are what the
query for pending data reports after it. -/
structure ReadOracle where
  chunk : Nat → Nat
  pending : Nat → Bool
  ioctl : Nat → Status
  onMsgRecv : List (Frame UInt8) → Status

/-- The reader with the rest of the stream, the number of reads made, what was
delivered to the receiver and what was asked of the transport. -/
structure Reader where
  inMsg : IncomingMsg
  input : List UInt8
  reads : Nat
  delivered : List (Frame UInt8)
  requests : List ReadRequest

section Code
variable (o : ReadOracle)

/-- Number of bytes the next read returns for a request. -/
def readSize (r : Reader) (length : Nat) : Nat :=
  min (max 1 (o.chunk r.reads)) (min length r.input.length)

/-- `asd_api_server_read`: the bytes and the reader after the call. -/
def asdApiServerRead (r : Reader) (request : ReadRequest) (length : Nat) :
    List UInt8 × Reader :=
  let size := readSize o r length
  (r.input.take size,
    { r with
      input := r.input.drop size
      reads := r.reads + 1
      requests := r.requests ++ [request] })

/-- `asd_msg_on_msg_recv` on the message just completed. -/
def asdMsgOnMsgRecv (r : Reader) (size : Nat) : Reader × Status :=
  let frame := (slice r.inMsg.header 0 messageHeaderSize, slice r.inMsg.buffer 0 size)
  let delivered := r.delivered ++ [frame]
  ({ r with delivered := delivered }, o.onMsgRecv delivered)

def readInitial (r : Reader) : Reader :=
  { r with inMsg := ⟨.header, fun _ => 0, fun _ => 0, 0, 0⟩ }

/-- What the header case has done when it reaches the query for pending data;
`left` says that it broke out before. -/
structure HeaderOutcome where
  reader : Reader
  result : Status
  left : Bool

/-- A complete header. Sending the error reply for an oversized one does not
touch the reader. -/
def headerComplete (r : Reader) : HeaderOutcome :=
  match getMessageSize (.ofBytes r.inMsg.header) with
  | none =>
      ⟨{ r with inMsg := { r.inMsg with readState := .initial, readIndex := 0 } }, .err, false⟩
  | some 0 =>
      let (r, result) :=
        asdMsgOnMsgRecv o { r with inMsg := { r.inMsg with readState := .initial } } 0
      ⟨r, result, result = .err⟩
  | some size =>
      ⟨{ r with inMsg := { r.inMsg with
        readState := .buffer, readIndex := 0, dataSize := size } }, .ok, false⟩

/-- The header case once the transport has answered with `bytes`. -/
def headerArrived (r : Reader) (numToRead : Nat) (bytes : List UInt8) : HeaderOutcome :=
  if bytes.length > 0 then
    let size := if bytes.length > numToRead then numToRead else bytes.length
    let header := blit r.inMsg.header r.inMsg.readIndex bytes
    if numToRead - size = 0 then
      headerComplete o { r with inMsg := { r.inMsg with header := header } }
    else
      ⟨{ r with inMsg := { r.inMsg with
        header := header
        readIndex := messageHeaderSize - (numToRead - size) } }, .ok, false⟩
  else ⟨r, .err, false⟩

def readHeader (r : Reader) : HeaderOutcome :=
  let numToRead := messageHeaderSize - r.inMsg.readIndex
  let (bytes, r) := asdApiServerRead o r (.header r.inMsg.readIndex numToRead) numToRead
  headerArrived o r numToRead bytes

/-- The buffer case once the transport has answered with `bytes`. -/
def bufferArrived (r : Reader) (numToRead : Nat) (bytes : List UInt8) (result : Status) :
    Reader × Status :=
  if bytes.length > 0 then
    let size := if bytes.length > numToRead then numToRead else bytes.length
    let buffer := blit r.inMsg.buffer r.inMsg.readIndex bytes
    if numToRead - size = 0 then
      asdMsgOnMsgRecv o
        { r with inMsg := { r.inMsg with buffer := buffer, readState := .initial } }
        r.inMsg.dataSize
    else
      ({ r with inMsg := { r.inMsg with
        buffer := buffer
        readIndex := r.inMsg.dataSize - (numToRead - size) } }, .ok)
  else (r, result)

/-- The buffer case; the status is the one it keeps when nothing is read. -/
def readBuffer (r : Reader) (result : Status) : Reader × Status :=
  let numToRead := r.inMsg.dataSize - r.inMsg.readIndex
  let (bytes, r) := asdApiServerRead o r (.buffer r.inMsg.readIndex numToRead) numToRead
  bufferArrived o r numToRead bytes result

/-- The header case and what may follow it in the same call: the payload is read
at once when it is announced and data is pending. -/
def readFromHeader (r : Reader) : Reader × Status :=
  let header := readHeader o r
  if header.left then (header.reader, header.result)
  else if o.ioctl r.reads = .err then (header.reader, header.result)
  else if header.reader.inMsg.readState ≠ .buffer || !o.pending r.reads then
    (header.reader, header.result)
  else readBuffer o header.reader header.result

def asdMsgRead (r : Reader) : Reader × Status :=
  match r.inMsg.readState with
  | .initial => readFromHeader o (readInitial r)
  | .header => readFromHeader o r
  | .buffer => readBuffer o r .err

/-- Calls repeated until one returns `ST_ERR`. -/
structure ReadRun where
  reader : Reader
  result : Status

def readCall (run : ReadRun) : ReadRun :=
  if run.result = .err then run
  else
    let (reader, result) := asdMsgRead o run.reader
    ⟨reader, result⟩

def readCalls : Nat → ReadRun → ReadRun
  | 0, run => run
  | n + 1, run => readCalls n (readCall o run)

end Code

section Reference

/-- The format of the client's stream. -/
def messageFormat : Format UInt8 where
  headerLength := messageHeaderSize
  pos := by decide
  payloadLength header := getMessageSize (.ofBytes fun i => header.getD i 0)

theorem payloadLength_slice (header : Nat → UInt8) :
    messageFormat.payloadLength (slice header 0 messageHeaderSize) =
      getMessageSize (.ofBytes header) := rfl

theorem length_header (header : Nat → UInt8) :
    (slice header 0 messageHeaderSize).length = messageFormat.headerLength :=
  length_slice header 0 messageHeaderSize

/-- The reference parser: it stops after the first message the receiver refuses. -/
def parseMessages (o : ReadOracle) : List (Frame UInt8) → List UInt8 → List (Frame UInt8) :=
  parse messageFormat fun frames => o.onMsgRecv frames ≠ .err

/-- The part of the stream that was read but not delivered yet. -/
def Reader.unfinished (r : Reader) : List UInt8 :=
  match r.inMsg.readState with
  | .initial => []
  | .header => slice r.inMsg.header 0 r.inMsg.readIndex
  | .buffer =>
      slice r.inMsg.header 0 messageHeaderSize ++ slice r.inMsg.buffer 0 r.inMsg.readIndex

/-- The resume offsets are inside the header and inside the announced payload. -/
def Reader.Resumable (r : Reader) : Prop :=
  match r.inMsg.readState with
  | .initial => True
  | .header => r.inMsg.readIndex < messageHeaderSize
  | .buffer => r.inMsg.readIndex < r.inMsg.dataSize ∧
      getMessageSize (.ofBytes r.inMsg.header) = some r.inMsg.dataSize

/-- What the reader will have delivered when the stream is used up. -/
def Reader.promised (o : ReadOracle) (r : Reader) : List (Frame UInt8) :=
  r.delivered ++ parseMessages o r.delivered (r.unfinished ++ r.input)

/-- One step of the reader, seen from outside: it keeps the promise, or it ends
with `ST_ERR` having delivered all of it. -/
structure Advances (o : ReadOracle) (r : Reader) (r' : Reader) (result : Status) : Prop where
  bounds : (∀ q ∈ r.requests, q.InBounds) → ∀ q ∈ r'.requests, q.InBounds
  resumable : result ≠ .err → r'.Resumable
  promise : result ≠ .err → r'.promised o = r.promised o
  done : result = .err → r'.delivered = r.promised o
  shorter : r'.input.length ≤ r.input.length

theorem Advances.trans {o : ReadOracle} {r r' r'' : Reader} {result result' : Status}
    (first : Advances o r r' result) (ok : result ≠ .err)
    (second : Advances o r' r'' result') : Advances o r r'' result' where
  bounds h := second.bounds (first.bounds h)
  resumable := second.resumable
  promise h := (second.promise h).trans (first.promise ok)
  done h := (second.done h).trans (first.promise ok)
  shorter := second.shorter.trans first.shorter

end Reference

section Transport

/-- What one call of the transport guarantees. -/
structure Served (r : Reader) (request : ReadRequest) (length : Nat) (bytes : List UInt8)
    (after : Reader) : Prop where
  inMsg : after.inMsg = r.inMsg
  delivered : after.delivered = r.delivered
  append : bytes ++ after.input = r.input
  length_le : bytes.length ≤ length
  ended : bytes.length = 0 → r.input = []
  requests : after.requests = r.requests ++ [request]

theorem asdApiServerRead_served (o : ReadOracle) (r : Reader) (request : ReadRequest)
    {length : Nat} (h : 0 < length) :
    Served r request length (asdApiServerRead o r request length).1
      (asdApiServerRead o r request length).2 where
  inMsg := rfl
  delivered := rfl
  append := List.take_append_drop _ _
  length_le := by
    simp only [asdApiServerRead, readSize, List.length_take]
    omega
  ended hzero := by
    rw [← List.length_eq_zero_iff]
    simp only [asdApiServerRead, readSize, List.length_take] at hzero
    omega
  requests := rfl

variable {r after : Reader} {request : ReadRequest} {length : Nat} {bytes : List UInt8}

theorem Served.bounds (served : Served r request length bytes after)
    (hrequest : request.InBounds) (h : ∀ q ∈ r.requests, q.InBounds) :
    ∀ q ∈ after.requests, q.InBounds := by
  intro q hq
  rw [served.requests, List.mem_append, List.mem_singleton] at hq
  obtain hq | rfl := hq
  · exact h q hq
  · exact hrequest

theorem Served.shorter (served : Served r request length bytes after) :
    after.input.length + bytes.length = r.input.length := by
  rw [← served.append, List.length_append]
  omega

end Transport

section Deliver
variable {o : ReadOracle} {r : Reader}

theorem promised_of_frame {header : Nat → UInt8} {payload rest : List UInt8}
    (hstream : r.unfinished ++ r.input = slice header 0 messageHeaderSize ++ payload ++ rest)
    (hsize : getMessageSize (.ofBytes header) = some payload.length) :
    r.promised o = r.delivered ++ [(slice header 0 messageHeaderSize, payload)] ++
      if o.onMsgRecv (r.delivered ++ [(slice header 0 messageHeaderSize, payload)]) ≠ .err then
        parseMessages o (r.delivered ++ [(slice header 0 messageHeaderSize, payload)]) rest
      else [] := by
  rw [Reader.promised, hstream, parseMessages,
    parse_frame (length_header header) payload rest (by rw [payloadLength_slice, hsize])]
  simp

theorem promised_of_bad_header {header : Nat → UInt8} {rest : List UInt8}
    (hstream : r.unfinished ++ r.input = slice header 0 messageHeaderSize ++ rest)
    (hsize : getMessageSize (.ofBytes header) = none) : r.promised o = r.delivered := by
  rw [Reader.promised, hstream, parseMessages,
    parse_of_bad_header (length_header header) rest (by rw [payloadLength_slice, hsize]),
    List.append_nil]

/-- Nothing more can be delivered when the stream ends in the middle of a message. -/
theorem promised_of_end (hinput : r.input = []) (hstate : r.inMsg.readState ≠ .initial)
    (hresume : r.Resumable) : r.promised o = r.delivered := by
  rw [Reader.promised, hinput, List.append_nil]
  cases hread : r.inMsg.readState with
  | initial => exact absurd hread hstate
  | header =>
      simp only [Reader.Resumable, hread] at hresume
      simp only [Reader.unfinished, hread, parseMessages]
      rw [parse_of_short_header (by simpa [messageFormat] using hresume), List.append_nil]
  | buffer =>
      simp only [Reader.Resumable, hread] at hresume
      simp only [Reader.unfinished, hread, parseMessages]
      rw [parse_of_short_payload (length_header r.inMsg.header)
        (payloadLength_slice _ ▸ hresume.2) (by simpa using hresume.1), List.append_nil]

end Deliver

section Buffer
variable {o : ReadOracle} {r : Reader}

theorem asdMsgOnMsgRecv_advances {before : Reader} {size : Nat} {payload : List UInt8}
    (hinitial : r.inMsg.readState = .initial) (hdelivered : r.delivered = before.delivered)
    (hstream : before.unfinished ++ before.input =
      slice r.inMsg.header 0 messageHeaderSize ++ payload ++ r.input)
    (hpayload : slice r.inMsg.buffer 0 size = payload)
    (hsize : getMessageSize (.ofBytes r.inMsg.header) = some payload.length)
    (hbounds : (∀ q ∈ before.requests, q.InBounds) → ∀ q ∈ r.requests, q.InBounds)
    (hshorter : r.input.length ≤ before.input.length) :
    Advances o before (asdMsgOnMsgRecv o r size).1 (asdMsgOnMsgRecv o r size).2 := by
  have hpromised := promised_of_frame (o := o) hstream hsize
  rw [← hdelivered] at hpromised
  constructor
  · exact hbounds
  · intro _
    simp [Reader.Resumable, asdMsgOnMsgRecv, hinitial]
  · intro hok
    simp only [asdMsgOnMsgRecv, hpayload] at hok
    rw [hpromised, if_pos hok]
    simp [Reader.promised, Reader.unfinished, asdMsgOnMsgRecv, hinitial, hpayload]
  · intro herr
    simp only [asdMsgOnMsgRecv, hpayload] at herr
    rw [hpromised, if_neg (by simpa using herr)]
    simp [asdMsgOnMsgRecv, hpayload]
  · exact hshorter

/-- The reader after a read that returned nothing: the stream is used up. -/
theorem Served.ended_advances {after : Reader} {request : ReadRequest} {length : Nat}
    {bytes : List UInt8} (served : Served r request length bytes after)
    (hrequest : request.InBounds) (hzero : bytes.length = 0)
    (hstate : r.inMsg.readState ≠ .initial) (hresume : r.Resumable) (result : Status) :
    Advances o r after result := by
  have hinput := served.ended hzero
  have hnil : after.input = [] := by
    have := served.shorter
    rw [hinput] at this
    exact List.length_eq_zero_iff.mp (by simp only [List.length_nil] at this; omega)
  have hpromised := promised_of_end (o := o) hinput hstate hresume
  constructor
  · exact served.bounds hrequest
  · intro _
    simpa only [Reader.Resumable, served.inMsg] using hresume
  · intro _
    simp only [Reader.promised, Reader.unfinished, served.inMsg, served.delivered, hnil, hinput]
  · intro _
    rw [hpromised, served.delivered]
  · rw [hnil]
    exact Nat.zero_le _

/-- The buffer case advances the reader, whatever status it was entered with. -/
theorem bufferArrived_advances {after : Reader} {bytes : List UInt8}
    (hstate : r.inMsg.readState = .buffer) (hresume : r.Resumable)
    (served : Served r (.buffer r.inMsg.readIndex (r.inMsg.dataSize - r.inMsg.readIndex))
      (r.inMsg.dataSize - r.inMsg.readIndex) bytes after) (result : Status) :
    let arrived := bufferArrived o after (r.inMsg.dataSize - r.inMsg.readIndex) bytes result
    Advances o r arrived.1 arrived.2 := by
  have hr := hresume
  simp only [Reader.Resumable, hstate] at hr
  obtain ⟨hindex, hsize⟩ := hr
  have hmax := getMessageSize_le hsize
  have hrequest : (ReadRequest.buffer r.inMsg.readIndex
      (r.inMsg.dataSize - r.inMsg.readIndex)).InBounds := by
    simp only [ReadRequest.InBounds]
    omega
  have hle := served.length_le
  have hshorter := served.shorter
  have hstream : r.unfinished ++ r.input = slice r.inMsg.header 0 messageHeaderSize ++
      slice (blit r.inMsg.buffer r.inMsg.readIndex bytes) 0
        (r.inMsg.readIndex + bytes.length) ++ after.input := by
    rw [slice_blit_append, ← served.append]
    simp [Reader.unfinished, hstate]
  rw [bufferArrived]
  dsimp only
  rw [if_neg (by omega : ¬ bytes.length > r.inMsg.dataSize - r.inMsg.readIndex), served.inMsg]
  split
  · split
    · next hdone =>
        have hfull : r.inMsg.readIndex + bytes.length = r.inMsg.dataSize := by omega
        rw [hfull] at hstream
        exact asdMsgOnMsgRecv_advances rfl served.delivered hstream rfl (by simpa using hsize)
          (served.bounds hrequest) (by simp only; omega)
    · next hmore =>
        have hindex' : r.inMsg.dataSize - (r.inMsg.dataSize - r.inMsg.readIndex - bytes.length) =
            r.inMsg.readIndex + bytes.length := by omega
        rw [hindex']
        refine ⟨served.bounds hrequest, fun _ => ?_, fun _ => ?_, by simp, by simp only; omega⟩
        · simp only [Reader.Resumable, hstate]
          exact ⟨by omega, hsize⟩
        · simp only [Reader.promised, served.delivered, hstream]
          simp [Reader.unfinished, hstate]
  · next hzero =>
      exact served.ended_advances hrequest (by omega) (by simp [hstate]) hresume result

theorem readBuffer_advances (hstate : r.inMsg.readState = .buffer) (hresume : r.Resumable)
    (result : Status) :
    Advances o r (readBuffer o r result).1 (readBuffer o r result).2 := by
  have hn : 0 < r.inMsg.dataSize - r.inMsg.readIndex := by
    simp only [Reader.Resumable, hstate] at hresume
    omega
  exact bufferArrived_advances hstate hresume (asdApiServerRead_served o r _ hn) result

end Buffer

section Header
variable {o : ReadOracle} {r : Reader}

/-- After the header case the reader has advanced; a payload is announced only
without an error, and leaving early only happens with one. -/
structure HeaderAdvances (o : ReadOracle) (r : Reader) (outcome : HeaderOutcome) : Prop where
  advances : Advances o r outcome.reader outcome.result
  announced : outcome.reader.inMsg.readState = .buffer → outcome.result ≠ .err
  progress : outcome.result ≠ .err → outcome.reader.input.length < r.input.length

theorem headerComplete_advances {before : Reader} (hdelivered : r.delivered = before.delivered)
    (hstream : before.unfinished ++ before.input =
      slice r.inMsg.header 0 messageHeaderSize ++ r.input)
    (hbounds : (∀ q ∈ before.requests, q.InBounds) → ∀ q ∈ r.requests, q.InBounds)
    (hshorter : r.input.length < before.input.length) :
    HeaderAdvances o before (headerComplete o r) := by
  rw [headerComplete]
  split
  · next hbad =>
      refine ⟨⟨hbounds, by simp, by simp, fun _ => ?_, hshorter.le⟩, by simp, by simp⟩
      rw [promised_of_bad_header hstream hbad, ← hdelivered]
  · next hzero =>
      have hempty : before.unfinished ++ before.input =
          slice r.inMsg.header 0 messageHeaderSize ++ [] ++ r.input := by simpa using hstream
      refine ⟨asdMsgOnMsgRecv_advances rfl hdelivered hempty rfl hzero hbounds hshorter.le,
        by simp [asdMsgOnMsgRecv], fun _ => hshorter⟩
  · next size hpos hsize =>
      refine ⟨⟨hbounds, fun _ => ?_, fun _ => ?_, by simp, hshorter.le⟩, by simp,
        fun _ => hshorter⟩
      · simp only [Reader.Resumable]
        exact ⟨Nat.pos_of_ne_zero hpos, hsize⟩
      · simp only [Reader.promised, hdelivered, hstream]
        simp [Reader.unfinished]

theorem headerArrived_advances {after : Reader} {bytes : List UInt8}
    (hstate : r.inMsg.readState = .header) (hresume : r.Resumable)
    (served : Served r (.header r.inMsg.readIndex (messageHeaderSize - r.inMsg.readIndex))
      (messageHeaderSize - r.inMsg.readIndex) bytes after) :
    HeaderAdvances o r
      (headerArrived o after (messageHeaderSize - r.inMsg.readIndex) bytes) := by
  have hindex := hresume
  simp only [Reader.Resumable, hstate] at hindex
  have hrequest : (ReadRequest.header r.inMsg.readIndex
      (messageHeaderSize - r.inMsg.readIndex)).InBounds := by
    simp only [ReadRequest.InBounds]
    omega
  have hle := served.length_le
  have hshorter := served.shorter
  have hstream : r.unfinished ++ r.input =
      slice (blit r.inMsg.header r.inMsg.readIndex bytes) 0
        (r.inMsg.readIndex + bytes.length) ++ after.input := by
    rw [slice_blit_append, ← served.append]
    simp [Reader.unfinished, hstate]
  rw [headerArrived]
  dsimp only
  rw [if_neg (by omega : ¬ bytes.length > messageHeaderSize - r.inMsg.readIndex), served.inMsg]
  split
  · split
    · next hdone =>
        have hfull : r.inMsg.readIndex + bytes.length = messageHeaderSize := by omega
        rw [hfull] at hstream
        exact headerComplete_advances served.delivered hstream (served.bounds hrequest)
          (by simp only; omega)
    · next hmore =>
        have hindex' : messageHeaderSize - (messageHeaderSize - r.inMsg.readIndex - bytes.length) =
            r.inMsg.readIndex + bytes.length := by omega
        rw [hindex']
        refine ⟨⟨served.bounds hrequest, fun _ => ?_, fun _ => ?_, by simp, by simp only; omega⟩,
          by simp, fun _ => by simp only; omega⟩
        · simp only [Reader.Resumable, hstate]
          omega
        · simp only [Reader.promised, served.delivered, hstream]
          simp [Reader.unfinished, hstate]
  · next hzero =>
      refine ⟨served.ended_advances hrequest (by omega) (by simp [hstate]) hresume .err, ?_,
        by simp⟩
      simp [served.inMsg, hstate]

theorem readHeader_advances (hstate : r.inMsg.readState = .header) (hresume : r.Resumable) :
    HeaderAdvances o r (readHeader o r) := by
  have hn : 0 < messageHeaderSize - r.inMsg.readIndex := by
    simp only [Reader.Resumable, hstate] at hresume
    omega
  exact headerArrived_advances hstate hresume (asdApiServerRead_served o r _ hn)

theorem readFromHeader_advances (hstate : r.inMsg.readState = .header) (hresume : r.Resumable) :
    Advances o r (readFromHeader o r).1 (readFromHeader o r).2 ∧
      ((readFromHeader o r).2 ≠ .err → (readFromHeader o r).1.input.length < r.input.length) := by
  have header := readHeader_advances (o := o) hstate hresume
  unfold readFromHeader
  dsimp only
  split
  · exact ⟨header.advances, header.progress⟩
  split
  · exact ⟨header.advances, header.progress⟩
  split
  · exact ⟨header.advances, header.progress⟩
  · next hgo =>
      simp only [Bool.or_eq_true, decide_eq_true_eq, not_or, not_not] at hgo
      have hok := header.announced hgo.1
      have buffer := readBuffer_advances (o := o) hgo.1 (header.advances.resumable hok)
        (readHeader o r).result
      exact ⟨header.advances.trans hok buffer,
        fun _ => buffer.shorter.trans_lt (header.progress hok)⟩

end Header

section Calls
variable (o : ReadOracle)

theorem bufferArrived_progress {r after : Reader} {request : ReadRequest} {length : Nat}
    {bytes : List UInt8} (served : Served r request length bytes after)
    (hok : (bufferArrived o after length bytes .err).2 ≠ .err) :
    (bufferArrived o after length bytes .err).1.input.length < r.input.length := by
  have hle := served.length_le
  have hshorter := served.shorter
  by_cases hzero : bytes.length > 0
  · simp only [bufferArrived, hzero, if_true]
    rw [if_neg (by omega : ¬ bytes.length > length)]
    split <;> simp only [asdMsgOnMsgRecv] <;> omega
  · simp [bufferArrived, hzero] at hok

theorem asdMsgRead_advances {r : Reader} (hresume : r.Resumable) :
    Advances o r (asdMsgRead o r).1 (asdMsgRead o r).2 ∧
      ((asdMsgRead o r).2 ≠ .err → (asdMsgRead o r).1.input.length < r.input.length) := by
  rw [asdMsgRead]
  cases hstate : r.inMsg.readState with
  | initial =>
      obtain ⟨advances, progress⟩ := readFromHeader_advances (o := o) (r := readInitial r) rfl
        (by simp [Reader.Resumable, readInitial, messageHeaderSize])
      have hpromised : (readInitial r).promised o = r.promised o := by
        simp [Reader.promised, Reader.unfinished, readInitial, hstate]
      refine ⟨⟨advances.bounds, advances.resumable, fun h => ?_, fun h => ?_,
        advances.shorter⟩, progress⟩
      · exact (advances.promise h).trans hpromised
      · exact (advances.done h).trans hpromised
  | header => exact readFromHeader_advances hstate hresume
  | buffer =>
      have hn : 0 < r.inMsg.dataSize - r.inMsg.readIndex := by
        simp only [Reader.Resumable, hstate] at hresume
        omega
      exact ⟨readBuffer_advances hstate hresume .err,
        bufferArrived_progress o (asdApiServerRead_served o r _ hn)⟩

/-- What holds between two calls, for the frames `goal` of the whole stream. -/
structure ReadRun.Inv (goal : List (Frame UInt8)) (run : ReadRun) : Prop where
  bounds : ∀ q ∈ run.reader.requests, q.InBounds
  going : run.result ≠ .err → run.reader.Resumable ∧ run.reader.promised o = goal
  stopped : run.result = .err → run.reader.delivered = goal

theorem readCall_inv {goal : List (Frame UInt8)} {run : ReadRun} (h : run.Inv o goal) :
    (readCall o run).Inv o goal := by
  rw [readCall]
  split
  · exact h
  · next hgoing =>
      obtain ⟨hresume, hpromised⟩ := h.going hgoing
      have advances := (asdMsgRead_advances o hresume).1
      exact ⟨advances.bounds h.bounds,
        fun hok => ⟨advances.resumable hok, (advances.promise hok).trans hpromised⟩,
        fun herr => (advances.done herr).trans hpromised⟩

/-- A call that does not end the run uses up at least one byte. -/
theorem readCall_progress {goal : List (Frame UInt8)} {run : ReadRun} (h : run.Inv o goal)
    (hok : (readCall o run).result ≠ .err) :
    (readCall o run).reader.input.length < run.reader.input.length := by
  unfold readCall at hok ⊢
  split at hok
  · next herr => exact absurd herr hok
  · next hgoing =>
      rw [if_neg hgoing]
      exact (asdMsgRead_advances o (h.going hgoing).1).2 hok

theorem readCalls_inv {goal : List (Frame UInt8)} {run : ReadRun} (n : Nat)
    (h : run.Inv o goal) : (readCalls o n run).Inv o goal := by
  induction n generalizing run with
  | zero => exact h
  | succ n ih => exact ih (readCall_inv o h)

theorem readCalls_of_stopped {run : ReadRun} (h : run.result = .err) (n : Nat) :
    readCalls o n run = run := by
  induction n with
  | zero => rfl
  | succ n ih => rw [readCalls, readCall, if_pos h, ih]

theorem readCalls_stopped {goal : List (Frame UInt8)} {run : ReadRun} (n : Nat)
    (h : run.Inv o goal) (hlong : run.reader.input.length < n) :
    (readCalls o n run).result = .err := by
  induction n generalizing run with
  | zero => omega
  | succ n ih =>
      by_cases hstop : (readCall o run).result = .err
      · rw [readCalls, readCalls_of_stopped o hstop]
        exact hstop
      · have := readCall_progress o h hstop
        exact ih (readCall_inv o h) (by omega)

/-- A fresh reader for a stream, with whatever the message memory held before. -/
def freshRun (header buffer : Nat → UInt8) (stream : List UInt8) : ReadRun :=
  ⟨⟨⟨.initial, header, buffer, 0, 0⟩, stream, 0, [], []⟩, .ok⟩

theorem freshRun_inv (header buffer : Nat → UInt8) (stream : List UInt8) :
    (freshRun header buffer stream).Inv o (parseMessages o [] stream) where
  bounds := by simp [freshRun]
  going _ := ⟨True.intro, rfl⟩
  stopped h := by cases h

/-- Framing does not depend on how the stream is cut into reads: enough calls
deliver exactly the messages of the one-shot parser, any number of calls
delivers a first part of them, and no request leaves the header or the buffer. -/
theorem readCalls_delivers_parse (header buffer : Nat → UInt8) (stream : List UInt8) (n : Nat) :
    (readCalls o (stream.length + 1 + n) (freshRun header buffer stream)).reader.delivered =
        parseMessages o [] stream ∧
      (readCalls o n (freshRun header buffer stream)).reader.delivered <+:
        parseMessages o [] stream ∧
      ∀ q ∈ (readCalls o n (freshRun header buffer stream)).reader.requests, q.InBounds := by
  have start := freshRun_inv o header buffer stream
  have inv := readCalls_inv o n start
  refine ⟨?_, ?_, inv.bounds⟩
  · refine (readCalls_inv o _ start).stopped (readCalls_stopped o _ start ?_)
    simp only [freshRun]
    omega
  · by_cases hstop : (readCalls o n (freshRun header buffer stream)).result = .err
    · exact (inv.stopped hstop).symm ▸ List.prefix_refl _
    · rw [← (inv.going hstop).2]
      exact List.prefix_append _ _

end Calls

end AtScaleDebug
