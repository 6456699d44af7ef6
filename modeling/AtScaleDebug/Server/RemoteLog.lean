import AtScaleDebug.Server.Session
import AtScaleDebug.Target.Dispatch

/-!
Remote logging. A log line for the client is a packet like every other one: `ASD_log` calls
back into the target side, which writes through the server side and the session to the
transport. Each of these layers logs its own failures. They do so with `No_Remote`, so that
the report of a failed delivery is not delivered in turn, all but the last: `exttls_send`
reports a write that failed with no option at all.

The functions below take the callback as an argument, and `loggingCallback` closes the
circle, with one unit of fuel for every callback inside another. What a line leaves on
`stderr` or in the system log is not modelled.
-/

namespace AtScaleDebug

inductive LogLevel where
  | trace
  | debug
  | info
  | warning
  | error
  | off
  deriving DecidableEq, Repr

def logStreamNetwork : UInt16 := 1
def logStreamDaemon : UInt16 := 32
def logStreamSdk : UInt16 := 64

def logOptionNone : UInt8 := 0
def logOptionNoRemote : UInt8 := 1

def ipcLogTypeOff : Nat := 5

/-- `ipc_asd_log_map` as `init_logging_map` fills it, before the callbacks are set. -/
def ipcAsdLogMap : LogLevel → Nat
  | .trace => 0
  | .debug => 1
  | .info => 2
  | .warning => 3
  | .error => 4
  | .off => ipcLogTypeOff

inductive ExtnetType where
  | nonEncrypt
  | tls
  deriving DecidableEq, Repr

/-- What `SSL_write` or `send` returns, and what OpenSSL says about it afterwards. -/
structure WriteIo where
  ret : Int
  sslError : Int
  errno : Int
  errorString : String

def sslErrorNone : Int := 0
def sslErrorSsl : Int := 1
def sslErrorSyscall : Int := 5
def sslErrorZeroReturn : Int := 6

/-- What the daemon is set to while a line is logged: both callbacks, or neither; the
`instance` of the target side; its remote logging configuration; the sessions and the
transport. The clock is read once a line, if at all, and the transport answers the writes
one by one. -/
structure LogEnv where
  callbacks : Bool
  hasInstance : Bool
  remoteLogging : UInt8
  session : Session
  extnet : ExtnetType
  timestamp : Nat → Option (List UInt8)
  write : Nat → WriteIo

/-- A call of `ASD_log`, its message formatted. -/
structure LogCall where
  level : LogLevel
  stream : UInt16
  options : UInt8
  message : List UInt8

/-- The lines logged and the buffers handed to the transport so far; how many callbacks are
active, and the most that ever were. -/
structure LogRun where
  lines : Nat
  written : List (List UInt8)
  depth : Nat
  deepest : Nat

abbrev LogCallback := LogLevel → UInt16 → List UInt8 → LogRun → Option LogRun

def LogRun.start : LogRun := ⟨0, [], 0, 0⟩

def LogRun.enter (r : LogRun) : LogRun :=
  { r with depth := r.depth + 1, deepest := max r.deepest (r.depth + 1) }

def LogRun.leave (r : LogRun) : LogRun := { r with depth := r.depth - 1 }

def logText (s : String) : List UInt8 := s.toUTF8.data.toList

/-- `%02x`. -/
def hexByte (b : UInt8) : String :=
  let digits := Nat.toDigits 16 b.toNat
  String.ofList (List.replicate (2 - digits.length) '0' ++ digits)

namespace LogEnv
variable (e : LogEnv)

section Logging
variable (callback : LogCallback)

/-- `should_remote_log` and `main_should_remote_log`, which read one configuration; the
stream plays no part. -/
def shouldRemoteLog (level : LogLevel) : Bool :=
  let loggingLevel := e.remoteLogging.toNat % 8
  decide (loggingLevel ≠ ipcLogTypeOff ∧ loggingLevel ≤ ipcAsdLogMap level)

def remoteLog (level : LogLevel) (options : UInt8) : Bool :=
  options &&& logOptionNoRemote != logOptionNoRemote && e.callbacks && e.shouldRemoteLog level

/-- The string at `log_buffer`, of at most 255 bytes. The message starts 31 bytes behind the
beginning of the timestamp, and a shorter timestamp ends the string before it. -/
def callbackText (n : Nat) (message : List UInt8) : List UInt8 :=
  match e.timestamp n with
  | none => message.take 255
  | some timestamp =>
      if timestamp.length < 31 then timestamp
      else timestamp.take 31 ++ message.take 223

def asdLog (call : LogCall) (r : LogRun) : Option LogRun :=
  let text := e.callbackText r.lines call.message
  let r := { r with lines := r.lines + 1 }
  if e.remoteLog call.level call.options then callback call.level call.stream text r else some r

/-- A line of a dump: the name of the buffer in six places, the offset in seven, and up to
sixteen bytes with a blank after every other one. -/
def bufferLine (prefixPtr : String) (offset : Nat) (bytes : List UInt8) : List UInt8 :=
  let name := prefixPtr.toList.take 6
  let digits := Nat.toDigits 16 offset
  logText (String.ofList (name ++ List.replicate (6 - name.length) ' ') ++ ": " ++
    String.ofList (List.replicate (7 - digits.length) '0' ++ digits) ++ ": " ++
    String.join (bytes.mapIdx fun l b => if l % 2 = 1 then hexByte b ++ " " else hexByte b))

def asdLogBuffer (level : LogLevel) (stream : UInt16) (options : UInt8) (bytes : List UInt8)
    (prefixPtr : String) (r : LogRun) : Option LogRun :=
  let r := { r with lines := r.lines + 1 }
  if e.remoteLog level options then
    (bytes.toChunks 16).zipIdx.foldlM
      (fun r line => callback level stream (bufferLine prefixPtr (16 * line.2) line.1) r) r
  else some r

end Logging

section Transport
variable (callback : LogCallback)

/-- `exttls_has_write_error`. Both ways out of its `switch` log with no option. -/
def exttlsHasWriteError (io : WriteIo) (r : LogRun) : Option (LogRun × Status) :=
  if io.sslError = sslErrorNone ∨ io.sslError = sslErrorZeroReturn ∨
      io.sslError = sslErrorSyscall ∨ io.sslError = sslErrorSsl then do
    let message := logText s!"SSL error {io.ret} on write! {io.errorString}"
    let r ← e.asdLog callback ⟨.error, logStreamNetwork, logOptionNone, message⟩ r
    return (r, .err)
  else do
    let message := logText
      s!"SSL_write() returns {io.ret}; error {io.sslError}; errno {io.errno}: {io.errorString}"
    let r ← e.asdLog callback ⟨.error, logStreamNetwork, logOptionNone, message⟩ r
    return (r, .ok)

def invalidFd (function : String) (conn : ExtnetConn) : LogCall :=
  ⟨.error, logStreamNetwork, logOptionNone,
    logText s!"{function} called with invalid file descriptor {conn.sockfd}"⟩

def exttlsSend (conn : ExtnetConn) (buffer : List UInt8) (r : LogRun) : Option (LogRun × Int) :=
  if conn.sockfd < 0 then do
    let r ← e.asdLog callback (invalidFd "exttls_send" conn) r
    return (r, -1)
  else if conn.hdlrData = none then do
    let message := logText "exttls_send called with invalid SSL pointer"
    let r ← e.asdLog callback ⟨.error, logStreamNetwork, logOptionNone, message⟩ r
    return (r, -1)
  else
    let io := e.write r.written.length
    let r := { r with written := r.written ++ [buffer] }
    if io.ret ≤ 0 then do
      let (r, status) ← e.exttlsHasWriteError callback io r
      return (r, if status = .ok then io.ret else -1)
    else some (r, io.ret)

/-- `exttcp_send`. It says nothing about a `send` that fails. -/
def exttcpSend (conn : ExtnetConn) (buffer : List UInt8) (r : LogRun) : Option (LogRun × Int) :=
  if conn.sockfd < 0 then do
    let r ← e.asdLog callback (invalidFd "exttcp_send" conn) r
    return (r, -1)
  else some ({ r with written := r.written ++ [buffer] }, (e.write r.written.length).ret)

def extnetSend (conn : ExtnetConn) (buffer : List UInt8) (r : LogRun) : Option (LogRun × Int) :=
  match e.extnet with
  | .nonEncrypt => e.exttcpSend callback conn buffer r
  | .tls => e.exttlsSend callback conn buffer r

end Transport

section Delivery
variable (callback : LogCallback)

def conn : Option ExtnetConn := (sessionGetAuthenticatedConn e.session true).2

def sendOutMsgOnSocket (buffer : List UInt8) (r : LogRun) : Option (LogRun × Status) :=
  match e.conn with
  | none => some (r, .err)
  | some conn => do
      let (r, cnt) ← e.extnetSend callback conn buffer r
      if cnt = buffer.length then return (r, .ok)
      else
        let message := logText s!"Failed to write to the socket: {cnt}"
        let r ← e.asdLog callback ⟨.error, logStreamDaemon, logOptionNoRemote, message⟩ r
        return (r, .err)

def asdServerWrite (buffer : List UInt8) (r : LogRun) : Option (LogRun × Nat) := do
  let (r, status) ← e.sendOutMsgOnSocket callback buffer r
  return (r, if status = .ok then buffer.length else 0)

def responseHeader (header : MessageHeader) : String :=
  s!"Response header:  origin_id: 0x{hexByte header.originId}\n" ++
  s!"    reserved: 0x{hexByte header.reserved}    enc_bit: 0x{hexByte header.encBit}\n" ++
  s!"    type: 0x{hexByte header.type}        size_lsb: 0x{hexByte header.sizeLsb}\n" ++
  s!"    size_msb: 0x{hexByte header.sizeMsb}    tag: 0x{hexByte header.tag}\n" ++
  s!"    cmd_stat: 0x{hexByte header.cmdStat}"

/-- `send_response`. The payload of a packet is what its buffer starts with, and the size
fields say how much of it is sent. -/
def sendResponse (packet : Packet) (r : LogRun) : Option (LogRun × Status) :=
  match getMessageSize packet.1 with
  | none => do
      let message := logText "Failed to send message because get message size failed."
      let r ← e.asdLog callback ⟨.error, logStreamDaemon, logOptionNoRemote, message⟩ r
      return (r, .err)
  | some size => do
      let header := logText (responseHeader packet.1)
      let r ← e.asdLog callback ⟨.debug, logStreamNetwork, logOptionNoRemote, header⟩ r
      let message := logText s!"Response Buffer size: {size}"
      let r ← e.asdLog callback ⟨.debug, logStreamNetwork, logOptionNoRemote, message⟩ r
      let r ← e.asdLogBuffer callback .debug logStreamNetwork logOptionNoRemote
        (packet.2.take size) "NetRsp" r
      let buffer := packet.1.toBytes ++ packet.2.take size
      let (r, written) ← e.asdServerWrite callback buffer r
      return (r, if written = messageHeaderSize + size then .ok else .err)

/-- `send_remote_log_message`. The level and the stream share a byte. -/
def remotePacket (level : LogLevel) (message : List UInt8) : Packet :=
  let loggingStream := e.remoteLogging.toNat / 8 % 8
  RemoteLog.packet ⟨UInt8.ofNat (ipcAsdLogMap level + 8 * loggingStream), message⟩

def sendRemoteLogMessage (level : LogLevel) (message : List UInt8) (r : LogRun) :
    Option LogRun :=
  if e.hasInstance ∧ e.shouldRemoteLog level then do
    let (r, status) ← e.sendResponse callback (e.remotePacket level message) r
    if status = .ok then return r
    else
      let failed := logText "Failed to send remote message to client"
      e.asdLog callback ⟨.error, logStreamSdk, logOptionNoRemote, failed⟩ r
  else some r

end Delivery

def loggingCallback : Nat → LogCallback
  | 0, _, _, _, _ => none
  | fuel + 1, level, _, message, r => do
      let r ← e.sendRemoteLogMessage (loggingCallback fuel) level message r.enter
      return r.leave

/-- The write that comes next fails in a way that the transport logs. -/
def Reports (n : Nat) : Prop :=
  ∃ conn, e.conn = some conn ∧ (conn.sockfd < 0 ∨
    e.extnet = .tls ∧ (conn.hdlrData = none ∨ (e.write n).ret ≤ 0))

/-- The target side sends the line to its client. -/
def Delivers (call : LogCall) : Prop :=
  e.remoteLog call.level call.options = true ∧ e.hasInstance = true

/-- The call returns, and never was a callback active inside another one. -/
def NotNested (call : LogCall) : Prop :=
  ∃ fuel run, e.asdLog (e.loggingCallback fuel) call .start = some run ∧ run.deepest ≤ 1

end LogEnv

/-- No callback was made on the way from the one to the other. -/
structure LogRun.Quiet (r t : LogRun) : Prop where
  depth : t.depth = r.depth
  deepest : t.deepest = r.deepest

namespace LogRun

theorem Quiet.refl (r : LogRun) : r.Quiet r := ⟨rfl, rfl⟩

theorem Quiet.trans {r s t : LogRun} (h : r.Quiet s) (h' : s.Quiet t) : r.Quiet t :=
  ⟨h'.depth.trans h.depth, h'.deepest.trans h.deepest⟩

end LogRun

namespace LogEnv
variable {e : LogEnv} {callback : LogCallback}

section Quiet

theorem remoteLog_noRemote (level : LogLevel) : e.remoteLog level logOptionNoRemote = false := by
  simp [remoteLog, logOptionNoRemote]

theorem asdLog_noRemote (level : LogLevel) (stream : UInt16) (message : List UInt8) (r : LogRun) :
    e.asdLog callback ⟨level, stream, logOptionNoRemote, message⟩ r =
      some { r with lines := r.lines + 1 } := by
  simp only [asdLog, remoteLog_noRemote, Bool.false_eq_true, if_false]

theorem asdLogBuffer_noRemote (level : LogLevel) (stream : UInt16) (bytes : List UInt8)
    (name : String) (r : LogRun) :
    e.asdLogBuffer callback level stream logOptionNoRemote bytes name r =
      some { r with lines := r.lines + 1 } := by
  simp only [asdLogBuffer, remoteLog_noRemote, Bool.false_eq_true, if_false]

end Quiet

/-- Whatever a client can ask to be sent includes the errors. -/
theorem shouldRemoteLog_error {level : LogLevel} (h : e.shouldRemoteLog level = true) :
    e.shouldRemoteLog .error = true := by
  unfold shouldRemoteLog ipcLogTypeOff at h
  unfold shouldRemoteLog ipcLogTypeOff
  have h := of_decide_eq_true h
  apply decide_eq_true
  have hmap : ipcAsdLogMap level ≤ 5 := by cases level <;> simp [ipcAsdLogMap, ipcLogTypeOff]
  have herror : ipcAsdLogMap .error = 4 := rfl
  omega

/-- What one layer of the delivery does. A write that the transport does not log makes no
callback; one that it logs makes one, and what follows it makes none. -/
structure Layer {α : Type} (e : LogEnv) (callback : LogCallback) (r : LogRun)
    (result : Option (LogRun × α)) : Prop where
  quiet : ¬ e.Reports r.written.length → ∃ t a, result = some (t, a) ∧ r.Quiet t
  reports : e.Reports r.written.length → e.remoteLog .error logOptionNone = true →
    ∃ text before after, r.Quiet before ∧ (∀ t : LogRun, t.Quiet (after t).1) ∧
      result = (callback .error logStreamNetwork text before).map after

section Layers
variable {α β : Type} {r : LogRun} {conn : ExtnetConn}

theorem Layer.andThen {result : Option (LogRun × α)} (h : Layer e callback r result)
    {f : LogRun × α → Option (LogRun × β)} (g : LogRun × α → LogRun × β)
    (hf : ∀ p, f p = some (g p))
    (hg : ∀ p : LogRun × α, p.1.Quiet (g p).1) :
    Layer e callback r (result >>= f) := by
  constructor
  · intro hquiet
    obtain ⟨t, a, heq, ht⟩ := h.quiet hquiet
    exact ⟨(g (t, a)).1, (g (t, a)).2, by rw [heq]; exact hf (t, a), ht.trans (hg (t, a))⟩
  · intro hreports herror
    obtain ⟨text, before, after, hbefore, hafter, heq⟩ := h.reports hreports herror
    refine ⟨text, before, g ∘ after, hbefore, fun t => (hafter t).trans (hg _), ?_⟩
    rw [heq]
    cases callback .error logStreamNetwork text before with
    | none => rfl
    | some t => exact hf (after t)

/-- A layer may log local lines before it goes on. -/
theorem Layer.afterLines {result : Option (LogRun × α)} {lines : Nat}
    (h : Layer e callback { r with lines } result) : Layer e callback r result := by
  constructor
  · intro hquiet
    obtain ⟨t, a, heq, ht⟩ := h.quiet hquiet
    exact ⟨t, a, heq, ht.depth, ht.deepest⟩
  · intro hreports herror
    obtain ⟨text, before, after, hbefore, hafter, heq⟩ := h.reports hreports herror
    exact ⟨text, before, after, ⟨hbefore.depth, hbefore.deepest⟩, hafter, heq⟩

/-- A layer that ends in an error that is logged for the client. -/
theorem layer_of_error {t : LogRun} (hreports : e.Reports r.written.length) (ht : r.Quiet t)
    (message : List UInt8) (a : α) :
    Layer e callback r (do
      let s ← e.asdLog callback ⟨.error, logStreamNetwork, logOptionNone, message⟩ t
      return (s, a)) := by
  constructor
  · intro hquiet
    exact absurd hreports hquiet
  · intro _ herror
    refine ⟨e.callbackText t.lines message, { t with lines := t.lines + 1 }, fun s => (s, a),
      ⟨ht.depth, ht.deepest⟩, fun s => .refl s, ?_⟩
    simp only [asdLog, herror, if_true]
    cases callback .error logStreamNetwork (e.callbackText t.lines message)
      { t with lines := t.lines + 1 } with
    | none => rfl
    | some s => rfl

theorem layer_of_written (hquiet : ¬ e.Reports r.written.length) (buffer : List UInt8) (a : α) :
    Layer e callback r (some ({ r with written := r.written ++ [buffer] }, a)) :=
  ⟨fun _ => ⟨_, _, rfl, rfl, rfl⟩, fun hreports => absurd hreports hquiet⟩

theorem exttlsHasWriteError_layer {t : LogRun} (hreports : e.Reports r.written.length)
    (ht : r.Quiet t) (io : WriteIo) :
    Layer e callback r (e.exttlsHasWriteError callback io t) := by
  unfold exttlsHasWriteError
  split
  · exact layer_of_error hreports ht _ _
  · exact layer_of_error hreports ht _ _

theorem exttlsSend_layer (hconn : e.conn = some conn) (htls : e.extnet = .tls)
    (buffer : List UInt8) : Layer e callback r (e.exttlsSend callback conn buffer r) := by
  unfold exttlsSend
  split
  · next hfd => exact layer_of_error ⟨conn, hconn, .inl hfd⟩ (.refl r) _ _
  · next hfd =>
      split
      · next hssl =>
          exact layer_of_error ⟨conn, hconn, .inr ⟨htls, .inl hssl⟩⟩ (.refl r) _ _
      · next hssl =>
          dsimp only
          split
          · next hret =>
              have hreports : e.Reports r.written.length :=
                ⟨conn, hconn, .inr ⟨htls, .inr hret⟩⟩
              refine Layer.andThen (exttlsHasWriteError_layer hreports ?_ _)
                (fun p => (p.1, if p.2 = .ok then (e.write r.written.length).ret else -1))
                (fun _ => rfl) fun p => .refl p.1
              exact ⟨rfl, rfl⟩
          · next hret =>
              refine layer_of_written ?_ buffer _
              intro hreports
              obtain ⟨c, hc, hfails⟩ := hreports
              obtain rfl := Option.some.inj (hconn.symm.trans hc)
              grind

theorem exttcpSend_layer (hconn : e.conn = some conn) (htcp : e.extnet = .nonEncrypt)
    (buffer : List UInt8) : Layer e callback r (e.exttcpSend callback conn buffer r) := by
  unfold exttcpSend
  split
  · next hfd => exact layer_of_error ⟨conn, hconn, .inl hfd⟩ (.refl r) _ _
  · next hfd =>
      refine layer_of_written ?_ buffer _
      intro hreports
      obtain ⟨c, hc, hfails⟩ := hreports
      obtain rfl := Option.some.inj (hconn.symm.trans hc)
      grind

theorem extnetSend_layer (hconn : e.conn = some conn) (buffer : List UInt8) :
    Layer e callback r (e.extnetSend callback conn buffer r) := by
  unfold extnetSend
  split
  · next htcp => exact exttcpSend_layer hconn htcp buffer
  · next htls => exact exttlsSend_layer hconn htls buffer

theorem sendOutMsgOnSocket_layer (buffer : List UInt8) :
    Layer e callback r (e.sendOutMsgOnSocket callback buffer r) := by
  unfold sendOutMsgOnSocket
  split
  · next hnone =>
      refine ⟨fun _ => ⟨r, .err, rfl, .refl r⟩, fun hreports => ?_⟩
      obtain ⟨conn, hconn, -⟩ := hreports
      rw [hnone] at hconn
      cases hconn
  · next conn hconn =>
      refine (extnetSend_layer hconn buffer).andThen
        (fun p => if p.2 = buffer.length then (p.1, .ok)
          else ({ p.1 with lines := p.1.lines + 1 }, .err)) ?_ ?_
      · intro p
        dsimp only
        split
        · rfl
        · rw [asdLog_noRemote]
          rfl
      · intro p
        dsimp only
        split
        · exact .refl p.1
        · exact ⟨rfl, rfl⟩

theorem asdServerWrite_layer (buffer : List UInt8) :
    Layer e callback r (e.asdServerWrite callback buffer r) :=
  (sendOutMsgOnSocket_layer buffer).andThen
    (fun p => (p.1, if p.2 = .ok then buffer.length else 0)) (fun _ => rfl) fun p => .refl p.1

theorem sendResponse_layer {packet : Packet} {size : Nat}
    (hsize : getMessageSize packet.1 = some size) :
    Layer e callback r (e.sendResponse callback packet r) := by
  unfold sendResponse
  simp only [hsize, asdLog_noRemote, asdLogBuffer_noRemote, Option.bind_eq_bind, Option.bind_some]
  exact Layer.afterLines ((asdServerWrite_layer _).andThen
    (fun p => (p.1, if p.2 = messageHeaderSize + size then .ok else .err)) (fun _ => rfl)
    fun p => .refl p.1)

end Layers

section Callback
variable {level : LogLevel} {stream : UInt16} {message : List UInt8} {r t : LogRun}

theorem remotePacket_size (e : LogEnv) (level : LogLevel) (message : List UInt8) :
    ∃ size, getMessageSize (e.remotePacket level message).1 = some size := by
  refine ⟨_, getMessageSize_of_length ⟨0, 0, 0, hardwareLogEvent, 0, 0, 0, 0⟩ 0 ?_⟩
  rw [List.length_cons, List.length_cons, List.length_take]
  exact Nat.add_le_add_right (Nat.min_le_left (maxDataSize - 2) _) 2

/-- A line that the target side sends, while the transport logs its write. -/
def Recurs (e : LogEnv) (level : LogLevel) (n : Nat) : Prop :=
  (e.hasInstance = true ∧ e.shouldRemoteLog level = true) ∧ e.Reports n

theorem sendRemoteLogMessage_quiet (callback : LogCallback) (message : List UInt8)
    (hquiet : ¬ e.Recurs level r.written.length) :
    ∃ t, e.sendRemoteLogMessage callback level message r = some t ∧ r.Quiet t := by
  unfold sendRemoteLogMessage
  split
  · next hsent =>
      obtain ⟨size, hsize⟩ := e.remotePacket_size level message
      obtain ⟨t, status, heq, ht⟩ := (sendResponse_layer hsize).quiet fun h => hquiet ⟨hsent, h⟩
      rw [heq]
      dsimp only [Option.bind_eq_bind, Option.bind_some]
      split
      · exact ⟨t, rfl, ht⟩
      · rw [asdLog_noRemote]
        exact ⟨_, rfl, ht.depth, ht.deepest⟩
  · exact ⟨r, rfl, .refl r⟩

theorem sendRemoteLogMessage_recurs (callback : LogCallback) (message : List UInt8)
    (herror : e.remoteLog .error logOptionNone = true) (h : e.Recurs level r.written.length) :
    ∃ text before after, r.Quiet before ∧ (∀ t : LogRun, t.Quiet (after t)) ∧
      e.sendRemoteLogMessage callback level message r =
        (callback .error logStreamNetwork text before).map after := by
  obtain ⟨size, hsize⟩ := e.remotePacket_size level message
  obtain ⟨text, before, after, hbefore, hafter, heq⟩ :=
    (sendResponse_layer hsize).reports h.2 herror
  refine ⟨text, before, fun t => if (after t).2 = .ok then (after t).1
    else { (after t).1 with lines := (after t).1.lines + 1 }, hbefore, ?_, ?_⟩
  · intro t
    dsimp only
    split
    · exact hafter t
    · exact ⟨(hafter t).depth, (hafter t).deepest⟩
  · unfold sendRemoteLogMessage
    rw [if_pos h.1, heq]
    cases callback .error logStreamNetwork text before with
    | none => rfl
    | some t =>
        simp only [Option.map_some, Option.bind_eq_bind, Option.bind_some, asdLog_noRemote]
        split <;> rfl

theorem remoteLog_error (hcallbacks : e.callbacks = true)
    (hlevel : e.shouldRemoteLog level = true) :
    e.remoteLog .error logOptionNone = true := by
  simp [remoteLog, hcallbacks, shouldRemoteLog_error hlevel, logOptionNone, logOptionNoRemote]

theorem loggingCallback_quiet (fuel : Nat) (stream : UInt16) (message : List UInt8)
    (hquiet : ¬ e.Recurs level r.written.length) :
    ∃ t, e.loggingCallback (fuel + 1) level stream message r = some t ∧ t.depth = r.depth ∧
      t.deepest = max r.deepest (r.depth + 1) := by
  obtain ⟨t, heq, ht⟩ := sendRemoteLogMessage_quiet (r := r.enter) (e.loggingCallback fuel) message
    hquiet
  refine ⟨t.leave, ?_, ?_, ht.deepest⟩
  · rw [loggingCallback, heq]
    rfl
  · rw [LogRun.leave, ht.depth]
    exact Nat.add_sub_cancel _ _

/-- The callback inside the callback. -/
theorem loggingCallback_recurs (fuel : Nat) (stream : UInt16) (message : List UInt8)
    (hcallbacks : e.callbacks = true) (h : e.Recurs level r.written.length) :
    ∃ text before after, r.enter.Quiet before ∧ (∀ t : LogRun, t.leave.Quiet (after t)) ∧
      e.loggingCallback (fuel + 1) level stream message r =
        (e.loggingCallback fuel .error logStreamNetwork text before).map after := by
  obtain ⟨text, before, after, hbefore, hafter, heq⟩ :=
    sendRemoteLogMessage_recurs (r := r.enter) (e.loggingCallback fuel) message
      (remoteLog_error hcallbacks h.1.2) h
  refine ⟨text, before, fun t => (after t).leave, hbefore, fun t => ?_, ?_⟩
  · exact ⟨congrArg (· - 1) (hafter t).depth, (hafter t).deepest⟩
  · rw [loggingCallback, heq]
    cases e.loggingCallback fuel .error logStreamNetwork text before with
    | none | some t => rfl

theorem loggingCallback_deepens (hcallbacks : e.callbacks = true) {fuel : Nat}
    (h : e.loggingCallback fuel level stream message r = some t) :
    t.depth = r.depth ∧ r.depth < t.deepest := by
  induction fuel generalizing level stream message r t with
  | zero => cases h
  | succ fuel ih =>
      by_cases hrecurs : e.Recurs level r.written.length
      · obtain ⟨text, before, after, hbefore, hafter, heq⟩ :=
          loggingCallback_recurs fuel stream message hcallbacks hrecurs
        obtain ⟨s, hs, rfl⟩ := Option.map_eq_some_iff.mp (heq ▸ h)
        obtain ⟨hdepth, hdeepest⟩ := ih hs
        rw [hbefore.depth] at hdepth hdeepest
        rw [(hafter s).depth, (hafter s).deepest, LogRun.leave, hdepth]
        exact ⟨Nat.add_sub_cancel _ _, Nat.lt_of_succ_lt hdeepest⟩
      · obtain ⟨s, heq, hdepth, hdeepest⟩ := loggingCallback_quiet fuel stream message hrecurs
        obtain rfl := Option.some.inj (heq.symm.trans h)
        omega

/-- When every write fails, the callback never comes back. -/
theorem loggingCallback_diverges (hcallbacks : e.callbacks = true)
    (hinstance : e.hasInstance = true) (hlevel : e.shouldRemoteLog level = true)
    (hreports : ∀ n, e.Reports n) (fuel : Nat) :
    e.loggingCallback fuel level stream message r = none := by
  induction fuel generalizing level stream message r with
  | zero => rfl
  | succ fuel ih =>
      obtain ⟨text, before, after, -, -, heq⟩ :=
        loggingCallback_recurs (r := r) fuel stream message hcallbacks
          ⟨⟨hinstance, hlevel⟩, hreports _⟩
      rw [heq, ih (shouldRemoteLog_error hlevel)]
      rfl

end Callback

section Nesting
variable (e : LogEnv) (call : LogCall)

theorem remoteLog_callbacks {call : LogCall} (h : e.remoteLog call.level call.options = true) :
    e.callbacks = true ∧ e.shouldRemoteLog call.level = true := by
  simp only [remoteLog, Bool.and_eq_true] at h
  exact ⟨h.1.2, h.2⟩

/-- A call never nests a callback in another one, and returns, exactly when the transport
does not log the write of its line. -/
theorem remote_log_not_nested : e.NotNested call ↔ ¬ (e.Delivers call ∧ e.Reports 0) := by
  cases hremote : e.remoteLog call.level call.options with
  | false =>
      refine ⟨fun _ h => ?_, fun _ => ⟨0, { LogRun.start with lines := 1 }, ?_, Nat.zero_le _⟩⟩
      · rw [h.1.1] at hremote
        cases hremote
      · simp only [asdLog, hremote]
        rfl
  | true =>
      obtain ⟨hcallbacks, hlevel⟩ := remoteLog_callbacks e hremote
      have hcall : ∀ callback, e.asdLog callback call .start = callback call.level call.stream
          (e.callbackText 0 call.message) { LogRun.start with lines := 1 } := by
        intro callback
        simp only [asdLog, hremote, if_true]
        rfl
      constructor
      · rintro ⟨fuel, run, hrun, hdeepest⟩ ⟨hdelivers, hreports⟩
        rw [hcall] at hrun
        cases fuel with
        | zero => cases hrun
        | succ fuel =>
            obtain ⟨text, before, after, hbefore, hafter, heq⟩ :=
              loggingCallback_recurs (r := { LogRun.start with lines := 1 }) fuel call.stream
                (e.callbackText 0 call.message) hcallbacks ⟨⟨hdelivers.2, hlevel⟩, hreports⟩
            obtain ⟨s, hs, rfl⟩ := Option.map_eq_some_iff.mp (heq ▸ hrun)
            have hnested := (loggingCallback_deepens hcallbacks hs).2
            rw [hbefore.depth] at hnested
            rw [(hafter s).deepest] at hdeepest
            exact absurd hdeepest (Nat.not_le.mpr hnested)
      · intro hquiet
        obtain ⟨t, heq, -, hdeepest⟩ :=
          loggingCallback_quiet (r := { LogRun.start with lines := 1 }) 0 call.stream
            (e.callbackText 0 call.message) fun h => hquiet ⟨⟨hremote, h.1.1⟩, h.2⟩
        exact ⟨1, t, (hcall _).trans heq, Nat.le_of_eq hdeepest⟩

end Nesting

/-- The client on descriptor 5 asked for errors, and its TLS connection is gone. -/
def brokenPipe : LogEnv where
  callbacks := true
  hasInstance := true
  remoteLogging := 4
  session :=
    { initialized := true
      sessions := fun i => ⟨i, ⟨if i = 0 then 5 else unusedSocketFd, some 0⟩, 0, i = 0, false⟩
      authenticatedId := 0 }
  extnet := .tls
  timestamp := fun _ => none
  write := fun _ => ⟨-1, sslErrorSyscall, 32, "error:00000000:lib(0)::reason(0)"⟩

def clientDisconnected : LogCall :=
  ⟨.error, logStreamDaemon, logOptionNone, logText "Client disconnected"⟩

theorem remote_log_feeds_itself : ¬ brokenPipe.NotNested clientDisconnected ∧
    ∀ fuel, brokenPipe.asdLog (brokenPipe.loggingCallback fuel) clientDisconnected .start =
      none := by
  have hreports : ∀ n, brokenPipe.Reports n :=
    fun n => ⟨⟨5, some 0⟩, by decide, .inr ⟨rfl, .inr (Int.neg_nonpos_of_nonneg Int.one_nonneg)⟩⟩
  have hnone : ∀ fuel, brokenPipe.asdLog (brokenPipe.loggingCallback fuel) clientDisconnected
      .start = none := fun fuel => loggingCallback_diverges rfl rfl (by decide) hreports fuel
  refine ⟨?_, hnone⟩
  rintro ⟨fuel, run, hrun, -⟩
  rw [hnone fuel] at hrun
  cases hrun

end LogEnv

end AtScaleDebug
