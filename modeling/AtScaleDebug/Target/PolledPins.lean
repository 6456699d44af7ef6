import AtScaleDebug.Lib.LastWrite
import AtScaleDebug.Target.PinEvents

/-!
When the request loop looks at the pins and the devices of the target. It asks for their
descriptors before every poll, and is given none as long as the header in the memory of the
incoming message says that it is for the agent. That header is the one of the message read
last, of one that is being read, or cleared for one of which nothing has arrived yet.
-/

namespace AtScaleDebug

open ByteBuffer LastWrite

section Code

/-- The type in the header of the incoming message. -/
def Daemon.messageType (d : Daemon) : UInt8 := (MessageHeader.ofBytes d.inMsg.header).type

/-- `asd_msg_get_fds`. -/
def Daemon.asdMsgGetFds (d : Daemon) (t : TargetControlHandle)
    (devFds : Fin maxSppBusDevices → Nat) : Option (List PolledFd) :=
  if d.messageType ≠ agentControlType then
    t.targetGetFds d.msg.spp.handler devFds
  else none

end Code

section Header
variable (o : ReadOracle)

theorem headerComplete_header (r : Reader) :
    (headerComplete o r).reader.inMsg.header = r.inMsg.header := by
  rw [headerComplete]
  split
  · rfl
  · rfl
  · rfl

theorem headerArrived_header (r : Reader) (numToRead : Nat) (bytes : List UInt8) :
    (headerArrived o r numToRead bytes).reader.inMsg.header =
      blit r.inMsg.header r.inMsg.readIndex bytes := by
  rw [headerArrived]
  split
  · dsimp only
    generalize (if bytes.length > numToRead then numToRead else bytes.length) = size
    split
    · exact headerComplete_header o _
    · rfl
  · next hnone =>
      rw [List.length_eq_zero_iff.mp (Nat.eq_zero_of_not_pos hnone), blit_nil]

theorem readBuffer_header (r : Reader) (result : Status) :
    (readBuffer o r result).1.inMsg.header = r.inMsg.header := by
  rw [readBuffer]
  dsimp only
  generalize r.inMsg.dataSize - r.inMsg.readIndex = numToRead
  generalize hserved : asdApiServerRead o r (.buffer r.inMsg.readIndex numToRead) numToRead = served
  have hsame : served.2.inMsg.header = r.inMsg.header := hserved ▸ rfl
  rw [bufferArrived]
  split
  · dsimp only
    generalize (if served.1.length > numToRead then numToRead else served.1.length) = size
    split
    · exact hsame
    · exact hsame
  · exact hsame

theorem readFromHeader_header (r : Reader) :
    (readFromHeader o r).1.inMsg.header = blit r.inMsg.header r.inMsg.readIndex
      (r.input.take (readSize o r (messageHeaderSize - r.inMsg.readIndex))) := by
  have hheader : (readHeader o r).reader.inMsg.header = _ := headerArrived_header o _ _ _
  rw [readFromHeader]
  split
  · exact hheader
  split
  · exact hheader
  split
  · exact hheader
  · exact (readBuffer_header o _ _).trans hheader

/-- The first byte of a header is the first one that arrives for it. -/
theorem readFromHeader_first (r : Reader) :
    (readFromHeader o r).1.inMsg.header 0 =
      if r.inMsg.readIndex = 0 then r.input.head?.getD (r.inMsg.header 0)
      else r.inMsg.header 0 := by
  rw [readFromHeader_header]
  by_cases hindex : r.inMsg.readIndex = 0
  · rw [if_pos hindex, hindex]
    cases hinput : r.input with
    | nil => rw [List.take_nil, blit_nil, List.head?_nil, Option.getD_none]
    | cons first rest =>
        have hsize : 0 < readSize o r (messageHeaderSize - 0) := by
          simp only [readSize, hinput, List.length_cons, messageHeaderSize]
          omega
        obtain ⟨n, hn⟩ := Nat.exists_eq_succ_of_ne_zero (Nat.ne_of_gt hsize)
        rw [hn, List.take_succ_cons, List.head?_cons, Option.getD_some]
        rfl
  · rw [if_neg hindex, blit_of_lt _ _ (Nat.pos_of_ne_zero hindex)]

end Header

section Runs

/-- The type that a call finds of a message it begins to read. Where it gets no byte, the
header is cleared, and stays so for the calls that follow. -/
def Daemon.begins (d : Daemon) : ClientInput → Option UInt8
  | .read io =>
      match d.inMsg.readState with
      | .initial => some (io.bytes.headD 0 >>> 5)
      | .header =>
          if d.inMsg.readIndex = 0 then io.bytes.head?.map fun first : UInt8 => first >>> 5
          else none
      | .buffer => none
  | .event _ _ => none

theorem Daemon.asdMsgRead_inMsg (d : Daemon) (io : ReadIo) :
    (d.asdMsgRead io).inMsg = (d.reader io).inMsg := by
  rw [Daemon.asdMsgRead]
  dsimp only
  split
  · split
    · rfl
    · rfl
  · rfl

theorem Daemon.asdMsgEvent_inMsg (d : Daemon) (event : TargetEvent) :
    (d.asdMsgEvent event).inMsg = d.inMsg := by
  rw [Daemon.asdMsgEvent.eq_def]
  split
  · cases event with
    | none => rfl
    | pin _ => rfl
    | bpk _ => rfl
  · rfl

theorem Daemon.reader_first (d : Daemon) (io : ReadIo) :
    (d.reader io).inMsg.header 0 >>> 5 =
      (d.begins (.read io)).getD (d.inMsg.header 0 >>> 5) := by
  rw [Daemon.reader, AtScaleDebug.asdMsgRead, Daemon.begins]
  dsimp only
  cases d.inMsg.readState with
  | initial =>
      rw [readFromHeader_first]
      cases io.bytes with
      | nil => rfl
      | cons first rest => rfl
  | header =>
      rw [readFromHeader_first]
      by_cases hindex : d.inMsg.readIndex = 0
      · simp only [hindex, if_true]
        cases io.bytes with
        | nil => rfl
        | cons first rest => rfl
      · simp only [hindex, if_false, Option.getD_none]
  | buffer => rw [readBuffer_header, Option.getD_none]

theorem clientStep_messageType (d : Daemon) (input : ClientInput) :
    (clientStep d input).messageType = (d.begins input).getD d.messageType := by
  cases input with
  | read io =>
      have hheader := d.reader_first io
      rw [← Daemon.asdMsgRead_inMsg] at hheader
      exact hheader
  | event event logged =>
      rw [clientStep, Daemon.messageType, Daemon.asdMsgEvent_inMsg]
      rfl

theorem shiftRight_reserved (first : UInt8) : (first &&& 0x08) >>> 5 = 0 := by
  apply UInt8.toNat.inj
  have hle : first.toNat &&& 8 ≤ 8 := Nat.and_le_right
  simp only [UInt8.toNat_shiftRight, UInt8.toNat_and, UInt8.reduceToNat, Nat.reduceMod,
    Nat.shiftRight_eq_div_pow, Nat.reducePow]
  omega

/-- No client leaves a header behind that is not for the agent. -/
theorem Daemon.served_messageType (args : DaemonArgs) (history : List ClientRun) :
    (Machine.run Daemon.served (.initial args) history).messageType = agentControlType := by
  cases history using List.reverseRecOn with
  | nil => exact shiftRight_reserved 0
  | append_singleton history s =>
      rw [Machine.run_append, Machine.run_cons, Machine.run_nil]
      exact shiftRight_reserved _

/-- At any moment of the life of any client, what `target_get_fds` gives is polled if and
only if the message that was begun last is not one for the agent. -/
theorem pins_polled_iff (args : DaemonArgs) (history : List ClientRun) (s : ClientRun)
    (t : TargetControlHandle) (devFds : Fin maxSppBusDevices → Nat) (fds : List PolledFd) :
    let first := (Machine.run Daemon.served (.initial args) history).onClientConnect s.client
    let d := (Machine.run Daemon.served (.initial args) history).serve s
    d.asdMsgGetFds t devFds = some fds ↔ t.targetGetFds d.msg.spp.handler devFds = some fds ∧
      ∃ front input back type, s.inputs = front ++ input :: back ∧
        (Machine.run clientStep first front).begins input = some type ∧
        type ≠ agentControlType ∧
        Machine.Meets clientStep (fun d later => d.begins later = none)
          (clientStep (Machine.run clientStep first front) input) back := by
  intro first d
  have hstart : ¬ first.messageType ≠ agentControlType :=
    not_not_intro (Daemon.served_messageType args history)
  rw [← run_acting_iff clientStep_messageType hstart, Daemon.asdMsgGetFds]
  change _ ↔ _ ∧ d.messageType ≠ agentControlType
  by_cases htype : d.messageType ≠ agentControlType
  · rw [if_pos htype, and_iff_left htype]
  · rw [if_neg htype]
    exact iff_of_false (Option.some_ne_none fds).symm fun h => htype h.2

end Runs

end AtScaleDebug
