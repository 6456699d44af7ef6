import AtScaleDebug.Lib.Framing
import AtScaleDebug.Server.RemoteLog
import AtScaleDebug.Target.SentPackets

/-!
What a client makes of the bytes it gets. `send_response` puts a packet into one buffer and
hands it to the transport, which may take a part of it. Nothing is sent again, and nothing
on the socket says where a packet starts: the client has only the size fields to go by. A
line that is logged on the way is a packet of its own.
-/

namespace AtScaleDebug

open Framing

def Packet.bytes (p : Packet) : List UInt8 := p.1.toBytes ++ p.2

namespace LogEnv
variable (e : LogEnv)

def quietCallback : LogCallback := fun _ _ _ r => some r

/-- The bytes of a packet that reach the client, and what `send_response` returns. -/
def deliver (p : Packet) : List UInt8 × Status :=
  match e.sendResponse quietCallback p .start with
  | none => ([], .err)
  | some (r, status) =>
      (r.written.zipIdx.flatMap fun (buffer, n) => buffer.take (e.write n).ret.toNat, status)

/-- The transport gets as far as its write. -/
def Writes : Prop :=
  match e.conn with
  | none => False
  | some conn => 0 ≤ conn.sockfd ∧ (e.extnet = .tls → conn.hdlrData ≠ none)

instance : Decidable e.Writes := by
  unfold Writes
  split <;> infer_instance

end LogEnv

/-- The transport takes some bytes of the packet, and does not say that it took them all. -/
def CutShort (s : Packet × LogEnv) : Prop :=
  s.2.Writes ∧ 0 < (s.2.write 0).ret ∧ (s.2.write 0).ret ≠ (Packet.bytes s.1).length

instance (s : Packet × LogEnv) : Decidable (CutShort s) :=
  inferInstanceAs (Decidable (_ ∧ _ ∧ _))

/-- The packets of the daemon in the order in which they are handed to the transport, each
with the transport that it finds. -/
structure ClientStream (d : Daemon) (s : ClientRun) where
  sends : List (Packet × LogEnv)
  received : ∀ p ∈ sends, p.1 ∈ d.received s

section Client

def streamOf (sends : List (Packet × LogEnv)) : List UInt8 :=
  sends.flatMap fun s => (s.2.deliver s.1).1

/-- The packets that are reported as sent. -/
def reported (sends : List (Packet × LogEnv)) : List Packet :=
  (sends.filter fun s => (s.2.deliver s.1).2 = .ok).map Prod.fst

def readPacket (frame : Frame UInt8) : Packet := (.ofBytes fun i => frame.1.getD i 0, frame.2)

/-- The packets that a client reads, one after the other. -/
def readPackets (stream : List UInt8) : List Packet :=
  (parse messageFormat (fun _ => true) [] stream).map readPacket

/-- At every moment the client has read the packets that were reported as sent, as far as
they have arrived; and in the end nothing is left over. -/
structure Understood (sends : List (Packet × LogEnv)) : Prop where
  packets : ∀ k, readPackets ((streamOf sends).take k) =
    arrived (fun p => (Packet.bytes p).length) k (reported sends)
  complete : (readPackets (streamOf sends)).flatMap Packet.bytes = streamOf sends

end Client

namespace LogEnv
variable (e : LogEnv)

section Quiet
variable {conn : ExtnetConn} {buffer : List UInt8} (hbuffer : buffer ≠ []) (r : LogRun)

theorem asdLog_quiet (call : LogCall) :
    e.asdLog quietCallback call r = some { r with lines := r.lines + 1 } := by
  unfold asdLog
  dsimp only
  split
  · rfl
  · rfl

theorem exttlsHasWriteError_quiet (io : WriteIo) :
    ∃ status, e.exttlsHasWriteError quietCallback io r =
      some ({ r with lines := r.lines + 1 }, status) := by
  unfold exttlsHasWriteError
  dsimp only
  rw [asdLog_quiet, asdLog_quiet]
  split
  · exact ⟨.err, rfl⟩
  · exact ⟨.ok, rfl⟩

include hbuffer in
/-- What the transport returns is the number of the bytes when it has written all of them, and
then only. -/
theorem extnetSend_quiet (hconn : e.conn = some conn) :
    ∃ t cnt, e.extnetSend quietCallback conn buffer r = some (t, cnt) ∧
      t.written = r.written ++ (if e.Writes then [buffer] else []) ∧
      (cnt = buffer.length ↔ e.Writes ∧ (e.write r.written.length).ret = buffer.length) := by
  have hpos : 0 < buffer.length := List.length_pos_of_ne_nil hbuffer
  have hwrites : e.Writes ↔ 0 ≤ conn.sockfd ∧ (e.extnet = .tls → conn.hdlrData ≠ none) := by
    rw [Writes, hconn]
  have hclosed {t : LogRun} (ht : t.written = r.written) (hnot : ¬ e.Writes) :
      t.written = r.written ++ (if e.Writes then [buffer] else []) ∧
        ((-1 : Int) = buffer.length ↔
          e.Writes ∧ (e.write r.written.length).ret = buffer.length) := by
    rw [if_neg hnot, List.append_nil]
    exact ⟨ht, iff_of_false (by omega) fun hsent => hnot hsent.1⟩
  unfold extnetSend
  cases hextnet : e.extnet with
  | nonEncrypt =>
      dsimp only
      unfold exttcpSend
      split
      · next hfd =>
          rw [asdLog_quiet]
          exact ⟨_, _, rfl, hclosed rfl fun h => absurd (hwrites.mp h).1 (Int.not_le.mpr hfd)⟩
      · next hfd =>
          have hopen : e.Writes := hwrites.mpr
            ⟨Int.not_lt.mp hfd, fun htls => absurd (hextnet.symm.trans htls) (by decide)⟩
          refine ⟨_, _, rfl, ?_, ?_⟩
          · rw [if_pos hopen]
          · exact (and_iff_right hopen).symm
  | tls =>
      dsimp only
      unfold exttlsSend
      split
      · next hfd =>
          rw [asdLog_quiet]
          exact ⟨_, _, rfl, hclosed rfl fun h => absurd (hwrites.mp h).1 (Int.not_le.mpr hfd)⟩
      split
      · next hssl =>
          dsimp only
          rw [asdLog_quiet]
          exact ⟨_, _, rfl, hclosed rfl fun h => (hwrites.mp h).2 hextnet hssl⟩
      · next hfd hssl =>
          have hopen : e.Writes := hwrites.mpr ⟨Int.not_lt.mp hfd, fun _ => hssl⟩
          dsimp only
          rw [if_pos hopen]
          split
          · next hret =>
              -- a failed write is reported by a number that no buffer has for its length
              obtain ⟨status, herror⟩ := e.exttlsHasWriteError_quiet
                { r with written := r.written ++ [buffer] } (e.write r.written.length)
              rw [herror]
              refine ⟨_, _, rfl, rfl, iff_of_false ?_ ?_⟩
              · split
                · omega
                · omega
              · rintro ⟨-, hwhole⟩
                omega
          · exact ⟨_, _, rfl, rfl, (and_iff_right hopen).symm⟩

include hbuffer in
theorem asdServerWrite_quiet :
    ∃ t, e.asdServerWrite quietCallback buffer r =
        some (t, if e.Writes ∧ (e.write r.written.length).ret = buffer.length then buffer.length
          else 0) ∧
      t.written = r.written ++ (if e.Writes then [buffer] else []) := by
  unfold asdServerWrite sendOutMsgOnSocket
  split
  · next hnone =>
      have hnot : ¬ e.Writes := by
        rw [Writes, hnone]
        exact not_false
      refine ⟨r, ?_, ?_⟩
      · rw [if_neg fun hsent => hnot hsent.1]
        rfl
      · rw [if_neg hnot, List.append_nil]
  · next conn hconn =>
      obtain ⟨t, cnt, hsent, hwritten, hcnt⟩ := e.extnetSend_quiet hbuffer r hconn
      rw [hsent]
      simp only [Option.bind_eq_bind, Option.bind_some, asdLog_quiet]
      by_cases hwhole : cnt = buffer.length
      · rw [if_pos hwhole, if_pos (hcnt.mp hwhole)]
        exact ⟨t, rfl, hwritten⟩
      · rw [if_neg hwhole, if_neg fun h => hwhole (hcnt.mpr h)]
        exact ⟨{ t with lines := t.lines + 1 }, rfl, hwritten⟩

theorem sendResponse_quiet {p : Packet} (hsize : getMessageSize p.1 = some p.2.length) :
    ∃ t, e.sendResponse quietCallback p r =
        some (t, if e.Writes ∧ (e.write r.written.length).ret = p.bytes.length then .ok
          else .err) ∧
      t.written = r.written ++ (if e.Writes then [p.bytes] else []) := by
  have hlength : p.bytes.length = messageHeaderSize + p.2.length := List.length_append
  have hbuffer : p.bytes ≠ [] := by
    rw [Packet.bytes, MessageHeader.toBytes]
    exact List.cons_ne_nil _ _
  unfold sendResponse
  simp only [hsize, asdLog_noRemote, asdLogBuffer_noRemote, Option.bind_eq_bind, Option.bind_some,
    List.take_length]
  rw [← Packet.bytes, ← hlength]
  obtain ⟨t, hsent, hwritten⟩ :=
    e.asdServerWrite_quiet hbuffer { r with lines := r.lines + 1 + 1 + 1 }
  rw [hsent, Option.bind_some]
  refine ⟨t, ?_, hwritten⟩
  dsimp only
  split
  · rw [if_pos rfl]
    rfl
  · rw [if_neg (Nat.ne_of_lt (List.length_pos_of_ne_nil hbuffer))]
    rfl

end Quiet

end LogEnv

section Sends
variable {p : Packet} (h : WellFormed p)
include h

theorem deliver_of_wellFormed (e : LogEnv) :
    e.deliver p =
      if e.Writes ∧ (e.write 0).ret = p.bytes.length then (p.bytes, .ok)
      else (if e.Writes then p.bytes.take (e.write 0).ret.toNat else [], .err) := by
  obtain ⟨t, hsent, hwritten⟩ := e.sendResponse_quiet .start h.size
  rw [LogEnv.deliver, hsent]
  dsimp only
  rw [hwritten]
  by_cases hwrites : e.Writes
  · by_cases hret : (e.write 0).ret = p.bytes.length
    · simp [LogRun.start, hwrites, hret]
    · simp [LogRun.start, hwrites, hret]
  · simp [LogRun.start, hwrites]

/-- A packet is sent as a whole, or it is not reported as sent, and then some of it is out
when it is cut short. -/
theorem deliver_cases (e : LogEnv) :
    (e.deliver p = (p.bytes, .ok) ∧ ¬ CutShort (p, e)) ∨
      ∃ out, e.deliver p = (out, .err) ∧ (out = [] ↔ ¬ CutShort (p, e)) := by
  rw [deliver_of_wellFormed h]
  by_cases hwrites : e.Writes
  · by_cases hret : (e.write 0).ret = p.bytes.length
    · rw [if_pos ⟨hwrites, hret⟩]
      exact .inl ⟨rfl, fun hcut => hcut.2.2 hret⟩
    · rw [if_neg fun hsent => hret hsent.2, if_pos hwrites]
      refine .inr ⟨_, rfl, ?_⟩
      have hsome : p.bytes ≠ [] := by
        rw [Packet.bytes, MessageHeader.toBytes]
        exact List.cons_ne_nil _ _
      have hcut : CutShort (p, e) ↔ 0 < (e.write 0).ret :=
        ⟨fun hcut => hcut.2.1, fun hpos => ⟨hwrites, hpos, hret⟩⟩
      rw [List.take_eq_nil_iff, or_iff_left hsome, hcut]
      omega
  · rw [if_neg fun hsent => hwrites hsent.1, if_neg hwrites]
    exact .inr ⟨[], rfl, iff_of_true rfl fun hcut => hwrites hcut.1⟩

theorem framed_of_wellFormed : Framed messageFormat (p.1.toBytes, p.2) where
  header := rfl
  payload := by
    rw [messageFormat]
    dsimp only
    rw [ofBytes_toBytes h.fits]
    exact h.size

theorem readPacket_of_wellFormed : readPacket (p.1.toBytes, p.2) = p := by
  rw [readPacket, ofBytes_toBytes h.fits]

end Sends

section Stream
variable {sends : List (Packet × LogEnv)}

theorem streamOf_cons (s : Packet × LogEnv) (sends : List (Packet × LogEnv)) :
    streamOf (s :: sends) = (s.2.deliver s.1).1 ++ streamOf sends := List.flatMap_cons

theorem reported_cons (s : Packet × LogEnv) (sends : List (Packet × LogEnv)) :
    reported (s :: sends) =
      if (s.2.deliver s.1).2 = .ok then s.1 :: reported sends else reported sends := by
  rw [reported, List.filter_cons]
  split
  · next hok => rw [if_pos (of_decide_eq_true hok), List.map_cons, reported]
  · next hfailed => rw [if_neg fun hok => hfailed (decide_eq_true hok), reported]

theorem mem_of_mem_reported {p : Packet} (h : p ∈ reported sends) : ∃ io, (p, io) ∈ sends := by
  obtain ⟨⟨q, io⟩, hmem, rfl⟩ := List.mem_map.mp h
  exact ⟨io, List.mem_of_mem_filter hmem⟩

variable (hwf : ∀ s ∈ sends, WellFormed s.1)
include hwf

theorem length_reported_le :
    ((reported sends).flatMap Packet.bytes).length ≤ (streamOf sends).length := by
  induction sends with
  | nil => exact Nat.le_refl _
  | cons s sends ih =>
      have hrest := ih fun t ht => hwf t (List.mem_cons_of_mem s ht)
      obtain ⟨hsent, _⟩ | ⟨out, hfailed, _⟩ :=
        deliver_cases (hwf s List.mem_cons_self) s.2
      · rw [reported_cons, streamOf_cons, hsent, if_pos rfl, List.flatMap_cons, List.length_append,
          List.length_append]
        exact Nat.add_le_add_left hrest _
      · rw [reported_cons, streamOf_cons, hfailed, if_neg (by rintro ⟨⟩), List.length_append]
        exact hrest.trans (Nat.le_add_left _ _)

/-- The stream is made of the packets that are reported as sent, unless bytes of others are
among them. -/
theorem reported_eq_stream_iff :
    (reported sends).flatMap Packet.bytes = streamOf sends ↔ ∀ s ∈ sends, ¬ CutShort s := by
  induction sends with
  | nil => exact iff_of_true rfl (List.forall_mem_nil _)
  | cons s sends ih =>
      have htail : ∀ t ∈ sends, WellFormed t.1 := fun t ht => hwf t (List.mem_cons_of_mem s ht)
      rw [List.forall_mem_cons, ← ih htail, reported_cons, streamOf_cons]
      obtain ⟨hsent, hwhole⟩ | ⟨out, hfailed, hout⟩ :=
        deliver_cases (hwf s List.mem_cons_self) s.2
      · rw [hsent, if_pos rfl, List.flatMap_cons, List.append_right_inj]
        exact (and_iff_right hwhole).symm
      · rw [hfailed, if_neg (by rintro ⟨⟩), ← hout]
        constructor
        · intro heq
          have hlength := congrArg List.length heq
          have hle := length_reported_le htail
          rw [List.length_append] at hlength
          dsimp only at hlength
          have hnil : out = [] := List.eq_nil_of_length_eq_zero (by omega)
          rw [hnil, List.nil_append] at heq
          exact ⟨hnil, heq⟩
        · intro h
          rw [h.1, List.nil_append]
          exact h.2

/-- The packets that were reported as sent, read from the front of a stream of them. -/
theorem readPackets_take (k : Nat) :
    readPackets (((reported sends).flatMap Packet.bytes).take k) =
      arrived (fun p => (Packet.bytes p).length) k (reported sends) := by
  have hreported : ∀ p ∈ reported sends, WellFormed p := fun p hp =>
    have ⟨_, hmem⟩ := mem_of_mem_reported hp
    hwf _ hmem
  have hframed : ∀ f ∈ (reported sends).map (fun p : Packet => (p.1.toBytes, p.2)),
      Framed messageFormat f := by
    intro f hf
    obtain ⟨p, hp, rfl⟩ := List.mem_map.mp hf
    exact framed_of_wellFormed (hreported p hp)
  have hstream : (reported sends).flatMap Packet.bytes =
      ((reported sends).map fun p : Packet => (p.1.toBytes, p.2)).flatMap frameBytes := by
    rw [List.flatMap_map]
    rfl
  have hread : ∀ p ∈ arrived (fun p => (Packet.bytes p).length) k (reported sends),
      readPacket (p.1.toBytes, p.2) = p := by
    intro p hp
    exact readPacket_of_wellFormed (hreported p ((arrived_sublist _ k _).subset hp))
  rw [readPackets, hstream, parse_take hframed (fun _ => rfl), arrived_map, List.map_map]
  exact (List.map_congr_left hread).trans (List.map_id _)

theorem understood_iff : Understood sends ↔ ∀ s ∈ sends, ¬ CutShort s := by
  rw [← reported_eq_stream_iff hwf]
  constructor
  · intro h
    have hall := h.packets (streamOf sends).length
    rw [List.take_length, arrived_of_le (length_reported_le hwf)] at hall
    exact hall ▸ h.complete
  · intro hstream
    have hpackets := readPackets_take hwf
    rw [hstream] at hpackets
    refine ⟨hpackets, ?_⟩
    have hall := hpackets (streamOf sends).length
    rw [List.take_length, arrived_of_le (length_reported_le hwf)] at hall
    rw [hall, hstream]

end Stream

/-- Whatever a client asks for and whatever becomes of it, the client reads exactly the
packets that the daemon takes for sent, each as soon as its last byte is there, if and only
if none is cut short. -/
theorem client_reads_iff {d : Daemon} {s : ClientRun} (c : ClientStream d s) :
    Understood c.sends ↔ ∀ p ∈ c.sends, ¬ CutShort p := by
  apply understood_iff
  intro p hp
  exact received_wellFormed d s p.1 (c.received p hp)

/-- A client that asks for the number of buffers. -/
def buffersClient : ClientRun := ⟨plainClient, [.read (wholeMessage agentControlType 3 [])]⟩

/-- Its answer. -/
def buffersAnswer : Packet :=
  (⟨0, 0, 0, agentControlType, 2, 0, 0, 0⟩, [3, numInFlightBuffersToUse])

/-- The answer on its way over a socket that takes some bytes. -/
def buffersStream (cnt : Int) : ClientStream (.initial plainArgs) buffersClient where
  sends := [(buffersAnswer, { LogEnv.brokenPipe with
    extnet := .nonEncrypt, write := fun _ => ⟨cnt, 0, 0, ""⟩ })]
  received := List.forall_mem_singleton.mpr
    (show buffersAnswer ∈ (Daemon.initial plainArgs).received buffersClient by decide)

/-- The answer has six bytes. -/
theorem client_reads_iff_buffers :
    Understood (buffersStream 6).sends ∧ ¬ Understood (buffersStream 4).sends := by
  refine ⟨(client_reads_iff (buffersStream 6)).mpr (by decide), fun h => ?_⟩
  exact (client_reads_iff (buffersStream 4)).mp h _ List.mem_cons_self (by decide)

end AtScaleDebug
