import AtScaleDebug.Target.ClientSession
import AtScaleDebug.Target.GenuineEvents
import AtScaleDebug.Target.SppEntries

/-!
The packets of the daemon as bytes. A header is sent as it lies in memory, so the fields of
a packet have to fit in their bits, and its size fields have to announce its payload: the
I2C processing sets them without a look at the limit, and the bulk packet is sent with what
its counter says. Every packet that is sent over the life of a client does both.
-/

namespace AtScaleDebug

open ByteBuffer Framing

section Header

/-- The fields of the bit field, each in its width. -/
structure MessageHeader.Fits (header : MessageHeader) : Prop where
  originId : header.originId < 8
  reserved : header.reserved < 2
  encBit : header.encBit < 2
  type : header.type < 8
  sizeMsb : header.sizeMsb < 32
  tag : header.tag < 8

instance (header : MessageHeader) : Decidable header.Fits :=
  decidable_of_iff (header.originId < 8 ∧ header.reserved < 2 ∧ header.encBit < 2 ∧
      header.type < 8 ∧ header.sizeMsb < 32 ∧ header.tag < 8)
    ⟨fun ⟨h, h', h₁, h₂, h₃, h₄⟩ => ⟨h, h', h₁, h₂, h₃, h₄⟩,
      fun h => ⟨h.originId, h.reserved, h.encBit, h.type, h.sizeMsb, h.tag⟩⟩

theorem and_lt (b : UInt8) {mask bound : UInt8} (h : mask < bound) : b &&& mask < bound := by
  rw [UInt8.lt_iff_toNat_lt] at h ⊢
  rw [UInt8.toNat_and]
  exact Nat.lt_of_le_of_lt Nat.and_le_right h

theorem shiftRight_five_lt (b : UInt8) : b >>> 5 < 8 := by
  have hb : b.toNat < 256 := b.toNat_lt
  have hshift : (5 : UInt8).toNat % 8 = 5 := rfl
  rw [UInt8.lt_iff_toNat_lt, UInt8.toNat_shiftRight, hshift, Nat.shiftRight_eq_div_pow]
  exact Nat.div_lt_of_lt_mul hb

theorem fits_ofBytes (bytes : Nat → UInt8) : (MessageHeader.ofBytes bytes).Fits where
  originId := and_lt (bytes 0) (by decide)
  reserved := and_lt (bytes 0 >>> 3) (by decide)
  encBit := and_lt (bytes 0 >>> 4) (by decide)
  type := shiftRight_five_lt (bytes 0)
  sizeMsb := and_lt (bytes 2) (by decide)
  tag := shiftRight_five_lt (bytes 2)

theorem firstByte_fields : ∀ originId < 8, ∀ reserved < 2, ∀ encBit < 2, ∀ type < 8,
    let byte := UInt8.ofNat originId ||| UInt8.ofNat reserved <<< 3 |||
      UInt8.ofNat encBit <<< 4 ||| UInt8.ofNat type <<< 5
    byte &&& 0x07 = .ofNat originId ∧ (byte >>> 3) &&& 0x01 = .ofNat reserved ∧
      (byte >>> 4) &&& 0x01 = .ofNat encBit ∧ byte >>> 5 = .ofNat type := by
  decide

theorem thirdByte_fields : ∀ sizeMsb < 32, ∀ tag < 8,
    let byte := UInt8.ofNat sizeMsb ||| UInt8.ofNat tag <<< 5
    byte &&& 0x1F = .ofNat sizeMsb ∧ byte >>> 5 = .ofNat tag := by
  decide

theorem ofBytes_toBytes {header : MessageHeader} (h : header.Fits) :
    MessageHeader.ofBytes (fun i => header.toBytes.getD i 0) = header := by
  have hfirst := firstByte_fields header.originId.toNat (UInt8.lt_iff_toNat_lt.mp h.originId)
    header.reserved.toNat (UInt8.lt_iff_toNat_lt.mp h.reserved)
    header.encBit.toNat (UInt8.lt_iff_toNat_lt.mp h.encBit)
    header.type.toNat (UInt8.lt_iff_toNat_lt.mp h.type)
  have hthird := thirdByte_fields header.sizeMsb.toNat (UInt8.lt_iff_toNat_lt.mp h.sizeMsb)
    header.tag.toNat (UInt8.lt_iff_toNat_lt.mp h.tag)
  simp only [UInt8.ofNat_toNat] at hfirst hthird
  obtain ⟨horigin, hreserved, henc, htype⟩ := hfirst
  obtain ⟨hmsb, htag⟩ := hthird
  cases header
  simp only [MessageHeader.ofBytes, MessageHeader.toBytes, List.getD_cons_zero,
    List.getD_cons_succ, MessageHeader.mk.injEq]
  exact ⟨horigin, hreserved, henc, htype, True.intro, hmsb, htag, True.intro⟩

end Header

section WellFormed

/-- A packet that is sent as what it is. -/
structure WellFormed (p : Packet) : Prop where
  fits : p.1.Fits
  size : getMessageSize p.1 = some p.2.length

/-- What a header keeps with another size and another status. -/
theorem MessageHeader.Fits.resized {request : MessageHeader} (h : request.Fits)
    {sizeLsb sizeMsb : UInt8} (cmdStat : UInt8) (hmsb : sizeMsb < 32) :
    MessageHeader.Fits { request with sizeLsb, sizeMsb, cmdStat } :=
  ⟨h.originId, h.reserved, h.encBit, h.type, hmsb, h.tag⟩

theorem msbFromMsgSize_lt (n : Nat) : msbFromMsgSize n < 32 := by
  have hlt : min n maxDataSize >>> 8 &&& 0x1F < 32 :=
    Nat.lt_of_le_of_lt Nat.and_le_right (by decide)
  rw [UInt8.lt_iff_toNat_lt, msbFromMsgSize, UInt8.toNat_ofNat']
  exact Nat.lt_of_le_of_lt (Nat.mod_le _ _) hlt

theorem fits_eventHeader (n : Nat) : (eventHeader n).Fits :=
  (show MessageHeader.Fits ⟨broadcastMessageOriginId, 0, 0, 1, 0, 0, broadcastMessageOriginId, 0⟩ by
    decide).resized 0 (msbFromMsgSize_lt n)

theorem errorMessage_wellFormed {request : MessageHeader} (h : request.Fits) (cmdStat : UInt8) :
    WellFormed (errorMessage request cmdStat) where
  fits :=
    ⟨h.originId, h.reserved, h.encBit, show (1 : UInt8) < 8 by decide,
      show (0 : UInt8) < 32 by decide, h.tag⟩
  size := by simp [errorMessage, getMessageSize]

theorem sendResponse_wellFormed {request : MessageHeader} (h : request.Fits)
    {response : List UInt8} {cmdStat : UInt8} {packet : Packet}
    (hsent : sendResponse request response cmdStat = some packet) : WellFormed packet := by
  obtain ⟨size, hsize, rfl⟩ := Option.map_eq_some_iff.mp hsent
  have hle : size ≤ response.length := (announced_le hsize).1
  refine ⟨h.resized cmdStat (msbFromMsgSize_lt _), ?_⟩
  rw [List.length_take_of_le hle]
  exact hsize

end WellFormed

section Jtag

theorem processMessageJtag_wellFormed (io : JtagIo) (s : JtagSession) {header : MessageHeader}
    (h : header.Fits) (buffer : Nat → UInt8) (accepted : Bool) :
    ∀ p ∈ (processMessageJtag io s header buffer accepted).2, WellFormed p := by
  have hrefused (cmdStat : UInt8) : ∀ p ∈ [errorMessage header cmdStat], WellFormed p :=
    List.forall_mem_singleton.mpr (errorMessage_wellFormed h cmdStat)
  have hsent : ∀ p ∈ (processJtagMessage io s header buffer accepted).sent, WellFormed p := by
    rw [processJtagMessage]
    split
    · exact List.forall_mem_nil _
    split
    · split
      · next packet hpacket =>
          exact List.forall_mem_singleton.mpr (sendResponse_wellFormed h hpacket)
      · exact List.forall_mem_nil _
    · exact List.forall_mem_nil _
  rw [processMessageJtag]
  split
  · exact hrefused _
  split
  · exact hrefused _
  dsimp only
  split
  · exact hsent
  · exact List.forall_mem_append.mpr ⟨hsent, hrefused _⟩

end Jtag

section I2c
variable {c : BusConfig} {request : MessageHeader}

/-- The packets are well formed, and so is the next one. -/
structure I2cOutput.Sound (o : I2cOutput) : Prop where
  packets : ∀ p ∈ o.sent, WellFormed p
  bounded : o.response.length ≤ maxDataSize

section Fits
variable (h : request.Fits)
include h

theorem sized_wellFormed {response : List UInt8} (cmdStat : UInt8)
    (hbounded : response.length ≤ maxDataSize) :
    WellFormed ({ request with
      sizeLsb := .ofNat (response.length &&& 0xFF)
      sizeMsb := .ofNat ((response.length >>> 8) &&& 0x1F)
      cmdStat }, response) where
  fits := by
    have hmsb : msbFromMsgSize response.length =
        .ofNat ((response.length >>> 8) &&& 0x1F) := by
      rw [msbFromMsgSize, Nat.min_eq_left hbounded]
    exact h.resized cmdStat (hmsb ▸ msbFromMsgSize_lt response.length)
  size := getMessageSize_of_fields request cmdStat hbounded

theorem I2cOutput.Sound.send {o : I2cOutput} (hsound : o.Sound) (cmdStat : UInt8) :
    (o.send request cmdStat).Sound where
  packets := List.forall_mem_append.mpr ⟨hsound.packets,
    List.forall_mem_singleton.mpr (sized_wellFormed h cmdStat hsound.bounded)⟩
  bounded := hsound.bounded

theorem I2cOutput.Sound.buildResponses {o : I2cOutput} (hsound : o.Sound)
    (continued : Nat → Bool) (ack : Bool) (k : Nat) (msgs : List I2cMsg) :
    (AtScaleDebug.buildResponses request continued ack k msgs o).1.Sound := by
  induction msgs generalizing k o with
  | nil => exact hsound
  | cons m msgs ih =>
      have hentry := m.length_entry_le ack
      have hsent := hsound.send h asdPacketContinuation
      rw [AtScaleDebug.buildResponses]
      split
      · split
        · apply ih
          refine ⟨hsent.packets, ?_⟩
          exact hentry.trans ((Nat.add_le_add_right m.short 2).trans (by decide))
        · exact hsent
      · apply ih
        refine ⟨hsound.packets, ?_⟩
        rw [List.length_append]
        omega

theorem flushI2c_sound (io : I2cIo) {s : I2cState} (hsound : s.out.Sound) :
    (flushI2c c request io s).1.out.Sound := by
  have hbuilt {ack : Bool} {msgs : List I2cMsg} {result : I2cOutput × Status}
      (heq : buildResponses request io.continued ack 0 msgs s.out = result) : result.1.Sound :=
    heq ▸ hsound.buildResponses h io.continued ack 0 msgs
  rw [flushI2c]
  dsimp only
  split
  · next out heq => exact hbuilt heq
  · next out status _ heq => exact hbuilt heq

theorem executeI2cCommand_sound (io : I2cIo) {s : I2cState} (hsound : s.out.Sound)
    (command : I2cCommand) : (executeI2cCommand c request io s command).1.out.Sound := by
  cases command with
  | setSclk | transfer => exact hsound
  | busSelect bus =>
      have hselect : (doBusSelectCommand c request io.select s bus).1.out.Sound := by
        cases bus with
        | none => exact hsound
        | some bus =>
            refine ⟨List.forall_mem_append.mpr ⟨hsound.packets, ?_⟩, hsound.bounded⟩
            intro p hp
            obtain ⟨cmdStat, _, rfl⟩ := List.mem_map.mp hp
            exact errorMessage_wellFormed h cmdStat
      rw [executeI2cCommand]
      split
      · next t heq =>
          rw [heq] at hselect
          exact hselect
      · next t _ _ heq =>
          rw [heq] at hselect
          exact hselect.send h _

theorem i2cLoop_sound (io : Nat → I2cIo) (rounds k : Nat) (status : Status) {s : I2cState}
    (hsound : s.out.Sound) (packet : List UInt8) :
    (i2cLoop c io request rounds k status s packet).1.out.Sound := by
  induction rounds generalizing k status s packet with
  | zero => exact hsound
  | succ rounds ih =>
      cases packet with
      | nil => exact hsound
      | cons byte packet =>
          rw [i2cLoop]
          split
          · exact hsound
          · next command rest _ =>
              have hexecute := executeI2cCommand_sound (c := c) h (io k) hsound command
              split
              · next t heq =>
                  rw [heq] at hexecute
                  exact hexecute
              · next t status heq =>
                  rw [heq] at hexecute
                  exact ih (k + 1) status hexecute rest
              · next t heq =>
                  rw [heq] at hexecute
                  split
                  · have hflush := flushI2c_sound (c := c) h (io k) hexecute
                    split
                    · next u hu =>
                        rw [hu] at hflush
                        exact ih (k + 1) .ok hflush rest
                    · next u _ _ hu =>
                        rw [hu] at hflush
                        exact hflush
                  · exact ih (k + 1) .ok hexecute rest

end Fits

theorem processI2cMessages_sound (c : BusConfig) {r : I2cRequest} (h : r.header.Fits)
    (bus : BusState) {sent : List Packet} (hsent : ∀ p ∈ sent, WellFormed p)
    (events : List BusEvent) : (processI2cMessages c r bus sent events).1.out.Sound := by
  have hstart : (⟨[], sent⟩ : I2cOutput).Sound := ⟨hsent, Nat.zero_le _⟩
  rw [processI2cMessages]
  split
  · exact hstart
  · next size _ =>
      have hloop := i2cLoop_sound (c := c) h r.io size 0 .ok
        (s := ⟨bus, [], false, false, ⟨[], sent⟩, events⟩) hstart (i2cPayload r.header r.buffer)
      split
      · next t heq =>
          rw [heq] at hloop
          exact hloop.send h 0
      · next t status _ heq =>
          rw [heq] at hloop
          exact hloop

theorem processI2cMessage_wellFormed (c : BusConfig) {s : BusSession} {r : I2cRequest}
    (h : r.header.Fits) (hsent : ∀ p ∈ s.sent, WellFormed p) :
    ∀ p ∈ (processI2cMessage c s r).sent, WellFormed p := by
  have hrefused (cmdStat : UInt8) :
      ∀ p ∈ s.sent ++ [errorMessage r.header cmdStat], WellFormed p :=
    List.forall_mem_append.mpr
      ⟨hsent, List.forall_mem_singleton.mpr (errorMessage_wellFormed h cmdStat)⟩
  have hreport (status : Status) (cmdStat : UInt8) :
      ∀ p ∈ (if status = .ok then [] else [errorMessage r.header cmdStat]), WellFormed p := by
    split
    · exact List.forall_mem_nil _
    · exact List.forall_mem_singleton.mpr (errorMessage_wellFormed h cmdStat)
  rw [processI2cMessage]
  split
  · exact hrefused _
  split
  · exact hrefused _
  split
  · next bus _ =>
      have hsound := processI2cMessages_sound c h bus hsent (s.events ++ [.accepted bus])
      exact List.forall_mem_append.mpr
        ⟨List.forall_mem_append.mpr ⟨hsound.packets, hreport _ _⟩, hreport _ _⟩
  · exact hrefused _

end I2c

section Spp

/-- The payload is what the size fields announce, when they announce anything. -/
structure Announced (p : Packet) : Prop where
  fits : p.1.Fits
  payload : p.2.length = (getMessageSize p.1).getD 0

theorem Announced.wellFormed {p : Packet} (h : Announced p)
    (hsize : (getMessageSize p.1).isSome = true) : WellFormed p := by
  obtain ⟨size, heq⟩ := Option.isSome_iff_exists.mp hsize
  refine ⟨h.fits, ?_⟩
  rw [h.payload, heq]
  rfl

section Fits
variable {request : MessageHeader} (h : request.Fits)
include h

theorem respond_announced {s : SppState} (hsent : ∀ p ∈ s.responses, Announced p) :
    ∀ p ∈ (s.respond request).responses, Announced p := by
  apply List.forall_mem_append.mpr ⟨hsent, List.forall_mem_singleton.mpr ?_⟩
  exact ⟨h.resized 0 (msbFromMsgSize_lt _), length_slice _ _ _⟩

theorem executeSppCommand_announced (io : SppIo) {s : SppState}
    (hsent : ∀ p ∈ s.responses, Announced p) (command : SppCommand) :
    ∀ p ∈ (executeSppCommand io request s command).1.responses, Announced p := by
  cases hbulk : command.isBulk with
  | false =>
      have hsame := (executeSppCommand_mode io request s hbulk).2.2.1
      rw [hsame]
      exact hsent
  | true =>
      cases command with
      | bulk count =>
          rw [executeSppCommand, executeBulk]
          dsimp only
          split
          · exact respond_announced (s := { s with out := s.out.put [0x60, count] }) h hsent
          · exact respond_announced (s := { s with out := s.out.put [0x60, count] }) h hsent
      | _ => cases hbulk

theorem sppBulkLoop_announced (enabled : Bool) (io : Nat → SppPollIo) (rounds k : Nat)
    {s : SppState} (hsent : ∀ p ∈ s.responses, Announced p) (b : SppBulk)
    (packet : List UInt8) :
    ∀ p ∈ (sppBulkLoop enabled io request rounds k s b packet).1.responses, Announced p := by
  induction rounds generalizing k s b packet with
  | zero => exact hsent
  | succ rounds ih =>
      cases packet with
      | nil => exact hsent
      | cons byte packet =>
          obtain ⟨_, hloop⟩ | ⟨bulkAddress, _, _, hloop⟩ |
            ⟨bulkAddress, command, rest, t, flow, _, _, hexecute, hloop⟩ :=
            sppBulkLoop_round enabled io request rounds k s b byte packet
          · rw [hloop]
            exact hsent
          · rw [hloop]
            exact hsent
          · have ht := executeSppCommand_announced h ((io k).outcomes request s
              (drainCommand enabled s.handler b (io k).polled command).1)
              (s := { s with bulkAddress }) hsent command
            rw [hexecute] at ht
            rw [hloop]
            split
            · exact ih (k + 1) ht _ rest
            · exact ht

end Fits

theorem processSppRequest_announced (s : SppSession) {r : SppRequest} (h : r.header.Fits) :
    ∀ p ∈ (processSppRequest s r).1.responses, Announced p := by
  cases hsize : getMessageSize r.header with
  | none =>
      rw [processSppRequest, hsize]
      exact List.forall_mem_nil _
  | some size =>
      obtain ⟨t, b, flow, hloop, hresult⟩ := processSppRequest_loop s hsize
      have ht := sppBulkLoop_announced h r.enabled r.io size 0
        (s := ⟨{ s.handler with bulkMode := false }, .initial, 0, []⟩) (List.forall_mem_nil _)
        s.bulk (sppPayload r.header r.buffer)
      rw [hloop] at ht
      rw [hresult]
      split
      · exact ht
      split
      · rw [finishBulk_responses]
        exact ht
      split
      · exact respond_announced h ht
      · exact ht

/-- What the log of the bulk packet gains is well formed where it is sent. -/
def SppBulk.Gains (b t : SppBulk) : Prop :=
  ∃ more, t.log = b.log ++ more ∧ ∀ p ∈ more.filterMap BulkRecord.packet?, WellFormed p

theorem SppBulk.Gains.packets {b t : SppBulk} (h : b.Gains t) :
    ∀ p ∈ (t.log.drop b.log.length).filterMap BulkRecord.packet?, WellFormed p := by
  obtain ⟨more, hlog, hmore⟩ := h
  rw [hlog, List.drop_left]
  exact hmore

theorem SppBulk.Gains.trans {b t u : SppBulk} (h : b.Gains t) (h' : t.Gains u) : b.Gains u := by
  obtain ⟨more, hlog, hmore⟩ := h
  obtain ⟨others, hlog', hothers⟩ := h'
  refine ⟨more ++ others, ?_, ?_⟩
  · rw [hlog', hlog, List.append_assoc]
  · rw [List.filterMap_append]
    exact List.forall_mem_append.mpr ⟨hmore, hothers⟩

/-- One record more. -/
theorem gains_of_record {b t : SppBulk} {r : BulkRecord} (hlog : t.log = b.log ++ [r])
    (hr : ∀ p, r.packet? = some p → WellFormed p) : b.Gains t := by
  refine ⟨[r], hlog, ?_⟩
  intro p hp
  obtain ⟨r', hr', hpacket⟩ := List.mem_filterMap.mp hp
  rw [List.mem_singleton.mp hr'] at hpacket
  exact hr p hpacket

theorem packed_wellFormed (b : SppBulk) {p : Packet} (h : b.packet.packet? = some p) :
    WellFormed p := by
  rw [SppBulk.packet, BulkRecord.packet?] at h
  split at h
  · next hsize =>
      cases h
      exact Announced.wellFormed ⟨fits_eventHeader _, length_slice _ _ _⟩ hsize
  · cases h

theorem alone_wellFormed (e : BpkEvent) : WellFormed e.packet where
  fits := fits_eventHeader _
  size := by
    have hfits : e.data.length + 2 ≤ maxDataSize :=
      (Nat.add_le_add_right e.fits 2).trans (by decide)
    exact getMessageSize_of_length (eventHeader 0) 0 hfits

theorem bulkStep_gains (b : SppBulk) (action : BulkAction) : b.Gains (bulkStep b action) := by
  cases action with
  | start => exact gains_of_record rfl (by rintro p ⟨⟩)
  | refused => exact ⟨[], (List.append_nil _).symm, List.forall_mem_nil _⟩
  | finish written => exact gains_of_record rfl fun p => packed_wellFormed b
  | event enabled e io =>
      have hsaved (c : SppBulk) : c.Gains (c.save e) := gains_of_record rfl (by rintro p ⟨⟩)
      rw [bulkStep]
      obtain ⟨_, _, hsent⟩ | ⟨_, _, hsent⟩ | ⟨_, hsent⟩ := sendBpkEvent_cases b e enabled io
      · rw [hsent]
        have hpacked : b.Gains (sendBulkBpkEvent b io.flushed).1.restart :=
          gains_of_record rfl fun p => packed_wellFormed b
        exact hpacked.trans (hsaved _)
      · exact hsent ▸ hsaved b
      · rw [hsent]
        apply gains_of_record rfl
        intro p hp
        cases hp
        exact alone_wellFormed e

theorem run_gains (b : SppBulk) (items : List TraceItem) :
    b.Gains (Machine.run traceStep b items) := by
  apply Machine.run_invariant_of_step (fun t item => (·.trans (bulkStep_gains t item.action)))
  exact ⟨[], (List.append_nil _).symm, List.forall_mem_nil _⟩

theorem sppStep_gains (s : SppSession) (input : SppInput) :
    s.bulk.Gains (sppStep s input).bulk := by
  rw [sppStep_trace]
  exact run_gains s.bulk _

theorem processMessageSpp_wellFormed (enableSpp : Bool) (s : SppSession) {r : SppRequest}
    (h : r.header.Fits) : ∀ p ∈ (processMessageSpp enableSpp s r).2, WellFormed p := by
  rw [processMessageSpp]
  split
  · exact List.forall_mem_singleton.mpr (errorMessage_wellFormed h _)
  split
  · exact List.forall_mem_nil _
  have hresponses := processSppRequest_announced s h
  have hevents : s.bulk.Gains (processSppRequest s r).2.1 := sppStep_gains s (.message r)
  generalize processSppRequest s r = result at hresponses hevents ⊢
  obtain ⟨t, b, status⟩ := result
  apply List.forall_mem_append.mpr ⟨List.forall_mem_append.mpr ⟨?_, hevents.packets⟩, ?_⟩
  · intro p hp
    obtain ⟨hmem, hsize⟩ := List.mem_filter.mp hp
    exact (hresponses p hmem).wellFormed hsize
  · split
    · exact List.forall_mem_nil _
    · exact List.forall_mem_singleton.mpr (errorMessage_wellFormed h _)

end Spp

section Client
variable {m : MsgState}

/-- What has been sent is well formed. -/
def MsgState.Sound (m : MsgState) : Prop := ∀ p ∈ m.session.sent, WellFormed p

theorem MsgState.Sound.send (hsound : m.Sound) {packets : List Packet}
    (h : ∀ p ∈ packets, WellFormed p) : (m.send packets).Sound :=
  List.forall_mem_append.mpr ⟨hsound, h⟩

theorem pinEvent_wellFormed (event : UInt8) : WellFormed (pinEvent event) where
  fits := show MessageHeader.Fits
    ⟨broadcastMessageOriginId, 0, 0, jtagType, 1, 0, broadcastMessageOriginId, 0⟩ by decide
  size := show getMessageSize
    ⟨broadcastMessageOriginId, 0, 0, jtagType, 1, 0, broadcastMessageOriginId, 0⟩ = some 1 by decide

theorem remoteLog_wellFormed (log : RemoteLog) : WellFormed log.packet := by
  have hlength : (8 :: log.config :: log.message.take (maxDataSize - 2)).length ≤ maxDataSize := by
    have htake := List.length_take_le (maxDataSize - 2) log.message
    rw [maxDataSize] at htake ⊢
    rw [List.length_cons, List.length_cons]
    omega
  have hfits : MessageHeader.Fits ⟨0, 0, 0, hardwareLogEvent, 0, 0, 0, 0⟩ := by decide
  refine ⟨hfits.resized 0 (msbFromMsgSize_lt _), ?_⟩
  exact getMessageSize_of_length ⟨0, 0, 0, hardwareLogEvent, 0, 0, 0, 0⟩ 0 hlength

theorem MsgState.Sound.sendLogs (hsound : m.Sound) (logged : List RemoteLog) :
    (m.send (logged.map RemoteLog.packet)).Sound := by
  apply hsound.send
  intro p hp
  obtain ⟨log, _, rfl⟩ := List.mem_map.mp hp
  exact remoteLog_wellFormed log

section Request
variable {r : MsgRequest} (h : r.header.Fits)
include h

theorem MsgState.Sound.refuse (hsound : m.Sound) (cmdStat : UInt8) : (m.refuse r cmdStat).Sound :=
  hsound.send (List.forall_mem_singleton.mpr (errorMessage_wellFormed h cmdStat))

theorem agentControl_sound (c : MsgConfig) (hsound : m.Sound) :
    (m.agentControl c r).1.Sound := by
  obtain ⟨hfits, hsession⟩ := agentControl_answered c m r.toAgentRequest
  rw [MsgState.agentControl]
  generalize AtScaleDebug.agentControl c m r.toAgentRequest = result at hfits hsession ⊢
  obtain ⟨t, reply, status⟩ := result
  have ht : t.Sound := by
    rw [MsgState.Sound, hsession]
    exact hsound
  dsimp only
  split
  · next hsize =>
      apply ht.send (List.forall_mem_singleton.mpr _)
      cases reply with
      | respond bytes size =>
          have hlength : (List.replicate size (0 : UInt8)).length ≤ maxDataSize :=
            List.length_replicate.trans_le hfits
          have hannounced := sized_wellFormed h 0 hlength
          rw [List.length_replicate] at hannounced
          exact Announced.wellFormed ⟨hannounced.fits, length_slice _ _ _⟩ hsize
      | echo => exact Announced.wellFormed ⟨h, length_slice _ _ _⟩ hsize
      | refuse cmdStat => exact errorMessage_wellFormed h cmdStat
  · exact ht

theorem initializeTarget_sound (hsound : m.Sound) : (m.initializeTarget r).1.Sound := by
  have hevents (t : TargetReady) : ∀ p ∈ t.events, WellFormed p := by
    intro p hp
    obtain ⟨event, _, rfl⟩ := List.mem_map.mp hp
    exact pinEvent_wellFormed event
  rw [MsgState.initializeTarget]
  split
  · exact MsgState.Sound.refuse h (m := { m with jtag := _ }) hsound _
  · next t _ =>
      apply MsgState.Sound.send _ (hevents t)
      split
      · exact MsgState.Sound.refuse h (m := { m with session := _ }) hsound _
      · exact hsound

theorem initializeHandlers_sound (c : MsgConfig) (hsound : m.Sound) :
    (m.initializeHandlers c r).1.Sound := by
  have hsame (t : MsgState) (heq : t.session.sent = m.session.sent) : t.Sound := by
    rw [MsgState.Sound, heq]
    exact hsound
  rw [MsgState.initializeHandlers]
  split
  · exact hsound
  dsimp only
  split
  · exact (hsame _ rfl).refuse h _
  split
  · split
    · apply initializeTarget_sound h
      split
      · rw [MsgState.initializeSpp]
        dsimp only
        split
        · exact hsame _ rfl
        · exact MsgState.Sound.refuse h (hsame _ rfl) _
      · exact hsame _ rfl
    · exact MsgState.Sound.refuse h (hsame _ rfl) _
  · exact MsgState.Sound.refuse h (hsame _ rfl) _

theorem processMessage_sound (c : MsgConfig) (hsound : m.Sound) : (m.processMessage c r).Sound := by
  rw [MsgState.processMessage]
  dsimp only
  split
  · exact hsound.refuse h _
  split
  · exact MsgState.Sound.send hsound
      (processMessageJtag_wellFormed r.jtag m.jtag h r.buffer r.written)
  split
  · exact processI2cMessage_wellFormed c.bus h hsound
  · exact MsgState.Sound.send hsound (processMessageSpp_wellFormed c.enableSpp m.spp h)

theorem asdMsgOnMsgRecv_sound (c : MsgConfig) (hsound : m.Sound) :
    (m.asdMsgOnMsgRecv c r).1.Sound := by
  have hlogged : (m.send (r.logged.map RemoteLog.packet)).Sound := hsound.sendLogs r.logged
  rw [MsgState.asdMsgOnMsgRecv]
  split
  · exact hlogged.refuse h _
  split
  · exact agentControl_sound h c hlogged
  · have hready := initializeHandlers_sound h c hlogged
    rw [MsgState.handled]
    split
    · next t heq =>
        rw [heq] at hready
        exact hready
    · next t status heq =>
        rw [heq] at hready
        exact processMessage_sound h c hready

end Request

theorem clientStep_sound (d : Daemon) (input : ClientInput) (hsound : d.msg.Sound) :
    (clientStep d input).msg.Sound := by
  cases input with
  | read io =>
      have hfits : (d.request io).header.Fits := fits_ofBytes _
      rw [clientStep, Daemon.asdMsgRead]
      dsimp only
      split
      · split
        · exact hsound.send (List.forall_mem_singleton.mpr (errorMessage_wellFormed hfits _))
        · exact asdMsgOnMsgRecv_sound hfits d.config hsound
      · exact hsound
  | event event logged =>
      have hlogged : (d.log logged).msg.Sound := hsound.sendLogs logged
      rw [clientStep, Daemon.asdMsgEvent.eq_def]
      generalize d.log logged = d at hlogged ⊢
      split
      · cases event with
        | none => exact hlogged
        | pin event =>
            apply hlogged.send (List.forall_mem_append.mpr ⟨?_, ?_⟩)
            · split
              · exact List.forall_mem_singleton.mpr
                  (errorMessage_wellFormed (fits_ofBytes d.inMsg.header) _)
              · exact List.forall_mem_nil _
            · exact List.forall_mem_singleton.mpr (pinEvent_wellFormed event)
        | bpk p =>
            exact MsgState.Sound.send hlogged
              (sppStep_gains d.msg.spp (.event d.msg.bulkResponseEnable p)).packets
      · exact hlogged

/-- Everything that is sent over the life of a client is well formed. -/
theorem received_wellFormed (d : Daemon) (s : ClientRun) : ∀ p ∈ d.received s, WellFormed p := by
  have hstart : (d.onClientConnect s.client).msg.Sound := List.forall_mem_nil _
  exact Machine.run_invariant_of_step (I := fun d : Daemon => d.msg.Sound) clientStep_sound
    s.inputs hstart

end Client

end AtScaleDebug
