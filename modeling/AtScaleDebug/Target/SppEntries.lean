import AtScaleDebug.Lib.PrefixCode
import AtScaleDebug.Target.BulkMode

/-!
How the response of a streaming probe message is read. A client takes it for a list of
entries, one for each command, and what an entry with data says about its length is what
tells it where the next one starts. The entry of an `SPP_RECEIVE` is written with the
length the client asked for and is as long as what the device returned, so the response
can be read exactly when the two agree for every read of the message, as far as all of it
is sent.
-/

namespace AtScaleDebug

open ByteBuffer

section Lengths

theorem sppLength_eq (msb lsb : UInt8) : sppLength msb lsb = msb.toNat * 256 + lsb.toNat := by
  rw [sppLength, ← Nat.shiftLeft_add_eq_or_of_lt lsb.toNat_lt, Nat.shiftLeft_eq]

theorem sppLength_lt (msb lsb : UInt8) : sppLength msb lsb < 65536 := by
  have hmsb := msb.toNat_lt
  have hlsb := lsb.toNat_lt
  rw [sppLength_eq]
  omega

def msbOf (n : Nat) : UInt8 := .ofNat (n >>> 8)
def lsbOf (n : Nat) : UInt8 := .ofNat n

/-- The two bytes of a length are determined by it. -/
theorem sppLength_eq_iff {msb lsb : UInt8} {n : Nat} (h : n < 65536) :
    sppLength msb lsb = n ↔ msb = msbOf n ∧ lsb = lsbOf n := by
  have hmsb := msb.toNat_lt
  have hlsb := lsb.toNat_lt
  rw [sppLength_eq, ← UInt8.toNat_inj, ← UInt8.toNat_inj, msbOf, lsbOf, UInt8.toNat_ofNat',
    UInt8.toNat_ofNat', Nat.shiftRight_eq_div_pow]
  omega

/-- The masks of a length that fits into a response keep all of it. -/
theorem lengthBytes_of_le {n : Nat} (h : n ≤ maxDataSize) :
    UInt8.ofNat ((n >>> 8) &&& 0x0F) = msbOf n ∧ UInt8.ofNat (n &&& 0xFF) = lsbOf n := by
  have h15 : (n >>> 8) &&& 15 = (n >>> 8) % 16 := Nat.and_two_pow_sub_one_eq_mod _ 4
  have h255 : n &&& 255 = n % 256 := Nat.and_two_pow_sub_one_eq_mod n 8
  rw [msbOf, lsbOf, ← UInt8.toNat_inj, ← UInt8.toNat_inj, h15, h255, UInt8.toNat_ofNat',
    UInt8.toNat_ofNat', UInt8.toNat_ofNat', UInt8.toNat_ofNat', Nat.shiftRight_eq_div_pow]
  rw [maxDataSize] at h
  omega

end Lengths

section Entries

/-- Data with a length that two bytes can say. -/
abbrev SppData := { data : List UInt8 // data.length < 65536 }

inductive SppEntry where
  | send (address msb lsb : UInt8)
  | receive (address : UInt8) (data : SppData)
  | sendCmd (address msb lsb sppCommand : UInt8)
  | sendReceiveCmd (address msbW lsbW sppCommand : UInt8) (data : SppData)
  | setSimData (lsb : UInt8)
  deriving DecidableEq

namespace SppEntry

def encode : SppEntry → List UInt8
  | .send address msb lsb => [0x10, address, msb, lsb]
  | .receive address data =>
      [0x20, address, msbOf data.1.length, lsbOf data.1.length] ++ data.1
  | .sendCmd address msb lsb sppCommand => [0x30, address, msb, lsb, sppCommand]
  | .sendReceiveCmd address msbW lsbW sppCommand data =>
      [0x40, address, msbW, lsbW, sppCommand, msbOf data.1.length, lsbOf data.1.length] ++ data.1
  | .setSimData lsb => [0x50, lsb]

/-- As many bytes as the length says. -/
def takeData (msb lsb : UInt8) (bytes : List UInt8) : Option (SppData × List UInt8) :=
  if h : sppLength msb lsb ≤ bytes.length then
    some (⟨bytes.take (sppLength msb lsb), by
      rw [List.length_take_of_le h]
      exact sppLength_lt msb lsb⟩, bytes.drop (sppLength msb lsb))
  else none

def nextSend : List UInt8 → Option (SppEntry × List UInt8)
  | address :: msb :: lsb :: bytes => some (.send address msb lsb, bytes)
  | _ => none

def nextReceive : List UInt8 → Option (SppEntry × List UInt8)
  | address :: msb :: lsb :: bytes =>
      (takeData msb lsb bytes).map fun (data, rest) => (.receive address data, rest)
  | _ => none

def nextSendCmd : List UInt8 → Option (SppEntry × List UInt8)
  | address :: msb :: lsb :: sppCommand :: bytes =>
      some (.sendCmd address msb lsb sppCommand, bytes)
  | _ => none

def nextSendReceiveCmd : List UInt8 → Option (SppEntry × List UInt8)
  | address :: msbW :: lsbW :: sppCommand :: msb :: lsb :: bytes =>
      (takeData msb lsb bytes).map fun (data, rest) =>
        (.sendReceiveCmd address msbW lsbW sppCommand data, rest)
  | _ => none

def nextSetSimData : List UInt8 → Option (SppEntry × List UInt8)
  | lsb :: bytes => some (.setSimData lsb, bytes)
  | _ => none

def next : List UInt8 → Option (SppEntry × List UInt8)
  | [] => none
  | cmd :: bytes =>
      if cmd = 0x10 then nextSend bytes
      else if cmd = 0x20 then nextReceive bytes
      else if cmd = 0x30 then nextSendCmd bytes
      else if cmd = 0x40 then nextSendReceiveCmd bytes
      else if cmd = 0x50 then nextSetSimData bytes
      else none

theorem takeData_append (data : SppData) (rest : List UInt8) :
    takeData (msbOf data.1.length) (lsbOf data.1.length) (data.1 ++ rest) = some (data, rest) := by
  obtain ⟨data, hdata⟩ := data
  have hlength : sppLength (msbOf data.length) (lsbOf data.length) = data.length :=
    (sppLength_eq_iff hdata).mpr ⟨rfl, rfl⟩
  simp [takeData, hlength]

theorem next_encode (e : SppEntry) (rest : List UInt8) :
    next (e.encode ++ rest) = some (e, rest) := by
  cases e with
  | send | sendCmd | setSimData => rfl
  | receive address data =>
      change (takeData _ _ (data.1 ++ rest)).map _ = _
      rw [takeData_append]
      rfl
  | sendReceiveCmd address msbW lsbW sppCommand data =>
      change (takeData _ _ (data.1 ++ rest)).map _ = _
      rw [takeData_append]
      rfl

theorem encode_ne_nil (e : SppEntry) : e.encode ≠ [] := by
  cases e <;> exact List.cons_ne_nil _ _

end SppEntry

def sppEntryCode : PrefixCode SppEntry UInt8 where
  encode := SppEntry.encode
  next := SppEntry.next
  nonempty := SppEntry.encode_ne_nil
  next_encode := SppEntry.next_encode

end Entries

section Commands

/-- What the device returned for an `SPP_RECEIVE`; nothing when the read failed. -/
def SppIo.bytesRead (io : SppIo) : List UInt8 :=
  (io.received.map (List.take sppReceiveLength)).getD []

/-- The entry that a command should have in the response. A configuration command has none;
of the data of an `SPP_SEND_RECEIVE_CMD` only the length is asked for. -/
inductive AnswersSpp (read : List UInt8) : SppCommand → List SppEntry → Prop where
  | config (cmd : UInt8) : AnswersSpp read (.config cmd) []
  | send (address msb lsb : UInt8) (data : List UInt8) :
      AnswersSpp read (.send address msb lsb data) [.send address msb lsb]
  | receive (address msb lsb : UInt8) (data : SppData) (same : data.1 = read) :
      AnswersSpp read (.receive address msb lsb) [.receive address data]
  | sendCmd (address msb lsb sppCommand : UInt8) (data : List UInt8) :
      AnswersSpp read (.sendCmd address msb lsb sppCommand data)
        [.sendCmd address msb lsb sppCommand]
  | sendReceiveCmd (address msbW lsbW sppCommand msbR lsbR : UInt8) (written : List UInt8)
      (data : SppData) (length : data.1.length = sppLength msbR lsbR) :
      AnswersSpp read (.sendReceiveCmd address msbW lsbW sppCommand msbR lsbR written)
        [.sendReceiveCmd address msbW lsbW sppCommand data]
  | setSimData (msb lsb : UInt8) (data : List UInt8) :
      AnswersSpp read (.setSimData msb lsb data) [.setSimData lsb]

/-- The bytes that a command appends to the response when it is carried out. -/
inductive Appends (read : List UInt8) : SppCommand → List UInt8 → Prop where
  | config (cmd : UInt8) : Appends read (.config cmd) []
  | send (address msb lsb : UInt8) (data : List UInt8) :
      Appends read (.send address msb lsb data) [0x10, address, msb, lsb]
  | received (address msb lsb : UInt8) (some : read ≠ []) :
      Appends read (.receive address msb lsb) ([0x20, address, msb, lsb] ++ read)
  | nothing (address msb lsb : UInt8) (none : read = []) :
      Appends read (.receive address msb lsb) [0x20, address, 0, 0]
  | sendCmd (address msb lsb sppCommand : UInt8) (data : List UInt8) :
      Appends read (.sendCmd address msb lsb sppCommand data)
        [0x30, address, msb, lsb, sppCommand]
  | sendReceiveCmd (address msbW lsbW sppCommand msbR lsbR : UInt8) (written data : List UInt8)
      (length : data.length = sppLength msbR lsbR) (fits : data.length ≤ maxDataSize) :
      Appends read (.sendReceiveCmd address msbW lsbW sppCommand msbR lsbR written)
        ([0x40, address, msbW, lsbW, sppCommand, .ofNat ((data.length >>> 8) &&& 0x0F),
          .ofNat (data.length &&& 0xFF)] ++ data)
  | setSimData (msb lsb : UInt8) (data : List UInt8) :
      Appends read (.setSimData msb lsb data) [0x50, lsb]

/-- A read returned what was asked for, or nothing. -/
def SppCommand.InFull (read : List UInt8) : SppCommand → Prop
  | .receive _ msb lsb => read = [] ∨ read.length = sppLength msb lsb
  | _ => True

instance (read : List UInt8) (command : SppCommand) : Decidable (command.InFull read) := by
  cases command <;> unfold SppCommand.InFull <;> infer_instance

/-- The length of the entry. -/
def SppCommand.entryLength (read : List UInt8) : SppCommand → Nat
  | .config _ => 0
  | .send _ _ _ _ => 4
  | .receive _ _ _ => 4 + read.length
  | .sendCmd _ _ _ _ _ => 5
  | .sendReceiveCmd _ _ _ _ msbR lsbR _ => 7 + sppLength msbR lsbR
  | .setSimData _ _ _ | .bulk _ => 2

variable {read : List UInt8} {command : SppCommand} {bytes : List UInt8} {first : List SppEntry}

theorem Appends.length (h : Appends read command bytes) :
    bytes.length = command.entryLength read := by
  cases h with
  | config | send | sendCmd | setSimData => rfl
  | received =>
      simp only [SppCommand.entryLength, List.length_append, List.length_cons, List.length_nil]
  | nothing address msb lsb none => simp [SppCommand.entryLength, none]
  | sendReceiveCmd address msbW lsbW sppCommand msbR lsbR written data length fits =>
      simp only [SppCommand.entryLength, ← length, List.length_append, List.length_cons,
        List.length_nil]

theorem AnswersSpp.length (h : AnswersSpp read command first) :
    (sppEntryCode.encodeAll first).length = command.entryLength read := by
  cases h with
  | config | send | sendCmd | setSimData => rfl
  | receive address msb lsb data same =>
      simp only [PrefixCode.encodeAll_cons, PrefixCode.encodeAll_nil, List.append_nil, sppEntryCode,
        SppEntry.encode, SppCommand.entryLength, same, List.length_append, List.length_cons,
        List.length_nil]
  | sendReceiveCmd address msbW lsbW sppCommand msbR lsbR written data length =>
      simp only [PrefixCode.encodeAll_cons, PrefixCode.encodeAll_nil, List.append_nil, sppEntryCode,
        SppEntry.encode, SppCommand.entryLength, length, List.length_append, List.length_cons,
        List.length_nil]

/-- The bytes are the entry only when the device returned what the client asked for. -/
theorem Appends.inFull (h : Appends read command bytes) (hanswers : AnswersSpp read command first)
    (hsame : bytes = sppEntryCode.encodeAll first) : command.InFull read := by
  cases h with
  | config | send | sendCmd | sendReceiveCmd | setSimData => exact True.intro
  | nothing address msb lsb none => exact .inl none
  | received address msb lsb some =>
      cases hanswers with
      | receive _ _ _ data same =>
          obtain ⟨data, hdata⟩ := data
          subst same
          simp only [PrefixCode.encodeAll_cons, PrefixCode.encodeAll_nil, List.append_nil,
            sppEntryCode, SppEntry.encode, List.cons_append, List.nil_append,
            List.cons.injEq, true_and] at hsame
          exact .inr ((sppLength_eq_iff hdata).mpr ⟨hsame.1, hsame.2.1⟩).symm

/-- And then they are. -/
theorem Appends.answers (h : Appends read command bytes) (hfull : command.InFull read) :
    ∃ first, AnswersSpp read command first ∧ bytes = sppEntryCode.encodeAll first := by
  cases h with
  | config cmd => exact ⟨[], .config cmd, rfl⟩
  | send address msb lsb data => exact ⟨_, .send address msb lsb data, rfl⟩
  | sendCmd address msb lsb sppCommand data =>
      exact ⟨_, .sendCmd address msb lsb sppCommand data, rfl⟩
  | setSimData msb lsb data => exact ⟨_, .setSimData msb lsb data, rfl⟩
  | nothing address msb lsb none =>
      exact ⟨_, .receive address msb lsb ⟨[], by decide⟩ none.symm, rfl⟩
  | received address msb lsb some =>
      have hlength : read.length = sppLength msb lsb := hfull.resolve_left some
      have hdata : read.length < 65536 := hlength ▸ sppLength_lt msb lsb
      obtain ⟨rfl, rfl⟩ := (sppLength_eq_iff hdata).mp hlength.symm
      refine ⟨_, .receive address _ _ ⟨read, hdata⟩ rfl, ?_⟩
      rw [PrefixCode.encodeAll_cons, PrefixCode.encodeAll_nil, List.append_nil]
      rfl
  | sendReceiveCmd address msbW lsbW sppCommand msbR lsbR written data length fits =>
      have hdata : data.length < 65536 := length ▸ sppLength_lt msbR lsbR
      obtain ⟨hmsb, hlsb⟩ := lengthBytes_of_le fits
      refine ⟨_, .sendReceiveCmd address msbW lsbW sppCommand msbR lsbR written ⟨data, hdata⟩
        length, ?_⟩
      rw [PrefixCode.encodeAll_cons, PrefixCode.encodeAll_nil, List.append_nil, hmsb, hlsb]
      rfl

end Commands

section Payload
variable {reads : Nat → List UInt8} {k : Nat} {commands : List SppCommand} {bytes : List UInt8}
  {entries : List SppEntry}

/-- One entry for each command in order; `reads k` is what the `k`-th command got. -/
inductive AnswersInOrder (reads : Nat → List UInt8) :
    Nat → List SppCommand → List SppEntry → Prop where
  | nil (k : Nat) : AnswersInOrder reads k [] []
  | cons {k : Nat} {command : SppCommand} {commands : List SppCommand}
      {first entries : List SppEntry} (head : AnswersSpp (reads k) command first)
      (tail : AnswersInOrder reads (k + 1) commands entries) :
      AnswersInOrder reads k (command :: commands) (first ++ entries)

inductive AppendsInOrder (reads : Nat → List UInt8) :
    Nat → List SppCommand → List UInt8 → Prop where
  | nil (k : Nat) : AppendsInOrder reads k [] []
  | cons {k : Nat} {command : SppCommand} {commands : List SppCommand} {first bytes : List UInt8}
      (head : Appends (reads k) command first)
      (tail : AppendsInOrder reads (k + 1) commands bytes) :
      AppendsInOrder reads k (command :: commands) (first ++ bytes)

/-- Every read returned what was asked for, or nothing. -/
def ReadsInFull (reads : Nat → List UInt8) : Nat → List SppCommand → Prop
  | _, [] => True
  | k, command :: commands => command.InFull (reads k) ∧ ReadsInFull reads (k + 1) commands

/-- The length of all entries. -/
def entriesLength (reads : Nat → List UInt8) : Nat → List SppCommand → Nat
  | _, [] => 0
  | k, command :: commands =>
      command.entryLength (reads k) + entriesLength reads (k + 1) commands

theorem AppendsInOrder.length (h : AppendsInOrder reads k commands bytes) :
    bytes.length = entriesLength reads k commands := by
  induction h with
  | nil => rfl
  | cons head _ ih => rw [List.length_append, head.length, ih, entriesLength]

theorem AnswersInOrder.length (h : AnswersInOrder reads k commands entries) :
    (sppEntryCode.encodeAll entries).length = entriesLength reads k commands := by
  induction h with
  | nil => rfl
  | cons head _ ih =>
      rw [PrefixCode.encodeAll_append, List.length_append, head.length, ih, entriesLength]

theorem AppendsInOrder.readsInFull (h : AppendsInOrder reads k commands bytes)
    (hanswers : AnswersInOrder reads k commands entries)
    (hsame : bytes = sppEntryCode.encodeAll entries) : ReadsInFull reads k commands := by
  induction h generalizing entries with
  | nil => exact True.intro
  | cons head _ ih =>
      cases hanswers with
      | cons first tail =>
          rw [PrefixCode.encodeAll_append] at hsame
          obtain ⟨hfirst, htail⟩ := List.append_inj hsame (head.length.trans first.length.symm)
          exact ⟨head.inFull first hfirst, ih tail htail⟩

theorem AppendsInOrder.answers (h : AppendsInOrder reads k commands bytes)
    (hfull : ReadsInFull reads k commands) :
    ∃ entries, AnswersInOrder reads k commands entries ∧
      bytes = sppEntryCode.encodeAll entries := by
  induction h with
  | nil k => exact ⟨[], .nil k, rfl⟩
  | cons head _ ih =>
      obtain ⟨first, hfirst, hbytes⟩ := head.answers hfull.1
      obtain ⟨entries, hentries, hrest⟩ := ih hfull.2
      refine ⟨first ++ entries, .cons hfirst hentries, ?_⟩
      rw [PrefixCode.encodeAll_append, hbytes, hrest]

end Payload

section Response
variable (o : SppOutput)

/-- The filled part of the buffer. -/
def SppOutput.response : List UInt8 := slice o.buffer 0 o.responseCnt

theorem put_response (bytes : List UInt8) : (o.put bytes).response = o.response ++ bytes :=
  slice_blit_append o.buffer o.responseCnt bytes

theorem lend_response (gap length : Nat) (bytes : List UInt8) :
    (o.lend gap length bytes).response = o.response :=
  slice_blit_before o.buffer bytes
    (by rw [lend_responseCnt, Nat.zero_add]; exact Nat.le_add_right _ _)

theorem lendOpcode_response (lent : Option (List UInt8)) :
    (o.lendOpcode lent).response = o.response := by
  cases lent with
  | none => rfl
  | some bytes => exact lend_response o 7 sppOpcodeLength bytes

theorem skip_response (n : Nat) :
    (o.skip n).response = o.response ++ slice o.buffer o.responseCnt n := by
  change slice o.buffer 0 (o.responseCnt + n) = _
  rw [slice_add, Nat.zero_add]
  rfl

/-- A header, and behind it what is in the buffer. -/
theorem put_skip_response (header : List UInt8) (n : Nat) :
    ((o.put header).skip n).response = o.response ++
      (header ++ slice (o.put header).buffer (o.responseCnt + header.length) n) := by
  rw [skip_response, put_response, put_responseCnt, List.append_assoc]

/-- What was lent behind the bytes of a header is still there when they are written. -/
theorem slice_put_lend (length : Nat) (bytes header : List UInt8) {n : Nat}
    (hn : n ≤ bytes.length) :
    slice ((o.lend header.length length bytes).put header).buffer
      (o.responseCnt + header.length) n = bytes.take n := by
  have hbehind : slice ((o.lend header.length length bytes).put header).buffer
      (o.responseCnt + header.length) n =
      slice (o.lend header.length length bytes).buffer (o.responseCnt + header.length) n :=
    slice_blit_behind _ _ (Nat.le_refl _)
  have hall : slice (o.lend header.length length bytes).buffer (o.responseCnt + header.length)
      bytes.length = bytes := slice_blit o.buffer (o.responseCnt + header.length) bytes
  rw [hbehind, ← take_slice _ _ hn, hall]

variable {request : MessageHeader} {io : SppIo} {s t : SppState}

theorem executeReceive_appends {address msb lsb : UInt8}
    (h : executeReceive io s address msb lsb = (t, .next)) :
    ∃ bytes, Appends io.bytesRead (.receive address msb lsb) bytes ∧
      t.out.response = s.out.response ++ bytes := by
  rw [executeReceive] at h
  split at h
  · cases h
  · next g _ =>
      have hread := (sppReceive_spec io g).2
      have hlength := length_received_le io
      dsimp only at h
      split at h
      · next u bytes hreceive =>
          cases h
          rw [hreceive, Option.getD_some] at hread
          have hsome : io.bytesRead ≠ [] := by
            intro hempty
            rw [sppReceive, show (io.received.map (List.take sppReceiveLength)).getD [] = [] from
              hempty] at hreceive
            cases hreceive
          refine ⟨_, .received address msb lsb hsome, ?_⟩
          have hdata := slice_put_lend s.out sppReceiveLength
            (bytes ++ (List.replicate sppReceiveLength 0).drop bytes.length)
            [0x20, address, msb, lsb] (n := bytes.length) (by simp)
          rw [List.take_left] at hdata
          rw [put_skip_response, lend_response, lend_responseCnt]
          refine congrArg (fun data => s.out.response ++ ([0x20, address, msb, lsb] ++ data)) ?_
          exact hdata.trans hread
      · next u hreceive =>
          cases h
          rw [hreceive, Option.getD_none] at hread
          refine ⟨_, .nothing address msb lsb hread.symm, ?_⟩
          rw [put_response, lend_response]

theorem executeSendReceiveCmd_appends {address msbW lsbW sppCommand msbR lsbR : UInt8}
    {data : List UInt8}
    (h : executeSendReceiveCmd io s address msbW lsbW sppCommand msbR lsbR = (t, .next)) :
    ∃ bytes, Appends io.bytesRead
        (.sendReceiveCmd address msbW lsbW sppCommand msbR lsbR data) bytes ∧
      t.out.response = s.out.response ++ bytes := by
  rw [executeSendReceiveCmd] at h
  split at h
  · cases h
  dsimp only at h
  split at h
  · cases h
  · next hroom =>
      split at h
      · next hok =>
          cases h
          have hbytes := put_skip_response (s.out.lendOpcode (sppSendReceiveCmd io sppCommand).2)
            ([0x40, address, msbW, lsbW, sppCommand] ++
              [.ofNat ((sppLength msbR lsbR >>> 8) &&& 0x0F),
                .ofNat (sppLength msbR lsbR &&& 0xFF)]) (sppLength msbR lsbR)
          rw [lendOpcode_response] at hbytes
          generalize hslice : slice _ _ (sppLength msbR lsbR) = read at hbytes
          have hlength : read.length = sppLength msbR lsbR := hslice ▸ length_slice _ _ _
          refine ⟨_, ?_, hbytes⟩
          rw [← hlength]
          exact .sendReceiveCmd address msbW lsbW sppCommand msbR lsbR data read hlength (by omega)
      · cases h

/-- A command other than `SPP_BULK` that is carried out appends to the response. -/
theorem executeSppCommand_appends {command : SppCommand} (hbulk : command.isBulk = false)
    (h : executeSppCommand io request s command = (t, .next)) :
    ∃ bytes, Appends io.bytesRead command bytes ∧ t.out.response = s.out.response ++ bytes := by
  cases command with
  | bulk count => cases hbulk
  | config cmd =>
      cases h
      exact ⟨[], .config cmd, (List.append_nil _).symm⟩
  | setSimData msb lsb data =>
      cases h
      exact ⟨_, .setSimData msb lsb data, put_response _ _⟩
  | send address msb lsb data =>
      rw [executeSppCommand, executeSend] at h
      split at h
      · cases h
      · split at h
        · cases h
          exact ⟨_, .send address msb lsb data, put_response _ _⟩
        · cases h
  | receive address msb lsb => exact executeReceive_appends h
  | sendCmd address msb lsb sppCommand data =>
      rw [executeSppCommand, executeSendCmd] at h
      split at h
      · cases h
      · dsimp only at h
        split at h
        · cases h
          exact ⟨_, .sendCmd address msb lsb sppCommand data, put_response _ _⟩
        · cases h
  | sendReceiveCmd address msbW lsbW sppCommand msbR lsbR data =>
      exact executeSendReceiveCmd_appends h

theorem sppCommands_next {bulkMode : Bool} {old new byte : UInt8} {packet rest : List UInt8}
    {command : SppCommand} (rounds : Nat)
    (h : nextSppCommand bulkMode old (byte :: packet) = (new, some (command, rest))) :
    sppCommands (rounds + 1) bulkMode (byte :: packet) =
      command :: sppCommands rounds (bulkMode || command.isBulk) rest := by
  rw [sppCommands, nextSppCommand_snd bulkMode 0 old, h]

/-- Without an `SPP_BULK` the loop stays out of bulk mode, and when it does not break off
the response is what the commands append. -/
theorem sppBulkLoop_appends (enabled : Bool) (io : Nat → SppPollIo) (rounds k : Nat)
    {b c : SppBulk} {packet : List UInt8} {flow : SppFlow}
    (hbulk : ∀ command ∈ sppCommands rounds s.handler.bulkMode packet, command.isBulk = false)
    (hloop : sppBulkLoop enabled io request rounds k s b packet = (t, c, flow)) :
    t.handler.bulkMode = s.handler.bulkMode ∧
      (flow = .next → t.responses = s.responses ∧
        ∃ bytes, AppendsInOrder (fun k => (io k).io.bytesRead) k
            (sppCommands rounds s.handler.bulkMode packet) bytes ∧
          t.out.response = s.out.response ++ bytes) := by
  induction rounds generalizing k s b packet with
  | zero =>
      cases hloop
      exact ⟨rfl, fun _ => ⟨rfl, [], .nil k, (List.append_nil _).symm⟩⟩
  | succ rounds ih =>
      cases packet with
      | nil =>
          cases hloop
          exact ⟨rfl, fun _ => ⟨rfl, [], .nil k, (List.append_nil _).symm⟩⟩
      | cons byte packet =>
          obtain ⟨_, hround⟩ | ⟨bulkAddress, _, _, hround⟩ |
            ⟨bulkAddress, command, rest, u, step, _, hnext, hexecute, hround⟩ :=
            sppBulkLoop_round enabled io request rounds k s b byte packet
          · cases hround.symm.trans hloop
            exact ⟨rfl, by rintro ⟨⟩⟩
          · cases hround.symm.trans hloop
            exact ⟨rfl, by rintro ⟨⟩⟩
          · rw [sppCommands_next rounds hnext] at hbulk ⊢
            obtain ⟨hfirst, hrest⟩ := List.forall_mem_cons.mp hbulk
            obtain ⟨hmode, _, hresponses, _⟩ := executeSppCommand_mode ((io k).outcomes request s
              (drainCommand enabled s.handler b (io k).polled command).1) request
              { s with bulkAddress } hfirst
            rw [hexecute] at hmode hresponses
            replace hmode : u.handler.bulkMode = s.handler.bulkMode := hmode
            rw [hround] at hloop
            cases step with
            | broke | returned =>
                cases hloop
                exact ⟨hmode, by rintro ⟨⟩⟩
            | next =>
                obtain ⟨bytes, happends, hbytes⟩ := executeSppCommand_appends hfirst hexecute
                rw [hfirst, Bool.or_false, ← hmode] at hrest
                obtain ⟨hsame, hmore⟩ := ih (k + 1) hrest hloop
                refine ⟨hsame.trans hmode, fun hflow => ?_⟩
                obtain ⟨hkept, more, hmore, htotal⟩ := hmore hflow
                rw [hfirst, Bool.or_false, ← hmode]
                refine ⟨hkept.trans hresponses, bytes ++ more, .cons happends hmore, ?_⟩
                rw [htotal, hbytes, List.append_assoc]

end Response

section Message

/-- The commands of the payload. -/
def SppRequest.commands (r : SppRequest) : List SppCommand :=
  sppCommands (sppPayload r.header r.buffer).length false (sppPayload r.header r.buffer)

/-- What the devices return for the reads among them. -/
def SppRequest.reads (r : SppRequest) (k : Nat) : List UInt8 := (r.io k).io.bytesRead

/-- The payload is one entry for each command in order, and in no other way. -/
def SplitsInOrder (r : SppRequest) (payload : List UInt8) : Prop :=
  ∃! entries, AnswersInOrder r.reads 0 r.commands entries ∧
    payload = sppEntryCode.encodeAll entries

theorem splitsInOrder_iff {r : SppRequest} {payload : List UInt8} :
    SplitsInOrder r payload ↔ ∃ entries, AnswersInOrder r.reads 0 r.commands entries ∧
      payload = sppEntryCode.encodeAll entries := by
  refine ⟨ExistsUnique.exists, ?_⟩
  rintro ⟨entries, hanswers, hpayload⟩
  refine ⟨entries, ⟨hanswers, hpayload⟩, ?_⟩
  rintro others ⟨-, hothers⟩
  exact sppEntryCode.encodeAll_injective (hothers.symm.trans hpayload)

/-- The size fields never announce more than there is. -/
theorem announced_le {request : MessageHeader} {n size : Nat} {cmdStat : UInt8}
    (h : getMessageSize { request with
      sizeLsb := lsbFromMsgSize n, sizeMsb := msbFromMsgSize n, cmdStat } = some size) :
    size ≤ n ∧ (n ≤ maxDataSize → size = n) := by
  have hsize := getMessageSize_le h
  by_cases hfits : n ≤ maxDataSize
  · rw [getMessageSize_of_length request cmdStat hfits] at h
    cases h
    exact ⟨Nat.le_refl _, fun _ => rfl⟩
  · exact ⟨hsize.trans (Nat.le_of_not_le hfits), fun h => absurd h hfits⟩

theorem respond_responses (s : SppState) (request : MessageHeader) {n : Nat}
    (h : getMessageSize { request with
      sizeLsb := lsbFromMsgSize s.out.responseCnt
      sizeMsb := msbFromMsgSize s.out.responseCnt
      cmdStat := 0 } = some n) :
    (s.respond request).responses = s.responses ++ [({ request with
      sizeLsb := lsbFromMsgSize s.out.responseCnt
      sizeMsb := msbFromMsgSize s.out.responseCnt
      cmdStat := 0 }, slice s.out.buffer 0 n)] := by
  simp only [SppState.respond, h, Option.getD_some]

/-- A message without an `SPP_BULK` that is processed without an error sends one response,
what its commands appended, as far as the size fields go. -/
theorem processSppRequest_appends {s : SppSession} {r : SppRequest}
    (hok : (processSppRequest s r).2.2 = .ok)
    (hbulk : ∀ command ∈ r.commands, command.isBulk = false) :
    ∃ header bytes size, (processSppRequest s r).1.responses = [(header, bytes.take size)] ∧
      AppendsInOrder r.reads 0 r.commands bytes ∧ size ≤ maxDataSize ∧
      (bytes.length ≤ maxDataSize → size = bytes.length) := by
  cases hsize : getMessageSize r.header with
  | none =>
      rw [processSppRequest, hsize] at hok
      cases hok
  | some size =>
      have hlength : (sppPayload r.header r.buffer).length = size := by
        simp [sppPayload, hsize]
      obtain ⟨t, b, flow, hloop, hresult⟩ := processSppRequest_loop s hsize
      rw [SppRequest.commands, hlength] at hbulk ⊢
      obtain ⟨hmode, hnext⟩ := sppBulkLoop_appends r.enabled r.io size 0 hbulk hloop
      rw [if_neg (ne_true_of_eq_false hmode)] at hresult
      cases flow with
      | returned | broke =>
          rw [hresult] at hok
          cases hok
      | next =>
          obtain ⟨hresponses, bytes, happends, hbytes⟩ := hnext rfl
          rw [if_neg (by decide), if_pos rfl] at hresult
          rw [hresult] at hok ⊢
          dsimp only at hok
          split at hok
          · next hsent =>
              obtain ⟨n, hn⟩ := Option.isSome_iff_exists.mp (Bool.and_eq_true_iff.mp hsent).2
              replace hbytes : slice t.out.buffer 0 t.out.responseCnt = bytes := hbytes
              have hcount : bytes.length = t.out.responseCnt := hbytes ▸ length_slice _ _ _
              obtain ⟨hle, hwhole⟩ := announced_le hn
              obtain ⟨header, hheader⟩ : ∃ header, (t.respond r.header).responses =
                  t.responses ++ [(header, slice t.out.buffer 0 n)] :=
                ⟨_, respond_responses t r.header hn⟩
              refine ⟨header, bytes, n, ?_, happends, getMessageSize_le hn, hcount ▸ hwhole⟩
              rw [hheader, hresponses, ← hbytes, take_slice _ _ hle]
              rfl
          · cases hok

/-- A message without an `SPP_BULK` that is processed without an error: its response can be
read as one entry for each command if and only if every read that returned data returned
as much as was asked for, and all entries fit into the response. -/
theorem spp_response_splits {s : SppSession} {r : SppRequest}
    (hok : (processSppRequest s r).2.2 = .ok)
    (hbulk : ∀ command ∈ r.commands, command.isBulk = false) :
    ∃ header payload, (processSppRequest s r).1.responses = [(header, payload)] ∧
      (SplitsInOrder r payload ↔
        ReadsInFull r.reads 0 r.commands ∧ entriesLength r.reads 0 r.commands ≤ maxDataSize) := by
  obtain ⟨header, bytes, size, hresponses, happends, hsize, hwhole⟩ :=
    processSppRequest_appends hok hbulk
  refine ⟨header, bytes.take size, hresponses, ?_⟩
  rw [splitsInOrder_iff]
  constructor
  · rintro ⟨entries, hanswers, hpayload⟩
    have htake : (bytes.take size).length = bytes.length := by
      rw [hpayload, hanswers.length, happends.length]
    have hfits : bytes.length ≤ maxDataSize := by
      rw [← htake, List.length_take]
      exact (Nat.min_le_left _ _).trans hsize
    rw [List.take_of_length_le (Nat.le_of_eq (hwhole hfits).symm)] at hpayload
    exact ⟨happends.readsInFull hanswers hpayload, happends.length ▸ hfits⟩
  · rintro ⟨hfull, hfits⟩
    rw [← happends.length] at hfits
    obtain ⟨entries, hanswers, hbytes⟩ := happends.answers hfull
    refine ⟨entries, hanswers, ?_⟩
    rw [List.take_of_length_le (Nat.le_of_eq (hwhole hfits).symm), hbytes]

/-- A message with the given payload for a device that returns the given bytes. -/
def readingRequest (payload : List UInt8) (received : List UInt8) : SppRequest where
  header := ⟨0, 0, 0, 7, .ofNat payload.length, 0, 0, 0⟩
  buffer := messageBuffer payload
  enabled := true
  io := fun _ => ⟨⟨[], true, some received, none, true, true, true⟩, []⟩
  handshake := []
  autocmd := []
  written := true

/-- A read that returns the two bytes that were asked for, and a command behind it. -/
theorem spp_response_splits_read :
    let s : SppSession := ⟨idleSppHandler, .initial, fun _ => 0⟩
    let r := readingRequest [0x20, 1, 0, 2, 0x50, 0, 0] [7, 9]
    (processSppRequest s r).2.2 = .ok ∧ (∀ command ∈ r.commands, command.isBulk = false) ∧
      ∃ header payload, (processSppRequest s r).1.responses = [(header, payload)] ∧
        SplitsInOrder r payload := by
  intro s r
  have hok : (processSppRequest s r).2.2 = .ok := by decide
  have hbulk : ∀ command ∈ r.commands, command.isBulk = false := by decide
  obtain ⟨header, payload, hresponses, hsplits⟩ := spp_response_splits hok hbulk
  have hcommands : r.commands = [.receive 1 0 2, .setSimData 0 0 []] := by decide
  refine ⟨hok, hbulk, header, payload, hresponses, hsplits.mpr ⟨?_, by decide⟩⟩
  rw [hcommands]
  exact ⟨.inr rfl, True.intro, True.intro⟩

/-- The device returns two of four bytes. What is sent announces four, and is no list of
entries at all. -/
theorem spp_response_announces_more :
    let s : SppSession := ⟨idleSppHandler, .initial, fun _ => 0⟩
    let r := readingRequest [0x20, 1, 0, 4] [7, 9]
    (processSppRequest s r).2.2 = .ok ∧ (∀ command ∈ r.commands, command.isBulk = false) ∧
      (processSppRequest s r).1.responses.map Prod.snd = [[0x20, 1, 0, 4, 7, 9]] ∧
      sppEntryCode.decodeAll [0x20, 1, 0, 4, 7, 9] = none ∧
      ¬ SplitsInOrder r [0x20, 1, 0, 4, 7, 9] := by
  have hdecode : sppEntryCode.decodeAll [0x20, 1, 0, 4, 7, 9] = none := by decide
  refine ⟨by decide, by decide, by decide, hdecode, ?_⟩
  rintro ⟨entries, ⟨-, hpayload⟩, -⟩
  rw [hpayload, PrefixCode.decodeAll_encodeAll] at hdecode
  cases hdecode

end Message

end AtScaleDebug
