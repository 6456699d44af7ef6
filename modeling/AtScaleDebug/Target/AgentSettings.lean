import AtScaleDebug.Lib.LastWrite
import AtScaleDebug.Target.Dispatch

/-!
The settings that `AGENT_CONFIGURATION` messages change, over sequences of them. The byte
for the remote logging and the two JTAG modes are assigned, so they are what the last
complete message of their type says. The two bulk flags are only ever set: a message that
does not enable them leaves them as they are.
-/

namespace AtScaleDebug

open ByteBuffer LastWrite

section Settings

def agentConfigTypeLogging : UInt8 := 1
def agentConfigTypeJtagSettings : UInt8 := 3
def agentConfigTypeSppBulkMode : UInt8 := 4

/-- The value for a setting of the given type, unless the message is for another or does
not reach to the value. -/
def configuredValue (type : UInt8) : List UInt8 → Option UInt8
  | t :: value :: _ => if t = type then some value else none
  | _ => none

def driverModeOf (value : UInt8) : JtagDriverMode :=
  if value &&& 0x01 = 0x01 then .hardware else .software

def chainModeOf (value : UInt8) : JtagChainSelectMode :=
  if value &&& 0x02 = 0x02 then .multi else .single

def bulkSendOf (value : UInt8) : Bool := value &&& sppBulkSendSupportMask ≠ 0

/-- Bulk response is not enabled without bulk send. -/
def bulkResponseOf (value : UInt8) : Bool :=
  bulkSendOf value && value &&& sppBulkResponseSupportMask ≠ 0

/-- An `AGENT_CONFIGURATION` message with the outcomes of its calls. -/
structure ConfigurationMessage extends MsgRequest where
  plain : header.encBit = 0
  agent : header.type = agentControlType
  configuration : header.cmdStat = 8

def ConfigurationMessage.value (type : UInt8) (r : ConfigurationMessage) : Option UInt8 :=
  configuredValue type (slice r.buffer 0 ((getMessageSize r.header).getD 0))

def configure (c : MsgConfig) (m : MsgState) (r : ConfigurationMessage) : MsgState :=
  (m.asdMsgOnMsgRecv c r.toMsgRequest).1

/-- What one message does to the settings: bulk flags are set, all others assigned. -/
structure SettingsStep (m : MsgState) (value : UInt8 → Option UInt8) (n : MsgState) : Prop where
  remoteLogging : n.remoteLogging = (value agentConfigTypeLogging).elim m.remoteLogging id
  driverMode : n.jtag.driverMode =
    (value agentConfigTypeJtagSettings).elim m.jtag.driverMode driverModeOf
  chainMode : n.jtag.chainMode =
    (value agentConfigTypeJtagSettings).elim m.jtag.chainMode chainModeOf
  bulkSend : n.bulkSendEnable =
    (m.bulkSendEnable || (value agentConfigTypeSppBulkMode).elim false bulkSendOf)
  bulkResponse : n.bulkResponseEnable =
    (m.bulkResponseEnable || (value agentConfigTypeSppBulkMode).elim false bulkResponseOf)

theorem SettingsStep.of_other (m : MsgState) {value : UInt8 → Option UInt8}
    (hlogging : value agentConfigTypeLogging = none)
    (hjtag : value agentConfigTypeJtagSettings = none)
    (hbulk : value agentConfigTypeSppBulkMode = none) : SettingsStep m value m where
  remoteLogging := by rw [hlogging, Option.elim_none]
  driverMode := by rw [hjtag, Option.elim_none]
  chainMode := by rw [hjtag, Option.elim_none]
  bulkSend := by rw [hbulk, Option.elim_none, Bool.or_false]
  bulkResponse := by rw [hbulk, Option.elim_none, Bool.or_false]

theorem agentConfiguration_step (m : MsgState) (packet : List UInt8) :
    SettingsStep m (fun type => configuredValue type packet) (agentConfiguration m packet) := by
  match packet with
  | [] | [_] => exact .of_other m rfl rfl rfl
  | type :: value :: packet =>
      rw [agentConfiguration]
      by_cases hlogging : type = 1
      · subst hlogging
        exact ⟨rfl, rfl, rfl, (Bool.or_false _).symm, (Bool.or_false _).symm⟩
      rw [if_neg hlogging]
      by_cases hjtag : type = 3
      · subst hjtag
        exact ⟨rfl, rfl, rfl, (Bool.or_false _).symm, (Bool.or_false _).symm⟩
      rw [if_neg hjtag]
      by_cases hbulk : type = 4
      · subst hbulk
        rw [if_pos rfl]
        by_cases hsend : value &&& sppBulkSendSupportMask ≠ 0
        · have henables : bulkSendOf value = true := decide_eq_true hsend
          rw [if_pos hsend]
          refine ⟨rfl, rfl, rfl, ?_, ?_⟩
          · change true = (m.bulkSendEnable || bulkSendOf value)
            rw [henables, Bool.or_true]
          · change (m.bulkResponseEnable || _) = (m.bulkResponseEnable || bulkResponseOf value)
            rw [bulkResponseOf, henables, Bool.true_and]
        · have hclears : bulkSendOf value = false := decide_eq_false hsend
          rw [if_neg hsend]
          refine ⟨rfl, rfl, rfl, ?_, ?_⟩
          · change m.bulkSendEnable = (m.bulkSendEnable || bulkSendOf value)
            rw [hclears, Bool.or_false]
          · change m.bulkResponseEnable = (m.bulkResponseEnable || bulkResponseOf value)
            rw [bulkResponseOf, hclears, Bool.false_and, Bool.or_false]
      · rw [if_neg hbulk]
        exact .of_other m (if_neg hlogging) (if_neg hjtag) (if_neg hbulk)

theorem agentControl_configuration (c : MsgConfig) (m : MsgState) {r : AgentRequest}
    (h : r.header.cmdStat = 8) :
    agentControl c m r =
      (agentConfiguration m (slice r.buffer 0 ((getMessageSize r.header).getD 0)),
        .respond [8] 1, .ok) := by
  simp only [agentControl, h]
  rfl

/-- The way from the message to its settings leaves them alone, as does the reply. -/
theorem configure_step (c : MsgConfig) (m : MsgState) (r : ConfigurationMessage) :
    SettingsStep m (fun type => r.value type) (configure c m r) := by
  have hstep := agentConfiguration_step (m.send (r.logged.map RemoteLog.packet))
    (slice r.buffer 0 ((getMessageSize r.header).getD 0))
  rw [configure, MsgState.asdMsgOnMsgRecv, if_neg (not_not.mpr r.plain), if_pos r.agent,
    MsgState.agentControl, agentControl_configuration c _ r.configuration]
  dsimp only
  split
  · exact ⟨hstep.remoteLogging, hstep.driverMode, hstep.chainMode, hstep.bulkSend,
      hstep.bulkResponse⟩
  · exact ⟨hstep.remoteLogging, hstep.driverMode, hstep.chainMode, hstep.bulkSend,
      hstep.bulkResponse⟩

end Settings

section History
variable (m : MsgState) (messages : List ConfigurationMessage)

/-- The value of the last complete message of a type. -/
def lastValue (type : UInt8) : Option UInt8 := lastWrite (fun r => r.value type) messages

/-- Every setting is what the last complete message of its type says, or what it was when
there is none. -/
structure LastWins (n : MsgState) : Prop where
  remoteLogging : n.remoteLogging =
    (lastValue messages agentConfigTypeLogging).elim m.remoteLogging id
  driverMode : n.jtag.driverMode =
    (lastValue messages agentConfigTypeJtagSettings).elim m.jtag.driverMode driverModeOf
  chainMode : n.jtag.chainMode =
    (lastValue messages agentConfigTypeJtagSettings).elim m.jtag.chainMode chainModeOf
  bulkSend : n.bulkSendEnable =
    (lastValue messages agentConfigTypeSppBulkMode).elim m.bulkSendEnable bulkSendOf
  bulkResponse : n.bulkResponseEnable =
    (lastValue messages agentConfigTypeSppBulkMode).elim m.bulkResponseEnable bulkResponseOf

/-- A last message that does not enable a flag finds that it was never enabled. -/
def ClearsNothing (flag : Bool) (of : UInt8 → Bool) : Prop :=
  ∀ last, lastValue messages agentConfigTypeSppBulkMode = some last → of last = false →
    flag = false ∧ ∀ r ∈ messages, ∀ value,
      r.value agentConfigTypeSppBulkMode = some value → of value = false

/-- Over every sequence of `AGENT_CONFIGURATION` messages and from any state: each setting
is what the last complete message of its type says, if and only if the last one for the
bulk mode has nothing to disable. -/
theorem agent_configuration_last_wins (c : MsgConfig) :
    LastWins m messages (Machine.run (configure c) m messages) ↔
      ClearsNothing messages m.bulkSendEnable bulkSendOf ∧
        ClearsNothing messages m.bulkResponseEnable bulkResponseOf := by
  have hsend : (Machine.run (configure c) m messages).bulkSendEnable = _ ↔ _ :=
    run_set_last_iff fun m r => (configure_step c m r).bulkSend
  have hresponse : (Machine.run (configure c) m messages).bulkResponseEnable = _ ↔ _ :=
    run_set_last_iff fun m r => (configure_step c m r).bulkResponse
  constructor
  · intro h
    exact ⟨hsend.mp h.bulkSend, hresponse.mp h.bulkResponse⟩
  · rintro ⟨hkeepsSend, hkeepsResponse⟩
    exact ⟨run_assigned (fun m => m.remoteLogging) fun m r => (configure_step c m r).remoteLogging,
      run_assigned (fun m => m.jtag.driverMode) fun m r => (configure_step c m r).driverMode,
      run_assigned (fun m => m.jtag.chainMode) fun m r => (configure_step c m r).chainMode,
      hsend.mpr hkeepsSend, hresponse.mpr hkeepsResponse⟩

/-- A message that configures the bulk mode. -/
def bulkModeMessage (value : UInt8) : ConfigurationMessage where
  toMsgRequest :=
    let r := plainRequest agentControlType [agentConfigTypeSppBulkMode, value]
    { r with header := { r.header with cmdStat := 8 } }
  plain := rfl
  agent := rfl
  configuration := rfl

/-- Bulk send and response are enabled, and the next message, which enables neither, leaves
both as they are. -/
theorem agent_configuration_sticks :
    let c : MsgConfig := ⟨twoBuses .i2c 3 4, true, [0x31, 0]⟩
    let messages := [bulkModeMessage 3, bulkModeMessage 0]
    (Machine.run (configure c) readyState messages).bulkResponseEnable = true ∧
      ¬ LastWins readyState messages (Machine.run (configure c) readyState messages) := by
  intro c messages
  have hstuck : (Machine.run (configure c) readyState messages).bulkResponseEnable = true := by
    decide
  refine ⟨hstuck, fun h => ?_⟩
  have hlast := hstuck.symm.trans h.bulkResponse
  exact absurd hlast (by decide)

end History

end AtScaleDebug
