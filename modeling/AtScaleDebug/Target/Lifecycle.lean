import AtScaleDebug.Common

/-!
Creation and release of the message singleton and its handlers. Only what
decides the returned status is kept of each handler: whether it exists and,
for the lazily initialised ones, whether it was initialised or holds the I3C
ownership token. Which allocations and releases succeed is an argument.
-/

namespace AtScaleDebug

/-- `instanceSet` is the test of the singleton pointer. A lazily initialised
handler is `none` when its pointer is null and otherwise carries its flag; for
the I3C handler the flag says that an ownership token is held. -/
structure MsgLifecycle where
  instanceSet : Bool
  jtagHandler : Bool
  targetHandler : Option Bool
  i2cHandler : Bool
  i3cHandler : Option Bool
  sppHandler : Bool
  vprobeHandler : Option Bool
  deriving DecidableEq, Repr

def MsgLifecycle.initial : MsgLifecycle :=
  ⟨false, false, none, false, none, false, none⟩

/-- Which handler constructors return a handler. -/
structure CreateIo where
  jtag : Bool
  target : Bool
  i2c : Bool
  i3c : Bool
  spp : Bool
  vprobe : Bool
  deriving DecidableEq, Repr

def CreateIo.all (io : CreateIo) : Bool :=
  io.jtag && io.target && io.i2c && io.i3c && io.spp && io.vprobe

/-- Whether the pins could be turned back into inputs and the I3C ownership was
given back. -/
structure ReleaseIo where
  gpios : Bool
  i3cOwnership : Bool
  deriving DecidableEq, Repr

def targetDeinitialize (initialized : Bool) (io : ReleaseIo) : Status :=
  if !initialized then .err else if io.gpios then .ok else .err

def vprobeDeinitialize (initialized : Bool) : Status :=
  if !initialized then .err else .ok

def i3cDeinitialize (tokenHeld : Bool) (io : ReleaseIo) : Status :=
  if tokenHeld then if io.i3cOwnership then .ok else .err else .ok

/-- A missing handler leaves its result at `ST_OK`. -/
def releaseResult (release : Bool → Status) : Option Bool → Status
  | some flag => release flag
  | none => .ok

/-- The JTAG, I2C and SPP handlers cannot fail to be released. All handlers are
freed and the singleton is cleared whatever the results are. -/
def asdMsgFree (m : MsgLifecycle) (io : ReleaseIo) : MsgLifecycle × Status :=
  if m.instanceSet then
    let i3cResult := releaseResult (fun held => i3cDeinitialize held io) m.i3cHandler
    let targetResult :=
      releaseResult (fun initialized => targetDeinitialize initialized io) m.targetHandler
    let vprobeResult := releaseResult vprobeDeinitialize m.vprobeHandler
    (.initial,
      if i3cResult ≠ .ok || targetResult ≠ .ok || vprobeResult ≠ .ok then .err else .ok)
  else (m, .err)

/-- A constructor that fails is not reported: the clean-up call finds no
singleton and does nothing, and the status is still `ST_OK`. -/
def asdMsgInit (m : MsgLifecycle) (io : CreateIo) (release : ReleaseIo) :
    MsgLifecycle × Status :=
  if m.instanceSet then (m, .err)
  else
    let created : MsgLifecycle :=
      { instanceSet := false
        jtagHandler := io.jtag
        targetHandler := if io.target then some false else none
        i2cHandler := io.i2c
        i3cHandler := if io.i3c then some false else none
        sppHandler := io.spp
        vprobeHandler := if io.vprobe then some false else none }
    if !io.all then ((asdMsgFree created release).1, .ok)
    else ({ created with instanceSet := true }, .ok)

/-- What one call of `asd_msg_read` does to the life cycle: a message can
initialise a handler and take or give back the I3C token, and it reports a
status. -/
structure ProcessMsgIo where
  status : Status
  initTarget : Bool
  initVprobe : Bool
  i3cToken : Bool
  deriving DecidableEq, Repr

def processMsg (m : MsgLifecycle) (io : ProcessMsgIo) : MsgLifecycle × Status :=
  ({ m with
    targetHandler := m.targetHandler.map (· || io.initTarget)
    vprobeHandler := m.vprobeHandler.map (· || io.initVprobe)
    i3cHandler := m.i3cHandler.map fun _ => io.i3cToken }, io.status)

/-- The singleton exists with all its handlers. -/
def MsgLifecycle.Exists (m : MsgLifecycle) : Prop :=
  m.instanceSet = true ∧ m.jtagHandler = true ∧ m.targetHandler.isSome = true ∧
    m.i2cHandler = true ∧ m.i3cHandler.isSome = true ∧ m.sppHandler = true ∧
    m.vprobeHandler.isSome = true

instance (m : MsgLifecycle) : Decidable m.Exists :=
  inferInstanceAs (Decidable (_ ∧ _))

/-- Every handler that is asked to release something can. -/
def MsgLifecycle.Releasable (m : MsgLifecycle) (io : ReleaseIo) : Prop :=
  m.targetHandler = some true ∧ m.vprobeHandler = some true ∧ io.gpios = true ∧
    (m.i3cHandler = some true → io.i3cOwnership = true)

instance (m : MsgLifecycle) (io : ReleaseIo) : Decidable (m.Releasable io) :=
  inferInstanceAs (Decidable (_ ∧ _))

theorem asdMsgFree_instanceSet (m : MsgLifecycle) (io : ReleaseIo) :
    (asdMsgFree m io).1.instanceSet = false := by
  rw [asdMsgFree]
  split
  · rfl
  · next h => simpa using h

theorem asdMsgFree_ok {m : MsgLifecycle} {io : ReleaseIo} (hexists : m.Exists) :
    (asdMsgFree m io).2 = .ok ↔ m.Releasable io := by
  obtain ⟨hinst, -, htarget, -, hi3c, -, hvprobe⟩ := hexists
  obtain ⟨target, htarget⟩ := Option.isSome_iff_exists.mp htarget
  obtain ⟨i3c, hi3c⟩ := Option.isSome_iff_exists.mp hi3c
  obtain ⟨vprobe, hvprobe⟩ := Option.isSome_iff_exists.mp hvprobe
  obtain ⟨gpios, ownership⟩ := io
  simp only [asdMsgFree, hinst, htarget, hi3c, hvprobe, releaseResult, MsgLifecycle.Releasable,
    if_true]
  cases target <;> cases i3c <;> cases vprobe <;> cases gpios <;> cases ownership <;> decide

theorem asdMsgInit_cases (m : MsgLifecycle) (io : CreateIo) (release : ReleaseIo) :
    (m.instanceSet = true ∧ asdMsgInit m io release = (m, .err)) ∨
    (m.instanceSet = false ∧ (asdMsgInit m io release).2 = .ok ∧
      ((asdMsgInit m io release).1.instanceSet = true → (asdMsgInit m io release).1.Exists) ∧
      ((asdMsgInit m io release).1.instanceSet = true ↔ io.all = true)) := by
  cases hinst : m.instanceSet with
  | true => exact Or.inl ⟨rfl, by simp [asdMsgInit, hinst]⟩
  | false =>
      refine Or.inr ⟨rfl, ?_⟩
      cases hall : io.all with
      | false =>
          have hfree := asdMsgFree_instanceSet
            ⟨false, io.jtag, if io.target then some false else none, io.i2c,
              if io.i3c then some false else none, io.spp,
              if io.vprobe then some false else none⟩ release
          simp [asdMsgInit, hinst, hall, hfree]
      | true =>
          have hcreated := hall
          simp only [CreateIo.all, Bool.and_eq_true] at hcreated
          simp [asdMsgInit, hinst, hall, MsgLifecycle.Exists, hcreated]

theorem processMsg_exists_iff (m : MsgLifecycle) (io : ProcessMsgIo) :
    (processMsg m io).1.Exists ↔ m.Exists := by
  simp [processMsg, MsgLifecycle.Exists]

end AtScaleDebug
