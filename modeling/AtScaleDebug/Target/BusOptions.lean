import Mathlib.Logic.Function.Basic
import AtScaleDebug.Target.BusHandlers

/-!
The bus options, which the command line and the platform configuration fill in: the I2C,
I3C and not-allowed buses from the first entry on, the SPP buses behind them. A client
gets those of the command line if they enable anything, and those of the platform
otherwise.

The two maps are arrays of `MAX_IxC_BUSES + MAX_SPP_BUSES` entries. An index is any
number here, so that the bounds are something to be proved.
-/

namespace AtScaleDebug

def maxSppBuses : Nat := 8

inductive BusConfigType where
  | notAllowed
  | i2c
  | i3c
  | spp
  | i3cDbg
  deriving DecidableEq, Repr

/-- `BUS_CONFIG_TYPE_STRINGS`. -/
def BusConfigType.string : BusConfigType → String
  | .notAllowed => "BUS_CONFIG_NOT_ALLOWED"
  | .i2c => "BUS_CONFIG_I2C"
  | .i3c => "BUS_CONFIG_I3C"
  | .spp => "BUS_CONFIG_SPP"
  | .i3cDbg => "BUS_CONFIG_I3C_DBG"

structure BusOptions where
  enableI2c : Bool
  enableI3c : Bool
  enableSpp : Bool
  busConfigMap : Nat → UInt8
  busConfigType : Nat → BusConfigType
  bus : UInt8

namespace BusOptions

def place (o : BusOptions) (index : Nat) (type : BusConfigType) (bus : UInt8) : BusOptions :=
  { o with
    busConfigMap := Function.update o.busConfigMap index bus
    busConfigType := Function.update o.busConfigType index type }

def enables (o : BusOptions) : Bool := o.enableI2c || o.enableI3c || o.enableSpp

/-- No bus is enabled and none is allowed. -/
structure Disabled (o : BusOptions) : Prop where
  enableI2c : o.enableI2c = false
  enableI3c : o.enableI3c = false
  enableSpp : o.enableSpp = false
  types : ∀ i < maxIxCBuses + maxSppBuses, o.busConfigType i = .notAllowed

/-- An entry of the I2C and I3C part, the kind of which is enabled. -/
inductive IxCEntry (o : BusOptions) : BusConfigType → Prop where
  | notAllowed : IxCEntry o .notAllowed
  | i2c (enabled : o.enableI2c = true) : IxCEntry o .i2c
  | i3c (enabled : o.enableI3c = true) : IxCEntry o .i3c

/-- What the handlers rely on. -/
def Wf (o : BusOptions) : Prop := ∀ i < maxIxCBuses, o.IxCEntry (o.busConfigType i)

/-- The same options, but for the default bus when nothing is enabled. -/
def Agree (o u : BusOptions) : Prop :=
  ∃ bus, u = { o with bus } ∧ (o.enables = true → bus = o.bus)

theorem Agree.refl (o : BusOptions) : o.Agree o := ⟨o.bus, rfl, fun _ => rfl⟩

theorem enables_eq_false {o : BusOptions} :
    o.enables = false ↔ o.enableI2c = false ∧ o.enableI3c = false ∧ o.enableSpp = false := by
  rw [enables, Bool.or_eq_false_iff, Bool.or_eq_false_iff, and_assoc]

theorem IxCEntry.mono {o u : BusOptions} {type : BusConfigType}
    (h : o.IxCEntry type) (hi2c : o.enableI2c = true → u.enableI2c = true)
    (hi3c : o.enableI3c = true → u.enableI3c = true) : u.IxCEntry type := by
  cases h with
  | notAllowed => exact .notAllowed
  | i2c enabled => exact .i2c (hi2c enabled)
  | i3c enabled => exact .i3c (hi3c enabled)

theorem Disabled.wf {o : BusOptions} (h : o.Disabled) : o.Wf := fun i hi => by
  rw [h.types i (Nat.lt_add_right _ hi)]
  exact .notAllowed

end BusOptions

def BusConfigType.busType : BusConfigType → BusType
  | .i2c => .i2c
  | .i3c => .i3c
  | .notAllowed | .spp | .i3cDbg => .notAllowed

/-- The part of the options that the I2C and I3C handlers read. -/
def BusOptions.busConfig (o : BusOptions) (h : o.Wf) : BusConfig where
  enableI2c := o.enableI2c
  enableI3c := o.enableI3c
  busConfigMap i := o.busConfigMap i
  busConfigType i := (o.busConfigType i).busType
  i2c_enabled i hi := by
    cases hentry : o.busConfigType i with
    | i2c =>
        have entry := h i i.isLt
        rw [hentry] at entry
        cases entry with
        | i2c enabled => exact enabled
    | notAllowed | i3c | spp | i3cDbg => rw [hentry] at hi; cases hi
  i3c_enabled i hi := by
    cases hentry : o.busConfigType i with
    | i3c =>
        have entry := h i i.isLt
        rw [hentry] at entry
        cases entry with
        | i3c enabled => exact enabled
    | notAllowed | i2c | spp | i3cDbg => rw [hentry] at hi; cases hi

/-- `set_config_defaults`, the bus options. -/
def setConfigDefaults (opt : BusOptions) : BusOptions :=
  if opt.enables then opt
  else { opt with busConfigMap := fun _ => 0, busConfigType := fun _ => .notAllowed }

/-- `on_client_connect`, the options it hands to `set_config_defaults`; whether the
platform was read is ignored. -/
def onClientConnectOptions (args platform : BusOptions) : BusOptions :=
  setConfigDefaults (if args.enables then args else platform)

theorem setConfigDefaults_agree {o u : BusOptions} (h : o.Agree u) :
    (setConfigDefaults o).Agree (setConfigDefaults u) := by
  obtain ⟨bus, rfl, hbus⟩ := h
  have henables : BusOptions.enables { o with bus } = o.enables := rfl
  rw [setConfigDefaults, setConfigDefaults, henables]
  split
  · exact ⟨bus, rfl, hbus⟩
  · exact ⟨bus, rfl, hbus⟩

/-- Options that enable nothing give the same defaults. -/
theorem setConfigDefaults_agree_of_none {o u : BusOptions} (ho : o.enables = false)
    (hu : u.enables = false) : (setConfigDefaults o).Agree (setConfigDefaults u) := by
  rw [setConfigDefaults, setConfigDefaults, ho, hu]
  refine ⟨u.bus, ?_, fun henabled => absurd (ho.symm.trans henabled) Bool.false_ne_true⟩
  obtain ⟨hoI2c, hoI3c, hoSpp⟩ := BusOptions.enables_eq_false.mp ho
  obtain ⟨huI2c, huI3c, huSpp⟩ := BusOptions.enables_eq_false.mp hu
  simp only [Bool.false_eq_true, if_false, hoI2c, hoI3c, hoSpp, huI2c, huI3c, huSpp]

theorem setConfigDefaults_wf {opt : BusOptions} (h : opt.Wf) : (setConfigDefaults opt).Wf := by
  rw [setConfigDefaults]
  split
  · exact h
  · exact fun i hi => .notAllowed

theorem onClientConnectOptions_wf {args platform : BusOptions} (hargs : args.Wf)
    (hplatform : platform.Wf) : (onClientConnectOptions args platform).Wf := by
  rw [onClientConnectOptions]
  split
  · exact setConfigDefaults_wf hargs
  · exact setConfigDefaults_wf hplatform

/-- Without buses on the command line a client has none of a platform that is disabled. -/
theorem onClientConnectOptions_disabled {args platform : BusOptions}
    (hargs : args.enables = false) (h : platform.Disabled) :
    (onClientConnectOptions args platform).Disabled := by
  have hnone : platform.enables = false := by
    rw [BusOptions.enables, h.enableI2c, h.enableI3c, h.enableSpp]
    rfl
  rw [onClientConnectOptions, hargs, if_neg Bool.false_ne_true, setConfigDefaults, hnone,
    if_neg Bool.false_ne_true]
  exact ⟨h.enableI2c, h.enableI3c, h.enableSpp, fun _ _ => rfl⟩

end AtScaleDebug
