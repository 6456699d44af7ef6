import AtScaleDebug.Target.PowerState
import AtScaleDebug.Lib.CString

/-!
The pins of the target handler: the table it is created with, what the platform
configuration overrides in it, and the readers and writers of the pins. Three pins have
their reader or writer before the configuration is looked at, all others get it from the
type that is left when it has been applied.
-/

namespace AtScaleDebug

section Pins

/-- `Target_Control_GPIOS`. -/
inductive TargetControlGpios where
  | bmcTckMuxSel | bmcPreqN | bmcPrdyN | bmcRsmrstB | bmcCpuPwrgd | bmcPltrstB | bmcSyspwrok
  | bmcPwrDebugN | bmcDebugEnN | bmcXdpPrstIn | powerBtn | resetBtn | bmcPwrgd2 | bmcPwrgd3
  deriving DecidableEq, Repr

def TargetControlGpios.all : List TargetControlGpios :=
  [.bmcTckMuxSel, .bmcPreqN, .bmcPrdyN, .bmcRsmrstB, .bmcCpuPwrgd, .bmcPltrstB, .bmcSyspwrok,
    .bmcPwrDebugN, .bmcDebugEnN, .bmcXdpPrstIn, .powerBtn, .resetBtn, .bmcPwrgd2, .bmcPwrgd3]

theorem TargetControlGpios.mem_all (pin : TargetControlGpios) : pin ∈ all := by
  cases pin <;> decide

inductive GpioDirection where
  | input | output | high | low
  deriving DecidableEq, Repr

inductive GpioEdge where
  | none | rising | falling | both
  deriving DecidableEq, Repr

inductive PinType where
  | none | gpio | dbus | gpiod
  deriving DecidableEq, Repr

/-- The functions a reader pointer can have. -/
inductive TargetReader where
  | gpioPin | gpiodPin | pinNone | dbusPwrgoodPin
  deriving DecidableEq, Repr

inductive TargetWriter where
  | gpioPin | gpiodPin | pinNone | dbusPowerButton | dbusReset
  deriving DecidableEq, Repr

/-- The functions an event handler pointer can have. -/
inductive TargetEventHandler where
  | prdy | power | platformReset | xdpPresent | power2 | power3
  deriving DecidableEq, Repr

/-- A pin before it has a reader and a writer. -/
structure PinSetup where
  name : List UInt8
  direction : GpioDirection
  edge : GpioEdge
  activeLow : Bool
  type : PinType
  read : Option TargetReader
  write : Option TargetWriter
  handler : Option TargetEventHandler

/-- `Target_Control_GPIO`. -/
structure TargetControlGpio where
  name : List UInt8
  number : Int
  read : TargetReader
  write : TargetWriter
  handler : Option TargetEventHandler
  fd : Option Nat
  direction : GpioDirection
  edge : GpioEdge
  chip : Option Nat
  activeLow : Bool
  type : PinType

def PinSetup.gpiod (name : String) (direction : GpioDirection) (edge : GpioEdge)
    (activeLow : Bool) (handler : Option TargetEventHandler) : PinSetup :=
  ⟨CString.asciiBytes name, direction, edge, activeLow, .gpiod, none, none, handler⟩

/-- The table of `TargetHandler`. -/
def pinSetup : TargetControlGpios → PinSetup
  | .bmcTckMuxSel => .gpiod "TCK_MUX_SEL" .low .none false none
  | .bmcPreqN => .gpiod "PREQ_N" .high .none true none
  | .bmcPrdyN => .gpiod "PRDY_N" .input .falling true (some .prdy)
  | .bmcRsmrstB => .gpiod "RSMRST_N" .input .none false none
  | .bmcCpuPwrgd =>
      { PinSetup.gpiod "SIO_POWER_GOOD" .input .both false (some .power) with
        type := .dbus, read := some .dbusPwrgoodPin }
  | .bmcPltrstB => .gpiod "PLTRST_N" .input .both true (some .platformReset)
  | .bmcSyspwrok => .gpiod "SYSPWROK" .high .none true none
  | .bmcPwrDebugN => .gpiod "PWR_DEBUG_N" .high .none true none
  | .bmcDebugEnN => .gpiod "DEBUG_EN_N" .high .none true none
  | .bmcXdpPrstIn => .gpiod "XDP_PRST_N" .input .both true (some .xdpPresent)
  | .powerBtn =>
      { PinSetup.gpiod "POWER_BTN" .high .none true none with
        type := .dbus, write := some .dbusPowerButton }
  | .resetBtn =>
      { PinSetup.gpiod "RESET_BTN" .high .none true none with
        type := .dbus, write := some .dbusReset }
  | .bmcPwrgd2 => .gpiod "BMC_PWRGD2" .input .both false (some .power2)
  | .bmcPwrgd3 => .gpiod "BMC_PWRGD3" .input .both false (some .power3)

end Pins

section Platform

def pinNameMaxSize : Nat := 40

/-- The properties that the configuration has for a pin, `none` where one cannot be read. -/
structure PinConfig where
  pinName : Option (List UInt8)
  pinDirection : Option String
  pinEdge : Option String
  pinActiveLow : Option Bool
  pinType : Option String

/-- `string_to_enum`. A string that is not in the table leaves the value. -/
def stringToEnum {α : Type} (enumStrings : List (String × α)) (str : String) (val : α) : α :=
  (enumStrings.find? fun entry => str = entry.1).elim val Prod.snd

def gpioDirectionStrings : List (String × GpioDirection) :=
  [("GPIO_DIRECTION_IN", .input), ("GPIO_DIRECTION_OUT", .output),
    ("GPIO_DIRECTION_HIGH", .high), ("GPIO_DIRECTION_LOW", .low)]

def gpioEdgeStrings : List (String × GpioEdge) :=
  [("GPIO_EDGE_NONE", .none), ("GPIO_EDGE_RISING", .rising), ("GPIO_EDGE_FALLING", .falling),
    ("GPIO_EDGE_BOTH", .both)]

def pinTypeStrings : List (String × PinType) :=
  [("PIN_NONE", .none), ("PIN_GPIO", .gpio), ("PIN_DBUS", .dbus), ("PIN_GPIOD", .gpiod)]

/-- `platform_override_gpio`. A name of forty bytes is left without its terminator. -/
def platformOverrideGpio (c : PinConfig) (g : PinSetup) : PinSetup :=
  { g with
    name := c.pinName.elim g.name (List.take pinNameMaxSize)
    direction := c.pinDirection.elim g.direction fun str =>
      stringToEnum gpioDirectionStrings str g.direction
    edge := c.pinEdge.elim g.edge fun str => stringToEnum gpioEdgeStrings str g.edge
    activeLow := c.pinActiveLow.getD g.activeLow
    type := c.pinType.elim g.type fun str => stringToEnum pinTypeStrings str g.type }

/-- What `platform_init` reads: the configuration of the pins that have one, none where
the bus cannot be opened, and the delay after a chain was selected. -/
structure PlatformConfig where
  pins : TargetControlGpios → Option PinConfig
  chainSelectDelayUs : Option Nat

def platformInit (c : PlatformConfig) (pin : TargetControlGpios) : PinSetup :=
  (c.pins pin).elim (pinSetup pin) fun p => platformOverrideGpio p (pinSetup pin)

def PinType.reader : PinType → TargetReader
  | .gpio => .gpioPin
  | .gpiod => .gpiodPin
  | _ => .pinNone

def PinType.writer : PinType → TargetWriter
  | .gpio => .gpioPin
  | .gpiod => .gpiodPin
  | _ => .pinNone

/-- The reader and the writer of the type, unless there is one. -/
def PinSetup.gpio (g : PinSetup) : TargetControlGpio where
  name := g.name
  number := -1
  read := g.read.getD g.type.reader
  write := g.write.getD g.type.writer
  handler := g.handler
  fd := none
  direction := g.direction
  edge := g.edge
  chip := none
  activeLow := g.activeLow
  type := g.type

structure EventConfiguration where
  breakAll : Bool
  resetBreak : Bool
  reportPrdy : Bool
  reportPltrst : Bool
  reportMbp : Bool
  deriving DecidableEq, Repr

/-- `Target_Control_Handle`; of the SPP handler it is kept whether there is one. -/
structure TargetControlHandle where
  eventCfg : EventConfiguration
  initialized : Bool
  gpios : TargetControlGpios → TargetControlGpio
  dbus : Option DbusHandle
  isControllerProbe : Bool
  xdpPresent : Bool
  spp : Bool
  chainSelectDelayUs : Nat

/-- `TargetHandler`, with the handle of the bus where it can be allocated. -/
def targetHandler (c : PlatformConfig) (dbus : Option DbusHandle) : TargetControlHandle where
  eventCfg := ⟨false, false, false, false, false⟩
  initialized := false
  gpios pin := (platformInit c pin).gpio
  dbus := dbus
  isControllerProbe := false
  xdpPresent := false
  spp := false
  chainSelectDelayUs := c.chainSelectDelayUs.elim 0 (· % 0x100000000)

end Platform

section ReadWrite

/-- What the drivers answer: the character in the value file of a pin, the value of its
line and whether they can be set, the property of the power state, and whether a request
to the host can be sent. -/
structure PinIo where
  valueFile : TargetControlGpios → Option UInt8
  lineValue : TargetControlGpios → Option Bool
  fileWritten : TargetControlGpios → Bool
  lineSet : TargetControlGpios → Bool
  powerProperty : Option String
  requested : Bool

inductive PowerRequest where
  | on | off | reset
  deriving DecidableEq, Repr

/-- What the drivers did for a write. -/
inductive PinDrive where
  | file (pin : TargetControlGpios) (one : Bool)
  | line (pin : TargetControlGpios) (value : Int)
  | request (request : PowerRequest)
  deriving DecidableEq, Repr

/-- `read_dbus_pwrgood_pin`. A state that cannot be read counts as on. -/
def readDbusPwrgoodPin (dbus : Option DbusHandle) (property : Option String) : Int :=
  ((dbus.bind fun h => dbusGetPowerstate h property).map PowerState.toInt).getD 1

/-- The read function of a pin. The value is what the caller's variable holds before. -/
def readPin (t : TargetControlHandle) (pin : TargetControlGpios) (io : PinIo) (value : Int) :
    Status × Int :=
  let g := t.gpios pin
  match g.read with
  | .gpioPin =>
      if g.type = .gpio ∧ g.fd.isSome then
        match io.valueFile pin with
        | none => (.err, value)
        | some ch => (.ok, if ch ≠ 0x30 then 1 else 0)
      else (.err, value)
  | .gpiodPin =>
      if g.type = .gpiod then
        match io.lineValue pin with
        | none => (.err, -1)
        | some level => (.ok, if level then 1 else 0)
      else (.err, value)
  | .pinNone => (.ok, 0)
  | .dbusPwrgoodPin => (.ok, readDbusPwrgoodPin t.dbus io.powerProperty)

/-- A request to the host is only sent over an open bus. -/
def dbusPower (dbus : Option DbusHandle) (io : PinIo) (request : PowerRequest) :
    Status × List PinDrive :=
  if dbus.any DbusHandle.bus && io.requested then (.ok, [.request request]) else (.err, [])

/-- The write function of a pin. -/
def writePin (t : TargetControlHandle) (pin : TargetControlGpios) (io : PinIo) (value : Int) :
    Status × List PinDrive :=
  let g := t.gpios pin
  match g.write with
  | .gpioPin =>
      if g.type = .gpio ∧ g.fd.isSome ∧ io.fileWritten pin = true then
        (.ok, [.file pin (value = 1)])
      else (.err, [])
  | .gpiodPin =>
      if g.type = .gpiod ∧ io.lineSet pin = true then (.ok, [.line pin value]) else (.err, [])
  | .pinNone => (.ok, [])
  | .dbusPowerButton =>
      if value = 0 then (.ok, [])
      else if (readPin t .bmcCpuPwrgd io 0).2 ≠ 0 then dbusPower t.dbus io .off
      else dbusPower t.dbus io .on
  | .dbusReset => if value = 0 then (.ok, []) else dbusPower t.dbus io .reset

variable {t : TargetControlHandle} {pin : TargetControlGpios}

theorem readPin_none (h : (t.gpios pin).read = .pinNone) (io : PinIo) (value : Int) :
    readPin t pin io value = (.ok, 0) := by
  simp only [readPin, h]

theorem readPin_file (hread : (t.gpios pin).read = .gpioPin) (htype : (t.gpios pin).type = .gpio)
    (hfd : (t.gpios pin).fd.isSome) (io : PinIo) {ch : UInt8} (hch : io.valueFile pin = some ch)
    (value : Int) : readPin t pin io value = (.ok, if ch ≠ 0x30 then 1 else 0) := by
  simp only [readPin, hread, htype, hfd, and_self, if_true, hch]

theorem readPin_line (hread : (t.gpios pin).read = .gpiodPin)
    (htype : (t.gpios pin).type = .gpiod) (io : PinIo) {level : Bool}
    (hlevel : io.lineValue pin = some level) (value : Int) :
    readPin t pin io value = (.ok, if level then 1 else 0) := by
  simp only [readPin, hread, htype, if_true, hlevel]

theorem writePin_none (h : (t.gpios pin).write = .pinNone) (io : PinIo) (value : Int) :
    writePin t pin io value = (.ok, []) := by
  simp only [writePin, h]

theorem writePin_file (hwrite : (t.gpios pin).write = .gpioPin)
    (htype : (t.gpios pin).type = .gpio) (hfd : (t.gpios pin).fd.isSome) (io : PinIo)
    (hset : io.fileWritten pin = true) (value : Int) :
    writePin t pin io value = (.ok, [.file pin (value = 1)]) := by
  simp only [writePin, hwrite, htype, hfd, hset, and_self, if_true]

theorem writePin_line (hwrite : (t.gpios pin).write = .gpiodPin)
    (htype : (t.gpios pin).type = .gpiod) (io : PinIo) (hset : io.lineSet pin = true)
    (value : Int) : writePin t pin io value = (.ok, [.line pin value]) := by
  simp only [writePin, hwrite, htype, hset, and_self, if_true]

end ReadWrite

end AtScaleDebug
