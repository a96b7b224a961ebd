import PlatformFirmware.Guid
import PlatformFirmware.LogRecord

namespace PlatformFirmware

structure I2cController where
  mmioBase : UInt64
  /-- The input clock in Hertz. -/
  inputClock : UInt32
  deriving DecidableEq

def I2cController.debugText (controller : I2cController) : String :=
  "CadenceI2cInstall \x7b mmio_base: " ++ hexDigits controller.mmioBase.toNat ++
    ", input_clock_hz: " ++ hexDigits controller.inputClock.toNat ++ " \x7d"

structure I2cDevice where
  guid : Guid
  index : UInt32
  revision : UInt32
  addresses : List UInt32
  deriving DecidableEq

/-- What the bus asks of its bindings. -/
inductive I2cCall
  | install (controller : I2cController) (devices : List I2cDevice)
  | uninstall (handle : Nat)
  deriving DecidableEq

/-- A bus that is installed when it starts and removed when it stops.

The bindings are their coming answers. After the last one they install bus 0 and remove
every bus. -/
structure I2cBus where
  controller : I2cController
  devices : List I2cDevice
  /-- The handle of the installed bus. -/
  handle : Option Nat := none
  installs : List (Except EfiError Nat) := []
  uninstalls : List (Except EfiError Unit) := []
  calls : List I2cCall := []
  log : List LogRecord := []

abbrev I2cAction := StateM I2cBus

abbrev I2cM := ExceptT EfiError I2cAction

inductive I2cStep
  | start
  | stop
  deriving DecidableEq

namespace I2cBus

def isStarted (bus : I2cBus) : Bool :=
  bus.handle.isSome

def report (severity : Severity) (message : String) : I2cAction Unit :=
  modify fun bus => { bus with log := bus.log ++ [⟨severity, "i2c", message⟩] }

def install : I2cAction (Except EfiError Nat) :=
  modifyGet fun bus =>
    (bus.installs.headD (.ok 0),
      { bus with
        installs := bus.installs.tail
        calls := bus.calls ++ [.install bus.controller bus.devices] })

def uninstall (handle : Nat) : I2cAction (Except EfiError Unit) :=
  modifyGet fun bus =>
    (bus.uninstalls.headD (.ok ()),
      { bus with
        uninstalls := bus.uninstalls.tail
        calls := bus.calls ++ [.uninstall handle] })

/-- Installs the bus, if it is not installed yet and can be used. -/
def start : I2cM Unit := do
  let bus ← get
  if bus.isStarted then
    throw .alreadyStarted
  if bus.controller.mmioBase = 0 ∨ bus.controller.inputClock = 0 then
    report .error ("Invalid HDMI I2C controller: " ++ bus.controller.debugText)
    throw .invalidParameter
  if let some device := bus.devices.find? fun device => device.addresses.isEmpty then
    report .error
      ("HDMI I2C device " ++ toString device.index.toNat ++ " has no slave address.")
    throw .invalidParameter
  match ← ExceptT.lift install with
  | .error reason =>
    report .error ("Failed to install the HDMI I2C bus: " ++ reason.debugText)
    throw reason
  | .ok handle =>
    report .info ("HDMI I2C bus started on controller " ++
      hexText bus.controller.mmioBase.toNat ++ " with " ++ toString bus.devices.length ++
      " device(s).")
    modify fun bus => { bus with handle := some handle }

/-- Removes the bus, if it is installed. -/
def stop : I2cM Unit := do
  match (← get).handle with
  | none => return ()
  | some handle =>
    match ← ExceptT.lift (uninstall handle) with
    | .error reason =>
      report .error ("Failed to uninstall the HDMI I2C bus: " ++ reason.debugText)
      throw reason
    | .ok () =>
      modify fun bus => { bus with handle := none }
      report .info "HDMI I2C bus stopped."

def step : I2cStep → I2cM Unit
  | .start => start
  | .stop => stop

end I2cBus

end PlatformFirmware
