import PlatformFirmware.BoardMap
import PlatformFirmware.ChassisCommand
import PlatformFirmware.ConfigManager
import PlatformFirmware.I2cBus
import PlatformFirmware.TrapRun
import PlatformFirmware.TrapWindow
import PlatformFirmware.VariableWriter
import PlatformFirmware.Proofs.TrapClaim
import PlatformFirmware.Proofs.TrapRegistration
import PlatformFirmware.Proofs.TrapRelease
import PlatformFirmware.Proofs.TrapRange
import PlatformFirmware.Proofs.TrapLayout
import PlatformFirmware.Proofs.TrapPlacement
import PlatformFirmware.Proofs.TrapTidy
import PlatformFirmware.Proofs.TrapMove
import PlatformFirmware.Proofs.TrapReach
import PlatformFirmware.Proofs.TrapMakes
import PlatformFirmware.Proofs.TrapChange
import PlatformFirmware.Proofs.BitFieldUpdate
import PlatformFirmware.Proofs.TrapRegisterFields
import PlatformFirmware.Proofs.TrapRoster
import PlatformFirmware.Proofs.TrapShadow
import PlatformFirmware.Proofs.TrapCallbacks
import PlatformFirmware.Proofs.TrapCalls
import PlatformFirmware.Proofs.TrapDecode
import PlatformFirmware.Proofs.TrapRouting
import PlatformFirmware.Proofs.TrapAllocator
import PlatformFirmware.Proofs.TrapLedger
import PlatformFirmware.Proofs.TrapConservation
import PlatformFirmware.Proofs.TrapRefusal
import PlatformFirmware.Proofs.TrapDelivery
import PlatformFirmware.Proofs.TrapLock
import PlatformFirmware.Proofs.TrapLanding
import PlatformFirmware.Proofs.VariableGuard
import PlatformFirmware.Proofs.ConfigResolution
import PlatformFirmware.Proofs.BoardHandOff
import PlatformFirmware.Proofs.BoardLayout
import PlatformFirmware.Proofs.BoardCarveOut
import PlatformFirmware.Proofs.ChassisWire
import PlatformFirmware.Proofs.BootOptionBuffer
import PlatformFirmware.Proofs.HandOffLength
import PlatformFirmware.Proofs.RemapGraph
import PlatformFirmware.Proofs.RemapClosure
import PlatformFirmware.Proofs.TrapSerial
import PlatformFirmware.Proofs.TrapIdentity
import PlatformFirmware.Proofs.PlatformInfoTree
import PlatformFirmware.Proofs.BoardPciWindows
import PlatformFirmware.Proofs.I2cSteps
import PlatformFirmware.Proofs.I2cLifecycle
import PlatformFirmware.Proofs.TrapSearch
import PlatformFirmware.Proofs.TrapDecision
import PlatformFirmware.Proofs.TrapAdmission
import PlatformFirmware.Proofs.TrapService
import PlatformFirmware.Proofs.TrapQuiet
import PlatformFirmware.Proofs.TrapOrigin
import PlatformFirmware.Proofs.TrapSwitching
import PlatformFirmware.Proofs.TrapRemoval
import PlatformFirmware.Proofs.TrapUndo
import PlatformFirmware.Proofs.TrapStripping
import PlatformFirmware.Proofs.TrapOrder
import PlatformFirmware.Proofs.TrapArithmetic
import PlatformFirmware.Proofs.TrapOverflow
import PlatformFirmware.Proofs.BoardSeparation
import PlatformFirmware.Proofs.BoundedMap
import PlatformFirmware.Proofs.BoardTable
import PlatformFirmware.Proofs.PlatformInfoFields
import PlatformFirmware.Proofs.PlatformInfoBlock
import PlatformFirmware.Proofs.StatusConversion
import PlatformFirmware.Proofs.TrapRegisterRange
import PlatformFirmware.Proofs.ChassisCompletion
import PlatformFirmware.Proofs.BitFieldTiling
import PlatformFirmware.Proofs.FieldRecord
import PlatformFirmware.Proofs.TrapRegisterLayout
import PlatformFirmware.Proofs.TrapWindowSteps
import PlatformFirmware.Proofs.TrapWindowHistory
