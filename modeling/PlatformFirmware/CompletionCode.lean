import PlatformFirmware.NumberText

namespace PlatformFirmware

/-- The first byte of every response of the management controller. -/
structure CompletionCode where
  value : UInt8
  deriving DecidableEq

/-- A completion code that means the same for every command. -/
structure GenericCompletion where
  value : UInt8
  symbol : String
  description : String

/-- The generic completion codes. All others belong to a command or a vendor. -/
def genericCompletions : List GenericCompletion :=
  [⟨0x00, "NORMAL", "Command completed normally"⟩,
    ⟨0xC0, "NODE_BUSY", "Node busy"⟩,
    ⟨0xC1, "INVALID_COMMAND", "Invalid command"⟩,
    ⟨0xC2, "INVALID_COMMAND_FOR_LUN", "Command invalid for given LUN"⟩,
    ⟨0xC3, "TIMEOUT", "Timeout while processing command"⟩,
    ⟨0xC4, "OUT_OF_SPACE", "Out of space"⟩,
    ⟨0xC5, "RESERVATION_CANCELLED", "Reservation canceled or invalid reservation ID"⟩,
    ⟨0xC6, "REQUEST_DATA_TRUNCATED", "Request data truncated"⟩,
    ⟨0xC7, "REQUEST_DATA_LENGTH_INVALID", "Request data length invalid"⟩,
    ⟨0xC8, "REQUEST_DATA_FIELD_LENGTH_LIMIT_EXCEEDED",
      "Request data field length limit exceeded"⟩,
    ⟨0xC9, "PARAMETER_OUT_OF_RANGE", "Parameter out of range"⟩,
    ⟨0xCA, "CANNOT_RETURN_NUMBER_OF_REQUESTED_DATA_BYTES",
      "Cannot return number of requested data bytes"⟩,
    ⟨0xCB, "REQUESTED_DATA_NOT_PRESENT", "Requested sensor, data, or record not present"⟩,
    ⟨0xCC, "INVALID_DATA_FIELD_IN_REQUEST", "Invalid data field in request"⟩,
    ⟨0xCD, "COMMAND_ILLEGAL_FOR_SENSOR_OR_RECORD_TYPE",
      "Command illegal for specified sensor or record type"⟩,
    ⟨0xCE, "COMMAND_RESPONSE_COULD_NOT_BE_PROVIDED",
      "Command response could not be provided"⟩,
    ⟨0xCF, "CANNOT_EXECUTE_DUPLICATED_REQUEST", "Cannot execute duplicated request"⟩,
    ⟨0xD0, "SDR_REPOSITORY_IN_UPDATE_MODE", "SDR repository in update mode"⟩,
    ⟨0xD1, "DEVICE_IN_FIRMWARE_UPDATE_MODE", "Device in firmware update mode"⟩,
    ⟨0xD2, "BMC_INITIALIZATION_IN_PROGRESS", "BMC initialization in progress"⟩,
    ⟨0xD3, "DESTINATION_UNAVAILABLE", "Destination unavailable"⟩,
    ⟨0xD4, "INSUFFICIENT_PRIVILEGE_LEVEL", "Insufficient privilege level"⟩,
    ⟨0xD5, "REQUEST_PARAMETER_NOT_SUPPORTED", "Request parameter not supported"⟩,
    ⟨0xD6, "SUB_FUNCTION_DISABLED", "Sub-function disabled"⟩,
    ⟨0xFF, "UNSPECIFIED_ERROR", "Unspecified error"⟩]

namespace CompletionCode

def isSuccess (code : CompletionCode) : Bool :=
  code.value == 0

def description? (code : CompletionCode) : Option String :=
  (genericCompletions.find? fun generic => generic.value == code.value).map
    GenericCompletion.description

/-- The code in hexadecimal, explained if it is generic. -/
def text (code : CompletionCode) : String :=
  let number := hexTextOfWidth 4 code.value.toNat
  match code.description? with
  | some description => number ++ " (" ++ description ++ ")"
  | none => number

end CompletionCode

end PlatformFirmware
