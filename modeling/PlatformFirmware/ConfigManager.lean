import PlatformFirmware.ConfigRepository

namespace PlatformFirmware

/-- Answers for the objects that every board has, and asks the board for all others. -/
structure ConfigManager where
  info : ManagerInfo
  repository : ConfigRepository

namespace ConfigManager

def managerRevision : UInt32 := revisionOf 1 0

/-- Spells `ARMLTD`. -/
def oemId : List UInt8 := [0x41, 0x52, 0x4D, 0x4C, 0x54, 0x44]

def of (repository : ConfigRepository) : ConfigManager :=
  { info := ⟨managerRevision, oemId⟩, repository }

def revision (manager : ConfigManager) : UInt32 :=
  manager.info.revision

def standardObject (manager : ConfigManager) (id : ObjectId) (token : ObjectToken) :
    LogM ConfigAnswer :=
  match StandardObject.ofNumber? id.object with
  | some .managerInfo => answerAll id (.managerInfo [manager.info])
  | _ => manager.repository.standardObject id token

/-- The objects of the namespace that a request is for. -/
def namespaceObject (manager : ConfigManager) (id : ObjectId) (token : ObjectToken) :
    LogM ConfigAnswer := do
  match id.objectNamespace? with
  | some .standard => manager.standardObject id token
  | some .arm => manager.repository.armObject id token
  | some .oem => .refuse .notFound
  | none =>
    writeConfigLog .error ("Unknown Namespace Object = " ++ id.debugText)
    .refuse .invalidParameter

/-- Answers a request; one for an object that is not there is logged. -/
def getObject (manager : ConfigManager) (id : ObjectId) (token : ObjectToken) :
    LogM ConfigAnswer := do
  let result ← ExceptT.lift (manager.namespaceObject id token).run
  if let .error (.refused .notFound) := result then
    writeConfigLog .info
      ("Object " ++ id.debugText ++ " not found. Token = " ++ hexText token.toNat)
  result

/-- Objects cannot be changed. -/
def setObject (id : ObjectId) (_token : ObjectToken) : LogM Unit := do
  writeConfigLog .error ("SetObject " ++ id.debugText ++ " is not supported")
  .refuse .unsupported

end ConfigManager

end PlatformFirmware
