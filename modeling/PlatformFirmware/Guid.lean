import PlatformFirmware.NumberText

namespace PlatformFirmware

/-- A globally unique name, in the five groups of its text. -/
structure Guid where
  group1 : UInt32
  group2 : UInt16
  group3 : UInt16
  group4 : UInt16
  group5 : BitVec 48
  deriving DecidableEq

def Guid.text (guid : Guid) : String :=
  let group (digits value : Nat) : String := fillLeft '0' digits (hexDigits value)
  "-".intercalate
    [group 8 guid.group1.toNat, group 4 guid.group2.toNat, group 4 guid.group3.toNat,
      group 4 guid.group4.toNat, group 12 guid.group5.toNat]

end PlatformFirmware
