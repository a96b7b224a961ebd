namespace PlatformFirmware

/-- A run of `width` bits of a word, from bit `start` upwards. -/
structure BitField where
  start : Nat
  width : Nat
  deriving DecidableEq

namespace BitField

/-- The word in which exactly the bits of the field are set. -/
def mask (field : BitField) (w : Nat) : BitVec w :=
  (BitVec.allOnes field.width).setWidth w <<< field.start

def get (field : BitField) {w : Nat} (word : BitVec w) : BitVec field.width :=
  word.extractLsb' field.start field.width

def put (field : BitField) {w : Nat} (word : BitVec w) (value : BitVec field.width) : BitVec w :=
  (word &&& ~~~ field.mask w) ||| (value.setWidth w <<< field.start)

/-- A number as a value of the field, if the field is wide enough to keep it. -/
def fit? (field : BitField) (value : Nat) : Option (BitVec field.width) :=
  let kept := BitVec.ofNat field.width value
  if kept.toNat = value then some kept else none

end BitField

end PlatformFirmware
