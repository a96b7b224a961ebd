namespace PlatformFirmware

/-- The bytes of a number, lowest first. -/
def littleEndian : Nat → Nat → List UInt8
  | 0, _ => []
  | count + 1, n => UInt8.ofNat n :: littleEndian count (n / 256)

/-- The number whose bytes are given lowest first. -/
def ofLittleEndian : List UInt8 → Nat
  | [] => 0
  | byte :: bytes => byte.toNat + 256 * ofLittleEndian bytes

/-- The number whose bytes are given highest first. -/
def ofBigEndian (bytes : List UInt8) : Nat :=
  bytes.foldl (fun n byte => 256 * n + byte.toNat) 0

/-- Four bytes that spell a signature, as the word they are in memory. -/
def signature (first second third fourth : UInt8) : UInt32 :=
  UInt32.ofNat (ofLittleEndian [first, second, third, fourth])

/-- The least multiple of `unit` that is not below `n`. -/
def roundUp (n unit : Nat) : Nat :=
  (n + (unit - 1)) / unit * unit

end PlatformFirmware
