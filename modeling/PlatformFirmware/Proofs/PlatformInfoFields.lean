import Mathlib.Data.List.Induction
import Mathlib.Data.Nat.Digits.Defs
import PlatformFirmware.Proofs.PlatformInfoTree

namespace PlatformFirmware

/-- The number that has some bytes as its digits, the lowest first. -/
def lowestFirst (bytes : List UInt8) : Nat :=
  Nat.ofDigits 256 (bytes.map UInt8.toNat)

def highestFirst (bytes : List UInt8) : Nat :=
  lowestFirst bytes.reverse

theorem lowestFirst_lt (bytes : List UInt8) : lowestFirst bytes < 256 ^ bytes.length := by
  have digits : ∀ digit ∈ bytes.map UInt8.toNat, digit < 256 := by
    intro digit member
    obtain ⟨byte, -, rfl⟩ := List.mem_map.mp member
    exact byte.toNat_lt
  have below := Nat.ofDigits_lt_base_pow_length (by decide) digits
  rwa [List.length_map] at below

theorem highestFirst_lt (bytes : List UInt8) : highestFirst bytes < 256 ^ bytes.length := by
  have below := lowestFirst_lt bytes.reverse
  rwa [List.length_reverse] at below

theorem lowestFirst_cons (byte : UInt8) (bytes : List UInt8) :
    lowestFirst (byte :: bytes) = byte.toNat + 256 * lowestFirst bytes := by
  rw [lowestFirst, List.map_cons, Nat.ofDigits_cons]
  rfl

theorem ofBigEndian_eq (bytes : List UInt8) : ofBigEndian bytes = highestFirst bytes := by
  induction bytes using List.reverseRecOn with
  | nil => rfl
  | append_singleton bytes byte ih =>
    have last : highestFirst (bytes ++ [byte]) = byte.toNat + 256 * highestFirst bytes := by
      rw [highestFirst, List.reverse_concat, lowestFirst_cons]
      rfl
    rw [ofBigEndian, List.foldl_append, last, ← ih, Nat.add_comm]
    rfl

/-- A property has at least `size` bytes, of which the first are these. -/
def DeviceTree.Begins (tree : DeviceTree) (content : List UInt8) (name : String) (size : Nat)
    (front : List UInt8) : Prop :=
  ∃ value, tree.property? name.toUTF8.toList content = .ok (some value) ∧
    size ≤ value.length ∧ value.take size = front

namespace DeviceTree

variable {tree : DeviceTree} {content front : List UInt8} {name : String} {size : Nat}

theorem Begins.length (begins : tree.Begins content name size front) : front.length = size := by
  obtain ⟨value, -, long, rfl⟩ := begins
  exact List.length_take_of_le long

theorem Begins.tells (begins : tree.Begins content name size front) :
    tree.Tells content name size (highestFirst front) := by
  obtain ⟨value, has, long, rfl⟩ := begins
  exact ⟨value, has, long, ofBigEndian_eq _⟩

end DeviceTree

namespace PlatformInfo

open DeviceTree

/-- The bytes in front of the five properties. -/
structure Fronts where
  localMemory : List UInt8
  remoteMemory : List UInt8
  remoteChips : List UInt8
  mode : List UInt8
  sccConfig : List UInt8

/-- A device tree has a node for the information, with these bytes in front of its properties.
Nothing is said of other nodes, of other properties, and of what follows in the same property. -/
def Supplies (bytes : List UInt8) (fronts : Fronts) : Prop :=
  ∃ tree content, ofBytes bytes = .ok tree ∧
    tree.node? "/platform-info" = .ok (some content) ∧
    tree.Begins content "local-ddr-size" 8 fronts.localMemory ∧
    tree.Begins content "remote-ddr-size" 8 fronts.remoteMemory ∧
    tree.Begins content "remote-chip-count" 4 fronts.remoteChips ∧
    tree.Begins content "multichip-mode" 4 fronts.mode ∧
    tree.Begins content "scc-config" 4 fronts.sccConfig

def propertyNames : List String :=
  ["local-ddr-size", "remote-ddr-size", "remote-chip-count", "multichip-mode", "scc-config"]

/-- Looking for the node in a tree, or for one of its properties, breaks off. -/
def SearchHalts (bytes : List UInt8) (cause : HaltCause) : Prop :=
  ∃ tree, ofBytes bytes = .ok tree ∧
    (tree.node? "/platform-info" = .error cause ∨
      ∃ content, tree.node? "/platform-info" = .ok (some content) ∧
        ∃ name ∈ propertyNames, tree.property? name.toUTF8.toList content = .error cause)

/-- The fields of the information are the numbers that the properties begin with. Of the two that
are kept in a byte, the low byte counts. -/
structure Reads (info : PlatformInfo) (fronts : Fronts) : Prop where
  localMemory : info.localMemory.toNat = highestFirst fronts.localMemory
  remoteMemory : info.remoteMemory.toNat = highestFirst fronts.remoteMemory
  remoteChips : info.remoteChips.toNat = highestFirst fronts.remoteChips % 256
  mode : info.mode.toNat = highestFirst fronts.mode % 256
  sccConfig : info.sccConfig.toNat = highestFirst fronts.sccConfig

def Fronts.info (fronts : Fronts) : PlatformInfo :=
  ⟨.ofNat (highestFirst fronts.localMemory), .ofNat (highestFirst fronts.remoteMemory),
    .ofNat (highestFirst fronts.remoteChips), .ofNat (highestFirst fronts.mode),
    .ofNat (highestFirst fronts.sccConfig)⟩

/-- A refusal of the information, or a halt for a reason that is allowed. -/
def Stops (allowed : HaltCause → Prop) (fault : Fault) : Prop :=
  fault = .refused .invalidParameter ∨ ∃ cause, fault = .halted cause ∧ allowed cause

theorem complain_ends {α : Type} {returned : α → Prop} {failed : Fault → Prop} (message : String)
    (refused : failed (.refused .invalidParameter)) :
    Ends (complain message : LogM α) returned failed :=
  fun _ => refused

theorem readNumber_ends {tree : DeviceTree} {content : List UInt8} {name : String} {size : Nat}
    {allowed : HaltCause → Prop}
    (halts : ∀ cause, tree.property? name.toUTF8.toList content = .error cause → allowed cause) :
    Ends (readNumber tree content name size)
      (fun _ => ∃ front, tree.Begins content name size front) (Stops allowed) := by
  unfold readNumber
  cases has : tree.property? name.toUTF8.toList content with
  | error cause => exact fun _ => .inr ⟨cause, rfl, halts cause has⟩
  | ok found =>
    cases found with
    | none => exact complain_ends _ (.inl rfl)
    | some value =>
      change Ends (if value.length < size then _ else _) _ _
      split
      next short => exact complain_ends _ (.inl rfl)
      next long => exact fun _ => ⟨_, value, has, Nat.le_of_not_lt long, rfl⟩

theorem ofTree_ends (bytes : List UInt8) :
    Ends (ofTree bytes) (fun _ => ∃ fronts, Supplies bytes fronts) (Stops (SearchHalts bytes)) := by
  unfold ofTree
  cases parsed : ofBytes bytes with
  | error reason => exact complain_ends _ (.inl rfl)
  | ok tree =>
    dsimp only
    cases found : tree.node? "/platform-info" with
    | error cause => exact fun _ => .inr ⟨cause, rfl, tree, parsed, .inl found⟩
    | ok node =>
      cases node with
      | none => exact complain_ends _ (.inl rfl)
      | some content =>
        have read (name : String) (size : Nat) (known : name ∈ propertyNames) :
            Ends (readNumber tree content name size)
              (fun _ => ∃ front, tree.Begins content name size front)
              (Stops (SearchHalts bytes)) :=
          readNumber_ends fun _ broken => ⟨tree, parsed, .inr ⟨content, found, name, known, broken⟩⟩
        change Ends (readNumber tree content "local-ddr-size" 8 >>= _) _ _
        refine (read _ _ (by decide)).bind fun _ ⟨localMemory, hasLocal⟩ => ?_
        refine (read _ _ (by decide)).bind fun _ ⟨remoteMemory, hasRemote⟩ => ?_
        refine (read _ _ (by decide)).bind fun _ ⟨remoteChips, hasChips⟩ => ?_
        refine (read _ _ (by decide)).bind fun _ ⟨mode, hasMode⟩ => ?_
        refine (read _ _ (by decide)).bind fun _ ⟨sccConfig, hasScc⟩ _ => ?_
        exact ⟨⟨localMemory, remoteMemory, remoteChips, mode, sccConfig⟩, tree, content, parsed,
          found, hasLocal, hasRemote, hasChips, hasMode, hasScc⟩

theorem locate_refuses (located : Except EfiError (List UInt8)) :
    RefusesOnly (locate located) .invalidParameter := by
  intro log other refused
  cases located with
  | error reason =>
    cases refused
    rfl
  | ok bytes =>
    rcases (ofTree_ends bytes).of_error refused with same | ⟨_, halted, -⟩
    · cases same
      rfl
    · cases halted

variable {bytes : List UInt8} {fronts : Fronts}

theorem Supplies.obtained (supplies : Supplies bytes fronts) (log : List LogRecord) :
    (ofTree bytes log).1 = .ok fronts.info := by
  obtain ⟨tree, content, parsed, found, hasLocal, hasRemote, hasChips, hasMode, hasScc⟩ := supplies
  exact ofTree_of_tells parsed found hasLocal.tells hasRemote.tells hasChips.tells hasMode.tells
    hasScc.tells log

/-- The bytes in front are as many as the fields have, so nothing of their number is lost. -/
theorem Supplies.reads (supplies : Supplies bytes fronts) : Reads fronts.info fronts := by
  obtain ⟨tree, content, -, -, hasLocal, hasRemote, -, -, hasScc⟩ := supplies
  have localFits := highestFirst_lt fronts.localMemory
  have remoteFits := highestFirst_lt fronts.remoteMemory
  have sccFits := highestFirst_lt fronts.sccConfig
  rw [hasLocal.length] at localFits
  rw [hasRemote.length] at remoteFits
  rw [hasScc.length] at sccFits
  exact ⟨UInt64.toNat_ofNat_of_lt' localFits, UInt64.toNat_ofNat_of_lt' remoteFits,
    UInt8.toNat_ofNat', UInt8.toNat_ofNat', UInt32.toNat_ofNat_of_lt' sccFits⟩

def sampleFronts : Fronts :=
  ⟨word 0 ++ word 0xC0000000, word 0 ++ word 0, word 0, word 0, word 0⟩

theorem sampleTree_supplies : Supplies sampleTree sampleFronts :=
  ⟨sampleParsed, sampleContent, sampleTree_parsed, sampleParsed_found,
    ⟨word 0 ++ word 0xC0000000, by decide +kernel, by decide, rfl⟩,
    ⟨word 0 ++ word 0, by decide +kernel, by decide, rfl⟩,
    ⟨word 0, by decide +kernel, by decide, rfl⟩, ⟨word 0, by decide +kernel, by decide, rfl⟩,
    ⟨word 0, by decide +kernel, by decide, rfl⟩⟩

theorem locate_sample (log : List LogRecord) :
    (locate (.ok sampleTree) log).1 = .ok ⟨0xC0000000, 0, 0, 0, 0⟩ := by
  have info : sampleFronts.info = ⟨0xC0000000, 0, 0, 0, 0⟩ := by decide
  exact info ▸ sampleTree_supplies.obtained log

end PlatformInfo

end PlatformFirmware
