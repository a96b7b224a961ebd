import Mathlib.Data.List.Find
import PlatformFirmware.PlatformInfo
import PlatformFirmware.Proofs.Effects

namespace PlatformFirmware

namespace DeviceTree

section

variable {tree : DeviceTree} {segment name stream s₁ content : List UInt8}
  {deeper : List (List UInt8)} {inside : s₁.length < stream.length}

theorem searchNode_last (named : zeroTerminated? s₁ = some name) (text : isText name = true)
    (wanted : isNamed segment name = true)
    (follows : skipAligned (name.length + 1) s₁ = content) :
    ∃ rest, tree.searchNode segment [] stream ⟨s₁, inside⟩ = .ok (some content, rest) := by
  subst follows
  rw [searchNode, named]
  simp only [text, wanted, Bool.not_true, Bool.false_eq_true, if_false]
  exact ⟨_, rfl⟩

theorem searchNodes_first {after rest : Shorter stream}
    (begun : takeWord? stream = some (1, after))
    (found : tree.searchNode segment deeper stream after = .ok (some content, rest)) :
    ∃ rest, tree.searchNodes segment deeper stream = .ok (some content, rest) := by
  rw [searchNodes]
  split
  next _ same =>
    cases begun.symm.trans same
    rw [found]
    exact ⟨_, rfl⟩
  next other => exact absurd begun (other _)

/-- A path leads through a node without properties of its own. -/
theorem searchNode_through {next inner : List UInt8} {rest : NotLonger inner}
    (named : zeroTerminated? s₁ = some name) (text : isText name = true)
    (wanted : isNamed segment name = true) (further : next ≠ [])
    (follows : skipPadding (skipAligned (name.length + 1) s₁) = inner)
    (bare : word? inner ≠ some propertyToken)
    (found : tree.searchNodes next deeper inner = .ok (some content, rest)) :
    ∃ rest, tree.searchNode segment (next :: deeper) stream ⟨s₁, inside⟩ =
      .ok (some content, rest) := by
  subst follows
  rw [searchNode, named]
  simp only [text, wanted, Bool.not_true, Bool.false_eq_true, if_false]
  rw [skipProperties, if_neg bare]
  split
  next none => cases none
  next last =>
    cases last
    exact absurd rfl further
  next same =>
    cases same
    simp only [pure_bind, found]
    exact ⟨_, rfl⟩

theorem search_of_root {path nodes root : List UInt8} {after rest : Shorter root}
    (whole : tree.nodes? = some nodes) (padded : skipPadding nodes = root)
    (parts : pathSegments path = (segment, deeper)) (begun : takeWord? root = some (1, after))
    (found : tree.searchNode segment deeper root after = .ok (some content, rest)) :
    tree.search path = .ok (some content) := by
  subst padded
  unfold search
  rw [whole, parts]
  dsimp only
  split
  next _ same =>
    cases begun.symm.trans same
    rw [found]
    rfl
  next other => exact absurd begun (other _)

end

/-- What a property of a node tells, as a number of `size` bytes. -/
def Tells (tree : DeviceTree) (content : List UInt8) (name : String) (size number : Nat) : Prop :=
  ∃ value, tree.property? name.toUTF8.toList content = .ok (some value) ∧
    size ≤ value.length ∧ ofBigEndian (value.take size) = number

end DeviceTree

namespace PlatformInfo

open DeviceTree

theorem readNumber_of_tells {tree : DeviceTree} {content : List UInt8} {name : String}
    {size number : Nat} (tells : tree.Tells content name size number) (log : List LogRecord) :
    readNumber tree content name size log = (.ok number, log) := by
  obtain ⟨value, has, long, rfl⟩ := tells
  unfold readNumber
  rw [has, bind_state]
  exact congrFun (if_neg (Nat.not_lt.mpr long)) log

/-- The information is read off a tree whose node for it has all five properties. -/
theorem ofTree_of_tells {bytes content : List UInt8} {tree : DeviceTree}
    {localMemory remoteMemory remoteChips mode sccConfig : Nat}
    (parsed : ofBytes bytes = .ok tree)
    (found : tree.node? "/platform-info" = .ok (some content))
    (tellsLocal : tree.Tells content "local-ddr-size" 8 localMemory)
    (tellsRemote : tree.Tells content "remote-ddr-size" 8 remoteMemory)
    (tellsChips : tree.Tells content "remote-chip-count" 4 remoteChips)
    (tellsMode : tree.Tells content "multichip-mode" 4 mode)
    (tellsScc : tree.Tells content "scc-config" 4 sccConfig) (log : List LogRecord) :
    (ofTree bytes log).1 =
      .ok ⟨.ofNat localMemory, .ofNat remoteMemory, .ofNat remoteChips, .ofNat mode,
        .ofNat sccConfig⟩ := by
  unfold ofTree
  rw [parsed]
  dsimp only
  rw [found, bind_state]
  change ((readNumber tree content "local-ddr-size" 8 >>= _) log).1 = _
  rw [bind_state, readNumber_of_tells tellsLocal]
  dsimp only
  rw [bind_state, readNumber_of_tells tellsRemote]
  dsimp only
  rw [bind_state, readNumber_of_tells tellsChips]
  dsimp only
  rw [bind_state, readNumber_of_tells tellsMode]
  dsimp only
  rw [bind_state, readNumber_of_tells tellsScc]
  rfl

/-- A word of a tree, highest byte first. -/
def word (n : Nat) : List UInt8 := (littleEndian 4 n).reverse

/-- A property whose value fills whole words. -/
def propertyBytes (offset : Nat) (value : List UInt8) : List UInt8 :=
  word propertyToken ++ word value.length ++ word offset ++ value

def sampleNames : List UInt8 :=
  ["local-ddr-size", "remote-ddr-size", "remote-chip-count", "multichip-mode",
    "scc-config"].flatMap fun name => name.toUTF8.toList ++ [0]

def sampleContent : List UInt8 :=
  propertyBytes 0 (word 0 ++ word 0xC0000000) ++ propertyBytes 15 (word 0 ++ word 0) ++
    propertyBytes 31 (word 0) ++ propertyBytes 49 (word 0) ++ propertyBytes 64 (word 0) ++
    word nodeEnd ++ word nodeEnd ++ word 9

def sampleNodes : List UInt8 :=
  word nodeBegin ++ word 0 ++ word nodeBegin ++
    "platform-info".toUTF8.toList ++ [0, 0, 0] ++ sampleContent

/-- The tree of a chip with 3 GiB of memory of its own. -/
def sampleTree : List UInt8 :=
  word magic ++ word 243 ++ word 40 ++ word 168 ++ word 0 ++ word 17 ++ word 16 ++
    word 0 ++ word 75 ++ word 128 ++ sampleNodes ++ sampleNames

def sampleParsed : DeviceTree := ⟨sampleTree, 40, 128, 168, 75⟩

theorem sampleTree_parsed : ofBytes sampleTree = .ok sampleParsed := by
  have long : ¬sampleTree.length < headerLength := by decide +kernel
  have marked : ¬ofBigEndian ((sampleTree.drop (4 * 0)).take 4) ≠ magic := by
    decide +kernel
  have whole : ¬sampleTree.length < ofBigEndian ((sampleTree.drop (4 * 1)).take 4) := by
    decide +kernel
  have nodes : ofBigEndian ((sampleTree.drop (4 * 2)).take 4) = 40 := by decide +kernel
  have names : ofBigEndian ((sampleTree.drop (4 * 3)).take 4) = 168 := by decide +kernel
  have namesSize : ofBigEndian ((sampleTree.drop (4 * 8)).take 4) = 75 := by decide +kernel
  have nodesSize : ofBigEndian ((sampleTree.drop (4 * 9)).take 4) = 128 := by decide +kernel
  unfold ofBytes
  dsimp only
  rw [if_neg long, if_neg marked, if_neg whole, nodes, names, namesSize, nodesSize]
  rfl

theorem sampleParsed_found :
    sampleParsed.node? "/platform-info" = .ok (some sampleContent) := by
  have whole : sampleParsed.nodes? = some sampleNodes := by decide +kernel
  have padded : skipPadding sampleNodes = sampleNodes := by decide +kernel
  have parts : pathSegments "/platform-info".toUTF8.toList =
      ([], ["platform-info".toUTF8.toList]) := by decide +kernel
  have outside : (sampleNodes.drop 4).length < sampleNodes.length := by decide +kernel
  have begun : takeWord? sampleNodes = some (1, ⟨sampleNodes.drop 4, outside⟩) := by
    decide +kernel +revert
  have inside : (sampleNodes.drop 12).length < (sampleNodes.drop 8).length := by decide +kernel
  have inner : takeWord? (sampleNodes.drop 8) = some (1, ⟨sampleNodes.drop 12, inside⟩) := by
    decide +kernel +revert
  have unnamed : zeroTerminated? (sampleNodes.drop 4) = some [] := by decide +kernel
  have named : zeroTerminated? (sampleNodes.drop 12) = some "platform-info".toUTF8.toList := by
    decide +kernel
  obtain ⟨_, child⟩ : ∃ rest, sampleParsed.searchNode "platform-info".toUTF8.toList []
      (sampleNodes.drop 8) ⟨sampleNodes.drop 12, inside⟩ = .ok (some sampleContent, rest) :=
    searchNode_last named (by decide +kernel) (by decide +kernel) (by decide +kernel)
  obtain ⟨_, children⟩ := searchNodes_first inner child
  obtain ⟨_, root⟩ : ∃ rest, sampleParsed.searchNode [] ["platform-info".toUTF8.toList]
      sampleNodes ⟨sampleNodes.drop 4, outside⟩ = .ok (some sampleContent, rest) :=
    searchNode_through unnamed (by decide +kernel) (by decide +kernel) (by decide +kernel)
      (by decide +kernel) (by decide +kernel) children
  rw [node?, resolve, search_of_root whole padded parts begun root]
  rfl

end PlatformInfo

end PlatformFirmware
