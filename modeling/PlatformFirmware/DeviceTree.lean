import PlatformFirmware.ByteOrder
import PlatformFirmware.EfiStatus

namespace PlatformFirmware

/-- Why bytes are no device tree at all. -/
inductive TreeRefusal
  | bufferTooSmall
  | badMagic
  deriving DecidableEq

def TreeRefusal.name : TreeRefusal → String
  | bufferTooSmall => "BufferTooSmall"
  | badMagic => "BadMagic"

/-- A flattened device tree, of which only the header is known to be sound. -/
structure DeviceTree where
  bytes : List UInt8
  /-- Where the nodes are. -/
  nodesOffset : Nat
  nodesSize : Nat
  /-- Where the names of the properties are. -/
  namesOffset : Nat
  namesSize : Nat

/-- A part of a stream that is left after something was read. -/
abbrev Shorter (stream : List UInt8) := { rest : List UInt8 // rest.length < stream.length }

/-- A part of a stream that is left after something may have been read. -/
abbrev NotLonger (stream : List UInt8) := { rest : List UInt8 // rest.length ≤ stream.length }

structure TreeProperty where
  name : List UInt8
  value : List UInt8

namespace DeviceTree

def magic : Nat := 0xD00DFEED

/-- Ten words, of which six matter here. -/
def headerLength : Nat := 40

/-- The tokens of the nodes. -/
def nodeBegin : Nat := 1
def nodeEnd : Nat := 2
def propertyToken : Nat := 3
def padding : Nat := 4

/-- Reading a tree that breaks off, or is not built as one, comes to a halt. -/
def broken {α : Type} : Except HaltCause α :=
  .error .malformedTree

/-- The next word, highest byte first, and what follows it. -/
def takeWord? : (stream : List UInt8) → Option (Nat × Shorter stream)
  | a :: b :: c :: d :: rest =>
    some (ofBigEndian [a, b, c, d], ⟨rest, by simp only [List.length_cons]; omega⟩)
  | _ => none

def word? (stream : List UInt8) : Option Nat :=
  (takeWord? stream).map Prod.fst

/-- What follows the padding at the front of a stream. -/
def skipPadding : List UInt8 → List UInt8
  | a :: b :: c :: d :: rest =>
    if ofBigEndian [a, b, c, d] = padding then skipPadding rest else a :: b :: c :: d :: rest
  | stream => stream

/-- What follows `count` bytes and the filling up to the next word. -/
def skipAligned (count : Nat) (stream : List UInt8) : List UInt8 :=
  stream.drop (roundUp count 4)

theorem skipPadding_length_le (stream : List UInt8) :
    (skipPadding stream).length ≤ stream.length := by
  fun_induction skipPadding stream with
  | case1 a b c d rest padded ih =>
    simp only [List.length_cons]
    omega
  | case2 => exact Nat.le_refl _
  | case3 => exact Nat.le_refl _

theorem skipAligned_length_le (count : Nat) (stream : List UInt8) :
    (skipAligned count stream).length ≤ stream.length := by
  simp [skipAligned]

/-- The bytes before the first zero, if there is one. -/
def zeroTerminated? (stream : List UInt8) : Option (List UInt8) :=
  if stream.contains 0 then some (stream.takeWhile fun byte => byte != 0) else none

/-- Whether bytes encode a text. -/
def isText (bytes : List UInt8) : Bool :=
  ByteArray.validateUTF8 ⟨bytes.toArray⟩

/-- A range of bytes, if all of it is there. -/
def range? (bytes : List UInt8) (offset size : Nat) : Option (List UInt8) :=
  if offset + size ≤ bytes.length then some ((bytes.drop offset).take size) else none

def ofBytes (bytes : List UInt8) : Except TreeRefusal DeviceTree :=
  let header (i : Nat) : Nat := ofBigEndian ((bytes.drop (4 * i)).take 4)
  if bytes.length < headerLength then .error .bufferTooSmall
  else if header 0 ≠ magic then .error .badMagic
  else if bytes.length < header 1 then .error .bufferTooSmall
  else .ok ⟨bytes, header 2, header 9, header 3, header 8⟩

def nodes? (tree : DeviceTree) : Option (List UInt8) :=
  range? tree.bytes tree.nodesOffset tree.nodesSize

def names? (tree : DeviceTree) : Option (List UInt8) :=
  range? tree.bytes tree.namesOffset tree.namesSize

/-- The text at an offset among the names. -/
def nameAt (tree : DeviceTree) (offset : Nat) : Except HaltCause (List UInt8) := do
  let some names := tree.names? | .error .outOfRange
  let some name := zeroTerminated? (names.drop offset) | broken
  if isText name then return name else broken

/-- A property: its token, the length of its value, where its name is, and the value. -/
def takeProperty (tree : DeviceTree) (stream : List UInt8) :
    Except HaltCause (TreeProperty × Shorter stream) := do
  let some (token, ⟨s₁, h₁⟩) := takeWord? stream | broken
  let some (length, ⟨s₂, h₂⟩) := takeWord? s₁ | broken
  let some (offset, ⟨s₃, h₃⟩) := takeWord? s₂ | broken
  let name ← tree.nameAt offset
  if token = propertyToken ∧ length ≤ s₃.length then
    have h₄ := skipAligned_length_le length s₃
    return (⟨name, s₃.take length⟩, ⟨skipAligned length s₃, by omega⟩)
  else broken

def skipProperties (tree : DeviceTree) (stream : List UInt8) :
    Except HaltCause (NotLonger stream) :=
  if word? stream = some propertyToken then do
    let (_, ⟨s₁, h₁⟩) ← tree.takeProperty stream
    let ⟨s₂, h₂⟩ ← tree.skipProperties s₁
    return ⟨s₂, by omega⟩
  else return ⟨stream, Nat.le_refl _⟩
termination_by stream.length

mutual

/-- A node is skipped only if it is whole: name, properties, inner nodes and end. -/
def skipNode (tree : DeviceTree) (stream : List UInt8) : Except HaltCause (Shorter stream) := do
  let some (begin, ⟨s₁, h₁⟩) := takeWord? stream | broken
  let some name := zeroTerminated? s₁ | broken
  have h₂ := skipAligned_length_le (name.length + 1) s₁
  let ⟨s₃, h₃⟩ ← tree.skipProperties (skipAligned (name.length + 1) s₁)
  let ⟨s₄, h₄⟩ ← tree.skipNodes s₃
  have h₅ := skipPadding_length_le s₄
  let some (last, ⟨s₆, h₆⟩) := takeWord? (skipPadding s₄) | broken
  if begin = nodeBegin ∧ isText name ∧ last = nodeEnd then
    return ⟨s₆, by omega⟩
  else broken
termination_by (stream.length, 0)

def skipNodes (tree : DeviceTree) (stream : List UInt8) : Except HaltCause (NotLonger stream) :=
  if word? stream = some nodeBegin then do
    let ⟨s₁, h₁⟩ ← tree.skipNode stream
    let ⟨s₂, h₂⟩ ← tree.skipNodes s₁
    return ⟨s₂, by omega⟩
  else return ⟨stream, Nat.le_refl _⟩
termination_by (stream.length, 1)

end

/-- Splits a path at its slashes. -/
def pathSegments : List UInt8 → List UInt8 × List (List UInt8)
  | [] => ([], [])
  | byte :: bytes =>
    let (first, others) := pathSegments bytes
    if byte = '/'.toUInt8 then ([], first :: others) else (byte :: first, others)

/-- Whether a path segment means a node: by its whole name, or by the name before the address. -/
def isNamed (segment name : List UInt8) : Bool :=
  let sign := '@'.toUInt8
  if segment.contains sign then name == segment
  else (name.takeWhile fun byte => byte != sign) == segment

mutual

/-- Follows a path into the node that begins `stream`, of which `s₁` is what follows its token.

Answers the content of the node that the path leads to. -/
def searchNode (tree : DeviceTree) (segment : List UInt8) (deeper : List (List UInt8))
    (stream : List UInt8) :
    Shorter stream → Except HaltCause (Option (List UInt8) × Shorter stream)
  | ⟨s₁, h₁⟩ => do
    let some name := zeroTerminated? s₁ | broken
    if !isText name then
      return (none, ⟨s₁, h₁⟩)
    let s₂ := skipAligned (name.length + 1) s₁
    have h₂ : s₂.length < stream.length :=
      Nat.lt_of_le_of_lt (skipAligned_length_le (name.length + 1) s₁) h₁
    if !isNamed segment name then
      return (none, ← tree.skipNode stream)
    match deeper with
    | [] | [[]] => return (some s₂, ⟨s₂, h₂⟩)
    | segment :: deeper =>
      have h₃ := skipPadding_length_le s₂
      let ⟨s₄, h₄⟩ ← tree.skipProperties (skipPadding s₂)
      let (found, ⟨s₅, h₅⟩) ← tree.searchNodes segment deeper s₄
      if found.isSome then
        return (found, ⟨s₅, by omega⟩)
      have h₆ := skipPadding_length_le s₅
      match takeWord? (skipPadding s₅) with
      | some (_, ⟨s₇, h₇⟩) => return (none, ⟨s₇, by omega⟩)
      | none => return (none, ⟨skipPadding s₅, by omega⟩)
termination_by (stream.length, 0)

/-- Follows a path into the first of the nodes in front of a stream that it leads into. -/
def searchNodes (tree : DeviceTree) (segment : List UInt8) (deeper : List (List UInt8))
    (stream : List UInt8) : Except HaltCause (Option (List UInt8) × NotLonger stream) :=
  match takeWord? stream with
  | some (1, s₁) => do
    let (found, ⟨s₂, h₂⟩) ← tree.searchNode segment deeper stream s₁
    if found.isSome then
      return (found, ⟨s₂, by omega⟩)
    let (found, ⟨s₃, h₃⟩) ← tree.searchNodes segment deeper s₂
    return (found, ⟨s₃, by omega⟩)
  | _ => return (none, ⟨stream, Nat.le_refl _⟩)
termination_by (stream.length, 1)

end

/-- The content of the node that a path leads to from the root, aliases aside. -/
def search (tree : DeviceTree) (path : List UInt8) : Except HaltCause (Option (List UInt8)) := do
  let some nodes := tree.nodes? | .error .outOfRange
  let (segment, deeper) := pathSegments path
  let root := skipPadding nodes
  match takeWord? root with
  | some (1, s₁) => return (← tree.searchNode segment deeper root s₁).1
  | _ => return none

/-- The value of the first property of a node that has a name. -/
def property? (tree : DeviceTree) (name : List UInt8) (content : List UInt8) :
    Except HaltCause (Option (List UInt8)) :=
  have _ := skipPadding_length_le content
  if word? (skipPadding content) = some propertyToken then do
    let (property, ⟨rest, _⟩) ← tree.takeProperty (skipPadding content)
    if property.name = name then
      return some property.value
    tree.property? name rest
  else return none
termination_by content.length

/-- Drops the zeros at the end. -/
def trimZeros (bytes : List UInt8) : List UInt8 :=
  (bytes.reverse.dropWhile fun byte => byte == 0).reverse

/-- The content of the node that a path leads to, or that an alias of the path leads to.

A chain of aliases with more links than the tree has bytes goes round in a circle. -/
def resolve (tree : DeviceTree) : Nat → List UInt8 → Except HaltCause (Option (List UInt8))
  | 0, _ => broken
  | links + 1, path => do
    if let some content ← tree.search path then
      return some content
    let some aliases ← tree.search "/aliases".toUTF8.toList | return none
    let some target ← tree.property? path aliases | return none
    if isText target then tree.resolve links (trimZeros target) else return none

def node? (tree : DeviceTree) (path : String) : Except HaltCause (Option (List UInt8)) :=
  tree.resolve (tree.bytes.length + 1) path.toUTF8.toList

end DeviceTree

end PlatformFirmware
