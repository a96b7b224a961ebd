import PlatformFirmware.Proofs.ChassisWire

namespace PlatformFirmware

/-- Some bytes of a buffer from a place on, if the buffer reaches that far. -/
def bytesAt? (buffer : List UInt8) (start count : Nat) : Option (List UInt8) :=
  if start + count ≤ buffer.length then some ((buffer.drop start).take count) else none

theorem bytesAt?_rest {buffer : List UInt8} {start : Nat} (inside : start ≤ buffer.length) :
    bytesAt? buffer start (buffer.length - start) = some (buffer.drop start) := by
  rw [bytesAt?, if_pos (by omega), ← List.length_drop, List.take_length]

namespace ChassisCommand

theorem bytesAt?_map_range (byte : Nat → UInt8) {start count size : Nat}
    (inside : start + count ≤ size) :
    bytesAt? ((List.range size).map byte) start count =
      some ((List.range count).map fun i => byte (start + i)) := by
  rw [bytesAt?, List.length_map, List.length_range, if_pos inside, take_drop_map_range byte inside]

/-- A boot option is read without going past the end of the response or of the caller's buffer,
however many bytes the transport says are there. The buffer takes the data behind the header, at
most as much as it has room for, and is the same from there on; it is all the same if the transport
fails. -/
theorem boot_option_read_back (transport : ChassisTransport) (selector set block : UInt8)
    (buffer : List UInt8) (trace : ChassisTrace) :
    let submission : ChassisSubmission :=
      ⟨0x00, 0x09, [selector, set, block], List.replicate (3 + buffer.length) 0⟩
    let reply := transport submission
    let response := storeFront submission.response reply.stored
    let ran := loadBootOption transport selector set block buffer trace
    (∀ reason, reply.written = .error reason → ran.1 = (.error reason, buffer)) ∧
    ∀ written, reply.written = .ok written →
      let received := min (written - 3) buffer.length
      ∃ code version validity data rest,
        bytesAt? response 0 3 = some [code, version, validity] ∧
        bytesAt? response 3 received = some data ∧ data.length = received ∧
        bytesAt? buffer received (buffer.length - received) = some rest ∧
        ran.1 = (.ok (⟨⟨code⟩, version, validity⟩, received), data ++ rest) := by
  intro submission reply response ran
  refine ⟨fun reason failed => ?_, fun written answered => ?_⟩
  · have ended : ran = _ := loadBootOption_failed failed trace
    rw [ended]
  · intro received
    have ended : ran = _ := loadBootOption_received answered trace
    have stored : response = (List.range (3 + buffer.length)).map reply.byte :=
      storeFront_zeros _ reply
    have room : received ≤ buffer.length := Nat.min_le_right _ _
    refine ⟨reply.byte 0, reply.byte 1, reply.byte 2,
      (List.range received).map fun i => reply.byte (3 + i), buffer.drop received,
      ?_, ?_, ?_, bytesAt?_rest room, ?_⟩
    · rw [stored, bytesAt?_map_range reply.byte (by omega)]
      rfl
    · rw [stored, bytesAt?_map_range reply.byte (Nat.add_le_add_left room 3)]
    · rw [List.length_map, List.length_range]
    · rw [ended]
      rfl

/-- The transport stores two bytes and says that there are a hundred: the header and the data end
with zeros, and the buffer is full. -/
example :
    (loadBootOption (fun _ => ⟨[0x00, 0x01], .ok 100⟩) 5 0 0 [0xEE, 0xEE] {}).1 =
      (.ok (⟨⟨0x00⟩, 0x01, 0x00⟩, 2), [0x00, 0x00]) := rfl

end ChassisCommand

end PlatformFirmware
