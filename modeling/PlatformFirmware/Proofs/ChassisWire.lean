import Mathlib.Data.List.GetD
import PlatformFirmware.ChassisCommand
import PlatformFirmware.Proofs.Effects

namespace PlatformFirmware

/-- A byte of the response; one that the transport does not store is zero. -/
def TransportReply.byte (reply : TransportReply) (i : Nat) : UInt8 :=
  reply.stored.getD i 0

theorem storeFront_zeros (size : Nat) (reply : TransportReply) :
    storeFront (List.replicate size 0) reply.stored = (List.range size).map reply.byte := by
  apply List.ext_getElem
  · simp only [storeFront, List.length_append, List.length_take, List.length_drop,
      List.length_replicate, List.length_map, List.length_range]
    omega
  · intro i left right
    rw [List.getElem_map, List.getElem_range, TransportReply.byte]
    simp only [storeFront, List.getElem_append, List.length_take, List.length_replicate]
    split
    next inside =>
      have stored : i < reply.stored.length := by omega
      rw [List.getElem_take, List.getD_eq_getElem _ _ stored]
    next outside =>
      have small : i < size := by simpa using right
      rw [List.getElem_drop, List.getElem_replicate, List.getD_eq_default _ _ (by omega)]

namespace ChassisCommand

def shortWarning (command : UInt8) (written expected : Nat) : LogRecord :=
  ⟨.warn, "ipmi", "Chassis command " ++ hexTextOfWidth 4 command.toNat ++ " returned " ++
    toString written ++ " bytes, expected at least " ++ toString expected ++ "."⟩

def warnings (command : UInt8) (written expected : Nat) : List LogRecord :=
  if written < expected then [shortWarning command written expected] else []

/-- What a call does with the transport: it sends one command, and reads its result from the bytes
of the response however many are said to be there. It warns of fewer than `fixed`. -/
structure Exchanges {α : Type} (transport : ChassisTransport) (submission : ChassisSubmission)
    (fixed : Nat) (read : (Nat → UInt8) → Nat → α) (before : ChassisTrace)
    (ran : Except EfiError α × ChassisTrace) : Prop where
  sent : ran.2.submissions = before.submissions ++ [submission]
  failed : ∀ reason, (transport submission).written = .error reason →
    ran.1 = .error reason ∧ ran.2.log = before.log
  received : ∀ written, (transport submission).written = .ok written →
    ran.1 = .ok (read (transport submission).byte written) ∧
      ran.2.log = before.log ++ warnings submission.command written fixed

section

variable {α : Type} {transport : ChassisTransport} {submission : ChassisSubmission} {fixed : Nat}
  {read : (Nat → UInt8) → Nat → α} {before : ChassisTrace}

theorem Exchanges.of_error {reason : EfiError}
    (answer : (transport submission).written = .error reason) :
    Exchanges transport submission fixed read before
      (.error reason, { before with submissions := before.submissions ++ [submission] }) := by
  refine ⟨rfl, fun other same => ?_, fun written same => ?_⟩
  · cases answer.symm.trans same
    exact ⟨rfl, rfl⟩
  · cases answer.symm.trans same

theorem Exchanges.of_ok {written : Nat} (answer : (transport submission).written = .ok written) :
    Exchanges transport submission fixed read before
      (.ok (read (transport submission).byte written),
        { submissions := before.submissions ++ [submission]
          log := before.log ++ warnings submission.command written fixed }) := by
  refine ⟨rfl, fun reason same => ?_, fun other same => ?_⟩
  · cases answer.symm.trans same
  · cases answer.symm.trans same
    exact ⟨rfl, rfl⟩

theorem Exchanges.map {β : Type} {action : ChassisM α} {convert : α → β}
    {converted : (Nat → UInt8) → Nat → β}
    (h : Exchanges transport submission fixed read before (action before))
    (reads : ∀ byte written, converted byte written = convert (read byte written)) :
    Exchanges transport submission fixed converted before
      ((action >>= fun value => pure (convert value)) before) := by
  rw [bind_state]
  rcases ran : action before with ⟨reason | value, trace⟩
  · rw [ran] at h
    refine ⟨h.sent, fun other answer => ?_, fun written answer => ?_⟩
    · obtain ⟨same, logged⟩ := h.failed other answer
      cases same
      exact ⟨rfl, logged⟩
    · cases (h.received written answer).1
  · rw [ran] at h
    refine ⟨h.sent, fun reason answer => ?_, fun written answer => ?_⟩
    · cases (h.failed reason answer).1
    · obtain ⟨same, logged⟩ := h.received written answer
      cases same
      exact ⟨congrArg _ (reads _ _).symm, logged⟩

end

theorem bind_apply {α β : Type} (first : ChassisAction α) (next : α → ChassisAction β)
    (trace : ChassisTrace) :
    (first >>= next) trace = next (first trace).1 (first trace).2 := rfl

theorem liftM_apply {α : Type} (action : ChassisAction α) (trace : ChassisTrace) :
    (liftM action : ChassisM α) trace = (.ok (action trace).1, (action trace).2) := rfl

theorem checkLength_apply (command : UInt8) (written expected : Nat) (trace : ChassisTrace) :
    checkLength command written expected trace =
      ((), { trace with log := trace.log ++ warnings command written expected }) := by
  unfold checkLength warnings
  split
  · rfl
  · rw [List.append_nil]
    rfl

theorem submit_apply (transport : ChassisTransport) (command : UInt8) (request : List UInt8)
    (size : Nat) (trace : ChassisTrace) :
    submit transport command request size trace =
      let submission : ChassisSubmission :=
        ⟨netFunction, command, request, List.replicate size 0⟩
      (((List.range size).map (transport submission).byte, (transport submission).written),
        { trace with submissions := trace.submissions ++ [submission] }) := by
  dsimp only
  rw [← storeFront_zeros]
  rfl

theorem exchange_exchanges (transport : ChassisTransport) (command : UInt8)
    (request : List UInt8) (size : Nat) (trace : ChassisTrace) :
    Exchanges transport ⟨netFunction, command, request, List.replicate size 0⟩ size
      (fun byte _ => (List.range size).map byte) trace
      (exchange transport command request size trace) := by
  unfold exchange
  rw [bind_state, liftM_apply, submit_apply]
  dsimp only
  cases answer : (transport ⟨netFunction, command, request, List.replicate size 0⟩).written with
  | error reason => exact .of_error answer
  | ok written =>
    change Exchanges _ _ _ _ _
      (((liftM (checkLength command written size) : ChassisM Unit) >>= fun _ => pure _) _)
    rw [bind_state, liftM_apply, checkLength_apply]
    exact .of_ok answer

/-- The caller's buffer once `count` bytes of data have come in behind the header. -/
def filled (byte : Nat → UInt8) (count : Nat) (buffer : List UInt8) : List UInt8 :=
  (List.range count).map (fun i => byte (bootOptionHeaderLength + i)) ++ buffer.drop count

theorem take_drop_map_range (byte : Nat → UInt8) {start count size : Nat}
    (inside : start + count ≤ size) :
    (((List.range size).map byte).drop start).take count =
      (List.range count).map fun i => byte (start + i) := by
  apply List.ext_getElem
  · simp only [List.length_take, List.length_drop, List.length_map, List.length_range]
    omega
  · intro i left right
    rw [List.getElem_take, List.getElem_drop, List.getElem_map, List.getElem_range,
      List.getElem_map, List.getElem_range]

theorem storeFront_filled (byte : Nat → UInt8) {count : Nat} {buffer : List UInt8}
    (fits : count ≤ buffer.length) :
    storeFront buffer
        ((((List.range (bootOptionHeaderLength + buffer.length)).map byte).drop
          bootOptionHeaderLength).take count) =
      filled byte count buffer := by
  rw [take_drop_map_range byte (Nat.add_le_add_left fits _), storeFront, List.length_map,
    List.length_range, filled,
    List.take_of_length_le (by rw [List.length_map, List.length_range]; exact fits)]

theorem getD_map_range (byte : Nat → UInt8) {i size : Nat} (inside : i < size) :
    ((List.range size).map byte).getD i 0 = byte i := by
  have listed : i < ((List.range size).map byte).length := by
    rw [List.length_map, List.length_range]
    exact inside
  rw [List.getD_eq_getElem _ _ listed, List.getElem_map, List.getElem_range]

theorem completion_read (byte : Nat → UInt8) {size : Nat} (pos : 0 < size) :
    completion ((List.range size).map byte) = ⟨byte 0⟩ :=
  congrArg CompletionCode.mk (getD_map_range byte pos)

theorem header_read (byte : Nat → UInt8) (size : Nat) :
    let response := (List.range (bootOptionHeaderLength + size)).map byte
    (⟨completion response, response.getD 1 0, response.getD 2 0⟩ : BootOptionHeader) =
      ⟨⟨byte 0⟩, byte 1, byte 2⟩ := by
  intro response
  have inside {i : Nat} (small : i < bootOptionHeaderLength) : i < bootOptionHeaderLength + size :=
    Nat.lt_add_right size small
  rw [completion_read byte (inside (by decide)), getD_map_range byte (inside (by decide)),
    getD_map_range byte (inside (by decide))]

section

variable {transport : ChassisTransport} {selector set block : UInt8} {buffer : List UInt8}

def bootOptionRead (selector set block : UInt8) (buffer : List UInt8) : ChassisSubmission :=
  ⟨netFunction, getBootOptions, [selector, set, block],
    List.replicate (bootOptionHeaderLength + buffer.length) 0⟩

theorem loadBootOption_failed {reason : EfiError}
    (answer : (transport (bootOptionRead selector set block buffer)).written = .error reason)
    (trace : ChassisTrace) :
    loadBootOption transport selector set block buffer trace =
      ((.error reason, buffer),
        { trace with
          submissions := trace.submissions ++ [bootOptionRead selector set block buffer] }) := by
  unfold bootOptionRead at *
  unfold loadBootOption
  rw [bind_apply, submit_apply]
  dsimp only
  rw [answer]
  rfl

theorem loadBootOption_received {written : Nat}
    (answer : (transport (bootOptionRead selector set block buffer)).written = .ok written)
    (trace : ChassisTrace) :
    let byte := (transport (bootOptionRead selector set block buffer)).byte
    let count := min (written - bootOptionHeaderLength) buffer.length
    loadBootOption transport selector set block buffer trace =
      ((.ok (⟨⟨byte 0⟩, byte 1, byte 2⟩, count), filled byte count buffer),
        { submissions := trace.submissions ++ [bootOptionRead selector set block buffer]
          log := trace.log ++ warnings getBootOptions written bootOptionHeaderLength }) := by
  unfold bootOptionRead at *
  intro byte count
  unfold loadBootOption
  rw [bind_apply, submit_apply]
  dsimp only
  rw [answer]
  dsimp only
  rw [bind_apply, checkLength_apply, header_read, storeFront_filled _ (Nat.min_le_right _ _)]
  rfl

end

/-- Each of the six commands is sent once, as it is documented, and its result is what the response
holds. The data of a boot option goes to the front of the caller's buffer, as much of it as is
said to be there. -/
theorem exact_on_the_wire (transport : ChassisTransport) (trace : ChassisTrace) :
    let zeros (size : Nat) : List UInt8 := List.replicate size 0
    Exchanges transport ⟨0x00, 0x00, [], zeros 7⟩ 7
        (fun byte _ => ⟨⟨byte 0⟩, byte 1, byte 2, byte 3, byte 4, byte 5, byte 6⟩) trace
        (chassisCapabilities transport trace) ∧
      Exchanges transport ⟨0x00, 0x01, [], zeros 5⟩ 5
        (fun byte _ => ⟨⟨byte 0⟩, byte 1, byte 2, byte 3, byte 4⟩) trace
        (chassisStatus transport trace) ∧
      (∀ action, Exchanges transport ⟨0x00, 0x02, [action], zeros 1⟩ 1 (fun byte _ => ⟨byte 0⟩)
        trace (chassisControl transport action trace)) ∧
      (∀ policy, Exchanges transport ⟨0x00, 0x06, [policy], zeros 2⟩ 2
        (fun byte _ => ⟨⟨byte 0⟩, byte 1⟩) trace (restorePolicy transport policy trace)) ∧
      (∀ selector data, Exchanges transport ⟨0x00, 0x08, selector :: data, zeros 1⟩ 1
        (fun byte _ => ⟨byte 0⟩) trace (storeBootOption transport selector data trace)) ∧
      ∀ selector set block buffer,
        let submission : ChassisSubmission :=
          ⟨0x00, 0x09, [selector, set, block], zeros (3 + buffer.length)⟩
        let count (written : Nat) := min (written - 3) buffer.length
        let ran := loadBootOption transport selector set block buffer trace
        Exchanges transport submission 3
            (fun byte written => (⟨⟨byte 0⟩, byte 1, byte 2⟩, count written)) trace
            (ran.1.1, ran.2) ∧
          (∀ reason, (transport submission).written = .error reason → ran.1.2 = buffer) ∧
          ∀ written, (transport submission).written = .ok written →
            ran.1.2 = (List.range (count written)).map
              (fun i => (transport submission).byte (3 + i)) ++ buffer.drop (count written) := by
  intro zeros
  refine ⟨?_, ?_, fun action => ?_, fun policy => ?_, fun selector data => ?_,
    fun selector set block buffer => ?_⟩
  · exact (exchange_exchanges transport getCapabilities [] 7 trace).map fun _ _ => rfl
  · exact (exchange_exchanges transport getStatus [] 5 trace).map fun _ _ => rfl
  · exact (exchange_exchanges transport control [action] 1 trace).map fun _ _ => rfl
  · exact (exchange_exchanges transport setRestorePolicy [policy] 2 trace).map fun _ _ => rfl
  · exact (exchange_exchanges transport setBootOptions (selector :: data) 1 trace).map
      fun _ _ => rfl
  · intro submission count ran
    cases answer : (transport submission).written with
    | error reason =>
      have ended : ran = _ := loadBootOption_failed answer trace
      rw [ended]
      refine ⟨.of_error answer, fun _ _ => rfl, fun written same => ?_⟩
      cases same
    | ok written =>
      have ended : ran = _ := loadBootOption_received answer trace
      rw [ended]
      refine ⟨.of_ok answer, fun reason same => ?_, fun other same => ?_⟩
      · cases same
      · cases same
        rfl

/-- Of a response one byte short, the last field is zero and a warning is logged; a boot option of
one byte leaves the rest of the buffer as it was. -/
theorem exact_on_the_wire_short :
    let transport : ChassisTransport := fun _ => ⟨[0xC0, 0x21, 0x10, 0x05], .ok 4⟩
    (chassisStatus transport {}).1 = .ok ⟨⟨0xC0⟩, 0x21, 0x10, 0x05, 0x00⟩ ∧
      (chassisStatus transport {}).2.log = [shortWarning 0x01 4 5] ∧
      (loadBootOption transport 0x05 0 0 [0xEE, 0xEE] {}).1.2 = [0x05, 0xEE] := by
  intro transport
  obtain ⟨-, status, -, -, -, load⟩ := exact_on_the_wire transport {}
  obtain ⟨read, logged⟩ := status.received 4 rfl
  obtain ⟨-, -, stored⟩ := load 0x05 0 0 [0xEE, 0xEE]
  exact ⟨read, logged, stored 4 rfl⟩

end ChassisCommand

end PlatformFirmware
