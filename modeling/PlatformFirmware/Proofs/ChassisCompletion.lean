import PlatformFirmware.Proofs.ChassisWire

namespace PlatformFirmware

theorem CompletionCode.isSuccess_iff {code : CompletionCode} :
    code.isSuccess = true ↔ code.value = 0x00 :=
  beq_iff_eq

/-- Nothing but success is described as normal completion. -/
theorem CompletionCode.isSuccess_iff_described {code : CompletionCode} :
    code.isSuccess = true ↔ code.description? = some "Command completed normally" := by
  rw [isSuccess_iff]
  constructor
  · intro zero
    rw [description?, zero]
    rfl
  · intro described
    obtain ⟨generic, found, text⟩ := Option.map_eq_some_iff.mp described
    have listed := List.mem_of_find?_eq_some found
    have same := List.find?_some found
    have only : ∀ generic ∈ genericCompletions,
        generic.description = "Command completed normally" → generic.value = 0x00 := by decide
    exact (beq_iff_eq.mp same).symm.trans (only generic listed text)

theorem TransportReply.byte_zero_iff (reply : TransportReply) :
    reply.byte 0 = 0x00 ↔ reply.stored.head? = some 0x00 ∨ reply.stored = [] := by
  cases stored : reply.stored with
  | nil => simp [byte, stored]
  | cons first rest => simp [byte, stored]

/-- A transport stores as many bytes as it says, and no more than the response has room for. -/
def ChassisTransport.IsHonest (transport : ChassisTransport) : Prop :=
  ∀ submission written, (transport submission).written = .ok written →
    (transport submission).stored.length = written ∧ written ≤ submission.response.length

/-- The transport that answers each command with the same bytes, cut off at the end of the
response. -/
def ChassisTransport.replying (bytes : List UInt8) : ChassisTransport := fun submission =>
  ⟨bytes.take submission.response.length, .ok (min submission.response.length bytes.length)⟩

theorem ChassisTransport.replying_isHonest (bytes : List UInt8) : (replying bytes).IsHonest := by
  intro submission written answer
  cases answer
  exact ⟨List.length_take, Nat.min_le_left _ _⟩

namespace ChassisCommand

/-- What the completion code of a call tells of the reply it is read from. It is success for a
reply that begins with zero, and also for one without any byte, but that one is logged. -/
structure Vouched (transport : ChassisTransport) (submission : ChassisSubmission)
    (expected : Nat) (before : ChassisTrace)
    (ran : Except EfiError CompletionCode × ChassisTrace) : Prop where
  sent : ran.2.submissions = before.submissions ++ [submission]
  answered : (∃ code, ran.1 = .ok code) ↔ ∃ written, (transport submission).written = .ok written
  success_iff : ∀ code, ran.1 = .ok code → (code.isSuccess = true ↔
    (transport submission).stored.head? = some 0x00 ∨ (transport submission).stored = [])
  warned : ∀ code, ran.1 = .ok code → (transport submission).stored = [] →
    ran.2.log = before.log ++ [shortWarning submission.command 0 expected]

section

variable {α : Type} {transport : ChassisTransport} {submission : ChassisSubmission} {fixed : Nat}
  {read : (Nat → UInt8) → Nat → α} {before : ChassisTrace}
  {ran : Except EfiError α × ChassisTrace} {completion : α → CompletionCode}

/-- A completion code is the first byte of a response that the transport has answered. -/
theorem Exchanges.completed (h : Exchanges transport submission fixed read before ran)
    (first : ∀ byte written, completion (read byte written) = ⟨byte 0⟩) {code : CompletionCode} :
    ran.1.map completion = .ok code ↔ ∃ written, (transport submission).written = .ok written ∧
      code = ⟨(transport submission).byte 0⟩ := by
  cases answer : (transport submission).written with
  | error reason =>
    rw [(h.failed reason answer).1]
    exact ⟨nofun, fun ⟨_, same, _⟩ => nomatch same⟩
  | ok written =>
    rw [(h.received written answer).1, Except.map, first]
    constructor
    · intro same
      exact ⟨written, rfl, (Except.ok.inj same).symm⟩
    · rintro ⟨_, -, rfl⟩
      rfl

theorem Exchanges.vouched (h : Exchanges transport submission fixed read before ran)
    (first : ∀ byte written, completion (read byte written) = ⟨byte 0⟩)
    (honest : transport.IsHonest) (pos : 0 < fixed) :
    Vouched transport submission fixed before (ran.1.map completion, ran.2) := by
  refine ⟨h.sent, ?_, fun code done => ?_, fun code done empty => ?_⟩
  · constructor
    · rintro ⟨code, done⟩
      obtain ⟨written, answer, -⟩ := (h.completed first).mp done
      exact ⟨written, answer⟩
    · rintro ⟨written, answer⟩
      exact ⟨_, (h.completed first).mpr ⟨written, answer, rfl⟩⟩
  · obtain ⟨written, -, rfl⟩ := (h.completed first).mp done
    exact CompletionCode.isSuccess_iff.trans (transport submission).byte_zero_iff
  · obtain ⟨written, answer, -⟩ := (h.completed first).mp done
    -- An honest transport owns up to having stored nothing, which is less than any command expects.
    obtain rfl : 0 = written := by
      rw [← (honest submission written answer).1, empty]
      rfl
    rw [(h.received 0 answer).2, warnings, if_pos pos]

end

theorem loadBootOption_exchanges (transport : ChassisTransport) (selector set block : UInt8)
    (buffer : List UInt8) (trace : ChassisTrace) :
    let ran := loadBootOption transport selector set block buffer trace
    Exchanges transport (bootOptionRead selector set block buffer) bootOptionHeaderLength
      (fun byte written => ((⟨⟨byte 0⟩, byte 1, byte 2⟩ : BootOptionHeader),
        min (written - bootOptionHeaderLength) buffer.length))
      trace (ran.1.1, ran.2) := by
  intro ran
  cases answer : (transport (bootOptionRead selector set block buffer)).written with
  | error reason =>
    have ended : ran = _ := loadBootOption_failed answer trace
    rw [ended]
    exact .of_error answer
  | ok written =>
    have ended : ran = _ := loadBootOption_received answer trace
    rw [ended]
    exact .of_ok answer

/-- The result of a call as its completion code. -/
def coded {α : Type} (completion : α → CompletionCode)
    (ran : Except EfiError α × ChassisTrace) : Except EfiError CompletionCode × ChassisTrace :=
  (ran.1.map completion, ran.2)

theorem exchange_vouched {α : Type} {transport : ChassisTransport} (honest : transport.IsHonest)
    (command : UInt8) (request : List UInt8) (size : Nat) (pos : 0 < size)
    {convert : List UInt8 → α} {completion : α → CompletionCode}
    (first : ∀ response, completion (convert response) = ChassisCommand.completion response)
    (trace : ChassisTrace) :
    Vouched transport ⟨netFunction, command, request, List.replicate size 0⟩ size trace
      (coded completion ((exchange transport command request size >>= fun response =>
        pure (convert response)) trace)) := by
  have read : Exchanges transport ⟨netFunction, command, request, List.replicate size 0⟩ size
      (fun byte _ => convert ((List.range size).map byte)) trace
      ((exchange transport command request size >>= fun response =>
        pure (convert response)) trace) :=
    (exchange_exchanges transport command request size trace).map fun _ _ => rfl
  exact read.vouched (fun byte _ => (first _).trans (completion_read byte pos)) honest pos

/-- Each of the six commands reports success only for a reply whose first byte is zero, or for a
reply without any byte; of the latter it warns. No other code is described as normal
completion. -/
theorem success_vouched {transport : ChassisTransport} (honest : transport.IsHonest)
    (trace : ChassisTrace) :
    let zeros (size : Nat) : List UInt8 := List.replicate size 0
    (∀ code : CompletionCode,
      code.isSuccess = true ↔ code.description? = some "Command completed normally") ∧
    Vouched transport ⟨0x00, 0x00, [], zeros 7⟩ 7 trace
      (coded ChassisCapabilities.completion (chassisCapabilities transport trace)) ∧
    Vouched transport ⟨0x00, 0x01, [], zeros 5⟩ 5 trace
      (coded ChassisStatus.completion (chassisStatus transport trace)) ∧
    (∀ action, Vouched transport ⟨0x00, 0x02, [action], zeros 1⟩ 1 trace
      (coded id (chassisControl transport action trace))) ∧
    (∀ policy, Vouched transport ⟨0x00, 0x06, [policy], zeros 2⟩ 2 trace
      (coded RestorePolicySupport.completion (restorePolicy transport policy trace))) ∧
    (∀ selector data, Vouched transport ⟨0x00, 0x08, selector :: data, zeros 1⟩ 1 trace
      (coded id (storeBootOption transport selector data trace))) ∧
    ∀ selector set block buffer,
      let ran := loadBootOption transport selector set block buffer trace
      Vouched transport ⟨0x00, 0x09, [selector, set, block], zeros (3 + buffer.length)⟩ 3 trace
        (coded (fun answer => answer.1.completion) (ran.1.1, ran.2)) := by
  intro zeros
  refine ⟨fun code => code.isSuccess_iff_described, ?_, ?_, fun action => ?_, fun policy => ?_,
    fun selector data => ?_, fun selector set block buffer => ?_⟩
  · exact exchange_vouched honest getCapabilities [] 7 (by decide) (by intro response; rfl) trace
  · exact exchange_vouched honest getStatus [] 5 (by decide) (by intro response; rfl) trace
  · exact exchange_vouched honest control [action] 1 (by decide) (by intro response; rfl) trace
  · exact exchange_vouched honest setRestorePolicy [policy] 2 (by decide)
      (by intro response; rfl) trace
  · exact exchange_vouched honest setBootOptions (selector :: data) 1 (by decide)
      (by intro response; rfl) trace
  · exact (loadBootOption_exchanges transport selector set block buffer trace).vouched
      (fun _ _ => rfl) honest (by decide)

/-- A transport that answers with nothing is honest, and yet success is reported for a hard reset
that it has not replied to. -/
theorem success_without_reply :
    let silent := ChassisTransport.replying []
    silent.IsHonest ∧ (∀ submission, (silent submission).stored = []) ∧
      ∃ code, (chassisControl silent PowerControl.hardReset.code {}).1 = .ok code ∧
        code.isSuccess = true ∧ code.description? = some "Command completed normally" :=
  ⟨ChassisTransport.replying_isHonest [], fun _ => List.take_nil, ⟨0x00⟩, rfl, rfl, rfl⟩

/-- A status that stops after its first byte has the code of that byte, which is no success. The
success of a reset without any reply comes with a warning. -/
theorem success_vouched_short :
    let busy := ChassisTransport.replying [0xC0]
    let silent := ChassisTransport.replying []
    busy.IsHonest ∧ silent.IsHonest ∧
      (∃ status, (chassisStatus busy {}).1 = .ok status ∧ ¬status.completion.isSuccess = true) ∧
      ∃ code, (chassisControl silent 0x03 {}).1 = .ok code ∧ code.isSuccess = true ∧
        (chassisControl silent 0x03 {}).2.log = [shortWarning 0x02 0 1] := by
  intro busy silent
  have stated : busy.IsHonest := ChassisTransport.replying_isHonest [0xC0]
  have stated' : silent.IsHonest := ChassisTransport.replying_isHonest []
  obtain ⟨-, -, status, -⟩ := success_vouched stated {}
  obtain ⟨-, -, -, reset, -⟩ := success_vouched stated' {}
  refine ⟨stated, stated', ⟨_, rfl, fun success => ?_⟩, ⟨_, rfl, ?_, ?_⟩⟩
  · exact absurd ((status.success_iff _ rfl).mp success) (by decide)
  · exact ((reset 0x03).success_iff _ rfl).mpr (.inr rfl)
  · exact (reset 0x03).warned _ rfl rfl

end ChassisCommand

end PlatformFirmware
