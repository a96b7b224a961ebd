import PlatformFirmware.TrapSession

namespace PlatformFirmware

mutual

/-- The number of steps in a step, those of its reactions included. -/
def TrapStep.weight : TrapStep → Nat
  | .register _ _ _ reactions => 1 + reactionsWeight reactions
  | .registerExtended _ reactions => 1 + reactionsWeight reactions
  | _ => 1

def stepsWeight : List TrapStep → Nat
  | [] => 0
  | step :: steps => step.weight + stepsWeight steps

def reactionsWeight : List (List TrapStep) → Nat
  | [] => 0
  | steps :: reactions => stepsWeight steps + reactionsWeight reactions

end

/-- The sum of a measure over the elements of a list. -/
def total {α : Type} (measure : α → Nat) : List α → Nat
  | [] => 0
  | element :: elements => measure element + total measure elements

theorem total_append {α : Type} (measure : α → Nat) (front back : List α) :
    total measure (front ++ back) = total measure front + total measure back := by
  induction front with
  | nil => simp [total]
  | cons element front ih =>
    simp only [List.cons_append, total, ih]
    omega

/-- The number of steps that the clients have yet to make. -/
def clientsWeight (clients : List TrapClient) : Nat :=
  total (fun client => reactionsWeight client.reactions) clients

namespace DispatchFrame

/-- The number of steps that the running callback has yet to make. -/
def weight (frame : DispatchFrame) : Nat :=
  (frame.callback.map fun callback => stepsWeight callback.2).getD 0

/-- The number of things to do before the next register, the end of the dispatch included. -/
def backlog (frame : DispatchFrame) : Nat :=
  2 * frame.pending.length + (if frame.callback.isSome then 1 else 0) + 1

end DispatchFrame

namespace TrapTurn

/-- Steps to make, registers to look at, and callbacks to begin or end.

Each turn lowers the first of them that it changes. -/
def cost : TrapTurn → Nat × Nat × Nat
  | .finished _ _ => (0, 0, 0)
  | .running session frame outer =>
    let frames := frame :: outer
    (clientsWeight session.clients + total DispatchFrame.weight frames,
      total (fun frame => frame.registers.length) frames,
      total DispatchFrame.backlog frames)

theorem reactionsWeight_head_tail (reactions : List (List TrapStep)) :
    stepsWeight (reactions.headD []) + reactionsWeight reactions.tail =
      reactionsWeight reactions := by
  cases reactions <;> simp [reactionsWeight, stepsWeight]

theorem takeReaction_weight (session : TrapSession) (number : Nat) :
    stepsWeight (session.takeReaction number).1 +
      clientsWeight (session.takeReaction number).2.clients = clientsWeight session.clients := by
  obtain ⟨system, clients⟩ := session
  simp only [TrapSession.takeReaction]
  induction clients generalizing number with
  | nil => simp [clientsWeight, total, stepsWeight]
  | cons client clients ih =>
    cases number with
    | zero =>
      have h := reactionsWeight_head_tail client.reactions
      simp [clientsWeight, total] at h ⊢
      omega
    | succ number =>
      have h := ih number
      simp [clientsWeight, total] at h ⊢
      omega

theorem enroll_weight (session : TrapSession) (address : UInt16)
    (reactions : List (List TrapStep)) (action : Nat → TrapM (TrapHandle × UInt16)) :
    clientsWeight (session.enroll address reactions action).2.clients =
      clientsWeight session.clients + reactionsWeight reactions := by
  simp only [TrapSession.enroll]
  rcases action session.clients.length session.system with ⟨_ | _, _⟩ <;>
    simp [clientsWeight, total, total_append]

theorem callOn_clients (session : TrapSession) (self : Option Nat) (target : TrapTarget)
    (action : TrapHandle → TrapM Unit) :
    (session.callOn self target action).2.clients = session.clients := by
  simp only [TrapSession.callOn]
  split
  · rfl
  · next handle _ => rcases action handle session.system with ⟨_ | _, _⟩ <;> rfl

theorem deliver_cost (frames : List DispatchFrame) (answer : TrapOutcome × TrapSession) :
    (deliver frames answer).cost.1 ≤
        clientsWeight answer.2.clients + total DispatchFrame.weight frames ∧
      (deliver frames answer).cost.2.1 ≤ total (fun frame => frame.registers.length) frames ∧
      (deliver frames answer).cost.2.2 ≤ total DispatchFrame.backlog frames := by
  obtain ⟨outcome, session⟩ := answer
  cases outcome <;> cases frames <;> simp [deliver, cost, TrapSession.note]

theorem perform_cost (session : TrapSession) (self : Option Nat) (frames : List DispatchFrame)
    (step : TrapStep) :
    (perform session self frames step).cost.1 <
      clientsWeight session.clients + step.weight + total DispatchFrame.weight frames := by
  have hd := fun answer => (deliver_cost frames answer).1
  cases step with
  | register address length direction reactions =>
    refine Nat.lt_of_le_of_lt (hd _) ?_
    rw [enroll_weight, TrapStep.weight]
    omega
  | registerExtended request reactions =>
    refine Nat.lt_of_le_of_lt (hd _) ?_
    rw [enroll_weight, TrapStep.weight]
    omega
  | unregister target | unregisterExtended target | pause target | resume target =>
    refine Nat.lt_of_le_of_lt (hd _) ?_
    simp [callOn_clients, TrapStep.weight]
  | lock | latch | setRegister =>
    simp only [perform]
    refine Nat.lt_of_le_of_lt (hd _) ?_
    simp [TrapSession.act, TrapStep.weight]
  | dispatch =>
    simp only [perform]
    split
    · refine Nat.lt_of_le_of_lt (hd _) ?_
      simp [TrapSession.act, TrapStep.weight]
    · simp [cost, TrapSession.act, TrapStep.weight, DispatchFrame.weight, DispatchFrame.start,
        total]

theorem lex_lt_of_le {a b : Nat × Nat × Nat} (h : a.1 ≤ b.1) (h' : a.2.1 ≤ b.2.1)
    (hlt : a.2.2 < b.2.2) :
    Prod.Lex (· < ·) (Prod.Lex (· < ·) (· < ·)) a b := by
  simp only [Prod.lex_def]
  omega

/-- Each turn comes nearer to the end of the step. -/
theorem next_cost_lt (session : TrapSession) (frame : DispatchFrame)
    (outer : List DispatchFrame) :
    Prod.Lex (· < ·) (Prod.Lex (· < ·) (· < ·)) (next (.running session frame outer)).cost
      (cost (.running session frame outer)) := by
  obtain ⟨access, registers, pending, invoked, callback⟩ := frame
  match callback, pending, registers with
  | some (self, step :: steps), pending, registers =>
    apply Prod.Lex.left
    refine Nat.lt_of_lt_of_le (perform_cost ..) ?_
    simp [DispatchFrame.weight, stepsWeight, total]
    omega
  | some (self, []), pending, registers =>
    apply lex_lt_of_le <;> simp [next, cost, DispatchFrame.weight, DispatchFrame.backlog, total]
  | none, record :: pending, registers =>
    have h := takeReaction_weight (session.note (TrapSession.callEvent record access.writeData))
      record.callback.client
    rw [show clientsWeight (session.note _).clients = clientsWeight session.clients from rfl] at h
    apply lex_lt_of_le
    · simp [next, cost, DispatchFrame.weight, total]
      omega
    · simp [next, cost, total]
    · simp [next, cost, DispatchFrame.backlog, total]
      omega
  | none, [], i :: registers =>
    simp [Prod.lex_def, next, cost, DispatchFrame.weight, total]
  | none, [], [] =>
    have h := deliver_cost outer (.dispatched invoked,
      (session.act (TrapSystem.clearStatus access.status)).2)
    apply lex_lt_of_le
    · exact Nat.le_trans h.1 (by simp [TrapSession.act, cost, DispatchFrame.weight, total])
    · exact Nat.le_trans h.2.1 (by simp [cost, total])
    · exact Nat.lt_of_le_of_lt h.2.2 (by simp [cost, DispatchFrame.backlog, total])

/-- Goes on until the step has its outcome. -/
def run : TrapTurn → TrapOutcome × TrapSession
  | .finished session outcome => (outcome, session)
  | .running session frame outer => run (next (.running session frame outer))
termination_by turn => turn.cost
decreasing_by exact next_cost_lt session frame outer

end TrapTurn

namespace TrapSession

/-- A dispatcher that was just installed, and what its allocator will answer. -/
def start (allocations : List (Except EfiError UInt16)) (releases : List (Except EfiError Unit)) :
    TrapSession :=
  let session : TrapSession := { system := { allocations, releases } }
  session.note <| .log ⟨.info, "io_trap", "I/O trap dispatcher " ++
    hexTextOfWidth 10 trapInstanceSignature.toNat ++ " installed."⟩

/-- Makes a step from outside, with all that its callbacks do. -/
def step (session : TrapSession) (step : TrapStep) : TrapOutcome × TrapSession :=
  (TrapTurn.perform session none [] step).run

/-- Makes steps until they are done or one halts; tells of each its outcome and what it left. -/
def play (session : TrapSession) : List TrapStep → List (TrapOutcome × TrapSession)
  | [] => []
  | step :: steps =>
    match session.step step with
    | (.halted cause, session) => [(.halted cause, session)]
    | (outcome, session) => (outcome, session) :: session.play steps

end TrapSession

end PlatformFirmware
