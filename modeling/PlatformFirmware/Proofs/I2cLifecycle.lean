import Mathlib.Data.List.Induction
import PlatformFirmware.Proofs.I2cSteps

namespace PlatformFirmware

/-- A call to the bindings with its answer. -/
inductive I2cExchange
  | install (controller : I2cController) (devices : List I2cDevice)
      (answer : Except EfiError Nat)
  | uninstall (handle : Nat) (answer : Except EfiError Unit)

def I2cCall.isInstall : I2cCall → Bool
  | install _ _ => true
  | uninstall _ => false

namespace I2cExchange

def isInstall : I2cExchange → Bool
  | install _ _ _ => true
  | uninstall _ _ => false

def succeeds : I2cExchange → Bool
  | install _ _ answer => answer.isOk
  | uninstall _ answer => answer.isOk

/-- The handle that a successful installation returns. -/
def handle? : I2cExchange → Option Nat
  | install _ _ answer => answer.toOption
  | uninstall _ _ => none

/-- What is answered to calls when the answers to both kinds of them are given. -/
def listed : List I2cCall → List (Except EfiError Nat) → List (Except EfiError Unit) →
    List I2cExchange
  | [], _, _ => []
  | .install controller devices :: calls, installs, uninstalls =>
    .install controller devices (installs.headD (.ok 0)) :: listed calls installs.tail uninstalls
  | .uninstall handle :: calls, installs, uninstalls =>
    .uninstall handle (uninstalls.headD (.ok ())) :: listed calls installs uninstalls.tail

def successes (history : List I2cExchange) : List I2cExchange :=
  history.filter succeeds

/-- The handle of the most recent installation that was successful. -/
def latest? (history : List I2cExchange) : Option Nat :=
  (history.filterMap handle?).getLast?

theorem successes_concat_failed {exchange : I2cExchange} (failed : exchange.succeeds = false)
    (history : List I2cExchange) : successes (history ++ [exchange]) = successes history := by
  have dropped : ¬exchange.succeeds = true := Bool.eq_false_iff.mp failed
  rw [successes, List.filter_append, List.filter_cons_of_neg dropped]
  exact List.append_nil _

theorem successes_concat {exchange : I2cExchange} (done : exchange.succeeds = true)
    (history : List I2cExchange) :
    successes (history ++ [exchange]) = successes history ++ [exchange] := by
  rw [successes, List.filter_append, List.filter_cons_of_pos done]
  rfl

theorem getElem?_concat_cases {history : List I2cExchange} {last exchange : I2cExchange} {i : Nat}
    (h : (history ++ [last])[i]? = some exchange) :
    history[i]? = some exchange ∨ i = history.length ∧ last = exchange := by
  rcases Nat.lt_or_ge i history.length with inside | beyond
  · rw [List.getElem?_append_left inside] at h
    exact .inl h
  · rw [List.getElem?_append_right beyond, List.getElem?_singleton] at h
    split at h
    next first =>
      exact .inr ⟨Nat.le_antisymm (Nat.le_of_sub_eq_zero first) beyond, Option.some.inj h⟩
    next => cases h

theorem listed_append (past future : List I2cCall) (installs : List (Except EfiError Nat))
    (uninstalls : List (Except EfiError Unit)) :
    listed (past ++ future) installs uninstalls =
      listed past installs uninstalls ++
        listed future (installs.drop (past.countP I2cCall.isInstall))
          (uninstalls.drop (past.countP fun call => !call.isInstall)) := by
  induction past generalizing installs uninstalls with
  | nil => rfl
  | cons call past ih =>
    cases call with
    | install controller devices =>
      rw [List.countP_cons_of_pos rfl, List.countP_cons_of_neg Bool.false_ne_true,
        List.cons_append, listed, listed, ih, List.drop_tail]
      rfl
    | uninstall handle =>
      rw [List.countP_cons_of_neg Bool.false_ne_true, List.countP_cons_of_pos rfl,
        List.cons_append, listed, listed, ih, List.drop_tail]
      rfl

theorem install_mem_listed {calls : List I2cCall} {installs : List (Except EfiError Nat)}
    {uninstalls : List (Except EfiError Unit)} {controller : I2cController}
    {devices : List I2cDevice} (h : .install controller devices ∈ calls) :
    ∃ answer, .install controller devices answer ∈ listed calls installs uninstalls := by
  obtain ⟨past, future, rfl⟩ := List.append_of_mem h
  rw [listed_append, listed]
  exact ⟨_, List.mem_append_right _ List.mem_cons_self⟩

end I2cExchange

namespace I2cBus

open I2cExchange

/-- What the bindings have been through when they were asked in turn to install a bus and to
remove it, and which bus they have installed then. -/
inductive Lifecycle (fresh : I2cBus) : List I2cExchange → Option Nat → Prop
  | fresh : Lifecycle fresh [] none
  | notInstalled {history reason} (past : Lifecycle fresh history none) (usable : fresh.Usable) :
      Lifecycle fresh (history ++ [.install fresh.controller fresh.devices (.error reason)]) none
  | installed {history handle} (past : Lifecycle fresh history none) (usable : fresh.Usable) :
      Lifecycle fresh (history ++ [.install fresh.controller fresh.devices (.ok handle)])
        (some handle)
  | notRemoved {history handle reason} (past : Lifecycle fresh history (some handle)) :
      Lifecycle fresh (history ++ [.uninstall handle (.error reason)]) (some handle)
  | removed {history handle} (past : Lifecycle fresh history (some handle)) :
      Lifecycle fresh (history ++ [.uninstall handle (.ok ())]) none

/-- What a bus has come to from the fresh one. -/
structure Reached (fresh bus : I2cBus) : Prop where
  controller : bus.controller = fresh.controller
  devices : bus.devices = fresh.devices
  installs : bus.installs = fresh.installs.drop (bus.calls.countP I2cCall.isInstall)
  uninstalls : bus.uninstalls =
    fresh.uninstalls.drop (bus.calls.countP fun call => !call.isInstall)
  lifecycle : Lifecycle fresh (listed bus.calls fresh.installs fresh.uninstalls) bus.handle

section

variable {fresh bus : I2cBus}

theorem Reached.usable_iff (reached : Reached fresh bus) : bus.Usable ↔ fresh.Usable := by
  constructor
  · rintro ⟨mapped, clocked, addressed⟩
    exact ⟨reached.controller ▸ mapped, reached.controller ▸ clocked,
      reached.devices ▸ addressed⟩
  · rintro ⟨mapped, clocked, addressed⟩
    exact ⟨reached.controller ▸ mapped, reached.controller ▸ clocked,
      reached.devices ▸ addressed⟩

theorem Reached.after_install (reached : Reached fresh bus) {handle : Option Nat}
    {log : List LogRecord}
    (lifecycle : Lifecycle fresh
      (listed bus.calls fresh.installs fresh.uninstalls ++
        [.install fresh.controller fresh.devices (bus.installs.headD (.ok 0))]) handle) :
    Reached fresh
      { bus with
        handle
        installs := bus.installs.tail
        calls := bus.calls ++ [.install bus.controller bus.devices]
        log } where
  controller := reached.controller
  devices := reached.devices
  installs := by
    rw [List.countP_append, reached.installs, List.tail_drop]
    rfl
  uninstalls := by
    rw [List.countP_append, reached.uninstalls]
    rfl
  lifecycle := by
    rw [listed_append, ← reached.installs, reached.controller, reached.devices]
    exact lifecycle

theorem Reached.after_uninstall (reached : Reached fresh bus) {asked : Nat}
    {handle : Option Nat} {log : List LogRecord}
    (lifecycle : Lifecycle fresh
      (listed bus.calls fresh.installs fresh.uninstalls ++
        [.uninstall asked (bus.uninstalls.headD (.ok ()))]) handle) :
    Reached fresh
      { bus with
        handle
        uninstalls := bus.uninstalls.tail
        calls := bus.calls ++ [.uninstall asked]
        log } where
  controller := reached.controller
  devices := reached.devices
  installs := by
    rw [List.countP_append, reached.installs]
    rfl
  uninstalls := by
    rw [List.countP_append, reached.uninstalls, List.tail_drop]
    rfl
  lifecycle := by
    rw [listed_append, ← reached.uninstalls]
    exact lifecycle

theorem Reached.performs {after : I2cBus} {next : I2cStep} {result : Except EfiError Unit}
    (reached : Reached fresh bus) (h : Performs bus next result after) : Reached fresh after := by
  have past := reached.lifecycle
  cases h with
  | alreadyStarted | alreadyStopped => exact reached
  | unusable =>
    exact ⟨reached.controller, reached.devices, reached.installs, reached.uninstalls, past⟩
  | notInstalled stopped usable answer =>
    rw [stopped] at past
    refine reached.after_install ?_
    rw [answer, stopped]
    exact .notInstalled past (reached.usable_iff.mp usable)
  | installed stopped usable answer =>
    rw [stopped] at past
    refine reached.after_install ?_
    rw [answer]
    exact .installed past (reached.usable_iff.mp usable)
  | notRemoved started answer =>
    rw [started] at past
    refine reached.after_uninstall ?_
    rw [answer, started]
    exact .notRemoved past
  | removed started answer =>
    rw [started] at past
    refine reached.after_uninstall ?_
    rw [answer]
    exact .removed past

end

/-- A bus after some steps. -/
def run (bus : I2cBus) (steps : List I2cStep) : I2cBus :=
  steps.foldl (fun bus next => (step next bus).2) bus

theorem run_append (bus : I2cBus) (past future : List I2cStep) :
    bus.run (past ++ future) = (bus.run past).run future :=
  List.foldl_append

theorem reached (controller : I2cController) (devices : List I2cDevice)
    (installs : List (Except EfiError Nat)) (uninstalls : List (Except EfiError Unit))
    (steps : List I2cStep) :
    let fresh : I2cBus := { controller, devices, installs, uninstalls }
    Reached fresh (fresh.run steps) := by
  intro fresh
  induction steps using List.reverseRecOn with
  | nil => exact ⟨rfl, rfl, rfl, rfl, .fresh⟩
  | append_singleton past next ih =>
    rw [run_append]
    exact ih.performs (step_performs _ next)

section

variable {fresh : I2cBus} {history : List I2cExchange} {held : Option Nat}

theorem Lifecycle.usable {handle : Nat} (h : Lifecycle fresh history (some handle)) :
    fresh.Usable := by
  generalize same : some handle = held at h
  induction h with
  | fresh | notInstalled | removed => cases same
  | installed past usable => exact usable
  | notRemoved past ih => exact ih same

theorem Lifecycle.install_mem (h : Lifecycle fresh history held) {controller : I2cController}
    {devices : List I2cDevice} {answer : Except EfiError Nat}
    (called : .install controller devices answer ∈ history) :
    controller = fresh.controller ∧ devices = fresh.devices ∧ fresh.Usable := by
  induction h with
  | fresh => cases called
  | notInstalled past usable ih | installed past usable ih =>
    rcases List.mem_append.mp called with old | new
    · exact ih old
    · cases List.mem_singleton.mp new
      exact ⟨rfl, rfl, usable⟩
  | notRemoved past ih | removed past ih =>
    rcases List.mem_append.mp called with old | new
    · exact ih old
    · cases List.mem_singleton.mp new

/-- A bus that is installed has the handle of its last installation. -/
theorem Lifecycle.latest {handle : Nat} (h : Lifecycle fresh history (some handle)) :
    latest? history = some handle := by
  generalize same : some handle = held at h
  induction h with
  | fresh | notInstalled | removed => cases same
  | installed =>
    cases same
    rw [latest?, List.filterMap_append]
    exact List.getLast?_concat
  | notRemoved past ih =>
    rw [latest?, List.filterMap_append]
    exact (congrArg List.getLast? (List.append_nil _)).trans (ih same)

theorem Lifecycle.uninstalled_latest (h : Lifecycle fresh history held) {i handle : Nat}
    {answer : Except EfiError Unit} (called : history[i]? = some (.uninstall handle answer)) :
    latest? (history.take i) = some handle := by
  induction h with
  | fresh => cases called
  | notInstalled past usable ih | installed past usable ih =>
    rcases getElem?_concat_cases called with old | ⟨-, new⟩
    · obtain ⟨inside, -⟩ := List.getElem?_eq_some_iff.mp old
      rw [List.take_append_of_le_length (Nat.le_of_lt inside)]
      exact ih old
    · cases new
  | notRemoved past ih | removed past ih =>
    rcases getElem?_concat_cases called with old | ⟨rfl, new⟩
    · obtain ⟨inside, -⟩ := List.getElem?_eq_some_iff.mp old
      rw [List.take_append_of_le_length (Nat.le_of_lt inside)]
      exact ih old
    · cases new
      rw [List.take_left]
      exact past.latest

/-- How far the installations that were successful are ahead of the removals. -/
theorem Lifecycle.balance (h : Lifecycle fresh history held) :
    (successes history).countP isInstall =
      (successes history).countP (fun exchange => !exchange.isInstall) +
        held.isSome.toNat := by
  induction h with
  | fresh => rfl
  | notInstalled past usable ih | notRemoved past ih =>
    rw [successes_concat_failed rfl]
    exact ih
  | installed past usable ih =>
    rw [successes_concat rfl, List.countP_append, List.countP_append, ih]
    rfl
  | removed past ih =>
    rw [successes_concat rfl, List.countP_append, List.countP_append, ih]
    rfl

theorem Lifecycle.successes_parity (h : Lifecycle fresh history held) :
    (successes history).length % 2 = held.isSome.toNat := by
  have balance := h.balance
  have both := List.length_eq_countP_add_countP (l := successes history) isInstall
  simp only [Bool.not_eq_true, Bool.decide_eq_false] at both
  have least := Bool.toNat_le held.isSome
  omega

theorem Lifecycle.alternate (h : Lifecycle fresh history held) {i : Nat}
    {exchange : I2cExchange} (done : (successes history)[i]? = some exchange) :
    exchange.isInstall = true ↔ i % 2 = 0 := by
  induction h with
  | fresh => cases done
  | notInstalled past usable ih | notRemoved past ih =>
    rw [successes_concat_failed rfl] at done
    exact ih done
  | installed past usable ih =>
    rw [successes_concat rfl] at done
    rcases getElem?_concat_cases done with old | ⟨rfl, rfl⟩
    · exact ih old
    · exact iff_of_true rfl past.successes_parity
  | removed past ih =>
    rw [successes_concat rfl] at done
    rcases getElem?_concat_cases done with old | ⟨rfl, rfl⟩
    · exact ih old
    · have odd := past.successes_parity
      exact iff_of_false Bool.false_ne_true fun even => by cases odd.symm.trans even

end

/-- What a bus that comes from the fresh one has asked of its bindings, with the answers. -/
structure Orderly (fresh bus : I2cBus) (exchanges : List I2cExchange) : Prop where
  alternate : ∀ i exchange, (successes exchanges)[i]? = some exchange →
    (exchange.isInstall = true ↔ i % 2 = 0)
  balance : (successes exchanges).countP isInstall =
    (successes exchanges).countP (fun exchange => !exchange.isInstall) + bus.isStarted.toNat
  latest : ∀ i handle answer, exchanges[i]? = some (.uninstall handle answer) →
    latest? (exchanges.take i) = some handle
  usable : ∀ controller devices, .install controller devices ∈ bus.calls →
    controller = fresh.controller ∧ devices = fresh.devices ∧ fresh.Usable

/-- A step that asks the bindings one thing: how it ends, and which bus is installed then. -/
structure Asks (before : I2cBus) (call : I2cCall) (result : Except EfiError Unit)
    (handle : Option Nat) (ran : Except EfiError Unit × I2cBus) : Prop where
  result : ran.1 = result
  calls : ran.2.calls = before.calls ++ [call]
  handle : ran.2.handle = handle

/-- What becomes of the next step of a bus that comes from the fresh one. -/
structure Answers (fresh bus : I2cBus) : Prop where
  /-- A bus that can be used is installed, unless the bindings refuse to. -/
  installs : bus.isStarted = false → fresh.Usable →
    let answer := bus.installs.headD (.ok 0)
    Asks bus (.install fresh.controller fresh.devices) (answer.map fun _ => ()) answer.toOption
      (step .start bus)
  /-- An installed bus is removed by its handle, which it keeps if the bindings refuse to. -/
  removes : ∀ handle, bus.handle = some handle →
    let answer := bus.uninstalls.headD (.ok ())
    Asks bus (.uninstall handle) answer (if answer.isOk then none else some handle)
      (step .stop bus)
  started : bus.isStarted = true → step .start bus = (.error .alreadyStarted, bus)
  stopped : bus.isStarted = false → step .stop bus = (.ok (), bus)
  useless : ¬fresh.Usable →
    (step .start bus).1 = .error .invalidParameter ∧ (step .start bus).2.calls = bus.calls
  refused : ∀ next reason, (step next bus).1 = .error reason →
    (step next bus).2.handle = bus.handle

theorem Reached.orderly {fresh bus : I2cBus} (reached : Reached fresh bus) :
    Orderly fresh bus (listed bus.calls fresh.installs fresh.uninstalls) where
  alternate := fun _ _ => reached.lifecycle.alternate
  balance := reached.lifecycle.balance
  latest := fun _ _ _ => reached.lifecycle.uninstalled_latest
  usable := by
    intro controller devices called
    obtain ⟨answer, exchanged⟩ := install_mem_listed called
    exact reached.lifecycle.install_mem exchanged

theorem Performs.handle_of_error {before after : I2cBus} {next : I2cStep} {reason : EfiError}
    (h : Performs before next (.error reason) after) : after.handle = before.handle := by
  cases h <;> rfl

theorem Performs.asks_install {before after : I2cBus} {result : Except EfiError Unit}
    (h : Performs before .start result after) (stopped : before.handle = none)
    (usable : before.Usable) :
    let answer := before.installs.headD (.ok 0)
    Asks before (.install before.controller before.devices) (answer.map fun _ => ())
      answer.toOption (result, after) := by
  cases h with
  | alreadyStarted started => cases stopped.symm.trans started
  | unusable _ useless => exact absurd usable useless
  | notInstalled _ _ answer =>
    rw [answer]
    exact ⟨rfl, rfl, stopped⟩
  | installed _ _ answer =>
    rw [answer]
    exact ⟨rfl, rfl, rfl⟩

theorem Performs.asks_uninstall {before after : I2cBus} {result : Except EfiError Unit}
    (h : Performs before .stop result after) {handle : Nat}
    (started : before.handle = some handle) :
    let answer := before.uninstalls.headD (.ok ())
    Asks before (.uninstall handle) answer (if answer.isOk then none else some handle)
      (result, after) := by
  cases h with
  | alreadyStopped stopped => cases stopped.symm.trans started
  | notRemoved held answer =>
    cases started.symm.trans held
    rw [answer]
    exact ⟨rfl, rfl, started⟩
  | removed held answer =>
    cases started.symm.trans held
    rw [answer]
    exact ⟨rfl, rfl, rfl⟩

theorem Reached.answers {fresh bus : I2cBus} (reached : Reached fresh bus) :
    Answers fresh bus where
  installs := by
    intro stopped usable
    have asked := (step_performs bus .start).asks_install (handle_of_stopped stopped)
      (reached.usable_iff.mpr usable)
    rwa [reached.controller, reached.devices] at asked
  removes := fun handle started => (step_performs bus .stop).asks_uninstall started
  started := by
    intro started
    obtain ⟨handle, held⟩ := isStarted_iff.mp started
    exact start_started held
  stopped := fun stopped => stop_stopped (handle_of_stopped stopped)
  useless := by
    intro useless
    have stopped : bus.handle = none := by
      cases held : bus.handle with
      | none => rfl
      | some handle => exact absurd (held ▸ reached.lifecycle).usable useless
    obtain ⟨log, refused⟩ := start_useless stopped fun usable =>
      useless (reached.usable_iff.mp usable)
    rw [step, refused]
    exact ⟨rfl, rfl⟩
  refused := by
    intro next reason refused
    have performed := step_performs bus next
    rw [refused] at performed
    exact performed.handle_of_error

/-- After any steps, whatever the bindings answer, a bus is installed and removed in turn, each
time it is removed by the handle of its last installation, and no step that is refused changes
whether it is installed. -/
theorem installed_and_removed_in_turn (controller : I2cController) (devices : List I2cDevice)
    (installs : List (Except EfiError Nat)) (uninstalls : List (Except EfiError Unit))
    (steps : List I2cStep) :
    let fresh : I2cBus := { controller, devices, installs, uninstalls }
    let bus := fresh.run steps
    Orderly fresh bus (listed bus.calls installs uninstalls) ∧ Answers fresh bus := by
  intro fresh bus
  have reached : Reached fresh bus := reached controller devices installs uninstalls steps
  exact ⟨reached.orderly, reached.answers⟩

/-- A removal that fails is tried again with the same handle. -/
example :
    let bus : I2cBus :=
      { controller := ⟨0x1C0F0000, 100000000⟩, devices := [], installs := [.ok 7]
        uninstalls := [.error .accessDenied] }
    (bus.run [.start, .stop, .stop]).calls =
      [.install bus.controller [], .uninstall 7, .uninstall 7] := rfl

end I2cBus

end PlatformFirmware
