import Mathlib.Data.List.Basic
import PlatformFirmware.Proofs.TrapSound

namespace PlatformFirmware

open TrapSystem

/-- A call of a dispatcher to its allocator. -/
inductive AllocatorCall
  | allocate (length alignment : UInt16)
  | free (base length : UInt16)
  deriving DecidableEq

namespace AllocatorCall

def isRequest : AllocatorCall → Bool
  | allocate _ _ => true
  | free _ _ => false

/-- The base and the length that a call gives back. -/
def freed? : AllocatorCall → Option (UInt16 × UInt16)
  | allocate _ _ => none
  | free base length => some (base, length)

end AllocatorCall

def TrapEvent.allocatorCall? : TrapEvent → Option AllocatorCall
  | allocate length alignment => some (.allocate length alignment)
  | free base length => some (.free base length)
  | _ => none

/-- The window that a register shares, if it shares one. -/
def TrapEntry.window? (entry : TrapEntry) : Option UInt16 :=
  if entry.inUse && !entry.isDedicated then some entry.base else none

/-- The windows that are shared, register by register. -/
def TrapDispatcher.windows (dispatcher : TrapDispatcher) : List UInt16 :=
  (List.finRange 4).filterMap fun i => (dispatcher.entry i).window?

namespace TrapSystem

/-- The calls to the allocator so far. -/
def allocatorCalls (system : TrapSystem) : List AllocatorCall :=
  system.events.filterMap TrapEvent.allocatorCall?

/-- The windows that the allocator grants when it answers some calls. -/
def grants (system : TrapSystem) (calls : List AllocatorCall) : List UInt16 :=
  (system.allocations.take (calls.countP AllocatorCall.isRequest)).filterMap Except.toOption

/-- How a call fares that may ask the allocator for a window. -/
inductive Obtains (before after : TrapSystem) : Prop
  | nothing : after.allocatorCalls = before.allocatorCalls →
      after.dispatcher.windows = before.dispatcher.windows → Obtains before after
  | declined {reason} :
      after.allocatorCalls =
        before.allocatorCalls ++ [.allocate mergedTrapLength mergedTrapLength] →
      before.nextWindow = .error reason →
      after.dispatcher.windows = before.dispatcher.windows → Obtains before after
  | obtained {base} :
      after.allocatorCalls =
        before.allocatorCalls ++ [.allocate mergedTrapLength mergedTrapLength] →
      before.nextWindow = .ok base →
      after.dispatcher.windows.Perm (base :: before.dispatcher.windows) → Obtains before after

/-- How a call deals with the allocator: it may obtain a window, or give one back. -/
inductive Trades (before after : TrapSystem) : Prop
  | obtains : Obtains before after → Trades before after
  | returns {base} :
      after.allocatorCalls = before.allocatorCalls ++ [.free base mergedTrapLength] →
      before.dispatcher.windows.Perm (base :: after.dispatcher.windows) → Trades before after

end TrapSystem

theorem TrapEntry.window?_eq_some {entry : TrapEntry} {base : UInt16} :
    entry.window? = some base ↔
      entry.inUse = true ∧ entry.isDedicated = false ∧ entry.base = base := by
  simp [TrapEntry.window?, and_assoc]

theorem TrapEntry.window?_of_unused {entry : TrapEntry} (h : entry.inUse = false) :
    entry.window? = none := by
  simp [TrapEntry.window?, h]

theorem TrapEntry.window?_of_dedicated {entry : TrapEntry} (h : entry.isDedicated = true) :
    entry.window? = none := by
  simp [TrapEntry.window?, h]

/-- A value at one place of a list joins those at the others. -/
theorem perm_filterMap_of_eq_off {α β : Type} {f g : α → Option β} {place : α} {value : β}
    {places : List α} (distinct : places.Nodup) (mem : place ∈ places) (none : f place = none)
    (some : g place = some value) (off : ∀ other, other ≠ place → g other = f other) :
    (places.filterMap g).Perm (value :: places.filterMap f) := by
  induction places with
  | nil => cases mem
  | cons first rest ih =>
    obtain ⟨fresh, distinct⟩ := List.nodup_cons.mp distinct
    rcases List.mem_cons.mp mem with rfl | mem
    · have same : rest.filterMap g = rest.filterMap f := by
        refine List.filterMap_congr fun other ho => off other ?_
        rintro rfl
        exact fresh ho
      rw [List.filterMap_cons_some some, List.filterMap_cons_none none, same]
    · have ne : first ≠ place := by
        rintro rfl
        exact fresh mem
      have ih := ih distinct mem
      cases h : f first with
      | none =>
        rw [List.filterMap_cons_none (h.symm ▸ off first ne), List.filterMap_cons_none h]
        exact ih
      | some old =>
        rw [List.filterMap_cons_some (h.symm ▸ off first ne), List.filterMap_cons_some h]
        exact (ih.cons old).trans (List.Perm.swap value old _)

namespace TrapDispatcher

theorem mem_windows {dispatcher : TrapDispatcher} {base : UInt16} :
    base ∈ dispatcher.windows ↔ ∃ i : Fin 4, (dispatcher.entry i).inUse = true ∧
      (dispatcher.entry i).isDedicated = false ∧ (dispatcher.entry i).base = base := by
  simp [windows, TrapEntry.window?_eq_some]

theorem windows_congr {before after : TrapDispatcher} (h : after.entries = before.entries) :
    after.windows = before.windows := by
  simp only [windows, entry_congr h]

theorem windows_setEntry_same {dispatcher : TrapDispatcher} {i : Fin 4} {entry : TrapEntry}
    (h : entry.window? = (dispatcher.entry i).window?) :
    (dispatcher.setEntry i entry).windows = dispatcher.windows := by
  refine List.filterMap_congr fun j _ => ?_
  by_cases hj : j = i
  · subst hj
    rw [setEntry_entry, h]
  · rw [setEntry_other hj]

theorem windows_setEntry_some {dispatcher : TrapDispatcher} {i : Fin 4} {entry : TrapEntry}
    {base : UInt16} (unshared : (dispatcher.entry i).window? = none)
    (shared : entry.window? = some base) :
    (dispatcher.setEntry i entry).windows.Perm (base :: dispatcher.windows) := by
  refine perm_filterMap_of_eq_off (List.nodup_finRange 4) (List.mem_finRange i) unshared ?_ ?_
  · rw [setEntry_entry]
    exact shared
  · intro j hj
    rw [setEntry_other hj]

theorem windows_setEntry_none {dispatcher : TrapDispatcher} {i : Fin 4} {entry : TrapEntry}
    {base : UInt16} (shared : (dispatcher.entry i).window? = some base)
    (unshared : entry.window? = none) :
    dispatcher.windows.Perm (base :: (dispatcher.setEntry i entry).windows) := by
  refine perm_filterMap_of_eq_off (List.nodup_finRange 4) (List.mem_finRange i) ?_ shared ?_
  · rw [setEntry_entry]
    exact unshared
  · intro j hj
    rw [setEntry_other hj]

end TrapDispatcher

namespace TrapSystem

theorem Logged.allocatorCalls_eq {before after : TrapSystem} (h : before.Logged after) :
    after.allocatorCalls = before.allocatorCalls := by
  obtain ⟨lines, rfl⟩ := h
  have none : (lines.map TrapEvent.log).filterMap TrapEvent.allocatorCall? = [] := by
    rw [List.filterMap_eq_nil_iff]
    intro event h
    obtain ⟨line, _, rfl⟩ := List.mem_map.mp h
    rfl
  rw [allocatorCalls, List.filterMap_append, none, List.append_nil]
  rfl

theorem asked_allocatorCalls (system : TrapSystem) :
    system.asked.allocatorCalls =
      system.allocatorCalls ++ [.allocate mergedTrapLength mergedTrapLength] := by
  simp [allocatorCalls, asked, TrapEvent.allocatorCall?]

theorem program_allocatorCalls (system : TrapSystem) (i : Fin 4) (register : TrapRegister)
    (entry : TrapEntry) :
    (system.program i register entry).allocatorCalls = system.allocatorCalls := by
  simp [allocatorCalls, program, TrapEvent.allocatorCall?]

theorem released_allocatorCalls (system : TrapSystem) (base length : UInt16) :
    (system.released base length).allocatorCalls =
      system.allocatorCalls ++ [.free base length] := by
  simp [allocatorCalls, released, TrapEvent.allocatorCall?]

variable {callback : TrapCallback} {request : TrapRequest} {before after : TrapSystem}

theorem Logged.obtains (h : before.Logged after) : Obtains before after :=
  .nothing h.allocatorCalls_eq (TrapDispatcher.windows_congr (congrArg _ h.dispatcher))

theorem Obtains.congr {last : TrapSystem} (h : Obtains before after)
    (calls : last.allocatorCalls = after.allocatorCalls)
    (windows : last.dispatcher.windows = after.dispatcher.windows) : Obtains before last := by
  cases h with
  | nothing hc hw => exact .nothing (calls.trans hc) (windows.trans hw)
  | declined hc answer hw => exact .declined (calls.trans hc) answer (windows.trans hw)
  | obtained hc answer hw => exact .obtained (calls.trans hc) answer (windows ▸ hw)

theorem Obtains.windows_length_le (h : Obtains before after) :
    before.dispatcher.windows.length ≤ after.dispatcher.windows.length := by
  cases h with
  | nothing _ windows | declined _ _ windows => exact Nat.le_of_eq (by rw [windows])
  | obtained _ _ windows =>
    rw [windows.length_eq, List.length_cons]
    exact Nat.le_succ _

theorem ClaimsShared.obtains {length : UInt16} {result : Except Fault UInt16}
    (h : ClaimsShared length before result after) : Obtains before after := by
  cases h with
  | room | overflow => exact .nothing rfl (TrapDispatcher.windows_setEntry_same rfl)
  | noRegister _ _ logged => exact logged.obtains
  | noWindow _ _ answer logged =>
    refine .declined (logged.allocatorCalls_eq.trans before.asked_allocatorCalls) answer ?_
    exact TrapDispatcher.windows_congr (congrArg _ logged.dispatcher)
  | window _ unused answer =>
    have unused := TrapDispatcher.unusedRegister?_eq_some unused
    refine .obtained ((program_allocatorCalls _ _ _ _).trans before.asked_allocatorCalls) answer ?_
    exact TrapDispatcher.windows_setEntry_some (TrapEntry.window?_of_unused unused) rfl

theorem ClaimsDedicated.obtains {length : UInt16} {result : Except Fault Unit}
    (h : ClaimsDedicated request length before result after) : Obtains before after := by
  cases h with
  | misaligned _ logged | taken _ _ _ logged | noRegister _ _ _ _ logged => exact logged.obtains
  | dedicated _ _ _ unused =>
    have unused := TrapDispatcher.unusedRegister?_eq_some unused
    refine .nothing (program_allocatorCalls _ _ _ _) (TrapDispatcher.windows_setEntry_same ?_)
    exact (TrapEntry.window?_of_unused unused).symm

theorem Claims.obtains {result : Except Fault UInt16}
    (h : Claims callback request before result after) : Obtains before after := by
  cases h with
  | noAddress _ _ logged => exact logged.obtains
  | shared _ _ claims => exact claims.obtains
  | dedicated _ claims => exact claims.obtains
  | refused _ claims => exact claims.obtains

theorem Registers.obtains {result : Except Fault (TrapHandle × UInt16)}
    (h : Registers callback request before result after) : Obtains before after := by
  cases h with
  | locked _ logged => exact logged.obtains
  | noRange _ _ logged => exact logged.obtains
  | unclaimed _ _ claims => exact claims.obtains
  | unkept _ _ claims _ => exact claims.obtains.congr rfl rfl
  | @kept address claimed _ i _ _ claims keeper logged =>
    refine claims.obtains.congr logged.allocatorCalls_eq ?_
    rw [logged.dispatcher]
    exact @TrapDispatcher.windows_setEntry_same claimed.dispatcher.spendSerial i _ rfl

/-- What an unregistration gives back: the window of which it drops the last registration. -/
theorem Drops.allocatorCalls_eq {handle : TrapHandle} {extended : Bool}
    (h : Drops handle extended before (.ok ()) after) {i : Fin 4} {place : Nat}
    {record : TrapRecord} (finds : before.dispatcher.Finds handle extended i place record) :
    after.allocatorCalls = before.allocatorCalls ++
      if (before.dispatcher.entry i).records.eraseIdx place = [] ∧
          (before.dispatcher.entry i).isCallerOwned = false then
        [.free (before.dispatcher.entry i).base (before.dispatcher.entry i).length]
      else [] := by
  cases h with
  | shared finds' rest logged =>
    obtain ⟨rfl, rfl, rfl⟩ := finds'.unique finds
    rw [if_neg (fun h => rest h.1), List.append_nil]
    exact logged.allocatorCalls_eq
  | dedicated finds' _ owned logged =>
    obtain ⟨rfl, rfl, rfl⟩ := finds'.unique finds
    rw [if_neg (fun h => absurd (owned.symm.trans h.2) (by simp)), List.append_nil,
      program_allocatorCalls]
    exact logged.allocatorCalls_eq
  | window finds' rest owned logged logged' =>
    obtain ⟨rfl, rfl, rfl⟩ := finds'.unique finds
    rw [if_pos ⟨rest, owned⟩, logged'.allocatorCalls_eq, released_allocatorCalls,
      program_allocatorCalls, logged.allocatorCalls_eq]

theorem Drops.trades {handle : TrapHandle} {extended : Bool} {result : Except Fault Unit}
    (h : Drops handle extended before result after) (sound : before.dispatcher.Sound) :
    Trades before after := by
  cases result with
  | error fault =>
    cases h with
    | locked _ logged => exact .obtains logged.obtains
    | foreign | unknown | mismatched => exact .obtains (.nothing rfl rfl)
  | ok _ =>
    obtain ⟨i, place, record, finds, hd, _⟩ := h.done
    have calls := h.allocatorCalls_eq finds
    have entry := sound i
    have used := entry.used_of_mem (List.mem_of_getElem? finds.placed)
    by_cases rest : (before.dispatcher.entry i).records.eraseIdx place = []
    · have cleared : ((before.dispatcher.entry i).without place).window? = none := by
        rw [TrapEntry.without, if_pos rest]
        rfl
      cases alone : (before.dispatcher.entry i).isDedicated with
      | true =>
        rw [if_neg (fun h => absurd ((entry.owned alone).symm.trans h.2) (by simp)),
          List.append_nil] at calls
        refine .obtains (.nothing calls ?_)
        rw [hd]
        refine TrapDispatcher.windows_setEntry_same ?_
        rw [cleared, TrapEntry.window?_of_dedicated alone]
      | false =>
        obtain ⟨length, owned⟩ := entry.shared used alone
        rw [if_pos ⟨rest, owned⟩, length] at calls
        refine .returns calls ?_
        rw [hd]
        exact TrapDispatcher.windows_setEntry_none
          (TrapEntry.window?_eq_some.mpr ⟨used, alone, rfl⟩) cleared
    · rw [if_neg (fun h => rest h.1), List.append_nil] at calls
      refine .obtains (.nothing calls ?_)
      rw [hd, TrapEntry.without, if_neg rest]
      exact TrapDispatcher.windows_setEntry_same rfl

theorem Switches.allocatorCalls_eq {handle : TrapHandle} {on : Bool} {result : Except Fault Unit}
    (h : Switches handle on before result after) :
    after.allocatorCalls = before.allocatorCalls := by
  cases h with
  | fixed => rfl
  | already _ _ logged =>
    rw [logged.allocatorCalls_eq]
    simp [allocatorCalls, TrapEvent.allocatorCall?]
  | switched => simp [allocatorCalls, TrapEvent.allocatorCall?]

end TrapSystem

end PlatformFirmware
