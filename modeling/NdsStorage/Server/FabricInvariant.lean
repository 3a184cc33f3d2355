import NdsStorage.Interaction.Safety
import NdsStorage.Server.CommandPlan

/-! The invariant of a worker's run and the bookkeeping behind it. A stage says
how far a run has come; each operation of the fabric moves from one stage to
another, and every stage implies the invariant. -/
namespace NdsStorage.Server

open Bytes Interaction

namespace Workload

variable (workload : Workload)

def commandCount : Nat := workload.worker.commandCount

/-- Fewer than a full turn apart, two commands use different slots. -/
theorem slotOf_ne {first second : Nat} (hOrder : first < second)
    (hTurn : second < first + workload.active) :
    workload.slotOf first ≠ workload.slotOf second := by
  intro hSame
  have hZero := Nat.sub_mod_eq_zero_of_mod_eq hSame.symm
  rw [Nat.mod_eq_of_lt (by omega)] at hZero
  omega

/-- The commands of a window fill the slots in order. -/
theorem slotOf_window {base index : Nat} (hBase : workload.active ∣ base)
    (hIndex : index < workload.active) : workload.slotOf (base + index) = index := by
  rw [slotOf, Nat.add_mod, Nat.mod_eq_zero_of_dvd hBase, Nat.zero_add, Nat.mod_mod,
    Nat.mod_eq_of_lt hIndex]

/-- The heaviest moment of each valid batch: its own requests, those of the
earlier valid batches of the window, and what the first phase posted after its
descriptor fetch, must all fit into the send queue. -/
def SendBudget : Prop :=
  ∀ base index entries state, workload.active ∣ base → base < workload.commandCount →
    index < min workload.active (workload.commandCount - base) →
    workload.parsed (base + index) = .ok (state, some entries) →
    (workload.resolved (base + index)).completion.status = .success →
    loadOver workload.resolveLoad base (index + 1) +
      loadOver workload.admitLoad (base + (index + 1))
        (min workload.active (workload.commandCount - base) - (index + 1)) ≤ kQpDepth

end Workload

/-- What holds in every state of a run. -/
structure RunInvariant (workload : Workload) (fabric : Fabric) : Prop where
  receives : fabric.receives = (List.range fabric.receives.length).map workload.slotOf
  planned : ∀ command, fabric.history command <+: workload.completedEvents command
  fresh : ∀ command, fabric.received ≤ command → fabric.history command = []
  bounded : fabric.received ≤ workload.commandCount
  consumed : fabric.received ≤ fabric.receives.length
  undisturbed : ∀ command, command < fabric.received →
    .completionWaited ∉ fabric.history command →
    workload.slotOf command ∉ fabric.receives.drop fabric.received
  retired_le : fabric.retired ≤ fabric.sent
  room : fabric.outstanding ≤ kQpDepth

/-- The transfer that a call posts for the command in a slot. -/
def Call.event? : Call → Option (Nat × Event)
  | .postRead slot address key length => some (slot, .fetchPosted address key length)
  | .postTransferBatch slot opcode requests => some (slot, .payloadPosted opcode requests)
  | _ => none

/-- What holds whenever the worker makes a call. -/
structure CallSafe (workload : Workload) (fabric : Fabric) (call : Call) : Prop where
  invariant : RunInvariant workload fabric
  healthy : fabric.failure = none
  expected : call = .waitReceive → fabric.received < workload.commandCount
  fits : workload.SendBudget → fabric.outstanding + call.demand ≤ kQpDepth
  planned : ∀ slot event, call.event? = some (slot, event) →
    fabric.history (fabric.current slot) ++ [event] <+:
      workload.completedEvents (fabric.current slot)

/-- Why a worker returns an error: a transport call failed with it, a received
message was refused with it, or the worker has no command slots. -/
inductive StopCause (workload : Workload) (error : Error) (fabric : Fabric) : Prop
  | transport (hFailure : fabric.failure = some error)
  | refused (hHealthy : fabric.failure = none) {command : Nat}
      (hReceived : command < fabric.received) (hParsed : workload.parsed command = .error error)
  | noSlots (hHealthy : fabric.failure = none) (hSlots : workload.worker.slots = [])
      (hError : error =
        { code := .invalidArgument, message := "storage worker has no command slots" })

/-- What holds when a worker returns an error. -/
structure Stops (workload : Workload) (error : Error) (fabric : Fabric) : Prop where
  invariant : RunInvariant workload fabric
  cause : StopCause workload error fabric

/-- The receive queue: slots are posted in turn, and the buffer of a slot holds
its message until the slot has been posted again and filled. -/
structure ReceiveSide (workload : Workload) (fabric : Fabric) : Prop where
  receives : fabric.receives = (List.range fabric.receives.length).map workload.slotOf
  received_le : fabric.received ≤ fabric.arrived
  arrived_le : fabric.arrived ≤ fabric.receives.length
  held : ∀ command, command < fabric.arrived →
    fabric.receives.length ≤ command + workload.active →
    fabric.commandBytes (workload.slotOf command) = workload.traffic.message command
  current : ∀ command, command < fabric.received →
    fabric.received ≤ command + workload.active →
    fabric.current (workload.slotOf command) = command

namespace ReceiveSide

variable {workload : Workload} {fabric : Fabric}

theorem getD_receives (h : ReceiveSide workload fabric) {index : Nat}
    (hIndex : index < fabric.receives.length) :
    fabric.receives.getD index 0 = workload.slotOf index := by
  rw [h.receives, List.getD_eq_getElem?_getD, List.getElem?_map, List.getElem?_range hIndex]
  rfl

/-- An arriving command fills the oldest receive. -/
theorem arrive (h : ReceiveSide workload fabric)
    (hFree : fabric.arrived < fabric.receives.length) :
    ReceiveSide workload (fabric.arrive workload.traffic) where
  receives := h.receives
  received_le := Nat.le_succ_of_le h.received_le
  arrived_le := hFree
  held := by
    intro command hCommand hTurn
    change command < fabric.arrived + 1 at hCommand
    change fabric.receives.length ≤ _ at hTurn
    simp only [Fabric.arrive, h.getD_receives hFree]
    rcases Nat.lt_succ_iff_lt_or_eq.mp hCommand with hEarlier | rfl
    · rw [Function.update_of_ne (workload.slotOf_ne hEarlier (by omega))]
      exact h.held command hEarlier hTurn
    · exact Function.update_self ..
  current := h.current

theorem receive (h : ReceiveSide workload fabric) (retired : Nat)
    (hArrived : fabric.received < fabric.arrived) :
    ReceiveSide workload (fabric.receive retired) where
  receives := h.receives
  received_le := hArrived
  arrived_le := h.arrived_le
  held := h.held
  current := by
    intro command hCommand hTurn
    change command < fabric.received + 1 at hCommand
    change fabric.received + 1 ≤ _ at hTurn
    have hPosted : fabric.received < fabric.receives.length :=
      Nat.lt_of_lt_of_le hArrived h.arrived_le
    simp only [Fabric.receive, h.getD_receives hPosted]
    rcases Nat.lt_succ_iff_lt_or_eq.mp hCommand with hEarlier | rfl
    · rw [Function.update_of_ne (workload.slotOf_ne hEarlier (by omega))]
      exact h.current command hEarlier (by omega)
    · exact Function.update_self ..

/-- Posting the next slot keeps the receives in order. -/
theorem post (h : ReceiveSide workload fabric) {slot : Nat}
    (hSlot : slot = workload.slotOf fabric.receives.length) :
    ReceiveSide workload { fabric with receives := fabric.receives ++ [slot] } where
  receives := by
    rw [List.length_append, List.length_singleton, List.range_succ, List.map_append,
      ← h.receives, hSlot]
    rfl
  received_le := h.received_le
  arrived_le := by
    simp only [List.length_append, List.length_singleton]
    exact Nat.le_succ_of_le h.arrived_le
  held := by
    intro command hCommand hTurn
    simp only [List.length_append, List.length_singleton] at hTurn
    exact h.held command hCommand (by omega)
  current := h.current

end ReceiveSide

/-- How far a run has come. Commands below `base` are completed, `floor` bounds
the retired send requests from below. -/
structure Stage where
  base : Nat
  posted : Nat
  received : Nat
  sent : Nat
  floor : Nat
  posts : Nat → Post
  history : Nat → List Event

/-- The histories of a stage are in accordance with the plan of the commands. -/
structure Stage.Sound (workload : Workload) (stage : Stage) : Prop where
  planned : ∀ command, stage.history command <+: workload.completedEvents command
  done : ∀ command, command < stage.base →
    stage.history command = workload.completedEvents command
  fresh : ∀ command, stage.received ≤ command → stage.history command = []
  bounded : stage.received ≤ workload.commandCount
  covered : ∀ command, stage.base ≤ command → command < stage.received →
    stage.posted ≤ command + workload.active

/-- The physical state at a stage. -/
structure At (workload : Workload) (stage : Stage) (fabric : Fabric) : Prop where
  healthy : fabric.failure = none
  receiveSide : ReceiveSide workload fabric
  entryLength : ∀ slot, (fabric.entryBytes slot).length =
    kStorageMaxBatchEntries * kStorageBatchEntryBytes
  completionLength : ∀ slot, (fabric.completionBytes slot).length = kStorageCompletionBytes
  posted_eq : fabric.receives.length = stage.posted
  received_eq : fabric.received = stage.received
  sent_eq : fabric.sent = stage.sent
  floor_le : stage.floor ≤ fabric.retired
  retired_le : fabric.retired ≤ fabric.sent
  room : fabric.outstanding ≤ kQpDepth
  posts_eq : fabric.posts = stage.posts
  history_eq : fabric.history = stage.history

/-- Every command ends with its completion written. -/
theorem completionWaited_mem (workload : Workload) (command : Nat) :
    Event.completionWaited ∈ workload.completedEvents command :=
  List.mem_append_right _ (List.mem_singleton.mpr rfl)

namespace At

variable {workload : Workload} {stage : Stage} {fabric : Fabric}

/-- A fabric at a sound stage satisfies the invariant of its runs. -/
theorem invariant (h : At workload stage fabric) (hSound : stage.Sound workload) :
    RunInvariant workload fabric where
  receives := h.receiveSide.receives
  planned := h.history_eq ▸ hSound.planned
  fresh := by
    intro command hCommand
    rw [h.history_eq]
    exact hSound.fresh command (h.received_eq ▸ hCommand)
  bounded := h.received_eq ▸ hSound.bounded
  consumed := Nat.le_trans h.receiveSide.received_le h.receiveSide.arrived_le
  undisturbed := by
    intro command hCommand hBusy hPosted
    have hBase : stage.base ≤ command := by
      by_contra hDone
      rw [h.history_eq, hSound.done command (Nat.lt_of_not_le hDone)] at hBusy
      exact hBusy (completionWaited_mem workload command)
    have hCovered := hSound.covered command hBase (h.received_eq ▸ hCommand)
    rw [h.receiveSide.receives, ← List.map_drop] at hPosted
    obtain ⟨other, hOther, hSame⟩ := List.mem_map.mp hPosted
    rw [List.mem_drop_iff_getElem] at hOther
    obtain ⟨index, hIndex, rfl⟩ := hOther
    rw [List.length_range] at hIndex
    rw [List.getElem_range] at hSame
    have hLater : command < fabric.received + index := by omega
    refine workload.slotOf_ne hLater ?_ hSame.symm
    have := h.posted_eq
    omega
  retired_le := h.retired_le
  room := h.room

theorem arrive (h : At workload stage fabric)
    (hFree : fabric.arrived < fabric.receives.length) :
    At workload stage (fabric.arrive workload.traffic) :=
  { h with receiveSide := h.receiveSide.arrive hFree }

/-- A stage holds while the worker does not move. -/
theorem stable (workload : Workload) (stage : Stage) :
    (fabricWorld workload.traffic workload.session).Stable (At workload stage) := by
  rintro fabric fabric' ⟨hFree, rfl⟩ h
  exact h.arrive hFree

end At

end NdsStorage.Server
