import Mathlib.Data.Int.CardIntervalMod
import NdsStorage.Interaction.Traversal
import NdsStorage.Server.WorkerInvariant

/-! How the commands of a session are divided among the workers. Each queue
pair has a worker, which serves its share of the command count through the
slots that name the queue pair. -/
namespace NdsStorage.Server

open Bytes Interaction

/-- The part of the command count that falls to the worker of a queue pair. -/
def commandShare (commandCount qpCount index : Nat) : Nat :=
  commandCount / qpCount + if index < commandCount % qpCount then 1 else 0

/-- The slots of a queue pair by their index in the slot table, in table order. -/
def slotsOf (slots : List StorageSlot) (index : Nat) : List Nat :=
  (List.range slots.length).filter fun slotIndex =>
    slots[slotIndex]?.any fun slot => slot.qpIndex.toNat = index

/-- The checks on a fetched slot table. -/
def slotValid (qpCount : Nat) (slot : StorageSlot) : Bool :=
  slot.reserved = 0 && slot.qpIndex.toNat < qpCount && slot.command.address ≠ 0 &&
    slot.command.length ≥ UInt64.ofNat kStorageCommandBytes && slot.command.remoteKey ≠ 0 &&
    slot.completion.address ≠ 0 &&
    slot.completion.length ≥ UInt64.ofNat kStorageCompletionBytes && slot.completion.remoteKey ≠ 0

/-- The worker of a queue pair. One without commands gets no slots. -/
def makeWorker (slots : List StorageSlot) (commandCount qpCount index : Nat) :
    Except Error Worker :=
  let share := commandShare commandCount qpCount index
  if share = 0 then
    .ok { qpIndex := index, commandCount := 0, slots := [] }
  else if slotsOf slots index = [] then
    .error (protocolError "storage slot table does not cover a command QP")
  else
    .ok { qpIndex := index, commandCount := share, slots := slotsOf slots index }

/-- The workers that a session starts. Every busy one needs a CPU of its own. -/
def makeWorkers (slots : List StorageSlot) (commandCount qpCount cpuCount : Nat) :
    Except Error (List Worker) := do
  if commandCount = 0 ∨ qpCount = 0 then
    throw {
      code := .invalidArgument
      message := "transport, namespace, and QPs are required" }
  if ¬ slots.all (slotValid qpCount) then
    throw (protocolError "storage slot table contains an invalid slot")
  let workers ← (List.range qpCount).mapM (makeWorker slots commandCount qpCount)
  if cpuCount < (workers.filter fun worker => worker.commandCount ≠ 0).length then
    throw { code := .runtime, message := "server needs one allowed CPU per busy storage QP" }
  pure workers

/-- A share is the number of commands that fall on the queue pair when they
are dealt out in turn. -/
theorem commandShare_eq_count {commandCount qpCount index : Nat} (hIndex : index < qpCount) :
    commandShare commandCount qpCount index =
      Nat.count (fun command => command % qpCount = index) commandCount := by
  have hCount := Nat.count_modEq_card commandCount (Nat.zero_lt_of_lt hIndex) index
  simp only [Nat.ModEq, Nat.mod_eq_of_lt hIndex] at hCount
  rw [commandShare, ← hCount]

section Workers

variable {slots : List StorageSlot} {commandCount qpCount index : Nat} {worker : Worker}

/-- What serves a queue pair that has commands. -/
theorem makeWorker_busy (hShare : commandShare commandCount qpCount index ≠ 0)
    (h : makeWorker slots commandCount qpCount index = .ok worker) :
    worker = {
      qpIndex := index
      commandCount := commandShare commandCount qpCount index
      slots := slotsOf slots index } := by
  simp only [makeWorker, if_neg hShare] at h
  split at h
  · cases h
  · cases h
    rfl

/-- A queue without a share gets an idle worker. -/
theorem makeWorker_idle (hShare : commandShare commandCount qpCount index = 0) :
    makeWorker slots commandCount qpCount index =
      .ok { qpIndex := index, commandCount := 0, slots := [] } := by
  rw [makeWorker]
  exact if_pos hShare

/-- When every queue pair finds its slots, these are the workers that are started. -/
theorem makeWorkers_ok {make : Nat → Worker} {cpuCount : Nat} {workers : List Worker}
    (hMake : ∀ index, index < qpCount → makeWorker slots commandCount qpCount index =
      .ok (make index))
    (h : makeWorkers slots commandCount qpCount cpuCount = .ok workers) :
    workers = (List.range qpCount).map make := by
  have hAll := mapM_eq_ok fun index hIndex => hMake index (List.mem_range.mp hIndex)
  simp only [makeWorkers, hAll, bind, Except.bind] at h
  split at h
  · cases h
  · split at h
    · cases h
    · split at h
      · cases h
      · cases h
        rfl

end Workers

end NdsStorage.Server
