import NdsStorage.Server.Execution
import NdsStorage.Server.WorkerInvariant

/-! Each received command is answered once. The history of a served command is
fixed by the plan, so everything that can be said about completions is read off
the planned history and carried to the states of a run by the invariant. -/
namespace NdsStorage.Server

open Bytes Interaction

/-- The completion write an event posts, if it does. -/
def Event.completion? : Event → Option (UInt64 × UInt32 × Buffer)
  | .completionPosted address key _ bytes => some (address, key, bytes)
  | _ => none

/-- The command identifier in a command message. -/
def carriedCommandId (message : Buffer) : UInt64 := readU64 message 8

/-- The slot table index in a command message. -/
def carriedSlotIndex (message : Buffer) : Nat := (readU32 message 56).toNat

/-- Reading a command keeps its identifier and its slot. -/
theorem deserializeCommand_carried {operation : StorageOperation} {access : UInt32}
    {bytes : Buffer} {command : StorageTransferCommand}
    (h : deserializeCommand operation access bytes = .ok command) :
    command.commandId = carriedCommandId bytes ∧
      command.slotIndex.toNat = carriedSlotIndex bytes := by
  unfold deserializeCommand at h
  split at h
  · cases h
  · split at h
    · cases h
    · dsimp only at h
      split at h
      · cases h
      · cases h
        exact ⟨rfl, rfl⟩

theorem parseCommand_carried {size : UInt64} {slot slotIndex : Nat} {bytes : Buffer}
    {state : PendingCommand} {entries : Option StorageMemory}
    (h : parseCommand size slot slotIndex bytes = .ok (state, entries)) :
    state.completion.commandId = carriedCommandId bytes ∧ slotIndex = carriedSlotIndex bytes := by
  rcases parseCommand_cases h with ⟨operation, command, -, hDecoded, hSlot, -, rfl⟩ |
    ⟨operation, command, -, hDecoded, hSlot, -, rfl⟩
  · obtain ⟨hId, hCarried⟩ := deserializeCommand_carried (deserializeTransfer_ok hDecoded).1
    refine ⟨?_, hSlot.symm.trans hCarried⟩
    unfold acceptTransfer
    dsimp only
    split
    · exact hId
    · exact hId
  · obtain ⟨hId, hCarried⟩ := deserializeCommand_carried (deserializeBatch_ok hDecoded).1
    exact ⟨hId, hSlot.symm.trans hCarried⟩

namespace Workload

variable (workload : Workload) (command : Nat)

/-- Nothing before the fourth phase posts or awaits a completion, and every
posted payload has been waited for by then. -/
structure Settled (events : List Event) : Prop where
  quiet : ∀ event ∈ events, event.completion? = none ∧ event ≠ .completionWaited
  waited : ∀ opcode requests, .payloadPosted opcode requests ∈ events → .payloadWaited ∈ events

/-- A payload that has been waited for is settled. -/
theorem payload_settled (opcode : TransferOpcode) (requests : List TransferRequest) :
    Settled [.payloadPosted opcode requests, .payloadWaited] :=
  ⟨by simp [Event.completion?], by simp⟩

/-- Events of other kinds do not unsettle a payload. -/
theorem Settled.cons {event : Event} {events : List Event} (h : Settled events)
    (hQuiet : event.completion? = none ∧ event ≠ .completionWaited)
    (hOther : ∀ opcode requests, event ≠ .payloadPosted opcode requests) :
    Settled (event :: events) where
  quiet := List.forall_mem_cons.mpr ⟨hQuiet, h.quiet⟩
  waited := by
    intro opcode requests hPosted
    rcases List.mem_cons.mp hPosted with hHere | hLater
    · exact absurd hHere.symm (hOther opcode requests)
    · exact List.mem_cons_of_mem _ (h.waited opcode requests hLater)

/-- The payload part of a history, from its post to its wait. -/
theorem payloadEvents_settled (state : PendingCommand) :
    Settled (payloadEvents state ++
      if state.completion.status = .success then [.payloadWaited] else []) := by
  unfold payloadEvents
  split
  · exact payload_settled ..
  · exact ⟨by simp, by simp⟩

/-- Up to the third phase a history loads the message once, from the slot of the command. -/
theorem settledEvents_cases :
    ∃ middle, workload.settledEvents command =
        .loaded (workload.slotOf command) (workload.traffic.message command) :: middle ∧
      (∀ slot bytes, .loaded slot bytes ∉ middle) ∧ Settled middle := by
  have hPayload := payloadEvents_settled (workload.resolved command)
  have hNoLoad : ∀ slot bytes, Event.loaded slot bytes ∉
      payloadEvents (workload.resolved command) ++
        if (workload.resolved command).completion.status = .success then [.payloadWaited]
        else [] := by
    intro slot bytes
    unfold payloadEvents
    split <;> simp
  cases hParsed : workload.parsed command with
  | error error =>
      refine ⟨[.payloadWaited], ?_, by simp, by simp [Event.completion?], by simp⟩
      simp [settledEvents, resolvedEvents, admittedEvents, loadedEvents, resolved, hParsed]
  | ok parsed =>
      obtain ⟨state, entries⟩ := parsed
      cases entries with
      | none =>
          refine ⟨_, ?_, hNoLoad, hPayload⟩
          have hSame : workload.resolved command = state := resolved_single hParsed
          simp [settledEvents, resolvedEvents, admittedEvents, loadedEvents, hSame, hParsed]
      | some entries =>
          refine ⟨.fetchPosted entries.address entries.remoteKey (descriptorBytes state.entryCount)
            :: .fetchWaited :: _, ?_, ?_, (hPayload.cons (by simp [Event.completion?])
              (by simp)).cons (by simp [Event.completion?]) (by simp)⟩
          · simp [settledEvents, resolvedEvents, admittedEvents, loadedEvents, hParsed]
          · intro slot bytes
            simpa using hNoLoad slot bytes

/-- The whole history of an accepted command splits at the completion. -/
theorem completedEvents_eq {parsed : PendingCommand × Option StorageMemory}
    (hParsed : workload.parsed command = .ok parsed) : workload.completedEvents command =
    workload.settledEvents command ++ workload.completionEvent command :: [.completionWaited] := by
  simp [completedEvents, answeredEvents, hParsed]

/-- The planned events wait for their payload. -/
theorem settledEvents_settled : Settled (workload.settledEvents command) := by
  obtain ⟨middle, hEvents, -, hSettled⟩ := workload.settledEvents_cases command
  rw [hEvents]
  exact hSettled.cons (by simp [Event.completion?]) (by simp)

/-- Only an accepted command is answered. -/
theorem accepted_of_answered {address : UInt64} {key length : UInt32} {bytes : Buffer}
    (h : .completionPosted address key length bytes ∈ workload.completedEvents command) :
    ∃ parsed, workload.parsed command = .ok parsed := by
  cases hParsed : workload.parsed command with
  | ok parsed => exact ⟨parsed, rfl⟩
  | error error =>
      simp only [completedEvents, answeredEvents, hParsed, List.append_nil, List.mem_append,
        List.mem_singleton, reduceCtorEq, or_false] at h
      cases ((workload.settledEvents_settled command).quiet _ h).1

/-- A completion can only be posted right after the third phase. -/
theorem settled_of_split {before after : List Event} {address : UInt64} {key length : UInt32}
    {bytes : Buffer}
    (h : before ++ .completionPosted address key length bytes :: after <+:
      workload.completedEvents command) :
    before = workload.settledEvents command := by
  obtain ⟨parsed, hParsed⟩ := workload.accepted_of_answered command
    (h.subset (List.mem_append_right _ List.mem_cons_self))
  obtain ⟨rest, hRest⟩ := h
  rw [workload.completedEvents_eq command hParsed, List.append_assoc, List.cons_append] at hRest
  have hQuiet := (workload.settledEvents_settled command).quiet
  rcases List.append_eq_append_iff.mp hRest with ⟨tail, hSettled, hTail⟩ |
    ⟨tail, hBefore, hTail⟩
  · cases tail with
    | nil => simpa using hSettled.symm
    | cons event tail =>
        rw [List.cons_append, List.cons.injEq] at hTail
        have hPosted := hQuiet event (hSettled ▸ List.mem_append_right _ List.mem_cons_self)
        rw [← hTail.1] at hPosted
        cases hPosted.1
  · cases tail with
    | nil => simpa using hBefore
    | cons event tail =>
        rw [List.cons_append, List.cons.injEq] at hTail
        cases tail with
        | nil => simp at hTail
        | cons event tail => simp at hTail

/-- Outside its completion, the history of a command is settled. -/
theorem completedEvents_cases {event : Event} (h : event ∈ workload.completedEvents command)
    (hQuiet : event.completion? = none ∧ event ≠ .completionWaited) :
    event ∈ workload.settledEvents command := by
  simp only [completedEvents, answeredEvents, List.mem_append, List.mem_singleton, hQuiet.2,
    or_false] at h
  refine h.resolve_right fun hAnswer => ?_
  split at hAnswer
  · simp at hAnswer
  · rw [List.mem_singleton.mp hAnswer] at hQuiet
    cases hQuiet.1

/-- A served command has one completion in its history. -/
theorem completedEvents_completion {parsed : PendingCommand × Option StorageMemory}
    (hParsed : workload.parsed command = .ok parsed) :
    (workload.completedEvents command).filterMap Event.completion? =
      [((workload.session.completionMemory (workload.slotIndexOf command)).address,
        (workload.session.completionMemory (workload.slotIndexOf command)).remoteKey,
        completionRecord (workload.resolved command).completion)] := by
  have hQuiet : (workload.settledEvents command).filterMap Event.completion? = [] :=
    List.filterMap_eq_nil_iff.mpr fun event hEvent =>
      ((workload.settledEvents_settled command).quiet event hEvent).1
  rw [workload.completedEvents_eq command hParsed, List.filterMap_append, hQuiet]
  rfl

end Workload

section Runs

variable {workload : Workload} {program : Program Call Call.Answer (Except Error Unit)}
  {fabric : Fabric}

/-- A worker reads the message of a command from the slot whose turn it is. -/
theorem loaded_eq (hInvariant : RunInvariant workload fabric) {command slot : Nat}
    {bytes : Buffer} (h : .loaded slot bytes ∈ fabric.history command) :
    slot = workload.slotOf command ∧ bytes = workload.traffic.message command := by
  have hPlanned := workload.completedEvents_cases command
    ((hInvariant.planned command).subset h) (by simp [Event.completion?])
  obtain ⟨middle, hEvents, hNoLoad, -⟩ := workload.settledEvents_cases command
  rw [hEvents] at hPlanned
  simpa [hNoLoad] using hPlanned

/-- A payload that was posted for a command has been waited for when its
completion is posted. -/
theorem payload_before_completion (hInvariant : RunInvariant workload fabric) {command : Nat}
    {before after : List Event} {address : UInt64} {key length : UInt32} {bytes : Buffer}
    (h : fabric.history command = before ++ .completionPosted address key length bytes :: after)
    {opcode : TransferOpcode} {requests : List TransferRequest}
    (hPosted : .payloadPosted opcode requests ∈ fabric.history command) :
    .payloadPosted opcode requests ∈ before ∧ .payloadWaited ∈ before := by
  have hPlanned := hInvariant.planned command
  have hBefore := workload.settled_of_split command (h ▸ hPlanned)
  have hSettled := workload.settledEvents_settled command
  have hMember := workload.completedEvents_cases command (hPlanned.subset hPosted)
    (by simp [Event.completion?])
  rw [hBefore]
  exact ⟨hMember, hSettled.waited opcode requests hMember⟩

/-- The completion record of a served command: complete, with the command's own identifier. -/
theorem completionRecord_eq {command : Nat} {parsed : PendingCommand × Option StorageMemory}
    (hParsed : workload.parsed command = .ok parsed) :
    ∃ completion, deserializeStorageCompletion
        (completionRecord (workload.resolved command).completion) = .ok completion ∧
      completion.state = .complete ∧
      completion.commandId = carriedCommandId (workload.traffic.message command) ∧
      completion.commandId ≠ 0 := by
  obtain ⟨-, hComplete, hId, hNonzero⟩ := workload.resolved_accepted command hParsed
  obtain ⟨hCarried, -⟩ := parseCommand_carried hParsed
  refine ⟨_, deserializeStorageCompletion_layout _ (by simp)
    (workload.resolved_completionValid command hParsed), hComplete, hId.trans hCarried,
    hId ▸ hNonzero⟩

/-- A worker that has returned without an error has answered all its commands. -/
theorem answered_of_returned
    (hRun : WorkerReaches workload.traffic workload.session workload.worker (.done (.ok ()))
      fabric) {command : Nat} (hCommand : command < workload.worker.commandCount) :
    workload.completionEvent command ∈ fabric.history command := by
  obtain ⟨-, -, -, hDone, hAccepted⟩ := hRun.safe
  obtain ⟨parsed, hParsed⟩ := hAccepted command hCommand
  rw [hDone command hCommand, workload.completedEvents_eq command hParsed]
  exact List.mem_append_right _ List.mem_cons_self

/-- Every run of a worker: commands take the slots in turn, the buffer of a
slot is not offered for receive again while its command is being processed, a
completion follows the wait for the payload, and a worker that returns without
an error has consumed `commandCount` messages and posted one completion for
each of them, to the completion address of the slot the command named and with
the command's own identifier. -/
theorem runWorker_answers_once
    (hRun : WorkerReaches workload.traffic workload.session workload.worker program fabric) :
    (∀ command, command < fabric.received →
      fabric.receives[command]? = some (command % activeSlots workload.worker) ∧
      (.completionWaited ∉ fabric.history command →
        command % activeSlots workload.worker ∉ fabric.receives.drop fabric.received)) ∧
    (∀ command slot bytes, .loaded slot bytes ∈ fabric.history command →
      slot = command % activeSlots workload.worker ∧
        bytes = workload.traffic.message command) ∧
    (∀ command before address key length bytes after opcode requests,
      fabric.history command = before ++ .completionPosted address key length bytes :: after →
      .payloadPosted opcode requests ∈ fabric.history command →
      .payloadPosted opcode requests ∈ before ∧ .payloadWaited ∈ before) ∧
    (program = .done (.ok ()) →
      fabric.received = workload.worker.commandCount ∧
      (∀ command, workload.worker.commandCount ≤ command → fabric.history command = []) ∧
      ∀ command, command < workload.worker.commandCount →
        (fabric.history command).head? = some (.loaded (command % activeSlots workload.worker)
          (workload.traffic.message command)) ∧
        ∃ record completion,
          (fabric.history command).filterMap Event.completion? =
            [((workload.session.completionMemory
                (carriedSlotIndex (workload.traffic.message command))).address,
              (workload.session.completionMemory
                (carriedSlotIndex (workload.traffic.message command))).remoteKey, record)] ∧
          deserializeStorageCompletion record = .ok completion ∧
          completion.state = .complete ∧
          completion.commandId = carriedCommandId (workload.traffic.message command) ∧
          completion.commandId ≠ 0) ∧
    (∀ error, program = .done (.error error) → fabric.failure = none →
      error ≠ protocolError "invalid storage completion") := by
  have hInvariant := hRun.invariant
  have hSafe := hRun.safe
  refine ⟨fun command hCommand => ⟨?_, hInvariant.undisturbed command hCommand⟩,
    fun command slot bytes hLoaded => loaded_eq hInvariant hLoaded,
    fun command before address key length bytes after opcode requests hSplit hPosted =>
      payload_before_completion hInvariant hSplit hPosted, ?_, ?_⟩
  · have hPosted : command < fabric.receives.length :=
      Nat.lt_of_lt_of_le hCommand hInvariant.consumed
    rw [hInvariant.receives, List.getElem?_map, List.getElem?_range hPosted]
    rfl
  · rintro rfl
    obtain ⟨-, -, hReceived, hDone, hAccepted⟩ := hSafe
    refine ⟨hReceived, fun command hCommand => hInvariant.fresh command (hReceived ▸ hCommand),
      fun command hCommand => ?_⟩
    obtain ⟨parsed, hParsed⟩ := hAccepted command hCommand
    obtain ⟨-, hSlot⟩ := parseCommand_carried hParsed
    obtain ⟨middle, hEvents, -, -⟩ := workload.settledEvents_cases command
    rw [hDone command hCommand, ← hSlot]
    refine ⟨?_, completionRecord (workload.resolved command).completion, ?_⟩
    · rw [workload.completedEvents_eq command hParsed, hEvents]
      rfl
    · obtain ⟨completion, hRecord⟩ := completionRecord_eq hParsed
      exact ⟨completion, workload.completedEvents_completion command hParsed, hRecord⟩
  · rintro error rfl hHealthy rfl
    cases hSafe.cause with
    | transport hFailure =>
        rw [hHealthy] at hFailure
        cases hFailure
    | refused _ hReceived hParsed =>
        obtain ⟨message, hMessage, hError⟩ := parseCommand_error hParsed
        simp only [protocolError, Error.mk.injEq, true_and] at hError
        subst hError
        simp [refusalMessages] at hMessage
    | noSlots _ hSlots hError => cases hError

end Runs

/-- One worker with one slot, and a client that reads 32 bytes at offset 16. -/
def singleRead : Workload where
  traffic := {
    message := fun _ => commandLayout .read {
      commandId := 7
      offset := 16
      length := 32
      data := { address := 4096, length := 32, remoteKey := 5 }
      slotIndex := 0 } kRemoteWrite (List.replicate kStorageCommandBytes 0)
    descriptors := fun _ => []
    message_length := fun _ => by simp }
  session := {
    storageSize := 64
    slots := [{
      command := { address := 8192, length := 64, remoteKey := 5 }
      completion := { address := 12288, length := 32, remoteKey := 5 }
      qpIndex := 0
      reserved := 0 }] }
  worker := { qpIndex := 0, commandCount := 1, slots := [0] }

/-- The entries of a batch of two writes. -/
def mixedEntries : Buffer :=
  let entry (offset length : UInt64) : StorageBatchEntry := {
    offset := offset
    length := length
    data := { address := 4096 + offset, length := length, remoteKey := 5 } }
  (serializeStorageBatchWriteEntry (entry 0 16) (List.replicate kStorageBatchEntryBytes 0)).2 ++
    (serializeStorageBatchWriteEntry (entry 48 8) (List.replicate kStorageBatchEntryBytes 0)).2

/-- A read, that batch, a write past the end and another read, from two slots in turn. -/
def mixedCommand : Nat → StorageOperation × StorageTransferCommand × UInt32
  | 0 => (.read, {
      commandId := 7
      offset := 16
      length := 32
      data := { address := 4096, length := 32, remoteKey := 5 }
      slotIndex := 0 }, kRemoteWrite)
  | 1 => (.batchWrite, {
      commandId := 8
      offset := 2
      length := 24
      data := { address := 8192, length := 80, remoteKey := 6 }
      slotIndex := 1 }, kRemoteRead)
  | 2 => (.write, {
      commandId := 9
      offset := 64
      length := 8
      data := { address := 4096, length := 8, remoteKey := 5 }
      slotIndex := 0 }, kRemoteRead)
  | _ => (.read, {
      commandId := 10
      offset := 0
      length := 64
      data := { address := 4096, length := 64, remoteKey := 5 }
      slotIndex := 1 }, kRemoteWrite)

/-- A worker with two slots, which receives these commands in two windows. -/
def mixedWindows : Workload where
  traffic := {
    message := fun turn => commandLayout (mixedCommand turn).1 (mixedCommand turn).2.1
      (mixedCommand turn).2.2 (List.replicate kStorageCommandBytes 0)
    descriptors := fun _ => mixedEntries
    message_length := fun _ => by simp }
  session := {
    storageSize := 64
    slots := (List.range 2).map fun slot => {
      command := { address := 8192 + 64 * UInt64.ofNat slot, length := 64, remoteKey := 5 }
      completion := { address := 12288 + 32 * UInt64.ofNat slot, length := 32, remoteKey := 5 }
      qpIndex := 0
      reserved := 0 } }
  worker := { qpIndex := 0, commandCount := 4, slots := [0, 1] }

/-- The scheduler takes this worker to its end. -/
theorem mixedWindows_returned :
    (runFor mixedWindows.traffic mixedWindows.session mixedWindows.worker 4 60).1 =
      .done (.ok ()) :=
  Config.outcome?_eq (by decide +kernel)

/-- Each slot is received into and answered twice, in turn. -/
theorem runWorker_answers_mixed :
    ∃ fabric, WorkerReaches mixedWindows.traffic mixedWindows.session mixedWindows.worker
        (.done (.ok ())) fabric ∧
      fabric.received = 4 ∧ ∀ command, command < 4 →
        fabric.receives[command]? = some (command % 2) ∧
        ((fabric.history command).filterMap Event.completion?).map (fun posted => posted.1) =
          [12288 + 32 * UInt64.ofNat (command % 2)] := by
  have hRun := runFor_reaches mixedWindows.traffic mixedWindows.session mixedWindows.worker 4 60
  rw [mixedWindows_returned] at hRun
  have hSlots : ∀ command, command < 4 → (mixedWindows.session.completionMemory
      (carriedSlotIndex (mixedWindows.traffic.message command))).address =
        12288 + 32 * UInt64.ofNat (command % 2) := by
    decide +kernel
  obtain ⟨hTurns, -, -, hServed, -⟩ := runWorker_answers_once hRun
  obtain ⟨hReceived, -, hAnswers⟩ := hServed rfl
  refine ⟨_, hRun, hReceived, fun command hCommand => ?_⟩
  obtain ⟨-, record, completion, hPosted, -⟩ := hAnswers command hCommand
  refine ⟨(hTurns command (hReceived.symm ▸ hCommand)).1, ?_⟩
  rw [hPosted, List.map_singleton, hSlots command hCommand]

end NdsStorage.Server
