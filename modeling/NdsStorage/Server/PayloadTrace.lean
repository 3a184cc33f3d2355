import NdsStorage.Server.Transfer

/-! Payloads that may still move bytes. A payload is open from its post to the
return of its wait. When a batch is refused, the requests before the refused
one have been posted too; the worker ends and nobody waits for them. An open
payload belongs to a valid command that has not been answered. -/
namespace NdsStorage.Server

open Bytes Interaction

namespace Fabric

def PayloadOpen (fabric : Fabric) (command : Nat) (opcode : TransferOpcode)
    (requests : List TransferRequest) : Prop :=
  (.payloadPosted opcode requests ∈ fabric.history command ∧
    .payloadWaited ∉ fabric.history command) ∨
  fabric.refused = some (command, opcode, requests)

/-- The completion record of a command has been posted. -/
def Answered (fabric : Fabric) (command : Nat) : Prop :=
  ∃ address key length bytes,
    .completionPosted address key length bytes ∈ fabric.history command

end Fabric

variable {workload : Workload} {config : Config} {command : Nat}

/-- Only a failed call has a refused batch, and the requests of that batch are
the next events of the plan. -/
theorem refused_planned
    (hRun : (fabricWorld workload.traffic workload.session).Reaches
      ((runWorker workload.session workload.worker).run, Fabric.initial) config)
    {opcode : TransferOpcode} {accepted : List TransferRequest}
    (hRefused : config.2.refused = some (command, opcode, accepted)) :
    config.2.failure ≠ none ∧ ∃ requests, accepted <+: requests ∧
      config.2.history command ++ [.payloadPosted opcode requests] <+:
        workload.completedEvents command := by
  induction hRun with
  | refl => cases hRefused
  | tail hRun hStep ih =>
      cases hStep with
      | drift hDrift =>
          obtain ⟨-, rfl⟩ := hDrift
          exact ih hRefused
      | @reply call next fabric fabric' answer hReply =>
          have hSafe : CallSafe workload fabric call := WorkerReaches.callSafe hRun
          have hNone : fabric.refused ≠ some (command, opcode, accepted) := fun hEarlier =>
            (ih hEarlier).1 hSafe.healthy
          cases hReply with
          | failed hFailure hRoom =>
              cases call with
              | postTransferBatch slot opcode' requests =>
                  cases hRefused
                  exact ⟨Option.some_ne_none _, requests, List.take_prefix ..,
                    hSafe.planned slot _ rfl⟩
              | postReceive => exact absurd hRefused hNone
              | waitReceive => exact absurd hRefused hNone
              | loadCommand => exact absurd hRefused hNone
              | postRead => exact absurd hRefused hNone
              | waitRead => exact absurd hRefused hNone
              | loadEntries => exact absurd hRefused hNone
              | waitTransferBatch => exact absurd hRefused hNone
              | loadCompletion => exact absurd hRefused hNone
              | storeCompletion => exact absurd hRefused hNone
              | postWrite => exact absurd hRefused hNone
              | waitWrite => exact absurd hRefused hNone
          | postReceive => exact absurd hRefused hNone
          | waitReceive => exact absurd hRefused hNone
          | loadCommand => exact absurd hRefused hNone
          | postRead => exact absurd hRefused hNone
          | waitRead => exact absurd hRefused hNone
          | loadEntries => exact absurd hRefused hNone
          | postTransferBatch => exact absurd hRefused hNone
          | waitTransferBatch => exact absurd hRefused hNone
          | loadCompletion => exact absurd hRefused hNone
          | storeCompletion => exact absurd hRefused hNone
          | postWrite => exact absurd hRefused hNone
          | waitWrite => exact absurd hRefused hNone

/-- In a plan no payload follows the completion. -/
theorem not_answered_of_next {events : List Event} {opcode : TransferOpcode}
    {requests : List TransferRequest}
    (h : events ++ [.payloadPosted opcode requests] <+: workload.completedEvents command)
    {address : UInt64} {key length : UInt32} {bytes : Buffer} :
    .completionPosted address key length bytes ∉ events := by
  intro hAnswered
  obtain ⟨before, after, rfl⟩ := List.append_of_mem hAnswered
  have hPlanned := h.subset (List.mem_append_left _ hAnswered)
  obtain ⟨parsed, hParsed⟩ := workload.accepted_of_answered command hPlanned
  rw [List.append_assoc, List.cons_append] at h
  have hBefore := workload.settled_of_split command h
  rw [workload.completedEvents_eq command hParsed, hBefore] at h
  have hRest := (List.prefix_append_right_inj _).mp h
  have hLength := hRest.length_le
  have hAfter : after = [] := by
    simp only [List.length_cons, List.length_append, List.length_nil] at hLength
    exact List.eq_nil_of_length_eq_zero (by omega)
  subst hAfter
  simp at hRest

/-- An open payload belongs to a received and unanswered command, and its
requests are those that the command describes, or the first of them. -/
theorem payload_open
    (hRun : WorkerReaches workload.traffic workload.session workload.worker config.1 config.2)
    {opcode : TransferOpcode} {requests : List TransferRequest}
    (hOpen : config.2.PayloadOpen command opcode requests) :
    command < config.2.received ∧ ¬config.2.Answered command ∧
      ∃ operation entries,
        deserializeStorageOperation (workload.traffic.message command) = .ok operation ∧
        described workload.session.storageSize (workload.traffic.message command)
          (workload.traffic.descriptors command) = some entries ∧
        opcode = payloadOpcode operation.isRead ∧ requests <+: entries.map entryRequest ∧
        ∀ entry ∈ entries, (entryRequest entry).length.toNat = entry.length.toNat := by
  have hInvariant := hRun.invariant
  have hReceived : config.2.history command ≠ [] → command < config.2.received := by
    intro hSome
    by_contra hEarly
    exact hSome (hInvariant.fresh command (Nat.le_of_not_lt hEarly))
  rcases hOpen with ⟨hPosted, hUnwaited⟩ | hRefused
  · refine ⟨hReceived (List.ne_nil_of_mem hPosted), ?_, ?_⟩
    · rintro ⟨address, key, length, bytes, hAnswered⟩
      obtain ⟨before, after, hSplit⟩ := List.append_of_mem hAnswered
      have hWaited := (payload_before_completion hInvariant hSplit hPosted).2
      exact hUnwaited (hSplit ▸ List.mem_append_left _ hWaited)
    · obtain ⟨operation, entries, hOperation, hEntries, hOpcode, hSame, hExact⟩ :=
        planned_described ((hInvariant.planned command).subset hPosted)
      exact ⟨operation, entries, hOperation, hEntries, hOpcode, hSame ▸ List.prefix_refl _, hExact⟩
  · obtain ⟨-, planned, hPrefix, hNext⟩ := refused_planned hRun hRefused
    refine ⟨hReceived ?_, ?_, ?_⟩
    · intro hEmpty
      rw [hEmpty] at hNext
      have hLoaded : workload.loadedEvents command <+: workload.completedEvents command :=
        isPrefix_completed.1
      have hSame := List.prefix_of_prefix_length_le hNext hLoaded (Nat.le_refl 1)
      simp [Workload.loadedEvents] at hSame
    · rintro ⟨address, key, length, bytes, hAnswered⟩
      exact not_answered_of_next hNext hAnswered
    · obtain ⟨operation, entries, hOperation, hEntries, hOpcode, hSame, hExact⟩ :=
        planned_described (hNext.subset (List.mem_append_right _ (List.mem_singleton_self _)))
      exact ⟨operation, entries, hOperation, hEntries, hOpcode, hSame ▸ hPrefix, hExact⟩

/-- An answered command that describes transfers has posted them and waited for them. -/
theorem answered_described
    (hInvariant : RunInvariant workload config.2) (hAnswered : config.2.Answered command)
    {entries : List StorageBatchEntry}
    (hEntries : described workload.session.storageSize (workload.traffic.message command)
      (workload.traffic.descriptors command) = some entries) :
    ∃ opcode, .payloadPosted opcode (entries.map entryRequest) ∈ config.2.history command ∧
      .payloadWaited ∈ config.2.history command := by
  obtain ⟨address, key, length, bytes, hCompletion⟩ := hAnswered
  obtain ⟨parsed, hParsed⟩ := workload.accepted_of_answered command
    ((hInvariant.planned command).subset hCompletion)
  obtain ⟨hVerdict, -⟩ := resolved_verdict hParsed
  have hSuccess : (workload.resolved command).completion.status = .success :=
    hVerdict.success_iff.mpr (by simp [hEntries])
  have hPayload := history_payload hInvariant hCompletion
  rw [settledEvents_payload hParsed, if_pos hSuccess, hVerdict.requests_eq entries hEntries]
    at hPayload
  obtain ⟨event, hEvent, hSame⟩ := List.mem_filterMap.mp
    (hPayload ▸ List.mem_singleton_self _)
  cases event with
  | payloadPosted opcode requests =>
      obtain ⟨rfl, rfl⟩ := Prod.mk.inj (Option.some.inj hSame)
      obtain ⟨before, after, hSplit⟩ := List.append_of_mem hCompletion
      have hWaited := (payload_before_completion hInvariant hSplit hEvent).2
      exact ⟨_, hEvent, hSplit ▸ List.mem_append_left _ hWaited⟩
  | loaded => cases hSame
  | fetchPosted => cases hSame
  | fetchWaited => cases hSame
  | payloadWaited => cases hSame
  | completionPosted => cases hSame
  | completionWaited => cases hSame

end NdsStorage.Server
