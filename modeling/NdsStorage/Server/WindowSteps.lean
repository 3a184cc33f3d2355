import NdsStorage.Server.CallRules

/-! One command in each phase of a window. The rules here are stated for
whatever stage the run is in; they say what the phase adds to the history of
the command and to the send queue. -/
namespace NdsStorage.Server

open Bytes Interaction

/-- Every stage of a command is a part of its plan. -/
theorem isPrefix_completed {workload : Workload} {command : Nat} :
    workload.loadedEvents command <+: workload.completedEvents command ∧
    workload.admittedEvents command <+: workload.completedEvents command ∧
    workload.resolvedEvents command <+: workload.completedEvents command ∧
    workload.settledEvents command <+: workload.completedEvents command ∧
    workload.answeredEvents command <+: workload.completedEvents command := by
  have hAnswered := workload.completed_isPrefix command
  have hSettled := (workload.answered_isPrefix command).trans hAnswered
  have hResolved := (workload.settled_isPrefix command).trans hSettled
  have hAdmitted := (workload.resolved_isPrefix command).trans hResolved
  exact ⟨(workload.admitted_isPrefix command).trans hAdmitted, hAdmitted, hResolved, hSettled,
    hAnswered⟩

section Steps

variable {workload : Workload} {stage : Stage} {fabric : Fabric} {command : Nat}

/-- The descriptors of an accepted batch are waited for. -/
theorem fetchWaited_isPrefix {state : PendingCommand} {entries : StorageMemory}
    (hParsed : workload.parsed command = .ok (state, some entries)) :
    workload.admittedEvents command ++ [Event.fetchWaited] <+:
      workload.completedEvents command := by
  apply List.IsPrefix.trans _ isPrefix_completed.2.2.1
  rw [Workload.resolvedEvents_batch hParsed]
  exact (List.prefix_append_right_inj _).mpr (List.prefix_append [Event.fetchWaited] _)

/-- One round of the first phase, for whatever stage it starts from. -/
theorem safe_receiveCommand {next : PendingCommand → Fabric → Prop}
    (hSound : stage.Sound workload) (hCommand : stage.received = command)
    (hPosted : stage.posted ≤ stage.base + workload.active) (hBase : stage.base ≤ command)
    (hExpected : command < workload.commandCount) (hActive : 0 < workload.active)
    (hFits : stage.sent - stage.floor + 1 ≤ kQpDepth)
    (hRefused : ∀ fabric state, workload.parsed command = .ok (state, none) →
      state.completion.status ≠ .success →
      At workload ({ stage with received := command + 1 }.write command
        (workload.admittedEvents command)) fabric → next state fabric)
    (hSingle : ∀ fabric state, workload.parsed command = .ok (state, none) →
      state.completion.status = .success →
      At workload (({ stage with received := command + 1 }.post 1 ⟨command,
        workload.slotOf command, .payload (payloadOpcode state.storageRead)⟩).write command
        (workload.admittedEvents command)) fabric →
      next { state with payloadWrId := stage.sent, payloadPending := true } fabric)
    (hBatch : ∀ fabric state entries, workload.parsed command = .ok (state, some entries) →
      At workload (({ stage with received := command + 1 }.post 1 ⟨command,
        workload.slotOf command, .fetch (descriptorBytes state.entryCount)⟩).write command
        (workload.admittedEvents command)) fabric →
      next { state with descriptorWrId := stage.sent, descriptorPending := true } fabric)
    (h : At workload stage fabric) :
    SafeRun workload next
      (receiveCommand workload.session workload.worker (workload.slotOf command)) fabric := by
  have hReceived := hSound.receive (hCommand ▸ hExpected) hPosted
  rw [hCommand] at hReceived
  have hLoaded := hReceived.write hBase (Nat.lt_succ_self command) isPrefix_completed.1
  have hEmpty := hSound.fresh command (Nat.le_of_eq hCommand)
  have hTurn : command + 1 ≤ command + workload.active := by omega
  unfold receiveCommand
  refine Safe.seqFallible (fun _ => At workload { stage with received := command + 1 })
    (safe_waitReceive hSound (hCommand ▸ hExpected) (fun _ h => hCommand ▸ h) h)
    fun _ fabric h => ?_
  refine Safe.seqFallible (fun bytes fabric =>
      bytes = workload.traffic.message command ∧
        At workload ({ stage with received := command + 1 }.write command
          (workload.loadedEvents command)) fabric)
    (safe_loadCommand hReceived (Nat.lt_succ_self command)
      (Nat.le_trans hPosted (Nat.add_le_add_right hBase _)) hTurn (fun fabric h => ⟨rfl, ?_⟩) h)
    fun bytes fabric h => ?_
  · rw [Stage.record] at h
    simp only [hEmpty, List.nil_append] at h
    exact h
  obtain ⟨rfl, h⟩ := h
  refine Safe.bindFallible ?_
  change Safe.outcome _ _ (workload.parsed command) fabric
  have hEvents : workload.admittedEvents command = workload.loadedEvents command ++ _ := rfl
  cases hParsed : workload.parsed command with
  | error error => exact ⟨h.invariant hLoaded, .refused h.healthy
      (h.received_eq ▸ Nat.lt_succ_self command) hParsed⟩
  | ok parsed =>
      obtain ⟨state, entries⟩ := parsed
      rw [hParsed] at hEvents
      have hAccepted := parseCommand_accepted hParsed
      cases entries with
      | some entries =>
          have hPlanned : workload.loadedEvents command ++ [.fetchPosted entries.address
              entries.remoteKey (descriptorBytes state.entryCount)] <+:
                workload.completedEvents command := by
            rw [← hEvents]
            exact isPrefix_completed.2.1
          refine Safe.seqFallible (fun wrId fabric => wrId = stage.sent ∧
              At workload (({ stage with received := command + 1 }.post 1 ⟨command,
                workload.slotOf command, .fetch (descriptorBytes state.entryCount)⟩).write
                command (workload.admittedEvents command)) fabric)
            (safe_postRead hLoaded (Nat.lt_succ_self command) hTurn (fun _ => hFits)
              (by rwa [Stage.write_history]) (fun fabric h => ⟨rfl, ?_⟩) h) fun wrId fabric h => ?_
          · rw [hEvents]
            exact Stage.write_record _ command _ _ ▸ h
          · obtain ⟨rfl, h⟩ := h
            exact hBatch fabric state entries hParsed h
      | none =>
          change SafeRun workload next (if state.completion.status = .success
            then postPayload state else pure state) fabric
          by_cases hStatus : state.completion.status = .success
          · have hOne := parseCommand_single hParsed hStatus
            simp only [payloadEvents, if_pos hStatus] at hEvents
            rw [if_pos hStatus]
            have hPlanned : workload.loadedEvents command ++
                [.payloadPosted (payloadOpcode state.storageRead) state.requests] <+:
                  workload.completedEvents command := by
              rw [← hEvents]
              exact isPrefix_completed.2.1
            refine safe_postPayload hLoaded hAccepted.slot_eq (Nat.lt_succ_self command) hTurn
              (fun _ => by rw [hOne]; exact hFits) (by rwa [Stage.write_history])
              (fun fabric _ h => ?_) h
            rw [hOne] at h ⊢
            refine hSingle fabric state hParsed hStatus ?_
            rw [hEvents]
            exact Stage.write_record _ command _ _ ▸ h
          · simp only [payloadEvents, if_neg hStatus, List.append_nil] at hEvents
            rw [if_neg hStatus]
            exact hRefused fabric state hParsed hStatus (hEvents ▸ h)

/-- One round of the second phase, for a batch whose descriptors are being fetched. -/
theorem safe_resolveBatch {next : PendingCommand → Fabric → Prop} {wrId : Nat}
    {state : PendingCommand} {entries : StorageMemory} (hSound : stage.Sound workload)
    (hParsed : workload.parsed command = .ok (state, some entries))
    (hPost : stage.posts wrId =
      ⟨command, workload.slotOf command, .fetch (descriptorBytes state.entryCount)⟩)
    (hBase : stage.base ≤ command) (hReceived : command < stage.received)
    (hTurn : stage.received ≤ command + workload.active)
    (hHistory : stage.history command = workload.admittedEvents command)
    (hFits : workload.SendBudget →
      (workload.resolved command).completion.status = .success →
      stage.sent - max stage.floor (wrId + 1) + (workload.resolved command).requests.length ≤
        kQpDepth)
    (hRefused : ∀ fabric, (workload.resolved command).completion.status ≠ .success →
      At workload ({ stage with floor := max stage.floor (wrId + 1) }.write command
        (workload.resolvedEvents command)) fabric →
      next { workload.resolved command with
        descriptorWrId := wrId
        descriptorPending := true } fabric)
    (hPosted : ∀ fabric, (workload.resolved command).completion.status = .success →
      0 < (workload.resolved command).requests.length →
      At workload (({ stage with floor := max stage.floor (wrId + 1) }.post
        (workload.resolved command).requests.length ⟨command, workload.slotOf command,
          .payload (payloadOpcode (workload.resolved command).storageRead)⟩).write command
        (workload.resolvedEvents command)) fabric →
      next { workload.resolved command with
        descriptorWrId := wrId
        descriptorPending := true
        payloadWrId := stage.sent + (workload.resolved command).requests.length - 1
        payloadPending := true } fabric)
    (h : At workload stage fabric) :
    SafeRun workload next (resolveBatch workload.session
      { state with descriptorWrId := wrId, descriptorPending := true }) fabric := by
  have hAccepted := parseCommand_accepted hParsed
  have hSlot : state.slot = workload.slotOf command := hAccepted.slot_eq
  have hCount := (parseCommand_batch hParsed).2.2.2
  have hEvents := Workload.resolvedEvents_batch hParsed
  have hFloor : ({ stage with floor := max stage.floor (wrId + 1) } : Stage).Sound workload :=
    { hSound with }
  have hWaited := hFloor.write hBase hReceived (fetchWaited_isPrefix hParsed)
  unfold resolveBatch
  rw [if_pos rfl]
  refine Safe.seqFallible (fun _ fabric => ∃ buffer,
      At workload ({ stage with floor := max stage.floor (wrId + 1) }.write command
        (workload.admittedEvents command ++ [Event.fetchWaited])) fabric ∧
      buffer.length = kStorageMaxBatchEntries * kStorageBatchEntryBytes ∧
      fabric.entryBytes (workload.slotOf command) = put buffer 0
        (slice (workload.traffic.descriptors command) 0
          (descriptorBytes state.entryCount).toNat))
    (safe_waitRead hSound hPost (fun fabric buffer h hLength hBytes =>
      ⟨buffer, ?_, hLength, hBytes⟩) h) fun _ fabric h => ?_
  · rw [Stage.record] at h
    simp only [hHistory] at h
    exact h
  obtain ⟨buffer, h, hLength, hBytes⟩ := h
  refine Safe.seqFallible (fun bytes fabric => bytes = put buffer 0
        (slice (workload.traffic.descriptors command) 0
          (descriptorBytes state.entryCount).toNat) ∧ At workload _ fabric)
    (safe_loadEntries hWaited (fun _ h => ⟨rfl, h⟩) h (hSlot ▸ hBytes))
    fun bytes fabric h => ?_
  obtain ⟨rfl, h⟩ := h
  have hDecoded : decodeBatch workload.session.storageSize
      { state with descriptorWrId := wrId, descriptorPending := true }
      (put buffer 0 (slice (workload.traffic.descriptors command) 0
        (descriptorBytes state.entryCount).toNat)) =
      { workload.resolved command with
        descriptorWrId := wrId
        descriptorPending := true } := by
    rw [decodeBatch_pending, decodeBatch_landed hLength hCount, Workload.resolved_batch hParsed]
  rw [hDecoded]
  by_cases hStatus : (workload.resolved command).completion.status = .success
  · rw [if_pos hStatus]
    simp only [payloadEvents, if_pos hStatus] at hEvents
    have hPlanned : workload.admittedEvents command ++ [.fetchWaited] ++
        [.payloadPosted (payloadOpcode (workload.resolved command).storageRead)
          (workload.resolved command).requests] <+: workload.completedEvents command := by
      rw [List.append_assoc]
      exact hEvents ▸ isPrefix_completed.2.2.1
    refine safe_postPayload hWaited (workload.resolved_accepted command hParsed).1 hReceived hTurn
      (fun hBudget => hFits hBudget hStatus) (by rwa [Stage.write_history])
      (fun fabric hSome h => ?_) h
    refine hPosted fabric hStatus hSome ?_
    rw [hEvents]
    have hWrite := Stage.write_record (({ stage with
      floor := max stage.floor (wrId + 1) } : Stage).post
        (workload.resolved command).requests.length ⟨command, workload.slotOf command,
          .payload (payloadOpcode (workload.resolved command).storageRead)⟩) command
      (workload.admittedEvents command ++ [.fetchWaited])
      (.payloadPosted (payloadOpcode (workload.resolved command).storageRead)
        (workload.resolved command).requests)
    rw [List.append_assoc] at hWrite
    exact hWrite ▸ h
  · rw [if_neg hStatus]
    simp only [payloadEvents, if_neg hStatus] at hEvents
    exact hRefused fabric hStatus (hEvents ▸ h)

/-- What the second phase leaves of an accepted command: its verdict, and for a
valid command the request that carries its payload. -/
structure ResolvedAs (workload : Workload) (posts : Nat → Post) (command payloadEnd : Nat)
    (state : PendingCommand) : Prop where
  slot_eq : state.slot = workload.slotOf command
  accepted : ∃ parsed, workload.parsed command = .ok parsed
  completion_eq : state.completion = (workload.resolved command).completion
  pending_iff : state.payloadPending = true ↔
    (workload.resolved command).completion.status = .success
  post_eq : state.payloadPending = true → state.payloadWrId + 1 = payloadEnd ∧
    posts state.payloadWrId =
      ⟨command, workload.slotOf command, .payload (payloadOpcode state.storageRead)⟩

/-- One round of the third phase. -/
theorem safe_waitPayload {next : Unit → Fabric → Prop} {state : PendingCommand} {payloadEnd : Nat}
    (hSound : stage.Sound workload)
    (hState : ResolvedAs workload stage.posts command payloadEnd state)
    (hHistory : stage.history command = workload.resolvedEvents command)
    (hIdle : ∀ fabric, (workload.resolved command).completion.status ≠ .success →
      At workload (stage.write command (workload.settledEvents command)) fabric →
      next () fabric)
    (hWaited : ∀ fabric, (workload.resolved command).completion.status = .success →
      At workload ({ stage with floor := max stage.floor payloadEnd }.write command
        (workload.settledEvents command)) fabric → next () fabric)
    (h : At workload stage fabric) : SafeRun workload next (waitPayload state) fabric := by
  by_cases hPending : state.payloadPending = true
  · have hStatus := hState.pending_iff.mp hPending
    obtain ⟨hEnd, hPost⟩ := hState.post_eq hPending
    have hWait : waitPayload state = ExceptT.mk (.ask (Call.waitTransferBatch
        (payloadOpcode state.storageRead) state.payloadWrId)) := by
      unfold waitPayload
      rw [if_pos hPending]
      cases state.storageRead with
      | true => rfl
      | false => rfl
    rw [hWait]
    refine safe_waitTransferBatch hSound hPost (fun fabric h => hWaited fabric hStatus ?_) h
    have hEvents : workload.settledEvents command =
        workload.resolvedEvents command ++ [.payloadWaited] := by
      simp only [Workload.settledEvents, if_pos hStatus]
    rw [hEvents, ← hHistory, ← hEnd]
    exact h
  · have hStatus := mt hState.pending_iff.mpr hPending
    have hEvents : workload.settledEvents command = stage.history command := by
      simp only [Workload.settledEvents, if_neg hStatus, List.append_nil, hHistory]
    unfold waitPayload
    rw [if_neg hPending]
    refine hIdle fabric hStatus ?_
    rw [hEvents]
    unfold Stage.write
    rw [Function.update_eq_self]
    exact h

/-- A cleared record does not depend on what the buffer held before. -/
theorem completionLayout_eq (completion : StorageCompletion) {buffer : Buffer}
    (hLength : buffer.length = kStorageCompletionBytes) :
    completionLayout completion buffer = completionRecord completion := by
  have hClear : ∀ bytes : Buffer, bytes.length = kStorageCompletionBytes →
      clear bytes kStorageCompletionBytes = List.replicate kStorageCompletionBytes 0 := by
    intro bytes hBytes
    have hSlice := slice_clear (Nat.le_of_eq hBytes.symm)
      (Nat.le_of_eq (Nat.zero_add kStorageCompletionBytes))
    rw [← hSlice]
    conv_lhs => rw [← slice_all (clear bytes kStorageCompletionBytes), clear_length, hBytes]
  unfold completionRecord completionLayout
  rw [hClear buffer hLength, hClear _ List.length_replicate]

/-- One round of the fourth phase. The record of an accepted command is always valid. -/
theorem safe_postCompletion {next : PendingCommand → Fabric → Prop} {state : PendingCommand}
    {payloadEnd : Nat} {posts : Nat → Post} (hSound : stage.Sound workload)
    (hState : ResolvedAs workload posts command payloadEnd state)
    (hReceived : command < stage.received)
    (hTurn : stage.received ≤ command + workload.active)
    (hHistory : stage.history command = workload.settledEvents command)
    (hFits : stage.sent - stage.floor + 1 ≤ kQpDepth)
    (hNext : ∀ fabric, At workload ((stage.post 1 ⟨command, workload.slotOf command,
        .completion⟩).write command (workload.answeredEvents command)) fabric →
      next { state with completionWrId := stage.sent } fabric)
    (h : At workload stage fabric) :
    SafeRun workload next (postCompletion workload.session workload.worker state) fabric := by
  obtain ⟨parsed, hParsed⟩ := hState.accepted
  have hValid := workload.resolved_completionValid command hParsed
  unfold postCompletion
  refine Safe.seqFallible (fun buffer fabric =>
      buffer.length = kStorageCompletionBytes ∧ At workload stage fabric)
    (safe_loadCompletion hSound (fun _ _ h hLength => ⟨hLength, h⟩) h) fun buffer fabric h => ?_
  obtain ⟨hLength, h⟩ := h
  have hSerialized : serializeStorageCompletion state.completion buffer =
      (.ok (), completionRecord (workload.resolved command).completion) := by
    rw [hState.completion_eq, serializeStorageCompletion_eq _ (Nat.le_of_eq hLength.symm),
      if_pos hValid, completionLayout_eq _ hLength]
  rw [hSerialized]
  have hRecord : (completionRecord (workload.resolved command).completion).length =
      kStorageCompletionBytes := by
    simp [completionRecord]
  refine Safe.seqFallible (fun _ fabric => At workload stage fabric ∧
      fabric.completionBytes (workload.slotOf command) =
        completionRecord (workload.resolved command).completion)
    (safe_storeCompletion hSound hRecord (fun _ h hBytes => ⟨h, hState.slot_eq ▸ hBytes⟩) h)
    fun _ fabric h => ?_
  obtain ⟨h, hBytes⟩ := h
  rw [hState.slot_eq]
  refine Safe.seqFallible (fun wrId fabric => wrId = stage.sent ∧
      At workload ((stage.post 1 ⟨command, workload.slotOf command, .completion⟩).write command
        (workload.answeredEvents command)) fabric)
    (safe_postWrite hSound hReceived hTurn (fun _ => hFits) (fun fabric h => ⟨rfl, ?_⟩) h hBytes)
    fun wrId fabric h => ?_
  · simp only [Workload.answeredEvents, hParsed, ← hHistory]
    exact h
  · obtain ⟨rfl, h⟩ := h
    exact hState.slot_eq ▸ hNext fabric h

/-- The wait that ends a command. -/
theorem safe_waitCompletion {next : Unit → Fabric → Prop} {wrId : Nat}
    (hSound : stage.Sound workload)
    (hPost : stage.posts wrId = ⟨command, workload.slotOf command, .completion⟩)
    (hHistory : stage.history command = workload.answeredEvents command)
    (hNext : ∀ fabric, At workload ({ stage with floor := max stage.floor (wrId + 1) }.write
        command (workload.completedEvents command)) fabric → next () fabric)
    (h : At workload stage fabric) : SafeRun workload next (waitWrite wrId) fabric := by
  refine safe_waitWrite hSound hPost (fun fabric h => hNext fabric ?_) h
  rw [Workload.completedEvents, ← hHistory]
  exact h

end Steps

end NdsStorage.Server
