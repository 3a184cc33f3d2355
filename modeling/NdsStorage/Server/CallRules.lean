import NdsStorage.Server.FabricInvariant

/-! One rule for each call of a worker. A rule says from which stage the call
is safe and at which stage it leaves the run; a failed call always ends the
worker in a state that `Stops` describes. -/
namespace NdsStorage.Server

open Bytes Interaction

namespace Stage

/-- The stage with another history for one command. -/
def write (stage : Stage) (command : Nat) (events : List Event) : Stage :=
  { stage with history := Function.update stage.history command events }

def record (stage : Stage) (command : Nat) (event : Event) : Stage :=
  stage.write command (stage.history command ++ [event])

/-- `count` more send requests, the last of which carries the identifier. -/
def post (stage : Stage) (count : Nat) (entry : Post) : Stage :=
  { stage with
    sent := stage.sent + count
    posts := Function.update stage.posts (stage.sent + count - 1) entry }

@[simp] theorem write_history (stage : Stage) (command : Nat) (events : List Event) :
    (stage.write command events).history command = events :=
  Function.update_self ..

/-- Writing one history leaves the others alone. -/
theorem write_history_of_ne (stage : Stage) {command other : Nat} (events : List Event)
    (h : other ≠ command) :
    (stage.write command events).history other = stage.history other :=
  Function.update_of_ne h ..

@[simp] theorem write_write (stage : Stage) (command : Nat) (first second : List Event) :
    (stage.write command first).write command second = stage.write command second := by
  simp [write]

/-- An event recorded after a write extends what was written. -/
theorem write_record (stage : Stage) (command : Nat) (events : List Event) (event : Event) :
    (stage.write command events).record command event =
      stage.write command (events ++ [event]) := by
  simp [record]

namespace Sound

variable {workload : Workload} {stage : Stage}

/-- A history may be any part of the planned events. -/
theorem write (h : stage.Sound workload) {command : Nat} {events : List Event}
    (hBase : stage.base ≤ command) (hReceived : command < stage.received)
    (hPlanned : events <+: workload.completedEvents command) :
    (stage.write command events).Sound workload where
  planned := by
    intro other
    by_cases hOther : other = command
    · subst other
      rw [write_history]
      exact hPlanned
    · rw [write_history_of_ne _ _ hOther]
      exact h.planned other
  done := by
    intro other hOther
    change other < stage.base at hOther
    rw [write_history_of_ne _ _ (by omega)]
    exact h.done other hOther
  fresh := by
    intro other hOther
    change stage.received ≤ other at hOther
    rw [write_history_of_ne _ _ (by omega)]
    exact h.fresh other hOther
  bounded := h.bounded
  covered := h.covered

/-- A stage stays sound when it receives one more command. -/
theorem receive (h : stage.Sound workload) (hExpected : stage.received < workload.commandCount)
    (hPosted : stage.posted ≤ stage.base + workload.active) :
    ({ stage with received := stage.received + 1 } : Stage).Sound workload where
  planned := h.planned
  done := h.done
  fresh := fun command hCommand => h.fresh command (Nat.le_of_succ_le hCommand)
  bounded := hExpected
  covered := fun command hBase _ => Nat.le_trans hPosted (by
    change stage.base ≤ command at hBase
    omega)

end Sound

end Stage

namespace At

variable {workload : Workload} {stage : Stage} {fabric : Fabric}

theorem callSafe (h : At workload stage fabric) (hSound : stage.Sound workload) (call : Call)
    (hExpected : call = .waitReceive → stage.received < workload.commandCount)
    (hFits : workload.SendBudget → stage.sent - stage.floor + call.demand ≤ kQpDepth)
    (hPlanned : ∀ slot event, call.event? = some (slot, event) →
      fabric.history (fabric.current slot) ++ [event] <+:
        workload.completedEvents (fabric.current slot)) :
    CallSafe workload fabric call where
  invariant := h.invariant hSound
  healthy := h.healthy
  expected := fun hCall => h.received_eq ▸ hExpected hCall
  planned := hPlanned
  fits := by
    intro hBudget
    have hDemand := hFits hBudget
    have hSent := h.sent_eq
    have hFloor := h.floor_le
    unfold Fabric.outstanding
    omega

/-- Calls that neither wait for a message nor hand over send requests. -/
theorem callSafe_idle (h : At workload stage fabric) (hSound : stage.Sound workload) (call : Call)
    (hCall : call ≠ .waitReceive) (hDemand : call.demand = 0) (hPosts : call.event? = none) :
    CallSafe workload fabric call where
  invariant := h.invariant hSound
  healthy := h.healthy
  expected := fun hSame => absurd hSame hCall
  planned := fun _ _ hSome => by simp [hPosts] at hSome
  fits := fun _ => by
    rw [hDemand]
    exact h.room

/-- A call that fails stops the worker with its error. -/
theorem fail (h : At workload stage fabric) (hSound : stage.Sound workload) (call : Call)
    (error : Error) {accepted : Nat} (hRoom : fabric.outstanding + accepted ≤ kQpDepth) :
    Stops workload error (fabric.fail error accepted call) := by
  have hInvariant := h.invariant hSound
  cases call with
  | postTransferBatch slot opcode requests =>
      have hTake := List.length_take_le accepted requests
      refine ⟨{ hInvariant with retired_le := ?_, room := ?_ }, .transport rfl⟩
      · exact Nat.le_trans hInvariant.retired_le (Nat.le_add_right ..)
      · simp only [Fabric.fail, Fabric.outstanding] at hRoom ⊢
        omega
  | _ => exact ⟨{ hInvariant with }, .transport rfl⟩

/-- A slot is held by its latest command that has arrived. -/
theorem current_eq (h : At workload stage fabric) {command : Nat}
    (hReceived : command < stage.received)
    (hTurn : stage.received ≤ command + workload.active) :
    fabric.current (workload.slotOf command) = command :=
  h.receiveSide.current command (h.received_eq ▸ hReceived) (h.received_eq ▸ hTurn)

/-- An event is recorded in the stage and in the fabric. -/
theorem record (h : At workload stage fabric) (command : Nat) (event : Event) :
    At workload (stage.record command event) (fabric.record command event) :=
  { h with
    receiveSide := { h.receiveSide with }
    history_eq := by
      simp only [Stage.record, Stage.write, Fabric.record, h.history_eq] }

/-- Work requests are posted in the stage and in the fabric. -/
theorem post (h : At workload stage fabric) {slot count command : Nat} {kind : PostKind}
    (hCommand : fabric.current slot = command)
    (hRoom : fabric.outstanding + count ≤ kQpDepth) :
    At workload (stage.post count { command := command, slot := slot, kind := kind })
      (fabric.post slot count kind) where
  healthy := h.healthy
  receiveSide := { h.receiveSide with }
  entryLength := h.entryLength
  completionLength := h.completionLength
  posted_eq := h.posted_eq
  received_eq := h.received_eq
  sent_eq := by simp only [Fabric.post, Stage.post, h.sent_eq]
  floor_le := h.floor_le
  retired_le := Nat.le_trans h.retired_le (Nat.le_add_right ..)
  room := by
    have := h.retired_le
    simp only [Fabric.outstanding, Fabric.post] at hRoom ⊢
    omega
  posts_eq := by simp only [Fabric.post, Stage.post, h.posts_eq, h.sent_eq, hCommand]
  history_eq := h.history_eq

/-- A wait retires everything up to the request it waited for. -/
theorem retire (h : At workload stage fabric) {retired floor : Nat}
    (hPolled : polled fabric retired) (hFloor : floor ≤ retired) :
    At workload { stage with floor := max stage.floor floor }
      { fabric with retired := retired } where
  healthy := h.healthy
  receiveSide := { h.receiveSide with }
  entryLength := h.entryLength
  completionLength := h.completionLength
  posted_eq := h.posted_eq
  received_eq := h.received_eq
  sent_eq := h.sent_eq
  floor_le := Nat.max_le.mpr ⟨Nat.le_trans h.floor_le hPolled.1, hFloor⟩
  retired_le := hPolled.2
  room := by
    have hRoom := h.room
    have hMore := hPolled.1
    simp only [Fabric.outstanding] at hRoom ⊢
    omega
  posts_eq := h.posts_eq
  history_eq := h.history_eq

/-- A receive is retired in the stage and in the fabric. -/
theorem receive (h : At workload stage fabric) {retired : Nat}
    (hArrived : fabric.received < fabric.arrived) (hPolled : polled fabric retired) :
    At workload { stage with received := stage.received + 1 } (fabric.receive retired) where
  healthy := h.healthy
  receiveSide := h.receiveSide.receive retired hArrived
  entryLength := h.entryLength
  completionLength := h.completionLength
  posted_eq := h.posted_eq
  received_eq := by simp only [Fabric.receive, h.received_eq]
  sent_eq := h.sent_eq
  floor_le := Nat.le_trans h.floor_le hPolled.1
  retired_le := hPolled.2
  room := by
    have hRoom := h.room
    have hMore := hPolled.1
    simp only [Fabric.outstanding, Fabric.receive] at hRoom ⊢
    omega
  posts_eq := h.posts_eq
  history_eq := h.history_eq

/-- Replacing a buffer by one of its length keeps the lengths. -/
private theorem update_length {buffers : Nat → Buffer} {slot length : Nat} {bytes : Buffer}
    (h : ∀ other, (buffers other).length = length) (hBytes : bytes.length = length) (other : Nat) :
    (Function.update buffers slot bytes other).length = length := by
  by_cases hOther : other = slot
  · subst other
    rw [Function.update_self]
    exact hBytes
  · rw [Function.update_of_ne hOther]
    exact h other

/-- A fetch that lands changes descriptors only. -/
theorem land (h : At workload stage fabric) (command slot : Nat) (length : UInt32) :
    At workload stage (fabric.land workload.traffic command slot length) :=
  { h with
    receiveSide := { h.receiveSide with }
    entryLength := update_length h.entryLength ((put_length ..).trans (h.entryLength slot)) }

/-- The completion buffers belong to no stage. -/
theorem store (h : At workload stage fabric) (slot : Nat) {bytes : Buffer}
    (hLength : bytes.length = kStorageCompletionBytes) :
    At workload stage
      { fabric with completionBytes := Function.update fabric.completionBytes slot bytes } :=
  { h with
    receiveSide := { h.receiveSide with }
    completionLength := update_length h.completionLength hLength }

end At

section Rules

variable {workload : Workload} {stage : Stage} {fabric : Fabric}

/-- Safety of a worker program, with `next` for its regular result. -/
abbrev SafeRun (workload : Workload) {Value : Type} (next : Value → Fabric → Prop)
    (program : WorkerProgram Value) (fabric : Fabric) : Prop :=
  Safe (fabricWorld workload.traffic workload.session) (CallSafe workload)
    (Safe.outcome (Stops workload) next) program.run fabric

theorem safe_postReceive {next : Unit → Fabric → Prop} {slot : Nat}
    (hSound : stage.Sound workload)
    (hSlot : slot = workload.slotOf stage.posted)
    (hNext : ∀ fabric, At workload { stage with posted := stage.posted + 1 } fabric →
      stage.posted + 1 - stage.received ≤ kQpDepth → next () fabric)
    (h : At workload stage fabric) : SafeRun workload next (postReceive slot) fabric := by
  refine Safe.call (At workload stage) (At.stable workload stage) h
    (fun fabric h => h.callSafe_idle hSound _ (by simp) rfl rfl) ?_
  intro fabric answer fabric' h hReply
  cases hReply with
  | postReceive hRoom =>
      refine hNext _ { h with
        receiveSide := h.receiveSide.post (h.posted_eq ▸ hSlot)
        posted_eq := ?_ } ?_
      · rw [List.length_append, h.posted_eq]
        rfl
      · rw [h.posted_eq, h.received_eq] at hRoom
        omega
  | failed hFailure hRoom =>
      cases hFailure
      exact h.fail hSound _ _ hRoom

theorem safe_waitReceive {next : Unit → Fabric → Prop} (hSound : stage.Sound workload)
    (hExpected : stage.received < workload.commandCount)
    (hNext : ∀ fabric, At workload { stage with received := stage.received + 1 } fabric →
      next () fabric)
    (h : At workload stage fabric) : SafeRun workload next waitReceive fabric := by
  refine Safe.call (At workload stage) (At.stable workload stage) h
    (fun fabric h => { h.callSafe_idle hSound (.loadCommand 0) (by simp) rfl rfl with
      expected := fun _ => h.received_eq ▸ hExpected
      planned := fun _ _ hSome => nomatch hSome }) ?_
  intro fabric answer fabric' h hReply
  cases hReply with
  | waitReceive hArrived hPolled => exact hNext _ (h.receive hArrived hPolled)
  | failed hFailure hRoom =>
      cases hFailure
      exact h.fail hSound _ _ hRoom

/-- The buffer of the slot of a received command holds its message. -/
theorem safe_loadCommand {next : Buffer → Fabric → Prop} {command : Nat}
    (hSound : stage.Sound workload) (hReceived : command < stage.received)
    (hPosted : stage.posted ≤ command + workload.active)
    (hTurn : stage.received ≤ command + workload.active)
    (hNext : ∀ fabric, At workload (stage.record command (.loaded (workload.slotOf command)
      (workload.traffic.message command))) fabric →
      next (workload.traffic.message command) fabric)
    (h : At workload stage fabric) :
    SafeRun workload next (loadCommand (workload.slotOf command)) fabric := by
  refine Safe.call (At workload stage) (At.stable workload stage) h
    (fun fabric h => h.callSafe_idle hSound _ (by simp) rfl rfl) ?_
  intro fabric answer fabric' h hReply
  cases hReply with
  | loadCommand =>
      have hArrived : command < fabric.arrived :=
        Nat.lt_of_lt_of_le (h.received_eq ▸ hReceived) h.receiveSide.received_le
      have hBytes := h.receiveSide.held command hArrived (h.posted_eq ▸ hPosted)
      rw [hBytes, h.current_eq hReceived hTurn]
      exact hNext _ (h.record ..)
  | failed hFailure hRoom => cases hFailure

theorem safe_postRead {next : Nat → Fabric → Prop} {command : Nat} {address : UInt64}
    {key length : UInt32} (hSound : stage.Sound workload) (hReceived : command < stage.received)
    (hTurn : stage.received ≤ command + workload.active)
    (hFits : workload.SendBudget → stage.sent - stage.floor + 1 ≤ kQpDepth)
    (hPlanned : stage.history command ++ [.fetchPosted address key length] <+:
      workload.completedEvents command)
    (hNext : ∀ fabric, At workload
      ((stage.post 1 ⟨command, workload.slotOf command, .fetch length⟩).record command
        (.fetchPosted address key length)) fabric → next stage.sent fabric)
    (h : At workload stage fabric) :
    SafeRun workload next (postRead (workload.slotOf command) address key length) fabric := by
  refine Safe.call (At workload stage) (At.stable workload stage) h
    (fun fabric h => h.callSafe hSound _ (by simp) hFits ?_) ?_
  · intro slot event hSome
    cases hSome
    rw [h.current_eq hReceived hTurn, h.history_eq]
    exact hPlanned
  intro fabric answer fabric' h hReply
  cases hReply with
  | postRead hValid hRoom =>
      have hCurrent := h.current_eq hReceived hTurn
      rw [hCurrent, h.sent_eq]
      exact hNext _ ((h.post hCurrent hRoom).record ..)
  | failed hFailure hRoom =>
      cases hFailure
      exact h.fail hSound _ _ hRoom

/-- After the wait the slot's buffer starts with the fetched part of the client's array. -/
theorem safe_waitRead {next : Unit → Fabric → Prop} {wrId command slot : Nat} {length : UInt32}
    (hSound : stage.Sound workload) (hPost : stage.posts wrId = ⟨command, slot, .fetch length⟩)
    (hNext : ∀ fabric buffer,
      At workload ({ stage with floor := max stage.floor (wrId + 1) }.record command .fetchWaited)
        fabric →
      buffer.length = kStorageMaxBatchEntries * kStorageBatchEntryBytes →
      fabric.entryBytes slot =
        put buffer 0 (slice (workload.traffic.descriptors command) 0 length.toNat) →
      next () fabric)
    (h : At workload stage fabric) : SafeRun workload next (waitRead wrId) fabric := by
  refine Safe.call (At workload stage) (At.stable workload stage) h
    (fun fabric h => h.callSafe_idle hSound _ (by simp) rfl rfl) ?_
  intro fabric answer fabric' h hReply
  cases hReply with
  | waitRead hPosted hPolled hDone =>
      rw [h.posts_eq, hPost] at hPosted
      cases hPosted
      refine hNext _ (fabric.entryBytes slot) ?_ (h.entryLength slot) (Function.update_self ..)
      exact ((h.retire hPolled hDone).land ..).record ..
  | failed hFailure hRoom =>
      cases hFailure
      exact h.fail hSound _ _ hRoom

theorem safe_loadEntries {next : Buffer → Fabric → Prop} {slot : Nat} {bytes : Buffer}
    (hSound : stage.Sound workload) (hNext : ∀ fabric, At workload stage fabric → next bytes fabric)
    (h : At workload stage fabric) (hBytes : fabric.entryBytes slot = bytes) :
    SafeRun workload next (loadEntries slot) fabric := by
  refine Safe.call (fun fabric => At workload stage fabric ∧ fabric.entryBytes slot = bytes) ?_
    ⟨h, hBytes⟩ (fun fabric h => h.1.callSafe_idle hSound _ (by simp) rfl rfl) ?_
  · rintro fabric fabric' hDrift ⟨h, hBytes⟩
    refine ⟨At.stable workload stage _ _ hDrift h, ?_⟩
    obtain ⟨-, rfl⟩ := hDrift
    exact hBytes
  · rintro fabric answer fabric' ⟨h, rfl⟩ hReply
    cases hReply with
    | loadEntries => exact hNext fabric h
    | failed hFailure hRoom => cases hFailure

theorem safe_postTransferBatch {next : Nat → Fabric → Prop} {command : Nat}
    {opcode : TransferOpcode} {requests : List TransferRequest} (hSound : stage.Sound workload)
    (hReceived : command < stage.received)
    (hTurn : stage.received ≤ command + workload.active)
    (hFits : workload.SendBudget → stage.sent - stage.floor + requests.length ≤ kQpDepth)
    (hPlanned : stage.history command ++ [.payloadPosted opcode requests] <+:
      workload.completedEvents command)
    (hNext : ∀ fabric, 0 < requests.length → At workload
      ((stage.post requests.length ⟨command, workload.slotOf command, .payload opcode⟩).record
        command (.payloadPosted opcode requests)) fabric →
      next (stage.sent + requests.length - 1) fabric)
    (h : At workload stage fabric) :
    SafeRun workload next
      (ExceptT.mk (.ask (Call.postTransferBatch (workload.slotOf command) opcode requests)))
      fabric := by
  refine Safe.call (At workload stage) (At.stable workload stage) h
    (fun fabric h => h.callSafe hSound _ (by simp) hFits ?_) ?_
  · intro slot event hSome
    cases hSome
    rw [h.current_eq hReceived hTurn, h.history_eq]
    exact hPlanned
  intro fabric answer fabric' h hReply
  cases hReply with
  | postTransferBatch hSome hValid hRoom =>
      have hCurrent := h.current_eq hReceived hTurn
      rw [hCurrent, h.sent_eq]
      exact hNext _ (List.length_pos_iff.mpr hSome) ((h.post hCurrent hRoom).record ..)
  | failed hFailure hRoom =>
      cases hFailure
      exact h.fail hSound _ _ hRoom

/-- Posting the payload of a command marks it as pending under the new identifier. -/
theorem safe_postPayload {next : PendingCommand → Fabric → Prop} {command : Nat}
    {state : PendingCommand} (hSound : stage.Sound workload)
    (hSlot : state.slot = workload.slotOf command) (hReceived : command < stage.received)
    (hTurn : stage.received ≤ command + workload.active)
    (hFits : workload.SendBudget → stage.sent - stage.floor + state.requests.length ≤ kQpDepth)
    (hPlanned : stage.history command ++
      [.payloadPosted (payloadOpcode state.storageRead) state.requests] <+:
        workload.completedEvents command)
    (hNext : ∀ fabric, 0 < state.requests.length → At workload
      ((stage.post state.requests.length ⟨command, workload.slotOf command,
        .payload (payloadOpcode state.storageRead)⟩).record
        command (.payloadPosted (payloadOpcode state.storageRead) state.requests)) fabric →
      next { state with
        payloadWrId := stage.sent + state.requests.length - 1
        payloadPending := true } fabric)
    (h : At workload stage fabric) : SafeRun workload next (postPayload state) fabric := by
  have hPost : postPayloadBatch state = ExceptT.mk (.ask (Call.postTransferBatch
      (workload.slotOf command) (payloadOpcode state.storageRead) state.requests)) := by
    unfold postPayloadBatch
    rw [hSlot]
    cases state.storageRead with
    | true => rfl
    | false => rfl
  unfold postPayload
  rw [hPost]
  exact Safe.seqFallible (fun wrId => next { state with
      payloadWrId := wrId
      payloadPending := true })
    (safe_postTransferBatch hSound hReceived hTurn hFits hPlanned hNext h)
    fun wrId fabric hPosted => hPosted

theorem safe_waitTransferBatch {next : Unit → Fabric → Prop} {wrId command slot : Nat}
    {opcode : TransferOpcode} (hSound : stage.Sound workload)
    (hPost : stage.posts wrId = ⟨command, slot, .payload opcode⟩)
    (hNext : ∀ fabric,
      At workload ({ stage with floor := max stage.floor (wrId + 1) }.record command
        .payloadWaited) fabric → next () fabric)
    (h : At workload stage fabric) :
    SafeRun workload next (ExceptT.mk (.ask (Call.waitTransferBatch opcode wrId))) fabric := by
  refine Safe.call (At workload stage) (At.stable workload stage) h
    (fun fabric h => h.callSafe_idle hSound _ (by simp) rfl rfl) ?_
  intro fabric answer fabric' h hReply
  cases hReply with
  | waitTransferBatch hPosted hPolled hDone =>
      rw [h.posts_eq, hPost] at hPosted
      cases hPosted
      exact hNext _ ((h.retire hPolled hDone).record ..)
  | failed hFailure hRoom =>
      cases hFailure
      exact h.fail hSound _ _ hRoom

theorem safe_loadCompletion {next : Buffer → Fabric → Prop} {slot : Nat}
    (hSound : stage.Sound workload)
    (hNext : ∀ fabric buffer, At workload stage fabric →
      buffer.length = kStorageCompletionBytes → next buffer fabric)
    (h : At workload stage fabric) : SafeRun workload next (loadCompletion slot) fabric := by
  refine Safe.call (At workload stage) (At.stable workload stage) h
    (fun fabric h => h.callSafe_idle hSound _ (by simp) rfl rfl) ?_
  intro fabric answer fabric' h hReply
  cases hReply with
  | loadCompletion => exact hNext _ _ h (h.completionLength slot)
  | failed hFailure hRoom => cases hFailure

theorem safe_storeCompletion {next : Unit → Fabric → Prop} {slot : Nat} {bytes : Buffer}
    (hSound : stage.Sound workload) (hLength : bytes.length = kStorageCompletionBytes)
    (hNext : ∀ fabric, At workload stage fabric → fabric.completionBytes slot = bytes →
      next () fabric)
    (h : At workload stage fabric) :
    SafeRun workload next (storeCompletion slot bytes) fabric := by
  refine Safe.call (At workload stage) (At.stable workload stage) h
    (fun fabric h => h.callSafe_idle hSound _ (by simp) rfl rfl) ?_
  intro fabric answer fabric' h hReply
  cases hReply with
  | storeCompletion =>
      exact hNext _ (h.store slot hLength) (Function.update_self ..)
  | failed hFailure hRoom => cases hFailure

/-- The whole record of the slot is sent to the client. -/
theorem safe_postWrite {next : Nat → Fabric → Prop} {command : Nat} {address : UInt64}
    {key : UInt32} {bytes : Buffer} (hSound : stage.Sound workload)
    (hReceived : command < stage.received)
    (hTurn : stage.received ≤ command + workload.active)
    (hFits : workload.SendBudget → stage.sent - stage.floor + 1 ≤ kQpDepth)
    (hNext : ∀ fabric, At workload
      ((stage.post 1 ⟨command, workload.slotOf command, .completion⟩).record command
        (.completionPosted address key (UInt32.ofNat kStorageCompletionBytes) bytes)) fabric →
      next stage.sent fabric)
    (h : At workload stage fabric)
    (hBytes : fabric.completionBytes (workload.slotOf command) = bytes) :
    SafeRun workload next (postWrite (workload.slotOf command) address key
      (UInt32.ofNat kStorageCompletionBytes)) fabric := by
  refine Safe.call (fun fabric => At workload stage fabric ∧
    fabric.completionBytes (workload.slotOf command) = bytes) ?_ ⟨h, hBytes⟩
    (fun fabric h => h.1.callSafe hSound _ (by simp) hFits fun _ _ hSome => nomatch hSome) ?_
  · rintro fabric fabric' hDrift ⟨h, hBytes⟩
    refine ⟨At.stable workload stage _ _ hDrift h, ?_⟩
    obtain ⟨-, rfl⟩ := hDrift
    exact hBytes
  · rintro fabric answer fabric' ⟨h, rfl⟩ hReply
    cases hReply with
    | postWrite hValid hRoom =>
        have hCurrent := h.current_eq hReceived hTurn
        have hWhole : slice (fabric.completionBytes (workload.slotOf command)) 0
            (UInt32.ofNat kStorageCompletionBytes).toNat =
            fabric.completionBytes (workload.slotOf command) := by
          have hLength := h.completionLength (workload.slotOf command)
          change slice _ 0 kStorageCompletionBytes = _
          rw [← hLength]
          exact slice_all _
        rw [hWhole, hCurrent, h.sent_eq]
        exact hNext _ ((h.post hCurrent hRoom).record ..)
    | failed hFailure hRoom =>
        cases hFailure
        exact h.fail hSound _ _ hRoom

/-- The rule of waiting for a completion write. -/
theorem safe_waitWrite {next : Unit → Fabric → Prop} {wrId command slot : Nat}
    (hSound : stage.Sound workload) (hPost : stage.posts wrId = ⟨command, slot, .completion⟩)
    (hNext : ∀ fabric,
      At workload ({ stage with floor := max stage.floor (wrId + 1) }.record command
        .completionWaited) fabric → next () fabric)
    (h : At workload stage fabric) : SafeRun workload next (waitWrite wrId) fabric := by
  refine Safe.call (At workload stage) (At.stable workload stage) h
    (fun fabric h => h.callSafe_idle hSound _ (by simp) rfl rfl) ?_
  intro fabric answer fabric' h hReply
  cases hReply with
  | waitWrite hPosted hPolled hDone =>
      rw [h.posts_eq, hPost] at hPosted
      cases hPosted
      exact hNext _ ((h.retire hPolled hDone).record ..)
  | failed hFailure hRoom =>
      cases hFailure
      exact h.fail hSound _ _ hRoom

end Rules

end NdsStorage.Server
