import NdsStorage.Client.Allocation
import NdsStorage.Server.Service
import NdsStorage.Server.Transfer

/-! Client and server walk over the slot table independently: the client with
one cursor for all queues, each worker through the slots of its own queue. A
worker whose messages follow its walk never finds one in the wrong slot, and
reservations and releases in order share out the commands as the server does. -/
namespace NdsStorage.System

open Bytes Interaction Server Client

section Table

variable {qpCount : Nat}

/-- One number of a range is equal to a given one. -/
theorem filter_range_eq {value count : Nat} (h : value < count) :
    (List.range count).filter (fun index => index = value) = [value] := by
  induction count with
  | zero => omega
  | succ count ih =>
      rw [List.range_succ, List.filter_append]
      rcases Nat.lt_succ_iff_lt_or_eq.mp h with hEarlier | rfl
      · rw [ih hEarlier, List.filter_cons_of_neg (by simpa using Nat.ne_of_gt hEarlier)]
        rfl
      · have hNone : (List.range value).filter (fun index => decide (index = value)) = [] := by
          apply List.filter_eq_nil_iff.mpr
          intro index hIndex
          simpa using Nat.ne_of_lt (List.mem_range.mp hIndex)
        rw [hNone, List.filter_cons_of_pos (by simp)]
        rfl

/-- The places of a queue among `rounds` rounds of dealing. -/
theorem filter_deal {queue : Nat} (hQueue : queue < qpCount) (rounds : Nat) :
    (List.range (qpCount * rounds)).filter (fun index => index % qpCount = queue) =
      (List.range rounds).map fun turn => turn * qpCount + queue := by
  induction rounds with
  | zero => rfl
  | succ rounds ih =>
      have hRound : (List.range qpCount).filter
          ((fun index => decide (index % qpCount = queue)) ∘ (qpCount * rounds + ·)) =
          [queue] := by
        rw [← filter_range_eq hQueue]
        apply List.filter_congr
        intro index hIndex
        simp [Nat.mod_eq_of_lt (List.mem_range.mp hIndex)]
      rw [Nat.mul_succ, List.range_add, List.filter_append, ih, List.filter_map, hRound,
        List.range_succ, List.map_append, List.map_singleton, List.map_singleton,
        Nat.mul_comm rounds]

variable {client : StorageClient} (commands completions : StorageMemory)

/-- The slots that the server finds for a queue. -/
theorem slotsOf_slotTable (h : client.Opened qpCount) {queue : Nat} (hQueue : queue < qpCount) :
    slotsOf (client.slotTable commands completions) queue =
      (List.range kStorageSlotsPerQp).map fun turn => turn * qpCount + queue := by
  have hLength : (client.slotTable commands completions).length =
      qpCount * kStorageSlotsPerQp := by
    rw [StorageClient.slotTable, List.length_map, h.slots_length]
  rw [slotsOf, hLength, ← filter_deal hQueue]
  apply List.filter_congr
  intro index hIndex
  have hInside := List.mem_range.mp hIndex
  have hEntry : client.slots[index]? =
      some (client.slots.get ⟨index, by rw [h.slots_length]; exact hInside⟩) := by
    simp
  have hOn := h.slotQueue_toNat hInside
  simp only [StorageClient.slotQueue, hEntry, Option.map_some, Option.getD_some] at hOn
  simp only [StorageClient.slotTable, List.getElem?_map, hEntry, Option.map_some, Option.any_some,
    StorageClient.tableEntry, hOn]

/-- Taken cyclically, they are the slots in the client's order. -/
theorem slotsOf_turn (h : client.Opened qpCount) {queue : Nat} (hQueue : queue < qpCount)
    (turn : Nat) :
    (slotsOf (client.slotTable commands completions) queue).getD (turn % kStorageSlotsPerQp) 0 =
      turnSlot qpCount queue turn := by
  have hTurn : turn % kStorageSlotsPerQp < kStorageSlotsPerQp := Nat.mod_lt _ (by decide)
  rw [slotsOf_slotTable commands completions h hQueue, List.getD_eq_getElem?_getD,
    List.getElem?_map, List.getElem?_range hTurn]
  rfl

/-- A worker for such a queue expects its slots in the client's order. -/
theorem worker_turn (h : client.Opened qpCount) {queue : Nat} (hQueue : queue < qpCount)
    {worker : Worker}
    (hSlots : worker.slots = slotsOf (client.slotTable commands completions) queue)
    {turn : Nat} (hTurn : turn < worker.commandCount) :
    worker.slots.getD (turn % activeSlots worker) 0 = turnSlot qpCount queue turn := by
  have hLength : worker.slots.length = kStorageSlotsPerQp := by
    rw [hSlots, slotsOf_slotTable commands completions h hQueue, List.length_map,
      List.length_range]
  have hSame : turn % activeSlots worker = turn % kStorageSlotsPerQp := by
    rw [activeSlots, hLength]
    rcases Nat.le_total worker.commandCount kStorageSlotsPerQp with hFew | hMany
    · rw [Nat.min_eq_left hFew, Nat.mod_eq_of_lt hTurn, Nat.mod_eq_of_lt (by omega)]
    · rw [Nat.min_eq_right hMany]
  rw [hSame, hSlots]
  exact slotsOf_turn commands completions h hQueue turn

end Table

section Refusals

/-- The errors of a worker that finds a command in another slot than expected. -/
def wrongSlotMessages : List String := [
  "storage read arrived in the wrong slot", "storage write arrived in the wrong slot",
  "storage batch-read arrived in the wrong slot", "storage batch-write arrived in the wrong slot"]

variable {size : UInt64} {slot slotIndex : Nat} {bytes : Buffer} {error : Error}

/-- A transfer for the expected slot is refused only as invalid. -/
theorem parseTransfer_expected {storageRead : Bool} {invalid wrongSlot : String}
    {decoded : Except SerdeError StorageTransferCommand}
    (hSlot : ∀ command, decoded = .ok command → command.slotIndex.toNat = slotIndex)
    (h : parseTransfer size storageRead slot slotIndex invalid wrongSlot decoded = .error error) :
    error = protocolError invalid := by
  cases decoded with
  | error reason =>
      cases h
      rfl
  | ok command =>
      simp only [parseTransfer, decodeOr, Except.mapError, bind, Except.bind, hSlot command rfl,
        ne_eq, not_true_eq_false, if_false] at h
      cases h

theorem parseBatch_expected {storageRead : Bool} {invalid wrongSlot : String}
    {decoded : Except SerdeError StorageBatchCommand}
    (hSlot : ∀ command, decoded = .ok command → command.slotIndex.toNat = slotIndex)
    (h : parseBatch storageRead slot slotIndex invalid wrongSlot decoded = .error error) :
    error = protocolError invalid := by
  cases decoded with
  | error reason =>
      cases h
      rfl
  | ok command =>
      simp only [parseBatch, decodeOr, Except.mapError, bind, Except.bind, hSlot command rfl,
        ne_eq, not_true_eq_false, if_false] at h
      cases h

/-- A command that carries the expected slot is not refused for its slot. -/
theorem parseCommand_expected (hCarried : carriedSlotIndex bytes = slotIndex)
    (h : parseCommand size slot slotIndex bytes = .error error) :
    ∀ message ∈ wrongSlotMessages, error ≠ protocolError message := by
  have hTransfer : ∀ operation access command,
      deserializeTransfer operation access bytes = .ok command →
      command.slotIndex.toNat = slotIndex := by
    intro operation access command hDecoded
    exact (deserializeCommand_carried (deserializeTransfer_ok hDecoded).1).2.trans hCarried
  have hBatch : ∀ operation command, deserializeBatch operation bytes = .ok command →
      command.slotIndex.toNat = slotIndex := by
    intro operation command hDecoded
    exact (deserializeCommand_carried (deserializeBatch_ok hDecoded).1).2.trans hCarried
  have hDiffer : ∀ invalid, invalid ∉ wrongSlotMessages → error = protocolError invalid →
      ∀ message ∈ wrongSlotMessages, error ≠ protocolError message := by
    rintro invalid hInvalid rfl message hMessage hSame
    simp only [protocolError, Error.mk.injEq, true_and] at hSame
    exact hInvalid (hSame ▸ hMessage)
  unfold parseCommand at h
  cases hOperation : deserializeStorageOperation bytes with
  | error reason =>
      simp only [hOperation, decodeOr, Except.mapError, bind, Except.bind] at h
      cases h
      exact hDiffer _ (by decide) rfl
  | ok operation =>
      simp only [hOperation, decodeOr, Except.mapError, bind, Except.bind] at h
      cases operation with
      | read => exact hDiffer _ (by decide) (parseTransfer_expected (hTransfer _ _) h)
      | write => exact hDiffer _ (by decide) (parseTransfer_expected (hTransfer _ _) h)
      | batchRead => exact hDiffer _ (by decide) (parseBatch_expected (hBatch _) h)
      | batchWrite => exact hDiffer _ (by decide) (parseBatch_expected (hBatch _) h)

end Refusals

section Turns

variable {qpCount : Nat} {client : StorageClient} {queue : Nat}

/-- A worker whose messages come from the slots of its queue in turn does not
refuse one for its slot. -/
theorem worker_never_wrong_slot (h : client.Opened qpCount) (hQueue : queue < qpCount)
    (commands completions : StorageMemory) {workload : Workload}
    (hSlots : workload.worker.slots = slotsOf (client.slotTable commands completions) queue)
    {program : Program Call Call.Answer (Except Error Unit)} {fabric : Fabric}
    (hRun : WorkerReaches workload.traffic workload.session workload.worker program fabric)
    (hCarried : ∀ turn, turn < fabric.received →
      carriedSlotIndex (workload.traffic.message turn) = turnSlot qpCount queue turn)
    {error : Error} (hDone : program = .done (.error error)) (hHealthy : fabric.failure = none) :
    ∀ message ∈ wrongSlotMessages, error ≠ protocolError message := by
  subst hDone
  have hStop := hRun.safe
  cases hStop.cause with
  | transport hFailure =>
      rw [hHealthy] at hFailure
      cases hFailure
  | @refused _ turn hReceived hParsed =>
      have hTurn := Nat.lt_of_lt_of_le hReceived hRun.invariant.bounded
      apply parseCommand_expected _ hParsed
      rw [hCarried turn hReceived]
      exact (worker_turn commands completions h hQueue hSlots hTurn).symm
  | noSlots _ _ hError =>
      intro message hMessage hSame
      rw [hSame] at hError
      cases hError

end Turns

section Split

variable {message : Buffer}

/-- A command message that its deserializer accepts. -/
def Decodes (message : Buffer) : Prop :=
  (∃ operation command, (operation = .read ∨ operation = .write) ∧
    deserializeTransfer operation (transferAccess operation) message = .ok command) ∨
  ∃ operation command, (operation = .batchRead ∨ operation = .batchWrite) ∧
    deserializeBatch operation message = .ok command

/-- A command that decodes and carries the expected slot is accepted. -/
theorem parseCommand_decodes (hDecodes : Decodes message) (size : UInt64) (slot : Nat) :
    ∃ parsed, parseCommand size slot (carriedSlotIndex message) message = .ok parsed := by
  unfold parseCommand
  rcases hDecodes with ⟨operation, command, hKind, hDecoded⟩ |
    ⟨operation, command, hKind, hDecoded⟩
  · have hCommand := (deserializeTransfer_ok hDecoded).1
    have hOperation := deserializeCommand_operation hCommand
    have hSlot := (deserializeCommand_carried hCommand).2
    refine ⟨(acceptTransfer size operation.isRead command { slot := slot }, none), ?_⟩
    simp only [hOperation, decodeOr, Except.mapError, bind, Except.bind]
    rcases hKind with rfl | rfl
    · exact parseTransfer_ok.mpr ⟨command, hDecoded, hSlot, rfl, rfl⟩
    · exact parseTransfer_ok.mpr ⟨command, hDecoded, hSlot, rfl, rfl⟩
  · have hCommand := (deserializeBatch_ok hDecoded).1
    have hOperation := deserializeCommand_operation hCommand
    have hSlot := (deserializeCommand_carried hCommand).2
    refine ⟨(acceptBatch operation.isRead command { slot := slot }, some command.entries), ?_⟩
    simp only [hOperation, decodeOr, Except.mapError, bind, Except.bind]
    rcases hKind with rfl | rfl
    · exact parseBatch_ok.mpr ⟨command, hDecoded, hSlot, rfl, rfl⟩
    · exact parseBatch_ok.mpr ⟨command, hDecoded, hSlot, rfl, rfl⟩

variable {qpCount : Nat} {client : StorageClient} {queue : Nat}

/-- The table covers every queue, so a worker is always found. -/
theorem makeWorker_slotTable (h : client.Opened qpCount) (hQueue : queue < qpCount)
    (commandCount : Nat) (commands completions : StorageMemory) :
    makeWorker (client.slotTable commands completions) commandCount qpCount queue = .ok {
      qpIndex := queue
      commandCount := commandShare commandCount qpCount queue
      slots := if commandShare commandCount qpCount queue = 0 then []
        else slotsOf (client.slotTable commands completions) queue } := by
  by_cases hShare : commandShare commandCount qpCount queue = 0
  · rw [makeWorker_idle hShare, hShare]
    rfl
  · have hSome : slotsOf (client.slotTable commands completions) queue ≠ [] := by
      rw [slotsOf_slotTable commands completions h hQueue]
      simp [kStorageSlotsPerQp]
    rw [makeWorker]
    simp only [if_neg hShare, if_neg hSome]

/-- The slots of a worker's queue are those that name it. -/
theorem mem_slotsOf (h : client.Opened qpCount) (hQueue : queue < qpCount)
    (commands completions : StorageMemory) {slotIndex : Nat} :
    slotIndex ∈ slotsOf (client.slotTable commands completions) queue ↔
      slotIndex < qpCount * kStorageSlotsPerQp ∧ slotIndex % qpCount = queue := by
  rw [slotsOf_slotTable commands completions h hQueue, ← filter_deal hQueue, List.mem_filter,
    List.mem_range, decide_eq_true_eq]

/-- The order of a client that goes round the table, queue by queue. -/
theorem commandsOn_eq {run : SlotRun} (h : RoundRobin qpCount run) (hQueue : queue < qpCount) :
    commandsOn queue run.issued =
      (List.range (commandShare run.issued.length qpCount queue)).map (turnSlot qpCount queue) := by
  rw [h.ordered.order queue hQueue rfl, commandShare_eq_count hQueue]

/-- A worker that gets the commands of its queue is never left waiting for one
that will not come, and returns with all of them served unless the transport
fails. -/
theorem worker_serves_queue (h : client.Opened qpCount) (hQueue : queue < qpCount)
    (commands completions : StorageMemory) {workload : Workload}
    (hSlots : workload.worker.slots = slotsOf (client.slotTable commands completions) queue)
    (hMessages : ∀ turn, turn < workload.worker.commandCount →
      carriedSlotIndex (workload.traffic.message turn) = turnSlot qpCount queue turn ∧
        Decodes (workload.traffic.message turn))
    {program : Program Call Call.Answer (Except Error Unit)} {fabric : Fabric}
    (hRun : WorkerReaches workload.traffic workload.session workload.worker program fabric) :
    (∀ next, program = .call .waitReceive next →
      fabric.received < workload.worker.commandCount) ∧
    ∀ result, program = .done result → fabric.failure = none →
      result = .ok () ∧ fabric.received = workload.worker.commandCount := by
  constructor
  · rintro next rfl
    exact hRun.callSafe.expected rfl
  · rintro (error | _) rfl hHealthy
    · have hStop := hRun.safe
      cases hStop.cause with
      | transport hFailure =>
          rw [hHealthy] at hFailure
          cases hFailure
      | @refused _ turn hReceived hParsed =>
          have hTurn := Nat.lt_of_lt_of_le hReceived hRun.invariant.bounded
          obtain ⟨hCarried, hDecodes⟩ := hMessages turn hTurn
          obtain ⟨parsed, hAccepted⟩ := parseCommand_decodes hDecodes
            workload.session.storageSize (workload.slotOf turn)
          have hSlot : workload.slotIndexOf turn = turnSlot qpCount queue turn :=
            worker_turn commands completions h hQueue hSlots hTurn
          rw [Workload.parsed, hSlot, ← hCarried, hAccepted] at hParsed
          cases hParsed
      | noSlots _ hNone _ =>
          rw [hSlots, slotsOf_slotTable commands completions h hQueue] at hNone
          simp [kStorageSlotsPerQp] at hNone
    · exact ⟨rfl, hRun.safe.received_eq⟩

/-- A client that reserves slots with one cursor and releases them in order
sends on each queue as many commands as the server expects there, each from
the slot that the queue's worker expects it in. Every slot of a queue that has
commands belongs to the worker of that queue and to no other. So each started
worker gets all its commands, and is never left waiting for another. -/
theorem roundRobin_matches_split {qpNum psn : UInt32}
    (hOpen : StorageClient.openClient qpCount qpNum psn = .ok client) {run : SlotRun}
    (hRun : SlotRun.Follows InOrder (.begin client) run) (commands completions : StorageMemory)
    {cpuCount : Nat} {workers : List Worker}
    (hWorkers : makeWorkers (client.slotTable commands completions) run.issued.length qpCount
      cpuCount = .ok workers) :
    workers.length = qpCount ∧
    ∀ queue worker, workers[queue]? = some worker →
      worker.commandCount = (commandsOn queue run.issued).length ∧
      (∀ slotIndex, slotIndex ∈ worker.slots ↔ slotIndex < qpCount * kStorageSlotsPerQp ∧
        slotIndex % qpCount = queue ∧ commandsOn queue run.issued ≠ []) ∧
      (∀ turn, turn < worker.commandCount →
        (commandsOn queue run.issued)[turn]? = some (turn % kStorageSlotsPerQp * qpCount + queue) ∧
        worker.slots.getD (turn % activeSlots worker) 0 =
          turn % kStorageSlotsPerQp * qpCount + queue) ∧
      ∀ (workload : Workload) (program : Program Call Call.Answer (Except Error Unit))
        (fabric : Fabric), workload.worker = worker → worker.commandCount ≠ 0 →
        (∀ turn, turn < worker.commandCount → Decodes (workload.traffic.message turn) ∧
          (commandsOn queue run.issued)[turn]? =
            some (carriedSlotIndex (workload.traffic.message turn))) →
        WorkerReaches workload.traffic workload.session workload.worker program fabric →
        (∀ next, program = .call .waitReceive next →
          fabric.received < (commandsOn queue run.issued).length) ∧
        ∀ result, program = .done result → fabric.failure = none →
          result = .ok () ∧ fabric.received = (commandsOn queue run.issued).length := by
  have hOpened := StorageClient.openClient_opened hOpen
  have hRound := follows_roundRobin hRun (RoundRobin.begin hOpen)
  have hAll := makeWorkers_ok (fun index hIndex => makeWorker_slotTable hOpened hIndex
    run.issued.length commands completions) hWorkers
  refine ⟨by rw [hAll, List.length_map, List.length_range], fun queue worker hWorker => ?_⟩
  rw [hAll, List.getElem?_map] at hWorker
  obtain ⟨index, hIndex, rfl⟩ := Option.map_eq_some_iff.mp hWorker
  obtain ⟨hQueue, hSame⟩ := List.getElem?_eq_some_iff.mp hIndex
  rw [List.length_range] at hQueue
  rw [List.getElem_range] at hSame
  subst hSame
  have hOrder := commandsOn_eq hRound hQueue
  have hCount : (commandsOn queue run.issued).length =
      commandShare run.issued.length qpCount queue := by
    rw [hOrder, List.length_map, List.length_range]
  have hTurn : ∀ turn, turn < commandShare run.issued.length qpCount queue →
      (commandsOn queue run.issued)[turn]? = some (turnSlot qpCount queue turn) := by
    intro turn hTurn
    rw [hOrder, List.getElem?_map, List.getElem?_range hTurn]
    rfl
  refine ⟨hCount.symm, fun slotIndex => ?_, fun turn hServed => ?_,
    fun workload program fabric hWorker hBusy hMessages hReaches => ?_⟩
  · rw [List.ne_nil_iff_length_pos, hCount]
    dsimp only
    split
    · rename_i hIdle
      simp [hIdle]
    · rename_i hBusy
      rw [mem_slotsOf hOpened hQueue]
      simp [Nat.pos_of_ne_zero hBusy]
  · have hBusy : commandShare run.issued.length qpCount queue ≠ 0 := Nat.ne_zero_of_lt hServed
    exact ⟨hTurn turn hServed,
      worker_turn commands completions hOpened hQueue (if_neg hBusy) hServed⟩
  · have hExpected : workload.worker.commandCount =
        commandShare run.issued.length qpCount queue := congrArg Worker.commandCount hWorker
    have hSlots : workload.worker.slots =
        slotsOf (client.slotTable commands completions) queue :=
      (congrArg Worker.slots hWorker).trans (if_neg hBusy)
    rw [hCount, ← hExpected]
    apply worker_serves_queue hOpened hQueue commands completions hSlots _ hReaches
    intro turn hServed
    rw [hExpected] at hServed
    obtain ⟨hDecodes, hCarried⟩ := hMessages turn hServed
    rw [hTurn turn hServed, Option.some.injEq] at hCarried
    exact ⟨hCarried.symm, hDecodes⟩

end Split

section TwoQueues

/-- A client with two queues of sixteen slots each. -/
def pairClient : StorageClient where
  qpCount := 2
  slots := StorageClient.slotLayout 2
  allocatedSlots := fun _ => false
  nextSlot := 0
  nextCommandId := 1
  states := fun _ => {}

/-- A client with one queue of sixteen slots. -/
def soloClient : StorageClient where
  qpCount := 1
  slots := StorageClient.slotLayout 1
  allocatedSlots := fun _ => false
  nextSlot := 0
  nextCommandId := 1
  states := fun _ => {}

def pairMemory : StorageMemory where
  address := 65536
  length := 4096
  remoteKey := 5

/-- Reservations on any queue, one after the other. -/
theorem pair_allocates (count : Nat) (h : (((SlotRun.begin pairClient).acceptAll
      (List.replicate count .allocate)).map fun run => run.issued.length) = some count) :
    ∃ run, SlotRun.Follows InOrder (.begin pairClient) run ∧ run.issued.length = count := by
  obtain ⟨run, hAccept, hLength⟩ := Option.map_eq_some_iff.mp h
  refine ⟨run, SlotRun.acceptAll_follows ?_ .refl hAccept, hLength⟩
  intro run call hCall
  rw [List.eq_of_mem_replicate hCall]
  trivial

/-- With one command for two queues the slots of the second queue belong to no worker. -/
theorem idle_queue_slots_unowned : ∃ run workers,
    SlotRun.Follows InOrder (.begin pairClient) run ∧ run.issued.length = 1 ∧
    makeWorkers (pairClient.slotTable pairMemory pairMemory) 1 2 2 = .ok workers ∧
    ((pairClient.slotTable pairMemory pairMemory)[1]?.map fun slot => slot.qpIndex) = some 1 ∧
    ∀ worker ∈ workers, 1 ∉ worker.slots := by
  obtain ⟨run, hRun, hLength⟩ := pair_allocates 1 (by decide +kernel)
  have hWorkers : makeWorkers (pairClient.slotTable pairMemory pairMemory) 1 2 2 = .ok
      [{ qpIndex := 0
         commandCount := 1
         slots := [0, 2, 4, 6, 8, 10, 12, 14, 16, 18, 20, 22, 24, 26, 28, 30] },
       { qpIndex := 1, commandCount := 0, slots := [] }] := by
    decide +kernel
  exact ⟨run, _, hRun, hLength, hWorkers, by decide +kernel, by decide⟩

/-- Three commands over two queues: the first queue gets two, the second one. -/
theorem roundRobin_split_pair : ∃ run,
    SlotRun.Follows InOrder (.begin pairClient) run ∧ run.issued.length = 3 ∧
    (commandsOn 0 run.issued).length = 2 ∧ (commandsOn 1 run.issued).length = 1 := by
  have hOpen : StorageClient.openClient 2 0 1 = .ok pairClient := rfl
  obtain ⟨run, hRun, hLength⟩ := pair_allocates 3 (by decide +kernel)
  have hWorkers : makeWorkers (pairClient.slotTable pairMemory pairMemory) run.issued.length 2 2 =
      .ok
      [{ qpIndex := 0
         commandCount := 2
         slots := [0, 2, 4, 6, 8, 10, 12, 14, 16, 18, 20, 22, 24, 26, 28, 30] },
       { qpIndex := 1
         commandCount := 1
         slots := [1, 3, 5, 7, 9, 11, 13, 15, 17, 19, 21, 23, 25, 27, 29, 31] }] := by
    rw [hLength]
    decide +kernel
  have hSplit := (roundRobin_matches_split hOpen hRun pairMemory pairMemory hWorkers).2
  exact ⟨run, hRun, hLength, (hSplit 0 _ rfl).1.symm, (hSplit 1 _ rfl).1.symm⟩

end TwoQueues

end NdsStorage.System
