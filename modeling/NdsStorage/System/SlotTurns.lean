import NdsStorage.System.SlotOrder

/-! When the client keeps to the order that the server expects. A reservation
takes the first free slot from the cursor on, whatever slot its queue's worker
waits for, so it is in turn only if that slot comes first. -/
namespace NdsStorage.System

open Bytes Interaction Server Client

section Condition

/-- The slot that lies `step` places behind the cursor. -/
def fromCursor (client : StorageClient) (step : Nat) : Nat :=
  (client.nextSlot + step) % client.slots.length

/-- A slot is free, and from the cursor up to it every candidate is busy. -/
def FirstFree (client : StorageClient) (candidate : Nat → Prop) (slotIndex : Nat) : Prop :=
  ∃ gap, gap < client.slots.length ∧ fromCursor client gap = slotIndex ∧
    client.allocatedSlots slotIndex = false ∧
    ∀ step, step < gap → candidate (fromCursor client step) →
      client.allocatedSlots (fromCursor client step) = true

/-- The slot that a queue's worker expects after the commands submitted so far. -/
def slotInTurn (qpCount queue : Nat) (run : SlotRun) : Nat :=
  turnSlot qpCount queue (commandsOn queue run.issued).length

/-- A reservation on any queue meets the slot in turn of some queue before
every other free slot. A reservation on one queue meets the slot in turn of that
queue before its other free slots. -/
def MeetsTurn (qpCount : Nat) (run : SlotRun) : SlotCall → Prop
  | .allocate => ∃ queue, queue < qpCount ∧
      FirstFree run.client (fun _ => True) (slotInTurn qpCount queue run)
  | .allocateOn queue =>
      FirstFree run.client (fun slotIndex => slotIndex % qpCount = queue.toNat)
        (slotInTurn qpCount queue.toNat run)
  | .release _ => True

/-- Every reservation among the calls meets its turn in the state it is made in. -/
def AllMeetTurn (qpCount : Nat) : SlotRun → List SlotCall → Prop
  | _, [] => True
  | run, call :: calls =>
      MeetsTurn qpCount run call ∧ ∀ next ∈ run.accept call, AllMeetTurn qpCount next calls

instance (client : StorageClient) (candidate : Nat → Prop) [DecidablePred candidate]
    (slotIndex : Nat) : Decidable (FirstFree client candidate slotIndex) :=
  inferInstanceAs (Decidable (∃ gap, gap < _ ∧ _))

instance (qpCount : Nat) (run : SlotRun) : (call : SlotCall) → Decidable (MeetsTurn qpCount run call)
  | .allocate => inferInstanceAs (Decidable (∃ queue, queue < _ ∧ _))
  | .allocateOn queue => inferInstanceAs (Decidable (FirstFree run.client
      (fun slotIndex => slotIndex % qpCount = queue.toNat) (slotInTurn qpCount queue.toNat run)))
  | .release _ => inferInstanceAs (Decidable True)

instance decidableAllMeetTurn (qpCount : Nat) :
    (run : SlotRun) → (calls : List SlotCall) → Decidable (AllMeetTurn qpCount run calls)
  | _, [] => inferInstanceAs (Decidable True)
  | run, call :: calls =>
      have : ∀ next, Decidable (AllMeetTurn qpCount next calls) :=
        fun next => decidableAllMeetTurn qpCount next calls
      inferInstanceAs (Decidable (_ ∧ ∀ next ∈ run.accept call, AllMeetTurn qpCount next calls))

/-- On every queue the commands so far carry the queue's slots in table order, cyclically. -/
def InSequence (qpCount : Nat) (run : SlotRun) : Prop :=
  ∀ queue, queue < qpCount → ∀ turn slotIndex,
    (commandsOn queue run.issued)[turn]? = some slotIndex → slotIndex = turnSlot qpCount queue turn

end Condition

section Steps

variable {qpCount : Nat} {client : StorageClient} {run run' : SlotRun} {index : Nat}

theorem fromCursor_lt (h : client.Opened qpCount) (step : Nat) :
    fromCursor client step < qpCount * kStorageSlotsPerQp := by
  rw [fromCursor, h.slots_length]
  exact Nat.mod_lt _ h.slots_positive

/-- What a search from the cursor finds, in terms of the busy slots. -/
theorem find_iff_firstFree {candidate : Nat → Bool} {slotIndex : Nat} :
    client.searchOrder.find? (fun index => !client.allocatedSlots index && candidate index) =
        some slotIndex ↔
      candidate slotIndex = true ∧
        FirstFree client (fun index => candidate index = true) slotIndex := by
  rw [List.find?_eq_some_iff_getElem]
  simp only [StorageClient.searchOrder, List.getElem_map, List.getElem_range, List.length_map,
    List.length_range, Bool.and_eq_true, Bool.not_eq_true', Bool.not_and, Bool.not_not,
    Bool.or_eq_true]
  constructor
  · rintro ⟨⟨hFree, hCandidate⟩, gap, hGap, hPlace, hBefore⟩
    refine ⟨hCandidate, gap, hGap, hPlace, hFree, fun step hStep hOther => ?_⟩
    rcases hBefore step hStep with hBusy | hNot
    · exact hBusy
    · rw [show candidate ((client.nextSlot + step) % client.slots.length) = true from hOther]
        at hNot
      cases hNot
  · rintro ⟨hCandidate, gap, hGap, hPlace, hFree, hBefore⟩
    refine ⟨⟨hFree, hCandidate⟩, gap, hGap, hPlace, fun step hStep => ?_⟩
    cases hOther : candidate ((client.nextSlot + step) % client.slots.length) with
    | false => exact Or.inr rfl
    | true => exact Or.inl (hBefore step hStep hOther)

theorem slotInTurn_mod {queue : Nat} (hQueue : queue < qpCount) :
    slotInTurn qpCount queue run % qpCount = queue := by
  rw [slotInTurn, turnSlot, Nat.mul_add_mod_self_right, Nat.mod_eq_of_lt hQueue]

/-- A reservation meets its turn exactly if it takes the slot in turn of the
queue it lands on. -/
theorem meetsTurn_iff (h : run.client.Opened qpCount) {call : SlotCall}
    (hTarget : SlotRun.target run.client call = some index) :
    MeetsTurn qpCount run call ↔ index = slotInTurn qpCount (index % qpCount) run := by
  cases call with
  | release slotId => cases hTarget
  | allocate =>
      have hFound : ∀ slotIndex, FirstFree run.client (fun _ => True) slotIndex ↔
          index = slotIndex := by
        intro slotIndex
        have hSearch := @find_iff_firstFree run.client (fun _ => true) slotIndex
        simp only [Bool.and_true, true_and] at hSearch
        have hFind : run.client.searchOrder.find?
            (fun index => !run.client.allocatedSlots index) = some index := hTarget
        rw [← hSearch, hFind, Option.some.injEq]
      simp only [MeetsTurn, hFound]
      constructor
      · rintro ⟨queue, hQueue, hIndex⟩
        rw [hIndex, slotInTurn_mod hQueue]
      · intro hIndex
        exact ⟨index % qpCount, Nat.mod_lt _ h.positive, hIndex⟩
  | allocateOn queue =>
      have hOn : ∀ step, run.client.slotQueue (fromCursor run.client step) = queue ↔
          fromCursor run.client step % qpCount = queue.toNat := by
        intro step
        rw [← UInt32.toNat_inj, h.slotQueue_toNat (fromCursor_lt h step)]
      have hSearch := fun slotIndex => @find_iff_firstFree run.client
        (fun index => run.client.slotQueue index = queue) slotIndex
      simp only [decide_eq_true_eq] at hSearch
      obtain ⟨hHere, gap, -, hPlace, -⟩ := (hSearch index).mp hTarget
      rw [← hPlace, hOn gap, hPlace] at hHere
      rw [hHere]
      have hSame : FirstFree run.client (fun slotIndex => slotIndex % qpCount = queue.toNat)
            (slotInTurn qpCount queue.toNat run) ↔
          FirstFree run.client (fun slotIndex => run.client.slotQueue slotIndex = queue)
            (slotInTurn qpCount queue.toNat run) := by
        simp only [FirstFree, hOn]
      rw [MeetsTurn, hSame]
      constructor
      · rintro ⟨gap, hGap, hTurn, hRest⟩
        have hQueue : run.client.slotQueue (slotInTurn qpCount queue.toNat run) = queue := by
          rw [← hTurn, hOn gap, hTurn, slotInTurn_mod (hHere ▸ Nat.mod_lt _ h.positive)]
        have hFound := (hSearch _).mpr ⟨hQueue, gap, hGap, hTurn, hRest⟩
        exact Option.some.inj (hTarget.symm.trans hFound)
      · intro hIndex
        rw [← hIndex]
        exact ((hSearch index).mp hTarget).2

theorem target_lt (h : run.client.Opened qpCount) {call : SlotCall}
    (hTarget : SlotRun.target run.client call = some index) :
    index < qpCount * kStorageSlotsPerQp := by
  have hFound : index ∈ run.client.searchOrder := by
    cases call with
    | allocate => exact List.mem_of_find?_eq_some hTarget
    | allocateOn queue => exact List.mem_of_find?_eq_some hTarget
    | release slotId => cases hTarget
  obtain ⟨attempt, -, rfl⟩ := List.mem_map.mp hFound
  exact fromCursor_lt h attempt

/-- A queue's sequence goes on exactly if the next command carries the slot in turn. -/
theorem inSequence_taken (h : run.client.Opened qpCount)
    (hIndex : index < qpCount * kStorageSlotsPerQp) :
    InSequence qpCount (run.taken index) ↔
      InSequence qpCount run ∧ index = slotInTurn qpCount (index % qpCount) run := by
  have hIssued := commandsOn_taken h hIndex
  constructor
  · intro hTaken
    constructor
    · intro queue hQueue turn slotIndex hTurn
      apply hTaken queue hQueue turn slotIndex
      rw [hIssued, List.getElem?_append_left (List.getElem?_eq_some_iff.mp hTurn).1, hTurn]
    · apply hTaken _ (Nat.mod_lt _ h.positive)
      rw [hIssued, if_pos rfl, List.getElem?_concat_length]
  · rintro ⟨hSequence, hTurn⟩ queue hQueue turn slotIndex hSlot
    rw [hIssued] at hSlot
    split at hSlot
    · rename_i hHere
      subst hHere
      rcases Nat.lt_trichotomy turn (commandsOn (index % qpCount) run.issued).length with
        hOld | rfl | hBeyond
      · rw [List.getElem?_append_left hOld] at hSlot
        exact hSequence _ hQueue turn slotIndex hSlot
      · rw [List.getElem?_concat_length, Option.some.injEq] at hSlot
        rw [← hSlot]
        exact hTurn
      · rw [List.getElem?_eq_none (by simp; omega)] at hSlot
        cases hSlot
    · rw [List.append_nil] at hSlot
      exact hSequence queue hQueue turn slotIndex hSlot

/-- One accepted call keeps the sequence exactly if it meets its turn. -/
theorem inSequence_accept (h : run.client.Opened qpCount) {call : SlotCall}
    (hAccept : run.accept call = some run') :
    run'.client.Opened qpCount ∧
      (InSequence qpCount run' ↔ InSequence qpCount run ∧ MeetsTurn qpCount run call) := by
  rcases SlotRun.accept_cases hAccept with ⟨index, hTarget, rfl⟩ | ⟨slotId, rfl, -, -, rfl⟩
  · refine ⟨(h.reserve _).setState _ _, ?_⟩
    rw [inSequence_taken h (target_lt h hTarget), meetsTurn_iff h hTarget]
  · exact ⟨(h.setState _ _).unreserve _, (and_iff_left trivial).symm⟩

/-- A list of accepted calls keeps the sequence exactly if each of them meets its turn. -/
theorem inSequence_acceptAll {calls : List SlotCall} (h : run.client.Opened qpCount)
    (hCalls : run.acceptAll calls = some run') :
    InSequence qpCount run' ↔ InSequence qpCount run ∧ AllMeetTurn qpCount run calls := by
  induction calls generalizing run with
  | nil =>
      cases hCalls
      exact (and_iff_left trivial).symm
  | cons call calls ih =>
      obtain ⟨next, hAccept, hRest⟩ := Option.bind_eq_some_iff.mp hCalls
      obtain ⟨hNext, hStep⟩ := inSequence_accept h hAccept
      have hOnly : (∀ other ∈ run.accept call, AllMeetTurn qpCount other calls) ↔
          AllMeetTurn qpCount next calls := by
        simp [hAccept]
      rw [ih hNext hRest, hStep, AllMeetTurn, hOnly, and_assoc]

end Steps

section Order

variable {qpCount : Nat} {qpNum psn : UInt32} {client : StorageClient} {run : SlotRun}

/-- The sequence in the server's words: the slots that it finds for the queue, cyclically. -/
theorem inSequence_iff (h : client.Opened qpCount) (commands completions : StorageMemory) :
    InSequence qpCount run ↔ ∀ queue, queue < qpCount → ∀ turn slotIndex,
      (commandsOn queue run.issued)[turn]? = some slotIndex →
      slotIndex = (slotsOf (client.slotTable commands completions) queue).getD
        (turn % (slotsOf (client.slotTable commands completions) queue).length) 0 := by
  have hTurn : ∀ queue, queue < qpCount → ∀ turn,
      (slotsOf (client.slotTable commands completions) queue).getD
        (turn % (slotsOf (client.slotTable commands completions) queue).length) 0 =
      turnSlot qpCount queue turn := by
    intro queue hQueue turn
    have hLength : (slotsOf (client.slotTable commands completions) queue).length =
        kStorageSlotsPerQp := by
      rw [slotsOf_slotTable commands completions h hQueue, List.length_map, List.length_range]
    rw [hLength, slotsOf_turn commands completions h hQueue]
  constructor
  · intro hSequence queue hQueue turn slotIndex hSlot
    rw [hTurn queue hQueue]
    exact hSequence queue hQueue turn slotIndex hSlot
  · intro hSequence queue hQueue turn slotIndex hSlot
    rw [← hTurn queue hQueue]
    exact hSequence queue hQueue turn slotIndex hSlot

/-- For every list of accepted calls, the commands of each queue carry the
queue's slots in table order, cyclically, and no worker that receives them finds
a command in the wrong slot, exactly if every reservation meets its turn. -/
theorem commands_in_turn_iff
    (hOpen : StorageClient.openClient qpCount qpNum psn = .ok client) {calls : List SlotCall}
    (hCalls : (SlotRun.begin client).acceptAll calls = some run)
    (commands completions : StorageMemory) :
    (∀ queue, queue < qpCount →
      (∀ turn slotIndex, (commandsOn queue run.issued)[turn]? = some slotIndex →
        slotIndex = (slotsOf (client.slotTable commands completions) queue).getD
          (turn % (slotsOf (client.slotTable commands completions) queue).length) 0) ∧
      ∀ (workload : Workload) (program : Program Call Call.Answer (Except Error Unit))
        (fabric : Fabric) (error : Error),
        workload.worker.slots = slotsOf (client.slotTable commands completions) queue →
        WorkerReaches workload.traffic workload.session workload.worker program fabric →
        (∀ turn, turn < fabric.received → (commandsOn queue run.issued)[turn]? =
          some (carriedSlotIndex (workload.traffic.message turn))) →
        program = .done (.error error) → fabric.failure = none →
        ∀ message ∈ wrongSlotMessages, error ≠ protocolError message) ↔
      AllMeetTurn qpCount (.begin client) calls := by
  have hOpened := StorageClient.openClient_opened hOpen
  have hBegin : InSequence qpCount (.begin client) := by
    intro queue hQueue turn slotIndex hSlot
    cases hSlot
  have hRun := (inSequence_acceptAll hOpened hCalls).trans (and_iff_right hBegin)
  rw [← hRun]
  constructor
  · intro hOrder
    exact (inSequence_iff hOpened commands completions).mpr fun queue hQueue =>
      (hOrder queue hQueue).1
  · intro hSequence queue hQueue
    refine ⟨(inSequence_iff hOpened commands completions).mp hSequence queue hQueue, ?_⟩
    intro workload program fabric error hSlots hReaches hCarried hDone hHealthy
    exact worker_never_wrong_slot hOpened hQueue commands completions hSlots hReaches
      (fun turn hReceived => hSequence queue hQueue turn _ (hCarried turn hReceived))
      hDone hHealthy

end Order

section Strays

/-- Both queues of a client with sixteen commands on the first one, all of them
released, and then one command on each queue. -/
def drainedCalls : List SlotCall :=
  List.replicate 16 (.allocateOn 0) ++
    (List.range 16).map (fun turn => .release (UInt32.ofNat (2 * turn))) ++
    [.allocateOn 0, .allocateOn 1]

/-- The second command on a queue may come from behind slots of the other queue. -/
theorem commands_in_turn_drained : ∃ run,
    (SlotRun.begin pairClient).acceptAll drainedCalls = some run ∧
      commandsOn 0 run.issued =
        [0, 2, 4, 6, 8, 10, 12, 14, 16, 18, 20, 22, 24, 26, 28, 30, 0] ∧
      commandsOn 1 run.issued = [1] ∧
      1 = (slotsOf (pairClient.slotTable pairMemory pairMemory) 1).getD
        (0 % (slotsOf (pairClient.slotTable pairMemory pairMemory) 1).length) 0 := by
  have hOpen : StorageClient.openClient 2 0 1 = .ok pairClient := rfl
  have hIssued : ((SlotRun.begin pairClient).acceptAll drainedCalls).map
      (fun run => (commandsOn 0 run.issued, commandsOn 1 run.issued)) =
      some ([0, 2, 4, 6, 8, 10, 12, 14, 16, 18, 20, 22, 24, 26, 28, 30, 0], [1]) := by
    decide +kernel
  obtain ⟨run, hCalls, hCommands⟩ := Option.map_eq_some_iff.mp hIssued
  obtain ⟨hFirst, hSecond⟩ := Prod.mk.inj hCommands
  have hTurns : AllMeetTurn 2 (.begin pairClient) drainedCalls := by decide +kernel
  exact ⟨run, hCalls, hFirst, hSecond, ((commands_in_turn_iff hOpen hCalls pairMemory
    pairMemory).mpr hTurns 1 (by decide)).1 0 1 (by rw [hSecond]; rfl)⟩

/-- Sixteen commands, of which the sixth is released first, and one more. -/
def strayCalls : List SlotCall := List.replicate 16 .allocate ++ [.release 5, .allocate]

/-- The worker of that queue, which receives a read from each of these slots. -/
def strayReads : Workload where
  traffic := {
    message := fun turn => commandLayout .read {
      commandId := UInt64.ofNat (turn + 1)
      offset := 0
      length := 8
      data := { address := 4096, length := 8, remoteKey := 5 }
      slotIndex := if turn = 16 then 5 else UInt32.ofNat turn } kRemoteWrite
      (List.replicate kStorageCommandBytes 0)
    descriptors := fun _ => []
    message_length := fun _ => by simp }
  session := {
    storageSize := 64
    slots := soloClient.slotTable pairMemory pairMemory }
  worker := {
    qpIndex := 0
    commandCount := 17
    slots := slotsOf (soloClient.slotTable pairMemory pairMemory) 0 }

/-- The sixteen commands are answered. Slot five is then the only free one, so
the next reservation takes it, while the worker expects slot zero and gives up. -/
theorem commands_out_of_turn_released :
    StorageClient.openClient 1 0 1 = .ok soloClient ∧
    (∃ run, (SlotRun.begin soloClient).acceptAll strayCalls = some run ∧
      ∀ turn, turn < 17 → (commandsOn 0 run.issued)[turn]? =
        some (carriedSlotIndex (strayReads.traffic.message turn))) ∧
    carriedSlotIndex (strayReads.traffic.message 16) = 5 ∧
    (slotsOf (soloClient.slotTable pairMemory pairMemory) 0).getD (16 % 16) 0 = 0 ∧
    ∃ fabric, WorkerReaches strayReads.traffic strayReads.session strayReads.worker
        (.done (.error (protocolError "storage read arrived in the wrong slot"))) fabric ∧
      fabric.failure = none ∧ fabric.received = 17 ∧
      ∀ command, command < 16 → .completionWaited ∈ fabric.history command := by
  have hIssued : ((SlotRun.begin soloClient).acceptAll strayCalls).map
      (fun run => commandsOn 0 run.issued) = some (List.range 16 ++ [5]) := by
    decide +kernel
  obtain ⟨run, hCalls, hCommands⟩ := Option.map_eq_some_iff.mp hIssued
  have hCarried : (List.range 17).map (fun turn =>
      carriedSlotIndex (strayReads.traffic.message turn)) = List.range 16 ++ [5] := by
    decide +kernel
  have hOutcome : ((runFor strayReads.traffic strayReads.session strayReads.worker 17
        180).outcome? =
      some (.error (protocolError "storage read arrived in the wrong slot"))) ∧
      (runFor strayReads.traffic strayReads.session strayReads.worker 17 180).2.failure = none ∧
      (runFor strayReads.traffic strayReads.session strayReads.worker 17 180).2.received = 17 ∧
      ∀ command, command < 16 → .completionWaited ∈
        (runFor strayReads.traffic strayReads.session strayReads.worker 17 180).2.history
          command := by
    decide +kernel
  obtain ⟨hStopped, hState⟩ := hOutcome
  have hRun := runFor_reaches strayReads.traffic strayReads.session strayReads.worker 17 180
  rw [Config.outcome?_eq hStopped] at hRun
  refine ⟨rfl, ⟨run, hCalls, fun turn hTurn => ?_⟩, by decide +kernel, by decide +kernel, _,
    hRun, hState⟩
  rw [hCommands, ← hCarried, List.getElem?_map, List.getElem?_range hTurn]
  rfl

-- Without a release: the cursor has passed slot one, so queue one starts with slot three.
example : ((SlotRun.begin pairClient).acceptAll
    [.allocateOn 0, .allocateOn 0, .allocateOn 1]).map (fun run => commandsOn 1 run.issued) =
      some [3] := by
  decide +kernel

end Strays

end NdsStorage.System
