import NdsStorage.Client.Completions

/-! Completions of the control processor carry the identity of their request.
The processor stores the identifier of a send at the head of the queue, and the
provider moves the head if it accepts the send. A send that the provider refuses
has left its identifier behind, which matters where the queue is full. -/
namespace NdsStorage.Client

section Polls

/-- A poll of the control processor, with the identifiers that its caller reads. -/
def aicpuPollCompletions (sendCq : Bool) (maxCompletions : Nat) (arrivals : List (List UInt8))
    (qp : TransportQp) : Except OperationStatus (List Completion) × TransportQp :=
  let cq := qp.descriptor.cq sendCq
  let wq := qp.descriptor.queue sendCq
  if maxCompletions = 0 then (.error .invalidArgument, qp)
  else if cq.bufferAddress = 0 ∨ cq.consumerAddress = 0 ∨ cq.depth = 0 ∨
      cq.entrySize < kHnsHwCqeBytes ∨ wq.tailAddress = 0 ∨ wq.wrIdAddress = 0 then
    (.error .invalidArgument, qp)
  else
    let polled := pollLoop sendCq wq.depth (min maxCompletions kMaxCompletions) arrivals
      (qp.side sendCq)
    (.ok polled.1, qp.setSide sendCq polled.2)

/-- Nothing arrives during the loop: it consumes the entries that are ready. -/
theorem pollLoop_quiet (sendCq : Bool) (depth : UInt32) (limit : Nat) (side : QueueSide) :
    (pollLoop sendCq depth limit [] side).1.map Completion.cqe =
        (side.reap (pollMove sendCq depth) limit).1 ∧
      (pollLoop sendCq depth limit [] side).2 = (side.reap (pollMove sendCq depth) limit).2 := by
  induction limit generalizing side with
  | zero => exact ⟨rfl, rfl⟩
  | succ limit ih =>
      unfold pollLoop QueueSide.reap
      cases hReady : side.ready with
      | nil => simp [hReady]
      | cons cqe rest =>
          obtain ⟨hCqes, hSide⟩ := ih { side with
            counters := pollMove sendCq depth side.counters cqe
            ready := rest
            reclaimed := cqe.position + 1 }
          simp only [List.headD_nil, List.foldl_nil, List.tail_nil, hReady]
          exact ⟨congrArg (cqe :: ·) hCqes, hSide⟩

/-- The transport polls in the same way and has no use for the identifiers. -/
theorem aicpuPollCq_eq (sendCq : Bool) (arrivals : Arrivals) (qp : TransportQp) :
    aicpuPollCq sendCq arrivals qp =
      ((aicpuPollCompletions sendCq kMaxCompletions [] (qp.arrive arrivals)).1.map
          (List.map Completion.cqe),
        (aicpuPollCompletions sendCq kMaxCompletions [] (qp.arrive arrivals)).2) := by
  unfold aicpuPollCq aicpuPollCompletions
  generalize qp.arrive arrivals = arrived
  obtain ⟨hCqes, hSide⟩ := pollLoop_quiet sendCq (arrived.descriptor.queue sendCq).depth
    (min kMaxCompletions kMaxCompletions) (arrived.side sendCq)
  dsimp only
  rw [if_neg (show kMaxCompletions ≠ 0 by decide)]
  split
  · rfl
  · rw [Nat.min_self] at hCqes hSide ⊢
    rw [hSide, ← hCqes]
    rfl

end Polls

section Identifiers

variable {sendCq : Bool} {depth start : UInt32} {bits bound : Nat} {ids : List UInt64}
  {side : QueueSide}

/-- A side whose slot at the head holds another identifier. -/
def QueueSide.storeId (side : QueueSide) (depth : UInt32) (id : UInt64) : QueueSide :=
  { side with wrIds := Function.update side.wrIds (ringIndex side.counters.head depth) id }

@[simp] theorem QueueSide.storeId_head (side : QueueSide) (depth : UInt32) (id : UInt64) :
    (side.storeId depth id).wrIds (ringIndex side.counters.head depth) = id :=
  Function.update_self ..

/-- With a free entry, the slot at the head belongs to no outstanding request. -/
theorem QueueSide.Tracks.storeId (h : side.Tracks sendCq depth start bound ids)
    (hDepth : depth.toNat = 2 ^ bits) (hBits : bits ≤ 32)
    (hRoom : side.outstanding < depth.toNat) (id : UInt64) :
    (side.storeId depth id).Tracks sendCq depth start bound ids := by
  have hLe := h.reclaimed_le
  have hPushed := h.stored.push hDepth hBits (by
    rw [← h.posted_eq]
    simp only [QueueSide.outstanding] at hRoom
    omega) id
  rw [← h.posted_eq, ← h.aligned.head_eq] at hPushed
  exact {
    aligned := ⟨h.aligned.head_eq, h.aligned.tail_eq, h.aligned.index_eq⟩
    posted_eq := h.posted_eq
    outstanding_le := h.outstanding_le
    rising := h.rising
    stored := by
      intro position item hLow hItem
      have hInside : position < ids.length := (List.getElem?_eq_some_iff.mp hItem).1
      apply hPushed position item hLow
      rw [List.getElem?_append_left hInside]
      exact hItem }

/-- Without one, it is the slot of the oldest outstanding request. -/
theorem QueueSide.Tracks.head_slot (h : side.Tracks sendCq depth start bound ids)
    (hDepth : depth.toNat = 2 ^ bits) (hBits : bits ≤ 32)
    (hFull : side.outstanding = depth.toNat) :
    ringIndex side.counters.head depth =
      ringIndex (start + UInt32.ofNat side.reclaimed) depth := by
  have hLe := h.reclaimed_le
  have hPosted : side.posted = side.reclaimed + 2 ^ bits := by
    rw [← hDepth, ← hFull, QueueSide.outstanding]
    omega
  rw [h.aligned.head_eq, ringIndex_eq hDepth hBits, ringIndex_eq hDepth hBits, hPosted,
    ← Nat.add_assoc, Nat.add_mod_right]

/-- The identifier of the oldest outstanding request. -/
theorem QueueSide.Tracks.oldest (h : side.Tracks sendCq depth start bound ids)
    (hDepth : depth.toNat = 2 ^ bits) (hBits : bits ≤ 32)
    (hFull : side.outstanding = depth.toNat) :
    ids[side.reclaimed]? = some (side.wrIds (ringIndex side.counters.head depth)) := by
  have hLe := h.reclaimed_le
  have hPosted := h.posted_eq
  have hPositive : 0 < 2 ^ bits := Nat.two_pow_pos bits
  have hInside : side.reclaimed < ids.length := by
    rw [hDepth, QueueSide.outstanding] at hFull
    omega
  rw [h.head_slot hDepth hBits hFull, h.stored side.reclaimed ids[side.reclaimed]
    (Nat.le_refl _) (List.getElem?_eq_getElem hInside)]
  exact List.getElem?_eq_getElem hInside

end Identifiers

/-- The checks before a send stores its identifier. -/
structure StoresIdentifier (wr : SendWr) (provider : ProviderPost) (descriptor : QpDescriptor) :
    Prop where
  opcode : wr.opcode = kWrSend ∨ wr.opcode = kWrRdmaRead ∨ wr.opcode = kWrRdmaWrite
  mode : descriptor.qpMode = kQpModeNormal
  resolved : provider.resolved = true
  wrId_ne : descriptor.sendQueue.wrIdAddress ≠ 0
  head_ne : descriptor.sendQueue.headAddress ≠ 0
  depth_ne : descriptor.sendQueue.depth ≠ 0

/-- A send stops before the store, or the provider decides about it. -/
theorem aicpuPostSend_cases (wr : SendWr) (provider : ProviderPost) (qp : TransportQp) :
    (¬StoresIdentifier wr provider qp.descriptor ∧ (aicpuPostSend wr provider qp).1 ≠ .success ∧
      (aicpuPostSend wr provider qp).2 = qp) ∨
    (StoresIdentifier wr provider qp.descriptor ∧ provider.accepted = true ∧
      aicpuPostSend wr provider qp =
        (.success, { qp with
          send := (qp.send.storeId qp.descriptor.sendQueue.depth wr.wrId).handOver
            (wr.flags &&& kSendSignaled ≠ 0) })) ∨
    (StoresIdentifier wr provider qp.descriptor ∧ provider.accepted = false ∧
      aicpuPostSend wr provider qp =
        (.providerFailed, { qp with
          send := qp.send.storeId qp.descriptor.sendQueue.depth wr.wrId })) := by
  unfold aicpuPostSend
  dsimp only
  split
  · rename_i hOpcode
    left
    refine ⟨fun hStores => ?_, by simp, rfl⟩
    rcases hStores.opcode with hSend | hRead | hWrite
    · exact hOpcode.1 hSend
    · exact hOpcode.2.1 hRead
    · exact hOpcode.2.2 hWrite
  rename_i hOpcode
  split
  · rename_i hMode
    exact .inl ⟨fun hStores => hMode hStores.mode, by simp, rfl⟩
  rename_i hMode
  split
  · rename_i hResolved
    left
    refine ⟨fun hStores => ?_, by simp, rfl⟩
    simp [hStores.resolved] at hResolved
  rename_i hResolved
  split
  · rename_i hAddresses
    left
    refine ⟨fun hStores => ?_, by simp, rfl⟩
    rcases hAddresses with hWrId | hHead | hDepth
    · exact hStores.wrId_ne hWrId
    · exact hStores.head_ne hHead
    · exact hStores.depth_ne hDepth
  rename_i hAddresses
  right
  simp only [not_or] at hAddresses
  have hStores : StoresIdentifier wr provider qp.descriptor := {
    opcode := by
      by_cases hSend : wr.opcode = kWrSend
      · exact .inl hSend
      · by_cases hRead : wr.opcode = kWrRdmaRead
        · exact .inr (.inl hRead)
        · exact .inr (.inr (Decidable.not_not.mp fun hWrite => hOpcode ⟨hSend, hRead, hWrite⟩))
    mode := Decidable.not_not.mp hMode
    resolved := by simpa using hResolved
    wrId_ne := hAddresses.1
    head_ne := hAddresses.2.1
    depth_ne := hAddresses.2.2 }
  cases hAccepted : provider.accepted with
  | true => exact .inl ⟨hStores, rfl, rfl⟩
  | false => exact .inr ⟨hStores, rfl, rfl⟩

/-- What happens on a queue pair of the control processor. -/
inductive AicpuCall where
  | arrive (arrivals : Arrivals)
  | postSend (wr : SendWr) (provider : ProviderPost)
  | postRecv (wr : RecvWr)
  | pollCq (sendCq : Bool) (maxCompletions : Nat) (arrivals : List (List UInt8))

namespace AicpuCall

def perform (run : VerbsRun) : AicpuCall → VerbsRun
  | .arrive arrivals => { run with qp := run.qp.arrive arrivals }
  | .postSend wr provider => { run with
      qp := (aicpuPostSend wr provider run.qp).2
      sends :=
        if (aicpuPostSend wr provider run.qp).1 = .success then run.sends ++ [wr]
        else run.sends }
  | .postRecv wr => { run with
      qp := (aicpuPostRecv wr run.qp).2
      recvs :=
        if (aicpuPostRecv wr run.qp).1 = .success then run.recvs ++ [wr] else run.recvs }
  | .pollCq sendCq maxCompletions arrivals => { run with
      qp := (aicpuPollCompletions sendCq maxCompletions arrivals run.qp).2 }

/-- The provider accepts a send only if the queue has a free entry. -/
def Provided (run : VerbsRun) : AicpuCall → Prop
  | .postSend _ provider => provider.accepted = true →
      run.qp.send.outstanding < run.qp.descriptor.sendQueue.depth.toNat
  | _ => True

/-- The slots of the outstanding requests hold what they held before. -/
def SlotsKept (start depth : UInt32) (before after : QueueSide) : Prop :=
  ∀ position, before.reclaimed ≤ position → position < before.posted →
    after.wrIds (ringIndex (start + UInt32.ofNat position) depth) =
      before.wrIds (ringIndex (start + UInt32.ofNat position) depth)

/-- What the caller of the verbs relies on: a refused post leaves the
identifiers of outstanding requests alone, and a completion carries the
identifier that its request was posted with. -/
def Right (sendStart receiveStart : UInt32) (run : VerbsRun) : AicpuCall → Prop
  | .arrive _ => True
  | .postSend wr provider => (aicpuPostSend wr provider run.qp).1 ≠ .success →
      SlotsKept sendStart run.qp.descriptor.sendQueue.depth run.qp.send
        (aicpuPostSend wr provider run.qp).2.send
  | .postRecv wr => (aicpuPostRecv wr run.qp).1 ≠ .success →
      SlotsKept receiveStart run.qp.descriptor.receiveQueue.depth run.qp.receive
        (aicpuPostRecv wr run.qp).2.receive
  | .pollCq sendCq maxCompletions arrivals => ∀ completions,
      (aicpuPollCompletions sendCq maxCompletions arrivals run.qp).1 = .ok completions →
      ∀ completion ∈ completions,
        (run.ids sendCq)[completion.cqe.position]? = some completion.wrId

/-- A send that stores its identifier finds a free entry, or the identifier of
the oldest outstanding send is its own. -/
def Roomy (run : VerbsRun) : AicpuCall → Prop
  | .postSend wr provider => StoresIdentifier wr provider run.qp.descriptor →
      run.qp.send.outstanding < run.qp.descriptor.sendQueue.depth.toNat ∨
        (run.sends[run.qp.send.reclaimed]?).map SendWr.wrId = some wr.wrId
  | _ => True

end AicpuCall

namespace VerbsRun

/-- A property of every call of a run, in the state in which it is made. -/
def EachCall (property : VerbsRun → AicpuCall → Prop) : VerbsRun → List AicpuCall → Prop
  | _, [] => True
  | run, call :: calls => property run call ∧ EachCall property (call.perform run) calls

/-- Queue depths that an index field of 16 bits can tell apart. -/
structure IndexedDepths (descriptor : QpDescriptor) : Prop where
  send : ∃ bits ≤ 16, descriptor.sendQueue.depth.toNat = 2 ^ bits
  receive : ∃ bits ≤ 16, descriptor.receiveQueue.depth.toNat = 2 ^ bits

/-- Both sides are tracked. The send queue may be filled to its last entry. -/
structure Provided (descriptor : QpDescriptor) (sendStart receiveStart : UInt32)
    (run : VerbsRun) : Prop where
  descriptor_eq : run.qp.descriptor = descriptor
  send : run.qp.send.Tracks true descriptor.sendQueue.depth sendStart
    descriptor.sendQueue.depth.toNat (run.sends.map SendWr.wrId)
  receive : run.qp.receive.Tracks false descriptor.receiveQueue.depth receiveStart
    descriptor.receiveQueue.depth.toNat (run.recvs.map RecvWr.wrId)

variable {descriptor : QpDescriptor} {sendStart receiveStart : UInt32} {run : VerbsRun}

/-- A fresh queue pair has nothing outstanding. -/
theorem Provided.initial {qp : TransportQp} (h : Fresh qp sendStart receiveStart) :
    Provided qp.descriptor sendStart receiveStart { qp := qp, sends := [], recvs := [] } := by
  obtain ⟨sendConsumer, sendIds, hSend⟩ := h.send_idle
  obtain ⟨receiveConsumer, receiveIds, hReceive⟩ := h.receive_idle
  exact {
    descriptor_eq := rfl
    send := by
      rw [hSend]
      exact QueueSide.Tracks.idle ..
    receive := by
      rw [hReceive]
      exact QueueSide.Tracks.idle .. }

/-- Storing an identifier overwrites none that is still needed. -/
theorem Provided.slotsKept (h : Provided descriptor sendStart receiveStart run) (id : UInt64)
    (hDepths : IndexedDepths descriptor)
    (hRoom : run.qp.send.outstanding < descriptor.sendQueue.depth.toNat ∨
      (run.sends[run.qp.send.reclaimed]?).map SendWr.wrId = some id) :
    (run.qp.send.storeId descriptor.sendQueue.depth id).Tracks true descriptor.sendQueue.depth
      sendStart descriptor.sendQueue.depth.toNat (run.sends.map SendWr.wrId) := by
  obtain ⟨bits, hBits, hDepth⟩ := hDepths.send
  by_cases hFree : run.qp.send.outstanding < descriptor.sendQueue.depth.toNat
  · exact h.send.storeId hDepth (by omega) hFree id
  · have hFull : run.qp.send.outstanding = descriptor.sendQueue.depth.toNat :=
      Nat.le_antisymm h.send.outstanding_le (Nat.le_of_not_lt hFree)
    have hOldest := h.send.oldest hDepth (by omega) hFull
    rw [List.getElem?_map, hRoom.resolve_left hFree] at hOldest
    have hSame : run.qp.send.storeId descriptor.sendQueue.depth id = run.qp.send := by
      rw [QueueSide.storeId, Option.some.inj hOldest, Function.update_eq_self]
    rw [hSame]
    exact h.send

/-- A send with room keeps the books, whatever the provider answers. -/
theorem Provided.postSend (h : Provided descriptor sendStart receiveStart run)
    (hDepths : IndexedDepths descriptor) (wr : SendWr) {provider : ProviderPost}
    (hProvided : (AicpuCall.postSend wr provider).Provided run)
    (hRoomy : (AicpuCall.postSend wr provider).Roomy run) :
    Provided descriptor sendStart receiveStart ((AicpuCall.postSend wr provider).perform run) := by
  have hFree : provider.accepted = true →
      run.qp.send.outstanding < descriptor.sendQueue.depth.toNat := by
    rw [← h.descriptor_eq]
    exact hProvided
  have hRoom : StoresIdentifier wr provider run.qp.descriptor →
      run.qp.send.outstanding < descriptor.sendQueue.depth.toNat ∨
        (run.sends[run.qp.send.reclaimed]?).map SendWr.wrId = some wr.wrId := by
    rw [← h.descriptor_eq]
    exact hRoomy
  unfold AicpuCall.perform
  rcases aicpuPostSend_cases wr provider run.qp with ⟨-, hFailed, hSame⟩ |
    ⟨-, hAccepted, hPosted⟩ | ⟨hStores, -, hRefused⟩
  · dsimp only
    rw [hSame, if_neg hFailed]
    exact h
  · obtain ⟨bits, hBits, hDepth⟩ := hDepths.send
    have hSend := h.send.handOver hDepth (by omega) (hFree hAccepted) (Nat.le_refl _)
      (show true = false → decide (wr.flags &&& kSendSignaled ≠ 0) = true by simp) wr.wrId
    dsimp only
    rw [hPosted, if_pos rfl, h.descriptor_eq]
    exact {
      descriptor_eq := rfl
      send := by
        rw [List.map_append]
        exact hSend
      receive := h.receive }
  · have hKept := h.slotsKept wr.wrId hDepths (hRoom hStores)
    dsimp only
    rw [hRefused, if_neg (by simp), h.descriptor_eq]
    exact ⟨rfl, hKept, h.receive⟩

/-- A receive is refused, or it finds a free entry. -/
theorem aicpuPostRecv_cases (wr : RecvWr) (qp : TransportQp) :
    ((aicpuPostRecv wr qp).1 ≠ .success ∧ (aicpuPostRecv wr qp).2 = qp) ∨
    (receiveQueueFull qp = false ∧ aicpuPostRecv wr qp = (.success, postReceiveEntry wr qp)) := by
  unfold aicpuPostRecv
  dsimp only
  split
  · exact .inl ⟨by simp, rfl⟩
  · split
    · exact .inl ⟨by simp, rfl⟩
    · rename_i hRoom
      exact .inr ⟨by simpa using hRoom, rfl⟩

theorem Provided.postRecv (h : Provided descriptor sendStart receiveStart run)
    (hDepths : IndexedDepths descriptor) (wr : RecvWr) :
    Provided descriptor sendStart receiveStart ((AicpuCall.postRecv wr).perform run) := by
  obtain ⟨bits, hBits, hDepth⟩ := hDepths.receive
  unfold AicpuCall.perform
  rcases aicpuPostRecv_cases wr run.qp with ⟨hFailed, hSame⟩ | ⟨hRoom, hPosted⟩
  · dsimp only
    rw [hSame, if_neg hFailed]
    exact h
  · have hFree : run.qp.receive.outstanding < descriptor.receiveQueue.depth.toNat := by
      have hUsed := h.receive.used_eq descriptor.receiveQueue.depth.toNat_lt
      simpa only [receiveQueueFull, h.descriptor_eq, ge_iff_le, decide_eq_false_iff_not,
        UInt32.not_le, UInt32.lt_iff_toNat_lt, hUsed] using hRoom
    have hReceive := h.receive.handOver hDepth (by omega) hFree (Nat.le_refl _)
      (show false = false → true = true by simp) wr.wrId
    rw [← h.descriptor_eq] at hReceive
    dsimp only
    rw [hPosted, if_pos rfl]
    exact {
      descriptor_eq := h.descriptor_eq
      send := h.send
      receive := by
        rw [List.map_append, ← h.descriptor_eq]
        exact hReceive }

/-- A poll hands out the identifiers that its requests were posted with. -/
theorem Provided.pollCq (h : Provided descriptor sendStart receiveStart run)
    (hDepths : IndexedDepths descriptor) (sendCq : Bool) (maxCompletions : Nat)
    (arrivals : List (List UInt8)) :
    Provided descriptor sendStart receiveStart
        ((AicpuCall.pollCq sendCq maxCompletions arrivals).perform run) ∧
      (AicpuCall.pollCq sendCq maxCompletions arrivals).Right sendStart receiveStart run := by
  obtain ⟨sendBits, hSendBits, hSendDepth⟩ := hDepths.send
  obtain ⟨receiveBits, hReceiveBits, hReceiveDepth⟩ := hDepths.receive
  unfold AicpuCall.perform AicpuCall.Right aicpuPollCompletions
  dsimp only
  split
  · exact ⟨h, fun completions hNone => by cases hNone⟩
  split
  · exact ⟨h, fun completions hNone => by cases hNone⟩
  rw [h.descriptor_eq]
  cases sendCq with
  | true =>
      obtain ⟨hTracks, -, hIds, -⟩ := h.send.pollLoop hSendDepth hSendBits (Nat.le_refl _)
        (min maxCompletions kMaxCompletions) arrivals
      refine ⟨⟨h.descriptor_eq, hTracks, h.receive⟩, fun completions hSame => ?_⟩
      cases hSame
      intro completion hCompletion
      exact (hIds completion hCompletion).2.1
  | false =>
      obtain ⟨hTracks, -, hIds, -⟩ := h.receive.pollLoop hReceiveDepth hReceiveBits
        (Nat.le_refl _) (min maxCompletions kMaxCompletions) arrivals
      refine ⟨⟨h.descriptor_eq, h.send, hTracks⟩, fun completions hSame => ?_⟩
      cases hSame
      intro completion hCompletion
      exact (hIds completion hCompletion).2.1

theorem Provided.perform (h : Provided descriptor sendStart receiveStart run)
    (hDepths : IndexedDepths descriptor) {call : AicpuCall} (hProvided : call.Provided run)
    (hRoomy : call.Roomy run) :
    Provided descriptor sendStart receiveStart (call.perform run) := by
  cases call with
  | arrive arrivals =>
      exact ⟨h.descriptor_eq, h.send.arrive arrivals.send, h.receive.arrive arrivals.receive⟩
  | postSend wr provider => exact h.postSend hDepths wr hProvided hRoomy
  | postRecv wr => exact h.postRecv hDepths wr
  | pollCq sendCq maxCompletions arrivals =>
      exact (h.pollCq hDepths sendCq maxCompletions arrivals).1

/-- A refused send has overwritten the oldest identifier of a full queue. -/
theorem Provided.refused_iff (h : Provided descriptor sendStart receiveStart run)
    (hDepths : IndexedDepths descriptor) (id : UInt64) :
    AicpuCall.SlotsKept sendStart descriptor.sendQueue.depth run.qp.send
        (run.qp.send.storeId descriptor.sendQueue.depth id) ↔
      run.qp.send.outstanding < descriptor.sendQueue.depth.toNat ∨
        (run.sends[run.qp.send.reclaimed]?).map SendWr.wrId = some id := by
  obtain ⟨bits, hBits, hDepth⟩ := hDepths.send
  have hLe := h.send.reclaimed_le
  have hPosted := h.send.posted_eq
  constructor
  · intro hKept
    by_cases hFree : run.qp.send.outstanding < descriptor.sendQueue.depth.toNat
    · exact .inl hFree
    · right
      have hFull : run.qp.send.outstanding = descriptor.sendQueue.depth.toNat :=
        Nat.le_antisymm h.send.outstanding_le (Nat.le_of_not_lt hFree)
      have hSome : run.qp.send.reclaimed < run.qp.send.posted := by
        have hPositive : 0 < 2 ^ bits := Nat.two_pow_pos bits
        rw [hDepth, QueueSide.outstanding] at hFull
        omega
      have hOldest := h.send.oldest hDepth (by omega) hFull
      have hSlot := hKept run.qp.send.reclaimed (Nat.le_refl _) hSome
      rw [← h.send.head_slot hDepth (by omega) hFull, QueueSide.storeId_head] at hSlot
      rw [← List.getElem?_map, hOldest, hSlot]
  · intro hRoom position hLow hHigh
    have hTracks := h.slotsKept id hDepths hRoom
    rw [hPosted] at hHigh
    have hId := List.getElem?_eq_getElem hHigh
    rw [hTracks.stored position _ hLow hId, h.send.stored position _ hLow hId]

/-- A call finds its own identifiers exactly if it has room. -/
theorem Provided.right_iff (h : Provided descriptor sendStart receiveStart run)
    (hDepths : IndexedDepths descriptor) {call : AicpuCall} (hProvided : call.Provided run) :
    call.Right sendStart receiveStart run ↔ call.Roomy run := by
  cases call with
  | arrive arrivals => exact Iff.rfl
  | postSend wr provider =>
      dsimp only [AicpuCall.Right, AicpuCall.Roomy]
      rcases aicpuPostSend_cases wr provider run.qp with ⟨hStops, -, hSame⟩ |
        ⟨-, hAccepted, hPosted⟩ | ⟨hStores, -, hRefused⟩
      · apply iff_of_true
        · intro _ position _ _
          rw [hSame]
        · intro hStores
          exact absurd hStores hStops
      · apply iff_of_true
        · intro hFailed
          rw [hPosted] at hFailed
          exact absurd rfl hFailed
        · exact fun _ => .inl (hProvided hAccepted)
      · rw [hRefused, h.descriptor_eq, forall_prop_of_true (by simp),
          forall_prop_of_true (h.descriptor_eq ▸ hStores)]
        exact h.refused_iff hDepths wr.wrId
  | postRecv wr =>
      refine iff_of_true ?_ trivial
      intro hFailed position _ _
      rcases aicpuPostRecv_cases wr run.qp with ⟨-, hSame⟩ | ⟨-, hPosted⟩
      · rw [hSame]
      · rw [hPosted] at hFailed
        exact absurd rfl hFailed
  | pollCq sendCq maxCompletions arrivals =>
      exact iff_of_true (h.pollCq hDepths sendCq maxCompletions arrivals).2 trivial

theorem Provided.run_iff (h : Provided descriptor sendStart receiveStart run)
    (hDepths : IndexedDepths descriptor) {calls : List AicpuCall}
    (hProvided : run.EachCall (fun run call => call.Provided run) calls) :
    run.EachCall (fun run call => call.Right sendStart receiveStart run) calls ↔
      run.EachCall (fun run call => call.Roomy run) calls := by
  induction calls generalizing run with
  | nil => exact Iff.rfl
  | cons call calls ih =>
      have hCall := h.right_iff hDepths hProvided.1
      constructor
      · intro hRight
        have hRoomy := hCall.mp hRight.1
        have hNext := h.perform hDepths hProvided.1 hRoomy
        exact ⟨hRoomy, (ih hNext hProvided.2).mp hRight.2⟩
      · intro hRoomy
        have hNext := h.perform hDepths hProvided.1 hRoomy.1
        exact ⟨hCall.mpr hRoomy.1, (ih hNext hProvided.2).mpr hRoomy.2⟩

/-- Identifiers are right over a run exactly if no send stores a foreign
identifier while the queue is full. -/
theorem aicpu_identified_iff {qp : TransportQp} {calls : List AicpuCall}
    (hFresh : Fresh qp sendStart receiveStart) (hDepths : IndexedDepths qp.descriptor)
    (hProvided : EachCall (fun run call => call.Provided run)
      { qp := qp, sends := [], recvs := [] } calls) :
    EachCall (fun run call => call.Right sendStart receiveStart run)
        { qp := qp, sends := [], recvs := [] } calls ↔
      EachCall (fun run call => call.Roomy run) { qp := qp, sends := [], recvs := [] } calls :=
  (Provided.initial hFresh).run_iff hDepths hProvided

/-- A queue pair with room for two sends, and nothing posted. -/
def shortRun : VerbsRun where
  qp := { deviceQp with descriptor.sendQueue.depth := 2 }
  sends := []
  recvs := []

theorem shortRun_fresh : Fresh shortRun.qp 0 0 := ⟨⟨0, _, rfl⟩, ⟨0, _, rfl⟩⟩

theorem shortRun_depths : IndexedDepths shortRun.qp.descriptor :=
  ⟨⟨1, by decide, rfl⟩, ⟨4, by decide, rfl⟩⟩

def signaledSend (wrId : UInt64) : SendWr :=
  { deviceSend with wrId := wrId, flags := kSendSignaled }

def acceptSend (wrId : UInt64) : AicpuCall :=
  .postSend (signaledSend wrId) { resolved := true, accepted := true }

def refuseSend (wrId : UInt64) : AicpuCall :=
  .postSend (signaledSend wrId) { resolved := true, accepted := false }

/-- The provider refuses a send although the queue has a free entry. -/
theorem aicpu_identified_refused :
    EachCall (fun run call => call.Right 0 0 run) shortRun
      [acceptSend 1, refuseSend 2, .pollCq true 4 [[0]]] := by
  have hProvided : EachCall (fun run call => call.Provided run) shortRun
      [acceptSend 1, refuseSend 2, .pollCq true 4 [[0]]] :=
    ⟨fun _ => by decide, fun _ => by decide, trivial, trivial⟩
  apply (aicpu_identified_iff shortRun_fresh shortRun_depths hProvided).mpr
  exact ⟨fun _ => .inl (by decide), fun _ => .inl (by decide), trivial, trivial⟩

/-- A third send is refused by the full queue, and its identifier comes back
with the completion of the first one. -/
def overwritingCalls : List AicpuCall := [
  acceptSend 1, acceptSend 2, refuseSend 9, .pollCq true 4 [[0]]]

def overwrittenRun : VerbsRun :=
  (refuseSend 9).perform ((acceptSend 2).perform ((acceptSend 1).perform shortRun))

theorem aicpu_identified_overwritten :
    EachCall (fun run call => call.Provided run) shortRun overwritingCalls ∧
    (aicpuPollCompletions true 4 [[0]] overwrittenRun.qp).1 =
      .ok [{ wrId := 9, cqe := { position := 0, wqeIndex := 0, status := 0 } }] ∧
    (overwrittenRun.ids true)[0]? = some 1 ∧
    ¬EachCall (fun run call => call.Right 0 0 run) shortRun overwritingCalls := by
  have hPolled : (aicpuPollCompletions true 4 [[0]] overwrittenRun.qp).1 =
      .ok [{ wrId := 9, cqe := { position := 0, wqeIndex := 0, status := 0 } }] := by
    decide +kernel
  have hProvided : EachCall (fun run call => call.Provided run) shortRun overwritingCalls :=
    ⟨fun _ => by decide, fun _ => by decide, fun hAccepted => Bool.noConfusion hAccepted,
      trivial, trivial⟩
  refine ⟨hProvided, hPolled, by decide +kernel, fun hRight => ?_⟩
  obtain ⟨-, -, -, hPoll, -⟩ := hRight
  have hId := hPoll _ hPolled _ List.mem_cons_self
  revert hId
  decide +kernel

end VerbsRun

end NdsStorage.Client
