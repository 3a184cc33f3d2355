import NdsStorage.Client.CreditRuns

/-! Completions of the vector core carry the identity of their request. Requests
and identifiers lie in rings that are indexed by free-running counters, and a
send completion names its request by the low bits of the producer index. -/
namespace NdsStorage.Client

section Verbs

/-- The last request of the posted part reports a completion. -/
def markLast : List SendWr → List SendWr
  | [] => []
  | [wr] => [{ wr with flags := wr.flags ||| kSendSignaled }]
  | wr :: rest => wr :: markLast rest

/-- Populate the entries of a batch from a producer index on. -/
def populateAll (producer : UInt32) : List SendWr → TransportQp → TransportQp
  | [], qp => qp
  | wr :: rest, qp => populateAll (producer + 1) rest (populateSendWqe producer wr qp)

/-- The entries of a batch as the hardware reads them. -/
def batchWqes (producer : UInt32) : List SendWr → List SendWqe
  | [] => []
  | wr :: rest => sendWqe producer wr :: batchWqes (producer + 1) rest

/-- Post as much of a batch as the queue takes and ring once. -/
def aivPostSendBatch (wrs : List SendWr) (qp : TransportQp) : BatchOutcome × TransportQp :=
  let queue := qp.descriptor.sendQueue
  let head := qp.send.counters.head
  let used := head - qp.send.counters.tail
  if wrs = [] then ({ status := some .invalidArgument, badWr := none }, qp)
  else if queue.depth ≤ 1 ∨ used ≥ queue.depth - 1 then
    ({ status := some .queueFull, badWr := some 0 }, qp)
  else
    match wrs.findIdx? fun wr => !aivValidSendWr wr with
    | some index => ({ status := some .invalidArgument, badWr := some index }, qp)
    | none =>
        let available := queue.depth - 1 - used
        let posted := min wrs.length available.toNat
        let batch := markLast (wrs.take posted)
        let rung := ringSendDoorbell (batchWqes head batch) (head + UInt32.ofNat posted)
          (populateAll head batch qp)
        if posted ≠ wrs.length then ({ status := some .queueFull, badWr := some posted }, rung)
        else ({ status := some .success, badWr := none }, rung)

/-- A completion as it is handed to the caller, with the entry it was read from. -/
structure Completion where
  wrId : UInt64
  cqe : Cqe
deriving DecidableEq, Repr

/-- The tail up to which a completion entry covers the queue. -/
def coveredTail (sendCq : Bool) (depth tail : UInt32) (cqe : Cqe) : UInt32 :=
  if sendCq then sendTailForCqe tail depth cqe else tail

/-- The polling loop. Before each look at the completion queue further entries
may arrive. The identifier is read from the slot of the covered request. -/
def pollLoop (sendCq : Bool) (depth : UInt32) :
    Nat → List (List UInt8) → QueueSide → List Completion × QueueSide
  | 0, _, side => ([], side)
  | limit + 1, arrivals, side =>
      let side := (arrivals.headD []).foldl QueueSide.complete side
      match side.ready with
      | [] => ([], side)
      | cqe :: rest =>
          let tail := coveredTail sendCq depth side.counters.tail cqe
          let next := pollLoop sendCq depth limit arrivals.tail
            { side with
              counters.consumer := side.counters.consumer + 1
              counters.tail := tail + 1
              ready := rest
              reclaimed := cqe.position + 1 }
          ({ wrId := side.wrIds (ringIndex tail depth), cqe := cqe } :: next.1, next.2)

def aivPollCq (sendCq : Bool) (maxCompletions : Nat) (arrivals : List (List UInt8))
    (qp : TransportQp) : Except OperationStatus (List Completion) × TransportQp :=
  if maxCompletions = 0 then (.error .invalidArgument, qp)
  else
    let polled := pollLoop sendCq (qp.descriptor.queue sendCq).depth
      (min maxCompletions kMaxCompletions) arrivals (qp.side sendCq)
    (.ok polled.1, qp.setSide sendCq polled.2)

end Verbs

section Batches

/-- What an accepted send does: its entry is populated and handed over. -/
def postOne (qp : TransportQp) (wr : SendWr) : TransportQp :=
  let head := qp.send.counters.head
  ringSendDoorbell [sendWqe head wr] (head + 1) (populateSendWqe head wr qp)

theorem postOne_head (qp : TransportQp) (wr : SendWr) :
    (postOne qp wr).send.counters.head = qp.send.counters.head + 1 :=
  rfl

/-- Entries and identifiers of a batch, and nothing else, lie in the rings. -/
theorem populateAll_eq (producer : UInt32) (wrs : List SendWr) (qp : TransportQp) :
    ∃ sendRing wrIds, ∀ (send : QueueSide) (unrung : List Bool) (state : TransportQpState),
      populateAll producer wrs { qp with
          send := { send with wrIds := qp.send.wrIds }
          unrung := unrung
          state := state } =
        { qp with
          sendRing := sendRing
          send := { send with wrIds := wrIds }
          unrung := unrung
          state := state } := by
  induction wrs generalizing producer qp with
  | nil => exact ⟨qp.sendRing, qp.send.wrIds, fun _ _ _ => rfl⟩
  | cons wr rest ih =>
      obtain ⟨sendRing, wrIds, hRest⟩ := ih (producer + 1) (populateSendWqe producer wr qp)
      exact ⟨sendRing, wrIds, fun send unrung state => hRest send unrung state⟩

/-- One doorbell for a batch does what single posts would have done. -/
theorem ringBatch_eq (wrs : List SendWr) (qp : TransportQp) :
    ringSendDoorbell (batchWqes qp.send.counters.head wrs)
        (qp.send.counters.head + UInt32.ofNat wrs.length)
        (populateAll qp.send.counters.head wrs qp) = wrs.foldl postOne qp := by
  induction wrs generalizing qp with
  | nil => simp [ringSendDoorbell, batchWqes, populateAll]
  | cons wr rest ih =>
      have hRest := ih (postOne qp wr)
      rw [postOne_head] at hRest
      rw [List.foldl_cons, ← hRest]
      obtain ⟨sendRing, wrIds, hFilled⟩ := populateAll_eq (qp.send.counters.head + 1) rest
        (populateSendWqe qp.send.counters.head wr qp)
      have hPlain := hFilled (populateSendWqe qp.send.counters.head wr qp).send qp.unrung qp.state
      have hPosted := hFilled (postOne qp wr).send qp.unrung qp.state
      change populateAll (qp.send.counters.head + 1) rest
        (populateSendWqe qp.send.counters.head wr qp) = _ at hPlain
      change populateAll (qp.send.counters.head + 1) rest (postOne qp wr) = _ at hPosted
      have hProducer : qp.send.counters.head + UInt32.ofNat (wr :: rest).length =
          qp.send.counters.head + 1 + UInt32.ofNat rest.length := by
        rw [List.length_cons, Nat.add_comm, UInt32.ofNat_add, ← UInt32.add_assoc]
        rfl
      rw [populateAll, hPlain, hPosted, hProducer]
      rfl

end Batches

section Rings

variable {Slot Item : Type} {depth start : UInt32} {bits low : Nat} {log : List Item}
  {slot : Nat → Item → Slot} {ring : Nat → Slot}

/-- On a power-of-two ring the index is the position modulo the depth. -/
theorem ringIndex_eq (hDepth : depth.toNat = 2 ^ bits) (hBits : bits ≤ 32) (position : Nat) :
    ringIndex (start + UInt32.ofNat position) depth = (start.toNat + position) % 2 ^ bits := by
  have hWord : 2 ^ bits ∣ 2 ^ 32 := Nat.pow_dvd_pow 2 hBits
  rw [ringIndex, UInt32.toNat_mod, hDepth, UInt32.toNat_add, UInt32.toNat_ofNat', Nat.add_mod_mod]
  exact Nat.mod_mod_of_dvd _ hWord

/-- Fewer than a full turn apart, two positions lie in different slots. -/
theorem ringIndex_ne (hDepth : depth.toNat = 2 ^ bits) (hBits : bits ≤ 32) {first second : Nat}
    (hOrder : first < second) (hTurn : second < first + depth.toNat) :
    ringIndex (start + UInt32.ofNat first) depth ≠ ringIndex (start + UInt32.ofNat second) depth := by
  rw [ringIndex_eq hDepth hBits, ringIndex_eq hDepth hBits]
  intro hSame
  have hZero := Nat.sub_mod_eq_zero_of_mod_eq hSame.symm
  rw [Nat.mod_eq_of_lt (by omega)] at hZero
  omega

/-- The slots from a position on hold what the log says. -/
def Stored (depth start : UInt32) (low : Nat) (log : List Item) (slot : Nat → Item → Slot)
    (ring : Nat → Slot) : Prop :=
  ∀ position item, low ≤ position → log[position]? = some item →
    ring (ringIndex (start + UInt32.ofNat position) depth) = slot position item

/-- A new item overwrites the slot of one that is no longer needed. -/
theorem Stored.push (h : Stored depth start low log slot ring) (hDepth : depth.toNat = 2 ^ bits)
    (hBits : bits ≤ 32) (hRoom : log.length < low + depth.toNat) (item : Item) :
    Stored depth start low (log ++ [item]) slot
      (Function.update ring (ringIndex (start + UInt32.ofNat log.length) depth)
        (slot log.length item)) := by
  intro position other hLow hOther
  rcases Nat.lt_trichotomy position log.length with hEarlier | rfl | hLater
  · rw [List.getElem?_append_left hEarlier] at hOther
    rw [Function.update_of_ne (ringIndex_ne hDepth hBits hEarlier (by omega))]
    exact h position other hLow hOther
  · rw [List.getElem?_concat_length] at hOther
    cases hOther
    exact Function.update_self ..
  · rw [List.getElem?_eq_none (by simp; omega)] at hOther
    cases hOther

theorem Stored.drop (h : Stored depth start low log slot ring) {later : Nat} (hLater : low ≤ later) :
    Stored depth start later log slot ring := fun position item hPosition =>
  h position item (Nat.le_trans hLater hPosition)

end Rings

/-- Positions that rise from `start` and stay below `stop`, without gaps where
every request reports its completion. -/
def Rising (dense : Bool) : Nat → Nat → List Nat → Prop
  | start, stop, [] => start ≤ stop ∧ (dense = true → start = stop)
  | start, stop, position :: rest =>
      start ≤ position ∧ (dense = true → position = start) ∧ Rising dense (position + 1) stop rest

theorem Rising.le {dense : Bool} {start stop : Nat} {positions : List Nat}
    (h : Rising dense start stop positions) : start ≤ stop := by
  induction positions generalizing start with
  | nil => exact h.1
  | cons position rest ih =>
      have hRest := ih h.2.2
      have hFirst := h.1
      omega

theorem Rising.push {dense : Bool} {start stop : Nat} {positions : List Nat}
    (h : Rising dense start stop positions) :
    Rising dense start (stop + 1) (positions ++ [stop]) := by
  induction positions generalizing start with
  | nil => exact ⟨h.1, fun hDense => (h.2 hDense).symm, Nat.le_refl _, fun _ => rfl⟩
  | cons position rest ih => exact ⟨h.1, h.2.1, ih h.2.2⟩

/-- Unless every position must occur, one may be left out. -/
theorem Rising.extend {start stop : Nat} {positions : List Nat}
    (h : Rising false start stop positions) : Rising false start (stop + 1) positions := by
  induction positions generalizing start with
  | nil => exact ⟨Nat.le_succ_of_le h.1, fun hDense => Bool.noConfusion hDense⟩
  | cons position rest ih => exact ⟨h.1, h.2.1, ih h.2.2⟩

/-- One side of a queue pair and the identifiers that were posted on it. -/
structure QueueSide.Tracks (sendCq : Bool) (depth start : UInt32) (bound : Nat)
    (ids : List UInt64) (side : QueueSide) : Prop where
  aligned : side.Aligned start
  posted_eq : side.posted = ids.length
  outstanding_le : side.outstanding ≤ bound
  rising : Rising (!sendCq) side.reclaimed side.posted
    ((side.ready ++ side.awaiting).map Cqe.position)
  stored : Stored depth start side.reclaimed ids (fun _ id => id) side.wrIds

namespace QueueSide.Tracks

variable {sendCq : Bool} {depth start : UInt32} {bits bound : Nat} {ids : List UInt64}
  {side : QueueSide}

theorem idle (sendCq : Bool) (depth start : UInt32) (bound : Nat) (consumer : UInt32)
    (wrIds : Nat → UInt64) :
    (QueueSide.idle start consumer wrIds).Tracks sendCq depth start bound [] where
  aligned := ⟨by simp [QueueSide.idle], by simp [QueueSide.idle], by simp [QueueSide.idle]⟩
  posted_eq := rfl
  outstanding_le := Nat.zero_le _
  rising := ⟨Nat.le_refl _, fun _ => rfl⟩
  stored := by
    intro position item _ hItem
    cases hItem

theorem reclaimed_le (h : side.Tracks sendCq depth start bound ids) :
    side.reclaimed ≤ side.posted :=
  h.rising.le

/-- Each identifier is reclaimed or outstanding. -/
theorem outstanding_add (h : side.Tracks sendCq depth start bound ids) :
    side.outstanding + side.reclaimed = ids.length := by
  have hLe := h.reclaimed_le
  have hPosted := h.posted_eq
  rw [QueueSide.outstanding]
  omega

/-- The distance of the counters is the number of outstanding requests. -/
theorem used_eq (h : side.Tracks sendCq depth start bound ids) (hBound : bound < 2 ^ 32) :
    (side.counters.head - side.counters.tail).toNat = side.outstanding := by
  have hLe := h.reclaimed_le
  have hRoom := h.outstanding_le
  rw [h.aligned.head_eq, h.aligned.tail_eq]
  simp only [UInt32.toNat_sub, UInt32.toNat_add, UInt32.toNat_ofNat']
  simp only [QueueSide.outstanding] at hRoom ⊢
  omega

theorem complete_unmoved (side : QueueSide) (status : UInt8) :
    (side.complete status).counters = side.counters ∧
      (side.complete status).reclaimed = side.reclaimed := by
  unfold QueueSide.complete
  split
  · exact ⟨rfl, rfl⟩
  · exact ⟨rfl, rfl⟩

theorem arrive_unmoved (side : QueueSide) (statuses : List UInt8) :
    (statuses.foldl QueueSide.complete side).counters = side.counters ∧
      (statuses.foldl QueueSide.complete side).reclaimed = side.reclaimed :=
  @Account.foldl_complete
    (fun other => other.counters = side.counters ∧ other.reclaimed = side.reclaimed)
    (fun other status hSame => ⟨(complete_unmoved other status).1.trans hSame.1,
      (complete_unmoved other status).2.trans hSame.2⟩) side ⟨rfl, rfl⟩ statuses

/-- An arriving completion is the next one of the history. -/
theorem complete (h : side.Tracks sendCq depth start bound ids) (status : UInt8) :
    (side.complete status).Tracks sendCq depth start bound ids := by
  have hAligned := h.aligned.complete status
  unfold QueueSide.complete at hAligned ⊢
  split at hAligned
  · exact h
  · rename_i cqe rest hAwaiting
    have hRising := h.rising
    rw [hAwaiting] at hRising
    exact {
      aligned := hAligned
      posted_eq := h.posted_eq
      outstanding_le := h.outstanding_le
      rising := by simpa using hRising
      stored := h.stored }

theorem arrive (h : side.Tracks sendCq depth start bound ids) (statuses : List UInt8) :
    (statuses.foldl QueueSide.complete side).Tracks sendCq depth start bound ids :=
  @Account.foldl_complete (QueueSide.Tracks sendCq depth start bound ids)
    (fun _ status hSide => hSide.complete status) side h statuses

/-- A request is handed over with its identifier in the slot of its position. -/
theorem handOver (h : side.Tracks sendCq depth start bound ids) (hDepth : depth.toNat = 2 ^ bits)
    (hBits : bits ≤ 32) (hRoom : side.outstanding < bound) (hBound : bound ≤ depth.toNat)
    {signaled : Bool} (hSignaled : sendCq = false → signaled = true) (id : UInt64) :
    ({ side with wrIds := Function.update side.wrIds (ringIndex side.counters.head depth) id
        }.handOver signaled).Tracks sendCq depth start bound (ids ++ [id]) := by
  have hLe := h.reclaimed_le
  have hStored := h.stored.push hDepth hBits (by
    rw [← h.posted_eq]
    simp only [QueueSide.outstanding] at hRoom
    omega) id
  rw [← h.posted_eq, ← h.aligned.head_eq] at hStored
  have hAligned : QueueSide.Aligned start { side with
      wrIds := Function.update side.wrIds (ringIndex side.counters.head depth) id } :=
    ⟨h.aligned.head_eq, h.aligned.tail_eq, h.aligned.index_eq⟩
  exact {
    aligned := hAligned.handOver signaled
    posted_eq := by
      rw [List.length_append, ← h.posted_eq]
      rfl
    outstanding_le := by
      simp only [QueueSide.outstanding, QueueSide.handOver] at hRoom ⊢
      omega
    rising := by
      cases signaled with
      | false =>
          cases sendCq with
          | false => exact absurd (hSignaled rfl) (by simp)
          | true => exact h.rising.extend
      | true =>
          have hPushed := h.rising.push
          simpa [QueueSide.handOver] using hPushed
    stored := hStored }

/-- A ready completion covers its request, whose identifier is still in its slot. -/
theorem reapOne (h : side.Tracks sendCq depth start bound ids) (hDepth : depth.toNat = 2 ^ bits)
    (hBits : bits ≤ 16) (hBound : bound ≤ depth.toNat) {cqe : Cqe} {rest : List Cqe}
    (hReady : side.ready = cqe :: rest) :
    coveredTail sendCq depth side.counters.tail cqe = start + UInt32.ofNat cqe.position ∧
      ids[cqe.position]? = some (side.wrIds (ringIndex (start + UInt32.ofNat cqe.position) depth)) ∧
      QueueSide.Tracks sendCq depth start bound ids { side with
        counters.consumer := side.counters.consumer + 1
        counters.tail := start + UInt32.ofNat cqe.position + 1
        ready := rest
        reclaimed := cqe.position + 1 } := by
  have hRising := h.rising
  have hRoom := h.outstanding_le
  have hIndex := h.aligned.index_eq
  rw [hReady] at hRising hIndex
  obtain ⟨hFirst, hDense, hRest⟩ := hRising
  have hLast := hRest.le
  have hInside : cqe.position < ids.length := by
    have hPosted := h.posted_eq
    omega
  have hTail : coveredTail sendCq depth side.counters.tail cqe =
      start + UInt32.ofNat cqe.position := by
    simp only [QueueSide.outstanding] at hRoom
    rw [coveredTail, h.aligned.tail_eq]
    cases sendCq with
    | false =>
        rw [hDense rfl]
        rfl
    | true =>
        exact QueueSide.sendTail_eq hBits hDepth hFirst (by omega) (hIndex cqe List.mem_cons_self)
  refine ⟨hTail, ?_, ?_⟩
  · rw [h.stored cqe.position (ids[cqe.position]) hFirst (List.getElem?_eq_getElem hInside)]
    exact List.getElem?_eq_getElem hInside
  · exact {
      aligned := {
        head_eq := h.aligned.head_eq
        tail_eq := by
          rw [UInt32.ofNat_add, ← UInt32.add_assoc]
          rfl
        index_eq := fun other hOther => hIndex other (List.mem_cons_of_mem _ hOther) }
      posted_eq := h.posted_eq
      outstanding_le := by
        simp only [QueueSide.outstanding] at hRoom ⊢
        omega
      rising := hRest
      stored := h.stored.drop (Nat.le_succ_of_le hFirst) }

/-- What the polling loop hands to the caller, and the tail it leaves. -/
theorem pollLoop (h : side.Tracks sendCq depth start bound ids) (hDepth : depth.toNat = 2 ^ bits)
    (hBits : bits ≤ 16) (hBound : bound ≤ depth.toNat) (limit : Nat)
    (arrivals : List (List UInt8)) :
    (pollLoop sendCq depth limit arrivals side).2.Tracks sendCq depth start bound ids ∧
      side.reclaimed ≤ (pollLoop sendCq depth limit arrivals side).2.reclaimed ∧
      (∀ completion ∈ (pollLoop sendCq depth limit arrivals side).1,
        side.reclaimed ≤ completion.cqe.position ∧
        ids[completion.cqe.position]? = some completion.wrId ∧
        completion.cqe.wqeIndex = (start + UInt32.ofNat completion.cqe.position) &&& 0xffff) ∧
      (pollLoop sendCq depth limit arrivals side).2.counters.tail =
        ((pollLoop sendCq depth limit arrivals side).1.getLast?.map fun last =>
          start + UInt32.ofNat last.cqe.position + 1).getD side.counters.tail := by
  induction limit generalizing side arrivals with
  | zero => exact ⟨h, Nat.le_refl _, by simp [Client.pollLoop], rfl⟩
  | succ limit ih =>
      have hArrived := h.arrive (arrivals.headD [])
      have hKept := arrive_unmoved side (arrivals.headD [])
      unfold Client.pollLoop
      generalize (arrivals.headD []).foldl QueueSide.complete side = arrived at hArrived hKept
      dsimp only
      split
      · exact ⟨hArrived, Nat.le_of_eq hKept.2.symm, by simp, congrArg QueueCounters.tail hKept.1⟩
      · rename_i cqe rest hReady
        obtain ⟨hTail, hId, hNext⟩ := hArrived.reapOne hDepth hBits hBound hReady
        obtain ⟨hTracks, hLater, hAll, hLast⟩ := ih hNext arrivals.tail
        have hIndex := hArrived.aligned.index_eq
        have hFirst := hArrived.rising
        rw [hReady] at hFirst
        rw [hTail]
        refine ⟨hTracks, ?_, ?_, ?_⟩
        · rw [← hKept.2]
          exact Nat.le_trans (Nat.le_succ_of_le hFirst.1) hLater
        · intro completion hCompletion
          rcases List.mem_cons.mp hCompletion with rfl | hRest
          · exact ⟨hKept.2 ▸ hFirst.1, hId, hIndex cqe (by simp [hReady])⟩
          · obtain ⟨hAfter, hSame⟩ := hAll completion hRest
            refine ⟨?_, hSame⟩
            rw [← hKept.2]
            exact Nat.le_trans (Nat.le_succ_of_le hFirst.1) hAfter
        · rw [List.getLast?_cons, hLast]
          cases (Client.pollLoop sendCq depth limit arrivals.tail _).1.getLast? with
          | none => rfl
          | some last => rfl

end QueueSide.Tracks

/-- How many requests of a batch its outcome says are posted. -/
def BatchOutcome.posted (count : Nat) (outcome : BatchOutcome) : Nat :=
  if outcome.status = some .success then count
  else if outcome.status = some .queueFull then outcome.badWr.getD 0
  else 0

/-- A queue pair of the vector core together with the requests that were posted
on it, in order. -/
structure VerbsRun where
  qp : TransportQp
  sends : List SendWr
  recvs : List RecvWr

namespace VerbsRun

/-- Completions arrive, or one of the verbs is called. -/
inductive Step : VerbsRun → VerbsRun → Prop
  | arrive (run : VerbsRun) (arrivals : Arrivals) :
      Step run { run with qp := run.qp.arrive arrivals }
  | postSend (run : VerbsRun) (wr : SendWr) :
      Step run { run with
        qp := (aivPostSend wr run.qp).2
        sends := if (aivPostSend wr run.qp).1 = .success then run.sends ++ [wr] else run.sends }
  | postSendBatch (run : VerbsRun) (wrs : List SendWr) :
      Step run { run with
        qp := (aivPostSendBatch wrs run.qp).2
        sends := run.sends ++
          markLast (wrs.take ((aivPostSendBatch wrs run.qp).1.posted wrs.length)) }
  | postRecv (run : VerbsRun) (wr : RecvWr) :
      Step run { run with
        qp := (aivPostRecv wr run.qp).2
        recvs := if (aivPostRecv wr run.qp).1 = .success then run.recvs ++ [wr] else run.recvs }
  | pollCq (run : VerbsRun) (sendCq : Bool) (maxCompletions : Nat)
      (arrivals : List (List UInt8)) :
      Step run { run with qp := (aivPollCq sendCq maxCompletions arrivals run.qp).2 }

def Reaches : VerbsRun → VerbsRun → Prop := Relation.ReflTransGen Step

/-- A queue pair on which nothing has been posted. -/
structure Fresh (qp : TransportQp) (sendStart receiveStart : UInt32) : Prop where
  send_idle : ∃ consumer wrIds, qp.send = .idle sendStart consumer wrIds
  receive_idle : ∃ consumer wrIds, qp.receive = .idle receiveStart consumer wrIds

/-- Both sides are tracked, and the entries of outstanding requests are in place. -/
structure Tracked (descriptor : QpDescriptor) (sendStart receiveStart : UInt32)
    (run : VerbsRun) : Prop where
  descriptor_eq : run.qp.descriptor = descriptor
  send : run.qp.send.Tracks true descriptor.sendQueue.depth sendStart
    (descriptor.sendQueue.depth.toNat - 1) (run.sends.map SendWr.wrId)
  receive : run.qp.receive.Tracks false descriptor.receiveQueue.depth receiveStart
    descriptor.receiveQueue.depth.toNat (run.recvs.map RecvWr.wrId)
  wqes : Stored descriptor.sendQueue.depth sendStart run.qp.send.reclaimed run.sends
    (fun position wr => sendWqe (sendStart + UInt32.ofNat position) wr) run.qp.sendRing
  buffers : Stored descriptor.receiveQueue.depth receiveStart run.qp.receive.reclaimed run.recvs
    (fun _ wr => wr.localBuffer) run.qp.receiveRing

/-- Queue depths within the range of the index field of a completion entry. -/
structure Depths (descriptor : QpDescriptor) : Prop where
  send : ∃ bits, 1 ≤ bits ∧ bits ≤ 16 ∧ descriptor.sendQueue.depth.toNat = 2 ^ bits
  receive : ∃ bits, 1 ≤ bits ∧ bits ≤ 16 ∧ descriptor.receiveQueue.depth.toNat = 2 ^ bits

variable {descriptor : QpDescriptor} {sendStart receiveStart : UInt32} {run run' : VerbsRun}

/-- A fresh queue pair tracks two empty histories. -/
theorem Tracked.initial {qp : TransportQp} (h : Fresh qp sendStart receiveStart) :
    Tracked qp.descriptor sendStart receiveStart { qp := qp, sends := [], recvs := [] } := by
  obtain ⟨sendConsumer, sendIds, hSend⟩ := h.send_idle
  obtain ⟨receiveConsumer, receiveIds, hReceive⟩ := h.receive_idle
  exact {
    descriptor_eq := rfl
    send := by
      dsimp only
      rw [hSend]
      exact QueueSide.Tracks.idle ..
    receive := by
      dsimp only
      rw [hReceive]
      exact QueueSide.Tracks.idle ..
    wqes := by
      intro position item _ hItem
      cases hItem
    buffers := by
      intro position item _ hItem
      cases hItem }

/-- An accepted send. -/
theorem Tracked.postOne (h : Tracked descriptor sendStart receiveStart run)
    (hDepths : Depths descriptor)
    (hRoom : run.qp.send.outstanding + 1 < descriptor.sendQueue.depth.toNat) (wr : SendWr) :
    Tracked descriptor sendStart receiveStart { run with
      qp := postOne run.qp wr
      sends := run.sends ++ [wr] } := by
  obtain ⟨bits, -, hBits, hDepth⟩ := hDepths.send
  have hLe := h.send.reclaimed_le
  have hPosted := h.send.posted_eq
  rw [List.length_map] at hPosted
  have hSend := h.send.handOver hDepth (by omega) (by omega) (by omega)
    (show true = false → decide (wr.flags &&& kSendSignaled ≠ 0) = true by simp) wr.wrId
  have hWqes := h.wqes.push hDepth (by omega) (by
    simp only [QueueSide.outstanding] at hRoom
    omega) wr
  rw [← hPosted, ← h.send.aligned.head_eq, ← h.descriptor_eq] at hWqes
  rw [← h.descriptor_eq] at hSend
  exact {
    descriptor_eq := h.descriptor_eq
    send := by
      rw [List.map_append, ← h.descriptor_eq]
      exact hSend
    receive := h.receive
    wqes := by
      rw [← h.descriptor_eq]
      exact hWqes
    buffers := h.buffers }

/-- The accepted part of a batch. -/
theorem Tracked.postAll (hDepths : Depths descriptor) (wrs : List SendWr) {run : VerbsRun}
    (h : Tracked descriptor sendStart receiveStart run)
    (hRoom : run.qp.send.outstanding + wrs.length < descriptor.sendQueue.depth.toNat) :
    Tracked descriptor sendStart receiveStart { run with
      qp := wrs.foldl Client.postOne run.qp
      sends := run.sends ++ wrs } := by
  induction wrs generalizing run with
  | nil => simpa using h
  | cons wr rest ih =>
      rw [List.length_cons] at hRoom
      have hNext := h.postOne hDepths (by omega) wr
      have hLe := h.send.reclaimed_le
      have hMore : (Client.postOne run.qp wr).send.outstanding = run.qp.send.outstanding + 1 := by
        show run.qp.send.posted + 1 - run.qp.send.reclaimed = _
        rw [QueueSide.outstanding]
        omega
      have hRest := ih hNext (by
        show (Client.postOne run.qp wr).send.outstanding + _ < _
        omega)
      simpa using hRest

/-- Marking the last request keeps the number of requests. -/
theorem markLast_length (wrs : List SendWr) : (markLast wrs).length = wrs.length := by
  induction wrs using markLast.induct with
  | case1 => rfl
  | case2 wr => rfl
  | case3 wr rest hRest ih => simp [markLast, ih]

/-- The counters differ by the number of outstanding requests. -/
theorem Tracked.used_eq (h : Tracked descriptor sendStart receiveStart run) :
    (run.qp.send.counters.head - run.qp.send.counters.tail).toNat = run.qp.send.outstanding ∧
      (run.qp.receive.counters.head - run.qp.receive.counters.tail).toNat =
        run.qp.receive.outstanding := by
  have hSend := descriptor.sendQueue.depth.toNat_lt
  have hReceive := descriptor.receiveQueue.depth.toNat_lt
  exact ⟨h.send.used_eq (by omega), h.receive.used_eq (by omega)⟩

/-- A post extends the send history, or changes nothing. -/
theorem Tracked.postSend (h : Tracked descriptor sendStart receiveStart run)
    (hDepths : Depths descriptor) (wr : SendWr) :
    Tracked descriptor sendStart receiveStart { run with
      qp := (aivPostSend wr run.qp).2
      sends := if (aivPostSend wr run.qp).1 = .success then run.sends ++ [wr] else run.sends } := by
  unfold aivPostSend
  dsimp only
  split
  · exact h
  split
  · exact h
  · rename_i hRoom
    rw [h.descriptor_eq] at hRoom
    simp only [not_or, UInt32.not_le, ge_iff_le] at hRoom
    have hFree := UInt32.lt_iff_toNat_lt.mp hRoom.2
    rw [h.used_eq.1, UInt32.toNat_sub_of_le _ _ (UInt32.le_of_lt hRoom.1)] at hFree
    change _ < descriptor.sendQueue.depth.toNat - 1 at hFree
    exact h.postOne hDepths (by omega) wr

theorem Tracked.postSendBatch (h : Tracked descriptor sendStart receiveStart run)
    (hDepths : Depths descriptor) (wrs : List SendWr) :
    Tracked descriptor sendStart receiveStart { run with
      qp := (aivPostSendBatch wrs run.qp).2
      sends := run.sends ++
        markLast (wrs.take ((aivPostSendBatch wrs run.qp).1.posted wrs.length)) } := by
  have hNone : ∀ outcome : BatchOutcome, outcome.posted wrs.length = 0 →
      Tracked descriptor sendStart receiveStart { run with
        sends := run.sends ++ markLast (wrs.take (outcome.posted wrs.length)) } := by
    intro outcome hZero
    rw [hZero]
    simpa [markLast] using h
  unfold aivPostSendBatch
  dsimp only
  split
  · exact hNone _ rfl
  split
  · exact hNone _ rfl
  rename_i hRoom
  split
  · exact hNone _ rfl
  rw [h.descriptor_eq] at hRoom ⊢
  simp only [not_or, UInt32.not_le, ge_iff_le] at hRoom
  have hAvailable : (descriptor.sendQueue.depth - 1 -
      (run.qp.send.counters.head - run.qp.send.counters.tail)).toNat =
      descriptor.sendQueue.depth.toNat - 1 - run.qp.send.outstanding := by
    rw [UInt32.toNat_sub_of_le _ _ (UInt32.le_of_lt hRoom.2),
      UInt32.toNat_sub_of_le _ _ (UInt32.le_of_lt hRoom.1), h.used_eq.1]
    rfl
  have hFree := UInt32.lt_iff_toNat_lt.mp hRoom.2
  rw [h.used_eq.1, UInt32.toNat_sub_of_le _ _ (UInt32.le_of_lt hRoom.1)] at hFree
  change _ < descriptor.sendQueue.depth.toNat - 1 at hFree
  rw [hAvailable]
  generalize hCount : min wrs.length (descriptor.sendQueue.depth.toNat - 1 -
    run.qp.send.outstanding) = posted
  have hLength : (markLast (wrs.take posted)).length = posted := by
    rw [markLast_length, List.length_take]
    omega
  have hBatch := Tracked.postAll hDepths (markLast (wrs.take posted)) h (by omega)
  rw [← ringBatch_eq, hLength] at hBatch
  split
  · exact hBatch
  · rename_i hWhole
    rw [Decidable.not_not] at hWhole
    subst hWhole
    exact hBatch

theorem Tracked.postRecv (h : Tracked descriptor sendStart receiveStart run)
    (hDepths : Depths descriptor) (wr : RecvWr) :
    Tracked descriptor sendStart receiveStart { run with
      qp := (aivPostRecv wr run.qp).2
      recvs := if (aivPostRecv wr run.qp).1 = .success then run.recvs ++ [wr] else run.recvs } := by
  obtain ⟨bits, -, hBits, hDepth⟩ := hDepths.receive
  unfold aivPostRecv
  split
  · exact h
  · rename_i hRoom
    simp only [receiveQueueFull, h.descriptor_eq, ge_iff_le, decide_eq_true_eq, UInt32.not_le,
      UInt32.lt_iff_toNat_lt, h.used_eq.2] at hRoom
    have hLe := h.receive.reclaimed_le
    have hPosted := h.receive.posted_eq
    rw [List.length_map] at hPosted
    have hReceive := h.receive.handOver hDepth (by omega) hRoom (Nat.le_refl _)
      (show false = false → true = true by simp) wr.wrId
    have hBuffers := h.buffers.push hDepth (by omega) (by
      simp only [QueueSide.outstanding] at hRoom
      omega) wr
    rw [← hPosted, ← h.receive.aligned.head_eq, ← h.descriptor_eq] at hBuffers
    rw [← h.descriptor_eq] at hReceive
    exact {
      descriptor_eq := h.descriptor_eq
      send := h.send
      receive := by
        dsimp only
        rw [if_pos rfl, List.map_append, ← h.descriptor_eq]
        exact hReceive
      wqes := h.wqes
      buffers := by
        dsimp only
        rw [if_pos rfl, ← h.descriptor_eq]
        exact hBuffers }

/-- What was posted on the side that a poll looks at. -/
def ids (run : VerbsRun) (sendCq : Bool) : List UInt64 :=
  if sendCq then run.sends.map SendWr.wrId else run.recvs.map RecvWr.wrId

/-- The position of a request as its producer index. -/
def producer (sendStart receiveStart : UInt32) (sendCq : Bool) (position : Nat) : UInt32 :=
  (if sendCq then sendStart else receiveStart) + UInt32.ofNat position

/-- A poll hands out the identifiers of the requests it covers. -/
theorem Tracked.pollCq (h : Tracked descriptor sendStart receiveStart run)
    (hDepths : Depths descriptor) (sendCq : Bool) (maxCompletions : Nat)
    (arrivals : List (List UInt8)) :
    Tracked descriptor sendStart receiveStart { run with
        qp := (aivPollCq sendCq maxCompletions arrivals run.qp).2 } ∧
      ∀ completions, (aivPollCq sendCq maxCompletions arrivals run.qp).1 = .ok completions →
        (∀ completion ∈ completions,
          (run.qp.side sendCq).reclaimed ≤ completion.cqe.position ∧
          (run.ids sendCq)[completion.cqe.position]? = some completion.wrId ∧
          completion.cqe.wqeIndex =
            producer sendStart receiveStart sendCq completion.cqe.position &&& 0xffff) ∧
        ∀ last, completions.getLast? = some last →
          ((aivPollCq sendCq maxCompletions arrivals run.qp).2.side sendCq).counters.tail =
            producer sendStart receiveStart sendCq last.cqe.position + 1 := by
  obtain ⟨sendBits, -, hSendBits, hSendDepth⟩ := hDepths.send
  obtain ⟨receiveBits, -, hReceiveBits, hReceiveDepth⟩ := hDepths.receive
  unfold aivPollCq
  split
  · exact ⟨h, fun completions hNone => by cases hNone⟩
  · dsimp only
    rw [h.descriptor_eq]
    cases sendCq with
    | true =>
        obtain ⟨hTracks, hLater, hIds, hTail⟩ := h.send.pollLoop hSendDepth hSendBits (by omega)
          (min maxCompletions kMaxCompletions) arrivals
        refine ⟨⟨h.descriptor_eq, hTracks, h.receive, h.wqes.drop hLater, h.buffers⟩, ?_⟩
        intro completions hSame
        cases hSame
        refine ⟨hIds, fun last hLast => ?_⟩
        have hEnd : (pollLoop true descriptor.sendQueue.depth (min maxCompletions kMaxCompletions)
          arrivals run.qp.send).1.getLast? = some last := hLast
        rw [hEnd] at hTail
        exact hTail
    | false =>
        obtain ⟨hTracks, hLater, hIds, hTail⟩ := h.receive.pollLoop hReceiveDepth hReceiveBits
          (Nat.le_refl _) (min maxCompletions kMaxCompletions) arrivals
        refine ⟨⟨h.descriptor_eq, h.send, hTracks, h.wqes, h.buffers.drop hLater⟩, ?_⟩
        intro completions hSame
        cases hSame
        refine ⟨hIds, fun last hLast => ?_⟩
        have hEnd : (pollLoop false descriptor.receiveQueue.depth
          (min maxCompletions kMaxCompletions) arrivals run.qp.receive).1.getLast? = some last :=
          hLast
        rw [hEnd] at hTail
        exact hTail

/-- Every call and every arrival keeps the two histories. -/
theorem Tracked.step (h : Tracked descriptor sendStart receiveStart run)
    (hDepths : Depths descriptor) (hStep : Step run run') :
    Tracked descriptor sendStart receiveStart run' := by
  cases hStep with
  | arrive arrivals =>
      have hSend := QueueSide.Tracks.arrive_unmoved run.qp.send arrivals.send
      have hReceive := QueueSide.Tracks.arrive_unmoved run.qp.receive arrivals.receive
      exact {
        descriptor_eq := h.descriptor_eq
        send := h.send.arrive arrivals.send
        receive := h.receive.arrive arrivals.receive
        wqes := h.wqes.drop (Nat.le_of_eq hSend.2.symm)
        buffers := h.buffers.drop (Nat.le_of_eq hReceive.2.symm) }
  | postSend wr => exact h.postSend hDepths wr
  | postSendBatch wrs => exact h.postSendBatch hDepths wrs
  | postRecv wr => exact h.postRecv hDepths wr
  | pollCq sendCq maxCompletions arrivals =>
      exact (h.pollCq hDepths sendCq maxCompletions arrivals).1

/-- The histories are tracked in every run. -/
theorem Tracked.reaches (h : Tracked descriptor sendStart receiveStart run)
    (hDepths : Depths descriptor) (hRun : Reaches run run') :
    Tracked descriptor sendStart receiveStart run' := by
  induction hRun with
  | refl => exact h
  | tail _ hStep ih => exact ih.step hDepths hStep

/-- What a caller of the verbs relies on. Positions count the requests of a side
in posting order, and those from `reclaimed` on are outstanding. -/
structure Identified (sendStart receiveStart : UInt32) (run : VerbsRun) : Prop where
  completions : ∀ sendCq maxCompletions arrivals completions,
    (aivPollCq sendCq maxCompletions arrivals run.qp).1 = .ok completions →
    (∀ completion ∈ completions,
      (run.qp.side sendCq).reclaimed ≤ completion.cqe.position ∧
      (run.ids sendCq)[completion.cqe.position]? = some completion.wrId ∧
      completion.cqe.wqeIndex =
        producer sendStart receiveStart sendCq completion.cqe.position &&& 0xffff) ∧
    ∀ last, completions.getLast? = some last →
      ((aivPollCq sendCq maxCompletions arrivals run.qp).2.side sendCq).counters.tail =
        producer sendStart receiveStart sendCq last.cqe.position + 1
  sends : ∀ position wr, run.qp.send.reclaimed ≤ position → run.sends[position]? = some wr →
    run.qp.sendRing (ringIndex (sendStart + UInt32.ofNat position)
      run.qp.descriptor.sendQueue.depth) = sendWqe (sendStart + UInt32.ofNat position) wr ∧
    run.qp.send.wrIds (ringIndex (sendStart + UInt32.ofNat position)
      run.qp.descriptor.sendQueue.depth) = wr.wrId
  recvs : ∀ position wr, run.qp.receive.reclaimed ≤ position → run.recvs[position]? = some wr →
    run.qp.receiveRing (ringIndex (receiveStart + UInt32.ofNat position)
      run.qp.descriptor.receiveQueue.depth) = wr.localBuffer ∧
    run.qp.receive.wrIds (ringIndex (receiveStart + UInt32.ofNat position)
      run.qp.descriptor.receiveQueue.depth) = wr.wrId
  send_outstanding :
    run.qp.send.outstanding + run.qp.send.reclaimed = run.sends.length ∧
    run.qp.send.outstanding ≤ run.qp.descriptor.sendQueue.depth.toNat - 1 ∧
    (run.qp.send.counters.head - run.qp.send.counters.tail).toNat = run.qp.send.outstanding
  receive_outstanding :
    run.qp.receive.outstanding + run.qp.receive.reclaimed = run.recvs.length ∧
    run.qp.receive.outstanding ≤ run.qp.descriptor.receiveQueue.depth.toNat ∧
    (run.qp.receive.counters.head - run.qp.receive.counters.tail).toNat =
      run.qp.receive.outstanding

/-- On every run, a completion carries the identity of its request. -/
theorem run_identified {qp : TransportQp} (hFresh : Fresh qp sendStart receiveStart)
    (hDepths : Depths qp.descriptor)
    (hRun : Reaches { qp := qp, sends := [], recvs := [] } run) :
    Identified sendStart receiveStart run := by
  have h := (Tracked.initial hFresh).reaches hDepths hRun
  exact {
    completions := fun sendCq maxCompletions arrivals =>
      (h.pollCq hDepths sendCq maxCompletions arrivals).2
    sends := by
      intro position wr hOutstanding hWr
      rw [h.descriptor_eq]
      exact ⟨h.wqes position wr hOutstanding hWr,
        h.send.stored position wr.wrId hOutstanding (by rw [List.getElem?_map, hWr]; rfl)⟩
    recvs := by
      intro position wr hOutstanding hWr
      rw [h.descriptor_eq]
      exact ⟨h.buffers position wr hOutstanding hWr,
        h.receive.stored position wr.wrId hOutstanding (by rw [List.getElem?_map, hWr]; rfl)⟩
    send_outstanding := by
      have hCount := h.send.outstanding_add
      rw [List.length_map] at hCount
      rw [h.descriptor_eq]
      exact ⟨hCount, h.send.outstanding_le, h.used_eq.1⟩
    receive_outstanding := by
      have hCount := h.receive.outstanding_add
      rw [List.length_map] at hCount
      rw [h.descriptor_eq]
      exact ⟨hCount, h.receive.outstanding_le, h.used_eq.2⟩ }

/-- An unsignaled send and a batch of one: the completion names the second. -/
theorem run_identified_second : ∃ run completion,
    Reaches { qp := deviceQp, sends := [], recvs := [] } run ∧
    (aivPollCq true 4 [[0]] run.qp).1 = .ok [completion] ∧ completion.cqe.position = 1 ∧
    (run.ids true)[1]? = some completion.wrId ∧
    ((aivPollCq true 4 [[0]] run.qp).2.side true).counters.tail = 2 := by
  have hFresh : Fresh deviceQp 0 0 := ⟨⟨0, _, rfl⟩, ⟨0, _, rfl⟩⟩
  have hDepths : Depths deviceQp.descriptor :=
    ⟨⟨6, by decide, by decide, rfl⟩, ⟨4, by decide, by decide, rfl⟩⟩
  have hRun := (Relation.ReflTransGen.single (Step.postSend
    { qp := deviceQp, sends := [], recvs := [] } deviceSend)).tail
    (Step.postSendBatch _ [{ deviceSend with wrId := 7 }])
  obtain ⟨hIds, hLast⟩ := (run_identified hFresh hDepths hRun).completions true 4 [[0]]
    [{ wrId := 7, cqe := { position := 1, wqeIndex := 1, status := 0 } }] (by decide +kernel)
  exact ⟨_, _, hRun, by decide +kernel, rfl, (hIds _ List.mem_cons_self).2.1, hLast _ rfl⟩

end VerbsRun

end NdsStorage.Client
