import NdsStorage.Client.DevicePolls

/-! Runs of the vector core on device memory. From memory in which nothing has
been posted yet, any sequence of posts, polls and reports is a run of the queue
pair record, so that what was proved about the record holds of the bytes. -/
namespace NdsStorage.Client

open Bytes FlatMemory PhaseRing

/-- A device together with the requests that were posted on it, in order. -/
structure DeviceRun where
  device : Device
  sends : List SendWr
  recvs : List RecvWr

namespace DeviceRun

/-- The hardware writes a report, or one of the verbs is called. -/
inductive Step : DeviceRun → DeviceRun → Prop
  | report (run : DeviceRun) (sendCq : Bool) (cqe : HnsHwCqe) :
      Step run { run with device := run.device.report sendCq cqe }
  | postSend (run : DeviceRun) (wr : SendWr) :
      Step run { run with
        device := (run.device.aivPostSend wr).2
        sends := if (run.device.aivPostSend wr).1 = .success then run.sends ++ [wr] else run.sends }
  | postSendBatch (run : DeviceRun) (wrs : List SendWr) :
      Step run { run with
        device := (run.device.aivPostSendBatch wrs).2
        sends := run.sends ++
          markLast (wrs.take ((run.device.aivPostSendBatch wrs).1.posted wrs.length)) }
  | postRecv (run : DeviceRun) (wr : RecvWr) :
      Step run { run with
        device := (run.device.aivPostRecv wr).2
        recvs := if (run.device.aivPostRecv wr).1 = .success then run.recvs ++ [wr] else run.recvs }
  | pollCq (run : DeviceRun) (sendCq : Bool) (maxCompletions : Nat)
      (arrivals : List (List HnsHwCqe)) :
      Step run { run with device := (run.device.aivPollCq sendCq maxCompletions arrivals).2 }

def Reaches : DeviceRun → DeviceRun → Prop := Relation.ReflTransGen Step

def ids (run : DeviceRun) (sendCq : Bool) : List UInt64 :=
  if sendCq then run.sends.map SendWr.wrId else run.recvs.map RecvWr.wrId

/-- The device of a run is in the state of a run of the record. -/
structure Linked (initial : Device) (run : DeviceRun) (verbs : VerbsRun) : Prop where
  mirrors : run.device.Mirrors verbs.qp
  qp_eq : run.device.qp = initial.qp
  sends_eq : run.sends = verbs.sends
  recvs_eq : run.recvs = verbs.recvs
  keeps : initial.qp.Keeps queueParts initial.memory run.device.memory

variable {initial : Device} {run run' : DeviceRun} {verbs : VerbsRun}

theorem depth_positive {descriptor : QpDescriptor} (h : VerbsRun.Depths descriptor)
    (sendCq : Bool) : 0 < (descriptor.queue sendCq).depth.toNat := by
  cases sendCq with
  | true =>
      obtain ⟨bits, -, -, hDepth⟩ := h.send
      change 0 < descriptor.sendQueue.depth.toNat
      rw [hDepth]
      exact Nat.two_pow_pos bits
  | false =>
      obtain ⟨bits, -, -, hDepth⟩ := h.receive
      change 0 < descriptor.receiveQueue.depth.toNat
      rw [hDepth]
      exact Nat.two_pow_pos bits

/-- What a simulated call does to the link. -/
theorem Linked.moved {Answer Answer' : Type} {agree : Answer → Answer' → Prop}
    {outcome : Answer × Device} {expected : Answer' × TransportQp}
    (h : Linked initial run verbs) (hCall : run.device.Simulates agree outcome expected)
    {sends : List SendWr} {recvs : List RecvWr} {sends' : List SendWr} {recvs' : List RecvWr}
    (hSends : sends = sends') (hRecvs : recvs = recvs') :
    Linked initial { device := outcome.2, sends := sends, recvs := recvs }
      { qp := expected.2, sends := sends', recvs := recvs' } where
  mirrors := hCall.mirrors
  qp_eq := hCall.qp_eq.trans h.qp_eq
  sends_eq := hSends
  recvs_eq := hRecvs
  keeps := by
    have hKeeps := hCall.keeps
    rw [h.qp_eq] at hKeeps
    exact h.keeps.trans hKeeps

/-- Each step on memory is a step of the record. -/
theorem Linked.step (h : Linked initial run verbs) (hLaid : initial.qp.Laid)
    (hDepths : VerbsRun.Depths verbs.qp.descriptor) (hStep : Step run run') :
    ∃ verbs', VerbsRun.Step verbs verbs' ∧ Linked initial run' verbs' := by
  obtain ⟨sendBits, -, hSendBits, hSend⟩ := hDepths.send
  have hHere : run.device.qp.Laid := h.qp_eq ▸ hLaid
  cases hStep with
  | report sendCq cqe =>
      obtain ⟨arrivals, hCall⟩ := h.mirrors.report hHere sendCq cqe
      exact ⟨_, .arrive verbs arrivals, h.moved hCall h.sends_eq h.recvs_eq⟩
  | postSend wr =>
      have hCall := h.mirrors.postSend hHere hSend hSendBits wr
      refine ⟨_, .postSend verbs wr, h.moved hCall ?_ h.recvs_eq⟩
      rw [hCall.answer, h.sends_eq]
  | postSendBatch wrs =>
      have hCall := h.mirrors.postSendBatch hHere hSend hSendBits wrs
      refine ⟨_, .postSendBatch verbs wrs, h.moved hCall ?_ h.recvs_eq⟩
      rw [hCall.answer, h.sends_eq]
  | postRecv wr =>
      have hCall := h.mirrors.postRecv hHere (depth_positive hDepths false) wr
      refine ⟨_, .postRecv verbs wr, h.moved hCall h.sends_eq ?_⟩
      rw [hCall.answer, h.recvs_eq]
  | pollCq sendCq maxCompletions arrivals =>
      obtain ⟨statuses, hCall⟩ := h.mirrors.pollCq hHere sendCq (depth_positive hDepths sendCq)
        maxCompletions arrivals
      exact ⟨_, .pollCq verbs sendCq maxCompletions statuses,
        h.moved hCall h.sends_eq h.recvs_eq⟩

/-- The record that nothing has been posted on, read from memory. -/
def record (device : Device) : TransportQp where
  descriptor := device.qp.descriptor
  state := {
    signalInterval := 0
    unsignaledCount := 0
    sendCredits := 0
    receiveCredits := 0 }
  send := .idle (load32 device.memory (device.qp.start true .head)) 0
    fun slot => load64 device.memory (device.qp.start true .ids + 8 * slot)
  receive := .idle (load32 device.memory (device.qp.start false .head)) 0
    fun slot => load64 device.memory (device.qp.start false .ids + 8 * slot)
  sendRing := fun slot => loadSendWqe device.memory
    (device.qp.start true .ring + (device.queue true).entrySize.toNat * slot)
  receiveRing := fun slot => loadSge device.memory
    (device.qp.start false .ring + (device.queue false).entrySize.toNat * slot)
  unrung := []

/-- The index words of a queue in memory. -/
def head (device : Device) (sendCq : Bool) : UInt32 :=
  load32 device.memory (device.qp.start sendCq .head)

def tail (device : Device) (sendCq : Bool) : UInt32 :=
  load32 device.memory (device.qp.start sendCq .tail)

/-- A queue pair whose parts do not overlap and on which nothing has been
posted: equal indices, a completion queue without owner bits, idle hardware. -/
structure Unused (device : Device) : Prop where
  laid : device.qp.Laid
  depths : VerbsRun.Depths device.qp.descriptor
  cq_depths : ∀ sendCq, ∃ bits, bits ≤ 31 ∧ (device.cq sendCq).depth.toNat = 2 ^ bits
  tail_eq : ∀ sendCq, tail device sendCq = head device sendCq
  consumer_eq : ∀ sendCq, load32 device.memory (device.qp.start sendCq .consumer) = 0
  blank : ∀ sendCq slot, slot < (device.cq sendCq).depth.toNat →
    CqRing.ownerBit (loadCqe device.memory (device.qp.start sendCq .cqes +
      (device.cq sendCq).entrySize.toNat * slot)) = false
  engines : ∀ sendCq, device.engine sendCq = {
    producer := head device sendCq
    posted := 0
    awaiting := []
    written := 0
    published := 0 }

theorem record_side (device : Device) (sendCq : Bool) :
    (record device).side sendCq = .idle (head device sendCq) 0
      fun slot => load64 device.memory (device.qp.start sendCq .ids + 8 * slot) := by
  cases sendCq with
  | true => rfl
  | false => rfl

/-- An unused device mirrors the fresh queue pair. -/
theorem Unused.mirrors (h : Unused initial) : initial.Mirrors (record initial) where
  descriptor_eq := rfl
  shows := by
    intro sendCq part
    cases part with
    | ring =>
        intro slot hSlot
        cases sendCq with
        | true => rfl
        | false => rfl
    | ids =>
        intro slot hSlot
        rw [record_side]
        rfl
    | head =>
        change head initial sendCq = _
        rw [record_side]
        rfl
    | tail =>
        change tail initial sendCq = _
        rw [record_side, h.tail_eq]
        rfl
    | consumer =>
        refine (h.consumer_eq sendCq).trans ?_
        rw [record_side]
        rfl
    | doorbell => trivial
    | cqes => trivial
    | cqDoorbell => trivial
  follows := by
    intro sendCq
    rw [h.engines sendCq, record_side]
    exact ⟨rfl, rfl, rfl, fun cqe hCqe => by cases hCqe⟩
  reports := by
    intro sendCq
    obtain ⟨bits, hBits, hDepth⟩ := h.cq_depths sendCq
    rw [h.engines sendCq, record_side]
    refine ⟨[], ⟨bits, [], hBits, rfl, .nil, ?_⟩, rfl, rfl⟩
    exact {
      depth_eq := hDepth
      done_prefix := List.nil_prefix
      published_le := Nat.le_refl _
      ahead_le := Nat.zero_le _
      phased := Phased.empty fun slot => by
        change CqRing.ownerBit (initial.qp.cqeSlots initial.memory sendCq slot) = false
        unfold DeviceQp.cqeSlots
        split
        · rename_i hSlot
          exact h.blank sendCq slot hSlot
        · decide }

/-- Every run on memory is a run of the record. -/
theorem Unused.reaches (h : Unused initial)
    (hRun : Reaches { device := initial, sends := [], recvs := [] } run) :
    ∃ verbs, VerbsRun.Reaches { qp := record initial, sends := [], recvs := [] } verbs ∧
      Linked initial run verbs ∧
      VerbsRun.Tracked initial.qp.descriptor (head initial true) (head initial false) verbs := by
  have hFresh : VerbsRun.Fresh (record initial) (head initial true) (head initial false) :=
    ⟨⟨0, _, rfl⟩, ⟨0, _, rfl⟩⟩
  induction hRun with
  | refl =>
      exact ⟨_, .refl, ⟨h.mirrors, rfl, rfl, rfl, .refl _ _ _⟩, VerbsRun.Tracked.initial hFresh⟩
  | tail _ hStep ih =>
      obtain ⟨verbs, hVerbs, hLinked, hTracked⟩ := ih
      obtain ⟨verbs', hNext, hLinked'⟩ := hLinked.step h.laid
        (hTracked.descriptor_eq ▸ h.depths) hStep
      exact ⟨verbs', hVerbs.tail hNext, hLinked', hTracked.step h.depths hNext⟩

/-- Completions are handed out in posting order, each for a request that the
poll reclaims. -/
theorem pollLoop_order {sendCq : Bool} {depth start : UInt32} {bits bound : Nat}
    {ids : List UInt64} {side : QueueSide} (h : side.Tracks sendCq depth start bound ids)
    (hDepth : depth.toNat = 2 ^ bits) (hBits : bits ≤ 16) (hBound : bound ≤ depth.toNat)
    (limit : Nat) (arrivals : List (List UInt8)) :
    ((pollLoop sendCq depth limit arrivals side).1.map fun completion =>
        completion.cqe.position).Pairwise (· < ·) ∧
      ∀ completion ∈ (pollLoop sendCq depth limit arrivals side).1,
        completion.cqe.position < (pollLoop sendCq depth limit arrivals side).2.reclaimed := by
  induction limit generalizing side arrivals with
  | zero => exact ⟨.nil, fun completion hNone => by cases hNone⟩
  | succ limit ih =>
      have hArrived := h.arrive (arrivals.headD [])
      unfold pollLoop
      generalize (arrivals.headD []).foldl QueueSide.complete side = arrived at hArrived
      dsimp only
      split
      · exact ⟨.nil, fun completion hNone => by cases hNone⟩
      · rename_i cqe rest hReady
        obtain ⟨hTail, -, hNext⟩ := hArrived.reapOne hDepth hBits hBound hReady
        obtain ⟨hOrdered, hReclaimed⟩ := ih hNext arrivals.tail
        obtain ⟨-, hLater, hAll, -⟩ := hNext.pollLoop hDepth hBits hBound limit arrivals.tail
        rw [hTail]
        constructor
        · rw [List.map_cons, List.pairwise_cons]
          refine ⟨fun position hPosition => ?_, hOrdered⟩
          obtain ⟨completion, hCompletion, rfl⟩ := List.mem_map.mp hPosition
          exact (hAll completion hCompletion).1
        · intro completion hCompletion
          rcases List.mem_cons.mp hCompletion with rfl | hRest
          · exact hLater
          · exact hReclaimed completion hRest

/-- Posted requests that no completion has been polled for, by the index words. -/
def used (device : Device) (sendCq : Bool) : Nat :=
  (head device sendCq - tail device sendCq).toNat

def capacity (device : Device) (sendCq : Bool) : Nat :=
  if sendCq then (device.queue true).depth.toNat - 1 else (device.queue false).depth.toNat

/-- A poll hands out the identifiers of outstanding requests in posting order,
and they are not outstanding any more after it. -/
def Delivers (run : DeviceRun) (sendCq : Bool) (completions : List Wc) (after : Device) : Prop :=
  ∃ positions : List Nat, positions.Pairwise (· < ·) ∧
    List.Forall₂ (fun wc position => (run.ids sendCq)[position]? = some wc.wrId ∧
      (run.ids sendCq).length ≤ position + used run.device sendCq ∧
      position + used after sendCq < (run.ids sendCq).length) completions positions

/-- What the bytes of device memory say in every state of a run. -/
structure Faithful (initial : Device) (run : DeviceRun) : Prop where
  refines : ∃ verbs, VerbsRun.Reaches { qp := record initial, sends := [], recvs := [] } verbs ∧
    run.device.Mirrors verbs.qp ∧ run.sends = verbs.sends ∧ run.recvs = verbs.recvs
  used_le : ∀ sendCq, used run.device sendCq ≤ (run.ids sendCq).length ∧
    used run.device sendCq ≤ capacity initial sendCq
  completions : ∀ sendCq maxCompletions arrivals completions,
    (run.device.aivPollCq sendCq maxCompletions arrivals).1 = .ok completions →
    run.Delivers sendCq completions (run.device.aivPollCq sendCq maxCompletions arrivals).2
  sends : ∀ position wr, run.sends.length ≤ position + used run.device true →
    run.sends[position]? = some wr →
    loadSendWqe run.device.memory ((initial.queue true).entryAddress
      (head initial true + UInt32.ofNat position)).toNat =
      sendWqe (head initial true + UInt32.ofNat position) wr ∧
    load64 run.device.memory ((initial.queue true).idAddress
      (head initial true + UInt32.ofNat position)).toNat = wr.wrId
  recvs : ∀ position wr, run.recvs.length ≤ position + used run.device false →
    run.recvs[position]? = some wr →
    loadSge run.device.memory ((initial.queue false).entryAddress
      (head initial false + UInt32.ofNat position)).toNat = wr.localBuffer ∧
    load64 run.device.memory ((initial.queue false).idAddress
      (head initial false + UInt32.ofNat position)).toNat = wr.wrId
  outside : ∀ place,
    (∀ sendCq part, place < initial.qp.start sendCq part ∨
      initial.qp.start sendCq part + initial.qp.size sendCq part ≤ place) →
    run.device.memory place = initial.memory place

section Facts

variable {sendStart receiveStart : UInt32}

/-- The index words tell how many requests are outstanding. -/
theorem Linked.used_eq (h : Linked initial run verbs)
    (hTracked : VerbsRun.Tracked initial.qp.descriptor sendStart receiveStart verbs)
    (sendCq : Bool) :
    used run.device sendCq = (verbs.qp.side sendCq).outstanding ∧
      used run.device sendCq + (verbs.qp.side sendCq).reclaimed = (run.ids sendCq).length ∧
      used run.device sendCq ≤ capacity initial sendCq := by
  have hHead : head run.device sendCq = (verbs.qp.side sendCq).counters.head :=
    h.mirrors.shows sendCq .head
  have hTail : tail run.device sendCq = (verbs.qp.side sendCq).counters.tail :=
    h.mirrors.shows sendCq .tail
  obtain ⟨hSend, hReceive⟩ := hTracked.used_eq
  have hSendCount := hTracked.send.outstanding_add
  have hReceiveCount := hTracked.receive.outstanding_add
  have hSendLe := hTracked.send.outstanding_le
  have hReceiveLe := hTracked.receive.outstanding_le
  rw [← h.sends_eq] at hSendCount
  rw [← h.recvs_eq] at hReceiveCount
  have hUsed : used run.device sendCq = (verbs.qp.side sendCq).outstanding := by
    rw [used, hHead, hTail]
    cases sendCq with
    | true => exact hSend
    | false => exact hReceive
  refine ⟨hUsed, ?_⟩
  rw [hUsed]
  cases sendCq with
  | true => exact ⟨hSendCount, hSendLe⟩
  | false => exact ⟨hReceiveCount, hReceiveLe⟩

/-- Outstanding sends can be read from the memory, with their identifiers. -/
theorem Linked.sends (h : Linked initial run verbs) (hInitial : Unused initial)
    (hTracked : VerbsRun.Tracked initial.qp.descriptor sendStart receiveStart verbs)
    {position : Nat} {wr : SendWr} (hOutstanding : run.sends.length ≤ position + used run.device true)
    (hWr : run.sends[position]? = some wr) :
    loadSendWqe run.device.memory ((initial.queue true).entryAddress
        (sendStart + UInt32.ofNat position)).toNat =
        sendWqe (sendStart + UInt32.ofNat position) wr ∧
      load64 run.device.memory ((initial.queue true).idAddress
        (sendStart + UInt32.ofNat position)).toNat = wr.wrId := by
  obtain ⟨-, hCount, -⟩ := h.used_eq hTracked true
  have hLow : verbs.qp.send.reclaimed ≤ position := by
    change _ + verbs.qp.send.reclaimed = (run.sends.map SendWr.wrId).length at hCount
    rw [List.length_map] at hCount
    omega
  rw [h.sends_eq] at hWr
  have hPositive := depth_positive hInitial.depths true
  have hSlot := ringIndex_lt (sendStart + UInt32.ofNat position) hPositive
  have hRing := h.mirrors.shows true .ring
  have hIds := h.mirrors.shows true .ids
  rw [h.qp_eq] at hRing hIds
  rw [Device.queue, hInitial.laid.entryAddress_eq _ hPositive, hInitial.laid.idAddress_eq _ hPositive]
  exact ⟨(hRing _ hSlot).trans (hTracked.wqes position wr hLow hWr),
    (hIds _ hSlot).trans (hTracked.send.stored position wr.wrId hLow (by
      rw [List.getElem?_map, hWr]
      rfl))⟩

theorem Linked.recvs (h : Linked initial run verbs) (hInitial : Unused initial)
    (hTracked : VerbsRun.Tracked initial.qp.descriptor sendStart receiveStart verbs)
    {position : Nat} {wr : RecvWr} (hOutstanding : run.recvs.length ≤ position + used run.device false)
    (hWr : run.recvs[position]? = some wr) :
    loadSge run.device.memory ((initial.queue false).entryAddress
        (receiveStart + UInt32.ofNat position)).toNat = wr.localBuffer ∧
      load64 run.device.memory ((initial.queue false).idAddress
        (receiveStart + UInt32.ofNat position)).toNat = wr.wrId := by
  obtain ⟨-, hCount, -⟩ := h.used_eq hTracked false
  have hLow : verbs.qp.receive.reclaimed ≤ position := by
    change _ + verbs.qp.receive.reclaimed = (run.recvs.map RecvWr.wrId).length at hCount
    rw [List.length_map] at hCount
    omega
  rw [h.recvs_eq] at hWr
  have hPositive := depth_positive hInitial.depths false
  have hSlot := ringIndex_lt (receiveStart + UInt32.ofNat position) hPositive
  have hRing := h.mirrors.shows false .ring
  have hIds := h.mirrors.shows false .ids
  rw [h.qp_eq] at hRing hIds
  rw [Device.queue, hInitial.laid.entryAddress_eq _ hPositive, hInitial.laid.idAddress_eq _ hPositive]
  exact ⟨(hRing _ hSlot).trans (hTracked.buffers position wr hLow hWr),
    (hIds _ hSlot).trans (hTracked.receive.stored position wr.wrId hLow (by
      rw [List.getElem?_map, hWr]
      rfl))⟩

/-- A poll hands out completions in the order of their posts. -/
theorem tracked_pollOrder (hTracked : VerbsRun.Tracked initial.qp.descriptor sendStart receiveStart
      verbs) (hDepths : VerbsRun.Depths initial.qp.descriptor) (sendCq : Bool) (maxCompletions : Nat)
    (statuses : List (List UInt8)) {completions : List Completion}
    (hOk : (aivPollCq sendCq maxCompletions statuses verbs.qp).1 = .ok completions) :
    (completions.map fun completion => completion.cqe.position).Pairwise (· < ·) ∧
      ∀ completion ∈ completions, completion.cqe.position <
        ((aivPollCq sendCq maxCompletions statuses verbs.qp).2.side sendCq).reclaimed := by
  obtain ⟨sendBits, -, hSendBits, hSend⟩ := hDepths.send
  obtain ⟨receiveBits, -, hReceiveBits, hReceive⟩ := hDepths.receive
  unfold aivPollCq at hOk ⊢
  split at hOk
  · cases hOk
  · rename_i hSome
    rw [if_neg hSome]
    dsimp only at hOk ⊢
    cases hOk
    rw [(side_setSide verbs.qp sendCq _).1, hTracked.descriptor_eq]
    cases sendCq with
    | true => exact pollLoop_order hTracked.send hSend hSendBits (by omega) _ _
    | false => exact pollLoop_order hTracked.receive hReceive hReceiveBits (Nat.le_refl _) _ _

/-- What holds of every second component holds along the relation. -/
theorem forall₂_of_mem {First Second : Type} {relation : First → Second → Prop}
    {property : Second → Prop} {xs : List First} {ys : List Second}
    (h : List.Forall₂ relation xs ys) (hAll : ∀ y ∈ ys, property y) :
    List.Forall₂ (fun x y => relation x y ∧ property y) xs ys := by
  induction h with
  | nil => exact .nil
  | cons hFirst _ ih =>
      exact .cons ⟨hFirst, hAll _ (List.mem_cons_self ..)⟩
        (ih fun y hY => hAll y (List.mem_cons_of_mem _ hY))

/-- A poll of the device reports each request once, and in posting order. -/
theorem Linked.delivers (h : Linked initial run verbs) (hInitial : Unused initial)
    (hTracked : VerbsRun.Tracked initial.qp.descriptor sendStart receiveStart verbs) (sendCq : Bool)
    (maxCompletions : Nat) (arrivals : List (List HnsHwCqe)) {completions : List Wc}
    (hOk : (run.device.aivPollCq sendCq maxCompletions arrivals).1 = .ok completions) :
    run.Delivers sendCq completions (run.device.aivPollCq sendCq maxCompletions arrivals).2 := by
  have hHere : run.device.qp.Laid := h.qp_eq ▸ hInitial.laid
  obtain ⟨statuses, hCall⟩ := h.mirrors.pollCq hHere sendCq
    (hTracked.descriptor_eq ▸ depth_positive hInitial.depths sendCq) maxCompletions arrivals
  obtain ⟨hAfter, hIds⟩ := hTracked.pollCq hInitial.depths sendCq maxCompletions statuses
  have hBefore := (h.used_eq hTracked sendCq).2.1
  have hLater := ((h.moved hCall h.sends_eq h.recvs_eq).used_eq hAfter sendCq).2.1
  have hSame : run.ids sendCq = verbs.ids sendCq := by
    rw [ids, VerbsRun.ids, h.sends_eq, h.recvs_eq]
  have hAnswer := hCall.answer
  rw [hOk] at hAnswer
  cases hExpected : (aivPollCq sendCq maxCompletions statuses verbs.qp).1 with
  | error status =>
      rw [hExpected] at hAnswer
      exact hAnswer.elim
  | ok expected =>
      rw [hExpected] at hAnswer
      obtain ⟨hOrdered, hReclaimed⟩ := tracked_pollOrder hTracked hInitial.depths sendCq
        maxCompletions statuses hExpected
      obtain ⟨hNamed, -⟩ := hIds expected hExpected
      refine ⟨_, hOrdered, ?_⟩
      rw [List.forall₂_map_right_iff]
      have hBoth : List.Forall₂ Agrees completions expected := hAnswer
      refine (forall₂_of_mem hBoth fun completion hCompletion =>
        And.intro (hNamed completion hCompletion) (hReclaimed completion hCompletion)).imp ?_
      rintro wc completion ⟨hAgrees, ⟨hLow, hId, -⟩, hBelow⟩
      refine ⟨?_, ?_, ?_⟩
      · rw [hSame, hId, hAgrees.1]
      · omega
      · change _ + _ = (run.ids sendCq).length at hLater
        dsimp only at hLater
        omega

end Facts

/-- On every run, the bytes of device memory say what was posted, and polls
report it. -/
theorem memory_faithful (hInitial : Unused initial)
    (hRun : Reaches { device := initial, sends := [], recvs := [] } run) :
    Faithful initial run := by
  obtain ⟨verbs, hVerbs, hLinked, hTracked⟩ := hInitial.reaches hRun
  exact {
    refines := ⟨verbs, hVerbs, hLinked.mirrors, hLinked.sends_eq, hLinked.recvs_eq⟩
    used_le := by
      intro sendCq
      obtain ⟨-, hCount, hLe⟩ := hLinked.used_eq hTracked sendCq
      exact ⟨by omega, hLe⟩
    completions := fun sendCq maxCompletions arrivals _ hOk =>
      hLinked.delivers hInitial hTracked sendCq maxCompletions arrivals hOk
    sends := fun _ _ hOutstanding hWr => hLinked.sends hInitial hTracked hOutstanding hWr
    recvs := fun _ _ hOutstanding hWr => hLinked.recvs hInitial hTracked hOutstanding hWr
    outside := by
      intro place hOutside
      refine hLinked.keeps place 1 (fun sendCq part _ => ?_) place (Nat.le_refl _) (Nat.lt_succ_self _)
      rcases hOutside sendCq part with hBefore | hAfter
      · exact .inr hBefore
      · exact .inl hAfter }

section Small

/-- The parts of the small queue pair, one to a page. -/
def page (sendCq : Bool) (part : QueuePart) : UInt64 :=
  4096 * UInt64.ofNat (queueParts.idxOf (sendCq, part))

def pagedQueue (sendCq : Bool) (entrySize : UInt32) : WorkQueueDescriptor where
  depth := 4
  entrySize := entrySize
  bufferAddress := page sendCq .ring
  headAddress := page sendCq .head
  tailAddress := page sendCq .tail
  doorbellAddress := page sendCq .doorbell
  wrIdAddress := page sendCq .ids

def pagedCq (sendCq : Bool) : CqDescriptor where
  depth := 4
  entrySize := 32
  bufferAddress := page sendCq .cqes
  consumerAddress := page sendCq .consumer
  doorbellAddress := page sendCq .cqDoorbell

/-- Zeroed memory with a queue pair of four entries a side. -/
def pagedDevice : Device where
  qp := {
    descriptor := {
      qpMode := kQpModeNormal
      sendQueue := pagedQueue true 64
      receiveQueue := pagedQueue false 16
      sendCq := pagedCq true
      receiveCq := pagedCq false }
    number := 9
    serviceLevel := 4 }
  memory := fun _ => 0
  send := {
    producer := 0
    posted := 0
    awaiting := []
    written := 0
    published := 0 }
  receive := {
    producer := 0
    posted := 0
    awaiting := []
    written := 0
    published := 0 }

theorem load32_zeroed (address : Nat) : load32 (fun _ => 0) address = 0 := by
  have hBytes : load (fun _ => 0) address 4 = [0, 0, 0, 0] := by simp [load]
  rw [load32, hBytes]
  decide

/-- Every part of the two queues has a page of its own. -/
theorem pagedDevice_start (sendCq : Bool) (part : QueuePart) :
    pagedDevice.qp.start sendCq part = 4096 * queueParts.idxOf (sendCq, part) ∧
      pagedDevice.qp.size sendCq part ≤ 4096 := by
  cases sendCq <;> cases part <;> decide

theorem pagedDevice_laid : pagedDevice.qp.Laid where
  entries := by decide
  reports := by decide
  inside := by
    intro sendCq part
    obtain ⟨hStart, hSize⟩ := pagedDevice_start sendCq part
    have hIndex := List.idxOf_lt_length_of_mem (mem_queueParts sendCq part)
    change _ < 16 at hIndex
    omega
  apart := by
    intro sendCq part sendCq' part' hNe
    obtain ⟨hStart, hSize⟩ := pagedDevice_start sendCq part
    obtain ⟨hStart', hSize'⟩ := pagedDevice_start sendCq' part'
    have hPlace : queueParts.idxOf (sendCq, part) ≠ queueParts.idxOf (sendCq', part') :=
      fun hSame => hNe ((List.idxOf_inj (mem_queueParts sendCq part)).mp hSame)
    unfold Apart
    omega

theorem pagedDevice_unused : Unused pagedDevice where
  laid := pagedDevice_laid
  depths := ⟨⟨2, by decide, by decide, rfl⟩, ⟨2, by decide, by decide, rfl⟩⟩
  cq_depths := by
    intro sendCq
    refine ⟨2, by decide, ?_⟩
    cases sendCq <;> rfl
  tail_eq := fun _ => rfl
  consumer_eq := fun _ => load32_zeroed _
  blank := by
    intro sendCq slot _
    change (load32 (fun _ => 0) _).toNat.testBit 7 = false
    rw [load32_zeroed]
    rfl
  engines := by
    intro sendCq
    rw [show head pagedDevice sendCq = 0 from load32_zeroed _]
    cases sendCq <;> rfl

/-- Four sends for a queue with room for three. -/
def pagedBatch : List SendWr :=
  (List.range 4).map fun index => { deviceSend with wrId := UInt64.ofNat (index + 1) }

def pagedRecv : RecvWr where
  wrId := 21
  localBuffer := { address := 4096, length := 64, localKey := 5 }

/-- The batch and a receive have been posted. -/
def pagedRun : DeviceRun :=
  let sent := pagedDevice.aivPostSendBatch pagedBatch
  let received := sent.2.aivPostRecv pagedRecv
  { device := received.2
    sends := markLast (pagedBatch.take (sent.1.posted pagedBatch.length))
    recvs := if received.1 = .success then [pagedRecv] else [] }

/-- The last send that fits and the receive are reported while they are polled
for, and every send that was posted lies in memory. -/
theorem memory_faithful_batch : ∃ sent received,
    Reaches { device := pagedDevice, sends := [], recvs := [] } pagedRun ∧
    pagedRun.sends.length = 3 ∧
    (pagedRun.device.aivPollCq true 4 [[CqRing.blankCqe]]).1 = .ok [sent] ∧ sent.wrId = 3 ∧
    (pagedRun.device.aivPollCq false 4 [[CqRing.blankCqe]]).1 = .ok [received] ∧
    received.wrId = 21 ∧
    pagedRun.Delivers true [sent] (pagedRun.device.aivPollCq true 4 [[CqRing.blankCqe]]).2 ∧
    pagedRun.Delivers false [received]
      (pagedRun.device.aivPollCq false 4 [[CqRing.blankCqe]]).2 ∧
    ∀ position wr, pagedRun.sends[position]? = some wr →
      loadSendWqe pagedRun.device.memory ((pagedDevice.queue true).entryAddress
        (head pagedDevice true + UInt32.ofNat position)).toNat =
        sendWqe (head pagedDevice true + UInt32.ofNat position) wr := by
  have hRun : Reaches { device := pagedDevice, sends := [], recvs := [] } pagedRun :=
    (Relation.ReflTransGen.single (Step.postSendBatch _ pagedBatch)).tail
      (Step.postRecv _ pagedRecv)
  have hFaithful := memory_faithful pagedDevice_unused hRun
  have hLength : pagedRun.sends.length = 3 := by decide +kernel
  have hSent : (pagedRun.device.aivPollCq true 4 [[CqRing.blankCqe]]).1 =
      .ok [hnsHwDecodeCqe (CqRing.stampOwner true (indexed 2 CqRing.blankCqe)) 3] := by
    decide +kernel
  have hReceived : (pagedRun.device.aivPollCq false 4 [[CqRing.blankCqe]]).1 =
      .ok [hnsHwDecodeCqe (CqRing.stampOwner true CqRing.blankCqe) 21] := by
    decide +kernel
  have hUsed : used pagedRun.device true = 3 := by decide +kernel
  refine ⟨_, _, hRun, hLength, hSent, rfl, hReceived, rfl,
    hFaithful.completions true 4 _ _ hSent, hFaithful.completions false 4 _ _ hReceived,
    fun position wr hWr => (hFaithful.sends position wr ?_ hWr).1⟩
  rw [hLength, hUsed]
  exact Nat.le_add_left ..

end Small

end DeviceRun

end NdsStorage.Client
