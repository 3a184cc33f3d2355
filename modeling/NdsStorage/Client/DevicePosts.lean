import NdsStorage.Client.QueueMirror

/-! The posting verbs of the vector core on device memory do what they do on the
record of the queue pair. The hardware, which only sees memory and doorbells,
takes over the requests that were posted. -/
namespace NdsStorage.Client

open Bytes FlatMemory PhaseRing

section Sends

variable {qp : DeviceQp} {device : Device} {state : TransportQp} {memory memory' : Memory}
  {engine engine' : Engine} {done : List HnsHwCqe} {ready : List Cqe} {sendCq : Bool} {bits : Nat}
  {wrs : List SendWr}

/-- The reported entries are those of the ring's own bytes. -/
theorem Reported.same (h : Reported qp memory sendCq engine done ready) (hLaid : qp.Laid)
    (hSame : SameOn (qp.start sendCq .cqes) (qp.size sendCq .cqes) memory memory')
    (hWritten : engine'.written = engine.written)
    (hPublished : engine'.published = engine.published) :
    Reported qp memory' sendCq engine' done ready := by
  obtain ⟨bits, rest, hBits, hLength, hNames, hOrdered⟩ := h
  refine ⟨bits, rest, hBits, hWritten.trans hLength, hNames, ?_⟩
  unfold DeviceQp.ringAt
  rw [hLaid.cqeSlots_same hSame, hPublished]
  exact hOrdered

/-- Writing the entries of a batch keeps every part of both queues in view. -/
theorem populateAll_shows (wrs : List SendWr) (producer : UInt32) (hLaid : qp.Laid)
    (hDescriptor : qp.descriptor = state.descriptor)
    (hDepth : 0 < (qp.descriptor.queue true).depth.toNat)
    (hValid : ∀ wr ∈ wrs, aivValidSendWr wr = true)
    (h : ∀ sendCq part, qp.Shows memory state sendCq part) :
    (∀ sendCq part, qp.Shows (Device.populateAllAt (qp.descriptor.queue true) producer wrs memory)
        (populateAll producer wrs state) sendCq part) ∧
      qp.Keeps [(true, .ring), (true, .ids)] memory
        (Device.populateAllAt (qp.descriptor.queue true) producer wrs memory) := by
  induction wrs generalizing producer memory state with
  | nil => exact ⟨h, .refl _ _ _⟩
  | cons wr rest ih =>
      have hFirst := hLaid.populate_shows producer hDescriptor hDepth
        (hValid wr (List.mem_cons_self ..)) h
      obtain ⟨hRest, hKeeps⟩ := ih (producer + 1)
        (show qp.descriptor = (populateSendWqe producer wr state).descriptor from hDescriptor)
        (fun other hOther => hValid other (List.mem_cons_of_mem _ hOther)) hFirst
      exact ⟨hRest, (hLaid.populate_keeps wr producer memory hDepth).trans hKeeps⟩

/-- Slots that the batch does not reach keep their entries. -/
theorem populateAll_other (wrs : List SendWr) (producer : UInt32) (state : TransportQp) {slot : Nat}
    (h : ∀ index < wrs.length,
      ringIndex (producer + UInt32.ofNat index) state.descriptor.sendQueue.depth ≠ slot) :
    (populateAll producer wrs state).sendRing slot = state.sendRing slot := by
  induction wrs generalizing producer state with
  | nil => rfl
  | cons wr rest ih =>
      have hFirst := h 0 (Nat.succ_pos _)
      rw [show UInt32.ofNat 0 = 0 from rfl, UInt32.add_zero] at hFirst
      rw [populateAll, ih]
      · exact Function.update_of_ne (Ne.symm hFirst) _ _
      · intro index hIndex
        have hLater := h (index + 1) (Nat.succ_lt_succ hIndex)
        rw [Nat.add_comm, UInt32.ofNat_add, ← UInt32.add_assoc] at hLater
        exact hLater

/-- Each entry of a batch is in the slot of its position. -/
theorem populateAll_sendRing (wrs : List SendWr) (producer : UInt32) (state : TransportQp)
    (hDepth : state.descriptor.sendQueue.depth.toNat = 2 ^ bits) (hBits : bits ≤ 32)
    (hRoom : wrs.length ≤ state.descriptor.sendQueue.depth.toNat) {index : Nat} {wr : SendWr}
    (hWr : wrs[index]? = some wr) :
    (populateAll producer wrs state).sendRing
        (ringIndex (producer + UInt32.ofNat index) state.descriptor.sendQueue.depth) =
      sendWqe (producer + UInt32.ofNat index) wr := by
  induction wrs generalizing producer state index with
  | nil => cases hWr
  | cons first rest ih =>
      rw [List.length_cons] at hRoom
      cases index with
      | zero =>
          cases hWr
          rw [populateAll, populateAll_other]
          · rw [show UInt32.ofNat 0 = 0 from rfl, UInt32.add_zero]
            exact Function.update_self ..
          · intro index hIndex hSame
            have hNe := @ringIndex_ne _ producer bits hDepth hBits 0 (index + 1)
              (Nat.succ_pos _) (by omega)
            rw [Nat.add_comm index, UInt32.ofNat_add, ← UInt32.add_assoc] at hNe
            exact hNe hSame.symm
      | succ index =>
          have hLater := ih (producer + 1) (populateSendWqe producer first state) hDepth
            (Nat.le_of_succ_le hRoom) hWr
          rw [Nat.add_comm index, UInt32.ofNat_add, ← UInt32.add_assoc]
          exact hLater

/-- What handing over leaves alone. -/
theorem handOverAll_kept (wqes : List SendWqe) (side : QueueSide) :
    (wqes.foldl (fun side wqe => side.handOver wqe.signaled) side).wrIds = side.wrIds ∧
      (wqes.foldl (fun side wqe => side.handOver wqe.signaled) side).ready = side.ready ∧
      (wqes.foldl (fun side wqe => side.handOver wqe.signaled) side).counters.tail =
        side.counters.tail ∧
      (wqes.foldl (fun side wqe => side.handOver wqe.signaled) side).counters.consumer =
        side.counters.consumer := by
  induction wqes generalizing side with
  | nil => exact ⟨rfl, rfl, rfl, rfl⟩
  | cons wqe rest ih => exact ih (side.handOver wqe.signaled)

/-- Posts that the hardware takes over complete nothing yet. -/
theorem takeAll_kept (wqes : List SendWqe) (engine : Engine) :
    (wqes.foldl (fun engine wqe => engine.takeOver wqe.signaled) engine).written = engine.written ∧
      (wqes.foldl (fun engine wqe => engine.takeOver wqe.signaled) engine).published =
        engine.published := by
  induction wqes generalizing engine with
  | nil => exact ⟨rfl, rfl⟩
  | cons wqe rest ih => exact ih (engine.takeOver wqe.signaled)

/-- Entries and identifiers are all that a batch writes before its doorbell. -/
theorem populateAll_send (wrs : List SendWr) (producer : UInt32) (state : TransportQp) :
    (populateAll producer wrs state).descriptor = state.descriptor ∧
      (populateAll producer wrs state).receive = state.receive ∧
      (populateAll producer wrs state).send.counters = state.send.counters ∧
      (populateAll producer wrs state).send.posted = state.send.posted ∧
      (populateAll producer wrs state).send.awaiting = state.send.awaiting ∧
      (populateAll producer wrs state).send.ready = state.send.ready := by
  induction wrs generalizing producer state with
  | nil => exact ⟨rfl, rfl, rfl, rfl, rfl, rfl⟩
  | cons wr rest ih => exact ih (producer + 1) (populateSendWqe producer wr state)

/-- The head and the doorbell are stored, and nothing else. -/
theorem ringSendDoorbell_keeps (producer : UInt32) (device : Device) :
    device.qp.Keeps [(true, .head), (true, .doorbell)] device.memory
      (Device.ringSendDoorbell producer device).memory :=
  (DeviceQp.Keeps.store32 true .head _ _ (by simp) ⟨Nat.le_refl _, Nat.le_refl _⟩).trans
    (DeviceQp.Keeps.store64 true .doorbell _ _ (by simp) ⟨Nat.le_refl _, Nat.le_refl _⟩)

theorem ringSendDoorbell_head (producer : UInt32) (device : Device) (hLaid : device.qp.Laid) :
    load32 (Device.ringSendDoorbell producer device).memory (device.qp.start true .head) =
      producer := by
  have hHead := hLaid.apart true .doorbell true .head (by simp)
  have hSame := store64_sameOn (store32 device.memory (device.qp.start true .head) producer)
    (Device.sendDoorbell device.qp producer) hHead
  change load32 (store64 (store32 device.memory (device.qp.start true .head) producer)
    (device.qp.start true .doorbell) (Device.sendDoorbell device.qp producer)) _ = _
  rw [hSame.load32_eq ⟨Nat.le_refl _, Nat.le_refl _⟩, load32_store32]

/-- The hardware takes over the batch whose entries are in memory. -/
theorem ringSendDoorbell_send {filled : TransportQp} (hLaid : device.qp.Laid)
    (hPositive : 0 < (device.qp.descriptor.queue true).depth.toNat)
    (hCount : wrs.length < 2 ^ 16)
    (hShown : device.qp.Shows device.memory filled true .ring)
    (hFilled : ∀ index wr, wrs[index]? = some wr →
      filled.sendRing (ringIndex (device.send.producer + UInt32.ofNat index)
        (device.qp.descriptor.queue true).depth) =
        sendWqe (device.send.producer + UInt32.ofNat index) wr) :
    (Device.ringSendDoorbell (device.send.producer + UInt32.ofNat wrs.length) device).send =
      (batchWqes device.send.producer wrs).foldl (fun engine wqe => engine.takeOver wqe.signaled)
        device.send := by
  have hKept := hShown.same hLaid ((ringSendDoorbell_keeps
    (device.send.producer + UInt32.ofNat wrs.length) device).other hLaid (by simp))
  change device.send.takeSends (device.queue true) (Device.ringSendDoorbell
    (device.send.producer + UInt32.ofNat wrs.length) device).memory (device.send.rungFor
      ((Device.sendDoorbell device.qp _ >>> 32).toUInt32 &&& 0xffff)) = _
  rw [sendDoorbell_index, Engine.rungFor_eq _ hCount]
  apply Engine.takeSends_eq
  intro index wr hWr
  change loadSendWqe _ ((device.qp.descriptor.queue true).entryAddress _).toNat = _
  rw [hLaid.entryAddress_eq _ hPositive, ← hFilled index wr hWr]
  exact hKept _ (ringIndex_lt _ hPositive)

/-- A batch that is written but not rung is mirrored. -/
theorem Device.Mirrors.populate (h : device.Mirrors state) (hLaid : device.qp.Laid)
    (hPositive : 0 < (device.queue true).depth.toNat)
    (hValid : ∀ wr ∈ wrs, aivValidSendWr wr = true) (producer : UInt32) :
    Device.Mirrors
      { device with
        memory := Device.populateAllAt (device.queue true) producer wrs device.memory }
      (populateAll producer wrs state) := by
  obtain ⟨hShown, hKeeps⟩ := populateAll_shows wrs producer hLaid h.descriptor_eq hPositive hValid
    h.shows
  obtain ⟨hDescriptor, hReceive, hCounters, hPosted, hAwaiting, hReady⟩ :=
    populateAll_send wrs producer state
  have hSide : ∀ sendCq, ((populateAll producer wrs state).side sendCq).counters =
        (state.side sendCq).counters ∧
      ((populateAll producer wrs state).side sendCq).posted = (state.side sendCq).posted ∧
      ((populateAll producer wrs state).side sendCq).awaiting = (state.side sendCq).awaiting ∧
      ((populateAll producer wrs state).side sendCq).ready = (state.side sendCq).ready := by
    intro sendCq
    cases sendCq with
    | true => exact ⟨hCounters, hPosted, hAwaiting, hReady⟩
    | false =>
        change (populateAll producer wrs state).receive.counters = _ ∧ _
        rw [TransportQp.side, TransportQp.side]
        simp [hReceive]
  exact {
    descriptor_eq := h.descriptor_eq.trans hDescriptor.symm
    shows := hShown
    follows := by
      intro sendCq
      obtain ⟨hCounters, hPosted, hAwaiting, -⟩ := hSide sendCq
      have hFollows := h.follows sendCq
      exact {
        producer_eq := by
          rw [hCounters]
          exact hFollows.producer_eq
        posted_eq := by
          rw [hPosted]
          exact hFollows.posted_eq
        awaiting_eq := by
          rw [hAwaiting]
          exact hFollows.awaiting_eq
        index_lt := hFollows.index_lt }
    reports := by
      intro sendCq
      obtain ⟨hCounters, -, -, hReady⟩ := hSide sendCq
      obtain ⟨done, hReported, hPublished, hConsumer⟩ := h.reports sendCq
      refine ⟨done, ?_, hPublished, ?_⟩
      · rw [hReady]
        exact hReported.same hLaid (hKeeps.other hLaid (by simp)) rfl rfl
      · rw [hCounters]
        exact hConsumer }

/-- The doorbell in memory is the doorbell of the record. -/
theorem Device.Mirrors.ring (h : device.Mirrors state) (hLaid : device.qp.Laid)
    (hPositive : 0 < (device.queue true).depth.toNat) (hCount : wrs.length < 2 ^ 16)
    (hFilled : ∀ index wr, wrs[index]? = some wr →
      state.sendRing (ringIndex (state.send.counters.head + UInt32.ofNat index)
        state.descriptor.sendQueue.depth) =
        sendWqe (state.send.counters.head + UInt32.ofNat index) wr) :
    (Device.ringSendDoorbell (state.send.counters.head + UInt32.ofNat wrs.length) device).Mirrors
      (Client.ringSendDoorbell (batchWqes state.send.counters.head wrs)
        (state.send.counters.head + UInt32.ofNat wrs.length) state) := by
  have hProducer : device.send.producer = state.send.counters.head := (h.follows true).producer_eq
  have hDepth : state.descriptor.sendQueue.depth = (device.qp.descriptor.queue true).depth := by
    rw [h.descriptor_eq]
    rfl
  rw [hDepth, ← hProducer] at hFilled
  have hSend := ringSendDoorbell_send hLaid hPositive hCount (h.shows true .ring) hFilled
  rw [hProducer] at hSend
  have hKeeps := ringSendDoorbell_keeps
    (state.send.counters.head + UInt32.ofNat wrs.length) device
  have hHead := ringSendDoorbell_head
    (state.send.counters.head + UInt32.ofNat wrs.length) device hLaid
  obtain ⟨hIds, hReady, hTail, hConsumer⟩ :=
    handOverAll_kept (batchWqes state.send.counters.head wrs) state.send
  obtain ⟨hWritten, hPublished⟩ :=
    takeAll_kept (batchWqes state.send.counters.head wrs) device.send
  have hFollows := (h.follows true).takeAll (batchWqes state.send.counters.head wrs)
  have hNew := handOverAll_head (batchWqes state.send.counters.head wrs) state.send
  rw [batchWqes_length] at hNew
  have hKept := fun sendCq part (hOther : (sendCq, part) ∉ [(true, .head), (true, .doorbell)]) =>
    (h.shows sendCq part).same hLaid (hKeeps.other hLaid hOther)
  exact {
    descriptor_eq := h.descriptor_eq
    shows := by
      intro sendCq part
      cases sendCq with
      | false =>
          exact (hKept false part (by simp)).of_side rfl (fun hSend => Bool.noConfusion hSend)
            fun _ => rfl
      | true =>
          cases part with
          | ring => exact hKept true .ring (by simp)
          | ids =>
              intro slot hSlot
              exact (hKept true .ids (by simp) slot hSlot).trans (congrFun hIds slot).symm
          | head => exact hHead
          | tail => exact (hKept true .tail (by simp)).trans hTail.symm
          | consumer => exact (hKept true .consumer (by simp)).trans hConsumer.symm
          | doorbell => trivial
          | cqes => trivial
          | cqDoorbell => trivial
    follows := by
      intro sendCq
      cases sendCq with
      | false => exact h.follows false
      | true =>
          change (Device.ringSendDoorbell _ device).send.Follows _
          rw [hSend]
          exact {
            producer_eq := hFollows.producer_eq.trans hNew
            posted_eq := hFollows.posted_eq
            awaiting_eq := hFollows.awaiting_eq
            index_lt := hFollows.index_lt }
    reports := by
      intro sendCq
      obtain ⟨done, hReported, hTold, hConsumed⟩ := h.reports sendCq
      have hCqes := @DeviceQp.Keeps.other _ _ _ _ sendCq .cqes hKeeps hLaid (by simp)
      cases sendCq with
      | false => exact ⟨done, hReported.same hLaid hCqes rfl rfl, hTold, hConsumed⟩
      | true =>
          refine ⟨done, ?_, ?_, hConsumer.trans hConsumed⟩
          · change Reported _ _ _ (Device.ringSendDoorbell _ device).send _
              (List.foldl _ state.send _).ready
            rw [hSend, hReady]
            exact hReported.same hLaid hCqes hWritten hPublished
          · change (Device.ringSendDoorbell _ device).send.published = _
            rw [hSend, hPublished]
            exact hTold }

/-- A batch in memory, with its doorbell, is the batch of the record. -/
theorem Device.Mirrors.ringBatch (h : device.Mirrors state) (hLaid : device.qp.Laid)
    (hDepth : state.descriptor.sendQueue.depth.toNat = 2 ^ bits) (hBits : bits ≤ 16)
    (hValid : ∀ wr ∈ wrs, aivValidSendWr wr = true)
    (hRoom : wrs.length < state.descriptor.sendQueue.depth.toNat) :
    (Device.ringSendDoorbell (state.send.counters.head + UInt32.ofNat wrs.length)
      { device with
        memory := Device.populateAllAt (device.queue true) state.send.counters.head wrs
          device.memory }).Mirrors
      (Client.ringSendDoorbell (batchWqes state.send.counters.head wrs)
        (state.send.counters.head + UInt32.ofNat wrs.length)
        (populateAll state.send.counters.head wrs state)) := by
  have hPositive : 0 < (device.queue true).depth.toNat := by
    change 0 < device.qp.descriptor.sendQueue.depth.toNat
    rw [h.descriptor_eq]
    omega
  have hSmall : wrs.length < 2 ^ 16 := by
    have hPower := Nat.pow_le_pow_right (show 0 < 2 by decide) hBits
    omega
  obtain ⟨hDescriptor, -, hCounters, -⟩ := populateAll_send wrs state.send.counters.head state
  have hRung := (h.populate hLaid hPositive hValid state.send.counters.head).ring hLaid hPositive
    hSmall (by
      rw [hCounters, hDescriptor]
      exact fun index wr hWr => populateAll_sendRing wrs state.send.counters.head state hDepth
        (by omega) (Nat.le_of_lt hRoom) hWr)
  rw [hCounters] at hRung
  exact hRung

/-- All the parts of a queue pair. -/
def queueParts : List (Bool × QueuePart) :=
  [true, false].flatMap fun sendCq =>
    [(sendCq, .ring), (sendCq, .ids), (sendCq, .head), (sendCq, .tail), (sendCq, .doorbell),
      (sendCq, .cqes), (sendCq, .consumer), (sendCq, .cqDoorbell)]

theorem mem_queueParts (sendCq : Bool) (part : QueuePart) : (sendCq, part) ∈ queueParts := by
  cases sendCq <;> cases part <;> decide

/-- The device answers as the record does, is again in the state that the record
describes, and has stored into its own queues only. -/
structure Device.Simulates {Answer Answer' : Type} (agree : Answer → Answer' → Prop)
    (device : Device) (outcome : Answer × Device) (expected : Answer' × TransportQp) : Prop where
  answer : agree outcome.1 expected.1
  mirrors : outcome.2.Mirrors expected.2
  qp_eq : outcome.2.qp = device.qp
  keeps : device.qp.Keeps queueParts device.memory outcome.2.memory

/-- A call that changes nothing simulates one that changes nothing. -/
theorem Device.Mirrors.unmoved {Answer : Type} (h : device.Mirrors state) (answer : Answer) :
    device.Simulates Eq (answer, device) (answer, state) :=
  ⟨rfl, h, rfl, .refl _ _ _⟩

/-- The three counter words of a mirrored queue. -/
theorem Device.Mirrors.words (h : device.Mirrors state) (sendCq : Bool) :
    load32 device.memory (device.queue sendCq).headAddress.toNat =
        (state.side sendCq).counters.head ∧
      load32 device.memory (device.queue sendCq).tailAddress.toNat =
        (state.side sendCq).counters.tail ∧
      load32 device.memory (device.cq sendCq).consumerAddress.toNat =
        (state.side sendCq).counters.consumer ∧
      (device.queue sendCq).depth = (state.descriptor.queue sendCq).depth :=
  ⟨h.shows sendCq .head, h.shows sendCq .tail, h.shows sendCq .consumer, by
    rw [Device.queue, h.descriptor_eq]⟩

/-- Writing and ringing a batch that fits, on both sides. -/
theorem Device.Mirrors.simulates_batch (h : device.Mirrors state) (hLaid : device.qp.Laid)
    (hDepth : state.descriptor.sendQueue.depth.toNat = 2 ^ bits) (hBits : bits ≤ 16)
    (hValid : ∀ wr ∈ wrs, aivValidSendWr wr = true)
    (hRoom : wrs.length < state.descriptor.sendQueue.depth.toNat) {Answer : Type}
    (answer : Answer) :
    device.Simulates Eq
      (answer, Device.ringSendDoorbell (state.send.counters.head + UInt32.ofNat wrs.length)
        { device with
          memory := Device.populateAllAt (device.queue true) state.send.counters.head wrs
            device.memory })
      (answer, Client.ringSendDoorbell (batchWqes state.send.counters.head wrs)
        (state.send.counters.head + UInt32.ofNat wrs.length)
        (populateAll state.send.counters.head wrs state)) := by
  have hPositive : 0 < (device.qp.descriptor.queue true).depth.toNat := by
    change 0 < device.qp.descriptor.sendQueue.depth.toNat
    rw [h.descriptor_eq]
    omega
  obtain ⟨-, hFill⟩ := populateAll_shows wrs state.send.counters.head hLaid h.descriptor_eq
    hPositive hValid h.shows
  have hRing := ringSendDoorbell_keeps (state.send.counters.head + UInt32.ofNat wrs.length)
    { device with
      memory := Device.populateAllAt (device.queue true) state.send.counters.head wrs
        device.memory }
  exact {
    answer := rfl
    mirrors := h.ringBatch hLaid hDepth hBits hValid hRoom
    qp_eq := rfl
    keeps := (hFill.widen fun _ _ => mem_queueParts _ _).trans
      (hRing.widen fun _ _ => mem_queueParts _ _) }

/-- Posting a send to the memory posts it to the mirrored queue. -/
theorem Device.Mirrors.postSend (h : device.Mirrors state) (hLaid : device.qp.Laid)
    (hDepth : state.descriptor.sendQueue.depth.toNat = 2 ^ bits) (hBits : bits ≤ 16)
    (wr : SendWr) :
    device.Simulates Eq (device.aivPostSend wr) (Client.aivPostSend wr state) := by
  obtain ⟨hHead, hTail, -, hQueue⟩ := h.words true
  change _ = state.send.counters.head at hHead
  change _ = state.send.counters.tail at hTail
  change _ = state.descriptor.sendQueue.depth at hQueue
  unfold Device.aivPostSend Client.aivPostSend
  dsimp only
  rw [hHead, hTail, hQueue]
  split
  · exact h.unmoved _
  split
  · exact h.unmoved _
  · rename_i hInvalid hFull
    have hDeep : 1 < state.descriptor.sendQueue.depth.toNat := by
      have hMore : ¬ state.descriptor.sendQueue.depth ≤ 1 := fun hFlat => hFull (.inl hFlat)
      rw [UInt32.not_le, UInt32.lt_iff_toNat_lt] at hMore
      exact hMore
    have hValid : ∀ other ∈ [wr], aivValidSendWr other = true := by simpa using hInvalid
    exact h.simulates_batch hLaid hDepth hBits hValid hDeep _

/-- The signal on the last request does not change what it asks for. -/
theorem markLast_valid (wrs : List SendWr) (h : ∀ wr ∈ wrs, aivValidSendWr wr = true) :
    ∀ wr ∈ markLast wrs, aivValidSendWr wr = true := by
  induction wrs using markLast.induct with
  | case1 => exact h
  | case2 wr =>
      intro other hOther
      rw [markLast, List.mem_singleton] at hOther
      rw [hOther]
      exact h wr (List.mem_cons_self ..)
  | case3 wr rest hRest ih =>
      intro other hOther
      rw [markLast] at hOther
      · rcases List.mem_cons.mp hOther with hFirst | hLater
        · rw [hFirst]
          exact h wr (List.mem_cons_self ..)
        · exact ih (fun later hLater => h later (List.mem_cons_of_mem _ hLater)) other hLater
      · exact hRest

theorem Device.Mirrors.postSendBatch (h : device.Mirrors state) (hLaid : device.qp.Laid)
    (hDepth : state.descriptor.sendQueue.depth.toNat = 2 ^ bits) (hBits : bits ≤ 16)
    (wrs : List SendWr) :
    device.Simulates Eq (device.aivPostSendBatch wrs) (Client.aivPostSendBatch wrs state) := by
  obtain ⟨hHead, hTail, -, hQueue⟩ := h.words true
  change _ = state.send.counters.head at hHead
  change _ = state.send.counters.tail at hTail
  change _ = state.descriptor.sendQueue.depth at hQueue
  unfold Device.aivPostSendBatch Client.aivPostSendBatch
  dsimp only
  rw [hHead, hTail, hQueue]
  split
  · exact h.unmoved _
  split
  · exact h.unmoved _
  rename_i hRoom
  cases hFind : wrs.findIdx? fun wr => !aivValidSendWr wr with
  | some index => exact h.unmoved _
  | none =>
      have hAll : ∀ wr ∈ wrs, aivValidSendWr wr = true := by
        intro wr hWr
        have hNone := List.findIdx?_eq_none_iff.mp hFind wr hWr
        simpa using hNone
      have hDeep : 1 < state.descriptor.sendQueue.depth := by
        rw [← UInt32.not_le]
        exact fun hFlat => hRoom (.inl hFlat)
      have hBound : (state.descriptor.sendQueue.depth - 1 -
          (state.send.counters.head - state.send.counters.tail)).toNat <
            state.descriptor.sendQueue.depth.toNat := by
        have hFree : state.send.counters.head - state.send.counters.tail ≤
            state.descriptor.sendQueue.depth - 1 := by
          apply UInt32.le_of_lt
          rw [← UInt32.not_le]
          exact fun hFull => hRoom (.inr hFull)
        rw [UInt32.toNat_sub_of_le _ _ hFree, UInt32.toNat_sub_of_le _ _ (UInt32.le_of_lt hDeep)]
        have hOne := UInt32.lt_iff_toNat_lt.mp hDeep
        change 1 < _ at hOne
        change _ - 1 - _ < _
        omega
      generalize (state.descriptor.sendQueue.depth - 1 -
        (state.send.counters.head - state.send.counters.tail)).toNat = available at hBound
      dsimp only
      have hLength : (markLast (wrs.take (min wrs.length available))).length =
          min wrs.length available := by
        rw [VerbsRun.markLast_length, List.length_take]
        omega
      have hBatch := fun answer : BatchOutcome => h.simulates_batch hLaid hDepth hBits
        (markLast_valid (wrs.take (min wrs.length available))
          fun wr hWr => hAll wr (List.mem_of_mem_take hWr)) (by omega) answer
      rw [hLength] at hBatch
      split
      · exact hBatch _
      · exact hBatch _

end Sends

section Receives

variable {qp : DeviceQp} {device : Device} {state : TransportQp} {memory : Memory} {bits : Nat}

/-- A receive entry with its identifier, the doorbell and the head. -/
def receiveStores (qp : DeviceQp) (index : Nat) (wr : RecvWr) (doorbell head : UInt32)
    (memory : Memory) : Memory :=
  let queue := qp.descriptor.queue false
  let entry := storeFields memory (qp.start false .ring + queue.entrySize.toNat * index)
    (sgeFields wr.localBuffer)
  let named := store64 entry (qp.start false .ids + 8 * index) wr.wrId
  store32 (store32 named (qp.start false .doorbell) doorbell) (qp.start false .head) head

/-- The stores of a receive, in the order of the source. -/
theorem aivPostRecv_stores (hLaid : device.qp.Laid)
    (hPositive : 0 < (device.qp.descriptor.queue false).depth.toNat) (wr : RecvWr)
    (head : UInt32) :
    store32 (store32 (store64 (storeFields device.memory
        ((device.queue false).entryAddress head).toNat (sgeFields wr.localBuffer))
        ((device.queue false).idAddress head).toNat wr.wrId)
        (device.queue false).doorbellAddress.toNat ((head + 1) &&& 0xffff))
        (device.queue false).headAddress.toNat (head + 1) =
      receiveStores device.qp (ringIndex head (device.qp.descriptor.queue false).depth) wr
        ((head + 1) &&& 0xffff) (head + 1) device.memory := by
  rw [Device.queue, hLaid.entryAddress_eq head hPositive, hLaid.idAddress_eq head hPositive]
  rfl

/-- The entry is stored first, then its identifier, and the indices last. -/
theorem receiveStores_keeps (hLaid : qp.Laid) {index : Nat}
    (hIndex : index < (qp.descriptor.queue false).depth.toNat) (wr : RecvWr)
    (doorbell head : UInt32) (memory : Memory) :
    ∃ entry named, entry = storeFields memory (qp.start false .ring +
        (qp.descriptor.queue false).entrySize.toNat * index) (sgeFields wr.localBuffer) ∧
      named = store64 entry (qp.start false .ids + 8 * index) wr.wrId ∧
      qp.Keeps [(false, .ring)] memory entry ∧ qp.Keeps [(false, .ids)] entry named ∧
      qp.Keeps [(false, .doorbell), (false, .head)] named
        (receiveStores qp index wr doorbell head memory) := by
  have hEntry : 16 ≤ (qp.descriptor.queue false).entrySize.toNat := hLaid.entries false
  have hRing := @slot_inside (qp.start false .ring)
    (qp.descriptor.queue false).entrySize.toNat 16 _ _ hIndex hEntry
  have hId := @slot_inside (qp.start false .ids) 8 8 _ _ hIndex (Nat.le_refl _)
  refine ⟨_, _, rfl, rfl, .storeFields false .ring memory (by simp) ?_,
    .store64 false .ids _ _ (by simp) hId,
    (DeviceQp.Keeps.store32 false .doorbell _ _ (by simp) ⟨Nat.le_refl _, Nat.le_refl _⟩).trans
    (.store32 false .head _ _ (by simp) ⟨Nat.le_refl _, Nat.le_refl _⟩)⟩
  rw [sgeFields_length]
  exact hRing

/-- A receive in memory is the receive of the record. -/
theorem receiveStores_shows (hLaid : qp.Laid) (hDescriptor : qp.descriptor = state.descriptor)
    (hPositive : 0 < (qp.descriptor.queue false).depth.toNat)
    (h : ∀ sendCq part, qp.Shows memory state sendCq part) (wr : RecvWr) (doorbell : UInt32)
    (sendCq : Bool) (part : QueuePart) :
    qp.Shows (receiveStores qp
        (ringIndex state.receive.counters.head (qp.descriptor.queue false).depth) wr doorbell
        (state.receive.counters.head + 1) memory)
      (postReceiveEntry wr state) sendCq part := by
  have hIndex := ringIndex_lt state.receive.counters.head hPositive
  have hSame : ringIndex state.receive.counters.head state.descriptor.receiveQueue.depth =
      ringIndex state.receive.counters.head (qp.descriptor.queue false).depth := by
    rw [hDescriptor]
    rfl
  obtain ⟨entry, named, hEntry, hNamed, hRing, hIds, hLast⟩ := receiveStores_keeps hLaid hIndex wr
    doorbell (state.receive.counters.head + 1) memory
  generalize hAfter : receiveStores qp
    (ringIndex state.receive.counters.head (qp.descriptor.queue false).depth) wr doorbell
    (state.receive.counters.head + 1) memory = after at hLast ⊢
  have hKept : ∀ sendCq part, (sendCq, part) ∉ [(false, .ring), (false, .ids),
      (false, .doorbell), (false, .head)] → qp.Shows after state sendCq part := by
    intro sendCq part hOther
    simp only [List.mem_cons, List.not_mem_nil, or_false, not_or] at hOther
    exact (((h sendCq part).same hLaid (hRing.other hLaid (by simpa using hOther.1))).same hLaid
      (hIds.other hLaid (by simpa using hOther.2.1))).same hLaid
      (hLast.other hLaid (by simpa using hOther.2.2))
  cases sendCq with
  | true =>
      exact (hKept true part (by simp)).of_side rfl (fun _ => rfl) fun hReceive =>
        Bool.noConfusion hReceive
  | false =>
      cases part with
      | ring =>
          intro slot hSlot
          have hBytes : 16 ≤ (qp.descriptor.queue false).entrySize.toNat := hLaid.entries false
          have hInside := @slot_inside (qp.start false .ring)
            (qp.descriptor.queue false).entrySize.toNat 16 _ _ hSlot hBytes
          have hWhole := (@DeviceQp.Keeps.other _ _ _ _ false .ring hIds hLaid (by simp)).trans
            (hLast.other hLaid (by simp))
          have hHere : loadSge after (qp.start false .ring +
              (qp.descriptor.queue false).entrySize.toNat * slot) = loadSge entry _ :=
            loadSge_same fun place hFrom hTo =>
              hWhole place (by omega) (Nat.lt_of_lt_of_le hTo hInside.2)
          change loadSge after _ = Function.update state.receiveRing
            (ringIndex state.receive.counters.head state.descriptor.receiveQueue.depth)
            wr.localBuffer slot
          rw [hSame, hHere, hEntry]
          by_cases hSlotSame :
              slot = ringIndex state.receive.counters.head (qp.descriptor.queue false).depth
          · rw [← hSlotSame, Function.update_self]
            exact loadSge_storeFields memory [] _ rfl rfl
          · rw [Function.update_of_ne hSlotSame, loadSge_same (storeFields_sameOn ?_)]
            · exact h false .ring slot hSlot
            · rw [sgeFields_length]
              exact slot_apart (Ne.symm hSlotSame) hBytes hBytes
      | ids =>
          intro slot hSlot
          have hInside := @slot_inside (qp.start false .ids) 8 8 _ _ hSlot (Nat.le_refl _)
          change _ = Function.update state.receive.wrIds
            (ringIndex state.receive.counters.head state.descriptor.receiveQueue.depth) wr.wrId slot
          rw [hSame, (hLast.other hLaid (by simp)).load64_eq hInside, hNamed]
          refine DeviceQp.ids_stored wr.wrId (fun other hOther => ?_) slot hSlot
          rw [(hRing.other hLaid (by simp)).load64_eq (slot_inside hOther (Nat.le_refl _))]
          exact h false .ids other hOther
      | head =>
          rw [← hAfter]
          exact load32_store32 _ _ _
      | tail => exact hKept false .tail (by simp)
      | consumer => exact hKept false .consumer (by simp)
      | doorbell => trivial
      | cqes => trivial
      | cqDoorbell => trivial

/-- Posting a receive to the memory posts it to the mirrored queue. -/
theorem Device.Mirrors.postRecv (h : device.Mirrors state) (hLaid : device.qp.Laid)
    (hPositive : 0 < state.descriptor.receiveQueue.depth.toNat) (wr : RecvWr) :
    device.Simulates Eq (device.aivPostRecv wr) (Client.aivPostRecv wr state) := by
  obtain ⟨hHead, hTail, -, hQueue⟩ := h.words false
  change _ = state.receive.counters.head at hHead
  change _ = state.receive.counters.tail at hTail
  change _ = state.descriptor.receiveQueue.depth at hQueue
  have hDeep : 0 < (device.qp.descriptor.queue false).depth.toNat := by
    change 0 < (device.queue false).depth.toNat
    rw [hQueue]
    exact hPositive
  have hProducer : device.receive.producer = state.receive.counters.head :=
    (h.follows false).producer_eq
  have hRung : device.receive.rungFor ((state.receive.counters.head + 1) &&& 0xffff) = 1 := by
    rw [← hProducer]
    exact Engine.rungFor_eq device.receive (show 1 < 2 ^ 16 by decide)
  have hIndex := ringIndex_lt state.receive.counters.head hDeep
  obtain ⟨entry, named, -, -, hRing, hIds, hLast⟩ := receiveStores_keeps hLaid hIndex wr
    ((state.receive.counters.head + 1) &&& 0xffff) (state.receive.counters.head + 1) device.memory
  have hAll : ∀ touched : List (Bool × QueuePart), touched ⊆ queueParts :=
    fun _ _ _ => mem_queueParts _ _
  have hKeeps := ((hRing.widen (hAll _)).trans (hIds.widen (hAll _))).trans (hLast.widen (hAll _))
  have hFollows := (h.follows false).takeOver true
  unfold Device.aivPostRecv Client.aivPostRecv receiveQueueFull
  dsimp only
  rw [hHead, hTail, hQueue, aivPostRecv_stores hLaid hDeep, hRung]
  simp only [decide_eq_true_eq]
  split
  · exact h.unmoved _
  · exact {
      answer := rfl
      qp_eq := rfl
      keeps := hKeeps
      mirrors := {
        descriptor_eq := h.descriptor_eq
        shows := receiveStores_shows hLaid h.descriptor_eq hDeep h.shows wr _
        follows := by
          intro sendCq
          cases sendCq with
          | true => exact h.follows true
          | false =>
              exact {
                producer_eq := hFollows.producer_eq
                posted_eq := hFollows.posted_eq
                awaiting_eq := hFollows.awaiting_eq
                index_lt := hFollows.index_lt }
        reports := by
          intro sendCq
          obtain ⟨done, hReported, hTold, hConsumed⟩ := h.reports sendCq
          have hCqes := (hRing.other hLaid (by simp)).trans ((hIds.other hLaid (by simp)).trans
            (@DeviceQp.Keeps.other _ _ _ _ sendCq .cqes hLast hLaid (by simp)))
          cases sendCq with
          | true => exact ⟨done, hReported.same hLaid hCqes rfl rfl, hTold, hConsumed⟩
          | false => exact ⟨done, hReported.same hLaid hCqes rfl rfl, hTold, hConsumed⟩ } }

end Receives

end NdsStorage.Client
