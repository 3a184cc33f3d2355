import NdsStorage.Client.QueueLayout

/-! The words in device memory are the counters and rings of the queue pair
record. Each verb of the vector core, and each report of the hardware, keeps it
that way and stores into parts of its own queues only. -/
namespace NdsStorage.Client

open Bytes FlatMemory PhaseRing

namespace DeviceQp

/-- A part of memory holds what the record says. -/
def Shows (qp : DeviceQp) (memory : Memory) (state : TransportQp) (sendCq : Bool) :
    QueuePart → Prop
  | .ring =>
      ∀ slot < (qp.descriptor.queue sendCq).depth.toNat,
        let address := qp.start sendCq .ring + (qp.descriptor.queue sendCq).entrySize.toNat * slot
        if sendCq then loadSendWqe memory address = state.sendRing slot
        else loadSge memory address = state.receiveRing slot
  | .ids =>
      ∀ slot < (qp.descriptor.queue sendCq).depth.toNat,
        load64 memory (qp.start sendCq .ids + 8 * slot) = (state.side sendCq).wrIds slot
  | .head => load32 memory (qp.start sendCq .head) = (state.side sendCq).counters.head
  | .tail => load32 memory (qp.start sendCq .tail) = (state.side sendCq).counters.tail
  | .consumer => load32 memory (qp.start sendCq .consumer) = (state.side sendCq).counters.consumer
  | .doorbell | .cqes | .cqDoorbell => True

variable {qp : DeviceQp} {memory memory' : Memory} {state : TransportQp} {sendCq : Bool}
  {part : QueuePart}

/-- A part is in view as long as its own bytes stay. -/
theorem Shows.same (h : qp.Shows memory state sendCq part) (hLaid : qp.Laid)
    (hSame : SameOn (qp.start sendCq part) (qp.size sendCq part) memory memory') :
    qp.Shows memory' state sendCq part := by
  cases part with
  | ring =>
      intro slot hSlot
      have hEntry := hLaid.entries sendCq
      have hInside := @slot_inside (qp.start sendCq .ring)
        (qp.descriptor.queue sendCq).entrySize.toNat (entryBytes sendCq) _ _ hSlot hEntry
      have hShown := h slot hSlot
      have hHere : SameOn (qp.start sendCq .ring +
          (qp.descriptor.queue sendCq).entrySize.toNat * slot) (entryBytes sendCq) memory memory' :=
        fun place hFrom hTo => hSame place (by omega) (Nat.lt_of_lt_of_le hTo hInside.2)
      cases sendCq with
      | true =>
          change loadSendWqe memory' _ = _
          rw [loadSendWqe_same hHere]
          exact hShown
      | false =>
          change loadSge memory' _ = _
          rw [loadSge_same hHere]
          exact hShown
  | ids =>
      intro slot hSlot
      rw [hSame.load64_eq (slot_inside hSlot (Nat.le_refl _))]
      exact h slot hSlot
  | head => exact (hSame.load32_eq ⟨Nat.le_refl _, Nat.le_refl _⟩).trans h
  | tail => exact (hSame.load32_eq ⟨Nat.le_refl _, Nat.le_refl _⟩).trans h
  | consumer => exact (hSame.load32_eq ⟨Nat.le_refl _, Nat.le_refl _⟩).trans h
  | doorbell => trivial
  | cqes => trivial
  | cqDoorbell => trivial

/-- What a part shows depends on its own side of the record. -/
theorem Shows.of_side (h : qp.Shows memory state sendCq part) {state' : TransportQp}
    (hSide : state'.side sendCq = state.side sendCq)
    (hSends : sendCq = true → state'.sendRing = state.sendRing)
    (hReceives : sendCq = false → state'.receiveRing = state.receiveRing) :
    qp.Shows memory state' sendCq part := by
  cases part with
  | ring =>
      intro slot hSlot
      cases sendCq with
      | true => exact (h slot hSlot).trans (congrFun (hSends rfl) slot).symm
      | false => exact (h slot hSlot).trans (congrFun (hReceives rfl) slot).symm
  | ids =>
      intro slot hSlot
      rw [hSide]
      exact h slot hSlot
  | head => exact h.trans (congrArg (fun side => side.counters.head) hSide.symm)
  | tail => exact h.trans (congrArg (fun side => side.counters.tail) hSide.symm)
  | consumer => exact h.trans (congrArg (fun side => side.counters.consumer) hSide.symm)
  | doorbell => trivial
  | cqes => trivial
  | cqDoorbell => trivial

/-- Identifiers with one of them stored anew. -/
theorem ids_stored {index : Nat} {ids : Nat → UInt64} (id : UInt64)
    (h : ∀ slot < (qp.descriptor.queue sendCq).depth.toNat,
      load64 memory (qp.start sendCq .ids + 8 * slot) = ids slot) :
    ∀ slot < (qp.descriptor.queue sendCq).depth.toNat,
      load64 (store64 memory (qp.start sendCq .ids + 8 * index) id)
        (qp.start sendCq .ids + 8 * slot) = Function.update ids index id slot := by
  intro slot hSlot
  by_cases hSame : slot = index
  · subst hSame
    rw [load64_store64, Function.update_self]
  · have hOther := store64_sameOn memory id
      (@slot_apart (qp.start sendCq .ids) 8 8 8 index slot (Ne.symm hSame) (Nat.le_refl _)
        (Nat.le_refl _))
    rw [hOther.load64_eq ⟨Nat.le_refl _, Nat.le_refl _⟩, h slot hSlot,
      Function.update_of_ne hSame]

section Populate

variable {wr : SendWr}

/-- Writing an entry touches the ring and the identifiers. -/
theorem Laid.populate_keeps (hLaid : qp.Laid) (wr : SendWr) (producer : UInt32) (memory : Memory)
    (hDepth : 0 < (qp.descriptor.queue true).depth.toNat) :
    qp.Keeps [(true, .ring), (true, .ids)] memory
      (populateSendWqeAt (qp.descriptor.queue true) producer wr memory) := by
  have hSlot := ringIndex_lt producer hDepth
  have hEntry : 48 ≤ (qp.descriptor.queue true).entrySize.toNat := hLaid.entries true
  have hRing := @slot_inside (qp.start true .ring)
    (qp.descriptor.queue true).entrySize.toNat 48 _ _ hSlot hEntry
  have hWord := @slot_inside (qp.start true .ring)
    (qp.descriptor.queue true).entrySize.toNat 4 _ _ hSlot (by omega)
  have hId := @slot_inside (qp.start true .ids) 8 8 _ _ hSlot (Nat.le_refl _)
  unfold populateSendWqeAt
  dsimp only
  rw [hLaid.entryAddress_eq producer hDepth, hLaid.idAddress_eq producer hDepth]
  refine Keeps.trans (Keeps.storeFields true .ring memory (by simp) ?_) (Keeps.trans
    (Keeps.store64 true .ids _ _ (by simp) hId) (Keeps.store32 true .ring _ _ (by simp) hWord))
  rw [sqFields_length]
  exact hRing

/-- The hardware finds the entry of the request in its slot. -/
theorem Laid.populate_entry (hLaid : qp.Laid) (producer : UInt32) (memory : Memory)
    (hDepth : 0 < (qp.descriptor.queue true).depth.toNat) (hValid : aivValidSendWr wr = true) :
    loadSendWqe (populateSendWqeAt (qp.descriptor.queue true) producer wr memory)
      (qp.start true .ring + (qp.descriptor.queue true).entrySize.toNat *
        ringIndex producer (qp.descriptor.queue true).depth) = sendWqe producer wr := by
  have hSlot := ringIndex_lt producer hDepth
  have hEntry : 48 ≤ (qp.descriptor.queue true).entrySize.toNat := hLaid.entries true
  have hRing := @slot_inside (qp.start true .ring)
    (qp.descriptor.queue true).entrySize.toNat 48 _ _ hSlot hEntry
  have hId := @slot_inside (qp.start true .ids) 8 8 _ _ hSlot (Nat.le_refl _)
  unfold populateSendWqeAt
  dsimp only
  rw [hLaid.entryAddress_eq producer hDepth, hLaid.idAddress_eq producer hDepth]
  generalize qp.start true .ring + (qp.descriptor.queue true).entrySize.toNat *
    ringIndex producer (qp.descriptor.queue true).depth = address at hRing ⊢
  generalize qp.start true .ids + 8 * ringIndex producer (qp.descriptor.queue true).depth = place
    at hId ⊢
  have hApart : Apart place 8 address 48 :=
    (hLaid.apart true .ids true .ring (by simp)).part hId hRing
  have hIds := store64_sameOn (storeFields memory address (sqFields wr)) wr.wrId hApart
  have hFirst : load32 (storeFields memory address (sqFields wr)) address = sqWord wr :=
    load32_storeFields [] _ _ rfl rfl
  refine loadSendWqe_owned producer hValid (SameOn.trans (fun spot hFrom hTo =>
    hIds spot (by omega) (by omega)) (store32_sameOn _ _ (.inl (Nat.le_refl _)))) ?_
  rw [load32_store32, hIds.load32_eq ⟨Nat.le_refl _, by omega⟩, hFirst]

/-- The entries of the other slots keep their bytes. -/
theorem Laid.populate_others (hLaid : qp.Laid) (wr : SendWr) (producer : UInt32) (memory : Memory)
    (hDepth : 0 < (qp.descriptor.queue true).depth.toNat) {slot : Nat}
    (hSlot : slot < (qp.descriptor.queue true).depth.toNat)
    (hNe : slot ≠ ringIndex producer (qp.descriptor.queue true).depth) :
    SameOn (qp.start true .ring + (qp.descriptor.queue true).entrySize.toNat * slot) 48 memory
      (populateSendWqeAt (qp.descriptor.queue true) producer wr memory) := by
  have hIndex := ringIndex_lt producer hDepth
  have hEntry : 48 ≤ (qp.descriptor.queue true).entrySize.toNat := hLaid.entries true
  have hHere := @slot_inside (qp.start true .ring)
    (qp.descriptor.queue true).entrySize.toNat 48 _ _ hSlot hEntry
  have hId := @slot_inside (qp.start true .ids) 8 8 _ _ hIndex (Nat.le_refl _)
  unfold populateSendWqeAt
  dsimp only
  rw [hLaid.entryAddress_eq producer hDepth, hLaid.idAddress_eq producer hDepth]
  refine SameOn.trans (storeFields_sameOn ?_) (SameOn.trans (store64_sameOn _ _
    ((hLaid.apart true .ids true .ring (by simp)).part hId hHere)) (store32_sameOn _ _ ?_))
  · rw [sqFields_length]
    exact slot_apart (Ne.symm hNe) hEntry hEntry
  · exact slot_apart (Ne.symm hNe) (by omega) hEntry

/-- The identifier is stored in the slot of its entry. -/
theorem Laid.populate_ids (hLaid : qp.Laid) (wr : SendWr) (producer : UInt32)
    (hDepth : 0 < (qp.descriptor.queue true).depth.toNat) {ids : Nat → UInt64}
    (h : ∀ slot < (qp.descriptor.queue true).depth.toNat,
      load64 memory (qp.start true .ids + 8 * slot) = ids slot) :
    ∀ slot < (qp.descriptor.queue true).depth.toNat,
      load64 (populateSendWqeAt (qp.descriptor.queue true) producer wr memory)
        (qp.start true .ids + 8 * slot) =
        Function.update ids (ringIndex producer (qp.descriptor.queue true).depth) wr.wrId slot := by
  have hSlot := ringIndex_lt producer hDepth
  have hEntry : 48 ≤ (qp.descriptor.queue true).entrySize.toNat := hLaid.entries true
  have hRing := @slot_inside (qp.start true .ring)
    (qp.descriptor.queue true).entrySize.toNat 48 _ _ hSlot hEntry
  have hWord := @slot_inside (qp.start true .ring)
    (qp.descriptor.queue true).entrySize.toNat 4 _ _ hSlot (by omega)
  unfold populateSendWqeAt
  dsimp only
  rw [hLaid.entryAddress_eq producer hDepth, hLaid.idAddress_eq producer hDepth]
  have hFields : qp.Keeps [(true, .ring)] memory (storeFields memory (qp.start true .ring +
      (qp.descriptor.queue true).entrySize.toNat *
        ringIndex producer (qp.descriptor.queue true).depth) (sqFields wr)) :=
    Keeps.storeFields true .ring memory (List.mem_cons_self ..) (by
      rw [sqFields_length]
      exact hRing)
  intro slot hHere
  have hInside := @slot_inside (qp.start true .ids) 8 8 _ _ hHere (Nat.le_refl _)
  have hOwned := fun other value =>
    @Keeps.store32 qp [(true, .ring)] _ true .ring other value (List.mem_singleton_self _) hWord
  rw [((hOwned _ _).other hLaid (by simp)).load64_eq hInside]
  refine ids_stored wr.wrId (fun other hOther => ?_) slot hHere
  rw [(hFields.other hLaid (by simp)).load64_eq (slot_inside hOther (Nat.le_refl _))]
  exact h other hOther

/-- An entry and its identifier lie where the record has them. -/
theorem Laid.populate_shows (hLaid : qp.Laid) (producer : UInt32)
    (hDescriptor : qp.descriptor = state.descriptor)
    (hDepth : 0 < (qp.descriptor.queue true).depth.toNat) (hValid : aivValidSendWr wr = true)
    (h : ∀ sendCq part, qp.Shows memory state sendCq part) (sendCq : Bool) (part : QueuePart) :
    qp.Shows (populateSendWqeAt (qp.descriptor.queue true) producer wr memory)
      (populateSendWqe producer wr state) sendCq part := by
  have hRing : qp.Shows (populateSendWqeAt (qp.descriptor.queue true) producer wr memory)
      (populateSendWqe producer wr state) true .ring := by
    intro slot hSlot
    change loadSendWqe _ _ = Function.update state.sendRing
      (ringIndex producer (state.descriptor.queue true).depth) (sendWqe producer wr) slot
    rw [← hDescriptor]
    by_cases hSame : slot = ringIndex producer (qp.descriptor.queue true).depth
    · rw [hSame, Function.update_self]
      exact hLaid.populate_entry producer memory hDepth hValid
    · rw [Function.update_of_ne hSame,
        loadSendWqe_same (hLaid.populate_others wr producer memory hDepth hSlot hSame)]
      exact h true .ring slot hSlot
  have hIds : qp.Shows (populateSendWqeAt (qp.descriptor.queue true) producer wr memory)
      (populateSendWqe producer wr state) true .ids := by
    intro slot hSlot
    change _ = Function.update state.send.wrIds
      (ringIndex producer (state.descriptor.queue true).depth) wr.wrId slot
    rw [← hDescriptor]
    exact hLaid.populate_ids wr producer hDepth (h true .ids) slot hSlot
  by_cases hTouched : (sendCq, part) ∈ [(true, QueuePart.ring), (true, QueuePart.ids)]
  · rcases List.mem_cons.mp hTouched with hFirst | hRest
    · cases hFirst
      exact hRing
    · cases List.mem_singleton.mp hRest
      exact hIds
  · have hShown := (h sendCq part).same hLaid
      ((hLaid.populate_keeps wr producer memory hDepth).other hLaid hTouched)
    cases sendCq with
    | false => cases part <;> exact hShown
    | true =>
        cases part with
        | ring => exact hRing
        | ids => exact hIds
        | head => exact hShown
        | tail => exact hShown
        | consumer => exact hShown
        | doorbell => trivial
        | cqes => trivial
        | cqDoorbell => trivial

end Populate

/-- The entries of a completion queue. -/
def cqeSlots (qp : DeviceQp) (memory : Memory) (sendCq : Bool) (slot : Nat) : HnsHwCqe :=
  if slot < (qp.descriptor.cq sendCq).depth.toNat then
    loadCqe memory (qp.start sendCq .cqes + (qp.descriptor.cq sendCq).entrySize.toNat * slot)
  else CqRing.blankCqe

/-- The completions depend on their own bytes only. -/
theorem Laid.cqeSlots_same (hLaid : qp.Laid)
    (hSame : SameOn (qp.start sendCq .cqes) (qp.size sendCq .cqes) memory memory') :
    qp.cqeSlots memory' sendCq = qp.cqeSlots memory sendCq := by
  funext slot
  unfold cqeSlots
  split
  · rename_i hSlot
    have hInside := @slot_inside (qp.start sendCq .cqes)
      (qp.descriptor.cq sendCq).entrySize.toNat 32 _ _ hSlot (hLaid.reports sendCq)
    exact loadCqe_same fun place hFrom hTo =>
      hSame place (by omega) (Nat.lt_of_lt_of_le hTo hInside.2)
  · rfl

/-- A report lands in its slot and in no other one. -/
theorem Laid.cqeSlots_stored (hLaid : qp.Laid) (memory : Memory) (entry : HnsHwCqe) {index : Nat}
    (hIndex : index < (qp.descriptor.cq sendCq).depth.toNat) :
    qp.cqeSlots (storeFields memory (qp.start sendCq .cqes +
        (qp.descriptor.cq sendCq).entrySize.toNat * index) (cqeFields entry)) sendCq =
      Function.update (qp.cqeSlots memory sendCq) index entry := by
  funext slot
  by_cases hSame : slot = index
  · subst hSame
    rw [Function.update_self, cqeSlots, if_pos hIndex, loadCqe_storeFields]
  · rw [Function.update_of_ne hSame]
    unfold cqeSlots
    split
    · refine loadCqe_same (storeFields_sameOn ?_)
      rw [cqeFields_length]
      exact slot_apart (Ne.symm hSame) (hLaid.reports sendCq) (hLaid.reports sendCq)
    · rfl

/-- The completion queue in memory, as the ring that the loops walk over. -/
def ringAt (qp : DeviceQp) (memory : Memory) (sendCq : Bool) (written : List HnsHwCqe)
    (published : Nat) : CqRing where
  sendCq := sendCq
  cq := qp.descriptor.cq sendCq
  wq := qp.descriptor.queue sendCq
  entries := qp.cqeSlots memory sendCq
  wrIds := fun _ => 0
  consumer := 0
  tail := 0
  doorbell := 0
  state := {
    signalInterval := 0
    unsignaledCount := 0
    sendCredits := 0
    receiveCredits := 0 }
  written := written
  consumed := []
  published := published

end DeviceQp

section Mirrors

/-- A report names its request and its outcome. -/
def Names (entry : HnsHwCqe) (cqe : Cqe) : Prop :=
  entry.byte4 >>> 16 = cqe.wqeIndex ∧ cqeStatus entry = cqe.status

/-- The completion queue holds the reports that are ready, after those that
have been consumed. -/
def Reported (qp : DeviceQp) (memory : Memory) (sendCq : Bool) (engine : Engine)
    (done : List HnsHwCqe) (ready : List Cqe) : Prop :=
  ∃ bits rest, bits ≤ 31 ∧ engine.written = (done ++ rest).length ∧ List.Forall₂ Names rest ready ∧
    (qp.ringAt memory sendCq (done ++ rest) engine.published).Ordered bits done

/-- The hardware has taken over what was handed to it. -/
structure Engine.Follows (engine : Engine) (side : QueueSide) : Prop where
  producer_eq : engine.producer = side.counters.head
  posted_eq : engine.posted = side.posted
  awaiting_eq : engine.awaiting = side.awaiting
  index_lt : ∀ cqe ∈ engine.awaiting, cqe.wqeIndex.toNat < 2 ^ 16

/-- The device is in the state that the record describes. -/
structure Device.Mirrors (device : Device) (state : TransportQp) : Prop where
  descriptor_eq : device.qp.descriptor = state.descriptor
  shows : ∀ sendCq part, device.qp.Shows device.memory state sendCq part
  follows : ∀ sendCq, (device.engine sendCq).Follows (state.side sendCq)
  reports : ∀ sendCq, ∃ done,
    Reported device.qp device.memory sendCq (device.engine sendCq) done (state.side sendCq).ready ∧
    (device.engine sendCq).published = done.length ∧
    (state.side sendCq).counters.consumer = UInt32.ofNat done.length

end Mirrors

namespace Device

@[simp] theorem engine_setEngine (device : Device) (sendCq : Bool) (engine : Engine) :
    (device.setEngine sendCq engine).engine sendCq = engine := by
  cases sendCq <;> rfl

@[simp] theorem engine_setEngine_other (device : Device) (sendCq : Bool) (engine : Engine) :
    (device.setEngine sendCq engine).engine (!sendCq) = device.engine (!sendCq) := by
  cases sendCq <;> rfl

@[simp] theorem setEngine_memory (device : Device) (sendCq : Bool) (engine : Engine) :
    (device.setEngine sendCq engine).memory = device.memory := by
  cases sendCq <;> rfl

@[simp] theorem setEngine_qp (device : Device) (sendCq : Bool) (engine : Engine) :
    (device.setEngine sendCq engine).qp = device.qp := by
  cases sendCq <;> rfl

end Device

section Doorbells

variable {engine : Engine} {side : QueueSide}

theorem and_low_toNat (value : UInt32) : (value &&& 0xffff).toNat = value.toNat % 2 ^ 16 := by
  rw [UInt32.toNat_and]
  exact Nat.and_two_pow_sub_one_eq_mod _ 16

/-- Sixteen bits of the index tell how many entries are new. -/
theorem Engine.rungFor_eq (engine : Engine) {count : Nat} (h : count < 2 ^ 16) :
    engine.rungFor ((engine.producer + UInt32.ofNat count) &&& 0xffff) = count := by
  have hLess := engine.producer.toNat_lt
  rw [rungFor, and_low_toNat, UInt32.toNat_sub, and_low_toNat, UInt32.toNat_add,
    UInt32.toNat_ofNat']
  omega

/-- The hardware takes over what the queue hands over. -/
theorem Engine.Follows.takeOver (h : engine.Follows side) (signaled : Bool) :
    (engine.takeOver signaled).Follows (side.handOver signaled) where
  producer_eq := congrArg (· + 1) h.producer_eq
  posted_eq := congrArg (· + 1) h.posted_eq
  awaiting_eq := by
    rw [Engine.takeOver, QueueSide.handOver, h.producer_eq, h.posted_eq, h.awaiting_eq]
  index_lt := by
    intro cqe hCqe
    cases signaled with
    | false => exact h.index_lt cqe hCqe
    | true =>
        rcases List.mem_append.mp hCqe with hEarlier | hNew
        · exact h.index_lt cqe hEarlier
        · rw [List.mem_singleton.mp hNew]
          change (engine.producer &&& 0xffff).toNat < _
          rw [and_low_toNat]
          exact Nat.mod_lt _ (by decide)

theorem Engine.Follows.takeAll (wqes : List SendWqe) (h : engine.Follows side) :
    (wqes.foldl (fun engine wqe => engine.takeOver wqe.signaled) engine).Follows
      (wqes.foldl (fun side wqe => side.handOver wqe.signaled) side) := by
  induction wqes generalizing engine side with
  | nil => exact h
  | cons wqe rest ih => exact ih (h.takeOver wqe.signaled)

/-- The doorbell carries the low half of the producer. -/
theorem doorbell_bits {number index service mask : BitVec 32}
    (hMask : ∀ bit, mask.getLsbD bit = decide (bit < 16)) :
    ((number.setWidth 64 ||| ((index &&& mask).setWidth 64 <<< 32) |||
      (service.setWidth 64 <<< 48)) >>> 32).setWidth 32 &&& mask = index &&& mask := by
  apply BitVec.eq_of_getLsbD_eq
  intro bit hBit
  have hNumber : number.getLsbD (32 + bit) = false := BitVec.getLsbD_of_ge _ _ (by omega)
  simp only [BitVec.getLsbD_and, BitVec.getLsbD_setWidth, BitVec.getLsbD_ushiftRight,
    BitVec.getLsbD_or, BitVec.getLsbD_shiftLeft, hMask, hNumber, hBit]
  by_cases hLow : bit < 16
  · have hBelow : 32 + bit < 48 := by omega
    have hSame : 32 + bit - 32 = bit := by omega
    have hWord : 32 + bit < 64 := by omega
    have hHalf : bit < 64 := by omega
    simp [hSame, hLow, hBelow, hWord, hHalf]
  · simp [hLow]

/-- The hardware reads the low bits of the index from the doorbell. -/
theorem sendDoorbell_index (qp : DeviceQp) (producer : UInt32) :
    (Device.sendDoorbell qp producer >>> 32).toUInt32 &&& 0xffff = producer &&& 0xffff := by
  have hMask : ∀ bit, (0xffff : UInt32).toBitVec.getLsbD bit = decide (bit < 16) := by
    intro bit
    change Nat.testBit (2 ^ 16 - 1) bit = _
    rw [Nat.testBit_two_pow_sub_one]
  exact congrArg UInt32.ofBitVec (doorbell_bits hMask)

/-- The hardware takes over the entries that it finds in their slots. -/
theorem Engine.takeSends_eq {queue : WorkQueueDescriptor} {memory : Memory} (wrs : List SendWr)
    (engine : Engine)
    (h : ∀ index wr, wrs[index]? = some wr →
      loadSendWqe memory (queue.entryAddress (engine.producer + UInt32.ofNat index)).toNat =
        sendWqe (engine.producer + UInt32.ofNat index) wr) :
    engine.takeSends queue memory wrs.length =
      (batchWqes engine.producer wrs).foldl (fun engine wqe => engine.takeOver wqe.signaled)
        engine := by
  induction wrs generalizing engine with
  | nil => rfl
  | cons wr rest ih =>
      have hFirst := h 0 wr rfl
      rw [show UInt32.ofNat 0 = 0 from rfl, UInt32.add_zero] at hFirst
      have hRest := ih (engine.takeOver (sendWqe engine.producer wr).signaled) (by
        intro index other hOther
        have hLater := h (index + 1) other hOther
        rw [Nat.add_comm, UInt32.ofNat_add, ← UInt32.add_assoc] at hLater
        exact hLater)
      rw [List.length_cons, takeSends, hFirst, hRest]
      rfl

theorem handOverAll_head (wqes : List SendWqe) (side : QueueSide) :
    (wqes.foldl (fun side wqe => side.handOver wqe.signaled) side).counters.head =
      side.counters.head + UInt32.ofNat wqes.length := by
  induction wqes generalizing side with
  | nil => simp
  | cons wqe rest ih =>
      rw [List.foldl_cons, ih, List.length_cons, Nat.add_comm, UInt32.ofNat_add, ← UInt32.add_assoc]
      rfl

theorem batchWqes_length (producer : UInt32) (wrs : List SendWr) :
    (batchWqes producer wrs).length = wrs.length := by
  induction wrs generalizing producer with
  | nil => rfl
  | cons wr rest ih => rw [batchWqes, List.length_cons, ih, List.length_cons]

end Doorbells

end NdsStorage.Client
