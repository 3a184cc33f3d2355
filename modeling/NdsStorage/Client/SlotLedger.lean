import NdsStorage.Client.Identifiers

/-! The slot allocator over whole runs. Reservations by either path and
releases come in any order, and every copy to a state record may fail. A ledger
beside the client lists the live handles and the identifiers stored so far. -/
namespace NdsStorage.Client

open StorageClient

/-- A call on the allocator with the outcomes of its state copies. -/
inductive SlotEvent where
  | allocate (cleared copied : Except Error Unit)
  | allocateOn (queue : UInt32) (copied : Except Error Unit)
  | release (slotId : UInt32) (cleared : Except Error Unit)

def SlotEvent.allocations : SlotEvent → Nat
  | .allocate .. | .allocateOn .. => 1
  | .release .. => 0

/-- A client with its live handles and the identifiers stored by reservations. -/
structure SlotLedger where
  client : StorageClient
  live : List UInt32
  ids : List UInt64

namespace SlotLedger

def begin (client : StorageClient) : SlotLedger := { client := client, live := [], ids := [] }

/-- Enter the outcome of a reservation. -/
def enter (ledger : SlotLedger) : Except Error UInt32 × StorageClient → SlotLedger
  | (.error _, client) => { ledger with client := client }
  | (.ok slotId, client) => {
      client := client
      live := ledger.live ++ [slotId]
      ids := ledger.ids ++ [(client.states (storageSlotIdIndex slotId).toNat).commandId] }

/-- Enter the outcome of a release. -/
def strike (ledger : SlotLedger) (slotId : UInt32) :
    Except Error Unit × StorageClient → SlotLedger
  | (.error _, client) => { ledger with client := client }
  | (.ok (), client) => { ledger with client := client, live := ledger.live.erase slotId }

def step (ledger : SlotLedger) : SlotEvent → SlotLedger
  | .allocate cleared copied => ledger.enter (ledger.client.allocateSlot cleared copied)
  | .allocateOn queue copied => ledger.enter (ledger.client.allocateSlotOn queue copied)
  | .release slotId cleared => ledger.strike slotId (ledger.client.releaseSlot slotId cleared)

def run (ledger : SlotLedger) (events : List SlotEvent) : SlotLedger := events.foldl step ledger

end SlotLedger

/-- The handle of a slot. -/
def slotHandle (client : StorageClient) (index : Nat) : UInt32 :=
  storageSlotId (client.slotQueue index) (UInt32.ofNat index)

section Reservation

variable {qpCount : Nat} {client client' : StorageClient} {result : Except Error UInt32}

theorem mem_searchOrder {index : Nat} :
    index ∈ client.searchOrder ↔ index < client.slots.length := by
  constructor
  · exact searchOrder_lt
  · intro hIndex
    obtain ⟨place, hStart, hEnd, hPlace⟩ := turn_covers hIndex client.nextSlot
    refine List.mem_map.mpr ⟨place - client.nextSlot, List.mem_range.mpr (by omega), ?_⟩
    rw [Nat.add_sub_cancel' hStart, hPlace]

/-- What a call that wants one of certain slots comes to. It succeeds on a free
one whose state is written, and otherwise leaves the free slots as they are. -/
inductive Reservation (client : StorageClient) (wanted : Nat → Bool) (written : Prop) :
    Except Error UInt32 × StorageClient → Prop
  | unavailable {error : Error}
      (hNone : ∀ index, index < client.slots.length → wanted index = true →
        client.allocatedSlots index = true) :
      Reservation client wanted written (.error error, client)
  | failed {error : Error} {client' : StorageClient} (hWritten : ¬written)
      (hAllocated : client'.allocatedSlots = client.allocatedSlots)
      (hNext : client'.nextCommandId = (allocateCommandId client.nextCommandId).2)
      (hOpened : ∀ qpCount, client.Opened qpCount → client'.Opened qpCount) :
      Reservation client wanted written (.error error, client')
  | taken (index : Nat) (hIndex : index < client.slots.length) (hWanted : wanted index = true)
      (hFree : client.allocatedSlots index = false) (hWritten : written) :
      Reservation client wanted written (.ok (slotHandle client index),
        (client.reserve index).setState index
          { commandId := (allocateCommandId client.nextCommandId).1 })

/-- Giving a reservation back leaves the slots as they were. -/
theorem unreserve_reserve {index : Nat} (hFree : client.allocatedSlots index = false) :
    ((client.reserve index).unreserve index).allocatedSlots = client.allocatedSlots := by
  simp only [unreserve, reserve, Function.update_idem, ← hFree, Function.update_eq_self]

/-- A call of allocate_slot takes any free slot. -/
theorem allocateSlot_reservation (client : StorageClient) (cleared copied : Except Error Unit) :
    Reservation client (fun _ => true) (cleared = .ok () ∧ copied = .ok ())
      (client.allocateSlot cleared copied) := by
  unfold allocateSlot
  split
  · rename_i hFind
    apply Reservation.unavailable
    intro index hIndex hWanted
    simpa using List.find?_eq_none.mp hFind index (mem_searchOrder.mpr hIndex)
  · rename_i index hFind
    have hIndex := mem_searchOrder.mp (List.mem_of_find?_eq_some hFind)
    have hFree : client.allocatedSlots index = false := by simpa using List.find?_some hFind
    dsimp only
    cases cleared with
    | error error =>
        exact .failed (by simp) (unreserve_reserve hFree) rfl fun _ h =>
          (h.reserve index).unreserve index
    | ok =>
        cases copied with
        | error error =>
            exact .failed (by simp) (unreserve_reserve hFree) rfl fun _ h =>
              ((h.reserve index).setState index {}).unreserve index
        | ok =>
            dsimp only [installState]
            rw [SlotRun.setState_setState]
            exact .taken index hIndex rfl hFree ⟨rfl, rfl⟩

/-- A call of allocate_slot for a queue takes a free slot of that queue. -/
theorem allocateSlotOn_reservation (hOpened : client.Opened qpCount) (queue : UInt32)
    (copied : Except Error Unit) :
    Reservation client (fun index => client.slotQueue index = queue) (copied = .ok ())
      (client.allocateSlotOn queue copied) := by
  unfold allocateSlotOn
  split
  · rename_i hRange
    apply Reservation.unavailable
    intro index hIndex hWanted
    rw [hOpened.slots_length] at hIndex
    have hQueue := hOpened.slotQueue_toNat hIndex
    rw [of_decide_eq_true hWanted] at hQueue
    have hMod := Nat.mod_lt index hOpened.positive
    rw [hOpened.qpCount_eq] at hRange
    omega
  · split
    · rename_i hEmpty
      apply Reservation.unavailable
      intro index hIndex hWanted
      rw [List.isEmpty_iff.mp hEmpty] at hIndex
      exact absurd hIndex (Nat.not_lt_zero index)
    · split
      · rename_i hFind
        apply Reservation.unavailable
        intro index hIndex hWanted
        have hBusy := List.find?_eq_none.mp hFind index (mem_searchOrder.mpr hIndex)
        simpa [of_decide_eq_true hWanted] using hBusy
      · rename_i index hFind
        have hIndex := mem_searchOrder.mp (List.mem_of_find?_eq_some hFind)
        have hMatch := List.find?_some hFind
        simp only [Bool.and_eq_true, Bool.not_eq_true', decide_eq_true_eq] at hMatch
        cases copied with
        | error error =>
            exact .failed (by simp) (unreserve_reserve hMatch.1) rfl fun _ h =>
              (h.reserve index).unreserve index
        | ok =>
            dsimp only [installState]
            rw [← hMatch.2]
            exact .taken index hIndex (by simp) hMatch.1 rfl

end Reservation

section Handle

variable {qpCount : Nat} {client : StorageClient}

theorem slotHandle_index (hOpened : client.Opened qpCount) {index : Nat}
    (hIndex : index < client.slots.length) :
    (storageSlotIdIndex (slotHandle client index)).toNat = index :=
  handle_index hOpened hIndex

theorem slotHandle_queue (hOpened : client.Opened qpCount) {index : Nat}
    (hIndex : index < client.slots.length) :
    storageSlotIdQueue (slotHandle client index) = client.slotQueue index := by
  rw [hOpened.slots_length] at hIndex
  have hSmall := hOpened.small
  have hQueue := hOpened.slotQueue_toNat hIndex
  have hMod := Nat.mod_lt index hOpened.positive
  simp only [kStorageSlotIndexLimit, kStorageSlotsPerQp] at hSmall hIndex
  have hNarrow : (UInt32.ofNat index).toNat = index :=
    UInt32.toNat_ofNat_of_lt' (by change _ < 4294967296; omega)
  apply UInt32.toNat_inj.mp
  exact (storageSlotId_parts (client.slotQueue index) (UInt32.ofNat index)
    (by omega) (by omega)).2

/-- A handle is made of its parts. -/
theorem storageSlotId_repack (slotId : UInt32) :
    storageSlotId (storageSlotIdQueue slotId)
      (UInt32.ofNat (storageSlotIdIndex slotId).toNat) = slotId := by
  have hSmall := slotId.toNat_lt
  have hQueue := storageSlotIdQueue_toNat slotId
  have hIndex := storageSlotIdIndex_toNat slotId
  rw [UInt32.ofNat_toNat]
  apply UInt32.toNat_inj.mp
  rw [storageSlotId_toNat (by omega) (by omega)]
  omega

end Handle

/-- What the ledger says about the client after some reservations. -/
structure Kept (qpCount : Nat) (start : UInt64) (used : Nat) (ledger : SlotLedger) : Prop where
  opened : ledger.client.Opened qpCount
  live_nodup : ledger.live.Nodup
  mem_live : ∀ slotId, slotId ∈ ledger.live ↔ ∃ index, index < ledger.client.slots.length ∧
    ledger.client.allocatedSlots index = true ∧ slotId = slotHandle ledger.client index
  next_eq : ledger.client.nextCommandId = commandIdAt start used
  ids_used : ∀ id ∈ ledger.ids, ∃ place, place < used ∧ id = commandIdAt start place

namespace Kept

variable {qpCount used : Nat} {start : UInt64} {ledger : SlotLedger}

theorem begin {client : StorageClient} {qpNum psn : UInt32}
    (h : openClient qpCount qpNum psn = .ok client) :
    Kept qpCount (firstCommandId qpNum psn) 0 (SlotLedger.begin client) := by
  have hOpened := openClient_opened h
  unfold openClient at h
  split at h
  · cases h
  · split at h
    · cases h
    · cases h
      exact ⟨hOpened, List.nodup_nil, by simp [SlotLedger.begin], rfl, by simp [SlotLedger.begin]⟩

/-- A call that leaves slots and free slots alone. -/
theorem unchanged {client' : StorageClient} {used' : Nat} (h : Kept qpCount start used ledger)
    (hOpened : client'.Opened qpCount)
    (hAllocated : client'.allocatedSlots = ledger.client.allocatedSlots)
    (hNext : client'.nextCommandId = commandIdAt start used') (hUsed : used ≤ used') :
    Kept qpCount start used' { ledger with client := client' } where
  opened := hOpened
  live_nodup := h.live_nodup
  mem_live := by
    have hSlots : client'.slots = ledger.client.slots := by rw [hOpened.slots_eq, h.opened.slots_eq]
    intro slotId
    dsimp only [slotHandle, slotQueue]
    rw [hAllocated, hSlots]
    exact h.mem_live slotId
  next_eq := hNext
  ids_used := fun id hId => by
    obtain ⟨place, hPlace, hAt⟩ := h.ids_used id hId
    exact ⟨place, hPlace.trans_le hUsed, hAt⟩

/-- The handle of a free slot is not live. -/
theorem not_live (h : Kept qpCount start used ledger) {index : Nat}
    (hIndex : index < ledger.client.slots.length)
    (hFree : ledger.client.allocatedSlots index = false) :
    slotHandle ledger.client index ∉ ledger.live := by
  rw [h.mem_live]
  rintro ⟨other, hOther, hBusy, hSame⟩
  have hIndex' := slotHandle_index h.opened hIndex
  rw [hSame, slotHandle_index h.opened hOther] at hIndex'
  rw [hIndex', hFree] at hBusy
  cases hBusy

/-- A reservation is entered in the ledger, or leaves it as it is. -/
theorem enter (hStart : start ≠ 0) (h : Kept qpCount start used ledger) {wanted : Nat → Bool}
    {written : Prop} {outcome : Except Error UInt32 × StorageClient}
    (hReservation : Reservation ledger.client wanted written outcome) :
    ∃ used', used' ≤ used + 1 ∧ Kept qpCount start used' (ledger.enter outcome) := by
  have hNext : (allocateCommandId ledger.client.nextCommandId).2 =
      commandIdAt start (used + 1) := by
    rw [h.next_eq, allocateCommandId_at hStart]
  have hId : (allocateCommandId ledger.client.nextCommandId).1 = commandIdAt start used := by
    rw [h.next_eq, allocateCommandId_at hStart]
  cases hReservation with
  | unavailable hNone => exact ⟨used, Nat.le_succ used, h⟩
  | failed hWritten hAllocated hCounter hOpened =>
      exact ⟨used + 1, Nat.le_refl _, h.unchanged (hOpened qpCount h.opened) hAllocated
        (hCounter.trans hNext) (Nat.le_succ used)⟩
  | taken index hIndex hWanted hFree hWritten =>
      refine ⟨used + 1, Nat.le_refl _, (h.opened.reserve index).setState index _, ?_, ?_, hNext, ?_⟩
      · have hConcat := h.live_nodup.concat (h.not_live hIndex hFree)
        rw [List.concat_eq_append] at hConcat
        exact hConcat
      · intro slotId
        dsimp only [SlotLedger.enter]
        rw [List.mem_append, List.mem_singleton, h.mem_live]
        constructor
        · rintro (⟨other, hOther, hBusy, rfl⟩ | rfl)
          · refine ⟨other, hOther, ?_, rfl⟩
            dsimp only [setState, reserve]
            by_cases hSame : other = index
            · rw [hSame, Function.update_self]
            · rw [Function.update_of_ne hSame, hBusy]
          · exact ⟨index, hIndex, Function.update_self .., rfl⟩
        · rintro ⟨other, hOther, hBusy, rfl⟩
          dsimp only [setState, reserve] at hBusy
          by_cases hSame : other = index
          · exact .inr (by rw [hSame]; rfl)
          · rw [Function.update_of_ne hSame] at hBusy
            exact .inl ⟨other, hOther, hBusy, rfl⟩
      · intro id hMember
        dsimp only [SlotLedger.enter] at hMember
        rw [List.mem_append, List.mem_singleton] at hMember
        rcases hMember with hOld | rfl
        · obtain ⟨place, hPlace, hAt⟩ := h.ids_used id hOld
          exact ⟨place, Nat.lt_succ_of_lt hPlace, hAt⟩
        · refine ⟨used, Nat.lt_succ_self used, ?_⟩
          rw [slotHandle_index h.opened hIndex]
          dsimp only [setState]
          rw [Function.update_self]
          exact hId

/-- A handle is live exactly when the release finds its slot allocated. -/
theorem mem_live_iff (h : Kept qpCount start used ledger) (slotId : UInt32) :
    slotId ∈ ledger.live ↔
      (storageSlotIdIndex slotId).toNat < ledger.client.slots.length ∧
        ledger.client.slotQueue (storageSlotIdIndex slotId).toNat = storageSlotIdQueue slotId ∧
        ledger.client.allocatedSlots (storageSlotIdIndex slotId).toNat = true := by
  rw [h.mem_live]
  constructor
  · rintro ⟨index, hIndex, hBusy, rfl⟩
    rw [slotHandle_index h.opened hIndex]
    exact ⟨hIndex, (slotHandle_queue h.opened hIndex).symm, hBusy⟩
  · rintro ⟨hIndex, hQueue, hBusy⟩
    refine ⟨_, hIndex, hBusy, ?_⟩
    rw [slotHandle, hQueue, storageSlotId_repack]

/-- A release succeeds exactly on a live handle that can be cleared. -/
theorem releaseSlot_ok_iff (h : Kept qpCount start used ledger) (slotId : UInt32)
    (cleared : Except Error Unit) :
    (ledger.client.releaseSlot slotId cleared).1 = .ok () ↔
      slotId ∈ ledger.live ∧ cleared = .ok () := by
  rw [h.mem_live_iff]
  unfold releaseSlot
  dsimp only
  split
  · rename_i hHandle
    apply iff_of_false (fun hOk => by cases hOk)
    rintro ⟨⟨hIndex, hQueue, -⟩, -⟩
    exact hHandle.elim (Nat.not_le_of_lt hIndex) (absurd hQueue)
  · rename_i hHandle
    rw [not_or, ge_iff_le, Nat.not_le, not_not] at hHandle
    split
    · rename_i hFree
      apply iff_of_false (fun hOk => by cases hOk)
      rintro ⟨⟨-, -, hBusy⟩, -⟩
      rw [hBusy] at hFree
      cases hFree
    · rename_i hBusy
      rw [Bool.not_eq_true', Bool.not_eq_false] at hBusy
      cases cleared with
      | error error => simp
      | ok => simp [hHandle, hBusy]

/-- A release strikes its handle from the ledger, or leaves it as it is. -/
theorem strike (h : Kept qpCount start used ledger) (slotId : UInt32)
    (cleared : Except Error Unit) :
    Kept qpCount start used
      (ledger.strike slotId (ledger.client.releaseSlot slotId cleared)) := by
  unfold releaseSlot
  dsimp only
  split
  · exact h
  · rename_i hHandle
    rw [not_or, ge_iff_le, Nat.not_le, not_not] at hHandle
    split
    · exact h
    · cases cleared with
      | error error => exact h
      | ok =>
          refine ⟨(h.opened.setState _ {}).unreserve _, h.live_nodup.erase slotId, ?_, h.next_eq,
            h.ids_used⟩
          intro other
          dsimp only [SlotLedger.strike]
          rw [h.live_nodup.mem_erase_iff, h.mem_live]
          constructor
          · rintro ⟨hOther, index, hIndex, hBusy, rfl⟩
            refine ⟨index, hIndex, ?_, rfl⟩
            dsimp only [unreserve, setState]
            rw [Function.update_of_ne, hBusy]
            intro hSame
            apply hOther
            rw [slotHandle, hSame, hHandle.2, storageSlotId_repack]
          · rintro ⟨index, hIndex, hBusy, rfl⟩
            dsimp only [unreserve, setState] at hBusy
            by_cases hSame : index = (storageSlotIdIndex slotId).toNat
            · rw [hSame, Function.update_self] at hBusy
              cases hBusy
            · rw [Function.update_of_ne hSame] at hBusy
              refine ⟨?_, index, hIndex, hBusy, rfl⟩
              intro hHere
              apply hSame
              rw [← hHere]
              exact (slotHandle_index h.opened hIndex).symm

/-- Every call keeps the ledger. -/
theorem step (hStart : start ≠ 0) (h : Kept qpCount start used ledger) (event : SlotEvent) :
    ∃ used', used' ≤ used + event.allocations ∧ Kept qpCount start used' (ledger.step event) := by
  cases event with
  | allocate cleared copied =>
      exact h.enter hStart (allocateSlot_reservation ledger.client cleared copied)
  | allocateOn queue copied =>
      exact h.enter hStart (allocateSlotOn_reservation h.opened queue copied)
  | release slotId cleared => exact ⟨used, Nat.le_refl _, h.strike slotId cleared⟩

/-- The ledger is kept in every run. -/
theorem run (hStart : start ≠ 0) (events : List SlotEvent) (h : Kept qpCount start used ledger) :
    ∃ used', used' ≤ used + (events.map SlotEvent.allocations).sum ∧
      Kept qpCount start used' (ledger.run events) := by
  induction events generalizing ledger used with
  | nil => exact ⟨used, Nat.le_refl _, h⟩
  | cons event events ih =>
      obtain ⟨middle, hMiddle, hStep⟩ := h.step hStart event
      obtain ⟨used', hUsed, hRest⟩ := ih hStep
      refine ⟨used', ?_, hRest⟩
      rw [List.map_cons, List.sum_cons]
      omega

end Kept

/-- A reservation stores a fresh command in the record of a free slot and
touches no other record. -/
def StoresFresh (ledger : SlotLedger) (slotId : UInt32) (client' : StorageClient) : Prop :=
  slotId ∉ ledger.live ∧ ∃ id : UInt64, id ≠ 0 ∧ id ∉ ledger.ids ∧
    client'.states = Function.update ledger.client.states (storageSlotIdIndex slotId).toNat {
      commandId := id
      expectedBytes := 0
      inFlight := 0
      status := 0 }

/-- What the allocator promises in a state. -/
structure Allocates (ledger : SlotLedger) : Prop where
  live_nodup : ledger.live.Nodup
  index_nodup : (ledger.live.map fun slotId => (storageSlotIdIndex slotId).toNat).Nodup
  decodes : ∀ slotId ∈ ledger.live,
    (storageSlotIdIndex slotId).toNat < ledger.client.slots.length ∧
      ledger.client.slotQueue (storageSlotIdIndex slotId).toNat = storageSlotIdQueue slotId ∧
      ledger.client.allocatedSlots (storageSlotIdIndex slotId).toNat = true
  allocate_iff : ∀ cleared copied,
    (∃ slotId, (ledger.client.allocateSlot cleared copied).1 = .ok slotId) ↔
      (∃ index, index < ledger.client.slots.length ∧
        ledger.client.allocatedSlots index = false) ∧ cleared = .ok () ∧ copied = .ok ()
  allocateOn_iff : ∀ queue copied,
    (∃ slotId, (ledger.client.allocateSlotOn queue copied).1 = .ok slotId) ↔
      (∃ index, index < ledger.client.slots.length ∧ ledger.client.slotQueue index = queue ∧
        ledger.client.allocatedSlots index = false) ∧ copied = .ok ()
  release_iff : ∀ slotId cleared,
    (ledger.client.releaseSlot slotId cleared).1 = .ok () ↔
      slotId ∈ ledger.live ∧ cleared = .ok ()
  allocate_failed : ∀ cleared copied error client',
    ledger.client.allocateSlot cleared copied = (.error error, client') →
      client'.allocatedSlots = ledger.client.allocatedSlots
  allocateOn_failed : ∀ queue copied error client',
    ledger.client.allocateSlotOn queue copied = (.error error, client') →
      client'.allocatedSlots = ledger.client.allocatedSlots
  release_failed : ∀ slotId cleared error client',
    ledger.client.releaseSlot slotId cleared = (.error error, client') →
      client'.allocatedSlots = ledger.client.allocatedSlots
  allocate_stored : ∀ cleared copied slotId client',
    ledger.client.allocateSlot cleared copied = (.ok slotId, client') →
      StoresFresh ledger slotId client'
  allocateOn_stored : ∀ queue copied slotId client',
    ledger.client.allocateSlotOn queue copied = (.ok slotId, client') →
      StoresFresh ledger slotId client'

section Promises

variable {qpCount used : Nat} {start : UInt64} {ledger : SlotLedger} {wanted : Nat → Bool}
  {written : Prop} {outcome : Except Error UInt32 × StorageClient}

/-- A reservation succeeds exactly if a wanted slot is free and can be written. -/
theorem Reservation.ok_iff (h : Reservation ledger.client wanted written outcome) :
    (∃ slotId, outcome.1 = .ok slotId) ↔ (∃ index, index < ledger.client.slots.length ∧
      wanted index = true ∧ ledger.client.allocatedSlots index = false) ∧ written := by
  cases h with
  | unavailable hNone =>
      apply iff_of_false
      · rintro ⟨slotId, hOk⟩
        cases hOk
      · rintro ⟨⟨index, hIndex, hWanted, hFree⟩, -⟩
        rw [hNone index hIndex hWanted] at hFree
        cases hFree
  | failed hWritten hAllocated hNext hOpened =>
      apply iff_of_false
      · rintro ⟨slotId, hOk⟩
        cases hOk
      · exact fun hBoth => hWritten hBoth.2
  | taken index hIndex hWanted hFree hWritten =>
      exact iff_of_true ⟨_, rfl⟩ ⟨⟨index, hIndex, hWanted, hFree⟩, hWritten⟩

/-- A reservation that fails leaves no slot taken. -/
theorem Reservation.failed_allocated {error : Error} {client' : StorageClient}
    (h : Reservation ledger.client wanted written (.error error, client')) :
    client'.allocatedSlots = ledger.client.allocatedSlots := by
  cases h with
  | unavailable hNone => rfl
  | failed hWritten hAllocated hNext hOpened => exact hAllocated

/-- A slot is stored under an identifier that no live slot has. -/
theorem Reservation.stored (hStart : start ≠ 0) (hKept : Kept qpCount start used ledger)
    (hUsed : used < 2 ^ 64 - 1) {slotId : UInt32} {client' : StorageClient}
    (h : Reservation ledger.client wanted written (.ok slotId, client')) :
    StoresFresh ledger slotId client' := by
  cases h with
  | taken index hIndex hWanted hFree hWritten =>
      refine ⟨hKept.not_live hIndex hFree, commandIdAt start used,
        commandIdAt_ne_zero hStart used, ?_, ?_⟩
      · intro hOld
        obtain ⟨place, hPlace, hSame⟩ := hKept.ids_used _ hOld
        have hPlaces := commandIdAt_inj hStart hUsed (hPlace.trans hUsed) hSame
        omega
      · rw [slotHandle_index hKept.opened hIndex]
        dsimp only [setState, reserve]
        rw [hKept.next_eq, allocateCommandId_at hStart]

theorem releaseSlot_failed {client client' : StorageClient} {slotId : UInt32}
    {cleared : Except Error Unit} {error : Error}
    (h : client.releaseSlot slotId cleared = (.error error, client')) : client' = client := by
  unfold releaseSlot at h
  dsimp only at h
  split at h
  · cases h
    rfl
  · split at h
    · cases h
      rfl
    · split at h
      · cases h
        rfl
      · cases h

theorem Kept.index_nodup (h : Kept qpCount start used ledger) :
    (ledger.live.map fun slotId => (storageSlotIdIndex slotId).toNat).Nodup := by
  apply List.Nodup.map_on _ h.live_nodup
  intro first hFirst second hSecond hSame
  obtain ⟨index, hIndex, -, rfl⟩ := (h.mem_live first).mp hFirst
  obtain ⟨other, hOther, -, rfl⟩ := (h.mem_live second).mp hSecond
  rw [slotHandle_index h.opened hIndex, slotHandle_index h.opened hOther] at hSame
  rw [hSame]

theorem Kept.allocates (hStart : start ≠ 0) (h : Kept qpCount start used ledger)
    (hUsed : used < 2 ^ 64 - 1) : Allocates ledger where
  live_nodup := h.live_nodup
  index_nodup := h.index_nodup
  decodes := fun slotId hLive => (h.mem_live_iff slotId).mp hLive
  allocate_iff := fun cleared copied => by
    simpa using (allocateSlot_reservation ledger.client cleared copied).ok_iff
  allocateOn_iff := fun queue copied => by
    simpa using (allocateSlotOn_reservation h.opened queue copied).ok_iff
  release_iff := h.releaseSlot_ok_iff
  allocate_failed := fun cleared copied error client' hRun => by
    have hReservation := allocateSlot_reservation ledger.client cleared copied
    rw [hRun] at hReservation
    exact hReservation.failed_allocated
  allocateOn_failed := fun queue copied error client' hRun => by
    have hReservation := allocateSlotOn_reservation h.opened queue copied
    rw [hRun] at hReservation
    exact hReservation.failed_allocated
  release_failed := fun slotId cleared error client' hRun => by rw [releaseSlot_failed hRun]
  allocate_stored := fun cleared copied slotId client' hRun => by
    have hReservation := allocateSlot_reservation ledger.client cleared copied
    rw [hRun] at hReservation
    exact hReservation.stored hStart h hUsed
  allocateOn_stored := fun queue copied slotId client' hRun => by
    have hReservation := allocateSlotOn_reservation h.opened queue copied
    rw [hRun] at hReservation
    exact hReservation.stored hStart h hUsed

/-- The allocator keeps its promises through every run, also when copies fail. -/
theorem slots_allocated {client : StorageClient} {qpNum psn : UInt32}
    (h : openClient qpCount qpNum psn = .ok client) {events : List SlotEvent}
    (hAllocations : (events.map SlotEvent.allocations).sum < 2 ^ 64 - 1) :
    Allocates ((SlotLedger.begin client).run events) := by
  have hStart := firstCommandId_ne_zero qpNum psn
  obtain ⟨used, hUsed, hKept⟩ := (Kept.begin h).run hStart events
  rw [Nat.zero_add] at hUsed
  exact hKept.allocates hStart (hUsed.trans_lt hAllocations)

def copyRefused : Error where
  code := .runtime
  message := "copy failed"

/-- A failed copy, two reservations and a release. -/
def mixedEvents : List SlotEvent := [
  .allocate (.ok ()) (.error copyRefused),
  .allocateOn 1 (.ok ()),
  .allocate (.ok ()) (.ok ()),
  .release 0x10001 (.ok ())]

/-- Reservations of both kinds, one with a failing copy, and a release. -/
theorem slots_allocated_mixed :
    ∃ client, (openClient 2 7 9 = .ok client ∧
      (mixedEvents.map SlotEvent.allocations).sum < 2 ^ 64 - 1 ∧
      ((SlotLedger.begin client).run mixedEvents).live = [2]) ∧
    Allocates ((SlotLedger.begin client).run mixedEvents) :=
  ⟨_, ⟨rfl, by decide, by decide⟩,
    slots_allocated (show openClient 2 7 9 = .ok _ from rfl) (by decide)⟩

end Promises

end NdsStorage.Client
