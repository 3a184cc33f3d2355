import Mathlib.Data.Int.CardIntervalMod
import NdsStorage.Client.Slots

/-! The order in which slots are handed out. A run of the host side is a
sequence of accepted reservations and releases; it records the handles in the
order of their reservation, which is the order in which their commands are
submitted. -/
namespace NdsStorage.Client

namespace StorageClient

/-- An open client with its slots dealt out to `qpCount` queue pairs. -/
structure Opened (qpCount : Nat) (client : StorageClient) : Prop where
  qpCount_eq : client.qpCount = qpCount
  slots_eq : client.slots = slotLayout qpCount
  positive : 0 < qpCount
  small : qpCount * kStorageSlotsPerQp < kStorageSlotIndexLimit

/-- An opened client has its slots dealt to the queues in turn. -/
theorem openClient_opened {qpCount : Nat} {qpNum psn : UInt32} {client : StorageClient}
    (h : openClient qpCount qpNum psn = .ok client) : Opened qpCount client := by
  unfold openClient at h
  split at h
  · cases h
  · rename_i hCount
    split at h
    · cases h
    · rename_i hSmall
      cases h
      exact ⟨rfl, rfl, by omega, Nat.lt_of_not_le hSmall⟩

namespace Opened

variable {qpCount : Nat} {client : StorageClient}

/-- Each queue has as many slots as any other. -/
theorem slots_length (h : Opened qpCount client) :
    client.slots.length = qpCount * kStorageSlotsPerQp := by
  simp [h.slots_eq, slotLayout]

theorem slots_positive (h : Opened qpCount client) : 0 < qpCount * kStorageSlotsPerQp :=
  Nat.mul_pos h.positive (by decide)

theorem slotQueue_eq (h : Opened qpCount client) {index : Nat}
    (hIndex : index < qpCount * kStorageSlotsPerQp) :
    client.slotQueue index = UInt32.ofNat (index % qpCount) := by
  simp [slotQueue, h.slots_eq, slotLayout, List.getElem?_range hIndex]

theorem slotQueue_toNat (h : Opened qpCount client) {index : Nat}
    (hIndex : index < qpCount * kStorageSlotsPerQp) :
    (client.slotQueue index).toNat = index % qpCount := by
  have hMod := Nat.mod_lt index h.positive
  have hSmall := h.small
  simp only [kStorageSlotIndexLimit, kStorageSlotsPerQp] at hSmall
  rw [h.slotQueue_eq hIndex]
  exact UInt32.toNat_ofNat_of_lt' (by change _ < 4294967296; omega)

theorem reserve (h : Opened qpCount client) (index : Nat) :
    Opened qpCount (client.reserve index) :=
  { h with }

theorem unreserve (h : Opened qpCount client) (index : Nat) :
    Opened qpCount (client.unreserve index) :=
  { h with }

theorem setState (h : Opened qpCount client) (index : Nat) (state : StorageState) :
    Opened qpCount (client.setState index state) :=
  { h with }

end Opened

end StorageClient

section Handles

variable {queue index : UInt32}

/-- The packed handle as a number. -/
theorem storageSlotId_toNat (hQueue : queue.toNat < 2 ^ 16) (hIndex : index.toNat < 2 ^ 16) :
    (storageSlotId queue index).toNat = queue.toNat * 2 ^ 16 + index.toNat := by
  have hShift : (queue <<< 16).toNat = queue.toNat <<< 16 := by
    rw [UInt32.toNat_shiftLeft]
    change queue.toNat <<< 16 % 2 ^ 32 = _
    rw [Nat.shiftLeft_eq]
    exact Nat.mod_eq_of_lt (by omega)
  have hMask : (index &&& 0xffff).toNat = index.toNat := by
    rw [UInt32.toNat_and]
    exact Nat.and_two_pow_sub_one_of_lt_two_pow hIndex
  rw [storageSlotId, UInt32.toNat_or, hShift, hMask, ← Nat.shiftLeft_add_eq_or_of_lt hIndex,
    Nat.shiftLeft_eq]

theorem storageSlotIdIndex_toNat (slotId : UInt32) :
    (storageSlotIdIndex slotId).toNat = slotId.toNat % 2 ^ 16 := by
  rw [storageSlotIdIndex, UInt32.toNat_and]
  exact Nat.and_two_pow_sub_one_eq_mod slotId.toNat 16

theorem storageSlotIdQueue_toNat (slotId : UInt32) :
    (storageSlotIdQueue slotId).toNat = slotId.toNat / 2 ^ 16 := by
  rw [storageSlotIdQueue, UInt32.toNat_shiftRight]
  exact Nat.shiftRight_eq_div_pow ..

/-- A handle gives back the index and the queue it was made from. -/
theorem storageSlotId_parts (queue index : UInt32) (hQueue : queue.toNat < 2 ^ 16)
    (hIndex : index.toNat < 2 ^ 16) :
    (storageSlotIdIndex (storageSlotId queue index)).toNat = index.toNat ∧
      (storageSlotIdQueue (storageSlotId queue index)).toNat = queue.toNat := by
  rw [storageSlotIdIndex_toNat, storageSlotIdQueue_toNat, storageSlotId_toNat hQueue hIndex]
  omega

end Handles

inductive SlotCall where
  | allocate
  | allocateOn (queue : UInt32)
  | release (slotId : UInt32)
deriving DecidableEq, Repr

/-- A client together with the handles it has reserved and released so far. -/
structure SlotRun where
  client : StorageClient
  issued : List UInt32
  released : List UInt32

namespace SlotRun

def begin (client : StorageClient) : SlotRun := { client := client, issued := [], released := [] }

/-- A call that the client accepts. -/
def accept (run : SlotRun) : SlotCall → Option SlotRun
  | .allocate =>
      match run.client.allocateSlot (.ok ()) (.ok ()) with
      | (.ok slotId, client) => some { run with client := client, issued := run.issued ++ [slotId] }
      | (.error _, _) => none
  | .allocateOn queue =>
      match run.client.allocateSlotOn queue (.ok ()) with
      | (.ok slotId, client) => some { run with client := client, issued := run.issued ++ [slotId] }
      | (.error _, _) => none
  | .release slotId =>
      match run.client.releaseSlot slotId (.ok ()) with
      | (.ok (), client) => some { run with client := client, released := run.released ++ [slotId] }
      | (.error _, _) => none

/-- A sequence of accepted calls, each of which is allowed where it is made. -/
inductive Follows (allowed : SlotRun → SlotCall → Prop) (start : SlotRun) : SlotRun → Prop
  | refl : Follows allowed start start
  | step {run run' : SlotRun} {call : SlotCall} (prior : Follows allowed start run)
      (hAllowed : allowed run call) (hAccept : run.accept call = some run') :
      Follows allowed start run'

/-- Several calls in a row. -/
def acceptAll (run : SlotRun) : List SlotCall → Option SlotRun
  | [] => some run
  | call :: calls => (run.accept call).bind fun run => run.acceptAll calls

/-- Calls that are all allowed make an allowed run. -/
theorem acceptAll_follows {allowed : SlotRun → SlotCall → Prop} {start run run' : SlotRun}
    {calls : List SlotCall} (hAllowed : ∀ run call, call ∈ calls → allowed run call)
    (prior : Follows allowed start run) (h : run.acceptAll calls = some run') :
    Follows allowed start run' := by
  induction calls generalizing run with
  | nil =>
      cases h
      exact prior
  | cons call calls ih =>
      obtain ⟨next, hAccept, hRest⟩ := Option.bind_eq_some_iff.mp h
      apply ih _ (prior.step (hAllowed run call List.mem_cons_self) hAccept) hRest
      intro run other hOther
      exact hAllowed run other (List.mem_cons_of_mem _ hOther)

/-- The slot a call is going to reserve. -/
def target (client : StorageClient) : SlotCall → Option Nat
  | .allocate => client.searchOrder.find? fun index => !client.allocatedSlots index
  | .allocateOn queue => client.searchOrder.find? fun index =>
      !client.allocatedSlots index && client.slotQueue index = queue
  | .release _ => none

/-- The effect of a reservation. -/
def taken (run : SlotRun) (index : Nat) : SlotRun :=
  { run with
    client := (run.client.reserve index).setState index
      { commandId := (StorageClient.allocateCommandId run.client.nextCommandId).1 }
    issued := run.issued ++ [storageSlotId (run.client.slotQueue index) (UInt32.ofNat index)] }

theorem setState_setState (client : StorageClient) (index : Nat) (first second : StorageState) :
    (client.setState index first).setState index second = client.setState index second := by
  simp [StorageClient.setState]

/-- An accepted call reserves its target or gives back an allocated slot. -/
theorem accept_cases {run run' : SlotRun} {call : SlotCall} (h : run.accept call = some run') :
    (∃ index, target run.client call = some index ∧ run' = run.taken index) ∨
    (∃ slotId, call = .release slotId ∧
      (storageSlotIdIndex slotId).toNat < run.client.slots.length ∧
      run.client.allocatedSlots (storageSlotIdIndex slotId).toNat = true ∧
      run' = { run with
        client := (run.client.setState (storageSlotIdIndex slotId).toNat {}).unreserve
          (storageSlotIdIndex slotId).toNat
        released := run.released ++ [slotId] }) := by
  cases call with
  | allocate =>
      apply Or.inl
      cases hFind : run.client.searchOrder.find? fun index => !run.client.allocatedSlots index with
      | none => simp [accept, StorageClient.allocateSlot, hFind] at h
      | some index =>
          simp only [accept, StorageClient.allocateSlot, hFind, StorageClient.installState,
            Option.some.injEq] at h
          refine ⟨index, hFind, ?_⟩
          rw [← h, setState_setState]
          rfl
  | allocateOn queue =>
      apply Or.inl
      by_cases hQueue : queue.toNat ≥ run.client.qpCount
      · simp [accept, StorageClient.allocateSlotOn, hQueue] at h
      by_cases hEmpty : run.client.slots.isEmpty
      · simp [accept, StorageClient.allocateSlotOn, hQueue, hEmpty] at h
      cases hFind : run.client.searchOrder.find? fun index =>
          !run.client.allocatedSlots index && run.client.slotQueue index = queue with
      | none => simp [accept, StorageClient.allocateSlotOn, hQueue, hEmpty, hFind] at h
      | some index =>
          have hMatch := List.find?_some hFind
          simp only [Bool.and_eq_true, decide_eq_true_eq] at hMatch
          simp only [accept, StorageClient.allocateSlotOn, if_neg hQueue, if_neg hEmpty, hFind,
            StorageClient.installState, Option.some.injEq] at h
          refine ⟨index, hFind, ?_⟩
          rw [← h, ← hMatch.2]
          rfl
  | release slotId =>
      apply Or.inr
      by_cases hHandle : (storageSlotIdIndex slotId).toNat ≥ run.client.slots.length ∨
          run.client.slotQueue (storageSlotIdIndex slotId).toNat ≠ storageSlotIdQueue slotId
      · simp only [accept, StorageClient.releaseSlot, if_pos hHandle] at h
        cases h
      by_cases hFree : run.client.allocatedSlots (storageSlotIdIndex slotId).toNat = true
      · simp only [accept, StorageClient.releaseSlot, if_neg hHandle, hFree, Bool.not_true,
          Bool.false_eq_true, if_false, Option.some.injEq] at h
        exact ⟨slotId, rfl, by omega, hFree, h.symm⟩
      · simp only [accept, StorageClient.releaseSlot, if_neg hHandle, hFree, Bool.not_false,
          if_true] at h
        cases h

end SlotRun

section Order

/-- The slots of the commands submitted on a queue, in order. -/
def commandsOn (queue : Nat) (issued : List UInt32) : List Nat :=
  (issued.filter fun slotId => (storageSlotIdQueue slotId).toNat = queue).map fun slotId =>
    (storageSlotIdIndex slotId).toNat

/-- The slots of a queue in table order, taken cyclically. -/
def turnSlot (qpCount queue turn : Nat) : Nat := turn % kStorageSlotsPerQp * qpCount + queue

variable {qpCount : Nat} {used : Nat → Bool} {position : Nat} {run run' : SlotRun}

/-- The cursor has advanced by `position` slots in total, and each queue in use
has seen its slots in turn. -/
structure Ordered (qpCount : Nat) (used : Nat → Bool) (position : Nat) (run : SlotRun) : Prop where
  opened : run.client.Opened qpCount
  cursor : run.client.nextSlot = position % (qpCount * kStorageSlotsPerQp)
  order : ∀ queue, queue < qpCount → used queue = true → commandsOn queue run.issued =
    (List.range (Nat.count (fun place => place % qpCount = queue) position)).map
      (turnSlot qpCount queue)

/-- How many places of a queue lie before one of them. -/
theorem count_at {place : Nat} (hPositive : 0 < qpCount) :
    Nat.count (fun other => other % qpCount = place % qpCount) place = place / qpCount := by
  have hCount := Nat.count_modEq_card place hPositive place
  simp only [Nat.ModEq, Nat.lt_irrefl, if_false, Nat.add_zero] at hCount
  exact hCount

/-- The slot of a place, from its queue and its turn there. -/
theorem turnSlot_at (qpCount place : Nat) :
    turnSlot qpCount (place % qpCount) (place / qpCount) =
      place % (qpCount * kStorageSlotsPerQp) := by
  rw [Nat.mod_mul, turnSlot, Nat.add_comm, Nat.mul_comm]

theorem count_skip {queue gap : Nat}
    (h : ∀ step, step < gap → (position + step) % qpCount ≠ queue) :
    Nat.count (fun place => place % qpCount = queue) (position + gap) =
      Nat.count (fun place => place % qpCount = queue) position := by
  induction gap with
  | zero => rfl
  | succ gap ih =>
      rw [← Nat.add_assoc, Nat.count_succ, if_neg (h gap (Nat.lt_succ_self gap)), Nat.add_zero]
      exact ih fun step hStep => h step (Nat.lt_succ_of_lt hStep)

/-- The handle of a slot names the slot and its queue. -/
theorem handle_parts (h : run.client.Opened qpCount) {index : Nat}
    (hIndex : index < qpCount * kStorageSlotsPerQp) :
    (storageSlotIdIndex (storageSlotId (run.client.slotQueue index)
        (UInt32.ofNat index))).toNat = index ∧
      (storageSlotIdQueue (storageSlotId (run.client.slotQueue index)
        (UInt32.ofNat index))).toNat = index % qpCount := by
  have hSmall := h.small
  have hLimit : kStorageSlotIndexLimit = 2 ^ 16 := rfl
  have hQueue := h.slotQueue_toNat hIndex
  have hMod := Nat.mod_le index qpCount
  have hNarrow : (UInt32.ofNat index).toNat = index :=
    UInt32.toNat_ofNat_of_lt' (by change index < 2 ^ 32; omega)
  obtain ⟨hSlot, hOn⟩ := storageSlotId_parts (run.client.slotQueue index) (UInt32.ofNat index)
    (by omega) (by omega)
  exact ⟨hSlot.trans hNarrow, hOn.trans hQueue⟩

/-- A reservation adds its slot to the commands of the slot's queue only. -/
theorem commandsOn_taken (h : run.client.Opened qpCount) {index : Nat}
    (hIndex : index < qpCount * kStorageSlotsPerQp) (queue : Nat) :
    commandsOn queue (run.taken index).issued =
      commandsOn queue run.issued ++ if index % qpCount = queue then [index] else [] := by
  obtain ⟨hSlot, hOn⟩ := handle_parts h hIndex
  unfold commandsOn SlotRun.taken
  rw [List.filter_append, List.map_append]
  congr 1
  by_cases hHere : index % qpCount = queue
  · rw [if_pos hHere, List.filter_cons_of_pos (by simp [hOn, hHere]), List.filter_nil,
      List.map_singleton, hSlot]
  · rw [if_neg hHere, List.filter_cons_of_neg (by simp [hOn, hHere]), List.filter_nil,
      List.map_nil]

namespace Ordered

theorem begin {client : StorageClient} {qpNum psn : UInt32}
    (h : StorageClient.openClient qpCount qpNum psn = .ok client) :
    Ordered qpCount used 0 (SlotRun.begin client) where
  opened := StorageClient.openClient_opened h
  cursor := by
    unfold StorageClient.openClient at h
    split at h
    · cases h
    · split at h
      · cases h
      · cases h
        exact (Nat.zero_mod _).symm
  order := by
    intro queue hQueue hUsed
    rw [Nat.count_zero]
    rfl

/-- Reserving the next slot of the queues in use keeps all of them in turn. -/
theorem take (h : Ordered qpCount used position run) (gap : Nat)
    (hSkipped : ∀ step, step < gap → used ((position + step) % qpCount) = false) :
    Ordered qpCount used (position + gap + 1)
      (run.taken ((position + gap) % (qpCount * kStorageSlotsPerQp))) where
  opened := (h.opened.reserve _).setState _ _
  cursor := by
    change ((position + gap) % (qpCount * kStorageSlotsPerQp) + 1) % run.client.slots.length = _
    rw [h.opened.slots_length, Nat.mod_add_mod]
  order := by
    intro queue hQueue hUsed
    have hInside := Nat.mod_lt (position + gap) h.opened.slots_positive
    have hSkip : Nat.count (fun place => place % qpCount = queue) (position + gap) =
        Nat.count (fun place => place % qpCount = queue) position := by
      apply count_skip
      rintro step hStep rfl
      rw [hSkipped step hStep] at hUsed
      cases hUsed
    rw [commandsOn_taken h.opened hInside, Nat.mod_mul_right_mod,
      h.order queue hQueue hUsed, ← hSkip, Nat.count_succ]
    by_cases hHere : (position + gap) % qpCount = queue
    · subst hHere
      rw [if_pos rfl, if_pos rfl, List.range_succ, List.map_append, List.map_singleton,
        count_at h.opened.positive, turnSlot_at]
    · rw [if_neg hHere, if_neg hHere, List.append_nil, Nat.add_zero]

/-- Giving a slot back moves neither the cursor nor any queue. -/
theorem giveBack (h : Ordered qpCount used position run) (index : Nat) (released : List UInt32) :
    Ordered qpCount used position { run with
      client := (run.client.setState index {}).unreserve index
      released := released } where
  opened := (h.opened.setState _ _).unreserve _
  cursor := h.cursor
  order := h.order

end Ordered

end Order

section RoundRobin

variable {size first second : Nat}

/-- Numbers with the same remainder are at least one turn apart. -/
theorem turn_apart (hOrder : first < second) (hSame : first % size = second % size) :
    first + size ≤ second := by
  have hZero := Nat.sub_mod_eq_zero_of_mod_eq hSame.symm
  have hTurn := Nat.le_of_dvd (by omega) (Nat.dvd_of_mod_eq_zero hZero)
  omega

/-- Every remainder occurs within one turn. -/
theorem turn_covers {index : Nat} (hIndex : index < size) (start : Nat) :
    ∃ place, start ≤ place ∧ place < start + size ∧ place % size = index := by
  have hPositive : 0 < size := Nat.zero_lt_of_lt hIndex
  have hStart := Nat.mod_lt start hPositive
  rcases Nat.le_total (start % size) index with hLater | hEarlier
  · refine ⟨start + (index - start % size), by omega, by omega, ?_⟩
    rw [Nat.add_mod, Nat.mod_eq_of_lt (show index - start % size < size by omega),
      Nat.add_sub_cancel' hLater, Nat.mod_eq_of_lt hIndex]
  · rcases Nat.eq_or_lt_of_le hEarlier with rfl | hEarlier
    · exact ⟨start, Nat.le_refl _, by omega, rfl⟩
    · refine ⟨start + (size + index - start % size), by omega, by omega, ?_⟩
      rw [Nat.add_mod, Nat.mod_eq_of_lt (show size + index - start % size < size by omega),
        Nat.add_sub_cancel' (show start % size ≤ size + index by omega), Nat.add_mod_left,
        Nat.mod_eq_of_lt hIndex]

/-- Reservations on any queue, and releases in the order of the reservations. -/
def InOrder (run : SlotRun) : SlotCall → Prop
  | .allocate => True
  | .allocateOn _ => False
  | .release slotId => run.issued[run.released.length]? = some slotId

/-- The busy slots are those of a window that moves over the table. -/
structure RoundRobin (qpCount : Nat) (run : SlotRun) : Prop where
  ordered : Ordered qpCount (fun _ => true) run.issued.length run
  handle : ∀ (place : Nat) (slotId : UInt32), run.issued[place]? = some slotId →
    (storageSlotIdIndex slotId).toNat = place % (qpCount * kStorageSlotsPerQp)
  busy : ∀ index, index < qpCount * kStorageSlotsPerQp →
    (run.client.allocatedSlots index = true ↔ ∃ place, run.released.length ≤ place ∧
      place < run.issued.length ∧ place % (qpCount * kStorageSlotsPerQp) = index)
  released_le : run.released.length ≤ run.issued.length
  window : run.issued.length ≤ run.released.length + qpCount * kStorageSlotsPerQp

namespace RoundRobin

variable {qpCount : Nat} {run run' : SlotRun}

/-- A free slot is found under the cursor. -/
theorem target_cursor (h : RoundRobin qpCount run) {index : Nat}
    (hTarget : SlotRun.target run.client .allocate = some index) :
    index = run.issued.length % (qpCount * kStorageSlotsPerQp) ∧
      run.issued.length < run.released.length + qpCount * kStorageSlotsPerQp := by
  have hPositive := h.ordered.opened.slots_positive
  have hLength := h.ordered.opened.slots_length
  have hFree : run.client.allocatedSlots index = false := by
    simpa using List.find?_some hTarget
  have hInside : index < qpCount * kStorageSlotsPerQp := by
    obtain ⟨attempt, -, rfl⟩ := List.mem_map.mp (List.mem_of_find?_eq_some hTarget)
    rw [hLength]
    exact Nat.mod_lt _ hPositive
  have hRoom : run.issued.length < run.released.length + qpCount * kStorageSlotsPerQp := by
    apply Nat.lt_of_le_of_ne h.window
    intro hFull
    obtain ⟨place, hStart, hEnd, hPlace⟩ := turn_covers hInside run.released.length
    rw [(h.busy index hInside).mpr ⟨place, hStart, hFull ▸ hEnd, hPlace⟩] at hFree
    cases hFree
  refine ⟨?_, hRoom⟩
  have hCursor : run.client.allocatedSlots
      (run.issued.length % (qpCount * kStorageSlotsPerQp)) = false := by
    rw [← Bool.not_eq_true, h.busy _ (Nat.mod_lt _ hPositive)]
    rintro ⟨place, hStart, hEnd, hPlace⟩
    have hApart := turn_apart hEnd hPlace
    omega
  obtain ⟨rest, hRest⟩ : ∃ rest, qpCount * kStorageSlotsPerQp = rest + 1 :=
    ⟨qpCount * kStorageSlotsPerQp - 1, by omega⟩
  have hOrder : run.client.searchOrder =
      run.issued.length % (qpCount * kStorageSlotsPerQp) ::
        (List.range rest).map fun attempt =>
          (run.client.nextSlot + (attempt + 1)) % run.client.slots.length := by
    rw [StorageClient.searchOrder, hLength, hRest, List.range_succ_eq_map, List.map_cons,
      List.map_map, ← hRest, h.ordered.cursor, Nat.add_zero, Nat.mod_mod]
    rfl
  simp only [SlotRun.target, hOrder] at hTarget
  rw [List.find?_cons_of_pos (by simp [hCursor])] at hTarget
  exact (Option.some.inj hTarget).symm

theorem begin {client : StorageClient} {qpNum psn : UInt32}
    (h : StorageClient.openClient qpCount qpNum psn = .ok client) :
    RoundRobin qpCount (SlotRun.begin client) where
  ordered := Ordered.begin h
  handle := by
    intro place slotId hSlot
    cases hSlot
  busy := by
    intro index hIndex
    have hFree : client.allocatedSlots index = false := by
      unfold StorageClient.openClient at h
      split at h
      · cases h
      · split at h
        · cases h
        · cases h
          rfl
    constructor
    · intro hBusy
      rw [show client.allocatedSlots index = true from hBusy] at hFree
      cases hFree
    · rintro ⟨place, -, hPlace, -⟩
      cases hPlace
  released_le := Nat.le_refl _
  window := Nat.zero_le _

/-- A reservation moves the end of the window. -/
theorem take (h : RoundRobin qpCount run)
    (hRoom : run.issued.length < run.released.length + qpCount * kStorageSlotsPerQp) :
    RoundRobin qpCount (run.taken (run.issued.length % (qpCount * kStorageSlotsPerQp))) where
  ordered := by
    have hLength : (run.taken (run.issued.length % (qpCount * kStorageSlotsPerQp))).issued.length =
        run.issued.length + 1 := by
      simp [SlotRun.taken]
    rw [hLength]
    exact h.ordered.take 0 (by simp)
  handle := by
    intro place slotId hSlot
    rcases Nat.lt_or_ge place run.issued.length with hOld | hNew
    · apply h.handle place slotId
      rw [← hSlot]
      exact (List.getElem?_append_left hOld).symm
    · have hHere : place = run.issued.length := by
        have hBound := (List.getElem?_eq_some_iff.mp hSlot).1
        simp only [SlotRun.taken, List.length_append, List.length_singleton] at hBound
        omega
      subst hHere
      simp only [SlotRun.taken, List.getElem?_concat_length, Option.some.injEq] at hSlot
      rw [← hSlot]
      exact (handle_parts h.ordered.opened (Nat.mod_lt _ h.ordered.opened.slots_positive)).1
  busy := by
    intro index hIndex
    simp only [SlotRun.taken, StorageClient.setState, StorageClient.reserve, List.length_append,
      List.length_singleton]
    by_cases hHere : index = run.issued.length % (qpCount * kStorageSlotsPerQp)
    · subst hHere
      rw [Function.update_self]
      exact iff_of_true rfl ⟨run.issued.length, h.released_le, Nat.lt_succ_self _, rfl⟩
    · rw [Function.update_of_ne hHere, h.busy index hIndex]
      constructor
      · rintro ⟨place, hStart, hEnd, hPlace⟩
        exact ⟨place, hStart, Nat.lt_succ_of_lt hEnd, hPlace⟩
      · rintro ⟨place, hStart, hEnd, rfl⟩
        refine ⟨place, hStart, ?_, rfl⟩
        rcases Nat.lt_succ_iff_lt_or_eq.mp hEnd with hOld | rfl
        · exact hOld
        · exact absurd rfl hHere
  released_le := by
    simp only [SlotRun.taken, List.length_append]
    exact Nat.le_add_right_of_le h.released_le
  window := by
    simp only [SlotRun.taken, List.length_append, List.length_singleton]
    exact hRoom

/-- A release in order moves the start of the window. -/
theorem giveBack (h : RoundRobin qpCount run) {slotId : UInt32}
    (hOldest : run.issued[run.released.length]? = some slotId) :
    RoundRobin qpCount { run with
      client := (run.client.setState (storageSlotIdIndex slotId).toNat {}).unreserve
        (storageSlotIdIndex slotId).toNat
      released := run.released ++ [slotId] } where
  ordered := h.ordered.giveBack _ _
  handle := h.handle
  busy := by
    intro index hIndex
    have hSlot := h.handle _ _ hOldest
    have hWindow := h.window
    simp only [StorageClient.setState, StorageClient.unreserve, List.length_append,
      List.length_singleton, hSlot]
    by_cases hHere : index = run.released.length % (qpCount * kStorageSlotsPerQp)
    · subst hHere
      rw [Function.update_self]
      apply iff_of_false Bool.false_ne_true
      rintro ⟨place, hStart, hEnd, hPlace⟩
      have hApart := turn_apart hStart hPlace.symm
      omega
    · rw [Function.update_of_ne hHere, h.busy index hIndex]
      constructor
      · rintro ⟨place, hStart, hEnd, rfl⟩
        refine ⟨place, ?_, hEnd, rfl⟩
        rcases Nat.eq_or_lt_of_le hStart with rfl | hLater
        · exact absurd rfl hHere
        · exact hLater
      · rintro ⟨place, hStart, hEnd, hPlace⟩
        exact ⟨place, Nat.le_of_succ_le hStart, hEnd, hPlace⟩
  released_le := by
    rw [List.length_append, List.length_singleton]
    exact (List.getElem?_eq_some_iff.mp hOldest).1
  window := by
    have hWindow := h.window
    simp only [List.length_append, List.length_singleton]
    omega

/-- A call in order moves the window. -/
theorem step (h : RoundRobin qpCount run) {call : SlotCall} (hAllowed : InOrder run call)
    (hAccept : run.accept call = some run') : RoundRobin qpCount run' := by
  rcases SlotRun.accept_cases hAccept with ⟨index, hTarget, rfl⟩ | ⟨slotId, rfl, -, -, rfl⟩
  · cases call with
    | allocate =>
        obtain ⟨rfl, hRoom⟩ := h.target_cursor hTarget
        exact h.take hRoom
    | allocateOn queue => exact hAllowed.elim
    | release slotId => cases hTarget
  · exact h.giveBack hAllowed

end RoundRobin

/-- A client that reserves slots on any queue and releases them in order goes
round the table. -/
theorem follows_roundRobin {qpCount : Nat} {start run : SlotRun}
    (hRun : SlotRun.Follows InOrder start run) (hStart : RoundRobin qpCount start) :
    RoundRobin qpCount run := by
  induction hRun with
  | refl => exact hStart
  | step prior hAllowed hAccept ih => exact ih.step hAllowed hAccept

end RoundRobin

end NdsStorage.Client
