import NdsStorage.System.WorkingSet

/-! Runs of benchmark windows. A window starts with all slots free and the cursor
at the first one, so it takes the slots in table order; when it has released
them all, the next window starts the same way. -/
namespace NdsStorage.System.Benchmark

open Bytes Client Client.StorageClient Server

/-- An error that the runtime or the launcher has given. -/
def WindowAnswers.Gives (answers : WindowAnswers) (error : Error) : Prop :=
  ∃ position, answers.cleared position = .error error ∨ answers.copied position = .error error ∨
    answers.submitted position = .error error ∨ answers.waited position = .error error ∨
    answers.released position = .error error

section Slots

variable {qpCount position : Nat} {client : StorageClient}

/-- The slots before a position are taken, and the cursor is there. -/
structure Taking (qpCount position : Nat) (client : StorageClient) : Prop where
  opened : client.Opened qpCount
  taken : ∀ index < client.slots.length, client.allocatedSlots index = decide (index < position)
  next_eq : client.nextSlot = position % client.slots.length

/-- The slots from a position on are still taken, and the cursor has come round. -/
structure Releasing (qpCount position : Nat) (client : StorageClient) : Prop where
  opened : client.Opened qpCount
  taken : ∀ index < client.slots.length, client.allocatedSlots index = decide (position ≤ index)
  next_eq : client.nextSlot = 0

theorem Taking.find (h : Taking qpCount position client)
    (hPosition : position < client.slots.length) :
    client.searchOrder.find? (fun index => !client.allocatedSlots index) = some position := by
  have hFree : client.allocatedSlots position = false := by
    rw [h.taken position hPosition]
    simp
  obtain ⟨rest, hRest⟩ : ∃ rest, client.searchOrder = position :: rest := by
    unfold searchOrder
    obtain ⟨count, hCount⟩ := Nat.exists_eq_succ_of_ne_zero (Nat.ne_of_gt (Nat.lt_of_le_of_lt
      (Nat.zero_le _) hPosition))
    rw [h.next_eq, hCount, List.range_succ_eq_map, List.map_cons, ← hCount, Nat.add_zero,
      Nat.mod_mod, Nat.mod_eq_of_lt hPosition]
    exact ⟨_, rfl⟩
  rw [hRest, List.find?_cons_of_pos]
  simpa using hFree

/-- The next slot is taken, unless its state cannot be stored. -/
theorem Taking.allocate (h : Taking qpCount position client)
    (hPosition : position < client.slots.length) (cleared copied : Except Error Unit) :
    (∃ error client', client.allocateSlot cleared copied = (.error error, client') ∧
      (cleared = .error error ∨ copied = .error error)) ∨
    ∃ client', client.allocateSlot cleared copied = (.ok (slotHandle client position), client') ∧
      Taking qpCount (position + 1) client' ∧ client'.slots = client.slots := by
  unfold allocateSlot
  rw [h.find hPosition]
  dsimp only
  cases cleared with
  | error error => exact .inl ⟨error, _, rfl, .inl rfl⟩
  | ok =>
      cases copied with
      | error error => exact .inl ⟨error, _, rfl, .inr rfl⟩
      | ok =>
          refine .inr ⟨_, rfl, ⟨{ h.opened with }, ?_, rfl⟩, rfl⟩
          intro index hIndex
          change Function.update client.allocatedSlots position true index = _
          by_cases hSame : index = position
          · subst hSame
            rw [Function.update_self]
            simp
          · rw [Function.update_of_ne hSame, h.taken index hIndex]
            exact decide_eq_decide.mpr (by omega)

/-- The slot at the position is released, unless its state cannot be cleared. -/
theorem Releasing.release (h : Releasing qpCount position client)
    (hPosition : position < client.slots.length) (cleared : Except Error Unit) :
    (∃ error, client.releaseSlot (slotHandle client position) cleared = (.error error, client) ∧
      cleared = .error error) ∨
    ∃ client', client.releaseSlot (slotHandle client position) cleared = (.ok (), client') ∧
      Releasing qpCount (position + 1) client' ∧ client'.slots = client.slots := by
  have hBusy : client.allocatedSlots position = true := by
    rw [h.taken position hPosition]
    simp
  unfold releaseSlot
  dsimp only
  rw [slotHandle_index h.opened hPosition, slotHandle_queue h.opened hPosition, hBusy]
  rw [if_neg (by simp [hPosition]), if_neg (by simp)]
  cases cleared with
  | error error => exact .inl ⟨error, rfl, rfl⟩
  | ok =>
      refine .inr ⟨_, rfl, ⟨{ h.opened with }, ?_, h.next_eq⟩, rfl⟩
      intro index hIndex
      change Function.update client.allocatedSlots position false index = _
      by_cases hSame : index = position
      · subst hSame
        rw [Function.update_self]
        simp
      · rw [Function.update_of_ne hSame, h.taken index hIndex]
        exact decide_eq_decide.mpr (by omega)

/-- Once all slots are taken they are released from the first. -/
theorem Taking.released (h : Taking qpCount client.slots.length client) :
    Releasing qpCount 0 client where
  opened := h.opened
  taken := by
    intro index hIndex
    rw [h.taken index hIndex]
    simp [hIndex]
  next_eq := by rw [h.next_eq, Nat.mod_self]

/-- Once all are released they are taken from the first. -/
theorem Releasing.free (h : Releasing qpCount client.slots.length client) :
    Taking qpCount 0 client where
  opened := h.opened
  taken := by
    intro index hIndex
    rw [h.taken index hIndex]
    simp [hIndex]
  next_eq := by rw [h.next_eq, Nat.zero_mod]

end Slots

section Loops

variable {qpCount position slotsPerQp remaining : Nat} {client : StorageClient}
  {queues : List QueueResources} {answers : WindowAnswers} {works : List SlotWork}

def slotIdOf (qpCount index : Nat) : UInt32 :=
  storageSlotId (UInt32.ofNat (index % qpCount)) (UInt32.ofNat index)

theorem slotHandle_eq (hOpened : client.Opened qpCount) {index : Nat}
    (hIndex : index < client.slots.length) : slotHandle client index = slotIdOf qpCount index := by
  rw [hOpened.slots_length] at hIndex
  rw [slotHandle, hOpened.slotQueue_eq hIndex, slotIdOf]

/-- The batch of a slot: entries of its queue, by the turn of the slot there. -/
def IsWork (queues : List QueueResources) (index : Nat) (work : SlotWork) : Prop :=
  ∃ queue, queues[index % queues.length]? = some queue ∧
    work = slotWork queue (slotIdOf queues.length index) (index / queues.length)

/-- All slots from the position on, in table order. -/
theorem collectWork_all (h : Taking queues.length position client)
    (hSlots : client.slots.length = queues.length * slotsPerQp)
    (hRange : position + remaining = client.slots.length) :
    (∃ error client', collectWork queues slotsPerQp answers remaining position client =
        (.error error, client') ∧ answers.Gives error) ∨
    ∃ works client', collectWork queues slotsPerQp answers remaining position client =
        (.ok works, client') ∧
      List.Forall₂ (IsWork queues) (List.range' position remaining) works ∧
      Taking queues.length client'.slots.length client' ∧ client'.slots = client.slots := by
  induction remaining generalizing position client with
  | zero =>
      refine .inr ⟨[], client, rfl, .nil, ?_, rfl⟩
      rw [Nat.add_zero] at hRange
      rw [← hRange]
      exact h
  | succ remaining ih =>
      have hPosition : position < client.slots.length := by omega
      rcases h.allocate hPosition (answers.cleared position) (answers.copied position) with
        ⟨error, client', hFailed, hGiven⟩ | ⟨client', hTaken, hNext, hSame⟩
      · refine .inl ⟨error, client', ?_, position, ?_⟩
        · rw [collectWork, hFailed]
        · rcases hGiven with hCleared | hCopied
          · exact .inl hCleared
          · exact .inr (.inl hCopied)
      · have hHandle := slotHandle_eq h.opened hPosition
        have hIndex := slotHandle_index h.opened hPosition
        have hQueue : (storageSlotIdQueue (slotHandle client position)).toNat =
            position % queues.length := by
          rw [slotHandle_queue h.opened hPosition,
            h.opened.slotQueue_toNat (by rw [← h.opened.slots_length]; exact hPosition)]
        have hInside := Nat.mod_lt position h.opened.positive
        have hTurn : position / queues.length < slotsPerQp := by
          apply Nat.div_lt_of_lt_mul
          rw [← hSlots]
          exact hPosition
        have hFound := List.getElem?_eq_getElem hInside
        rw [collectWork, hTaken]
        dsimp only
        rw [hQueue, hIndex, hFound]
        dsimp only
        rw [if_neg (by omega)]
        rcases ih hNext (by rw [hSame]; exact hSlots) (by rw [hSame]; omega) with
          ⟨error, last, hFailed, hGiven⟩ | ⟨rest, last, hRest, hAll, hLast, hKept⟩
        · rw [hFailed]
          exact .inl ⟨error, last, rfl, hGiven⟩
        · rw [hRest]
          refine .inr ⟨_, last, rfl, ?_, hLast, hKept.trans hSame⟩
          rw [List.range'_succ]
          refine .cons ⟨_, hFound, ?_⟩ hAll
          rw [hHandle]

/-- A submission fails with an answer of the backend. -/
theorem submitAll_gives {error : Error} (h : submitAll answers position works = .error error) :
    answers.Gives error := by
  induction works generalizing position with
  | nil => cases h
  | cons work rest ih =>
      rw [submitAll] at h
      cases hSubmitted : answers.submitted position with
      | error given =>
          rw [hSubmitted] at h
          cases h
          exact ⟨position, .inr (.inr (.inl hSubmitted))⟩
      | ok =>
          rw [hSubmitted] at h
          exact ih h

/-- The slots are released in the order they were taken. -/
theorem waitAll_all (h : Releasing queues.length position client)
    (hWorks : List.Forall₂ (IsWork queues) (List.range' position remaining) works)
    (hRange : position + remaining = client.slots.length) :
    (∃ error client', waitAll answers position works client = (.error error, client') ∧
      answers.Gives error) ∨
    ∃ client', waitAll answers position works client = (.ok (), client') ∧
      Releasing queues.length client'.slots.length client' ∧ client'.slots = client.slots := by
  induction remaining generalizing position client works with
  | zero =>
      cases hWorks
      refine .inr ⟨client, rfl, ?_, rfl⟩
      rw [Nat.add_zero] at hRange
      rw [← hRange]
      exact h
  | succ remaining ih =>
      rw [List.range'_succ] at hWorks
      cases hWorks with
      | cons hFirst hRest =>
          rename_i work rest
          obtain ⟨queue, -, hWork⟩ := hFirst
          have hPosition : position < client.slots.length := by omega
          have hId : work.slotId = slotHandle client position := by
            rw [hWork, slotHandle_eq h.opened hPosition]
            rfl
          rw [waitAll, hId]
          cases hWaited : answers.waited position with
          | error error => exact .inl ⟨error, client, rfl, position, by simp [hWaited]⟩
          | ok =>
              dsimp only
              rcases h.release hPosition (answers.released position) with
                ⟨error, hFailed, hGiven⟩ | ⟨client', hReleased, hNext, hSame⟩
              · rw [hFailed]
                exact .inl ⟨error, client, rfl, position, by simp [hGiven]⟩
              · rw [hReleased]
                dsimp only
                rcases ih hNext hRest (by rw [hSame]; omega) with
                  ⟨error, last, hFailed, hGiven⟩ | ⟨last, hDone, hLast, hKept⟩
                · exact .inl ⟨error, last, hFailed, hGiven⟩
                · exact .inr ⟨last, hDone, hLast, hKept.trans hSame⟩

end Loops

end NdsStorage.System.Benchmark
