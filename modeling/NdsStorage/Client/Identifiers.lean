import NdsStorage.Client.Allocation
import NdsStorage.Counter.SkipZero

/-! The identifiers that reservations hand out, and what a reservation or a
release does to the state records, also when a copy to the device fails. -/
namespace NdsStorage.Client

open StorageClient

/-- The identifier that follows `count` reservations. -/
def commandIdAt (start : UInt64) : Nat → UInt64
  | 0 => start
  | count + 1 => bumpCommandId (commandIdAt start count)

/-- The identifiers are the values of a counter that skips zero. -/
theorem commandIdAt_eq (start : UInt64) (count : Nat) :
    commandIdAt start count = SkipZero.after start count := by
  induction count with
  | zero => rfl
  | succ count ih => rw [commandIdAt, SkipZero.after, ih]; rfl

/-- The next identifier, wrapping around zero. -/
theorem bumpCommandId_toNat (id : UInt64) :
    (bumpCommandId id).toNat = id.toNat % (2 ^ 64 - 1) + 1 :=
  SkipZero.next_toNat id

theorem bumpCommandId_ne (id : UInt64) : bumpCommandId id ≠ id := by
  intro hSame
  have hNat := bumpCommandId_toNat id
  rw [hSame] at hNat
  have hSmall := id.toNat_lt
  omega

section Sequence

variable {start : UInt64} (hStart : start ≠ 0)

include hStart

theorem commandIdAt_ne_zero (count : Nat) : commandIdAt start count ≠ 0 := by
  rw [commandIdAt_eq]
  exact SkipZero.after_ne_zero hStart count

/-- Fewer than a full turn apart, identifiers differ. -/
theorem commandIdAt_inj {first second : Nat} (hFirst : first < 2 ^ 64 - 1)
    (hSecond : second < 2 ^ 64 - 1) (h : commandIdAt start first = commandIdAt start second) :
    first = second := by
  rw [commandIdAt_eq, commandIdAt_eq] at h
  exact SkipZero.after_inj hStart hFirst hSecond h

/-- Each call hands out the next identifier of the sequence. -/
theorem allocateCommandId_at (count : Nat) :
    allocateCommandId (commandIdAt start count) =
      (commandIdAt start count, commandIdAt start (count + 1)) :=
  if_neg (commandIdAt_ne_zero hStart count)

end Sequence

theorem firstCommandId_ne_zero (qpNum psn : UInt32) : firstCommandId qpNum psn ≠ 0 := by
  unfold firstCommandId
  dsimp only
  split
  · decide
  · assumption

/-- A client starts with a nonzero identifier and no commands. -/
theorem openClient_start {qpCount : Nat} {qpNum psn : UInt32} {client : StorageClient}
    (h : openClient qpCount qpNum psn = .ok client) :
    client.nextCommandId ≠ 0 ∧ client.states = fun _ => {} := by
  unfold openClient at h
  split at h
  · cases h
  · split at h
    · cases h
    · cases h
      exact ⟨firstCommandId_ne_zero qpNum psn, rfl⟩

/-- What a call that wants a slot can do. An identifier is used up as soon as
a free slot has been found. -/
inductive ReserveEffect (client : StorageClient) : Except Error UInt32 → StorageClient → Prop
  | unavailable {error : Error} : ReserveEffect client (.error error) client
  | failed {error : Error} {client' : StorageClient} (index : Nat)
      (hNext : client'.nextCommandId = (allocateCommandId client.nextCommandId).2)
      (hStates : client'.states = client.states ∨
        client'.states = Function.update client.states index {})
      (hOpened : ∀ qpCount, client.Opened qpCount → client'.Opened qpCount) :
      ReserveEffect client (.error error) client'
  | taken {slotId : UInt32} {client' : StorageClient}
      (hNext : client'.nextCommandId = (allocateCommandId client.nextCommandId).2)
      (hStates : client'.states = Function.update client.states (storageSlotIdIndex slotId).toNat
        { commandId := (allocateCommandId client.nextCommandId).1 })
      (hOpened : ∀ qpCount, client.Opened qpCount → client'.Opened qpCount) :
      ReserveEffect client (.ok slotId) client'

section Effects

variable {qpCount : Nat} {client client' : StorageClient} {result : Except Error UInt32}

/-- The handle of a slot names its place in the table. -/
theorem handle_index (hOpened : client.Opened qpCount) {index : Nat}
    (hIndex : index < client.slots.length) :
    (storageSlotIdIndex (storageSlotId (client.slotQueue index) (UInt32.ofNat index))).toNat =
      index := by
  rw [hOpened.slots_length] at hIndex
  have hSmall := hOpened.small
  have hQueue := hOpened.slotQueue_toNat hIndex
  have hMod := Nat.mod_lt index hOpened.positive
  simp only [kStorageSlotIndexLimit, kStorageSlotsPerQp] at hSmall hIndex
  have hNarrow : (UInt32.ofNat index).toNat = index :=
    UInt32.toNat_ofNat_of_lt' (by change _ < 4294967296; omega)
  obtain ⟨hPart, -⟩ := storageSlotId_parts (client.slotQueue index) (UInt32.ofNat index)
    (by omega) (by omega)
  exact hPart.trans hNarrow

theorem searchOrder_lt {index : Nat} (h : index ∈ client.searchOrder) :
    index < client.slots.length := by
  obtain ⟨attempt, hAttempt, rfl⟩ := List.mem_map.mp h
  exact Nat.mod_lt _ (Nat.zero_lt_of_lt (List.mem_range.mp hAttempt))

/-- A reservation takes the slot it returns, or changes nothing that is free. -/
theorem allocateSlot_effect (hOpened : client.Opened qpCount) {cleared copied : Except Error Unit}
    (h : client.allocateSlot cleared copied = (result, client')) :
    ReserveEffect client result client' := by
  unfold allocateSlot at h
  split at h
  · cases h
    exact .unavailable
  · rename_i index hFind
    have hIndex := handle_index hOpened (searchOrder_lt (List.mem_of_find?_eq_some hFind))
    dsimp only at h
    split at h
    · cases h
      exact .failed index rfl (.inl rfl) fun _ h => (h.reserve index).unreserve index
    · unfold installState at h
      split at h
      · cases h
        exact .failed index rfl (.inr rfl) fun _ h =>
          ((h.reserve index).setState index {}).unreserve index
      · cases h
        refine .taken rfl ?_ fun _ h => ((h.reserve index).setState index {}).setState index _
        rw [hIndex]
        exact Function.update_idem ..

theorem allocateSlotOn_effect (hOpened : client.Opened qpCount) {queue : UInt32}
    {copied : Except Error Unit}
    (h : client.allocateSlotOn queue copied = (result, client')) :
    ReserveEffect client result client' := by
  unfold allocateSlotOn at h
  split at h
  · cases h
    exact .unavailable
  · split at h
    · cases h
      exact .unavailable
    · split at h
      · cases h
        exact .unavailable
      · rename_i index hFind
        have hIndex := handle_index hOpened (searchOrder_lt (List.mem_of_find?_eq_some hFind))
        have hMatch := List.find?_some hFind
        simp only [Bool.and_eq_true, decide_eq_true_eq] at hMatch
        unfold installState at h
        split at h
        · cases h
          exact .failed index rfl (.inl rfl) fun _ h =>
            (h.reserve index).unreserve index
        · cases h
          refine .taken rfl ?_ fun _ h => (h.reserve index).setState index _
          rw [← hMatch.2, hIndex]
          rfl

/-- A release clears the state record of its slot or changes nothing. -/
theorem releaseSlot_effect {slotId : UInt32} {cleared result : Except Error Unit}
    (h : client.releaseSlot slotId cleared = (result, client')) :
    client' = client ∨ client' =
      (client.setState (storageSlotIdIndex slotId).toNat {}).unreserve
        (storageSlotIdIndex slotId).toNat := by
  unfold releaseSlot at h
  dsimp only at h
  split at h
  · cases h
    exact .inl rfl
  · split at h
    · cases h
      exact .inl rfl
    · split at h
      · cases h
        exact .inl rfl
      · cases h
        exact .inr rfl

end Effects

end NdsStorage.Client
