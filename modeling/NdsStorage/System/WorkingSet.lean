import Mathlib.Algebra.Ring.Nat
import Mathlib.Data.Multiset.Bind
import NdsStorage.Interaction.Traversal
import NdsStorage.System.Benchmark

/-! The working set of the storage benchmark. Every window uses every slot once,
the server finds the entries of each batch in order, and over all batches of a
window each block of the working set is transferred exactly once. -/
namespace NdsStorage.System.Benchmark

open Bytes Client Interaction Server

section Lists

variable {α : Type}

theorem range_mul_flatMap (rows columns : Nat) (f : Nat → List α) :
    (List.range (rows * columns)).flatMap f =
      (List.range rows).flatMap fun row =>
        (List.range columns).flatMap fun column => f (row * columns + column) := by
  induction rows with
  | zero => simp
  | succ rows ih =>
      rw [Nat.succ_mul, List.range_add, List.flatMap_append, ih, List.range_succ,
        List.flatMap_append, List.flatMap_map]
      simp

theorem range_mul_map (rows columns : Nat) (f : Nat → α) :
    (List.range (rows * columns)).map f =
      (List.range rows).flatMap fun row =>
        (List.range columns).map fun column => f (row * columns + column) := by
  rw [← List.flatMap_pure_eq_map, range_mul_flatMap]
  apply List.flatMap_congr
  intro row _
  exact List.flatMap_pure_eq_map ..

/-- Dealing positions out to the columns in turn reaches every place of every column. -/
theorem dealt_perm (rows : Nat) {columns : Nat} (f : Nat → Nat → List α) :
    ((List.range (columns * rows)).flatMap fun index => f (index % columns) (index / columns)).Perm
      ((List.range columns).flatMap fun column =>
        (List.range rows).flatMap fun row => f column row) := by
  have hDealt : ((List.range (columns * rows)).flatMap fun index =>
      f (index % columns) (index / columns)) =
      (List.range rows).flatMap fun row => (List.range columns).flatMap fun column =>
        f column row := by
    rw [Nat.mul_comm, range_mul_flatMap]
    apply List.flatMap_congr
    intro row _
    apply List.flatMap_congr
    intro column hColumn
    have hInside := List.mem_range.mp hColumn
    rw [Nat.mul_add_mod', Nat.mod_eq_of_lt hInside, Nat.mul_comm,
      Nat.mul_add_div (Nat.lt_of_le_of_lt (Nat.zero_le _) hInside), Nat.div_eq_of_lt hInside,
      Nat.add_zero]
  rw [hDealt, ← Multiset.coe_eq_coe]
  simp only [← Multiset.coe_bind]
  exact Multiset.bind_bind _ _

end Lists

section Entries

variable {read : Bool} {slotsPerQp queueIndex qpCount : Nat} {region : StorageMemory}
  {encoded : Buffer}

theorem slice_slice (bytes : Buffer) {position width inner count : Nat} (h : inner + count ≤ width) :
    slice (slice bytes position width) inner count = slice bytes (position + inner) count := by
  unfold slice
  apply List.map_congr_left
  intro index hIndex
  have hInside := List.mem_range.mp hIndex
  rw [List.getD_eq_getElem?_getD, List.getElem?_map, List.getElem?_range (by omega), Option.map_some,
    Option.getD_some, Nat.add_assoc]

/-- The transfers are encoded in the order of their numbers. -/
theorem transferOrder_eq (slotsPerQp : Nat) :
    transferOrder slotsPerQp = List.range (transfersPerQp slotsPerQp) := by
  unfold transferOrder transfersPerQp
  induction slotsPerQp with
  | zero => simp
  | succ slots ih =>
      rw [List.range_succ, List.flatMap_append, ih, Nat.succ_mul, List.range_add]
      simp

theorem serializeBatchEntry_decoded {entry : StorageBatchEntry} {access : UInt32}
    {bytes written : Buffer} (hSize : kStorageBatchEntryBytes ≤ bytes.length)
    (h : serializeBatchEntry entry access bytes = (.ok (), written)) :
    written.length = bytes.length ∧ deserializeBatchEntry access written = .ok entry := by
  have hLength := ((entry_laidOut access).survives entry hSize).length_eq
  have hWritten := @RecordFormat.LaidOut.of_written _ _ _ _ _ _ (entry_laidOut access) entry bytes
    written hSize h
  change (serializeBatchEntry entry access bytes).2.length = _ at hLength
  rw [h] at hLength
  exact ⟨hLength, hWritten.2⟩

/-- What is serialized for one entry is what the server decodes. -/
theorem serializeEntry_decoded {entry : StorageBatchEntry} {bytes written : Buffer}
    (hSize : kStorageBatchEntryBytes ≤ bytes.length)
    (h : serializeEntry read entry bytes = (.ok (), written)) :
    written.length = bytes.length ∧ deserializeEntry read written = .ok entry := by
  cases read with
  | true => exact @serializeBatchEntry_decoded _ kRemoteWrite _ _ hSize h
  | false => exact @serializeBatchEntry_decoded _ kRemoteRead _ _ hSize h

/-- The entries before a transfer stay as they were encoded. -/
theorem encodeEntry_decoded {transferIndex : Nat} {written : Buffer}
    (h : encodeEntry read slotsPerQp queueIndex region encoded transferIndex = .ok written)
    (hRoom : (transferIndex + 1) * kStorageBatchEntryBytes ≤ encoded.length) :
    written.length = encoded.length ∧
      deserializeEntry read (slice written (transferIndex * kStorageBatchEntryBytes)
        kStorageBatchEntryBytes) = .ok (transferEntry slotsPerQp queueIndex region transferIndex) ∧
      ∀ earlier < transferIndex,
        slice written (earlier * kStorageBatchEntryBytes) kStorageBatchEntryBytes =
          slice encoded (earlier * kStorageBatchEntryBytes) kStorageBatchEntryBytes := by
  rw [Nat.succ_mul] at hRoom
  unfold encodeEntry at h
  dsimp only at h
  split at h
  · rename_i bytes hSerialized
    cases h
    obtain ⟨hLength, hDecoded⟩ := serializeEntry_decoded (Nat.le_of_eq (slice_length ..).symm)
      hSerialized
    rw [slice_length] at hLength
    have hSame := @slice_put_same encoded bytes (transferIndex * kStorageBatchEntryBytes)
      (by rw [hLength]; exact hRoom)
    rw [hLength] at hSame
    refine ⟨put_length .., by rw [hSame, hDecoded], ?_⟩
    intro earlier hEarlier
    apply slice_put_disjoint (by rw [hLength]; exact hRoom)
    left
    rw [← Nat.succ_mul]
    exact Nat.mul_le_mul_right _ hEarlier
  · cases h

/-- Every entry that has been encoded can be read back. -/
theorem encodeRange_decoded {count : Nat} {written : Buffer}
    (h : (List.range count).foldlM (encodeEntry read slotsPerQp queueIndex region) encoded =
      .ok written) (hRoom : count * kStorageBatchEntryBytes ≤ encoded.length) :
    written.length = encoded.length ∧ ∀ transferIndex < count,
      deserializeEntry read (slice written (transferIndex * kStorageBatchEntryBytes)
        kStorageBatchEntryBytes) =
          .ok (transferEntry slotsPerQp queueIndex region transferIndex) := by
  induction count generalizing written with
  | zero =>
      cases h
      exact ⟨rfl, fun _ hNone => absurd hNone (Nat.not_lt_zero _)⟩
  | succ count ih =>
      rw [List.range_succ, List.foldlM_append] at h
      obtain ⟨before, hBefore, hLast⟩ := ok_of_bind h
      rw [List.foldlM_cons] at hLast
      obtain ⟨last, hLast, hSame⟩ := ok_of_bind hLast
      cases hSame
      have hFits : count * kStorageBatchEntryBytes ≤ encoded.length :=
        Nat.le_trans (Nat.mul_le_mul_right _ (Nat.le_succ _)) hRoom
      obtain ⟨hLength, hEarlier⟩ := ih hBefore hFits
      obtain ⟨hSame, hDecoded, hKept⟩ := encodeEntry_decoded hLast (by rw [hLength]; exact hRoom)
      refine ⟨hSame.trans hLength, fun transferIndex hIndex => ?_⟩
      rcases Nat.lt_succ_iff_lt_or_eq.mp hIndex with hLess | rfl
      · rw [hKept transferIndex hLess]
        exact hEarlier transferIndex hLess
      · exact hDecoded

theorem encodeEntries_decoded
    (h : encodeEntries read slotsPerQp queueIndex region = .ok encoded) :
    ∀ transferIndex < transfersPerQp slotsPerQp,
      deserializeEntry read (slice encoded (transferIndex * kStorageBatchEntryBytes)
        kStorageBatchEntryBytes) =
          .ok (transferEntry slotsPerQp queueIndex region transferIndex) := by
  rw [encodeEntries, transferOrder_eq] at h
  exact (encodeRange_decoded h (by rw [List.length_replicate])).2

end Entries

section Blocks

variable {read : Bool} {slotsPerQp queueIndex qpCount transferIndex : Nat}
  {region : StorageMemory} {capacity : UInt64}

/-- The block of a transfer. -/
def blockOf (slotsPerQp queueIndex transferIndex : Nat) : Nat :=
  queueIndex * transfersPerQp slotsPerQp + transferIndex

/-- The working set fits the namespace and is far from wrapping around. -/
structure Fits (qpCount slotsPerQp : Nat) (capacity : UInt64) : Prop where
  small : qpCount * transfersPerQp slotsPerQp < 2 ^ 32
  inside : qpCount * transfersPerQp slotsPerQp * kTransferBytes ≤ capacity.toNat

theorem blockOf_lt (hQueue : queueIndex < qpCount)
    (hTransfer : transferIndex < transfersPerQp slotsPerQp) :
    blockOf slotsPerQp queueIndex transferIndex < qpCount * transfersPerQp slotsPerQp := by
  have hNext : (queueIndex + 1) * transfersPerQp slotsPerQp ≤ qpCount * transfersPerQp slotsPerQp :=
    Nat.mul_le_mul_right _ hQueue
  rw [Nat.succ_mul] at hNext
  unfold blockOf
  omega

/-- The transfers of a slot lie within those of its queue. -/
theorem transfer_lt {bufferSlot entryIndex : Nat} (hSlot : bufferSlot < slotsPerQp)
    (hEntry : entryIndex < kBatchEntries) :
    bufferSlot * kBatchEntries + entryIndex < transfersPerQp slotsPerQp := by
  have hNext : (bufferSlot + 1) * kBatchEntries ≤ slotsPerQp * kBatchEntries :=
    Nat.mul_le_mul_right _ hSlot
  rw [Nat.succ_mul] at hNext
  unfold transfersPerQp
  omega

-- The width of a block is a variable here, so that the kernel does not unfold it.
/-- The offset in machine words is the offset of the block. -/
theorem ofNat_blockOf (slotsPerQp queueIndex transferIndex width : Nat) :
    (UInt64.ofNat queueIndex * UInt64.ofNat (transfersPerQp slotsPerQp) +
      UInt64.ofNat transferIndex) * UInt64.ofNat width =
        UInt64.ofNat (blockOf slotsPerQp queueIndex transferIndex * width) := by
  rw [blockOf, UInt64.ofNat_mul, UInt64.ofNat_add, UInt64.ofNat_mul]

theorem Fits.offset_toNat (h : Fits qpCount slotsPerQp capacity) (hQueue : queueIndex < qpCount)
    (hTransfer : transferIndex < transfersPerQp slotsPerQp) :
    (UInt64.ofNat (blockOf slotsPerQp queueIndex transferIndex * kTransferBytes)).toNat =
      blockOf slotsPerQp queueIndex transferIndex * kTransferBytes := by
  have hBlock := blockOf_lt hQueue hTransfer
  have hSmall := h.small
  have hBytes : kTransferBytes = 262144 := rfl
  have hRoom : blockOf slotsPerQp queueIndex transferIndex * kTransferBytes < 2 ^ 64 := by
    rw [hBytes]
    omega
  exact UInt64.toNat_ofNat_of_lt' hRoom

/-- The entry of a transfer is at the offset of its block. -/
theorem transferEntry_offset (hFits : Fits qpCount slotsPerQp capacity)
    (hQueue : queueIndex < qpCount) (hTransfer : transferIndex < transfersPerQp slotsPerQp)
    (region : StorageMemory) :
    (transferEntry slotsPerQp queueIndex region transferIndex).offset.toNat =
      blockOf slotsPerQp queueIndex transferIndex * kTransferBytes := by
  have hOffset : (transferEntry slotsPerQp queueIndex region transferIndex).offset =
      UInt64.ofNat (blockOf slotsPerQp queueIndex transferIndex * kTransferBytes) :=
    ofNat_blockOf slotsPerQp queueIndex transferIndex kTransferBytes
  rw [hOffset, hFits.offset_toNat hQueue hTransfer]

/-- A block of the working set is within the namespace. -/
theorem transferEntry_inRange (hFits : Fits qpCount slotsPerQp capacity)
    (hQueue : queueIndex < qpCount) (hTransfer : transferIndex < transfersPerQp slotsPerQp)
    (region : StorageMemory) :
    outOfRange capacity (transferEntry slotsPerQp queueIndex region transferIndex).offset
      (transferEntry slotsPerQp queueIndex region transferIndex).length = false := by
  have hOffset := transferEntry_offset hFits hQueue hTransfer region
  have hBlock := blockOf_lt hQueue hTransfer
  have hInside := hFits.inside
  have hLength : (transferEntry slotsPerQp queueIndex region transferIndex).length.toNat =
      262144 := by
    change (UInt64.ofNat kTransferBytes).toNat = 262144
    decide
  have hBytes : kTransferBytes = 262144 := rfl
  rw [hBytes] at hOffset hInside
  have hEnd : (blockOf slotsPerQp queueIndex transferIndex + 1) * 262144 ≤
      qpCount * transfersPerQp slotsPerQp * 262144 := Nat.mul_le_mul_right _ hBlock
  rw [Nat.succ_mul] at hEnd
  have hLe : (transferEntry slotsPerQp queueIndex region transferIndex).offset ≤ capacity :=
    UInt64.le_iff_toNat_le.mpr (by omega)
  simp only [outOfRange, Bool.or_eq_false_iff, decide_eq_false_iff_not, gt_iff_lt, UInt64.not_lt]
  refine ⟨⟨hLe, ?_⟩, ?_⟩
  · rw [UInt64.le_iff_toNat_le, UInt64.toNat_sub_of_le _ _ hLe]
    omega
  · rw [UInt64.le_iff_toNat_le, hLength]
    decide

/-- The requests that the server makes of the entries of one slot. -/
def slotRequests (slotsPerQp queueIndex bufferSlot : Nat) (region : StorageMemory) :
    List TransferRequest :=
  (List.range kBatchEntries).map fun entryIndex =>
    let entry := transferEntry slotsPerQp queueIndex region (bufferSlot * kBatchEntries + entryIndex)
    transferRequest entry.offset entry.length entry.data

/-- The total of the lengths is far from its limit. -/
theorem total_room {index : Nat} (h : index < kBatchEntries) :
    ¬ UInt64.ofNat kTransferBytes > kMaxU64 - UInt64.ofNat (index * kTransferBytes) := by
  change index < 8 at h
  have hTotal : (UInt64.ofNat (index * kTransferBytes)).toNat = index * 262144 :=
    UInt64.toNat_ofNat_of_lt' (by
      change index * 262144 < 2 ^ 64
      omega)
  have hMax : kMaxU64.toNat = 2 ^ 64 - 1 := by decide
  have hBytes : (UInt64.ofNat kTransferBytes).toNat = 262144 := by decide
  rw [gt_iff_lt, UInt64.not_lt, UInt64.le_iff_toNat_le,
    UInt64.toNat_sub_of_le _ _ (UInt64.le_iff_toNat_le.mpr (by omega)), hTotal, hMax, hBytes]
  omega

/-- The walk from an entry on, when the entries before it were accepted. -/
theorem decodeEntries_from (hFits : Fits qpCount slotsPerQp capacity)
    (hQueue : queueIndex < qpCount) {bufferSlot remaining index : Nat} {entryBytes : Buffer}
    (hSlot : bufferSlot < slotsPerQp)
    (hEntries : ∀ entryIndex < kBatchEntries,
      deserializeEntry read (slice entryBytes (entryIndex * kStorageBatchEntryBytes)
        kStorageBatchEntryBytes) =
        .ok (transferEntry slotsPerQp queueIndex region (bufferSlot * kBatchEntries + entryIndex)))
    (hIndex : index + remaining = kBatchEntries) :
    decodeEntries capacity read entryBytes remaining index (UInt64.ofNat (index * kTransferBytes))
      ((slotRequests slotsPerQp queueIndex bufferSlot region).take index) =
      (.success, UInt64.ofNat (kBatchEntries * kTransferBytes),
        slotRequests slotsPerQp queueIndex bufferSlot region) := by
  induction remaining generalizing index with
  | zero =>
      rw [Nat.add_zero] at hIndex
      subst hIndex
      rw [decodeEntries, List.take_of_length_le (by simp [slotRequests])]
  | succ remaining ih =>
      have hLess : index < kBatchEntries := by omega
      have hRange := transferEntry_inRange hFits hQueue (transfer_lt hSlot hLess) region
      have hRoom : ¬ (transferEntry slotsPerQp queueIndex region
          (bufferSlot * kBatchEntries + index)).length > kMaxU64 -
            UInt64.ofNat (index * kTransferBytes) := total_room hLess
      have hSum : UInt64.ofNat (index * kTransferBytes) + (transferEntry slotsPerQp queueIndex
          region (bufferSlot * kBatchEntries + index)).length =
          UInt64.ofNat ((index + 1) * kTransferBytes) := by
        rw [Nat.succ_mul, UInt64.ofNat_add]
        rfl
      have hNext := @ih (index + 1) (by omega)
      rw [List.take_add_one, slotRequests, List.getElem?_map, List.getElem?_range hLess] at hNext
      rw [decodeEntries, hEntries index hLess]
      dsimp only
      rw [hRange, if_neg (by simpa using hRoom), hSum]
      exact hNext

/-- The walk over the entries of a slot accepts all of them. -/
theorem decodeEntries_slot (hFits : Fits qpCount slotsPerQp capacity)
    (hQueue : queueIndex < qpCount) {bufferSlot : Nat} {entryBytes : Buffer}
    (hSlot : bufferSlot < slotsPerQp)
    (hEntries : ∀ entryIndex < kBatchEntries,
      deserializeEntry read (slice entryBytes (entryIndex * kStorageBatchEntryBytes)
        kStorageBatchEntryBytes) =
        .ok (transferEntry slotsPerQp queueIndex region (bufferSlot * kBatchEntries + entryIndex))) :
    decodeEntries capacity read entryBytes kBatchEntries 0 0 [] =
      (.success, UInt64.ofNat (kBatchEntries * kTransferBytes),
        slotRequests slotsPerQp queueIndex bufferSlot region) :=
  decodeEntries_from hFits hQueue hSlot hEntries (Nat.zero_add _)

/-- One request of the working set: a block and the memory of the queue that it goes with. -/
def plannedRequest (slotsPerQp queueIndex : Nat) (region : StorageMemory) (transferIndex : Nat) :
    TransferRequest where
  localOffset := UInt64.ofNat (blockOf slotsPerQp queueIndex transferIndex * kTransferBytes)
  remoteAddress := region.address + UInt64.ofNat (transferIndex * kTransferBytes)
  remoteKey := region.remoteKey
  length := UInt32.ofNat kTransferBytes

/-- The working set, queue after queue and block after block. -/
def workingSet (queues : List QueueResources) (slotsPerQp : Nat) : List TransferRequest :=
  (List.range queues.length).flatMap fun queueIndex =>
    queues[queueIndex]?.toList.flatMap fun queue =>
      (List.range (transfersPerQp slotsPerQp)).map
        (plannedRequest slotsPerQp queueIndex queue.region)

theorem transferRequest_entry {offset length address size : UInt64} {key : UInt32}
    {entry : StorageBatchEntry} (h : entry = ⟨offset, length, ⟨address, size, key⟩⟩) :
    transferRequest entry.offset entry.length entry.data =
      ⟨offset, address, key, length.toUInt32⟩ := by
  rw [h]
  rfl

/-- The requests of a slot are the planned ones. -/
theorem slotRequests_planned (slotsPerQp queueIndex bufferSlot : Nat) (region : StorageMemory) :
    slotRequests slotsPerQp queueIndex bufferSlot region =
      (List.range kBatchEntries).map fun entryIndex =>
        plannedRequest slotsPerQp queueIndex region (bufferSlot * kBatchEntries + entryIndex) := by
  have hLength : (UInt64.ofNat kTransferBytes).toUInt32 = UInt32.ofNat kTransferBytes := by decide
  unfold slotRequests
  apply List.map_congr_left
  intro entryIndex _
  rw [transferRequest_entry (transferEntry.eq_def ..), ofNat_blockOf, hLength, plannedRequest]

/-- Over all turns of a queue, its slots make up the blocks of the queue. -/
theorem slotRequests_queue (slotsPerQp queueIndex : Nat) (region : StorageMemory) :
    ((List.range slotsPerQp).flatMap fun bufferSlot =>
      slotRequests slotsPerQp queueIndex bufferSlot region) =
      (List.range (transfersPerQp slotsPerQp)).map
        (plannedRequest slotsPerQp queueIndex region) := by
  rw [← transferOrder_eq, transferOrder, List.map_flatMap]
  apply List.flatMap_congr
  intro bufferSlot _
  rw [slotRequests_planned, List.map_map]
  rfl

theorem workingSet_offsets {queues : List QueueResources}
    (hFits : Fits queues.length slotsPerQp capacity) :
    (workingSet queues slotsPerQp).map (fun request => request.localOffset.toNat) =
      (List.range (queues.length * transfersPerQp slotsPerQp)).map (· * kTransferBytes) := by
  rw [range_mul_map, workingSet, List.map_flatMap]
  apply List.flatMap_congr
  intro queueIndex hQueue
  have hInside := List.mem_range.mp hQueue
  rw [List.getElem?_eq_getElem hInside, Option.toList_some, List.flatMap_singleton, List.map_map]
  apply List.map_congr_left
  intro transferIndex hTransfer
  rw [Function.comp_apply, plannedRequest, hFits.offset_toNat hInside (List.mem_range.mp hTransfer),
    blockOf]

end Blocks

end NdsStorage.System.Benchmark
