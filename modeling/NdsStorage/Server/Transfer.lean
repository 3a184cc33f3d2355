import Mathlib.Algebra.Ring.Nat
import NdsStorage.Server.Completion

/-! What a command moves. The transfers a client describes are stated over the
integers, and the worker's mixed 32- and 64-bit arithmetic is compared with
them. A second copy of the checks refuses to wrap, underflow, truncate or read
past a buffer; it computes the same verdicts, so the worker never does either. -/
namespace NdsStorage.Server

open Bytes Interaction

/-- A range inside the namespace whose length fits a work request. -/
def inNamespace (size offset length : UInt64) : Prop :=
  offset.toNat + length.toNat ≤ size.toNat ∧ length.toNat ≤ 2 ^ 32 - 1

instance (size offset length : UInt64) : Decidable (inNamespace size offset length) :=
  inferInstanceAs (Decidable (_ ∧ _))

/-- The range check, as numbers. -/
theorem outOfRange_iff {size offset length : UInt64} :
    outOfRange size offset length = false ↔ inNamespace size offset length := by
  have hOffset : offset ≤ size → (size - offset).toNat = size.toNat - offset.toNat :=
    UInt64.toNat_sub_of_le size offset
  simp only [outOfRange, inNamespace, Bool.or_eq_false_iff, decide_eq_false_iff_not, gt_iff_lt,
    UInt64.not_lt]
  constructor
  · rintro ⟨⟨hInside, hRest⟩, hWidth⟩
    rw [UInt64.le_iff_toNat_le, hOffset hInside] at hRest
    have hInside' := UInt64.le_iff_toNat_le.mp hInside
    exact ⟨by omega, UInt64.le_iff_toNat_le.mp hWidth⟩
  · rintro ⟨hInside, hWidth⟩
    have hStart : offset ≤ size := UInt64.le_iff_toNat_le.mpr (by omega)
    refine ⟨⟨hStart, ?_⟩, UInt64.le_iff_toNat_le.mpr hWidth⟩
    rw [UInt64.le_iff_toNat_le, hOffset hStart]
    omega

section Description

/-- The entry at a position of the client's descriptor array. -/
def entryAt (storageRead : Bool) (descriptors : Buffer) (index : Nat) :
    Except SerdeError StorageBatchEntry :=
  deserializeEntry storageRead
    (slice descriptors (index * kStorageBatchEntryBytes) kStorageBatchEntryBytes)

/-- The first entries of the array from a position on, if all of them decode. -/
def entriesFrom (storageRead : Bool) (descriptors : Buffer) :
    (count index : Nat) → Option (List StorageBatchEntry)
  | 0, _ => some []
  | count + 1, index =>
      match entryAt storageRead descriptors index,
          entriesFrom storageRead descriptors count (index + 1) with
      | .ok entry, some entries => some (entry :: entries)
      | _, _ => none

/-- The number of bytes a list of transfers moves. -/
def totalBytes (entries : List StorageBatchEntry) : Nat :=
  (entries.map fun entry => entry.length.toNat).sum

/-- A single transfer describes itself, when it fits. -/
def describedTransfer (size : UInt64) (decoded : Except SerdeError StorageTransferCommand) :
    Option (List StorageBatchEntry) :=
  match decoded with
  | .error _ => none
  | .ok command =>
      if inNamespace size command.offset command.length then
        some [{ offset := command.offset, length := command.length, data := command.data }]
      else
        none

/-- A batch describes its entries, when all of them decode and fit and their
lengths add up to the announced total. -/
def describedBatch (size : UInt64) (storageRead : Bool) (descriptors : Buffer)
    (decoded : Except SerdeError StorageBatchCommand) : Option (List StorageBatchEntry) :=
  match decoded with
  | .error _ => none
  | .ok command =>
      match entriesFrom storageRead descriptors command.entryCount.toNat 0 with
      | none => none
      | some entries =>
          if (∀ entry ∈ entries, inNamespace size entry.offset entry.length) ∧
              totalBytes entries = command.totalLength.toNat then
            some entries
          else
            none

/-- The transfers a command message asks for, over the integers; `none` when
the command must not move anything. -/
def described (size : UInt64) (message descriptors : Buffer) : Option (List StorageBatchEntry) :=
  match deserializeStorageOperation message with
  | .error _ => none
  | .ok .read => describedTransfer size (deserializeStorageRead message)
  | .ok .write => describedTransfer size (deserializeStorageWrite message)
  | .ok .batchRead =>
      describedBatch size true descriptors (deserializeStorageBatchRead message)
  | .ok .batchWrite =>
      describedBatch size false descriptors (deserializeStorageBatchWrite message)

/-- The work request of a described transfer. -/
def entryRequest (entry : StorageBatchEntry) : TransferRequest :=
  transferRequest entry.offset entry.length entry.data

end Description

section Walk

variable {size : UInt64} {storageRead : Bool} {bytes : Buffer}

theorem entriesFrom_cons {count index : Nat} {entries : List StorageBatchEntry}
    (h : entriesFrom storageRead bytes (count + 1) index = some entries) :
    ∃ entry rest, entries = entry :: rest ∧ entryAt storageRead bytes index = .ok entry ∧
      entriesFrom storageRead bytes count (index + 1) = some rest := by
  simp only [entriesFrom] at h
  split at h
  · rename_i entry rest hEntry hRest
    cases h
    exact ⟨entry, rest, rfl, hEntry, hRest⟩
  · cases h

/-- As many entries are read as are asked for. -/
theorem entriesFrom_length {count index : Nat} {entries : List StorageBatchEntry}
    (h : entriesFrom storageRead bytes count index = some entries) : entries.length = count := by
  induction count generalizing index entries with
  | zero =>
      cases h
      rfl
  | succ count ih =>
      obtain ⟨entry, rest, rfl, -, hRest⟩ := entriesFrom_cons h
      exact congrArg Nat.succ (ih hRest)

/-- A walk that ends well has seen every entry decode and fit. -/
theorem decodeEntries_success {remaining index : Nat} {total : UInt64}
    {requests : List TransferRequest}
    (h : (decodeEntries size storageRead bytes remaining index total requests).1 = .success) :
    ∃ entries, entriesFrom storageRead bytes remaining index = some entries ∧
      ∀ entry ∈ entries, inNamespace size entry.offset entry.length := by
  induction remaining generalizing index total requests with
  | zero => exact ⟨[], rfl, by simp⟩
  | succ remaining ih =>
      simp only [decodeEntries] at h
      split at h
      · cases h
      · rename_i entry hEntry
        split at h
        · cases h
        · rename_i hRange
          simp only [Bool.not_eq_true, Bool.or_eq_false_iff] at hRange
          obtain ⟨entries, hEntries, hFit⟩ := ih h
          refine ⟨entry :: entries, ?_, List.forall_mem_cons.mpr
            ⟨outOfRange_iff.mp hRange.1, hFit⟩⟩
          have hHere : entryAt storageRead bytes index = .ok entry := hEntry
          rw [entriesFrom, hHere, hEntries]

/-- Entries that decode and fit are all turned into requests. Each length is
below 2^32 and there are at most 1024 of them, so the sum cannot wrap and its
overflow check never fires. -/
theorem decodeEntries_fit {remaining index : Nat} (total : UInt64)
    (requests : List TransferRequest) {entries : List StorageBatchEntry}
    (hEntries : entriesFrom storageRead bytes remaining index = some entries)
    (hFit : ∀ entry ∈ entries, inNamespace size entry.offset entry.length)
    (hCount : index + remaining ≤ kStorageMaxBatchEntries)
    (hTotal : total.toNat ≤ index * (2 ^ 32 - 1)) :
    ∃ sum : UInt64, sum.toNat = total.toNat + totalBytes entries ∧
      decodeEntries size storageRead bytes remaining index total requests =
        (.success, sum, requests ++ entries.map entryRequest) := by
  induction remaining generalizing index total requests entries with
  | zero =>
      cases hEntries
      exact ⟨total, rfl, by rw [List.map_nil, List.append_nil]; rfl⟩
  | succ remaining ih =>
      obtain ⟨entry, rest, rfl, hEntry, hRest⟩ := entriesFrom_cons hEntries
      obtain ⟨hHere, hLater⟩ := List.forall_mem_cons.mp hFit
      have hLength := hHere.2
      have hBound : index * (2 ^ 32 - 1) + (2 ^ 32 - 1) = (index + 1) * (2 ^ 32 - 1) :=
        (Nat.succ_mul ..).symm
      have hSmall : (index + 1) * (2 ^ 32 - 1) ≤ kStorageMaxBatchEntries * (2 ^ 32 - 1) :=
        Nat.mul_le_mul_right _ (by omega)
      have hLimit : kStorageMaxBatchEntries * (2 ^ 32 - 1) < 2 ^ 64 := by decide
      have hSum : (total + entry.length).toNat = total.toNat + entry.length.toNat := by
        rw [UInt64.toNat_add]
        exact Nat.mod_eq_of_lt (by omega)
      have hMax : kMaxU64.toNat = 2 ^ 64 - 1 := rfl
      have hRoom : ¬ entry.length > kMaxU64 - total := by
        rw [gt_iff_lt, UInt64.lt_iff_toNat_lt, UInt64.toNat_sub_of_le _ _
          (UInt64.le_iff_toNat_le.mpr (by omega))]
        omega
      obtain ⟨sum, hSum', hWalk⟩ := ih (total + entry.length)
        (requests ++ [entryRequest entry]) hRest hLater (by omega) (by omega)
      refine ⟨sum, ?_, ?_⟩
      · rw [hSum', hSum, totalBytes, totalBytes, List.map_cons, List.sum_cons, Nat.add_assoc]
      · have hDecoded : deserializeEntry storageRead (slice bytes
            (index * kStorageBatchEntryBytes) kStorageBatchEntryBytes) = .ok entry := hEntry
        simp only [decodeEntries, hDecoded, outOfRange_iff.mpr hHere, hRoom, decide_false,
          Bool.or_false, Bool.false_eq_true, if_false]
        rw [show transferRequest entry.offset entry.length entry.data = entryRequest entry from rfl,
          hWalk, List.append_assoc, List.map_cons, List.singleton_append]

end Walk

section Exact

/-- Subtraction that refuses to underflow. -/
def subExact (left right : UInt64) : Option UInt64 :=
  if right.toNat ≤ left.toNat then some (left - right) else none

/-- Addition that refuses to wrap. -/
def addExact (left right : UInt64) : Option UInt64 :=
  if left.toNat + right.toNat < 2 ^ 64 then some (left + right) else none

/-- A cast that refuses to truncate. -/
def narrowExact (value : UInt64) : Option UInt32 :=
  if value.toNat < 2 ^ 32 then some value.toUInt32 else none

/-- A slice that refuses to leave its buffer. -/
def sliceExact (bytes : Buffer) (position width : Nat) : Option Buffer :=
  if position + width ≤ bytes.length then some (slice bytes position width) else none

/-- The range check, whose subtraction is only reached for offsets inside the namespace. -/
def outOfRangeExact (size offset length : UInt64) : Option Bool :=
  if offset > size then some true
  else do
    let rest ← subExact size offset
    pure (length > rest || length > kMaxU32)

def transferRequestExact (offset length : UInt64) (data : StorageMemory) :
    Option TransferRequest := do
  let length ← narrowExact length
  pure {
    localOffset := offset
    remoteAddress := data.address
    remoteKey := data.remoteKey
    length := length }

/-- The check of a single transfer and, when it passes, its request. -/
def singleRequestsExact (size : UInt64) (command : StorageTransferCommand) :
    Option (List TransferRequest) := do
  let outside ← outOfRangeExact size command.offset command.length
  if outside then
    pure []
  else
    let request ← transferRequestExact command.offset command.length command.data
    pure [request]

/-- The walk over the descriptors in exact arithmetic. -/
def decodeEntriesExact (size : UInt64) (storageRead : Bool) (entryBytes : Buffer) :
    (remaining index : Nat) → UInt64 → List TransferRequest →
      Option (StorageStatus × UInt64 × List TransferRequest)
  | 0, _, total, requests => some (.success, total, requests)
  | remaining + 1, index, total, requests => do
      let bytes ← sliceExact entryBytes (index * kStorageBatchEntryBytes) kStorageBatchEntryBytes
      match deserializeEntry storageRead bytes with
      | .error _ => some (.invalidCommand, total, requests)
      | .ok entry =>
          let outside ← outOfRangeExact size entry.offset entry.length
          let left ← subExact kMaxU64 total
          if outside || entry.length > left then
            some (.rangeError, total, requests)
          else
            let sum ← addExact total entry.length
            let request ← transferRequestExact entry.offset entry.length entry.data
            decodeEntriesExact size storageRead entryBytes remaining (index + 1) sum
              (requests ++ [request])

theorem outOfRangeExact_eq (size offset length : UInt64) :
    outOfRangeExact size offset length = some (outOfRange size offset length) := by
  unfold outOfRangeExact outOfRange
  by_cases hOffset : offset > size
  · rw [if_pos hOffset]
    simp [hOffset]
  · have hInside : offset.toNat ≤ size.toNat :=
      UInt64.le_iff_toNat_le.mp (UInt64.not_lt.mp hOffset)
    rw [if_neg hOffset, subExact, if_pos hInside]
    simp [hOffset]

/-- A request whose length fits is built without loss. -/
theorem transferRequestExact_eq {length : UInt64} (h : length.toNat ≤ 2 ^ 32 - 1)
    (offset : UInt64) (data : StorageMemory) :
    transferRequestExact offset length data = some (transferRequest offset length data) := by
  rw [transferRequestExact, narrowExact, if_pos (by omega)]
  rfl

theorem singleRequestsExact_eq (size : UInt64) (storageRead : Bool) (slot : Nat)
    (command : StorageTransferCommand) :
    singleRequestsExact size command =
      some (acceptTransfer size storageRead command { slot := slot }).requests := by
  simp only [singleRequestsExact, outOfRangeExact_eq, Option.bind_eq_bind, Option.bind_some,
    acceptTransfer]
  by_cases hRange : outOfRange size command.offset command.length = true
  · rw [if_pos hRange, if_pos hRange]
    rfl
  · have hFit := outOfRange_iff.mp (Bool.not_eq_true _ ▸ hRange)
    rw [if_neg hRange, if_neg hRange, transferRequestExact_eq hFit.2]
    rfl

/-- The walk never leaves the slot's buffer, underflows, wraps or truncates. -/
theorem decodeEntriesExact_eq {size : UInt64} {storageRead : Bool} {entryBytes : Buffer}
    {remaining index : Nat} {total : UInt64} {requests : List TransferRequest}
    (h : (index + remaining) * kStorageBatchEntryBytes ≤ entryBytes.length) :
    decodeEntriesExact size storageRead entryBytes remaining index total requests =
      some (decodeEntries size storageRead entryBytes remaining index total requests) := by
  induction remaining generalizing index total requests with
  | zero => rfl
  | succ remaining ih =>
      have hInside : index * kStorageBatchEntryBytes + kStorageBatchEntryBytes ≤
          entryBytes.length := by
        rw [← Nat.succ_mul]
        exact Nat.le_trans (Nat.mul_le_mul_right _ (by omega)) h
      have hMax : kMaxU64.toNat = 2 ^ 64 - 1 := rfl
      have hTotal : total.toNat ≤ kMaxU64.toNat := by
        have := total.toNat_lt
        omega
      have hLeft : subExact kMaxU64 total = some (kMaxU64 - total) := if_pos hTotal
      simp only [decodeEntriesExact, decodeEntries, sliceExact, if_pos hInside,
        Option.bind_eq_bind, Option.bind_some, outOfRangeExact_eq, hLeft]
      cases deserializeEntry storageRead (slice entryBytes
          (index * kStorageBatchEntryBytes) kStorageBatchEntryBytes) with
      | error reason => rfl
      | ok entry =>
          dsimp only
          by_cases hRange : (outOfRange size entry.offset entry.length ||
              decide (entry.length > kMaxU64 - total)) = true
          · rw [if_pos hRange, if_pos hRange]
          · rw [if_neg hRange, if_neg hRange]
            simp only [Bool.not_eq_true, Bool.or_eq_false_iff, decide_eq_false_iff_not, gt_iff_lt,
              UInt64.not_lt] at hRange
            have hRoom := UInt64.le_iff_toNat_le.mp hRange.2
            rw [UInt64.toNat_sub_of_le _ _ (UInt64.le_iff_toNat_le.mpr hTotal)] at hRoom
            rw [addExact, if_pos (by omega), Option.bind_some,
              transferRequestExact_eq (outOfRange_iff.mp hRange.1).2, Option.bind_some]
            exact ih (by rw [Nat.add_right_comm]; exact h)

end Exact

/-- A settled command agrees with what the client described: it succeeds if
and only if something valid was described, and then it moves exactly that. -/
structure Verdict (description : Option (List StorageBatchEntry)) (state : PendingCommand) :
    Prop where
  success_iff : state.completion.status = .success ↔ description.isSome
  requests_eq : ∀ entries, description = some entries →
    state.requests = entries.map entryRequest
  bytes_eq : state.completion.bytesTransferred.toNat = (description.map totalBytes).getD 0

section Verdicts

variable {size : UInt64} {storageRead : Bool} {descriptors : Buffer}

theorem acceptTransfer_verdict (slot : Nat) (command : StorageTransferCommand) :
    Verdict (describedTransfer size (.ok command))
      (acceptTransfer size storageRead command { slot := slot }) := by
  by_cases hFit : inNamespace size command.offset command.length
  · have hDescribed : describedTransfer size (.ok command) = some
        [{ offset := command.offset, length := command.length, data := command.data }] :=
      if_pos hFit
    simp only [hDescribed, acceptTransfer, outOfRange_iff.mpr hFit]
    refine ⟨by simp, ?_, by simp [totalBytes]⟩
    rintro entries hEntries
    cases hEntries
    rfl
  · have hDescribed : describedTransfer size (.ok command) = none := if_neg hFit
    have hRange : outOfRange size command.offset command.length = true := by
      rw [← Bool.not_eq_false, outOfRange_iff]
      exact hFit
    simp only [hDescribed, acceptTransfer, hRange]
    exact ⟨by simp, by simp, rfl⟩

theorem decodeBatch_verdict {slot : Nat} {command : StorageBatchCommand}
    (hBounded : batchBounded command) :
    Verdict (describedBatch size storageRead descriptors (.ok command))
      (decodeBatch size (acceptBatch storageRead command { slot := slot }) descriptors) := by
  obtain ⟨hNarrow, hCount⟩ := entryCount_le hBounded
  have hVerdict : batchVerdict size (acceptBatch storageRead command { slot := slot })
      descriptors =
      let walk := decodeEntries size storageRead descriptors command.entryCount.toNat 0 0 []
      if walk.1 = .success ∧ walk.2.1 ≠ command.totalLength then
        (.invalidCommand, walk.2.1, walk.2.2)
      else (walk.1, walk.2.1, walk.2.2) := by
    rw [← hNarrow]
    rfl
  -- A walk that fails settles the batch; one that succeeds leaves the comparison of the totals.
  by_cases hSuccess : (decodeEntries size storageRead descriptors
      command.entryCount.toNat 0 0 []).1 = .success
  · obtain ⟨entries, hEntries, hFit⟩ := decodeEntries_success hSuccess
    obtain ⟨sum, hSum, hWalk⟩ := decodeEntries_fit 0 [] hEntries hFit (by omega) (Nat.zero_le _)
    rw [UInt64.toNat_zero, Nat.zero_add] at hSum
    simp only [hWalk, List.nil_append, true_and] at hVerdict
    by_cases hTotal : totalBytes entries = command.totalLength.toNat
    · have hSame : sum = command.totalLength := UInt64.toNat_inj.mp (hSum.trans hTotal)
      have hDescribed : describedBatch size storageRead descriptors (.ok command) =
          some entries := by
        simp only [describedBatch, hEntries]
        exact if_pos ⟨hFit, hTotal⟩
      rw [if_neg (by simp [hSame])] at hVerdict
      simp only [hDescribed, decodeBatch, hVerdict]
      refine ⟨by simp, ?_, by simpa using hSum⟩
      rintro entries' hEntries'
      cases hEntries'
      rfl
    · have hDiffer : sum ≠ command.totalLength := by
        rintro rfl
        exact hTotal hSum.symm
      have hDescribed : describedBatch size storageRead descriptors (.ok command) = none := by
        simp only [describedBatch, hEntries]
        exact if_neg fun h => hTotal h.2
      rw [if_pos hDiffer] at hVerdict
      simp only [hDescribed, decodeBatch, hVerdict]
      exact ⟨by simp, by simp, rfl⟩
  · have hDescribed : describedBatch size storageRead descriptors (.ok command) = none := by
      simp only [describedBatch]
      split
      · rfl
      · rename_i entries hEntries
        refine if_neg fun h => hSuccess ?_
        obtain ⟨sum, -, hWalk⟩ := decodeEntries_fit 0 [] hEntries h.1 (by omega) (Nat.zero_le _)
        rw [hWalk]
    simp only [hSuccess, false_and, if_false] at hVerdict
    simp only [hDescribed, decodeBatch, hVerdict, hSuccess, if_false]
    exact ⟨by simp [hSuccess], by simp, rfl⟩

/-- Every described transfer lies inside the namespace and fits a work request. -/
theorem described_fit {message : Buffer} {entries : List StorageBatchEntry}
    (h : described size message descriptors = some entries) :
    ∀ entry ∈ entries, inNamespace size entry.offset entry.length := by
  have hTransfer : ∀ decoded, describedTransfer size decoded = some entries →
      ∀ entry ∈ entries, inNamespace size entry.offset entry.length := by
    intro decoded hDecoded
    simp only [describedTransfer] at hDecoded
    split at hDecoded
    · cases hDecoded
    · obtain ⟨hFit, hSame⟩ := Option.ite_none_right_eq_some.mp hDecoded
      cases hSame
      simpa using hFit
  have hBatch : ∀ storageRead decoded,
      describedBatch size storageRead descriptors decoded = some entries →
      ∀ entry ∈ entries, inNamespace size entry.offset entry.length := by
    intro storageRead decoded hDecoded
    simp only [describedBatch] at hDecoded
    split at hDecoded
    · cases hDecoded
    · split at hDecoded
      · cases hDecoded
      · obtain ⟨hFit, hSame⟩ := Option.ite_none_right_eq_some.mp hDecoded
        cases hSame
        exact hFit.1
  unfold described at h
  split at h
  · cases h
  · exact hTransfer _ h
  · exact hTransfer _ h
  · exact hBatch _ _ h
  · exact hBatch _ _ h

end Verdicts

section Commands

variable {operation : StorageOperation} {message : Buffer}

/-- A command only decodes under the operation its header names. -/
theorem deserializeCommand_operation {access : UInt32} {command : StorageTransferCommand}
    (h : deserializeCommand operation access message = .ok command) :
    deserializeStorageOperation message = .ok operation := by
  unfold deserializeCommand at h
  split at h
  · cases h
  · rename_i hLength
    split at h
    · cases h
    · rename_i hHeader
      simp only [not_or, Decidable.not_not] at hHeader
      obtain ⟨hMagic, hVersion, hCode, -⟩ := hHeader
      rw [deserializeStorageOperation, if_neg hLength, if_neg (by simp [hMagic, hVersion]), hCode,
        StorageOperation.ofCode_code]

/-- What an accepted command ends as is determined by its description. -/
theorem resolved_verdict {workload : Workload} {command : Nat}
    {parsed : PendingCommand × Option StorageMemory}
    (hParsed : workload.parsed command = .ok parsed) :
    Verdict (described workload.session.storageSize (workload.traffic.message command)
        (workload.traffic.descriptors command)) (workload.resolved command) ∧
      ∃ operation, deserializeStorageOperation (workload.traffic.message command) =
          .ok operation ∧ (workload.resolved command).storageRead = operation.isRead := by
  obtain ⟨state, entries⟩ := parsed
  rcases parseCommand_cases hParsed with ⟨operation, decoded, hKind, hDecoded, -, rfl, rfl⟩ |
    ⟨operation, decoded, hKind, hDecoded, -, rfl, rfl⟩
  · have hOperation := deserializeCommand_operation (deserializeTransfer_ok hDecoded).1
    have hResolved : workload.resolved command = acceptTransfer workload.session.storageSize
        operation.isRead decoded { slot := workload.slotOf command } :=
      Workload.resolved_single hParsed
    have hDescribed : described workload.session.storageSize (workload.traffic.message command)
        (workload.traffic.descriptors command) =
        describedTransfer workload.session.storageSize (.ok decoded) := by
      rw [described, hOperation]
      rcases hKind with rfl | rfl
      · exact congrArg (describedTransfer _) hDecoded
      · exact congrArg (describedTransfer _) hDecoded
    rw [hDescribed, hResolved]
    refine ⟨acceptTransfer_verdict _ decoded, operation, hOperation, ?_⟩
    unfold acceptTransfer
    dsimp only
    split
    · rfl
    · rfl
  · obtain ⟨hCommand, hBounded⟩ := deserializeBatch_ok hDecoded
    have hOperation := deserializeCommand_operation hCommand
    have hResolved : workload.resolved command = decodeBatch workload.session.storageSize
        (acceptBatch operation.isRead decoded { slot := workload.slotOf command })
        (workload.traffic.descriptors command) := Workload.resolved_batch hParsed
    have hDescribed : described workload.session.storageSize (workload.traffic.message command)
        (workload.traffic.descriptors command) =
        describedBatch workload.session.storageSize operation.isRead
          (workload.traffic.descriptors command) (.ok decoded) := by
      rw [described, hOperation]
      rcases hKind with rfl | rfl
      · exact congrArg (describedBatch _ true _) hDecoded
      · exact congrArg (describedBatch _ false _) hDecoded
    rw [hDescribed, hResolved]
    exact ⟨decodeBatch_verdict hBounded, operation, hOperation, rfl⟩

end Commands

/-- The payload an event posts, if it does. -/
def Event.payload? : Event → Option (TransferOpcode × List TransferRequest)
  | .payloadPosted opcode requests => some (opcode, requests)
  | _ => none

/-- The payload of a command is posted once if it is accepted. -/
theorem payloadEvents_payload (state : PendingCommand) :
    (payloadEvents state).filterMap Event.payload? =
      if state.completion.status = .success then
        [(payloadOpcode state.storageRead, state.requests)]
      else [] := by
  unfold payloadEvents
  split
  · rfl
  · rfl

/-- Of an accepted command, the payload is posted once if it is valid and else never. -/
theorem settledEvents_payload {workload : Workload} {command : Nat}
    {parsed : PendingCommand × Option StorageMemory}
    (hParsed : workload.parsed command = .ok parsed) :
    (workload.settledEvents command).filterMap Event.payload? =
      if (workload.resolved command).completion.status = .success then
        [(payloadOpcode (workload.resolved command).storageRead,
          (workload.resolved command).requests)]
      else [] := by
  have hWaited : (if (workload.resolved command).completion.status = .success
      then [Event.payloadWaited] else []).filterMap Event.payload? = [] := by
    split
    · rfl
    · rfl
  obtain ⟨state, entries⟩ := parsed
  rw [← payloadEvents_payload]
  cases entries with
  | none =>
      have hSame : workload.resolved command = state := Workload.resolved_single hParsed
      simp only [Workload.settledEvents, Workload.resolvedEvents, Workload.admittedEvents,
        Workload.loadedEvents, hParsed, List.filterMap_append, hWaited, List.append_nil]
      rw [hSame]
      rfl
  | some entries =>
      simp only [Workload.settledEvents, Workload.resolvedEvents, Workload.admittedEvents,
        Workload.loadedEvents, hParsed, List.filterMap_append, hWaited, List.append_nil]
      rfl

section Runs

variable {workload : Workload} {program : Program Call Call.Answer (Except Error Unit)}
  {fabric : Fabric} {command : Nat}

/-- A plan only has a payload for an accepted command. -/
theorem planned_payload {opcode : TransferOpcode} {requests : List TransferRequest}
    (h : .payloadPosted opcode requests ∈ workload.completedEvents command) :
    ∃ parsed, workload.parsed command = .ok parsed ∧
      (workload.resolved command).completion.status = .success ∧
      opcode = payloadOpcode (workload.resolved command).storageRead ∧
      requests = (workload.resolved command).requests := by
  have hSettled := workload.completedEvents_cases command h (by simp [Event.completion?])
  cases hParsed : workload.parsed command with
  | error error =>
      simp only [Workload.settledEvents, Workload.resolvedEvents, Workload.admittedEvents,
        Workload.loadedEvents, hParsed, List.append_nil, List.mem_append] at hSettled
      rcases hSettled with hSettled | hSettled
      · simp at hSettled
      · split at hSettled
        · simp at hSettled
        · simp at hSettled
  | ok parsed =>
      have hPayload : (opcode, requests) ∈
          (workload.settledEvents command).filterMap Event.payload? :=
        List.mem_filterMap.mpr ⟨_, hSettled, rfl⟩
      rw [settledEvents_payload hParsed] at hPayload
      split at hPayload
      · rename_i hSuccess
        obtain ⟨hOpcode, hRequests⟩ := Prod.mk.inj (List.mem_singleton.mp hPayload)
        exact ⟨parsed, rfl, hSuccess, hOpcode, hRequests⟩
      · simp at hPayload

/-- The payload of a plan is what the command describes. -/
theorem planned_described {opcode : TransferOpcode} {requests : List TransferRequest}
    (h : .payloadPosted opcode requests ∈ workload.completedEvents command) :
    ∃ operation entries,
      deserializeStorageOperation (workload.traffic.message command) = .ok operation ∧
      described workload.session.storageSize (workload.traffic.message command)
        (workload.traffic.descriptors command) = some entries ∧
      opcode = payloadOpcode operation.isRead ∧ requests = entries.map entryRequest ∧
      ∀ entry ∈ entries, (entryRequest entry).length.toNat = entry.length.toNat := by
  obtain ⟨parsed, hParsed, hSuccess, hOpcode, hRequests⟩ := planned_payload h
  obtain ⟨hVerdict, operation, hOperation, hRead⟩ := resolved_verdict hParsed
  obtain ⟨entries, hEntries⟩ := Option.isSome_iff_exists.mp (hVerdict.success_iff.mp hSuccess)
  refine ⟨operation, entries, hOperation, hEntries, hRead ▸ hOpcode,
    hRequests.trans (hVerdict.requests_eq entries hEntries), ?_⟩
  intro entry hEntry
  have hWidth := (described_fit hEntries entry hEntry).2
  rw [entryRequest, transferRequest, UInt64.toNat_toUInt32]
  exact Nat.mod_eq_of_lt (by omega)

/-- When a command is answered its payload posts are complete. -/
theorem history_payload (hInvariant : RunInvariant workload fabric) {address : UInt64}
    {key length : UInt32} {bytes : Buffer}
    (h : .completionPosted address key length bytes ∈ fabric.history command) :
    (fabric.history command).filterMap Event.payload? =
      (workload.settledEvents command).filterMap Event.payload? := by
  have hPlanned := hInvariant.planned command
  obtain ⟨parsed, hParsed⟩ := workload.accepted_of_answered command (hPlanned.subset h)
  obtain ⟨before, after, hSplit⟩ := List.append_of_mem h
  have hBefore := workload.settled_of_split command (hSplit ▸ hPlanned)
  have hLong : workload.settledEvents command <+: fabric.history command := by
    rw [hSplit, hBefore]
    exact List.prefix_append ..
  have hShort := hPlanned.filterMap Event.payload?
  have hRest : [workload.completionEvent command, .completionWaited].filterMap Event.payload? =
      [] := rfl
  rw [workload.completedEvents_eq command hParsed, List.filterMap_append, hRest,
    List.append_nil] at hShort
  exact hShort.eq_of_length_le (hLong.filterMap Event.payload?).length_le

/-- The record that answers a command is the one its plan calls for. -/
theorem completion_eq (hInvariant : RunInvariant workload fabric) {address : UInt64}
    {key length : UInt32} {bytes : Buffer}
    (h : .completionPosted address key length bytes ∈ fabric.history command) :
    bytes = completionRecord (workload.resolved command).completion := by
  have hPlanned := (hInvariant.planned command).subset h
  obtain ⟨parsed, hParsed⟩ := workload.accepted_of_answered command hPlanned
  have hPosted : (address, key, bytes) ∈
      (workload.completedEvents command).filterMap Event.completion? :=
    List.mem_filterMap.mpr ⟨_, hPlanned, rfl⟩
  rw [workload.completedEvents_completion command hParsed] at hPosted
  simp only [List.mem_singleton, Prod.mk.injEq] at hPosted
  exact hPosted.2.2

/-- A descriptor fetch covers the announced entries and stays inside the slot's buffer. -/
theorem planned_fetch {address : UInt64} {key length : UInt32}
    (h : .fetchPosted address key length ∈ workload.completedEvents command) :
    ∃ operation batch, (operation = .batchRead ∨ operation = .batchWrite) ∧
      deserializeBatch operation (workload.traffic.message command) = .ok batch ∧
      address = batch.entries.address ∧ key = batch.entries.remoteKey ∧
      length.toNat = batch.entryCount.toNat * kStorageBatchEntryBytes ∧
      length.toNat ≤ kStorageMaxBatchEntries * kStorageBatchEntryBytes := by
  have hSettled := workload.completedEvents_cases command h (by simp [Event.completion?])
  simp only [Workload.settledEvents, Workload.resolvedEvents, Workload.admittedEvents,
    Workload.loadedEvents, payloadEvents, List.mem_append] at hSettled
  cases hParsed : workload.parsed command with
  | error error => simp [hParsed] at hSettled
  | ok parsed =>
      obtain ⟨state, entries⟩ := parsed
      rcases parseCommand_cases hParsed with ⟨operation, decoded, -, -, -, rfl, -⟩ |
        ⟨operation, decoded, hKind, hDecoded, -, rfl, rfl⟩
      · simp [hParsed] at hSettled
      · obtain ⟨hNarrow, hCount⟩ := entryCount_le (deserializeBatch_ok hDecoded).2
        obtain ⟨hBytes, hInside⟩ := descriptorBytes_toNat (hNarrow ▸ hCount)
        obtain ⟨hAddress, hKey, hLength⟩ : address = decoded.entries.address ∧
            key = decoded.entries.remoteKey ∧
            length = descriptorBytes decoded.entryCount.toUInt32 := by
          simpa [hParsed, acceptBatch] using hSettled
        rw [hNarrow] at hBytes hInside
        exact ⟨operation, decoded, hKind, hDecoded, hAddress, hKey, hLength ▸ hBytes,
          hLength ▸ hBytes ▸ hInside⟩

/-- In every state of a run, whatever a worker has posted against the namespace
for a command is what the command describes. When the command is answered, all
of it has been posted and the record says so; a command that describes nothing
valid has no effect on the namespace and reports no bytes. None of the worker's
computations wraps, underflows, truncates or leaves a buffer. -/
theorem runWorker_moves_described
    (hRun : WorkerReaches workload.traffic workload.session workload.worker program fabric)
    (command : Nat) :
    (∀ opcode requests, .payloadPosted opcode requests ∈ fabric.history command →
      ∃ operation entries,
        deserializeStorageOperation (workload.traffic.message command) = .ok operation ∧
        described workload.session.storageSize (workload.traffic.message command)
          (workload.traffic.descriptors command) = some entries ∧
        opcode = payloadOpcode operation.isRead ∧ requests = entries.map entryRequest ∧
        (∀ entry ∈ entries, (entryRequest entry).length.toNat = entry.length.toNat) ∧
        ∀ request ∈ requests, request.localOffset.toNat + request.length.toNat ≤
          workload.session.storageSize.toNat) ∧
    (∀ address key length bytes,
      .completionPosted address key length bytes ∈ fabric.history command →
      ((fabric.history command).filterMap Event.payload?).map Prod.snd =
        ((described workload.session.storageSize (workload.traffic.message command)
          (workload.traffic.descriptors command)).map (List.map entryRequest)).toList ∧
      ∃ completion, deserializeStorageCompletion bytes = .ok completion ∧
        (completion.status = .success ↔
          (described workload.session.storageSize (workload.traffic.message command)
            (workload.traffic.descriptors command)).isSome) ∧
        completion.bytesTransferred.toNat =
          ((described workload.session.storageSize (workload.traffic.message command)
            (workload.traffic.descriptors command)).map totalBytes).getD 0) ∧
    (∀ address key length, .fetchPosted address key length ∈ fabric.history command →
      ∃ operation batch,
        deserializeBatch operation (workload.traffic.message command) = .ok batch ∧
        address = batch.entries.address ∧ key = batch.entries.remoteKey ∧
        length.toNat = batch.entryCount.toNat * kStorageBatchEntryBytes ∧
        length.toNat ≤ kStorageMaxBatchEntries * kStorageBatchEntryBytes) ∧
    (∀ operation single slot,
      deserializeTransfer operation (transferAccess operation) (workload.traffic.message command) =
        .ok single →
      singleRequestsExact workload.session.storageSize single = some (acceptTransfer
        workload.session.storageSize operation.isRead single { slot := slot }).requests) ∧
    (∀ operation batch entryBytes,
      deserializeBatch operation (workload.traffic.message command) = .ok batch →
      entryBytes.length = kStorageMaxBatchEntries * kStorageBatchEntryBytes →
      batch.entryCount.toUInt32.toNat = batch.entryCount.toNat ∧
      decodeEntriesExact workload.session.storageSize operation.isRead entryBytes
          batch.entryCount.toUInt32.toNat 0 0 [] =
        some (decodeEntries workload.session.storageSize operation.isRead entryBytes
          batch.entryCount.toUInt32.toNat 0 0 [])) := by
  have hInvariant := hRun.invariant
  refine ⟨fun opcode requests hPosted => ?_, fun address key length bytes hAnswered => ?_,
    fun address key length hFetch => ?_,
    fun operation single slot _ => singleRequestsExact_eq _ _ slot single,
    fun operation batch entryBytes hBatch hLength => ?_⟩
  · obtain ⟨operation, entries, hOperation, hEntries, hOpcode, hSame, hExact⟩ :=
      planned_described ((hInvariant.planned command).subset hPosted)
    refine ⟨operation, entries, hOperation, hEntries, hOpcode, hSame, hExact, ?_⟩
    intro request hRequest
    obtain ⟨entry, hEntry, rfl⟩ := List.mem_map.mp (hSame ▸ hRequest)
    rw [hExact entry hEntry]
    exact (described_fit hEntries entry hEntry).1
  · obtain ⟨parsed, hParsed⟩ := workload.accepted_of_answered command
      ((hInvariant.planned command).subset hAnswered)
    obtain ⟨hVerdict, -⟩ := resolved_verdict hParsed
    refine ⟨?_, (workload.resolved command).completion, ?_, hVerdict.success_iff,
      hVerdict.bytes_eq⟩
    · rw [history_payload hInvariant hAnswered, settledEvents_payload hParsed]
      cases hDescribed : described workload.session.storageSize
          (workload.traffic.message command) (workload.traffic.descriptors command) with
      | none =>
          rw [if_neg (by simp [hVerdict.success_iff, hDescribed])]
          rfl
      | some entries =>
          rw [if_pos (by simp [hVerdict.success_iff, hDescribed])]
          simp [hVerdict.requests_eq entries hDescribed]
    · rw [completion_eq hInvariant hAnswered]
      exact deserializeStorageCompletion_layout _ (by simp)
        (workload.resolved_completionValid command hParsed)
  · obtain ⟨operation, batch, -, hBatch⟩ :=
      planned_fetch ((hInvariant.planned command).subset hFetch)
    exact ⟨operation, batch, hBatch⟩
  · obtain ⟨hNarrow, hCount⟩ := entryCount_le (deserializeBatch_ok hBatch).2
    refine ⟨hNarrow, decodeEntriesExact_eq ?_⟩
    rw [Nat.zero_add, hNarrow, hLength]
    exact Nat.mul_le_mul_right _ hCount

end Runs

/-- Of the four commands, the read, the batch and the other read move what they
describe; the write past the end moves nothing. -/
theorem runWorker_moves_mixed :
    ∃ fabric, WorkerReaches mixedWindows.traffic mixedWindows.session mixedWindows.worker
        (.done (.ok ())) fabric ∧
      (List.range 4).map (fun command =>
        ((fabric.history command).filterMap Event.payload?).map Prod.snd) = [
          [[{ localOffset := 16, remoteAddress := 4096, remoteKey := 5, length := 32 }]],
          [[{ localOffset := 0, remoteAddress := 4096, remoteKey := 5, length := 16 },
            { localOffset := 48, remoteAddress := 4144, remoteKey := 5, length := 8 }]],
          [],
          [[{ localOffset := 0, remoteAddress := 4096, remoteKey := 5, length := 64 }]]] := by
  have hRun := runFor_reaches mixedWindows.traffic mixedWindows.session mixedWindows.worker 4 60
  rw [mixedWindows_returned] at hRun
  have hMoved := fun command (hCommand : command < 4) =>
    ((runWorker_moves_described hRun command).2.1 _ _ _ _ (answered_of_returned hRun hCommand)).1
  refine ⟨_, hRun, ?_⟩
  rw [List.map_congr_left fun command hCommand => hMoved command (List.mem_range.mp hCommand)]
  decide +kernel

end NdsStorage.Server
