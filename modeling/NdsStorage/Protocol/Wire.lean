import Mathlib.Algebra.Group.Nat.Defs
import NdsStorage.Bytes.RecordFormat
import NdsStorage.Protocol.RoundTrip

/-! The nine record formats of the storage protocol and the records they carry.
The validity conditions are stated over the numbers that the fields stand for,
not in the arithmetic of the serializers. -/
namespace NdsStorage

open Bytes

/-- A remote range of at least so many bytes. -/
def Usable (memory : StorageMemory) (required : Nat) : Prop :=
  memory.address ≠ 0 ∧ memory.remoteKey ≠ 0 ∧ required ≤ memory.length.toNat

def TransferValid (command : StorageTransferCommand) : Prop :=
  command.commandId ≠ 0 ∧ command.length ≠ 0 ∧ Usable command.data command.length.toNat

def BatchValid (command : StorageBatchCommand) : Prop :=
  command.commandId ≠ 0 ∧ command.totalLength ≠ 0 ∧ 1 ≤ command.entryCount.toNat ∧
    command.entryCount.toNat ≤ kStorageMaxBatchEntries ∧
    Usable command.entries (command.entryCount.toNat * kStorageBatchEntryBytes)

def EntryValid (entry : StorageBatchEntry) : Prop :=
  entry.length ≠ 0 ∧ Usable entry.data entry.length.toNat

/-- A pending completion has no outcome. -/
def CompletionValid (completion : CompletionWords) : Prop :=
  completion.commandId ≠ 0 ∧ (StorageCompletionState.ofCode completion.state).isSome ∧
    (StorageStatus.ofCode completion.status).isSome ∧
    (completion.state = StorageCompletionState.pending.code →
      completion.status = StorageStatus.success.code ∧ completion.bytesTransferred = 0)

def BootstrapValid (bootstrap : StorageBootstrap) : Prop :=
  Usable bootstrap.completion kStorageCompletionBytes ∧
    Usable bootstrap.namespaceResponse kStorageNamespaceBytes ∧
    1 ≤ bootstrap.slotCount.toNat ∧
    bootstrap.slotCount.toNat * kStorageSlotDescriptorBytes < 2 ^ 32 ∧
    Usable bootstrap.slots (bootstrap.slotCount.toNat * kStorageSlotDescriptorBytes)

def NamespaceValid (storageNamespace : StorageNamespace) : Prop :=
  storageNamespace.capacity ≠ 0

section Formats

def readFormat : RecordFormat StorageReadCommand SerdeError where
  size := kStorageCommandBytes
  serialize := serializeStorageRead
  deserialize := deserializeStorageRead

def writeFormat : RecordFormat StorageWriteCommand SerdeError where
  size := kStorageCommandBytes
  serialize := serializeStorageWrite
  deserialize := deserializeStorageWrite

def batchReadFormat : RecordFormat StorageBatchReadCommand SerdeError where
  size := kStorageCommandBytes
  serialize := serializeStorageBatchRead
  deserialize := deserializeStorageBatchRead

def batchWriteFormat : RecordFormat StorageBatchWriteCommand SerdeError where
  size := kStorageCommandBytes
  serialize := serializeStorageBatchWrite
  deserialize := deserializeStorageBatchWrite

def batchReadEntryFormat : RecordFormat StorageBatchReadEntry SerdeError where
  size := kStorageBatchEntryBytes
  serialize := serializeStorageBatchReadEntry
  deserialize := deserializeStorageBatchReadEntry

def batchWriteEntryFormat : RecordFormat StorageBatchWriteEntry SerdeError where
  size := kStorageBatchEntryBytes
  serialize := serializeStorageBatchWriteEntry
  deserialize := deserializeStorageBatchWriteEntry

def completionFormat : RecordFormat CompletionWords SerdeError where
  size := kStorageCompletionBytes
  serialize := serializeCompletionWords
  deserialize := deserializeCompletionWords

def bootstrapFormat : RecordFormat StorageBootstrap SerdeError where
  size := kStorageBootstrapBytes
  serialize := serializeStorageBootstrap
  deserialize := deserializeStorageBootstrap

def namespaceFormat : RecordFormat StorageNamespace SerdeError where
  size := kStorageNamespaceBytes
  serialize := serializeStorageNamespace
  deserialize := deserializeStorageNamespace

end Formats

/-- The check of the source is the condition on the numbers. -/
theorem memoryValid_iff {memory : StorageMemory} {required : UInt64} :
    memoryValid memory required = true ↔ Usable memory required.toNat := by
  simp only [memoryValid, Usable, Bool.and_eq_true, decide_eq_true_eq, ge_iff_le,
    UInt64.le_iff_toNat_le]
  tauto

theorem clear_drop (bytes : Buffer) (size : Nat) : (clear bytes size).drop size = bytes.drop size :=
  drop_put _ _ (by simp)

section Rest

variable {start : Nat} (bytes : Buffer) (position : Nat)

theorem writeU16_drop (value : UInt16) (h : position + 2 ≤ start) :
    (writeU16 bytes position value).drop start = bytes.drop start :=
  drop_put _ _ h

theorem writeU32_drop (value : UInt32) (h : position + 4 ≤ start) :
    (writeU32 bytes position value).drop start = bytes.drop start :=
  drop_put _ _ h

theorem writeU64_drop (value : UInt64) (h : position + 8 ≤ start) :
    (writeU64 bytes position value).drop start = bytes.drop start :=
  drop_put _ _ h

end Rest

section Commands

theorem commandLayout_drop (operation : StorageOperation) (command : StorageTransferCommand)
    (access : UInt32) (bytes : Buffer) :
    (commandLayout operation command access bytes).drop kStorageCommandBytes =
      bytes.drop kStorageCommandBytes := by
  simp (disch := decide) only [commandLayout, writeU16_drop, writeU32_drop, writeU64_drop,
    clear_drop]

/-- Single transfers in both directions. -/
theorem transfer_laidOut (operation : StorageOperation) (access : UInt32) :
    RecordFormat.LaidOut {
      size := kStorageCommandBytes
      serialize := serializeTransfer operation access
      deserialize := deserializeTransfer operation access } TransferValid
      (fun command => commandLayout operation command access) SerdeError.invalidRecord where
  serialize_ok := by
    intro command bytes hSize hValid
    have hData := memoryValid_iff.mpr hValid.2.2
    dsimp only
    rw [serializeTransfer_eq hSize, if_neg (by simp [hValid.1, hValid.2.1, hData])]
  serialize_error := by
    intro command bytes hSize hInvalid
    have hRefused : command.commandId = 0 ∨ command.length = 0 ∨
        ¬ memoryValid command.data command.length := by
      rw [memoryValid_iff]
      simp only [TransferValid] at hInvalid
      tauto
    dsimp only
    rw [serializeTransfer_eq hSize, if_pos hRefused]
  recovered := fun command bytes hSize hValid => deserializeTransfer_layout hSize operation access
    command hValid.1 hValid.2.1 (memoryValid_iff.mpr hValid.2.2)
  rest := fun command bytes => commandLayout_drop ..
  length_eq := fun command bytes => commandLayout_length ..

/-- Within the limit the product of the source does not wrap. -/
theorem entryArrayBytes_toNat {entryCount : UInt64}
    (h : entryCount.toNat ≤ kStorageMaxBatchEntries) :
    (entryArrayBytes entryCount).toNat = entryCount.toNat * kStorageBatchEntryBytes := by
  simp only [kStorageMaxBatchEntries] at h
  rw [entryArrayBytes, UInt64.toNat_mul, UInt64.toNat_ofNat']
  simp only [kStorageBatchEntryBytes]
  omega

/-- The limit on the entries, as numbers. -/
theorem entryCount_le_iff {entryCount : UInt64} :
    entryCount ≤ UInt64.ofNat kStorageMaxBatchEntries ↔
      entryCount.toNat ≤ kStorageMaxBatchEntries := by
  rw [UInt64.le_iff_toNat_le]
  rfl

/-- The checks of a batch, in the order of the source. -/
theorem batchValid_iff {command : StorageBatchCommand} :
    BatchValid command ↔ command.entryCount ≠ 0 ∧ batchBounded command ∧ command.commandId ≠ 0 ∧
      command.totalLength ≠ 0 ∧
      memoryValid command.entries (entryArrayBytes command.entryCount) = true := by
  have hPositive : 1 ≤ command.entryCount.toNat ↔ command.entryCount ≠ 0 := by
    rw [Nat.one_le_iff_ne_zero, not_iff_not, ← UInt64.toNat_inj]
    rfl
  rw [memoryValid_iff, batchBounded, entryCount_le_iff, ge_iff_le, UInt64.le_iff_toNat_le]
  simp only [BatchValid, hPositive]
  constructor
  · rintro ⟨hId, hTotal, hSome, hMany, hUsable⟩
    rw [entryArrayBytes_toNat hMany]
    exact ⟨hSome, ⟨hMany, hUsable.2.2⟩, hId, hTotal, hUsable⟩
  · rintro ⟨hSome, ⟨hMany, -⟩, hId, hTotal, hUsable⟩
    rw [entryArrayBytes_toNat hMany] at hUsable
    exact ⟨hId, hTotal, hSome, hMany, hUsable⟩

/-- Batches are laid out as their format says. -/
theorem batch_laidOut (operation : StorageOperation) :
    RecordFormat.LaidOut {
      size := kStorageCommandBytes
      serialize := serializeBatch operation
      deserialize := deserializeBatch operation } BatchValid
      (fun command => commandLayout operation command.asTransfer kRemoteRead)
      SerdeError.invalidRecord where
  serialize_ok := by
    intro command bytes hSize hValid
    obtain ⟨hSome, hBounded, hId, hTotal, hEntries⟩ := batchValid_iff.mp hValid
    exact serializeBatch_ok hSize operation command hId hTotal hSome hEntries hBounded
  serialize_error := by
    intro command bytes hSize hInvalid
    dsimp only
    rw [serializeBatch]
    by_cases hShape : command.entryCount = 0 ∨
        command.entryCount > UInt64.ofNat kStorageMaxBatchEntries ∨
        command.entries.length < entryArrayBytes command.entryCount
    · rw [if_pos hShape]
    · rw [if_neg hShape, serializeCommand, if_neg (Nat.not_lt.mpr hSize)]
      simp only [not_or, gt_iff_lt, UInt64.not_lt] at hShape
      rw [if_pos]
      by_contra hFields
      simp only [not_or, not_not] at hFields
      exact hInvalid (batchValid_iff.mpr ⟨hShape.1, hShape.2, hFields⟩)
  recovered := by
    intro command bytes hSize hValid
    obtain ⟨-, hBounded, hId, hTotal, hEntries⟩ := batchValid_iff.mp hValid
    exact deserializeBatch_layout hSize operation command hId hTotal hEntries hBounded
  rest := fun command bytes => commandLayout_drop ..
  length_eq := fun command bytes => commandLayout_length ..

end Commands

section Entries

/-- The buffer a successful entry serializer leaves behind. -/
def entryLayout (entry : StorageBatchEntry) (access : UInt32) (bytes : Buffer) : Buffer :=
  let bytes := clear bytes kStorageBatchEntryBytes
  let bytes := writeU64 bytes 0 entry.offset
  let bytes := writeU64 bytes 8 entry.length
  let bytes := writeU64 bytes 16 entry.data.address
  let bytes := writeU64 bytes 24 entry.data.length
  let bytes := writeU32 bytes 32 entry.data.remoteKey
  writeU32 bytes 36 access

/-- The fields of an entry can be read back from its layout. -/
theorem entryLayout_fields (entry : StorageBatchEntry) (access : UInt32) {bytes : Buffer}
    (h : kStorageBatchEntryBytes ≤ bytes.length) :
    readU64 (entryLayout entry access bytes) 0 = entry.offset ∧
    readU64 (entryLayout entry access bytes) 8 = entry.length ∧
    readU64 (entryLayout entry access bytes) 16 = entry.data.address ∧
    readU64 (entryLayout entry access bytes) 24 = entry.data.length ∧
    readU32 (entryLayout entry access bytes) 32 = entry.data.remoteKey ∧
    readU32 (entryLayout entry access bytes) 36 = access := by
  simp only [kStorageBatchEntryBytes] at h
  refine ⟨?_, ?_, ?_, ?_, ?_, ?_⟩ <;>
    simp (disch := (simp only [put_length, clear_length, encode16_length, encode32_length,
      encode64_length]; omega)) only [entryLayout, readU32, readU64, writeU32, writeU64,
      slice_put_disjoint, decode32_put, decode64_put]

/-- Entries are laid out as their format says. -/
theorem entry_laidOut (access : UInt32) :
    RecordFormat.LaidOut {
      size := kStorageBatchEntryBytes
      serialize := fun entry => serializeBatchEntry entry access
      deserialize := deserializeBatchEntry access } EntryValid
      (fun entry => entryLayout entry access) SerdeError.invalidRecord where
  serialize_ok := by
    intro entry bytes hSize hValid
    have hData := memoryValid_iff.mpr hValid.2
    dsimp only
    rw [serializeBatchEntry, if_neg (Nat.not_lt.mpr hSize), if_neg (by simp [hValid.1, hData])]
    rfl
  serialize_error := by
    intro entry bytes hSize hInvalid
    have hRefused : entry.length = 0 ∨ ¬ memoryValid entry.data entry.length := by
      rw [memoryValid_iff]
      simp only [EntryValid] at hInvalid
      tauto
    dsimp only
    rw [serializeBatchEntry, if_neg (Nat.not_lt.mpr hSize), if_pos hRefused]
  recovered := by
    intro entry bytes hSize hValid
    obtain ⟨hOffset, hLength, hAddress, hDataLength, hKey, hAccess⟩ :=
      entryLayout_fields entry access hSize
    have hData := memoryValid_iff.mpr hValid.2
    have hLong : ¬ (entryLayout entry access bytes).length < kStorageBatchEntryBytes := by
      simpa [entryLayout] using hSize
    simp only [deserializeBatchEntry, hOffset, hLength, hAddress, hDataLength, hKey, hAccess,
      UInt32.and_self]
    rw [if_neg hLong, if_neg (by simp), if_neg (by simp [hValid.1, hData])]
  rest := by
    intro entry bytes
    simp (disch := decide) only [entryLayout, writeU32_drop, writeU64_drop, clear_drop]
  length_eq := fun entry bytes => by simp [entryLayout]

end Entries

section Completions

/-- The record of the protocol as the words it is made of. -/
def StorageCompletion.words (completion : StorageCompletion) : CompletionWords where
  commandId := completion.commandId
  state := completion.state.code
  status := completion.status.code
  bytesTransferred := completion.bytesTransferred

/-- A completion is valid exactly if its words are. -/
theorem completionValid_words (completion : StorageCompletion) :
    completionWordsValid completion.words = completionValid completion := by
  obtain ⟨commandId, state, status, bytesTransferred⟩ := completion
  by_cases hId : commandId = 0 <;> by_cases hBytes : bytesTransferred = 0 <;> cases state <;>
    cases status <;>
    simp [completionWordsValid, completionValid, StorageCompletion.words,
      StorageCompletionState.code, StorageStatus.code, hId, hBytes]

/-- On the values that the enumerations name, the serializer is the one of the protocol. -/
theorem serializeCompletionWords_words (completion : StorageCompletion) (bytes : Buffer) :
    serializeCompletionWords completion.words bytes =
      serializeStorageCompletion completion bytes := by
  simp only [serializeCompletionWords, completionValid_words]
  rfl

def completionWordsLayout (completion : CompletionWords) (bytes : Buffer) : Buffer :=
  let bytes := clear bytes kStorageCompletionBytes
  let bytes := writeU32 bytes 0 kCompletionMagic
  let bytes := writeU16 bytes 4 kVersion
  let bytes := writeU16 bytes 6 completion.state
  let bytes := writeU16 bytes 8 completion.status
  let bytes := writeU64 bytes 12 completion.commandId
  writeU64 bytes 20 completion.bytesTransferred

/-- The words of a completion can be read back from their layout. -/
theorem completionWordsLayout_fields (completion : CompletionWords) {bytes : Buffer}
    (h : kStorageCompletionBytes ≤ bytes.length) :
    readU32 (completionWordsLayout completion bytes) 0 = kCompletionMagic ∧
    readU16 (completionWordsLayout completion bytes) 4 = kVersion ∧
    readU16 (completionWordsLayout completion bytes) 6 = completion.state ∧
    readU16 (completionWordsLayout completion bytes) 8 = completion.status ∧
    readU64 (completionWordsLayout completion bytes) 12 = completion.commandId ∧
    readU64 (completionWordsLayout completion bytes) 20 = completion.bytesTransferred := by
  simp only [kStorageCompletionBytes] at h
  refine ⟨?_, ?_, ?_, ?_, ?_, ?_⟩ <;>
    simp (disch := (simp only [put_length, clear_length, encode16_length, encode32_length,
      encode64_length]; omega)) only [completionWordsLayout, readU16, readU32, readU64, writeU16,
      writeU32, writeU64, slice_put_disjoint, decode16_put, decode32_put, decode64_put]

/-- The words that name a state, and those that name a status. -/
theorem isSome_ofCode_state {value : UInt16} :
    (StorageCompletionState.ofCode value).isSome ↔ value = StorageCompletionState.pending.code ∨
      value = StorageCompletionState.complete.code := by
  simp only [StorageCompletionState.ofCode, StorageCompletionState.code]
  split
  · simp [*]
  · split <;> simp [*]

/-- The status codes are the numbers up to the last one. -/
theorem isSome_ofCode_status {value : UInt16} :
    (StorageStatus.ofCode value).isSome ↔ value ≤ StorageStatus.internalError.code := by
  have hSmall : value ≤ StorageStatus.internalError.code ↔
      value = 0 ∨ value = 1 ∨ value = 2 ∨ value = 3 ∨ value = 4 := by
    simp only [StorageStatus.code, UInt16.le_iff_toNat_le, ← UInt16.toNat_inj, UInt16.reduceToNat]
    omega
  rw [hSmall, StorageStatus.ofCode]
  split_ifs <;> simp [*]

/-- The checks of a completion. -/
theorem completionWordsValid_iff {completion : CompletionWords} :
    completionWordsValid completion = true ↔ CompletionValid completion := by
  rw [CompletionValid, isSome_ofCode_state, isSome_ofCode_status]
  simp only [completionWordsValid, Bool.and_eq_true, Bool.or_eq_true, Bool.not_eq_true',
    decide_eq_true_eq, Bool.and_eq_false_iff, decide_eq_false_iff_not, Bool.or_eq_false_iff,
    not_not]
  tauto

/-- Completions are laid out as their format says. -/
theorem completion_laidOut :
    completionFormat.LaidOut CompletionValid completionWordsLayout .invalidRecord where
  serialize_ok := by
    intro completion bytes (hSize : kStorageCompletionBytes ≤ bytes.length) hValid
    have hChecked := completionWordsValid_iff.mpr hValid
    change serializeCompletionWords completion bytes = _
    rw [serializeCompletionWords, if_neg (Nat.not_lt.mpr hSize), if_neg (by simp [hChecked])]
    rfl
  serialize_error := by
    intro completion bytes (hSize : kStorageCompletionBytes ≤ bytes.length) hInvalid
    change serializeCompletionWords completion bytes = _
    rw [serializeCompletionWords, if_neg (Nat.not_lt.mpr hSize),
      if_pos fun hChecked => hInvalid (completionWordsValid_iff.mp hChecked)]
  recovered := by
    intro completion bytes (hSize : kStorageCompletionBytes ≤ bytes.length) hValid
    obtain ⟨hMagic, hVersion, hState, hStatus, hId, hBytes⟩ :=
      completionWordsLayout_fields completion hSize
    have hLong : ¬ (completionWordsLayout completion bytes).length < kStorageCompletionBytes := by
      simpa [completionWordsLayout] using hSize
    change deserializeCompletionWords _ = _
    simp only [deserializeCompletionWords, hMagic, hVersion, hState, hStatus, hId, hBytes]
    rw [if_neg hLong, if_neg (by simp), if_pos (completionWordsValid_iff.mpr hValid)]
  rest := by
    intro completion bytes
    change (completionWordsLayout completion bytes).drop kStorageCompletionBytes =
      bytes.drop kStorageCompletionBytes
    simp (disch := decide) only [completionWordsLayout, writeU16_drop, writeU32_drop,
      writeU64_drop, clear_drop]
  length_eq := fun completion bytes => by simp [completionWordsLayout]

end Completions

section Handshake

/-- The buffer a successful bootstrap serializer leaves behind. -/
def bootstrapLayout (bootstrap : StorageBootstrap) (bytes : Buffer) : Buffer :=
  let bytes := clear bytes kStorageBootstrapBytes
  let bytes := writeU32 bytes 0 kBootstrapMagic
  let bytes := writeU16 bytes 4 kBootstrapVersion
  let bytes := writeU64 bytes 8 bootstrap.completion.address
  let bytes := writeU64 bytes 16 bootstrap.completion.length
  let bytes := writeU32 bytes 24 bootstrap.completion.remoteKey
  let bytes := writeU32 bytes 28 kRemoteWrite
  let bytes := writeU64 bytes 32 bootstrap.namespaceResponse.address
  let bytes := writeU64 bytes 40 bootstrap.namespaceResponse.length
  let bytes := writeU32 bytes 48 bootstrap.namespaceResponse.remoteKey
  let bytes := writeU32 bytes 52 kRemoteWrite
  let bytes := writeU64 bytes 56 bootstrap.slots.address
  let bytes := writeU64 bytes 64 bootstrap.slots.length
  let bytes := writeU32 bytes 72 bootstrap.slots.remoteKey
  let bytes := writeU32 bytes 76 kRemoteRead
  writeU32 bytes 80 bootstrap.slotCount

/-- The fields of a bootstrap record can be read back from its layout. -/
theorem bootstrapLayout_fields (bootstrap : StorageBootstrap) {bytes : Buffer}
    (h : kStorageBootstrapBytes ≤ bytes.length) :
    (readU32 (bootstrapLayout bootstrap bytes) 0 = kBootstrapMagic ∧
      readU16 (bootstrapLayout bootstrap bytes) 4 = kBootstrapVersion) ∧
    (readU64 (bootstrapLayout bootstrap bytes) 8 = bootstrap.completion.address ∧
      readU64 (bootstrapLayout bootstrap bytes) 16 = bootstrap.completion.length ∧
      readU32 (bootstrapLayout bootstrap bytes) 24 = bootstrap.completion.remoteKey ∧
      readU32 (bootstrapLayout bootstrap bytes) 28 = kRemoteWrite) ∧
    (readU64 (bootstrapLayout bootstrap bytes) 32 = bootstrap.namespaceResponse.address ∧
      readU64 (bootstrapLayout bootstrap bytes) 40 = bootstrap.namespaceResponse.length ∧
      readU32 (bootstrapLayout bootstrap bytes) 48 = bootstrap.namespaceResponse.remoteKey ∧
      readU32 (bootstrapLayout bootstrap bytes) 52 = kRemoteWrite) ∧
    (readU64 (bootstrapLayout bootstrap bytes) 56 = bootstrap.slots.address ∧
      readU64 (bootstrapLayout bootstrap bytes) 64 = bootstrap.slots.length ∧
      readU32 (bootstrapLayout bootstrap bytes) 72 = bootstrap.slots.remoteKey ∧
      readU32 (bootstrapLayout bootstrap bytes) 76 = kRemoteRead) ∧
    readU32 (bootstrapLayout bootstrap bytes) 80 = bootstrap.slotCount := by
  simp only [kStorageBootstrapBytes] at h
  refine ⟨⟨?_, ?_⟩, ⟨?_, ?_, ?_, ?_⟩, ⟨?_, ?_, ?_, ?_⟩, ⟨?_, ?_, ?_, ?_⟩, ?_⟩ <;>
    simp (disch := (simp only [put_length, clear_length, encode16_length, encode32_length,
      encode64_length]; omega)) only [bootstrapLayout, readU16, readU32, readU64, writeU16,
      writeU32, writeU64, slice_put_disjoint, decode16_put, decode32_put, decode64_put]

@[simp] theorem bootstrapLayout_length (bootstrap : StorageBootstrap) (bytes : Buffer) :
    (bootstrapLayout bootstrap bytes).length = bytes.length := by
  simp [bootstrapLayout]

/-- Bytes past the bootstrap record stay as they were. -/
theorem bootstrapLayout_drop (bootstrap : StorageBootstrap) (bytes : Buffer) :
    (bootstrapLayout bootstrap bytes).drop kStorageBootstrapBytes =
      bytes.drop kStorageBootstrapBytes := by
  simp (disch := decide) only [bootstrapLayout, writeU16_drop, writeU32_drop, writeU64_drop,
    clear_drop]

theorem deserializeStorageBootstrap_layout {bootstrap : StorageBootstrap} {bytes : Buffer}
    (hSize : kStorageBootstrapBytes ≤ bytes.length) (hValid : bootstrapValid bootstrap) :
    deserializeStorageBootstrap (bootstrapLayout bootstrap bytes) = .ok bootstrap := by
  obtain ⟨⟨hMagic, hVersion⟩, ⟨hAddress, hLength, hKey, hAccess⟩,
    ⟨hAddress', hLength', hKey', hAccess'⟩, ⟨hAddress'', hLength'', hKey'', hAccess''⟩, hCount⟩ :=
    bootstrapLayout_fields bootstrap hSize
  simp only [deserializeStorageBootstrap, bootstrapLayout_length, hMagic, hVersion, hAddress,
    hLength, hKey, hAccess, hAddress', hLength', hKey', hAccess', hAddress'', hLength'', hKey'',
    hAccess'', hCount]
  rw [if_neg (Nat.not_lt.mpr hSize), if_neg (by simp [kRemoteWrite, kRemoteRead]),
    if_pos ⟨by simp [kRemoteWrite], hValid⟩]

/-- The quotient test of the source keeps the table below four gigabytes, so
that its size fits the 64-bit product. -/
theorem bootstrapValid_iff {bootstrap : StorageBootstrap} :
    bootstrapValid bootstrap = true ↔ BootstrapValid bootstrap := by
  have hPositive : 1 ≤ bootstrap.slotCount.toNat ↔ bootstrap.slotCount ≠ 0 := by
    rw [Nat.one_le_iff_ne_zero, not_iff_not, ← UInt32.toNat_inj]
    rfl
  have hTable : (slotTableBytes bootstrap.slotCount).toNat =
      bootstrap.slotCount.toNat * kStorageSlotDescriptorBytes := by
    have hWord := UInt32.toNat_lt bootstrap.slotCount
    rw [slotTableBytes, UInt64.toNat_mul, UInt32.toNat_toUInt64, UInt64.toNat_ofNat']
    simp only [kStorageSlotDescriptorBytes]
    omega
  have hBound : bootstrap.slotCount ≤ 0xffffffff / UInt32.ofNat kStorageSlotDescriptorBytes ↔
      bootstrap.slotCount.toNat * kStorageSlotDescriptorBytes < 2 ^ 32 := by
    rw [UInt32.le_iff_toNat_le]
    change _ ≤ 76695844 ↔ _ * 56 < _
    omega
  simp only [bootstrapValid, Bool.and_eq_true, decide_eq_true_eq, memoryValid_iff, hTable, hBound,
    BootstrapValid, hPositive]
  change ((((Usable _ kStorageCompletionBytes ∧ Usable _ kStorageNamespaceBytes) ∧ _) ∧ _) ∧ _) ↔ _
  tauto

/-- Bootstrap records are laid out as their format says. -/
theorem bootstrap_laidOut :
    bootstrapFormat.LaidOut BootstrapValid bootstrapLayout .invalidRecord where
  serialize_ok := by
    intro bootstrap bytes (hSize : kStorageBootstrapBytes ≤ bytes.length) hValid
    have hChecked := bootstrapValid_iff.mpr hValid
    change serializeStorageBootstrap bootstrap bytes = _
    rw [serializeStorageBootstrap, if_neg (Nat.not_lt.mpr hSize), if_neg (by simp [hChecked])]
    rfl
  serialize_error := by
    intro bootstrap bytes (hSize : kStorageBootstrapBytes ≤ bytes.length) hInvalid
    change serializeStorageBootstrap bootstrap bytes = _
    rw [serializeStorageBootstrap, if_neg (Nat.not_lt.mpr hSize),
      if_pos fun hChecked => hInvalid (bootstrapValid_iff.mp hChecked)]
  recovered := by
    intro bootstrap bytes hSize hValid
    dsimp only [bootstrapFormat]
    exact deserializeStorageBootstrap_layout hSize (bootstrapValid_iff.mpr hValid)
  rest := bootstrapLayout_drop
  length_eq := bootstrapLayout_length

def namespaceLayout (storageNamespace : StorageNamespace) (bytes : Buffer) : Buffer :=
  let bytes := clear bytes kStorageNamespaceBytes
  let bytes := writeU32 bytes 0 kNamespaceMagic
  let bytes := writeU16 bytes 4 kVersion
  writeU64 bytes 8 storageNamespace.capacity

/-- The fields of a namespace record can be read back from its layout. -/
theorem namespaceLayout_fields (storageNamespace : StorageNamespace) {bytes : Buffer}
    (h : kStorageNamespaceBytes ≤ bytes.length) :
    readU32 (namespaceLayout storageNamespace bytes) 0 = kNamespaceMagic ∧
    readU16 (namespaceLayout storageNamespace bytes) 4 = kVersion ∧
    readU64 (namespaceLayout storageNamespace bytes) 8 = storageNamespace.capacity := by
  simp only [kStorageNamespaceBytes] at h
  refine ⟨?_, ?_, ?_⟩ <;>
    simp (disch := (simp only [put_length, clear_length, encode16_length, encode32_length,
      encode64_length]; omega)) only [namespaceLayout, readU16, readU32, readU64, writeU16,
      writeU32, writeU64, slice_put_disjoint, decode16_put, decode32_put, decode64_put]

/-- Namespace records are laid out as their format says. -/
theorem namespace_laidOut :
    namespaceFormat.LaidOut NamespaceValid namespaceLayout .invalidRecord where
  serialize_ok := by
    intro storageNamespace bytes (hSize : kStorageNamespaceBytes ≤ bytes.length) hValid
    change serializeStorageNamespace storageNamespace bytes = _
    rw [serializeStorageNamespace, if_neg (Nat.not_lt.mpr hSize), if_neg hValid]
    rfl
  serialize_error := by
    intro storageNamespace bytes (hSize : kStorageNamespaceBytes ≤ bytes.length) hInvalid
    change serializeStorageNamespace storageNamespace bytes = _
    rw [serializeStorageNamespace, if_neg (Nat.not_lt.mpr hSize), if_pos (not_not.mp hInvalid)]
  recovered := by
    intro storageNamespace bytes (hSize : kStorageNamespaceBytes ≤ bytes.length) hValid
    obtain ⟨hMagic, hVersion, hCapacity⟩ := namespaceLayout_fields storageNamespace hSize
    have hLong : ¬ (namespaceLayout storageNamespace bytes).length < kStorageNamespaceBytes := by
      simpa [namespaceLayout] using hSize
    change deserializeStorageNamespace _ = _
    simp only [deserializeStorageNamespace, hMagic, hVersion, hCapacity]
    rw [if_neg hLong, if_neg (by simp)]
    exact if_pos hValid
  rest := by
    intro storageNamespace bytes
    change (namespaceLayout storageNamespace bytes).drop kStorageNamespaceBytes =
      bytes.drop kStorageNamespaceBytes
    simp (disch := decide) only [namespaceLayout, writeU16_drop, writeU32_drop, writeU64_drop,
      clear_drop]
  length_eq := fun storageNamespace bytes => by simp [namespaceLayout]

end Handshake

section Survival

/-- The bytes of a command are taken for this operation and for no other. -/
structure RecognizedAs (operation : StorageOperation) (bytes : Buffer) : Prop where
  operation_eq : deserializeStorageOperation bytes = .ok operation
  read : operation ≠ .read → ∃ failure, deserializeStorageRead bytes = .error failure
  write : operation ≠ .write → ∃ failure, deserializeStorageWrite bytes = .error failure
  batchRead : operation ≠ .batchRead → ∃ failure, deserializeStorageBatchRead bytes = .error failure
  batchWrite : operation ≠ .batchWrite →
    ∃ failure, deserializeStorageBatchWrite bytes = .error failure

variable {bytes : Buffer}

/-- A command of another operation is refused before its fields are looked at. -/
theorem deserializeCommand_other {operation other : StorageOperation} (h : operation ≠ other)
    (hSize : kStorageCommandBytes ≤ bytes.length) (command : StorageTransferCommand)
    (access required : UInt32) :
    deserializeCommand other required (commandLayout operation command access bytes) =
      .error .invalidRecord := by
  obtain ⟨-, -, hOperation, -⟩ := commandLayout_fields operation command access hSize
  have hCode : operation.code ≠ other.code := by
    intro hSame
    apply h
    have hDecoded := StorageOperation.ofCode_code operation
    rw [hSame, StorageOperation.ofCode_code] at hDecoded
    exact (Option.some.inj hDecoded).symm
  rw [deserializeCommand, commandLayout_length, if_neg (Nat.not_lt.mpr hSize), hOperation,
    if_pos (by simp [hCode])]

/-- The layout of a command is recognized as its operation. -/
theorem recognizedAs_layout (operation : StorageOperation)
    (hSize : kStorageCommandBytes ≤ bytes.length) (command : StorageTransferCommand)
    (access : UInt32) : RecognizedAs operation (commandLayout operation command access bytes) where
  operation_eq := deserializeStorageOperation_layout operation command access hSize
  read := by
    intro hOther
    refine ⟨.invalidRecord, ?_⟩
    rw [deserializeStorageRead, deserializeTransfer, deserializeCommand_other hOther hSize]
    rfl
  write := by
    intro hOther
    refine ⟨.invalidRecord, ?_⟩
    rw [deserializeStorageWrite, deserializeTransfer, deserializeCommand_other hOther hSize]
    rfl
  batchRead := by
    intro hOther
    refine ⟨.invalidRecord, ?_⟩
    rw [deserializeStorageBatchRead, deserializeBatch, deserializeCommand_other hOther hSize]
    rfl
  batchWrite := by
    intro hOther
    refine ⟨.invalidRecord, ?_⟩
    rw [deserializeStorageBatchWrite, deserializeBatch, deserializeCommand_other hOther hSize]
    rfl

/-- What a command format accepts is laid out as a command of its operation. -/
theorem command_survives {Record : Type} {format : RecordFormat Record SerdeError}
    {valid : Record → Prop} {operation : StorageOperation} {access : UInt32}
    {command : Record → StorageTransferCommand}
    (h : format.LaidOut valid (fun record => commandLayout operation (command record) access)
      .invalidRecord)
    (hFormat : format.size = kStorageCommandBytes) (hSize : kStorageCommandBytes ≤ bytes.length)
    (record : Record) :
    format.Survives valid record bytes ∧ ((format.serialize record bytes).1 = .ok () →
      RecognizedAs operation (format.serialize record bytes).2) := by
  have hFits : format.size ≤ bytes.length := hFormat ▸ hSize
  have hSurvives := h.survives record hFits
  refine ⟨hSurvives, fun hAccepted => ?_⟩
  rw [h.serialize_ok record bytes hFits (hSurvives.accepted_iff.mp hAccepted)]
  exact recognizedAs_layout operation hSize (command record) access

/-- Every storage record survives the wire, on a buffer of any prior content,
and serialized commands are recognized as what they are. -/
theorem storageRecords_survive (bytes : Buffer) :
    (kStorageCommandBytes ≤ bytes.length →
      (∀ command, readFormat.Survives TransferValid command bytes ∧
        ((serializeStorageRead command bytes).1 = .ok () →
          RecognizedAs .read (serializeStorageRead command bytes).2)) ∧
      (∀ command, writeFormat.Survives TransferValid command bytes ∧
        ((serializeStorageWrite command bytes).1 = .ok () →
          RecognizedAs .write (serializeStorageWrite command bytes).2)) ∧
      (∀ command, batchReadFormat.Survives BatchValid command bytes ∧
        ((serializeStorageBatchRead command bytes).1 = .ok () →
          RecognizedAs .batchRead (serializeStorageBatchRead command bytes).2)) ∧
      (∀ command, batchWriteFormat.Survives BatchValid command bytes ∧
        ((serializeStorageBatchWrite command bytes).1 = .ok () →
          RecognizedAs .batchWrite (serializeStorageBatchWrite command bytes).2))) ∧
    (kStorageBatchEntryBytes ≤ bytes.length →
      (∀ entry, batchReadEntryFormat.Survives EntryValid entry bytes) ∧
      ∀ entry, batchWriteEntryFormat.Survives EntryValid entry bytes) ∧
    (kStorageCompletionBytes ≤ bytes.length →
      ∀ completion, completionFormat.Survives CompletionValid completion bytes) ∧
    (kStorageBootstrapBytes ≤ bytes.length →
      ∀ bootstrap, bootstrapFormat.Survives BootstrapValid bootstrap bytes) ∧
    (kStorageNamespaceBytes ≤ bytes.length →
      ∀ storageNamespace, namespaceFormat.Survives NamespaceValid storageNamespace bytes) := by
  refine ⟨fun hSize => ⟨?_, ?_, ?_, ?_⟩, fun hSize => ⟨?_, ?_⟩, ?_, ?_, ?_⟩
  · exact command_survives (transfer_laidOut .read kRemoteWrite) rfl hSize
  · exact command_survives (transfer_laidOut .write kRemoteRead) rfl hSize
  · exact command_survives (batch_laidOut .batchRead) rfl hSize
  · exact command_survives (batch_laidOut .batchWrite) rfl hSize
  · exact fun entry => (entry_laidOut kRemoteWrite).survives entry hSize
  · exact fun entry => (entry_laidOut kRemoteRead).survives entry hSize
  · exact fun hSize completion => completion_laidOut.survives completion hSize
  · exact fun hSize bootstrap => bootstrap_laidOut.survives bootstrap hSize
  · exact fun hSize storageNamespace => namespace_laidOut.survives storageNamespace hSize

end Survival

end NdsStorage
