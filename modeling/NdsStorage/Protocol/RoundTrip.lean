import NdsStorage.Protocol.Serde

/-! What a serializer writes, the matching deserializer reads back. Every field
is recovered from a buffer by skipping the writes to other fields. -/
namespace NdsStorage

open Bytes

/-- The slice of a cleared range is all zero. -/
theorem slice_clear {bytes : Buffer} {size position width : Nat} (hSize : size ≤ bytes.length)
    (h : position + width ≤ size) :
    slice (clear bytes size) position width = List.replicate width 0 := by
  have hFits : 0 + (List.replicate size (0 : UInt8)).length ≤ bytes.length := by simpa using hSize
  apply List.ext_getElem
  · simp [slice]
  · intro index hLeft hRight
    rw [List.length_replicate] at hRight
    simp only [slice, List.getElem_map, List.getElem_range, List.getElem_replicate, clear]
    rw [getD_put hFits, List.length_replicate, if_pos ⟨by omega, by omega⟩, Nat.sub_zero,
      List.getD_eq_getElem?_getD, List.getElem?_replicate_of_lt (by omega), Option.getD_some]

section Fields

variable (bytes : Buffer)

@[simp] theorem clear_length (size : Nat) : (clear bytes size).length = bytes.length :=
  put_length ..

@[simp] theorem writeU16_length (position : Nat) (value : UInt16) :
    (writeU16 bytes position value).length = bytes.length :=
  put_length ..

@[simp] theorem writeU32_length (position : Nat) (value : UInt32) :
    (writeU32 bytes position value).length = bytes.length :=
  put_length ..

@[simp] theorem writeU64_length (position : Nat) (value : UInt64) :
    (writeU64 bytes position value).length = bytes.length :=
  put_length ..

end Fields

/-- The buffer a successful command serializer leaves behind. -/
def commandLayout (operation : StorageOperation) (command : StorageTransferCommand)
    (access : UInt32) (bytes : Buffer) : Buffer :=
  let bytes := clear bytes kStorageCommandBytes
  let bytes := writeU32 bytes 0 kCommandMagic
  let bytes := writeU16 bytes 4 kVersion
  let bytes := writeU16 bytes 6 operation.code
  let bytes := writeU64 bytes 8 command.commandId
  let bytes := writeU64 bytes 16 command.offset
  let bytes := writeU64 bytes 24 command.length
  let bytes := writeU64 bytes 32 command.data.address
  let bytes := writeU64 bytes 40 command.data.length
  let bytes := writeU32 bytes 48 command.data.remoteKey
  let bytes := writeU32 bytes 52 access
  writeU32 bytes 56 command.slotIndex

section CommandLayout

variable (operation : StorageOperation) (command : StorageTransferCommand) (access : UInt32)
  {bytes : Buffer} (h : kStorageCommandBytes ≤ bytes.length)

@[simp] theorem commandLayout_length :
    (commandLayout operation command access bytes).length = bytes.length := by
  simp [commandLayout]

include h in
/-- The fields of a command can be read back from its layout. -/
theorem commandLayout_fields :
    readU32 (commandLayout operation command access bytes) 0 = kCommandMagic ∧
    readU16 (commandLayout operation command access bytes) 4 = kVersion ∧
    readU16 (commandLayout operation command access bytes) 6 = operation.code ∧
    readU64 (commandLayout operation command access bytes) 8 = command.commandId ∧
    readU64 (commandLayout operation command access bytes) 16 = command.offset ∧
    readU64 (commandLayout operation command access bytes) 24 = command.length ∧
    readU64 (commandLayout operation command access bytes) 32 = command.data.address ∧
    readU64 (commandLayout operation command access bytes) 40 = command.data.length ∧
    readU32 (commandLayout operation command access bytes) 48 = command.data.remoteKey ∧
    readU32 (commandLayout operation command access bytes) 52 = access ∧
    readU32 (commandLayout operation command access bytes) 56 = command.slotIndex ∧
    readU32 (commandLayout operation command access bytes) 60 = 0 := by
  simp only [kStorageCommandBytes] at h
  refine ⟨?_, ?_, ?_, ?_, ?_, ?_, ?_, ?_, ?_, ?_, ?_, ?_⟩ <;>
    simp (disch := (simp only [put_length, clear_length, encode16_length, encode32_length,
      encode64_length]; omega)) only [commandLayout, readU16, readU32, readU64, writeU16,
      writeU32, writeU64, slice_put_disjoint, decode16_put, decode32_put, decode64_put]
  rw [kStorageCommandBytes, slice_clear h (by decide)]
  rfl

include h in
/-- The operation of a command is recognized without decoding the rest. -/
theorem deserializeStorageOperation_layout :
    deserializeStorageOperation (commandLayout operation command access bytes) =
      .ok operation := by
  obtain ⟨hMagic, hVersion, hOperation, -⟩ := commandLayout_fields operation command access h
  simp [deserializeStorageOperation, hMagic, hVersion, hOperation, Nat.not_lt.mpr h]

include h in
/-- A command with an identifier, a length and valid memory is read back. -/
theorem deserializeCommand_layout (hId : command.commandId ≠ 0) (hLength : command.length ≠ 0)
    (hData : memoryValid command.data 0) :
    deserializeCommand operation access (commandLayout operation command access bytes) =
      .ok command := by
  obtain ⟨hMagic, hVersion, hOperation, hId', hOffset, hLength', hAddress, hDataLength, hKey,
    hAccess, hSlot, hZero⟩ := commandLayout_fields operation command access h
  simp only [deserializeCommand, commandLayout_length, hMagic, hVersion, hOperation, hId',
    hOffset, hLength', hAddress, hDataLength, hKey, hAccess, hSlot, hZero, UInt32.and_self]
  rw [if_neg (Nat.not_lt.mpr h), if_neg (by simp), if_neg (by simp [hId, hLength, hData])]

end CommandLayout

section Commands

variable {bytes : Buffer} (h : kStorageCommandBytes ≤ bytes.length)

include h in
/-- Single transfers are refused exactly on a zero identifier or length or on
client memory that cannot hold the transfer. -/
theorem serializeTransfer_eq (operation : StorageOperation) (access : UInt32)
    (command : StorageTransferCommand) :
    serializeTransfer operation access command bytes =
      if command.commandId = 0 ∨ command.length = 0 ∨ ¬ memoryValid command.data command.length
      then (.error .invalidRecord, bytes)
      else (.ok (), commandLayout operation command access bytes) := by
  rw [serializeTransfer, serializeCommand, if_neg (Nat.not_lt.mpr h)]
  rfl

/-- Valid memory stays valid when nothing is required of its length. -/
private theorem memoryValid_zero {memory : StorageMemory} {required : UInt64}
    (hValid : memoryValid memory required) : memoryValid memory 0 := by
  simp only [memoryValid, Bool.and_eq_true, decide_eq_true_eq] at hValid ⊢
  exact ⟨⟨hValid.1.1, UInt64.zero_le⟩, hValid.2⟩

private theorem memoryValid_length {memory : StorageMemory} {required : UInt64}
    (hValid : memoryValid memory required) : memory.length ≥ required := by
  simp only [memoryValid, Bool.and_eq_true, decide_eq_true_eq] at hValid
  exact hValid.1.2

include h in
theorem deserializeTransfer_layout (operation : StorageOperation) (access : UInt32)
    (command : StorageTransferCommand) (hId : command.commandId ≠ 0)
    (hLength : command.length ≠ 0) (hData : memoryValid command.data command.length) :
    deserializeTransfer operation access (commandLayout operation command access bytes) =
      .ok command := by
  rw [deserializeTransfer, deserializeCommand_layout operation command access h hId hLength
    (memoryValid_zero hData)]
  exact if_pos (memoryValid_length hData)

/-- A batch command as the transfer record whose fields share its layout. -/
def StorageBatchCommand.asTransfer (command : StorageBatchCommand) : StorageTransferCommand where
  commandId := command.commandId
  offset := command.entryCount
  length := command.totalLength
  data := command.entries
  slotIndex := command.slotIndex

/-- The entry count fits the protocol limit and the descriptor array is covered. -/
def batchBounded (command : StorageBatchCommand) : Prop :=
  command.entryCount ≤ UInt64.ofNat kStorageMaxBatchEntries ∧
    command.entries.length ≥ entryArrayBytes command.entryCount

include h in
theorem deserializeBatch_layout (operation : StorageOperation) (command : StorageBatchCommand)
    (hId : command.commandId ≠ 0) (hTotal : command.totalLength ≠ 0)
    (hEntries : memoryValid command.entries (entryArrayBytes command.entryCount))
    (hBounded : batchBounded command) :
    deserializeBatch operation (commandLayout operation command.asTransfer kRemoteRead bytes) =
      .ok command := by
  rw [deserializeBatch, deserializeCommand_layout operation command.asTransfer kRemoteRead h hId
    hTotal (memoryValid_zero hEntries)]
  exact if_pos hBounded

include h in
theorem serializeBatch_ok (operation : StorageOperation) (command : StorageBatchCommand)
    (hId : command.commandId ≠ 0) (hTotal : command.totalLength ≠ 0)
    (hCount : command.entryCount ≠ 0)
    (hEntries : memoryValid command.entries (entryArrayBytes command.entryCount))
    (hBounded : batchBounded command) :
    serializeBatch operation command bytes =
      (.ok (), commandLayout operation command.asTransfer kRemoteRead bytes) := by
  have hOpen : ¬ (command.entryCount = 0 ∨
      command.entryCount > UInt64.ofNat kStorageMaxBatchEntries ∨
      command.entries.length < entryArrayBytes command.entryCount) := by
    rintro (hZero | hMany | hShort)
    · exact hCount hZero
    · exact UInt64.not_lt.mpr hBounded.1 hMany
    · exact UInt64.not_lt.mpr hBounded.2 hShort
  rw [serializeBatch, if_neg hOpen, serializeCommand, if_neg (Nat.not_lt.mpr h),
    if_neg (by simp [hId, hTotal, hEntries])]
  rfl

end Commands

section Completion

/-- The buffer a successful completion serializer leaves behind. -/
def completionLayout (completion : StorageCompletion) (bytes : Buffer) : Buffer :=
  let bytes := clear bytes kStorageCompletionBytes
  let bytes := writeU32 bytes 0 kCompletionMagic
  let bytes := writeU16 bytes 4 kVersion
  let bytes := writeU16 bytes 6 completion.state.code
  let bytes := writeU16 bytes 8 completion.status.code
  let bytes := writeU64 bytes 12 completion.commandId
  writeU64 bytes 20 completion.bytesTransferred

variable (completion : StorageCompletion) {bytes : Buffer}
  (h : kStorageCompletionBytes ≤ bytes.length)

@[simp] theorem completionLayout_length :
    (completionLayout completion bytes).length = bytes.length := by
  simp [completionLayout]

include h in
/-- The fields of a completion can be read back from its layout. -/
theorem completionLayout_fields :
    readU32 (completionLayout completion bytes) 0 = kCompletionMagic ∧
    readU16 (completionLayout completion bytes) 4 = kVersion ∧
    readU16 (completionLayout completion bytes) 6 = completion.state.code ∧
    readU16 (completionLayout completion bytes) 8 = completion.status.code ∧
    readU64 (completionLayout completion bytes) 12 = completion.commandId ∧
    readU64 (completionLayout completion bytes) 20 = completion.bytesTransferred := by
  simp only [kStorageCompletionBytes] at h
  refine ⟨?_, ?_, ?_, ?_, ?_, ?_⟩ <;>
    simp (disch := (simp only [put_length, clear_length, encode16_length, encode32_length,
      encode64_length]; omega)) only [completionLayout, readU16, readU32, readU64, writeU16,
      writeU32, writeU64, slice_put_disjoint, decode16_put, decode32_put, decode64_put]

include h in
/-- A completion is serialized exactly if it is valid. -/
theorem serializeStorageCompletion_eq :
    serializeStorageCompletion completion bytes =
      if completionValid completion then (.ok (), completionLayout completion bytes)
      else (.error .invalidRecord, bytes) := by
  rw [serializeStorageCompletion, if_neg (Nat.not_lt.mpr h)]
  by_cases hValid : completionValid completion
  · rw [if_neg (by simp [hValid]), if_pos hValid]
    rfl
  · rw [if_pos hValid, if_neg hValid]

include h in
/-- A completion that may be sent is received as it was sent. -/
theorem deserializeStorageCompletion_layout (hValid : completionValid completion) :
    deserializeStorageCompletion (completionLayout completion bytes) = .ok completion := by
  obtain ⟨hMagic, hVersion, hState, hStatus, hId, hBytes⟩ := completionLayout_fields completion h
  simp only [deserializeStorageCompletion, completionLayout_length, hMagic, hVersion, hState,
    hStatus, hId, hBytes, StorageCompletionState.ofCode_code, StorageStatus.ofCode_code]
  rw [if_neg (Nat.not_lt.mpr h), if_neg (by simp), if_pos hValid]

/-- A record that decodes carries an identifier. -/
theorem deserializeStorageCompletion_id {bytes : Buffer} {completion : StorageCompletion}
    (hRecord : deserializeStorageCompletion bytes = .ok completion) :
    completion.commandId ≠ 0 := by
  unfold deserializeStorageCompletion at hRecord
  split at hRecord
  · cases hRecord
  · split at hRecord
    · cases hRecord
    · split at hRecord
      · dsimp only at hRecord
        split at hRecord
        · rename_i hValid
          cases hRecord
          simp only [completionValid, Bool.and_eq_true, decide_eq_true_eq] at hValid
          exact hValid.1
        · cases hRecord
      · cases hRecord

end Completion

end NdsStorage
