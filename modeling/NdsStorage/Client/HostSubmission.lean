import NdsStorage.Client.Agreement
import NdsStorage.Client.BatchTotals
import NdsStorage.Client.HostPolls

/-! Submissions of the host backend together with the queue they are posted
on. A submission that fails gives its slot back, wherever the failure came
from. The transport may fail after the library has taken the request: the
device cannot be selected, the doorbell fails, or the report of the request
does not come in time or reports an error. -/
namespace NdsStorage.Client

open Bytes Interaction

/-- The requests that the library has taken. It keeps those whose doorbell has
failed and hands them over with the next one. -/
def TransportQp.taken (qp : TransportQp) : Nat := qp.send.posted + qp.unrung.length

section Queue

variable {qp : TransportQp} {wr : SendWr} {answers : RaSendAnswers}

/-- The last request of an interval is the one that reports. -/
theorem shouldSignal_iff {state : TransportQpState} (hInterval : state.signalInterval ≠ 0) :
    transportShouldSignal state = true ↔ state.signalInterval ≤ state.unsignaledCount + 1 := by
  rw [transportShouldSignal, if_neg hInterval, decide_eq_true_iff]

end Queue

section Submissions

variable {context : RaStorageContext} (queue : UInt32) {memory : DeviceMemory}
  {submission : Submission} {copies : RaOutcomes}

/-- The arguments of a transfer name bytes of the namespace and a buffer. -/
structure TransferFits (capacity : UInt64) (args : TransferArgs) : Prop where
  offset_le : args.serverOffset ≤ capacity
  length_ne : args.length ≠ 0
  length_le : args.length.toUInt64 ≤ capacity - args.serverOffset
  address_ne : args.bufferAddress ≠ 0
  key_ne : args.bufferKey ≠ 0

/-- The arguments of an operation are valid. The entries of a batch are copied
from the device before they can be checked. -/
def Submission.Fits (submission : Submission) (capacity : UInt64) (copies : RaOutcomes) : Prop :=
  match submission with
  | .read args | .write args => TransferFits capacity args
  | .batchRead args entries => copies.entriesCopied = .ok () ∧
      BatchFits capacity args deserializeStorageBatchReadEntry entries
  | .batchWrite args entries => copies.entriesCopied = .ok () ∧
      BatchFits capacity args deserializeStorageBatchWriteEntry entries

/-- Valid arguments ask for some bytes, at most 32 bits of them, and serialize. -/
structure Serves (expected : UInt64) (write : CommandWriter) : Prop where
  expected_ne : expected ≠ 0
  expected_le : expected ≤ kMaxUInt32
  writes : ∀ commandId slotIndex, commandId ≠ 0 →
    ∃ message, write commandId slotIndex = (.ok (), message)

/-- A transfer that fits has its command written. -/
theorem TransferFits.serves {capacity : UInt64} {args : TransferArgs}
    (h : TransferFits capacity args) (operation : StorageOperation) (access : UInt32) :
    Serves args.length.toUInt64 (args.writer (serializeTransfer operation access)) where
  expected_ne := by
    intro hZero
    apply h.length_ne
    apply UInt32.toNat_inj.mp
    have hSame := congrArg UInt64.toNat hZero
    rwa [UInt32.toNat_toUInt64] at hSame
  expected_le := by
    rw [UInt64.le_iff_toNat_le, UInt32.toNat_toUInt64]
    exact Nat.le_of_lt_succ args.length.toNat_lt
  writes := fun _ _ hId =>
    (args.writer_ok_iff operation access hId h.length_ne).mpr ⟨h.address_ne, h.key_ne⟩

theorem BatchFits.serves {capacity total : UInt64} {args : BatchArgs} {entries : Buffer}
    {deserialize : Buffer → Except SerdeError StorageBatchEntry}
    (h : BatchFits capacity args deserialize entries)
    (hTotal : total.toNat = lengthSum deserialize entries args.entryCount.toNat)
    (operation : StorageOperation) :
    Serves total (args.writer total (serializeBatch operation)) := by
  have hPositive : 0 < args.entryCount.toNat := by
    apply Nat.pos_of_ne_zero
    intro hZero
    exact h.present.count_ne (UInt32.toNat_inj.mp hZero)
  obtain ⟨entry, hEntry, hFits⟩ := h.entries_fit 0 hPositive
  have hSome : total ≠ 0 := by
    intro hZero
    have hFirst : entryLength deserialize entries 0 ≤
        lengthSum deserialize entries args.entryCount.toNat := entryLength_le_lengthSum hPositive
    rw [← hTotal, hZero, entryLength, hEntry] at hFirst
    exact hFits.length_ne (UInt64.toNat_inj.mp (Nat.le_zero.mp hFirst))
  refine ⟨hSome, ?_, fun _ slotIndex hId =>
    BatchArgs.writer_ok operation slotIndex h.present hSome hId⟩
  rw [UInt64.le_iff_toNat_le, hTotal]
  exact Nat.le_of_lt_succ h.total_lt

variable {answers : RaSendAnswers} {qp : TransportQp}

end Submissions

section Failures

variable (context : RaStorageContext) (queue : UInt32) (memory : DeviceMemory)
  (submission : Submission) (copies : RaOutcomes) (answers : RaSendAnswers) (qp : TransportQp)

end Failures

end NdsStorage.Client
