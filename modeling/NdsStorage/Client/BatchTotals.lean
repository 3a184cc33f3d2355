import Mathlib.Algebra.Ring.Nat
import Mathlib.Logic.Basic
import NdsStorage.Client.Backends
import NdsStorage.Protocol.Wire

/-! The totals of batches. The device backends guard a 64-bit sum by a
subtraction from the largest 32-bit number. For an entry that is longer than
this number the subtraction wraps around, so the guard may let it pass, and the
sum is cut to 32 bits afterwards. The host backend checks each entry first. -/
namespace NdsStorage.Client

open Bytes

section Entries

variable (deserialize : Buffer → Except SerdeError StorageBatchEntry) (entries : Buffer)

/-- One entry of a descriptor array. -/
def entryAt (index : Nat) : Except SerdeError StorageBatchEntry :=
  deserialize (slice entries (index * kStorageBatchEntryBytes) kStorageBatchEntryBytes)

def entryLength (index : Nat) : Nat :=
  match entryAt deserialize entries index with
  | .error _ => 0
  | .ok entry => entry.length.toNat

/-- The lengths of the first entries, added up over the integers. -/
def lengthSum : Nat → Nat
  | 0 => 0
  | count + 1 => lengthSum count + entryLength deserialize entries count

def EntriesDecode (count : Nat) : Prop :=
  ∀ index < count, ∃ entry, entryAt deserialize entries index = .ok entry

end Entries

section Guard

/-- What the guard of the device backends lets pass. Beyond 32 bits it allows
for one turn of the 64-bit sum. -/
def GuardPasses (total length : Nat) : Prop :=
  total + length < 2 ^ 32 ∨ 2 ^ 32 ≤ length ∧ total + length < 2 ^ 64 + 2 ^ 32

/-- The guard of the source, on numbers. -/
theorem guardPasses_iff (total length : UInt64) :
    ¬ total > kMaxUInt32 - length ↔ GuardPasses total.toNat length.toNat := by
  have hTotal := total.toNat_lt
  have hLength := length.toNat_lt
  have hMax : kMaxUInt32.toNat = 2 ^ 32 - 1 := rfl
  rw [gt_iff_lt, UInt64.not_lt, UInt64.le_iff_toNat_le, UInt64.toNat_sub, hMax, GuardPasses]
  omega

variable {deserialize : Buffer → Except SerdeError StorageBatchEntry} {entries : Buffer}

/-- The entry at an index decodes, is not empty and passes the guard behind the
entries in front of it. -/
structure EntryPasses (deserialize : Buffer → Except SerdeError StorageBatchEntry)
    (entries : Buffer) (index : Nat) : Prop where
  decodes : ∃ entry, entryAt deserialize entries index = .ok entry
  length_pos : 0 < entryLength deserialize entries index
  guard : GuardPasses (lengthSum deserialize entries index % 2 ^ 64)
    (entryLength deserialize entries index)

/-- The loop of the device backends comes to its end if and only if each entry
passes. It then holds the sum up to turns of the 64-bit counter. -/
theorem sumEntries_eq_some_iff {remaining index : Nat} {total result : UInt64}
    (hTotal : total.toNat = lengthSum deserialize entries index % 2 ^ 64) :
    sumEntries deserialize entries remaining index total = some result ↔
      (∀ later, index ≤ later → later < index + remaining →
        EntryPasses deserialize entries later) ∧
      result.toNat = lengthSum deserialize entries (index + remaining) % 2 ^ 64 := by
  induction remaining generalizing index total with
  | zero =>
      rw [sumEntries, Option.some.injEq, ← UInt64.toNat_inj, hTotal, Nat.add_zero]
      constructor
      · intro hSame
        exact ⟨fun later hFrom hTo => absurd hTo (Nat.not_lt.mpr hFrom), hSame.symm⟩
      · intro hEnd
        exact hEnd.2.symm
  | succ remaining ih =>
      rw [sumEntries]
      change (match entryAt deserialize entries index with
        | .error _ => none
        | .ok entry => if entry.length = 0 ∨ total > kMaxUInt32 - entry.length then none
            else sumEntries deserialize entries remaining (index + 1) (total + entry.length)) =
          some result ↔ _
      cases hEntry : entryAt deserialize entries index with
      | error failure =>
          apply iff_of_false (by simp)
          intro hEnd
          obtain ⟨entry, hDecoded⟩ := (hEnd.1 index (Nat.le_refl _) (by omega)).decodes
          rw [hEntry] at hDecoded
          cases hDecoded
      | ok entry =>
          have hLength : entryLength deserialize entries index = entry.length.toNat := by
            rw [entryLength, hEntry]
          have hPasses : ¬ (entry.length = 0 ∨ total > kMaxUInt32 - entry.length) ↔
              EntryPasses deserialize entries index := by
            rw [not_or, guardPasses_iff, hTotal, ← hLength, ← UInt64.toNat_inj, ← hLength]
            constructor
            · intro hFree
              exact ⟨⟨entry, hEntry⟩, Nat.pos_of_ne_zero hFree.1, hFree.2⟩
            · intro hEntryPasses
              exact ⟨Nat.ne_of_gt hEntryPasses.length_pos, hEntryPasses.guard⟩
          have hNext : (total + entry.length).toNat =
              lengthSum deserialize entries (index + 1) % 2 ^ 64 := by
            rw [UInt64.toNat_add, hTotal, lengthSum, hLength, Nat.mod_add_mod]
          by_cases hRefused : entry.length = 0 ∨ total > kMaxUInt32 - entry.length
          · dsimp only
            rw [if_pos hRefused]
            apply iff_of_false (by simp)
            intro hEnd
            exact hPasses.mpr (hEnd.1 index (Nat.le_refl _) (by omega)) hRefused
          · dsimp only
            rw [if_neg hRefused, ih hNext, show index + 1 + remaining = index + (remaining + 1) by
              omega]
            apply and_congr_left
            intro _
            constructor
            · intro hLater later hFrom hTo
              obtain rfl | hFrom := Nat.eq_or_lt_of_le hFrom
              · exact hPasses.mp hRefused
              · exact hLater later hFrom hTo
            · intro hAll later hFrom hTo
              exact hAll later (by omega) hTo

/-- Entries of 32 bits that pass the guard add up to 32 bits. -/
theorem lengthSum_lt {count : Nat} (hPasses : ∀ index < count, EntryPasses deserialize entries index)
    (hSmall : ∀ index < count, entryLength deserialize entries index < 2 ^ 32) :
    lengthSum deserialize entries count < 2 ^ 32 := by
  induction count with
  | zero => exact Nat.two_pow_pos 32
  | succ count ih =>
      have hFront := ih (fun index hIndex => hPasses index (by omega))
        (fun index hIndex => hSmall index (by omega))
      have hLast := hSmall count (Nat.lt_succ_self count)
      have hGuard := (hPasses count (Nat.lt_succ_self count)).guard
      rw [GuardPasses, Nat.mod_eq_of_lt (by omega)] at hGuard
      rw [lengthSum]
      omega

theorem entryLength_le_lengthSum {index count : Nat} (hIndex : index < count) :
    entryLength deserialize entries index ≤ lengthSum deserialize entries count := by
  induction count with
  | zero => omega
  | succ count ih =>
      rw [lengthSum]
      obtain rfl | hBefore := Nat.eq_or_lt_of_le (Nat.le_of_lt_succ hIndex)
      · exact Nat.le_add_left _ _
      · exact Nat.le_trans (ih hBefore) (Nat.le_add_right _ _)

end Guard

section Totals

/-- An array that the operations look at: at an address, with a key and with at
least one and at most as many entries as a batch may have. -/
structure BatchArgs.Present (args : BatchArgs) : Prop where
  address_ne : args.entriesAddress ≠ 0
  key_ne : args.entriesKey ≠ 0
  count_ne : args.entryCount ≠ 0
  count_le : args.entryCount ≤ UInt32.ofNat kStorageMaxBatchEntries

variable {args : BatchArgs} {deserialize : Buffer → Except SerdeError StorageBatchEntry}
  {entries : Buffer}

/-- A batch with entries and a total serializes under any identifier. -/
theorem BatchArgs.writer_ok {total commandId : UInt64}
    (operation : StorageOperation) (slotIndex : UInt32) (hPresent : args.Present)
    (hTotal : total ≠ 0) (hId : commandId ≠ 0) :
    ∃ message, args.writer total (serializeBatch operation) commandId slotIndex =
      (.ok (), message) := by
  have hCount := UInt32.le_iff_toNat_le.mp hPresent.count_le
  have hLimit : (UInt32.ofNat kStorageMaxBatchEntries).toNat = kStorageMaxBatchEntries := rfl
  rw [hLimit] at hCount
  have hPositive : args.entryCount.toNat ≠ 0 := by
    intro hZero
    exact hPresent.count_ne (UInt32.toNat_inj.mp hZero)
  have hMany : args.entryCount.toUInt64.toNat ≤ kStorageMaxBatchEntries := by
    rw [UInt32.toNat_toUInt64]
    exact hCount
  have hValid : BatchValid (args.command total commandId slotIndex) := by
    refine ⟨hId, hTotal, ?_, hMany, hPresent.address_ne, hPresent.key_ne, ?_⟩
    · rw [show (args.command total commandId slotIndex).entryCount =
        args.entryCount.toUInt64 from rfl, UInt32.toNat_toUInt64]
      omega
    · exact Nat.le_of_eq (entryArrayBytes_toNat hMany).symm
  obtain ⟨hSome, hBounded, -, -, hEntries⟩ := batchValid_iff.mp hValid
  exact ⟨_, serializeBatch_ok (Nat.le_of_eq List.length_replicate.symm) operation _ hId hTotal hSome
    hEntries hBounded⟩

/-- The sum in 64 bits is the true sum, reduced. -/
theorem batchSum_toNat (hPresent : args.Present)
    (hPasses : ∀ index < args.entryCount.toNat, EntryPasses deserialize entries index) :
    (batchSum args deserialize entries).toNat =
      lengthSum deserialize entries args.entryCount.toNat % 2 ^ 64 := by
  have hSome : sumEntries deserialize entries args.entryCount.toNat 0 0 = some (UInt64.ofNat
      (lengthSum deserialize entries args.entryCount.toNat)) := by
    apply (sumEntries_eq_some_iff rfl).mpr
    rw [Nat.zero_add]
    exact ⟨fun index _ hIndex => hPasses index hIndex, UInt64.toNat_ofNat'⟩
  rw [batchSum, if_neg, hSome]
  · exact UInt64.toNat_ofNat'
  · simp [hPresent.address_ne, hPresent.key_ne, hPresent.count_ne,
      UInt32.not_lt.mpr hPresent.count_le]

theorem batchSum_ne_zero (h : batchSum args deserialize entries ≠ 0) :
    args.Present ∧ ∀ index < args.entryCount.toNat, EntryPasses deserialize entries index := by
  rw [batchSum] at h
  split at h
  · exact absurd rfl h
  · rename_i hPresent
    simp only [not_or, gt_iff_lt, UInt32.not_lt] at hPresent
    refine ⟨⟨hPresent.1, hPresent.2.1, hPresent.2.2.1, hPresent.2.2.2⟩, ?_⟩
    cases hSum : sumEntries deserialize entries args.entryCount.toNat 0 0 with
    | none =>
        rw [hSum] at h
        exact absurd rfl h
    | some total =>
        intro index hIndex
        exact ((sumEntries_eq_some_iff rfl).mp hSum).1 index (Nat.zero_le index) (by omega)

/-- An entry that the host takes: its data covers it and it lies in the namespace. -/
structure EntryFits (capacity : UInt64) (entry : StorageBatchEntry) : Prop where
  length_ne : entry.length ≠ 0
  address_ne : entry.data.address ≠ 0
  key_ne : entry.data.remoteKey ≠ 0
  covered : entry.length ≤ entry.data.length
  offset_le : entry.offset ≤ capacity
  length_le : entry.length ≤ capacity - entry.offset

theorem lengthSum_mono {count more : Nat} :
    lengthSum deserialize entries count ≤ lengthSum deserialize entries (count + more) := by
  induction more with
  | zero => exact Nat.le_refl _
  | succ more ih => exact Nat.le_trans ih (Nat.le_add_right _ _)

/-- The check that the host makes of one entry behind others. -/
theorem raEntry_taken_iff {capacity total : UInt64} {entry : StorageBatchEntry} :
    ¬ (entry.length = 0 ∨ entry.data.address = 0 ∨ entry.data.remoteKey = 0 ∨
        entry.data.length < entry.length ∨ entry.offset > capacity ∨
        entry.length > capacity - entry.offset ∨ entry.length > kMaxUInt32 ∨
        total > kMaxUInt32 - entry.length) ↔
      EntryFits capacity entry ∧ total.toNat + entry.length.toNat < 2 ^ 32 := by
  have hMax : kMaxUInt32.toNat = 2 ^ 32 - 1 := rfl
  have hRoom : ¬ entry.length > kMaxUInt32 ∧ ¬ total > kMaxUInt32 - entry.length ↔
      total.toNat + entry.length.toNat < 2 ^ 32 := by
    simp only [gt_iff_lt, UInt64.not_lt, UInt64.le_iff_toNat_le, hMax]
    constructor
    · rintro ⟨hNarrow, hFits⟩
      rw [UInt64.toNat_sub_of_le _ _ (UInt64.le_iff_toNat_le.mpr (hMax ▸ hNarrow)), hMax] at hFits
      omega
    · intro hSum
      have hNarrow : entry.length.toNat ≤ 2 ^ 32 - 1 := by omega
      rw [UInt64.toNat_sub_of_le _ _ (UInt64.le_iff_toNat_le.mpr (hMax ▸ hNarrow)), hMax]
      omega
  rw [← hRoom]
  simp only [not_or, gt_iff_lt, UInt64.not_lt]
  constructor
  · rintro ⟨hLength, hAddress, hKey, hCovered, hOffset, hEnd, hBoth⟩
    exact ⟨⟨hLength, hAddress, hKey, hCovered, hOffset, hEnd⟩, hBoth⟩
  · rintro ⟨⟨hLength, hAddress, hKey, hCovered, hOffset, hEnd⟩, hBoth⟩
    exact ⟨hLength, hAddress, hKey, hCovered, hOffset, hEnd, hBoth⟩

/-- The host backend adds up exactly, and it takes every array whose entries all
fit and add up to 32 bits. -/
theorem raSumEntries_eq_ok_iff {capacity : UInt64} {remaining index : Nat} {total result : UInt64}
    (hTotal : total.toNat = lengthSum deserialize entries index) :
    raSumEntries capacity deserialize entries remaining index total = .ok result ∧
        lengthSum deserialize entries index < 2 ^ 32 ↔
      (∀ later, index ≤ later → later < index + remaining →
        ∃ entry, entryAt deserialize entries later = .ok entry ∧ EntryFits capacity entry) ∧
      result.toNat = lengthSum deserialize entries (index + remaining) ∧
      lengthSum deserialize entries (index + remaining) < 2 ^ 32 := by
  induction remaining generalizing index total with
  | zero =>
      rw [raSumEntries, Except.ok.injEq, ← UInt64.toNat_inj, hTotal, Nat.add_zero]
      constructor
      · rintro ⟨hSame, hSmall⟩
        exact ⟨fun later hFrom hTo => absurd hTo (Nat.not_lt.mpr hFrom), hSame.symm, hSmall⟩
      · rintro ⟨-, hSame, hSmall⟩
        exact ⟨hSame.symm, hSmall⟩
  | succ remaining ih =>
      rw [raSumEntries]
      change (match entryAt deserialize entries index with
        | .error _ => _
        | .ok entry => _) = _ ∧ _ ↔ _
      cases hEntry : entryAt deserialize entries index with
      | error failure =>
          apply iff_of_false
          · rintro ⟨hDone, -⟩
            cases hDone
          · rintro ⟨hAll, -⟩
            obtain ⟨entry, hDecoded, -⟩ := hAll index (Nat.le_refl _) (by omega)
            rw [hEntry] at hDecoded
            cases hDecoded
      | ok entry =>
          have hLength : entryLength deserialize entries index = entry.length.toNat := by
            rw [entryLength, hEntry]
          have hNext : lengthSum deserialize entries (index + 1) =
              total.toNat + entry.length.toNat := by
            rw [lengthSum, hTotal, hLength]
          rw [show index + (remaining + 1) = index + 1 + remaining by omega]
          dsimp only
          split
          · rename_i hRefused
            apply iff_of_false
            · rintro ⟨hDone, -⟩
              cases hDone
            · rintro ⟨hAll, -, hSmall⟩
              obtain ⟨other, hDecoded, hFits⟩ := hAll index (Nat.le_refl _) (by omega)
              rw [hEntry] at hDecoded
              cases hDecoded
              refine raEntry_taken_iff.mpr ⟨hFits, ?_⟩ hRefused
              rw [← hNext]
              exact Nat.lt_of_le_of_lt lengthSum_mono hSmall
          · rename_i hTaken
            obtain ⟨hFits, hSum⟩ := raEntry_taken_iff.mp hTaken
            have hAdded : (total + entry.length).toNat =
                lengthSum deserialize entries (index + 1) := by
              rw [UInt64.toNat_add, Nat.mod_eq_of_lt (by omega), hNext]
            have hNow : lengthSum deserialize entries index < 2 ^ 32 := by omega
            have hThen : lengthSum deserialize entries (index + 1) < 2 ^ 32 := by omega
            rw [and_iff_left hNow, ← and_iff_left (a := raSumEntries _ _ _ _ _ _ = _) hThen,
              ih hAdded]
            apply and_congr_left
            intro _
            constructor
            · intro hLater later hFrom hTo
              obtain rfl | hFrom := Nat.eq_or_lt_of_le hFrom
              · exact ⟨entry, hEntry, hFits⟩
              · exact hLater later hFrom hTo
            · intro hAll later hFrom hTo
              exact hAll later (by omega) hTo

/-- A batch that the host takes. -/
structure BatchFits (capacity : UInt64) (args : BatchArgs)
    (deserialize : Buffer → Except SerdeError StorageBatchEntry) (entries : Buffer) : Prop where
  present : args.Present
  entries_fit : ∀ index < args.entryCount.toNat,
    ∃ entry, entryAt deserialize entries index = .ok entry ∧ EntryFits capacity entry
  total_lt : lengthSum deserialize entries args.entryCount.toNat < 2 ^ 32

/-- The host decodes exactly the batches that fit, if their entries can be copied. -/
theorem raDecodeEntries_eq_ok_iff {context : RaStorageContext} {copied : Except Error Unit}
    {total : UInt64} :
    raDecodeEntries context args deserialize (copied.map fun _ => entries) = .ok total ↔
      copied = .ok () ∧ BatchFits context.capacity args deserialize entries ∧
        total.toNat = lengthSum deserialize entries args.entryCount.toNat := by
  unfold raDecodeEntries
  split
  · rename_i hAbsent
    apply iff_of_false
    · intro hDone
      cases hDone
    · rintro ⟨-, ⟨hPresent, -, -⟩, -⟩
      simp [hPresent.address_ne, hPresent.key_ne, hPresent.count_ne,
        UInt32.not_lt.mpr hPresent.count_le] at hAbsent
  · rename_i hPresent
    simp only [not_or, gt_iff_lt, UInt32.not_lt] at hPresent
    obtain ⟨hSome, hMany, hAddress, hKey⟩ := hPresent
    cases copied with
    | error error =>
        apply iff_of_false
        · intro hDone
          cases hDone
        · rintro ⟨hCopied, -⟩
          cases hCopied
    | ok _ =>
        have hSum := @raSumEntries_eq_ok_iff deserialize entries context.capacity
          args.entryCount.toNat 0 0 total rfl
        have hNone : lengthSum deserialize entries 0 < 2 ^ 32 := Nat.two_pow_pos 32
        rw [and_iff_left hNone, Nat.zero_add] at hSum
        refine Iff.trans hSum ?_
        constructor
        · rintro ⟨hFits, hTotal, hSmall⟩
          exact ⟨rfl, ⟨⟨hAddress, hKey, hSome, hMany⟩, fun index hIndex =>
            hFits index (Nat.zero_le index) hIndex, hSmall⟩, hTotal⟩
        · rintro ⟨-, ⟨-, hFits, hSmall⟩, hTotal⟩
          exact ⟨fun index _ hIndex => hFits index hIndex, hTotal, hSmall⟩

/-- A total that is the exact sum of entries that all decode. -/
structure ExactTotal (deserialize : Buffer → Except SerdeError StorageBatchEntry)
    (entries : Buffer) (count total : Nat) : Prop where
  decodes : EntriesDecode deserialize entries count
  total_eq : total = lengthSum deserialize entries count
  total_lt : total < 2 ^ 32

/-- The totals of the three backends for one array. -/
structure TotalsExact (args : BatchArgs)
    (deserialize : Buffer → Except SerdeError StorageBatchEntry) (entries : Buffer) : Prop where
  aiv : aivBatchTotal args deserialize entries ≠ 0 →
    ExactTotal deserialize entries args.entryCount.toNat
      (aivBatchTotal args deserialize entries).toNat
  aicpu : aicpuBatchBytes args deserialize entries ≠ 0 →
    ExactTotal deserialize entries args.entryCount.toNat
      (aicpuBatchBytes args deserialize entries).toNat
  host : ∀ (context : RaStorageContext) (copied : Except Error Unit) (total : UInt64),
    raDecodeEntries context args deserialize (copied.map fun _ => entries) = .ok total →
    ExactTotal deserialize entries args.entryCount.toNat total.toNat
  same : aivBatchTotal args deserialize entries = aicpuBatchBytes args deserialize entries
  refused : ¬ EntriesDecode deserialize entries args.entryCount.toNat ∨
      2 ^ 32 ≤ lengthSum deserialize entries args.entryCount.toNat →
    aivBatchTotal args deserialize entries = 0 ∧ aicpuBatchBytes args deserialize entries = 0

/-- An array in which an entry longer than 32 bits passes the guard with all
the others, and whose sum is not a multiple of the 32-bit range. -/
structure SlipsThrough (args : BatchArgs)
    (deserialize : Buffer → Except SerdeError StorageBatchEntry) (entries : Buffer) : Prop where
  present : args.Present
  passes : ∀ index < args.entryCount.toNat, EntryPasses deserialize entries index
  oversized : ∃ index < args.entryCount.toNat, 2 ^ 32 ≤ entryLength deserialize entries index
  remainder : ¬ 2 ^ 32 ∣ lengthSum deserialize entries args.entryCount.toNat

/-- A batch that slips through is taken for one of some bytes. -/
theorem aivBatchTotal_ne_zero (hSlips : SlipsThrough args deserialize entries) :
    aivBatchTotal args deserialize entries ≠ 0 := by
  intro hZero
  have hNat := congrArg UInt32.toNat hZero
  rw [aivBatchTotal, UInt64.toNat_toUInt32, batchSum_toNat hSlips.present hSlips.passes] at hNat
  apply hSlips.remainder
  rw [Nat.dvd_iff_mod_eq_zero]
  simpa only [UInt32.toNat_zero, Nat.mod_mod_of_dvd _ (show 2 ^ 32 ∣ 2 ^ 64 by decide)] using hNat

/-- A batch that does not slip through is taken for its true total. -/
theorem aivBatchTotal_exact (hFine : ¬ SlipsThrough args deserialize entries)
    (hSome : aivBatchTotal args deserialize entries ≠ 0) :
    ExactTotal deserialize entries args.entryCount.toNat
        (aivBatchTotal args deserialize entries).toNat ∧
      aivBatchTotal args deserialize entries = aicpuBatchBytes args deserialize entries := by
  have hSum : batchSum args deserialize entries ≠ 0 := by
    intro hZero
    rw [aivBatchTotal, hZero] at hSome
    exact hSome rfl
  obtain ⟨hPresent, hPasses⟩ := batchSum_ne_zero hSum
  have hToNat := batchSum_toNat hPresent hPasses
  have hNarrow : (aivBatchTotal args deserialize entries).toNat =
      lengthSum deserialize entries args.entryCount.toNat % 2 ^ 32 := by
    rw [aivBatchTotal, UInt64.toNat_toUInt32, hToNat,
      Nat.mod_mod_of_dvd _ (show 2 ^ 32 ∣ 2 ^ 64 by decide)]
  have hRemainder : ¬ 2 ^ 32 ∣ lengthSum deserialize entries args.entryCount.toNat := by
    intro hDivides
    apply hSome
    apply UInt32.toNat_inj.mp
    rw [hNarrow]
    exact Nat.mod_eq_zero_of_dvd hDivides
  have hSmall : lengthSum deserialize entries args.entryCount.toNat < 2 ^ 32 := by
    apply lengthSum_lt hPasses
    intro index hIndex
    apply Nat.lt_of_not_le
    intro hLong
    exact hFine ⟨hPresent, hPasses, ⟨index, hIndex, hLong⟩, hRemainder⟩
  rw [Nat.mod_eq_of_lt (by omega)] at hToNat
  rw [Nat.mod_eq_of_lt hSmall] at hNarrow
  refine ⟨⟨fun index hIndex => (hPasses index hIndex).decodes, hNarrow, by omega⟩, ?_⟩
  rw [aicpuBatchBytes, if_neg]
  · rfl
  · rw [gt_iff_lt, UInt64.lt_iff_toNat_lt, hToNat, show kMaxUInt32.toNat = 2 ^ 32 - 1 from rfl]
    omega

theorem raDecodeEntries_exact {context : RaStorageContext} {copied : Except Error Unit}
    {total : UInt64}
    (h : raDecodeEntries context args deserialize (copied.map fun _ => entries) = .ok total) :
    ExactTotal deserialize entries args.entryCount.toNat total.toNat := by
  obtain ⟨-, hFits, hTotal⟩ := raDecodeEntries_eq_ok_iff.mp h
  refine ⟨fun index hIndex => ?_, hTotal, hTotal ▸ hFits.total_lt⟩
  obtain ⟨entry, hEntry, -⟩ := hFits.entries_fit index hIndex
  exact ⟨entry, hEntry⟩

/-- The totals are right unless an oversized entry slips through. -/
theorem batch_totals_exact_iff (args : BatchArgs)
    (deserialize : Buffer → Except SerdeError StorageBatchEntry) (entries : Buffer) :
    TotalsExact args deserialize entries ↔ ¬ SlipsThrough args deserialize entries := by
  constructor
  · intro hExact hSlips
    obtain ⟨index, hIndex, hLong⟩ := hSlips.oversized
    have hTotal := hExact.aiv (aivBatchTotal_ne_zero hSlips)
    have hSmall := hTotal.total_lt
    rw [hTotal.total_eq] at hSmall
    have hPart : entryLength deserialize entries index ≤ _ := entryLength_le_lengthSum hIndex
    omega
  · intro hFine
    have hSame : aivBatchTotal args deserialize entries =
        aicpuBatchBytes args deserialize entries := by
      by_cases hZero : aivBatchTotal args deserialize entries = 0
      · rw [aicpuBatchBytes, hZero]
        split
        · rfl
        · exact hZero.symm
      · exact (aivBatchTotal_exact hFine hZero).2
    have hRefused : ¬ EntriesDecode deserialize entries args.entryCount.toNat ∨
        2 ^ 32 ≤ lengthSum deserialize entries args.entryCount.toNat →
        aivBatchTotal args deserialize entries = 0 := by
      intro hBad
      by_contra hSome
      obtain ⟨hDecodes, hTotal, hSmall⟩ := (aivBatchTotal_exact hFine hSome).1
      obtain hUndecoded | hLarge := hBad
      · exact hUndecoded hDecodes
      · omega
    exact {
      aiv := fun hSome => (aivBatchTotal_exact hFine hSome).1
      aicpu := fun hSome => hSame ▸ (aivBatchTotal_exact hFine (hSame.symm ▸ hSome)).1
      host := fun context copied total hTotal => raDecodeEntries_exact hTotal
      same := hSame
      refused := fun hBad => ⟨hRefused hBad, hSame ▸ hRefused hBad⟩ }

/-- Two entries of a read, of ten bytes and of all but five of the 64-bit range. -/
def wrappingEntries : Buffer :=
  let entry (length : UInt64) : StorageBatchEntry := {
    offset := 0
    length := length
    data := { address := 4096, length := length, remoteKey := 5 } }
  (serializeStorageBatchReadEntry (entry 10) (List.replicate kStorageBatchEntryBytes 0)).2 ++
    (serializeStorageBatchReadEntry (entry 0xfffffffffffffffb)
      (List.replicate kStorageBatchEntryBytes 0)).2

def pairArgs : BatchArgs where
  slotId := 0
  entryCount := 2
  entriesAddress := 8192
  entriesKey := 5

/-- Both device backends take these two entries for a batch of five bytes. -/
theorem batch_totals_wrapping :
    aivBatchTotal pairArgs deserializeStorageBatchReadEntry wrappingEntries = 5 ∧
      aicpuBatchBytes pairArgs deserializeStorageBatchReadEntry wrappingEntries = 5 ∧
      lengthSum deserializeStorageBatchReadEntry wrappingEntries 2 = 2 ^ 64 + 5 ∧
      ¬ TotalsExact pairArgs deserializeStorageBatchReadEntry wrappingEntries := by
  have hTotal : aivBatchTotal pairArgs deserializeStorageBatchReadEntry wrappingEntries = 5 := by
    decide +kernel
  have hSum : lengthSum deserializeStorageBatchReadEntry wrappingEntries 2 = 2 ^ 64 + 5 := by
    decide +kernel
  refine ⟨hTotal, by decide +kernel, hSum, ?_⟩
  intro hExact
  have hZero := (hExact.refused (.inr (by
    change 2 ^ 32 ≤ lengthSum deserializeStorageBatchReadEntry wrappingEntries 2
    omega))).1
  rw [hTotal] at hZero
  cases hZero

end Totals

end NdsStorage.Client
