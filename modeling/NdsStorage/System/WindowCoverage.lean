import NdsStorage.System.BenchmarkWindows

/-! What the windows of the benchmark ask of the server. The batches of a window
are the working set that was prepared, whatever windows came before it. -/
namespace NdsStorage.System.Benchmark

open Bytes Client Client.StorageClient Interaction Server

section Preparation

variable {read : Bool} {slotsPerQp slotCount queueIndex qpCount : Nat} {region : StorageMemory}
  {capacity : UInt64} {setup : Nat → QueueAnswers} {queues : List QueueResources}

/-- An entry with a length, an address and a key is valid. -/
theorem entryValid_of_eq {offset length address : UInt64} {key : UInt32} {entry : StorageBatchEntry}
    (h : entry = ⟨offset, length, ⟨address, length, key⟩⟩) (hLength : length ≠ 0)
    (hAddress : address ≠ 0) (hKey : key ≠ 0) : EntryValid entry := by
  rw [h]
  exact ⟨hLength, hAddress, hKey, Nat.le_refl _⟩

theorem serializeEntry_ok {entry : StorageBatchEntry} {bytes : Buffer}
    (hSize : kStorageBatchEntryBytes ≤ bytes.length) (hValid : EntryValid entry) :
    ∃ written, serializeEntry read entry bytes = (.ok (), written) := by
  cases read with
  | true => exact ⟨_, (entry_laidOut kRemoteWrite).serialize_ok entry bytes hSize hValid⟩
  | false => exact ⟨_, (entry_laidOut kRemoteRead).serialize_ok entry bytes hSize hValid⟩

/-- Entries into a registered region are encoded. -/
theorem encodeEntry_ok {encoded : Buffer} {transferIndex : Nat} (hKey : region.remoteKey ≠ 0)
    (hAddress : region.address + UInt64.ofNat (transferIndex * kTransferBytes) ≠ 0) :
    ∃ written,
      encodeEntry read slotsPerQp queueIndex region encoded transferIndex = .ok written := by
  have hValid : EntryValid (transferEntry slotsPerQp queueIndex region transferIndex) :=
    entryValid_of_eq (transferEntry.eq_def ..) (by decide) hAddress hKey
  obtain ⟨bytes, hBytes⟩ := @serializeEntry_ok read _
    (slice encoded (transferIndex * kStorageBatchEntryBytes) kStorageBatchEntryBytes)
    (Nat.le_of_eq (slice_length ..).symm) hValid
  unfold encodeEntry
  dsimp only
  rw [hBytes]
  exact ⟨_, rfl⟩

/-- The entries of a queue can be encoded when its memory is registered and no
block of it is at the null address. -/
theorem encodeEntries_ok (hKey : region.remoteKey ≠ 0)
    (hAddress : ∀ transferIndex < transfersPerQp slotsPerQp,
      region.address + UInt64.ofNat (transferIndex * kTransferBytes) ≠ 0) :
    ∃ encoded, encodeEntries read slotsPerQp queueIndex region = .ok encoded := by
  rw [encodeEntries, transferOrder_eq]
  have hEach : ∀ transferIndex ∈ List.range (transfersPerQp slotsPerQp),
      region.address + UInt64.ofNat (transferIndex * kTransferBytes) ≠ 0 :=
    fun transferIndex hIndex => hAddress transferIndex (List.mem_range.mp hIndex)
  generalize List.replicate _ (0 : UInt8) = encoded
  generalize List.range (transfersPerQp slotsPerQp) = transfers at hEach ⊢
  induction transfers generalizing encoded with
  | nil => exact ⟨encoded, rfl⟩
  | cons transferIndex rest ih =>
      obtain ⟨written, hWritten⟩ := @encodeEntry_ok read slotsPerQp queueIndex region encoded
        transferIndex hKey (hEach transferIndex List.mem_cons_self)
      rw [List.foldlM_cons, hWritten]
      exact ih written fun later hLater => hEach later (List.mem_cons_of_mem _ hLater)

/-- The queues hold the entries that were encoded for them. -/
def Encoded (read : Bool) (slotsPerQp : Nat) (queues : List QueueResources) : Prop :=
  ∀ queueIndex queue, queues[queueIndex]? = some queue →
    encodeEntries read slotsPerQp queueIndex queue.region = .ok queue.entries

/-- A queue whose answers are good is prepared. -/
theorem prepareQueue_ok {answers : QueueAnswers} {regions : StorageMemory × StorageMemory}
    {entries : Buffer} (hRegions : answers.regions = .ok regions)
    (hEntries : encodeEntries read slotsPerQp queueIndex regions.1 = .ok entries)
    (hCopied : answers.copied = .ok ()) :
    prepareQueue read slotsPerQp queueIndex answers =
      .ok { region := regions.1, entriesRegion := regions.2, entries := entries } := by
  rw [prepareQueue, hRegions, hCopied]
  change (encodeEntries read slotsPerQp queueIndex regions.1 >>= fun entries => _) = _
  rw [hEntries]
  rfl

/-- A queue that is prepared has its entries encoded. -/
theorem prepareQueue_encoded {answers : QueueAnswers} {queue : QueueResources}
    (h : prepareQueue read slotsPerQp queueIndex answers = .ok queue) :
    encodeEntries read slotsPerQp queueIndex queue.region = .ok queue.entries := by
  unfold prepareQueue at h
  obtain ⟨regions, -, h⟩ := ok_of_bind h
  obtain ⟨entries, hEntries, h⟩ := ok_of_bind h
  obtain ⟨-, -, h⟩ := ok_of_bind h
  cases h
  exact hEntries

/-- Preparation gives every queue its entries and has checked the namespace. -/
theorem prepare_encoded (h : prepare read qpCount slotCount capacity setup = .ok queues) :
    queues.length = qpCount ∧ Encoded read (slotCount / qpCount) queues ∧
      requiredNamespace qpCount (slotCount / qpCount) ≤ capacity := by
  unfold prepare at h
  split at h
  · cases h
  · dsimp only at h
    split at h
    · cases h
    · split at h
      · cases h
      · rename_i hSmall
        have hEach := forall₂_of_mapM h
        have hLength : queues.length = qpCount := by
          rw [← hEach.length_eq, List.length_range]
        refine ⟨hLength, fun queueIndex queue hQueue => ?_, UInt64.not_lt.mp hSmall⟩
        obtain ⟨hInside, rfl⟩ := List.getElem?_eq_some_iff.mp hQueue
        have hHere := hEach.get (by rw [List.length_range]; omega) hInside
        rw [List.get_eq_getElem, List.getElem_range] at hHere
        exact prepareQueue_encoded hHere

/-- The namespace that is required does not wrap around. -/
theorem Fits.of_required (hSmall : qpCount * slotsPerQp < 65536)
    (hInside : requiredNamespace qpCount slotsPerQp ≤ capacity) :
    Fits qpCount slotsPerQp capacity := by
  have hProduct : qpCount * transfersPerQp slotsPerQp = qpCount * slotsPerQp * 8 := by
    rw [transfersPerQp, ← Nat.mul_assoc]
    rfl
  have hRequired : requiredNamespace qpCount slotsPerQp =
      UInt64.ofNat (qpCount * transfersPerQp slotsPerQp * kTransferBytes) := by
    rw [requiredNamespace, UInt64.ofNat_mul, UInt64.ofNat_mul]
  have hBytes : kTransferBytes = 262144 := rfl
  refine ⟨by omega, ?_⟩
  rw [hRequired, hBytes, UInt64.le_iff_toNat_le, UInt64.toNat_ofNat_of_lt' (by
    change _ < 2 ^ 64
    omega)] at hInside
  rw [hBytes]
  exact hInside

end Preparation

/-- Lists that are related by equal images have the same images. -/
theorem map_eq_of_forall₂ {α β γ : Type} {f : α → γ} {g : β → γ} {as : List α} {bs : List β}
    (h : List.Forall₂ (fun a b => g b = f a) as bs) : bs.map g = as.map f := by
  induction h with
  | nil => rfl
  | cons hHead _ ih => rw [List.map_cons, List.map_cons, hHead, ih]

section Verdicts

variable {read : Bool} {slotsPerQp index : Nat} {capacity : UInt64}
  {queues : List QueueResources} {work : SlotWork} {works : List SlotWork}

/-- The verdict of the server on the batch of a slot. The entries are fetched
from the memory of its queue, by their key and address. -/
def batchRequests (capacity : UInt64) (read : Bool) (queues : List QueueResources)
    (work : SlotWork) : StorageStatus × UInt64 × List TransferRequest :=
  match queues[(storageSlotIdQueue work.slotId).toNat]? with
  | none => (.invalidCommand, 0, [])
  | some queue =>
      if work.entriesKey = queue.entriesRegion.remoteKey then
        decodeEntries capacity read
          (slice queue.entries (work.entriesAddress - queue.entriesRegion.address).toNat
            (work.entryCount.toNat * kStorageBatchEntryBytes)) work.entryCount.toNat 0 0 []
      else
        (.invalidCommand, 0, [])

/-- The requests of a turn of a queue, as they were planned. -/
def plannedSlot (queues : List QueueResources) (slotsPerQp queueIndex bufferSlot : Nat) :
    List TransferRequest :=
  queues[queueIndex]?.toList.flatMap fun queue =>
    slotRequests slotsPerQp queueIndex bufferSlot queue.region

/-- A window uses every slot once, in table order. The server accepts each batch,
and over the window they ask for every block of the working set exactly once. -/
structure Covers (capacity : UInt64) (read : Bool) (queues : List QueueResources)
    (slotsPerQp : Nat) (works : List SlotWork) : Prop where
  slots_eq : works.map (fun work => (storageSlotIdIndex work.slotId).toNat) =
    List.range (queues.length * slotsPerQp)
  accepted : ∀ work ∈ works, (batchRequests capacity read queues work).1 = .success
  requests_perm : (works.flatMap fun work => (batchRequests capacity read queues work).2.2).Perm
    (workingSet queues slotsPerQp)
  offsets_perm : (works.flatMap fun work =>
      (batchRequests capacity read queues work).2.2.map fun request =>
        request.localOffset.toNat).Perm
    ((List.range (queues.length * transfersPerQp slotsPerQp)).map (· * kTransferBytes))

/-- The handle of a slot names the slot and its queue. -/
theorem slotIdOf_parts (hSmall : queues.length * slotsPerQp < 65536)
    (hIndex : index < queues.length * slotsPerQp) :
    (storageSlotIdIndex (slotIdOf queues.length index)).toNat = index ∧
      (storageSlotIdQueue (slotIdOf queues.length index)).toNat = index % queues.length := by
  have hMod : index % queues.length ≤ index := Nat.mod_le _ _
  have hIndexWord : (UInt32.ofNat index).toNat = index :=
    UInt32.toNat_ofNat_of_lt' (by change _ < 4294967296; omega)
  have hQueueWord : (UInt32.ofNat (index % queues.length)).toNat = index % queues.length :=
    UInt32.toNat_ofNat_of_lt' (by change _ < 4294967296; omega)
  have hParts := storageSlotId_parts (UInt32.ofNat (index % queues.length)) (UInt32.ofNat index)
    (by omega) (by omega)
  rw [hIndexWord, hQueueWord] at hParts
  exact hParts

/-- The batch of a slot asks for the blocks of the slot. -/
theorem IsWork.requests (hFits : Fits queues.length slotsPerQp capacity)
    (hEncoded : Encoded read slotsPerQp queues) (hSmall : queues.length * slotsPerQp < 65536)
    (hIndex : index < queues.length * slotsPerQp) (h : IsWork queues index work) :
    batchRequests capacity read queues work =
      (.success, UInt64.ofNat (kBatchEntries * kTransferBytes),
        plannedSlot queues slotsPerQp (index % queues.length) (index / queues.length)) := by
  obtain ⟨queue, hQueue, rfl⟩ := h
  obtain ⟨hInside, -⟩ := List.getElem?_eq_some_iff.mp hQueue
  have hTurn : index / queues.length < slotsPerQp := Nat.div_lt_of_lt_mul hIndex
  have hLess : index / queues.length ≤ index := Nat.div_le_self _ _
  have hOffset : (queue.entriesRegion.address + UInt64.ofNat (index / queues.length *
      kBatchEntries * kStorageBatchEntryBytes) - queue.entriesRegion.address).toNat =
      index / queues.length * kBatchEntries * kStorageBatchEntryBytes := by
    rw [UInt64.add_comm, UInt64.add_sub_cancel]
    apply UInt64.toNat_ofNat_of_lt'
    change index / queues.length * 8 * 40 < 2 ^ 64
    omega
  have hDecoded := encodeEntries_decoded (hEncoded _ _ hQueue)
  unfold batchRequests slotWork
  dsimp only
  rw [(slotIdOf_parts hSmall hIndex).2, hQueue]
  dsimp only
  rw [if_pos rfl, hOffset, plannedSlot, hQueue, Option.toList_some, List.flatMap_singleton]
  apply decodeEntries_slot hFits hInside hTurn
  intro entryIndex hEntry
  have hRoom : entryIndex * kStorageBatchEntryBytes + kStorageBatchEntryBytes ≤
      (UInt32.ofNat kBatchEntries).toNat * kStorageBatchEntryBytes := by
    rw [← Nat.succ_mul]
    exact Nat.mul_le_mul_right _ hEntry
  rw [slice_slice _ hRoom, ← Nat.add_mul]
  exact hDecoded _ (transfer_lt hTurn hEntry)

/-- The working set, slot after slot of each queue. -/
theorem workingSet_slots (queues : List QueueResources) (slotsPerQp : Nat) :
    workingSet queues slotsPerQp = (List.range queues.length).flatMap fun queueIndex =>
      (List.range slotsPerQp).flatMap fun bufferSlot =>
        plannedSlot queues slotsPerQp queueIndex bufferSlot := by
  unfold workingSet
  apply List.flatMap_congr
  intro queueIndex hQueue
  have hInside := List.getElem?_eq_getElem (List.mem_range.mp hQueue)
  rw [hInside, Option.toList_some, List.flatMap_singleton, ← slotRequests_queue]
  apply List.flatMap_congr
  intro bufferSlot _
  rw [plannedSlot, hInside, Option.toList_some, List.flatMap_singleton]

/-- The batches of all slots are the working set. -/
theorem Covers.of_work (hFits : Fits queues.length slotsPerQp capacity)
    (hEncoded : Encoded read slotsPerQp queues) (hSmall : queues.length * slotsPerQp < 65536)
    (h : List.Forall₂ (IsWork queues) (List.range (queues.length * slotsPerQp)) works) :
    Covers capacity read queues slotsPerQp works := by
  have hAll : List.Forall₂ (fun index work => index < queues.length * slotsPerQp ∧
      IsWork queues index work) (List.range (queues.length * slotsPerQp)) works := by
    apply (List.forall₂_and_left _ _).mpr
    exact ⟨fun index hIndex => List.mem_range.mp hIndex, h⟩
  have hRequests : (works.flatMap fun work => (batchRequests capacity read queues work).2.2).Perm
      (workingSet queues slotsPerQp) := by
    have hSame : works.map (fun work => (batchRequests capacity read queues work).2.2) =
        (List.range (queues.length * slotsPerQp)).map fun index =>
          plannedSlot queues slotsPerQp (index % queues.length) (index / queues.length) :=
      map_eq_of_forall₂ (hAll.imp fun index work hWork => by
        rw [hWork.2.requests hFits hEncoded hSmall hWork.1])
    rw [List.flatMap_def, hSame, ← List.flatMap_def]
    rw [workingSet_slots]
    exact dealt_perm slotsPerQp (plannedSlot queues slotsPerQp)
  refine ⟨?_, ?_, hRequests, ?_⟩
  · rw [← List.map_id (List.range (queues.length * slotsPerQp))]
    refine map_eq_of_forall₂ (hAll.imp fun index work hWork => ?_)
    obtain ⟨queue, -, rfl⟩ := hWork.2
    exact (slotIdOf_parts hSmall hWork.1).1
  · intro work hWork
    have hStatus : works.map (fun work => (batchRequests capacity read queues work).1) =
        (List.range (queues.length * slotsPerQp)).map fun _ => .success :=
      map_eq_of_forall₂ (hAll.imp fun index work hWork => by
        rw [hWork.2.requests hFits hEncoded hSmall hWork.1])
    have hMember := List.mem_map_of_mem (f := fun work =>
      (batchRequests capacity read queues work).1) hWork
    rw [hStatus, List.mem_map] at hMember
    obtain ⟨-, -, hSuccess⟩ := hMember
    exact hSuccess.symm
  · rw [← workingSet_offsets hFits, ← List.map_flatMap]
    exact hRequests.map _

end Verdicts

section Runs

variable {read : Bool} {slotsPerQp qpCount : Nat} {client : StorageClient} {capacity : UInt64}
  {queues : List QueueResources} {answers : WindowAnswers} {setup : Nat → QueueAnswers}

/-- What a window that starts with all slots free does. -/
structure WindowDone (queues : List QueueResources) (slotsPerQp : Nat) (answers : WindowAnswers)
    (client : StorageClient) (window : WindowResult) : Prop where
  given : ∀ error, window.result = .error error → answers.Gives error
  worked : (window.work = [] ∧ ∃ error, window.result = .error error) ∨
    List.Forall₂ (IsWork queues) (List.range (queues.length * slotsPerQp)) window.work
  next : window.result = .ok () →
    Taking queues.length 0 window.client ∧ window.client.slots = client.slots

/-- What a window does, whatever it is answered. -/
theorem runWindow_done (h : Taking queues.length 0 client)
    (hSlots : client.slots.length = queues.length * slotsPerQp) (answers : WindowAnswers) :
    WindowDone queues slotsPerQp answers client (runWindow queues slotsPerQp answers client) := by
  have hPositive := h.opened.slots_positive
  rw [← h.opened.slots_length, hSlots] at hPositive
  have hComplete : ¬(queues = [] ∨ slotsPerQp = 0) := by
    rintro (hNone | hNone) <;> simp [hNone] at hPositive
  have hRange : 0 + queues.length * slotsPerQp = client.slots.length := by omega
  unfold runWindow
  rw [if_neg hComplete]
  rcases collectWork_all h hSlots hRange with
    ⟨error, after, hFailed, hGiven⟩ | ⟨works, after, hWork, hAll, hTaken, hSame⟩
  · rw [hFailed]
    refine ⟨?_, .inl ⟨rfl, error, rfl⟩, nofun⟩
    intro other hOther
    cases hOther
    exact hGiven
  · rw [hWork]
    rw [← List.range_eq_range'] at hAll
    dsimp only
    cases hSubmitted : submitAll answers 0 works with
    | error error =>
        refine ⟨?_, .inr hAll, nofun⟩
        intro other hOther
        cases hOther
        exact submitAll_gives hSubmitted
    | ok =>
        rw [← hSame] at hRange
        rw [List.range_eq_range'] at hAll
        dsimp only
        rcases waitAll_all hTaken.released hAll hRange with
          ⟨error, last, hFailed, hGiven⟩ | ⟨last, hDone, hLast, hKept⟩
        · rw [hFailed]
          refine ⟨?_, .inr (by rw [List.range_eq_range']; exact hAll), nofun⟩
          intro other hOther
          cases hOther
          exact hGiven
        · rw [hDone]
          exact ⟨nofun, .inr (by rw [List.range_eq_range']; exact hAll),
            fun _ => ⟨hLast.free, hKept.trans hSame⟩⟩

/-- The windows of a run, each with what the runtime and the launcher answered. -/
theorem runWindows_done (h : Taking queues.length 0 client)
    (hSlots : client.slots.length = queues.length * slotsPerQp) (windows : List WindowAnswers) :
    (∀ window ∈ runWindows queues slotsPerQp windows client, ∃ answers ∈ windows, ∃ before,
      WindowDone queues slotsPerQp answers before window) ∧
    ((∀ answers ∈ windows, ∀ error, ¬ answers.Gives error) →
      (runWindows queues slotsPerQp windows client).map (·.result) =
        windows.map fun _ => .ok ()) := by
  induction windows generalizing client with
  | nil => exact ⟨nofun, fun _ => rfl⟩
  | cons answers rest ih =>
      have hFirst := runWindow_done h hSlots answers
      rw [runWindows]
      cases hResult : (runWindow queues slotsPerQp answers client).result with
      | error error =>
          refine ⟨?_, ?_⟩
          · intro window hWindow
            cases List.mem_singleton.mp hWindow
            exact ⟨answers, List.mem_cons_self, client, hFirst⟩
          · intro hNone
            exact absurd (hFirst.given error hResult) (hNone answers List.mem_cons_self error)
      | ok =>
          obtain ⟨hFree, hSame⟩ := hFirst.next hResult
          obtain ⟨hRest, hAll⟩ := ih hFree (by rw [hSame]; exact hSlots)
          refine ⟨?_, ?_⟩
          · intro window hWindow
            rcases List.mem_cons.mp hWindow with rfl | hLater
            · exact ⟨answers, List.mem_cons_self, client, hFirst⟩
            · obtain ⟨given, hGiven, hDone⟩ := hRest window hLater
              exact ⟨given, List.mem_cons_of_mem _ hGiven, hDone⟩
          · intro hNone
            rw [List.map_cons, List.map_cons, hResult,
              hAll fun given hGiven => hNone given (List.mem_cons_of_mem _ hGiven)]

/-- An opened client takes its slots from the first. -/
theorem openClient_taking {qpNum psn : UInt32} (h : openClient qpCount qpNum psn = .ok client) :
    Taking qpCount 0 client := by
  have hOpened := openClient_opened h
  unfold openClient at h
  split at h
  · cases h
  · split at h
    · cases h
    · cases h
      exact ⟨hOpened, fun _ _ => rfl, (Nat.zero_mod _).symm⟩

/-- Every window of the benchmark that begins its work covers the working set,
and a window only fails when the runtime or the launcher does: the slots that are
taken always belong to their queues, and they are free again for the next window. -/
theorem windows_cover {qpNum psn : UInt32} (hOpen : openClient qpCount qpNum psn = .ok client)
    (hPrepared : prepare read qpCount client.slots.length capacity setup = .ok queues)
    (windows : List WindowAnswers) :
    (∀ window ∈ runWindows queues (client.slots.length / qpCount) windows client,
      (∀ error, window.result = .error error → ∃ answers ∈ windows, answers.Gives error) ∧
      ((window.work = [] ∧ ∃ error, window.result = .error error) ∨
        Covers capacity read queues (client.slots.length / qpCount) window.work)) ∧
    ((∀ answers ∈ windows, ∀ error, ¬ answers.Gives error) →
      (runWindows queues (client.slots.length / qpCount) windows client).map (·.result) =
        windows.map fun _ => .ok ()) := by
  obtain ⟨hLength, hEncoded, hNamespace⟩ := prepare_encoded hPrepared
  have hTaking := openClient_taking hOpen
  have hPositive := hTaking.opened.positive
  have hSmall := hTaking.opened.small
  have hCount := hTaking.opened.slots_length
  have hTurns : client.slots.length / qpCount = kStorageSlotsPerQp := by
    rw [hCount, Nat.mul_div_cancel_left _ hPositive]
  rw [hTurns] at hEncoded hNamespace ⊢
  subst hLength
  have hFits := Fits.of_required hSmall hNamespace
  obtain ⟨hWindows, hAll⟩ := runWindows_done hTaking hCount windows
  refine ⟨fun window hWindow => ?_, hAll⟩
  obtain ⟨answers, hAnswers, before, hDone⟩ := hWindows window hWindow
  refine ⟨fun error hError => ⟨answers, hAnswers, hDone.given error hError⟩, ?_⟩
  rcases hDone.worked with hFailed | hWork
  · exact .inl hFailed
  · exact .inr (Covers.of_work hFits hEncoded hSmall hWork)

/-- A window in which nothing fails. -/
def quietAnswers : WindowAnswers where
  cleared _ := .ok ()
  copied _ := .ok ()
  submitted _ := .ok ()
  waited _ := .ok ()
  released _ := .ok ()

theorem quietAnswers_gives (error : Error) : ¬ quietAnswers.Gives error := by
  rintro ⟨_, hGiven⟩
  rcases hGiven with h | h | h | h | h <;> cases h

def submitFailed : Error where
  code := .runtime
  message := "the launcher refused a batch"

/-- A window in which the fourth batch is refused. -/
def refusedAnswers : WindowAnswers :=
  { quietAnswers with
    submitted := fun position => if position = 3 then .error submitFailed else .ok () }

theorem refusedAnswers_gives {error : Error} (h : refusedAnswers.Gives error) :
    error = submitFailed := by
  obtain ⟨position, hGiven⟩ := h
  rcases hGiven with h | h | h | h | h
  · cases h
  · cases h
  · simp only [refusedAnswers] at h
    split at h
    · cases h
      rfl
    · cases h
  · cases h
  · cases h

/-- The two buffers of a queue, for its transfers and for their entries. -/
def twoRegions (queueIndex : Nat) : StorageMemory × StorageMemory :=
  (⟨UInt64.ofNat (4096 + queueIndex * 67108864), 33554432, 5⟩,
    ⟨UInt64.ofNat (536870912 + queueIndex * 8192), 5120, 6⟩)

def twoQueues (queueIndex : Nat) : QueueAnswers where
  regions := .ok (twoRegions queueIndex)
  copied := .ok ()

/-- Two windows over two queues, and a third one that a refused batch ends. -/
theorem windows_cover_refused :
    ∃ client queues, openClient 2 7 9 = .ok client ∧
      prepare true 2 client.slots.length 1099511627776 twoQueues = .ok queues ∧
      (∀ window ∈ runWindows queues (client.slots.length / 2)
          [quietAnswers, quietAnswers, refusedAnswers] client,
        (∀ error, window.result = .error error → error = submitFailed) ∧
        ((window.work = [] ∧ ∃ error, window.result = .error error) ∨
          Covers 1099511627776 true queues (client.slots.length / 2) window.work)) ∧
      (runWindows queues (client.slots.length / 2) [quietAnswers, quietAnswers] client).map
        (·.result) = [.ok (), .ok ()] := by
  obtain ⟨client, hOpen⟩ : ∃ client, openClient 2 7 9 = .ok client := ⟨_, rfl⟩
  have hCount : client.slots.length = 32 := (openClient_opened hOpen).slots_length
  have hQueue : ∀ queueIndex < 2, ∃ queue,
      prepareQueue true 16 queueIndex (twoQueues queueIndex) = .ok queue := by
    have hAddress : ∀ queueIndex < 2, ∀ transferIndex < transfersPerQp 16,
        (twoRegions queueIndex).1.address + UInt64.ofNat (transferIndex * kTransferBytes) ≠ 0 := by
      decide +kernel
    intro queueIndex hIndex
    obtain ⟨entries, hEntries⟩ := @encodeEntries_ok true 16 queueIndex (twoRegions queueIndex).1
      (by simp [twoRegions]) (hAddress queueIndex hIndex)
    exact ⟨_, prepareQueue_ok rfl hEntries rfl⟩
  obtain ⟨first, hFirst⟩ := hQueue 0 (by decide)
  obtain ⟨second, hSecond⟩ := hQueue 1 (by decide)
  have hPrepared : prepare true 2 client.slots.length 1099511627776 twoQueues =
      .ok [first, second] := by
    unfold prepare
    rw [hCount, if_neg (by decide)]
    dsimp only
    rw [if_neg (by decide), if_neg (by decide), show List.range 2 = [0, 1] from rfl,
      List.mapM_cons, List.mapM_cons, List.mapM_nil, show 32 / 2 = 16 from rfl, hFirst, hSecond]
    rfl
  refine ⟨client, [first, second], hOpen, hPrepared, fun window hWindow => ?_, ?_⟩
  · obtain ⟨hGiven, hCovers⟩ := (windows_cover hOpen hPrepared
      [quietAnswers, quietAnswers, refusedAnswers]).1 window hWindow
    refine ⟨fun error hError => ?_, hCovers⟩
    obtain ⟨answers, hAnswers, hGives⟩ := hGiven error hError
    simp only [List.mem_cons, List.not_mem_nil, or_false] at hAnswers
    rcases hAnswers with rfl | rfl | rfl
    · exact absurd hGives (quietAnswers_gives error)
    · exact absurd hGives (quietAnswers_gives error)
    · exact refusedAnswers_gives hGives
  · refine (windows_cover hOpen hPrepared [quietAnswers, quietAnswers]).2 fun answers hAnswers => ?_
    rw [List.eq_of_mem_replicate (show answers ∈ List.replicate 2 quietAnswers from hAnswers)]
    exact quietAnswers_gives

end Runs

end NdsStorage.System.Benchmark
