import NdsStorage.Client.NamespaceAnswer
import NdsStorage.Client.Registration
import NdsStorage.Server.Setup
import NdsStorage.System.SlotOrder

/-! The start of a session. The main thread of the server reads the bootstrap
record and the slot table out of the memory of a client, and answers into that
memory, while the client polls it. -/
namespace NdsStorage.System

open Bytes Interaction Server Client

/-- What a server finds in the memory of a client that was opened. -/
structure Prepared (qpCount : Nat) (client : StorageMembers) : Prop where
  opened : client.toStorageClient.Opened qpCount
  record : deserializeStorageBootstrap client.bootstrapBytes = .ok (bootstrapRecord client)
  blank : client.namespaceBytes = noBytes kStorageNamespaceBytes
  table_eq : client.table = client.toStorageClient.slotTable (client.regions .command).memory
    (client.regions .completion).memory
  namespace_length : (client.regions .storageNamespace).length =
    UInt64.ofNat kStorageNamespaceBytes
  table_length : (client.regions .slotTable).length =
    UInt64.ofNat (client.table.length * kStorageSlotDescriptorBytes)
  slots_valid : client.table.all (slotValid qpCount) = true

section Opened

variable {host : Host} {transport : Transport} {runtime : Runtime} {client client' : StorageMembers}

/-- Every entry of the table passes the checks of the server. -/
theorem granted_table_valid (granted : Granted transport host.answers)
    (hFits : ∀ member, (host.allocators member).Fits) (hCount : 0 < transport.qpCount)
    (hSmall : transport.qpCount * kStorageSlotsPerQp < kStorageSlotIndexLimit) :
    granted.members.table.all (slotValid transport.qpCount) = true := by
  rw [List.all_eq_true]
  intro slot hSlot
  obtain ⟨resources, hResources, rfl⟩ := List.mem_map.mp hSlot
  obtain ⟨index, hIndex, rfl⟩ := List.mem_map.mp hResources
  rw [List.mem_range] at hIndex
  have hQueue : index % transport.qpCount < transport.qpCount := Nat.mod_lt _ hCount
  have hLimit : kStorageSlotIndexLimit = 65536 := rfl
  have hPer : kStorageSlotsPerQp = 16 := rfl
  obtain ⟨hCommand, hCommandKey, -, hCommandFits⟩ := granted.region_checked .command
  obtain ⟨hCompletion, hCompletionKey, -, hCompletionFits⟩ := granted.region_checked .completion
  have hCommandAddress := part_address hCommand (hCommandFits (hFits .command))
    (Nat.mul_lt_mul_of_pos_right hIndex (by decide : 0 < kStorageCommandBytes))
  have hCompletionAddress := part_address hCompletion (hCompletionFits (hFits .completion))
    (Nat.mul_lt_mul_of_pos_right hIndex (by decide : 0 < kStorageCompletionBytes))
  have hNumber : (UInt32.ofNat (index % transport.qpCount)).toNat = index % transport.qpCount := by
    rw [UInt32.toNat_ofNat']
    apply Nat.mod_eq_of_lt
    rw [hPer, hLimit] at hSmall
    omega
  simp only [slotValid, Bool.and_eq_true, decide_eq_true_eq]
  exact ⟨⟨⟨⟨⟨⟨⟨rfl, Nat.lt_of_le_of_lt (Nat.le_of_eq hNumber) hQueue⟩, hCommandAddress⟩,
    UInt64.le_refl _⟩,
    hCommandKey⟩, hCompletionAddress⟩, UInt64.le_refl _⟩, hCompletionKey⟩

/-- An open that succeeds leaves the client prepared. -/
theorem openStorage_prepared (hClosed : Closed client)
    (hFits : ∀ member, (host.allocators member).Fits)
    (h : openStorage (some runtime) (some transport) host.answers client = (.ok (), client')) :
    Prepared transport.qpCount client' := by
  have hOk := congrArg Prod.fst h
  have hSlots := openStorage_slots hClosed hOk
  rw [h] at hSlots
  obtain ⟨_, _, hPresent, hLink, hPasses⟩ := setsFlag_of_ok hClosed hOk
  cases hPresent
  cases hLink
  obtain ⟨granted⟩ := hPasses.granted
  rw [openStorage_passes hClosed hPasses granted] at h hOk
  have hClient := finishOpen_ok hOk
  rw [h] at hClient
  subst hClient
  have hTable : granted.members.table.length = transport.qpCount * kStorageSlotsPerQp := by
    simp [Granted.members, StorageClient.slotLayout]
  exact {
    opened := StorageClient.openClient_opened hSlots
    record := by
      -- the record was checked when it was laid out
      unfold finishOpen prepareBootstrap at hOk
      rw [runStages_ok (show setOpened _ = .ok _ from rfl)] at hOk
      obtain ⟨checked, hChecked, -⟩ := runStages_first hOk
      unfold checkBootstrap at hChecked
      split at hChecked
      · cases hChecked
      · split at hChecked
        · cases hChecked
        next hWritten =>
          have hSize : kStorageBootstrapBytes ≤ (noBytes kStorageBootstrapBytes).length := by
            simp [noBytes]
          exact (bootstrap_laidOut.survives _ hSize).recovered hWritten
    blank := rfl
    table_eq := rfl
    namespace_length := (granted.region_checked .storageNamespace).2.2.1
    table_length := by
      have hLength := (granted.region_checked .slotTable).2.2.1
      rw [← hTable] at hLength
      exact hLength
    slots_valid := granted_table_valid granted hFits hPasses.positive hPasses.fits }

end Opened

section Prepared

variable {qpCount : Nat} {client : StorageMembers}

theorem Prepared.table_count (h : Prepared qpCount client) :
    client.table.length = qpCount * kStorageSlotsPerQp := by
  rw [h.table_eq, StorageClient.slotTable, List.length_map, h.opened.slots_length]

theorem Prepared.slot_count (h : Prepared qpCount client) :
    (bootstrapRecord client).slotCount.toNat = client.table.length := by
  have hSmall := h.opened.small
  have hLimit : kStorageSlotIndexLimit = 65536 := rfl
  rw [h.table_count, bootstrapRecord, UInt32.toNat_ofNat', h.opened.slots_length]
  exact Nat.mod_eq_of_lt (by omega)

/-- The registered table is as long as its rows. -/
theorem Prepared.table_bytes (h : Prepared qpCount client) :
    (client.regions .slotTable).length.toNat =
      client.table.length * kStorageSlotDescriptorBytes := by
  have hSmall := h.opened.small
  have hLimit : kStorageSlotIndexLimit = 65536 := rfl
  have hBytes : kStorageSlotDescriptorBytes = 56 := rfl
  rw [h.table_length, UInt64.toNat_ofNat', h.table_count, hBytes]
  exact Nat.mod_eq_of_lt (by omega)

theorem Prepared.slotTableValid (h : Prepared qpCount client) :
    slotTableValid (bootstrapRecord client) = true := by
  have hSmall := h.opened.small
  have hPositive := h.opened.slots_positive
  have hLimit : kStorageSlotIndexLimit = 65536 := rfl
  have hCount := h.slot_count
  have hBytes := h.table_bytes
  rw [h.table_count] at hCount hBytes
  have hSome : (bootstrapRecord client).slotCount ≠ 0 := by
    intro hZero
    rw [hZero, UInt32.toNat_zero] at hCount
    omega
  have hLength : (bootstrapRecord client).slots.length.toNat =
      qpCount * kStorageSlotsPerQp * kStorageSlotDescriptorBytes := hBytes
  have hMost : 65536 ≤ 0xffffffff / kStorageSlotDescriptorBytes := by decide
  simp only [Server.slotTableValid, hCount, hLength, Bool.and_eq_true, decide_eq_true_eq]
  exact ⟨⟨hSome, by omega⟩, Nat.le_refl _⟩

/-- The worker that the table gives to a queue pair. -/
def tableWorker (qpCount commandCount queue : Nat) : Worker where
  qpIndex := queue
  commandCount := commandShare commandCount qpCount queue
  slots := if commandShare commandCount qpCount queue = 0 then []
    else (List.range kStorageSlotsPerQp).map fun turn => turn * qpCount + queue

/-- Every queue gets a worker with its own slots. -/
theorem Prepared.workers (h : Prepared qpCount client) (commandCount : Nat) :
    (List.range qpCount).mapM (makeWorker client.table commandCount qpCount) =
      .ok ((List.range qpCount).map (tableWorker qpCount commandCount)) := by
  apply mapM_eq_ok
  intro queue hQueue
  have hSlots := slotsOf_slotTable (client.regions .command).memory
    (client.regions .completion).memory h.opened (List.mem_range.mp hQueue)
  rw [← h.table_eq] at hSlots
  by_cases hShare : commandShare commandCount qpCount queue = 0
  · rw [makeWorker_idle hShare, tableWorker, hShare]
    rfl
  · simp only [makeWorker, if_neg hShare, hSlots, tableWorker]
    exact if_neg (by simp [kStorageSlotsPerQp, List.range_succ])

end Prepared

/-- What the two sides share until the workers start. -/
structure Handshake where
  published : Bool
  posted : Bool
  sent : Bool
  received : Bool
  answer : Option Buffer
  landed : Nat → Bool
  copies : List (Except Error Buffer)
  failure : Option Error

namespace Handshake

def begin : Handshake where
  published := false
  posted := false
  sent := false
  received := false
  answer := none
  landed := fun _ => false
  copies := []
  failure := none

/-- The namespace buffer of the client at this moment. -/
def buffer (client : StorageMembers) (state : Handshake) : Buffer :=
  match state.answer with
  | none => client.namespaceBytes
  | some record => overlay state.landed client.namespaceBytes record

/-- The client sends its record and copies its namespace buffer whenever it
likes, and the bytes of an answer land in any order. -/
inductive Drift (client : StorageMembers) (state : Handshake) : Handshake → Prop
  | send (hPublished : state.published = true) : Drift client state { state with sent := true }
  | land (index : Nat) (hAnswer : state.answer ≠ none) :
      Drift client state { state with landed := Function.update state.landed index true }
  | copy : Drift client state { state with copies := state.copies ++ [.ok (state.buffer client)] }
  | copyFails (error : Error) :
      Drift client state { state with copies := state.copies ++ [.error error] }

def fail (state : Handshake) (error : Error) : Handshake := { state with failure := some error }

/-- Any call may fail, which is recorded. The wait for an answer returns when
all its bytes have landed. -/
def reply (client : StorageMembers) (state : Handshake) :
    (call : SetupCall) → call.Answer → Handshake → Prop
  | .publishQps, .ok (), state' => state' = { state with published := true }
  | .postReceive, .ok (), state' => state' = { state with posted := true }
  | .waitReceive, .ok (), state' =>
      state.sent = true ∧ state.posted = true ∧ state' = { state with received := true }
  | .loadBootstrap, bytes, state' =>
      (state.received = true → bytes = client.bootstrapBytes) ∧ state' = state
  | .postWrite _ _ bytes, .ok (), state' => state' = { state with answer := some bytes }
  | .waitWrite, .ok (), state' =>
      (∀ record, state.answer = some record →
        ∀ index < record.length, state.landed index = true) ∧ state' = state
  | .readSlots _ _ _, .ok slots, state' => slots = client.table ∧ state' = state
  | .connectQps, .ok (), state' => state' = state
  | .registerMemory, .ok (), state' => state' = state
  | .allowedCpus, .ok _, state' => state' = state
  | .publishQps, .error error, state' => state' = state.fail error
  | .connectQps, .error error, state' => state' = state.fail error
  | .registerMemory, .error error, state' => state' = state.fail error
  | .postReceive, .error error, state' => state' = state.fail error
  | .waitReceive, .error error, state' => state' = state.fail error
  | .postWrite _ _ _, .error error, state' => state' = state.fail error
  | .waitWrite, .error error, state' => state' = state.fail error
  | .readSlots _ _ _, .error error, state' => state' = state.fail error
  | .allowedCpus, .error error, state' => state' = state.fail error

end Handshake

def handshakeWorld (client : StorageMembers) :
    Environment Handshake SetupCall SetupCall.Answer where
  drift := Handshake.Drift client
  reply := Handshake.reply client

/-- The client's memory as the server addresses it. -/
def Addressed (client : StorageMembers) (capacity : UInt64) : SetupCall → Prop
  | .postWrite address key bytes =>
      address = (client.regions .storageNamespace).address ∧
        key = (client.regions .storageNamespace).remoteKey ∧ bytes = namespaceRecord capacity ∧
        bytes.length = (client.regions .storageNamespace).length.toNat
  | .readSlots address key length =>
      address = (client.regions .slotTable).address ∧
        key = (client.regions .slotTable).remoteKey ∧
        length.toNat = client.table.length * kStorageSlotDescriptorBytes ∧
        length.toNat = (client.regions .slotTable).length.toNat
  | _ => True

/-- Why a session ends before its workers start: a call has failed, there are
too few CPUs, or there is nothing to serve. -/
def EndsEarly (capacity : UInt64) (commandCount : Nat) (error : Error) (state : Handshake) : Prop :=
  state.failure = some error ∨
    error = { code := .runtime, message := "server needs one allowed CPU per busy storage QP" } ∨
    (capacity = 0 ∧ error = protocolError "invalid storage bootstrap record") ∨
    (commandCount = 0 ∧
      error = {
        code := .invalidArgument
        message := "transport, namespace, and QPs are required" })

/-- The session that the workers get. -/
def Begins (client : StorageMembers) (qpCount : Nat) (capacity : UInt64) (commandCount : Nat)
    (started : Started) : Prop :=
  started.session = { storageSize := capacity, slots := client.table } ∧
    started.workers = (List.range qpCount).map (tableWorker qpCount commandCount)

section Safety

variable {qpCount commandCount : Nat} {capacity : UInt64} {client : StorageMembers}
  {state : Handshake}

/-- A part of the setup that ends early or goes on with a value. -/
abbrev Continues {Value : Type} (client : StorageMembers) (capacity : UInt64) (commandCount : Nat)
    (program : SetupProgram Value) (next : Value → Handshake → Prop) (state : Handshake) : Prop :=
  Safe (handshakeWorld client) (fun _ => Addressed client capacity)
    (Safe.outcome (EndsEarly capacity commandCount) next) program.run state

theorem acceptQps_continues (state : Handshake) :
    Continues client capacity commandCount acceptQps (fun _ _ => True) state := by
  intro state' _
  refine ⟨trivial, fun answer state'' hReply => ?_⟩
  cases answer with
  | error error =>
      cases hReply
      exact Or.inl rfl
  | ok _ =>
      intro later _
      refine ⟨trivial, fun answer after hReply => ?_⟩
      cases answer with
      | error error =>
          cases hReply
          exact Or.inl rfl
      | ok _ => exact trivial

/-- The whole answer is in the buffer of the client. -/
def Complete (capacity : UInt64) (state : Handshake) : Prop :=
  state.answer = some (namespaceRecord capacity) ∧
    ∀ index < kStorageNamespaceBytes, state.landed index = true

theorem complete_stable : (handshakeWorld client).Stable (Complete capacity) := by
  intro state state' hDrift h
  cases hDrift with
  | send | copy | copyFails => exact h
  | land index =>
      refine ⟨h.1, fun other hOther => ?_⟩
      by_cases hSame : other = index
      · rw [hSame]
        exact Function.update_self ..
      · exact (Function.update_of_ne hSame ..).trans (h.2 other hOther)

/-- A bootstrap that was received stays received. -/
theorem received_stable : (handshakeWorld client).Stable fun state => state.received = true := by
  intro state state' hDrift h
  cases hDrift with
  | send | land | copy | copyFails => exact h

theorem answer_stable (record : Buffer) :
    (handshakeWorld client).Stable fun state => state.answer = some record := by
  intro state state' hDrift h
  cases hDrift with
  | send | land | copy | copyFails => exact h

/-- Memory is registered in between, which concerns nobody else. -/
theorem registerMemory_continues (assertion : Handshake → Prop)
    (hStable : (handshakeWorld client).Stable assertion) (h : assertion state) :
    Continues client capacity commandCount (ExceptT.mk (.ask SetupCall.registerMemory))
      (fun _ => assertion) state := by
  intro state' hDrifts
  refine ⟨trivial, fun answer state'' hReply => ?_⟩
  cases answer with
  | error error =>
      cases hReply
      exact Or.inl rfl
  | ok _ =>
      cases hReply
      exact hStable.drifts hDrifts h

/-- The session posts the namespace record to the client. -/
theorem postWrite_continues (hPrepared : Prepared qpCount client) :
    Continues client capacity commandCount
      (ExceptT.mk (.ask (SetupCall.postWrite (bootstrapRecord client).namespaceResponse.address
        (bootstrapRecord client).namespaceResponse.remoteKey (namespaceRecord capacity))))
      (fun _ state => state.answer = some (namespaceRecord capacity)) state := by
  intro state' _
  refine ⟨⟨rfl, rfl, rfl, ?_⟩, fun answer state'' hReply => ?_⟩
  · rw [hPrepared.namespace_length, namespaceRecord_length]
    rfl
  · cases answer with
    | error error =>
        cases hReply
        exact Or.inl rfl
    | ok _ =>
        cases hReply
        exact rfl

/-- Once its write has been waited for, the answer is complete. -/
theorem waitWrite_continues (h : state.answer = some (namespaceRecord capacity)) :
    Continues client capacity commandCount (ExceptT.mk (.ask SetupCall.waitWrite))
      (fun _ => Complete capacity) state := by
  intro state' hDrifts
  have hAnswer := (answer_stable _).drifts hDrifts h
  refine ⟨trivial, fun answer state'' hReply => ?_⟩
  cases answer with
  | error error =>
      cases hReply
      exact Or.inl rfl
  | ok _ =>
      obtain ⟨hLanded, rfl⟩ := hReply
      refine ⟨hAnswer, fun index hIndex => hLanded _ hAnswer index ?_⟩
      rw [namespaceRecord_length]
      exact hIndex

/-- The bootstrap is exchanged as the client wrote it. -/
theorem exchangeBootstrap_continues (hPrepared : Prepared qpCount client) :
    Continues client capacity commandCount (exchangeBootstrap client.bootstrapBytes capacity)
      (fun bootstrap state => bootstrap = bootstrapRecord client ∧ Complete capacity state)
      state := by
  have hZeros : namespaceFormat.size ≤
      (List.replicate kStorageNamespaceBytes (0 : UInt8)).length := by
    simp [namespaceFormat]
  by_cases hCapacity : capacity = 0
  · have hRefused : serializeStorageNamespace { capacity := capacity }
        (List.replicate kStorageNamespaceBytes 0) = (.error .invalidRecord, _) :=
      namespace_laidOut.serialize_error _ _ hZeros (fun hValid => hValid hCapacity)
    rw [exchangeBootstrap, hPrepared.record, hRefused]
    exact Or.inr (Or.inr (Or.inl ⟨hCapacity, rfl⟩))
  · have hWritten : serializeStorageNamespace { capacity := capacity }
        (List.replicate kStorageNamespaceBytes 0) = (.ok (), namespaceRecord capacity) :=
      namespace_laidOut.serialize_ok _ _ hZeros hCapacity
    rw [exchangeBootstrap, hPrepared.record, hWritten]
    refine Safe.seqFallible _ (registerMemory_continues (fun _ => True) (fun _ _ _ h => h) trivial)
      fun _ state _ => ?_
    refine Safe.seqFallible _ (postWrite_continues hPrepared) fun _ state hAnswer => ?_
    refine Safe.seqFallible _ (waitWrite_continues hAnswer) fun _ state hComplete => ?_
    exact ⟨rfl, hComplete⟩

theorem readSlots_continues (hPrepared : Prepared qpCount client) (h : Complete capacity state) :
    Continues client capacity commandCount
      (ExceptT.mk (.ask (SetupCall.readSlots (bootstrapRecord client).slots.address
        (bootstrapRecord client).slots.remoteKey
        (UInt32.ofNat ((bootstrapRecord client).slotCount.toNat * kStorageSlotDescriptorBytes)))))
      (fun slots state => slots = client.table ∧ Complete capacity state) state := by
  have hSmall := hPrepared.opened.small
  have hLimit : kStorageSlotIndexLimit = 65536 := rfl
  have hBytes : kStorageSlotDescriptorBytes = 56 := rfl
  have hLength : (UInt32.ofNat ((bootstrapRecord client).slotCount.toNat *
      kStorageSlotDescriptorBytes)).toNat = client.table.length * kStorageSlotDescriptorBytes := by
    rw [hPrepared.slot_count, UInt32.toNat_ofNat', hPrepared.table_count, hBytes]
    exact Nat.mod_eq_of_lt (by omega)
  intro state' hDrifts
  refine ⟨⟨rfl, rfl, hLength, hLength.trans hPrepared.table_bytes.symm⟩,
    fun answer state'' hReply => ?_⟩
  cases answer with
  | error error =>
      cases hReply
      exact Or.inl rfl
  | ok slots =>
      obtain ⟨rfl, rfl⟩ := hReply
      exact ⟨rfl, complete_stable.drifts hDrifts h⟩

theorem fetchSlots_continues (hPrepared : Prepared qpCount client) (h : Complete capacity state) :
    Continues client capacity commandCount (fetchSlots (bootstrapRecord client) qpCount)
      (fun slots state => slots = client.table ∧ Complete capacity state) state := by
  rw [fetchSlots, hPrepared.slotTableValid]
  refine Safe.seqFallible _ (registerMemory_continues _ complete_stable h) fun _ state hHere => ?_
  refine Safe.seqFallible _ (readSlots_continues hPrepared hHere) fun slots state hSlots => ?_
  obtain ⟨rfl, hHere⟩ := hSlots
  rw [if_neg (by simp [hPrepared.slots_valid])]
  exact ⟨rfl, hHere⟩

theorem allowedCpus_continues (h : Complete capacity state) :
    Continues client capacity commandCount (ExceptT.mk (.ask SetupCall.allowedCpus))
      (fun _ => Complete capacity) state := by
  intro state' hDrifts
  refine ⟨trivial, fun answer state'' hReply => ?_⟩
  cases answer with
  | error error =>
      cases hReply
      exact Or.inl rfl
  | ok cpuCount =>
      cases hReply
      exact complete_stable.drifts hDrifts h

theorem startWorkers_continues {slots : List StorageSlot} {workers : List Worker}
    (h : Complete capacity state) :
    Continues client capacity commandCount (startWorkers capacity slots workers)
      (fun started state => started = {
        session := { storageSize := capacity, slots := slots }
        workers := workers } ∧ Complete capacity state) state := by
  refine Safe.seqFallible _ (allowedCpus_continues h) fun cpuCount state hHere => ?_
  split
  · exact Or.inr (Or.inl rfl)
  · exact ⟨rfl, hHere⟩

theorem postReceive_continues (state : Handshake) :
    Continues client capacity commandCount (ExceptT.mk (.ask SetupCall.postReceive))
      (fun _ _ => True) state := by
  intro state' _
  refine ⟨trivial, fun answer state'' hReply => ?_⟩
  cases answer with
  | error error =>
      cases hReply
      exact Or.inl rfl
  | ok _ => exact trivial

/-- The session waits until the bootstrap has been received. -/
theorem waitReceive_continues (state : Handshake) :
    Continues client capacity commandCount (ExceptT.mk (.ask SetupCall.waitReceive))
      (fun _ state => state.received = true) state := by
  intro state' _
  refine ⟨trivial, fun answer state'' hReply => ?_⟩
  cases answer with
  | error error =>
      cases hReply
      exact Or.inl rfl
  | ok _ =>
      obtain ⟨-, -, rfl⟩ := hReply
      rfl

theorem loadBootstrap_continues (h : state.received = true) :
    Continues client capacity commandCount (ExceptT.lift (.ask SetupCall.loadBootstrap))
      (fun bytes _ => bytes = client.bootstrapBytes) state := by
  intro state' hDrifts
  have hReceived := received_stable.drifts hDrifts h
  exact ⟨trivial, fun bytes state'' hReply => hReply.1 hReceived⟩

/-- The main thread of the server, from the bootstrap to the workers. -/
theorem serveCommands_continues (hPrepared : Prepared qpCount client) (state : Handshake) :
    Continues client capacity commandCount (serveCommands qpCount capacity commandCount)
      (fun started state => Begins client qpCount capacity commandCount started ∧
        Complete capacity state) state := by
  have hPositive := hPrepared.opened.positive
  unfold serveCommands
  split
  next hNothing => exact Or.inr (Or.inr (Or.inr ⟨by omega, rfl⟩))
  · refine Safe.seqFallible _ (registerMemory_continues (fun _ => True) (fun _ _ _ h => h) trivial)
      fun _ state _ => ?_
    refine Safe.seqFallible _ (postReceive_continues state) fun _ state _ => ?_
    refine Safe.seqFallible _ (waitReceive_continues state) fun _ state hReceived => ?_
    refine Safe.seqFallible _ (loadBootstrap_continues hReceived) fun bytes state hBytes => ?_
    subst hBytes
    refine Safe.seqFallible _ (exchangeBootstrap_continues hPrepared)
      fun bootstrap state hExchanged => ?_
    obtain ⟨rfl, hComplete⟩ := hExchanged
    refine Safe.seqFallible _ (fetchSlots_continues hPrepared hComplete) fun slots state hSlots => ?_
    obtain ⟨rfl, hComplete⟩ := hSlots
    refine Safe.seqFallible _ (registerMemory_continues _ complete_stable hComplete)
      fun _ state hComplete => ?_
    rw [hPrepared.workers]
    refine Safe.seqFallible (fun workers state =>
      workers = (List.range qpCount).map (tableWorker qpCount commandCount) ∧
        Complete capacity state) ⟨rfl, hComplete⟩ fun workers state hWorkers => ?_
    obtain ⟨rfl, hComplete⟩ := hWorkers
    refine Safe.seqFallible _ (registerMemory_continues _ complete_stable hComplete)
      fun _ state hComplete => ?_
    refine Safe.weakenValue (startWorkers_continues hComplete) fun started state hStarted => ?_
    obtain ⟨rfl, hComplete⟩ := hStarted
    exact ⟨⟨rfl, rfl⟩, hComplete⟩

theorem runSession_continues (hPrepared : Prepared qpCount client) (state : Handshake) :
    Continues client capacity commandCount (runSession qpCount capacity commandCount)
      (fun started state => Begins client qpCount capacity commandCount started ∧
        Complete capacity state) state :=
  Safe.seqFallible _ (acceptQps_continues state) fun _ state _ =>
    serveCommands_continues hPrepared state

end Safety

section Runs

variable {qpCount commandCount : Nat} {capacity : UInt64} {client : StorageMembers}
  {state : Handshake}
  {program : Program SetupCall SetupCall.Answer (Except Error Started)}

/-- The outcome of a session does not change any more. -/
theorem outcome_stable (result : Except Error Started) :
    (handshakeWorld client).Stable (Safe.outcome (EndsEarly capacity commandCount)
      (fun started state => Begins client qpCount capacity commandCount started ∧
        Complete capacity state) result) := by
  intro state state' hDrift h
  cases result with
  | error error =>
      rcases h with hFailure | hOther
      · refine Or.inl ?_
        cases hDrift with
        | send | land | copy | copyFails => exact hFailure
      · exact Or.inr hOther
  | ok started => exact ⟨h.1, complete_stable state state' hDrift h.2⟩

/-- What the client can have seen of the answer. -/
structure Truthful (capacity : UInt64) (state : Handshake) : Prop where
  answer : ∀ record, state.answer = some record → record = namespaceRecord capacity
  copies : ∀ copy ∈ state.copies, CopyOf capacity copy

/-- The client's buffer holds what has landed of the record. -/
theorem buffer_landing (hBlank : client.namespaceBytes = noBytes kStorageNamespaceBytes)
    (h : Truthful capacity state) :
    ∃ landed, state.buffer client = landing landed (namespaceRecord capacity) := by
  unfold Handshake.buffer
  rw [hBlank]
  cases hAnswer : state.answer with
  | none =>
      refine ⟨fun _ => false, ?_⟩
      rw [landing, overlay_none (by simp), namespaceRecord_length]
      rfl
  | some record =>
      obtain rfl := h.answer record hAnswer
      refine ⟨state.landed, ?_⟩
      rw [landing, namespaceRecord_length]
      rfl

theorem Truthful.drift (hBlank : client.namespaceBytes = noBytes kStorageNamespaceBytes)
    {state' : Handshake} (h : Truthful capacity state)
    (hDrift : Handshake.Drift client state state') : Truthful capacity state' := by
  cases hDrift with
  | send | land => exact { h with }
  | copy =>
      refine ⟨h.answer, fun copy hCopy => ?_⟩
      rcases List.mem_append.mp hCopy with hOld | hNew
      · exact h.copies copy hOld
      · rw [List.mem_singleton] at hNew
        subst hNew
        rintro bytes hBytes
        cases hBytes
        exact buffer_landing hBlank h
  | copyFails error =>
      refine ⟨h.answer, fun copy hCopy => ?_⟩
      rcases List.mem_append.mp hCopy with hOld | hNew
      · exact h.copies copy hOld
      · rw [List.mem_singleton] at hNew
        subst hNew
        intro bytes hBytes
        cases hBytes

theorem Truthful.reply {state' : Handshake} {call : SetupCall} {answer : call.Answer}
    (h : Truthful capacity state) (hAddressed : Addressed client capacity call)
    (hReply : Handshake.reply client state call answer state') : Truthful capacity state' := by
  cases call with
  | postWrite address key bytes =>
      cases answer with
      | error error =>
          cases hReply
          exact { h with }
      | ok _ =>
          cases hReply
          refine ⟨fun record hRecord => ?_, h.copies⟩
          cases hRecord
          exact hAddressed.2.2.1
  | loadBootstrap =>
      obtain ⟨-, rfl⟩ := hReply
      exact h
  | waitReceive =>
      cases answer with
      | error error =>
          cases hReply
          exact { h with }
      | ok _ =>
          obtain ⟨-, -, rfl⟩ := hReply
          exact { h with }
  | waitWrite =>
      cases answer with
      | error error =>
          cases hReply
          exact { h with }
      | ok _ =>
          obtain ⟨-, rfl⟩ := hReply
          exact h
  | readSlots address key length =>
      cases answer with
      | error error =>
          cases hReply
          exact { h with }
      | ok _ =>
          obtain ⟨-, rfl⟩ := hReply
          exact h
  | publishQps | connectQps | registerMemory | postReceive | allowedCpus =>
      cases answer <;> cases hReply <;> exact { h with }

theorem truthful_always (hPrepared : Prepared qpCount client)
    (hRun : (handshakeWorld client).Reaches
      ((runSession qpCount capacity commandCount).run, Handshake.begin) (program, state)) :
    Truthful capacity state :=
  Safe.always outcome_stable (fun _ _ hDrift h => h.drift hPrepared.blank hDrift)
    (fun _ _ _ _ h hAddressed hReply => h.reply hAddressed hReply) hRun
    (runSession_continues hPrepared Handshake.begin)
    ⟨fun _ hNone => (nomatch hNone), fun _ hNone => (nomatch hNone)⟩

end Runs

section Agreement

variable {host : Host} {transport : Transport} {runtime : Runtime} {client : StorageMembers}
  {capacity : UInt64} {commandCount : Nat} {state : Handshake}
  {program : Program SetupCall SetupCall.Answer (Except Error Started)}

/-- The server serves the client that was opened. In every interleaving it
addresses nothing but the namespace buffer and the slot table that the client
has registered, with their lengths. It ends early only when a call has failed,
when CPUs are missing or when there is nothing to serve, never because of what
the client has sent. The workers that it starts share the slots of the client
as the client deals them out, and by then the answer is in the client's buffer. -/
theorem session_begins (hFits : ∀ member, (host.allocators member).Fits)
    (hOpen : openStorage (some runtime) (some transport) host.answers .fresh = (.ok (), client))
    (hRun : (handshakeWorld client).Reaches
      ((runSession transport.qpCount capacity commandCount).run, Handshake.begin)
      (program, state)) :
    (∀ call next, program = .call call next → Addressed client capacity call) ∧
      (∀ error, program = .done (.error error) → EndsEarly capacity commandCount error state) ∧
      ∀ started, program = .done (.ok started) →
        Begins client transport.qpCount capacity commandCount started ∧
          state.buffer client = namespaceRecord capacity := by
  have hPrepared := openStorage_prepared fresh_closed hFits hOpen
  have hSafe := Safe.reaches outcome_stable hRun (runSession_continues hPrepared Handshake.begin)
  refine ⟨?_, ?_, ?_⟩
  · rintro call next rfl
    exact (hSafe state .refl).1
  · rintro error rfl
    exact hSafe
  · rintro started rfl
    obtain ⟨hBegins, hAnswer, hLanded⟩ := hSafe
    refine ⟨hBegins, ?_⟩
    rw [Handshake.buffer, hAnswer]
    apply overlay_all
    rw [namespaceRecord_length]
    exact hLanded

/-- The client never takes the namespace for larger than it is, whatever part of
the answer has landed when it copies it, and takes it for smaller only when it
has copied a part. So the server would accept all that the host then submits. -/
theorem capacity_never_overstated (hFits : ∀ member, (host.allocators member).Fits)
    (hOpen : openStorage (some runtime) (some transport) host.answers .fresh = (.ok (), client))
    (hRun : (handshakeWorld client).Reaches
      ((runSession transport.qpCount capacity commandCount).run, Handshake.begin)
      (program, state))
    {timeoutMs : UInt32} {client' : StorageMembers}
    (hComplete : client.completeBootstrap timeoutMs state.copies = (.ok (), client')) :
    client'.capacity ≠ 0 ∧ client'.capacity ≤ capacity ∧
      ((∀ copy ∈ state.copies, Untorn capacity copy) → client'.capacity = capacity) ∧
      ∀ context memory submission outcomes memory', context.capacity = client'.capacity →
        raSubmit context memory submission outcomes = (.ok (), memory') →
        raSubmit (context.withCapacity capacity) memory submission outcomes = (.ok (), memory') := by
  have hPrepared := openStorage_prepared fresh_closed hFits hOpen
  have hTruthful := truthful_always hPrepared hRun
  unfold StorageMembers.completeBootstrap at hComplete
  split at hComplete
  · cases hComplete
  · cases hObserved : StorageMembers.observeNamespace state.copies with
    | error error =>
        rw [hObserved] at hComplete
        cases hComplete
    | ok observed =>
        rw [hObserved] at hComplete
        cases hComplete
        obtain ⟨hSome, hLess⟩ := observeNamespace_le hTruthful.copies hObserved
        refine ⟨hSome, hLess, fun hUntorn => ?_, ?_⟩
        · have hCapacity : capacity ≠ 0 := by
            rintro rfl
            exact hSome (UInt64.le_zero_iff.mp hLess)
          exact observeNamespace_eq hUntorn hCapacity hObserved
        · intro context memory submission outcomes memory' hSame hSubmit
          exact raSubmit_mono (hSame ▸ hLess) hSubmit

section Session

/-- What happens next: the client sends, a byte lands, the client copies, or the
server gets its answer. -/
inductive HandshakeMove where
  | send | land (index : Nat) | copy | answer
deriving DecidableEq, Repr

namespace Handshake

/-- A successful answer, where one is possible, on a machine with `cpus` CPUs. -/
def respond (client : StorageMembers) (cpus : Nat) (state : Handshake) :
    (call : SetupCall) → Option (call.Answer × Handshake)
  | .publishQps => some (.ok (), { state with published := true })
  | .connectQps => some (.ok (), state)
  | .registerMemory => some (.ok (), state)
  | .postReceive => some (.ok (), { state with posted := true })
  | .waitReceive =>
      if state.sent = true ∧ state.posted = true then
        some (.ok (), { state with received := true })
      else none
  | .loadBootstrap => some (client.bootstrapBytes, state)
  | .postWrite _ _ bytes => some (.ok (), { state with answer := some bytes })
  | .waitWrite =>
      if (List.range (state.answer.getD []).length).all state.landed then some (.ok (), state)
      else none
  | .readSlots _ _ _ => some (.ok client.table, state)
  | .allowedCpus => some (.ok cpus, state)

abbrev SetupConfig := Program SetupCall SetupCall.Answer (Except Error Started) × Handshake

def advance (client : StorageMembers) (cpus : Nat) (config : SetupConfig) :
    HandshakeMove → Option SetupConfig
  | .send =>
      if config.2.published then some (config.1, { config.2 with sent := true }) else none
  | .land index =>
      if config.2.answer.isSome then
        some (config.1, { config.2 with landed := Function.update config.2.landed index true })
      else none
  | .copy =>
      some (config.1, { config.2 with
        copies := config.2.copies ++ [.ok (config.2.buffer client)] })
  | .answer =>
      match config with
      | (.done _, _) => none
      | (.call call next, state) =>
          (state.respond client cpus call).map fun answered => (next answered.1, answered.2)

def schedule (client : StorageMembers) (cpus : Nat) :
    List HandshakeMove → SetupConfig → Option SetupConfig
  | [], config => some config
  | move :: moves, config =>
      (advance client cpus config move).bind (schedule client cpus moves)

variable {client : StorageMembers} {cpus : Nat} {state state' : Handshake}
  {config config' : SetupConfig}

/-- An answer that is computed is one of the possible ones. -/
theorem respond_reply {call : SetupCall} {answer : call.Answer}
    (h : state.respond client cpus call = some (answer, state')) :
    state.reply client call answer state' := by
  cases call with
  | waitReceive =>
      obtain ⟨hArrived, hSame⟩ := Option.ite_none_right_eq_some.mp h
      cases hSame
      exact ⟨hArrived.1, hArrived.2, rfl⟩
  | waitWrite =>
      obtain ⟨hLanded, hSame⟩ := Option.ite_none_right_eq_some.mp h
      cases hSame
      refine ⟨fun record hRecord index hIndex => ?_, rfl⟩
      rw [hRecord, Option.getD_some] at hLanded
      exact List.all_eq_true.mp hLanded index (List.mem_range.mpr hIndex)
  | loadBootstrap =>
      cases h
      exact ⟨fun _ => rfl, rfl⟩
  | readSlots address key length =>
      cases h
      exact ⟨rfl, rfl⟩
  | _ =>
      cases h
      rfl

theorem advance_step {move : HandshakeMove} (h : advance client cpus config move = some config') :
    (handshakeWorld client).Step config config' := by
  obtain ⟨program, state⟩ := config
  cases move with
  | send =>
      obtain ⟨hPublished, hSame⟩ := Option.ite_none_right_eq_some.mp h
      cases hSame
      exact .drift (.send hPublished)
  | land index =>
      obtain ⟨hAnswer, hSame⟩ := Option.ite_none_right_eq_some.mp h
      cases hSame
      exact .drift (.land index (Option.isSome_iff_ne_none.mp hAnswer))
  | copy =>
      cases h
      exact .drift .copy
  | answer =>
      cases program with
      | done result => cases h
      | call call next =>
          obtain ⟨⟨answer, state'⟩, hRespond, rfl⟩ := Option.map_eq_some_iff.mp h
          exact .reply (respond_reply hRespond)

/-- A schedule is a run. -/
theorem schedule_reaches {moves : List HandshakeMove}
    (h : schedule client cpus moves config = some config') :
    (handshakeWorld client).Reaches config config' := by
  induction moves generalizing config with
  | nil =>
      cases h
      exact .refl
  | cons move moves ih =>
      obtain ⟨next, hMove, hRest⟩ := Option.bind_eq_some_iff.mp h
      exact .head (advance_step hMove) (ih hRest)

/-- What the server has started, if it has. -/
def started? : SetupConfig → Option Started
  | (.done (.ok started), _) => some started
  | _ => none

theorem started?_eq {program : Program SetupCall SetupCall.Answer (Except Error Started)}
    {started : Started} (h : started? (program, state) = some started) :
    program = .done (.ok started) := by
  cases program with
  | call call next => cases h
  | done result =>
      cases result with
      | error error => cases h
      | ok other =>
          cases h
          rfl

end Handshake

/-- Memory below the end of the addresses, and a provider that grants it. -/
def smallHost : Host where
  initialized := true
  endpointOpened := true
  allocators := fun member => {
    aclrtMalloc := fun size => (if size ≤ 65536 then 0 else 207001, member.base)
    posixMemalign := fun _ => (12, 0)
    aclrtHostRegister := fun _ _ => (207001, 0)
    newBytes := fun _ => 0 }
  registerMr := fun _ _ _ => { result := 0, handle := 1, localKey := 11, remoteKey := 12 }
  copyTo := fun _ _ => .ok ()
  ready := .ok ()

theorem smallHost_fits (member : BufferMember) : (smallHost.allocators member).Fits where
  aclrtMalloc := by
    intro size hGranted
    have hSize : size ≤ 65536 := by
      by_contra hLarge
      simp [smallHost, hLarge] at hGranted
    have hBase : member.base.toNat + 65536 ≤ 2 ^ 64 := by
      cases member <;> decide
    exact Nat.le_trans (Nat.add_le_add_left hSize _) hBase
  aclrtHostRegister := fun _ _ hGranted => (nomatch hGranted)
  newBytes := fun _ hSome => absurd rfl hSome

/-- The client copies the answer when its last byte is missing. -/
def tornMoves : List HandshakeMove :=
  [.answer, .answer, .send] ++ List.replicate 6 .answer ++ (List.range 15).map .land ++ [.copy]

/-- The rest of the session. -/
def lastMoves : List HandshakeMove := .land 15 :: List.replicate 6 .answer

def smallClient : StorageMembers :=
  (openStorage (some ⟨true⟩) (some oneQueuePair) smallHost.answers .fresh).2

def smallStart : Handshake.SetupConfig := ((runSession 1 257 3).run, Handshake.begin)

theorem smallClient_opened :
    openStorage (some ⟨true⟩) (some oneQueuePair) smallHost.answers .fresh =
      (.ok (), smallClient) := by
  have hOk : (openStorage (some ⟨true⟩) (some oneQueuePair) smallHost.answers .fresh).1 = .ok () := by
    decide +kernel
  exact Prod.ext hOk rfl

/-- A session of one queue pair whose workers are started. -/
theorem session_begins_small : ∃ started state,
    (handshakeWorld smallClient).Reaches smallStart (.done (.ok started), state) ∧
      started.workers = [tableWorker 1 3 0] ∧
      state.buffer smallClient = namespaceRecord 257 := by
  have hSome : ((Handshake.schedule smallClient 1 (tornMoves ++ lastMoves) smallStart).bind
      fun config => Handshake.started? config).isSome = true := by decide +kernel
  obtain ⟨started, hStarted⟩ := Option.isSome_iff_exists.mp hSome
  obtain ⟨⟨program, state⟩, hConfig, hDone⟩ := Option.bind_eq_some_iff.mp hStarted
  obtain rfl := Handshake.started?_eq hDone
  have hRun := Handshake.schedule_reaches hConfig
  obtain ⟨hBegins, hBuffer⟩ :=
    (session_begins smallHost_fits smallClient_opened hRun).2.2 started rfl
  exact ⟨started, state, hRun, hBegins.2, hBuffer⟩

/-- A client that copies all but the last byte takes 257 bytes for 256. -/
theorem capacity_never_overstated_torn : ∃ program state client',
    (handshakeWorld smallClient).Reaches smallStart (program, state) ∧
      smallClient.completeBootstrap 1000 state.copies = (.ok (), client') ∧
      client'.capacity = 256 ∧ client'.capacity ≤ 257 := by
  have hSome : (Handshake.schedule smallClient 1 tornMoves smallStart).isSome = true := by
    decide +kernel
  obtain ⟨⟨program, state⟩, hConfig⟩ := Option.isSome_iff_exists.mp hSome
  have hCapacity : (Handshake.schedule smallClient 1 tornMoves smallStart).map (fun config =>
      (smallClient.completeBootstrap 1000 config.2.copies).1) = some (.ok ()) ∧
      (Handshake.schedule smallClient 1 tornMoves smallStart).map (fun config =>
        (smallClient.completeBootstrap 1000 config.2.copies).2.capacity) = some 256 := by
    decide +kernel
  rw [hConfig] at hCapacity
  obtain ⟨hOk, hRead⟩ := hCapacity
  have hComplete : smallClient.completeBootstrap 1000 state.copies =
      (.ok (), (smallClient.completeBootstrap 1000 state.copies).2) :=
    Prod.ext (Option.some.inj hOk) rfl
  have hRun := Handshake.schedule_reaches hConfig
  exact ⟨program, state, _, hRun, hComplete, Option.some.inj hRead,
    (capacity_never_overstated smallHost_fits smallClient_opened hRun hComplete).2.1⟩

end Session

end Agreement

end NdsStorage.System
