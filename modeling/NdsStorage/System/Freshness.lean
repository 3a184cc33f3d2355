import NdsStorage.Client.Identifiers
import NdsStorage.System.SlotOrder
import NdsStorage.System.Verdict

/-! Whose completion a wait accepts. Slots are reserved, used and released in
any order while messages leave the command buffers, and completion records
arrive in the completion buffers, at any moment. A record carries the
identifier of the reservation its command was submitted under, identifiers are
not handed out twice, and a submission puts a pending record in the place of
whatever its slot still shows. -/
namespace NdsStorage.System

open Bytes Interaction Server Client

/-- A command that was posted: the number of the reservation it was posted
under, its slot, its message and the bytes it claimed. -/
structure PostedCommand where
  reservation : Nat
  slot : Nat
  message : Buffer
  length : UInt32
deriving DecidableEq, Repr

/-- The client with the buffers of its slots, and what has happened so far:
the reservations, the posted commands, the messages on their way and the
completion records that the server has written for them. For each slot,
`holder` is the number of its last reservation and `current` the command
submitted under it. -/
structure World where
  client : StorageClient
  commandBytes : Nat → Buffer
  completionBytes : Nat → Buffer
  reservations : Nat
  holder : Nat → Nat
  current : Nat → Option PostedCommand
  posted : List PostedCommand
  messages : List Buffer
  written : List (Buffer × StorageCompletion)

namespace World

/-- The client and the contents of its buffers before the first reservation. -/
def begin (client : StorageClient) (commandBytes completionBytes : Nat → Buffer) : World where
  client := client
  commandBytes := commandBytes
  completionBytes := completionBytes
  reservations := 0
  holder := fun _ => 0
  current := fun _ => none
  posted := []
  messages := []
  written := []

/-- What the device backends see. -/
def memory (world : World) : DeviceMemory where
  states := world.client.states
  commandBytes := world.commandBytes
  completionBytes := world.completionBytes

/-- The outcome of a reservation. It counts once it has taken an identifier. -/
def reserved (world : World) (result : Except Error UInt32) (client : StorageClient) : World :=
  { world with
    client := client
    reservations := if client.nextCommandId = world.client.nextCommandId
      then world.reservations else world.reservations + 1
    holder := match result with
      | .ok slotId =>
          Function.update world.holder (storageSlotIdIndex slotId).toNat world.reservations
      | .error _ => world.holder
    current := match result with
      | .ok slotId => Function.update world.current (storageSlotIdIndex slotId).toNat none
      | .error _ => world.current }

def released (world : World) (client : StorageClient) : World :=
  { world with client := client }

/-- The command that a submission has left in a slot. -/
def postedCommand (world : World) (index : Nat) (memory : DeviceMemory) : PostedCommand where
  reservation := world.holder index
  slot := index
  message := memory.commandBytes index
  length := (memory.states index).expectedBytes

/-- The outcome of a submission. It is noted if it has taken the slot. -/
def submitted (world : World) (index : Nat) (memory : DeviceMemory) : World :=
  { world with
    client := { world.client with states := memory.states }
    commandBytes := memory.commandBytes
    completionBytes := memory.completionBytes
    current := if (world.client.states index).inFlight = 0 ∧ (memory.states index).inFlight ≠ 0
      then Function.update world.current index (some (world.postedCommand index memory))
      else world.current
    posted := if (world.client.states index).inFlight = 0 ∧ (memory.states index).inFlight ≠ 0
      then world.posted ++ [world.postedCommand index memory] else world.posted }

/-- A posted send request takes the present contents of its command buffer. -/
def transmitted (world : World) (index : Nat) : World :=
  { world with messages := world.messages ++ [world.commandBytes index] }

/-- A completion record for a message lands in the buffer of the slot it names. -/
def answered (world : World) (message : Buffer) (completion : StorageCompletion) : World :=
  { world with
    completionBytes := Function.update world.completionBytes (carriedSlotIndex message)
      (completionRecord completion)
    written := world.written ++ [(message, completion)] }

/-- Everything that may happen, in any order. A server answers messages it has
received, in its own time and as often as it likes, with any outcome. -/
inductive Step : World → World → Prop
  | allocate {world : World} {cleared copied : Except Error Unit} {result : Except Error UInt32}
      {client : StorageClient}
      (h : world.client.allocateSlot cleared copied = (result, client)) :
      Step world (world.reserved result client)
  | allocateOn {world : World} {queue : UInt32} {copied : Except Error Unit}
      {result : Except Error UInt32} {client : StorageClient}
      (h : world.client.allocateSlotOn queue copied = (result, client)) :
      Step world (world.reserved result client)
  | release {world : World} {slotId : UInt32} {cleared result : Except Error Unit}
      {client : StorageClient} (h : world.client.releaseSlot slotId cleared = (result, client)) :
      Step world (world.released client)
  | submitAiv {world : World} {descriptor : StorageDescriptor} {submission : Submission}
      {sent result : Int32} {memory : DeviceMemory}
      (h : aivSubmit descriptor world.memory submission sent = (result, memory)) :
      Step world (world.submitted (storageSlotIdIndex submission.slotId).toNat memory)
  | submitAicpu {world : World} {descriptor : StorageDescriptor} {submission : Submission}
      {sent : Int32} {result : Except UInt32 Int32} {memory : DeviceMemory}
      (h : aicpuSubmit descriptor world.memory submission sent = (result, memory)) :
      Step world (world.submitted (storageSlotIdIndex submission.slotId).toNat memory)
  | transmit {world : World} {index : Nat}
      (hPosted : ∃ command ∈ world.posted, command.slot = index) :
      Step world (world.transmitted index)
  | answer {world : World} {message : Buffer} {completion : StorageCompletion}
      (hReceived : message ∈ world.messages)
      (hId : completion.commandId = carriedCommandId message)
      (hComplete : completion.state = .complete) (hValid : completionValid completion) :
      Step world (world.answered message completion)

def Reaches : World → World → Prop := Relation.ReflTransGen Step

end World

/-- Reservations, commands and records belong together. `start` is the first identifier. -/
structure Traceable (start : UInt64) (qpCount : Nat) (world : World) : Prop where
  opened : world.client.Opened qpCount
  next : world.client.nextCommandId = commandIdAt start world.reservations
  held : ∀ index, (world.client.states index).commandId ≠ 0 →
    world.holder index < world.reservations ∧
      (world.client.states index).commandId = commandIdAt start (world.holder index)
  distinct : ∀ first second, (world.client.states first).commandId ≠ 0 →
    (world.client.states second).commandId ≠ 0 →
    world.holder first = world.holder second → first = second
  carried : ∀ command ∈ world.posted, command.reservation < world.reservations ∧
    carriedCommandId command.message = commandIdAt start command.reservation
  once : ∀ first ∈ world.posted, ∀ second ∈ world.posted,
    first.reservation = second.reservation → first = second
  idle : ∀ index, (world.client.states index).commandId ≠ 0 →
    (world.client.states index).inFlight = 0 →
    ∀ command ∈ world.posted, command.reservation ≠ world.holder index
  busy : ∀ index, (world.client.states index).inFlight ≠ 0 →
    ∃ command ∈ world.posted, world.current index = some command ∧ command.slot = index ∧
      command.reservation = world.holder index ∧
      command.length = (world.client.states index).expectedBytes
  buffered : ∀ command ∈ world.posted, ∃ last ∈ world.posted,
    last.message = world.commandBytes command.slot
  received : ∀ message ∈ world.messages, ∃ command ∈ world.posted, command.message = message
  answers : ∀ message completion, (message, completion) ∈ world.written →
    message ∈ world.messages ∧ completion.commandId = carriedCommandId message
  shown : ∀ index, (world.client.states index).inFlight ≠ 0 → ∀ completion,
    deserializeStorageCompletion (world.completionBytes index) = .ok completion →
    completion.state = .complete → ∃ message, (message, completion) ∈ world.written

namespace Traceable

variable {start : UInt64} {qpCount : Nat} {world : World}

theorem begin {client : StorageClient} (hOpened : client.Opened qpCount)
    (hStates : client.states = fun _ => {}) (commandBytes completionBytes : Nat → Buffer) :
    Traceable client.nextCommandId qpCount (.begin client commandBytes completionBytes) where
  opened := hOpened
  next := rfl
  held := fun index hId => absurd (by rw [World.begin, hStates]) hId
  distinct := fun first _ hId => absurd (by rw [World.begin, hStates]) hId
  carried := by simp [World.begin]
  once := by simp [World.begin]
  idle := by simp [World.begin]
  busy := fun index hBusy => absurd (by rw [World.begin, hStates]) hBusy
  buffered := by simp [World.begin]
  received := by simp [World.begin]
  answers := by simp [World.begin]
  shown := fun index hBusy => absurd (by rw [World.begin, hStates]) hBusy

/-- A state record is cleared, or keeps its identifier and what is in flight. -/
def Calm (before after : StorageState) : Prop :=
  after = {} ∨ after.commandId = before.commandId ∧ after.inFlight = before.inFlight ∧
    (before.inFlight ≠ 0 → after.expectedBytes = before.expectedBytes)

/-- What only clears state records, or touches idle ones, leaves everything in order. -/
theorem calm (h : Traceable start qpCount world) {client : StorageClient} {reservations : Nat}
    (hOpened : client.Opened qpCount)
    (hNext : client.nextCommandId = commandIdAt start reservations)
    (hMore : world.reservations ≤ reservations)
    (hStates : ∀ index, Calm (world.client.states index) (client.states index)) :
    Traceable start qpCount { world with client := client, reservations := reservations } := by
  have hKept : ∀ index, (client.states index).commandId ≠ 0 →
      (client.states index).commandId = (world.client.states index).commandId ∧
      (client.states index).inFlight = (world.client.states index).inFlight := by
    intro index hId
    rcases hStates index with hClear | ⟨hSame, hFlight, -⟩
    · rw [hClear] at hId
      exact absurd rfl hId
    · exact ⟨hSame, hFlight⟩
  have hFlying : ∀ index, (client.states index).inFlight ≠ 0 →
      (world.client.states index).inFlight ≠ 0 ∧
      (client.states index).expectedBytes = (world.client.states index).expectedBytes := by
    intro index hBusy
    rcases hStates index with hClear | ⟨-, hFlight, hBytes⟩
    · rw [hClear] at hBusy
      exact absurd rfl hBusy
    · rw [hFlight] at hBusy
      exact ⟨hBusy, hBytes hBusy⟩
  refine {
    opened := hOpened
    next := hNext
    held := ?_
    distinct := ?_
    carried := ?_
    once := h.once
    idle := ?_
    busy := ?_
    buffered := h.buffered
    received := h.received
    answers := h.answers
    shown := fun index hBusy => h.shown index (hFlying index hBusy).1 }
  · intro index hId
    have hSame := (hKept index hId).1
    obtain ⟨hHolder, hOld⟩ := h.held index (hSame ▸ hId)
    exact ⟨Nat.lt_of_lt_of_le hHolder hMore, hSame.trans hOld⟩
  · intro first second hFirst hSecond
    exact h.distinct first second ((hKept first hFirst).1 ▸ hFirst)
      ((hKept second hSecond).1 ▸ hSecond)
  · intro command hCommand
    obtain ⟨hOld, hId⟩ := h.carried command hCommand
    exact ⟨Nat.lt_of_lt_of_le hOld hMore, hId⟩
  · intro index hId hIdle
    obtain ⟨hSame, hFlight⟩ := hKept index hId
    exact h.idle index (hSame ▸ hId) (hFlight ▸ hIdle)
  · intro index hBusy
    obtain ⟨hOld, hBytes⟩ := hFlying index hBusy
    obtain ⟨command, hPosted, hCurrent, hSlot, hHolder, hLength⟩ := h.busy index hOld
    exact ⟨command, hPosted, hCurrent, hSlot, hHolder, hLength.trans hBytes.symm⟩

/-- A reservation gives its slot a number and an identifier of its own. -/
theorem take (h : Traceable start qpCount world) (slot : Nat) {client : StorageClient}
    (hOpened : client.Opened qpCount)
    (hNext : client.nextCommandId = commandIdAt start (world.reservations + 1))
    (hStates : client.states = Function.update world.client.states slot
      { commandId := commandIdAt start world.reservations }) :
    Traceable start qpCount { world with
      client := client
      reservations := world.reservations + 1
      holder := Function.update world.holder slot world.reservations
      current := Function.update world.current slot none } := by
  have hSelf : client.states slot = { commandId := commandIdAt start world.reservations } := by
    rw [hStates, Function.update_self]
  have hOther : ∀ index, index ≠ slot → client.states index = world.client.states index := by
    intro index hIndex
    rw [hStates, Function.update_of_ne hIndex]
  have hHolder : ∀ index, index ≠ slot →
      Function.update world.holder slot world.reservations index = world.holder index :=
    fun index hIndex => Function.update_of_ne hIndex ..
  have hBusySlot : ∀ index, (client.states index).inFlight ≠ 0 → index ≠ slot := by
    rintro index hBusy rfl
    rw [hSelf] at hBusy
    exact hBusy rfl
  refine {
    opened := hOpened
    next := hNext
    held := ?_
    distinct := ?_
    carried := ?_
    once := h.once
    idle := ?_
    busy := ?_
    buffered := h.buffered
    received := h.received
    answers := h.answers
    shown := ?_ }
  · intro index hId
    by_cases hIndex : index = slot
    · subst hIndex
      simp only [Function.update_self, hSelf]
      exact ⟨Nat.lt_succ_self _, trivial⟩
    · simp only [hOther index hIndex] at hId ⊢
      rw [hHolder index hIndex]
      obtain ⟨hOld, hSame⟩ := h.held index hId
      exact ⟨Nat.lt_succ_of_lt hOld, hSame⟩
  · intro first second hFirst hSecond hSame
    have hFresh : ∀ index, index ≠ slot → (client.states index).commandId ≠ 0 →
        Function.update world.holder slot world.reservations index < world.reservations := by
      intro index hIndex hId
      rw [hHolder index hIndex]
      exact (h.held index (hOther index hIndex ▸ hId)).1
    have hNumber : Function.update world.holder slot world.reservations slot =
        world.reservations := Function.update_self ..
    dsimp only at hFirst hSecond hSame
    by_cases hIndex : first = slot
    · subst hIndex
      by_contra hDiffer
      have hEarlier := hFresh second (Ne.symm hDiffer) hSecond
      omega
    · by_cases hSlot : second = slot
      · subst hSlot
        have hEarlier := hFresh first hIndex hFirst
        omega
      · rw [hHolder first hIndex, hHolder second hSlot] at hSame
        exact h.distinct first second (hOther first hIndex ▸ hFirst)
          (hOther second hSlot ▸ hSecond) hSame
  · intro command hCommand
    obtain ⟨hOld, hId⟩ := h.carried command hCommand
    exact ⟨Nat.lt_succ_of_lt hOld, hId⟩
  · intro index hId hIdle command hCommand
    by_cases hIndex : index = slot
    · subst hIndex
      simp only [Function.update_self]
      exact Nat.ne_of_lt (h.carried command hCommand).1
    · simp only [hOther index hIndex] at hId hIdle
      simp only [hHolder index hIndex]
      exact h.idle index hId hIdle command hCommand
  · intro index hBusy
    have hIndex := hBusySlot index hBusy
    simp only [hOther index hIndex] at hBusy ⊢
    simp only [hHolder index hIndex, Function.update_of_ne hIndex]
    exact h.busy index hBusy
  · intro index hBusy
    have hIndex := hBusySlot index hBusy
    simp only [hOther index hIndex] at hBusy
    exact h.shown index hBusy

/-- A command under a new reservation joins the posted ones. -/
theorem once_append {posted : List PostedCommand} {command : PostedCommand}
    (hOnce : ∀ first ∈ posted, ∀ second ∈ posted,
      first.reservation = second.reservation → first = second)
    (hFresh : ∀ other ∈ posted, other.reservation ≠ command.reservation) :
    ∀ first ∈ posted ++ [command], ∀ second ∈ posted ++ [command],
      first.reservation = second.reservation → first = second := by
  intro first hFirst second hSecond hSame
  rcases List.mem_append.mp hFirst with hFirst | hFirst
  · rcases List.mem_append.mp hSecond with hSecond | hSecond
    · exact hOnce first hFirst second hSecond hSame
    · rw [List.mem_singleton.mp hSecond] at hSame
      exact absurd hSame (hFresh first hFirst)
  · rcases List.mem_append.mp hSecond with hSecond | hSecond
    · rw [List.mem_singleton.mp hFirst] at hSame
      exact absurd hSame.symm (hFresh second hSecond)
    · rw [List.mem_singleton.mp hFirst, List.mem_singleton.mp hSecond]

/-- A command that is posted is known to the world. -/
theorem submitted_posted {slot : Nat} {expected : UInt32} {message : Buffer} {sent : Int32}
    (hIdle : (world.client.states slot).inFlight = 0) :
    world.submitted slot (world.memory.posted slot expected message sent) =
      { world with
        client := { world.client with
          states := Function.update world.client.states slot
            { world.client.states slot with
              expectedBytes := expected
              inFlight := 1
              status := sent } }
        commandBytes := Function.update world.commandBytes slot message
        completionBytes := Function.update world.completionBytes slot
          (pendingRecord (world.client.states slot).commandId)
        current := Function.update world.current slot (some {
          reservation := world.holder slot
          slot := slot
          message := message
          length := expected })
        posted := world.posted ++ [{
          reservation := world.holder slot
          slot := slot
          message := message
          length := expected }] } := by
  simp only [World.submitted, World.postedCommand, World.memory, DeviceMemory.posted,
    DeviceMemory.setState, DeviceMemory.storeCommand, DeviceMemory.storeCompletion,
    Function.update_self, hIdle]
  rfl

/-- A command is posted for an idle slot. -/
theorem post (h : Traceable start qpCount world) (slot : Nat) {expected : UInt32}
    {message : Buffer} {sent : Int32} (hId : (world.client.states slot).commandId ≠ 0)
    (hIdle : (world.client.states slot).inFlight = 0)
    (hMessage : carriedCommandId message = (world.client.states slot).commandId) :
    Traceable start qpCount
      (world.submitted slot (world.memory.posted slot expected message sent)) := by
  let command : PostedCommand := {
    reservation := world.holder slot
    slot := slot
    message := message
    length := expected }
  rw [submitted_posted hIdle]
  obtain ⟨hHeld, hNumber⟩ := h.held slot hId
  have hIds : ∀ index, (Function.update world.client.states slot
      { world.client.states slot with
        expectedBytes := expected
        inFlight := 1
        status := sent } index).commandId = (world.client.states index).commandId := by
    intro index
    by_cases hIndex : index = slot
    · subst hIndex
      rw [Function.update_self]
    · rw [Function.update_of_ne hIndex]
  refine {
    opened := { h.opened with }
    next := h.next
    held := fun index => ?_
    distinct := fun first second => ?_
    carried := ?_
    once := ?_
    idle := ?_
    busy := ?_
    buffered := ?_
    received := ?_
    answers := h.answers
    shown := ?_ }
  · rw [hIds index]
    exact h.held index
  · rw [hIds first, hIds second]
    exact h.distinct first second
  · intro other hOther
    rcases List.mem_append.mp hOther with hOld | hNew
    · exact h.carried other hOld
    · rw [List.mem_singleton.mp hNew]
      exact ⟨hHeld, hMessage.trans hNumber⟩
  · exact once_append h.once (h.idle slot hId hIdle)
  · intro index hOther hQuiet other hPosted
    dsimp only at hOther hQuiet
    rw [hIds index] at hOther
    by_cases hIndex : index = slot
    · subst hIndex
      rw [Function.update_self] at hQuiet
      simp at hQuiet
    · rw [Function.update_of_ne hIndex] at hQuiet
      rcases List.mem_append.mp hPosted with hOld | hNew
      · exact h.idle index hOther hQuiet other hOld
      · rw [List.mem_singleton.mp hNew]
        intro hSame
        exact hIndex (h.distinct index slot hOther hId hSame.symm)
  · intro index hBusy
    by_cases hIndex : index = slot
    · subst hIndex
      refine ⟨command, List.mem_append_right _ List.mem_cons_self, ?_, rfl, rfl, ?_⟩
      · exact Function.update_self ..
      · simp only [Function.update_self, command]
    · simp only [Function.update_of_ne hIndex] at hBusy ⊢
      obtain ⟨other, hPosted, hCurrent, hRest⟩ := h.busy index hBusy
      exact ⟨other, List.mem_append_left _ hPosted, hCurrent, hRest⟩
  · intro other hPosted
    by_cases hSlot : other.slot = slot
    · refine ⟨command, List.mem_append_right _ List.mem_cons_self, ?_⟩
      change message = Function.update world.commandBytes slot message other.slot
      rw [hSlot, Function.update_self]
    · rcases List.mem_append.mp hPosted with hOld | hNew
      · obtain ⟨last, hLast, hSame⟩ := h.buffered other hOld
        refine ⟨last, List.mem_append_left _ hLast, ?_⟩
        dsimp only
        rw [Function.update_of_ne hSlot]
        exact hSame
      · rw [List.mem_singleton.mp hNew] at hSlot
        exact absurd rfl hSlot
  · intro other hOther
    obtain ⟨source, hSource, hSame⟩ := h.received other hOther
    exact ⟨source, List.mem_append_left _ hSource, hSame⟩
  · intro index hBusy completion hRecord hComplete
    by_cases hIndex : index = slot
    · subst hIndex
      dsimp only at hRecord
      rw [Function.update_self, deserialize_pendingRecord hId] at hRecord
      cases hRecord
      cases hComplete
    · simp only [Function.update_of_ne hIndex] at hBusy hRecord
      exact h.shown index hBusy completion hRecord hComplete

/-- Reserving a slot keeps the records traceable. -/
theorem reserved (hStart : start ≠ 0) (h : Traceable start qpCount world)
    {result : Except Error UInt32} {client : StorageClient}
    (hEffect : ReserveEffect world.client result client) :
    Traceable start qpCount (world.reserved result client) := by
  have hIds := allocateCommandId_at hStart world.reservations
  rw [← h.next] at hIds
  have hCounted : client.nextCommandId = (StorageClient.allocateCommandId
      world.client.nextCommandId).2 → client.nextCommandId ≠ world.client.nextCommandId := by
    intro hNext
    rw [hNext, hIds, h.next]
    exact bumpCommandId_ne _
  cases hEffect with
  | unavailable =>
      rw [World.reserved, if_pos rfl]
      exact h
  | failed index hNext hStates hOpened =>
      rw [World.reserved, if_neg (hCounted hNext)]
      refine h.calm (hOpened _ h.opened) (by rw [hNext, hIds]) (Nat.le_succ _) fun other => ?_
      rcases hStates with hSame | hClear
      · rw [hSame]
        exact .inr ⟨rfl, rfl, fun _ => rfl⟩
      · rw [hClear]
        by_cases hOther : other = index
        · subst hOther
          rw [Function.update_self]
          exact .inl rfl
        · rw [Function.update_of_ne hOther]
          exact .inr ⟨rfl, rfl, fun _ => rfl⟩
  | taken hNext hStates hOpened =>
      rw [World.reserved, if_neg (hCounted hNext)]
      exact h.take _ (hOpened _ h.opened) (by rw [hNext, hIds]) (by rw [hStates, hIds, h.next])

theorem submitted (h : Traceable start qpCount world) {slotIndex : UInt32} {sent : Int32}
    {checked accepted : Prop} {memory : DeviceMemory}
    (hEffect : SubmitEffect world.memory slotIndex sent checked accepted memory) :
    Traceable start qpCount (world.submitted slotIndex.toNat memory) := by
  cases hEffect with
  | refused =>
      have hWorld : world.submitted slotIndex.toNat world.memory = world := by
        have hNever : ¬ ((world.client.states slotIndex.toNat).inFlight = 0 ∧
            (world.memory.states slotIndex.toNat).inFlight ≠ 0) := fun hBoth => hBoth.2 hBoth.1
        simp only [World.submitted, if_neg hNever]
        rfl
      rw [hWorld]
      exact h
  | @withdrawn _ expected hFree =>
      have hNever : ¬ ((world.client.states slotIndex.toNat).inFlight = 0 ∧
          ((world.memory.setState slotIndex.toNat { world.memory.states slotIndex.toNat with
            expectedBytes := expected
            inFlight := 0
            status := 0 }).states slotIndex.toNat).inFlight ≠ 0) := by
        rw [DeviceMemory.setState_self]
        exact fun hBoth => hBoth.2 rfl
      simp only [World.submitted, if_neg hNever]
      refine h.calm { h.opened with } h.next (Nat.le_refl _) fun index => .inr ?_
      by_cases hIndex : index = slotIndex.toNat
      · subst hIndex
        simp only [DeviceMemory.setState, Function.update_self]
        exact ⟨rfl, hFree.symm, fun hBusy => absurd hFree hBusy⟩
      · simp only [DeviceMemory.setState, Function.update_of_ne hIndex]
        exact ⟨rfl, rfl, fun _ => rfl⟩
  | posted _ _ hId hFree _ hMessage => exact h.post _ hId hFree hMessage.commandId_eq

theorem transmitted (h : Traceable start qpCount world) {index : Nat}
    (hPosted : ∃ command ∈ world.posted, command.slot = index) :
    Traceable start qpCount (world.transmitted index) := by
  refine { h with received := ?_, answers := ?_ }
  · intro message hMessage
    rcases List.mem_append.mp hMessage with hOld | hNew
    · exact h.received message hOld
    · rw [List.mem_singleton.mp hNew]
      obtain ⟨command, hCommand, rfl⟩ := hPosted
      exact h.buffered command hCommand
  · intro message completion hWritten
    obtain ⟨hReceived, hId⟩ := h.answers message completion hWritten
    exact ⟨List.mem_append_left _ hReceived, hId⟩

theorem answered (h : Traceable start qpCount world) {message : Buffer}
    {completion : StorageCompletion} (hReceived : message ∈ world.messages)
    (hId : completion.commandId = carriedCommandId message)
    (hValid : completionValid completion) :
    Traceable start qpCount (world.answered message completion) := by
  refine { h with answers := ?_, shown := ?_ }
  · intro other written hWritten
    rcases List.mem_append.mp hWritten with hOld | hNew
    · exact h.answers other written hOld
    · cases List.mem_singleton.mp hNew
      exact ⟨hReceived, hId⟩
  · intro index hBusy written hRecord hComplete
    by_cases hIndex : index = carriedSlotIndex message
    · subst hIndex
      dsimp only [World.answered] at hRecord
      rw [Function.update_self, completionRecord,
        deserializeStorageCompletion_layout _ (Nat.le_of_eq List.length_replicate.symm) hValid]
        at hRecord
      cases hRecord
      exact ⟨message, List.mem_append_right _ List.mem_cons_self⟩
    · simp only [World.answered, Function.update_of_ne hIndex] at hRecord
      obtain ⟨source, hSource⟩ := h.shown index hBusy written hRecord hComplete
      exact ⟨source, List.mem_append_left _ hSource⟩

/-- Every step keeps reservations, commands and records together. -/
theorem step (hStart : start ≠ 0) (h : Traceable start qpCount world) {world' : World}
    (hStep : World.Step world world') : Traceable start qpCount world' := by
  cases hStep with
  | allocate hCall => exact h.reserved hStart (allocateSlot_effect h.opened hCall)
  | allocateOn hCall => exact h.reserved hStart (allocateSlotOn_effect h.opened hCall)
  | @release slotId _ _ client hCall =>
      rcases releaseSlot_effect hCall with rfl | rfl
      · exact h
      · refine h.calm ((h.opened.setState _ _).unreserve _) h.next (Nat.le_refl _) fun index => ?_
        simp only [StorageClient.setState, StorageClient.unreserve]
        by_cases hIndex : index = (storageSlotIdIndex slotId).toNat
        · subst hIndex
          rw [Function.update_self]
          exact .inl rfl
        · rw [Function.update_of_ne hIndex]
          exact .inr ⟨rfl, rfl, fun _ => rfl⟩
  | submitAiv hCall => exact h.submitted (aivSubmit_effect hCall)
  | submitAicpu hCall => exact h.submitted (aicpuSubmit_effect hCall)
  | transmit hPosted => exact h.transmitted hPosted
  | answer hReceived hId _ hValid => exact h.answered hReceived hId hValid

/-- The records are traceable in every run. -/
theorem reaches (hStart : start ≠ 0) (h : Traceable start qpCount world) {world' : World}
    (hRun : world.Reaches world') : Traceable start qpCount world' := by
  induction hRun with
  | refl => exact h
  | tail _ hStep ih => exact ih.step hStart hStep

/-- A complete record under the identifier of a busy slot answers the command
that was submitted under the slot's reservation. -/
theorem fresh (hStart : start ≠ 0) (h : Traceable start qpCount world)
    (hFew : world.reservations < 2 ^ 64 - 1) {index : Nat} {completion : StorageCompletion}
    (hBusy : (world.client.states index).inFlight ≠ 0)
    (hNonzero : completion.commandId ≠ 0)
    (hRecord : deserializeStorageCompletion (world.completionBytes index) = .ok completion)
    (hComplete : completion.state = .complete)
    (hId : completion.commandId = (world.client.states index).commandId) :
    ∃ command, world.current index = some command ∧ command.slot = index ∧
      command.length = (world.client.states index).expectedBytes ∧
      (command.message, completion) ∈ world.written := by
  obtain ⟨command, hPosted, hCurrent, hSlot, hHolder, hLength⟩ := h.busy index hBusy
  obtain ⟨message, hWritten⟩ := h.shown index hBusy completion hRecord hComplete
  obtain ⟨hReceived, hAnswers⟩ := h.answers message completion hWritten
  obtain ⟨source, hSource, hMessage⟩ := h.received message hReceived
  obtain ⟨hSourceOld, hSourceId⟩ := h.carried source hSource
  obtain ⟨hHeld, hNumber⟩ := h.held index (hId ▸ hNonzero)
  have hSame : commandIdAt start source.reservation = commandIdAt start (world.holder index) := by
    rw [← hSourceId, hMessage, ← hAnswers, hId, hNumber]
  have hReservation := commandIdAt_inj hStart (Nat.lt_trans hSourceOld hFew)
    (Nat.lt_trans hHeld hFew) hSame
  have hCommand : source = command :=
    h.once source hSource command hPosted (hReservation.trans hHolder.symm)
  refine ⟨command, hCurrent, hSlot, hLength, ?_⟩
  rw [← hCommand, hMessage]
  exact hWritten

end Traceable

/-- What a worker writes for a command is such an answer: for a message it has
received, to the completion record of the slot that the message names. -/
theorem worker_answers {workload : Workload}
    {program : Program Call Call.Answer (Except Error Unit)} {fabric : Fabric}
    (hRun : WorkerReaches workload.traffic workload.session workload.worker program fabric)
    {turn : Nat} {address : UInt64} {key length : UInt32} {record : Buffer}
    (hAnswered : .completionPosted address key length record ∈ fabric.history turn)
    {world : World} (hReceived : workload.traffic.message turn ∈ world.messages) :
    ∃ completion, record = completionRecord completion ∧
      address = (workload.session.completionMemory
        (carriedSlotIndex (workload.traffic.message turn))).address ∧
      World.Step world (world.answered (workload.traffic.message turn) completion) := by
  have hPlanned := (hRun.invariant.planned turn).subset hAnswered
  obtain ⟨parsed, hParsed⟩ := workload.accepted_of_answered turn hPlanned
  obtain ⟨-, hComplete, hId, -⟩ := workload.resolved_accepted turn hParsed
  obtain ⟨hCarried, hSlot⟩ := parseCommand_carried hParsed
  have hPosted : (address, key, record) ∈
      (workload.completedEvents turn).filterMap Event.completion? :=
    List.mem_filterMap.mpr ⟨_, hPlanned, rfl⟩
  rw [workload.completedEvents_completion turn hParsed] at hPosted
  simp only [List.mem_singleton, Prod.mk.injEq] at hPosted
  refine ⟨(workload.resolved turn).completion, hPosted.2.2, ?_, .answer hReceived
    (hId.trans hCarried) hComplete (workload.resolved_completionValid turn hParsed)⟩
  rw [hPosted.1, hSlot]

/-- A wait that succeeds, on either device backend, has found the server's
answer to the command that was submitted under the slot's present reservation:
the server has written a successful record for that very message, and the bytes
it reports are those the submission claimed. -/
theorem wait_accepts_own_completion {qpCount : Nat} {qpNum psn : UInt32} {client : StorageClient}
    (hOpen : StorageClient.openClient qpCount qpNum psn = .ok client)
    (commandBytes completionBytes : Nat → Buffer) {world : World}
    (hRun : (World.begin client commandBytes completionBytes).Reaches world)
    (hFew : world.reservations < 2 ^ 64 - 1) (descriptor : StorageDescriptor) (slotId : UInt32)
    (hWait : aivStorageWait descriptor world.memory slotId = 0 ∨
      aicpuStorageWait descriptor world.memory slotId = .ok 0) :
    ∃ command completion, world.current (storageSlotIdIndex slotId).toNat = some command ∧
      command.slot = (storageSlotIdIndex slotId).toNat ∧
      (command.message, completion) ∈ world.written ∧ completion.status = .success ∧
      completion.bytesTransferred = command.length.toUInt64 := by
  have hOpened := StorageClient.openClient_opened hOpen
  obtain ⟨hStart, hStates⟩ := openClient_start hOpen
  have hTraceable := (Traceable.begin hOpened hStates commandBytes completionBytes).reaches hStart
    hRun
  obtain ⟨completion, hAccepted⟩ : ∃ completion,
      WaitAccepts world.memory (storageSlotIdIndex slotId).toNat completion := by
    rcases hWait with hAiv | hAicpu
    · exact aivStorageWait_accepts hAiv
    · exact aicpuStorageWait_accepts hAicpu
  obtain ⟨command, hCurrent, hSlot, hLength, hWritten⟩ := hTraceable.fresh hStart hFew
    hAccepted.inFlight_ne (deserializeStorageCompletion_id hAccepted.record) hAccepted.record
    hAccepted.complete hAccepted.commandId_eq
  refine ⟨command, completion, hCurrent, hSlot, hWritten, hAccepted.success, ?_⟩
  rw [hLength]
  exact hAccepted.bytes_eq

section Sample

namespace World

/-- The world after as many reservations on any queue. -/
def allocated (world : World) : Nat → World
  | 0 => world
  | count + 1 =>
      let before := world.allocated count
      let outcome := before.client.allocateSlot (.ok ()) (.ok ())
      before.reserved outcome.1 outcome.2

/-- Reservations are steps of the world. -/
theorem allocated_reaches (world : World) (count : Nat) :
    world.Reaches (world.allocated count) := by
  induction count with
  | zero => exact .refl
  | succ count ih =>
      have hAllocate : (world.allocated count).client.allocateSlot (.ok ()) (.ok ()) =
          (((world.allocated count).client.allocateSlot (.ok ()) (.ok ())).1,
            ((world.allocated count).client.allocateSlot (.ok ()) (.ok ())).2) := rfl
      exact ih.tail (.allocate hAllocate)

/-- The first slot gives a read to the server. -/
def sendRead (world : World) : World :=
  (world.submitted 0 (aivSubmit soleDescriptor world.memory (.read singleArgs) 0).2).transmitted 0

/-- Submitting a read and sending it is a run. -/
theorem sendRead_reaches {world : World} (hPosted : ∃ command ∈ (world.submitted 0
      (aivSubmit soleDescriptor world.memory (.read singleArgs) 0).2).posted, command.slot = 0) :
    world.Reaches world.sendRead := by
  have hSubmit : aivSubmit soleDescriptor world.memory (.read singleArgs) 0 =
      ((aivSubmit soleDescriptor world.memory (.read singleArgs) 0).1,
        (aivSubmit soleDescriptor world.memory (.read singleArgs) 0).2) := rfl
  have hSubmitted : World.Step world (world.submitted 0
      (aivSubmit soleDescriptor world.memory (.read singleArgs) 0).2) := .submitAiv hSubmit
  exact (Relation.ReflTransGen.single hSubmitted).tail (.transmit hPosted)

/-- The server reports a read of 32 bytes that it has received. -/
def readAnswered (world : World) (message : Buffer) : World :=
  world.answered message {
    commandId := carriedCommandId message
    state := .complete
    status := .success
    bytesTransferred := 32 }

theorem readAnswered_reaches {world : World} {message : Buffer}
    (hReceived : message ∈ world.messages) (hId : carriedCommandId message ≠ 0) :
    world.Reaches (world.readAnswered message) :=
  .single (.answer hReceived rfl rfl (by simp [completionValid, hId]))

end World

/-- One queue and nothing in the buffers. -/
def soloWorld : World :=
  .begin soloClient (fun _ => List.replicate kStorageCommandBytes 0)
    (fun _ => List.replicate kStorageCompletionBytes 0)

def firstSent : World := (soloWorld.allocated 1).sendRead

/-- The slot is given back before the read is answered. Once the other slots
are taken it is reserved again, and a second read is sent from it. -/
def secondSent : World :=
  ((firstSent.released (firstSent.client.releaseSlot 0 (.ok ())).2).allocated 16).sendRead

def lateAnswered : World := secondSent.readAnswered (firstSent.commandBytes 0)

def ownAnswered : World := lateAnswered.readAnswered (secondSent.commandBytes 0)

/-- The late answer to the first read is not taken for one to the second. -/
theorem wait_accepts_reusedSlot :
    soloWorld.Reaches lateAnswered ∧ aivStorageWait soleDescriptor lateAnswered.memory 0 ≠ 0 ∧
      lateAnswered.Reaches ownAnswered ∧ aivStorageWait soleDescriptor ownAnswered.memory 0 = 0 ∧
      ∃ command completion, ownAnswered.current 0 = some command ∧
        carriedCommandId command.message = 17 ∧
        (command.message, completion) ∈ ownAnswered.written := by
  have hOpen : StorageClient.openClient 1 0 1 = .ok soloClient := rfl
  have hFirst : soloWorld.Reaches firstSent :=
    (soloWorld.allocated_reaches 1).trans (World.sendRead_reaches (by decide +kernel))
  have hRelease : firstSent.client.releaseSlot 0 (.ok ()) =
      ((firstSent.client.releaseSlot 0 (.ok ())).1,
        (firstSent.client.releaseSlot 0 (.ok ())).2) := rfl
  have hReleased : World.Step firstSent
      (firstSent.released (firstSent.client.releaseSlot 0 (.ok ())).2) := .release hRelease
  have hSecond : soloWorld.Reaches secondSent :=
    ((hFirst.tail hReleased).trans (World.allocated_reaches _ 16)).trans
      (World.sendRead_reaches (by decide +kernel))
  have hLate : soloWorld.Reaches lateAnswered :=
    hSecond.trans (World.readAnswered_reaches (by decide +kernel) (by decide +kernel))
  have hOwn : lateAnswered.Reaches ownAnswered :=
    World.readAnswered_reaches (by decide +kernel) (by decide +kernel)
  have hWait : aivStorageWait soleDescriptor ownAnswered.memory 0 = 0 := by decide +kernel
  have hId : (ownAnswered.current 0).map (fun command => carriedCommandId command.message) =
      some 17 := by
    decide +kernel
  obtain ⟨command, completion, hCurrent, -, hWritten, -⟩ := wait_accepts_own_completion hOpen _ _
    (hLate.trans hOwn) (by decide +kernel) soleDescriptor 0 (.inl hWait)
  rw [show (storageSlotIdIndex 0).toNat = 0 from rfl] at hCurrent
  rw [hCurrent] at hId
  exact ⟨hLate, by decide +kernel, hOwn, hWait, command, completion, hCurrent,
    Option.some.inj hId, hWritten⟩

end Sample

end NdsStorage.System
