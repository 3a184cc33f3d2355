import NdsStorage.Client.SlotLedger
import NdsStorage.Server.ReceiveTurns
import NdsStorage.System.SharedNamespace

/-! The loop of the example client. It reserves and submits as many commands as
there are slots, then waits for each of them in order and gives its slot back,
and goes on with the next commands. It runs against the workers of a session
that expects as many commands. -/
namespace NdsStorage.System

open Bytes Interaction Server Client

/-- What the loop asks of the client library. -/
inductive LoopCall where
  | allocateSlot
  | submit (command : Nat) (slotId : UInt32)
  | storageWait (slotId : UInt32)
  | releaseSlot (slotId : UInt32)
  | verifyRead (command : Nat)
deriving DecidableEq, Repr

@[reducible] def LoopCall.Answer : LoopCall → Type
  | .allocateSlot => Except Error UInt32
  | .submit _ _ | .storageWait _ | .releaseSlot _ | .verifyRead _ => Except Error Unit

abbrev LoopProgram (Value : Type) := Fallible LoopCall LoopCall.Answer Error Value

/-- A command of the loop and the slot it was submitted from. -/
structure CommandResources where
  command : Nat
  slotId : UInt32
deriving DecidableEq, Repr

def submitCommand (command : Nat) : LoopProgram CommandResources := do
  let slotId ← ExceptT.mk (.ask LoopCall.allocateSlot)
  ExceptT.mk (.ask (LoopCall.submit command slotId))
  pure { command := command, slotId := slotId }

/-- A read is compared with the expected bytes after its slot was given back. -/
def awaitCommand (read : Bool) (resources : CommandResources) : LoopProgram Unit := do
  ExceptT.mk (.ask (LoopCall.storageWait resources.slotId))
  ExceptT.mk (.ask (LoopCall.releaseSlot resources.slotId))
  if read then ExceptT.mk (.ask (LoopCall.verifyRead resources.command)) else pure ()

def submissionWindow (read : Bool) (windowStart windowEnd : Nat) : LoopProgram Unit := do
  let commands ← Fallible.collect submitCommand (List.range' windowStart (windowEnd - windowStart))
  let _ ← Fallible.collect (awaitCommand read) commands
  pure ()

/-- Windows until all commands are submitted. Each serves at least one command,
so as many rounds as there are commands always suffice. -/
def runCommands (read : Bool) (window total : Nat) : (rounds windowStart : Nat) → LoopProgram Unit
  | 0, _ => pure ()
  | rounds + 1, windowStart =>
      if windowStart < total then do
        submissionWindow read windowStart (min total (windowStart + window))
        runCommands read window total rounds (windowStart + window)
      else
        pure ()

/-- The slots of the client, how many commands it has submitted on each queue,
the turn of the latest command of each slot on its queue, and the workers. -/
structure LoopState where
  run : SlotRun
  submitted : Nat → Nat
  turns : Nat → Nat
  configs : Nat → Config

namespace LoopState

def begin (client : StorageClient) (session : Session) (workers : List Worker) : LoopState where
  run := .begin client
  submitted := fun _ => 0
  turns := fun _ => 0
  configs := (Conversation.begin session workers).configs

def place (state : LoopState) (queue : Nat) (config : Config) : LoopState :=
  { state with configs := Function.update state.configs queue config }

def answered (state : LoopState) (queue turn : Nat) : Prop :=
  ∃ address key length bytes,
    .completionPosted address key length bytes ∈ (state.configs queue).2.history turn

/-- The command of a slot goes out on the slot's queue. -/
def send (state : LoopState) (slotId : UInt32) : LoopState :=
  let queue := (storageSlotIdQueue slotId).toNat
  { state with
    submitted := Function.update state.submitted queue (state.submitted queue + 1)
    turns := Function.update state.turns (storageSlotIdIndex slotId).toNat
      (state.submitted queue) }

/-- The completion record of the slot's command has been posted. -/
def slotAnswered (state : LoopState) (slotId : UInt32) : Prop :=
  state.answered (storageSlotIdQueue slotId).toNat
    (state.turns (storageSlotIdIndex slotId).toNat)

end LoopState

/-- The answers of the client library. Every call may fail; a failed submission
may have sent its command or not. The message that arrives in turn on a queue
is the one that was submitted there. -/
inductive LoopReply (traffic : Nat → Traffic) :
    LoopState → (call : LoopCall) → call.Answer → LoopState → Prop
  | allocated {state : LoopState} {slotId : UInt32} {client : StorageClient}
      (hAllocated : state.run.client.allocateSlot (.ok ()) (.ok ()) = (.ok slotId, client)) :
      LoopReply traffic state .allocateSlot (.ok slotId)
        { state with run.client := client, run.issued := state.run.issued ++ [slotId] }
  | allocationFailed {state : LoopState} {cleared copied : Except Error Unit} {error : Error}
      {client : StorageClient}
      (hFailed : state.run.client.allocateSlot cleared copied = (.error error, client)) :
      LoopReply traffic state .allocateSlot (.error error) { state with run.client := client }
  | submitted {state : LoopState} {command : Nat} {slotId : UInt32}
      (hMessage : carriedSlotIndex ((traffic (storageSlotIdQueue slotId).toNat).message
        (state.submitted (storageSlotIdQueue slotId).toNat)) =
          (storageSlotIdIndex slotId).toNat) :
      LoopReply traffic state (.submit command slotId) (.ok ()) (state.send slotId)
  | submissionFailed {state : LoopState} {command : Nat} {slotId : UInt32} {error : Error} :
      LoopReply traffic state (.submit command slotId) (.error error) state
  | sentFailed {state : LoopState} {command : Nat} {slotId : UInt32} {error : Error}
      (hMessage : carriedSlotIndex ((traffic (storageSlotIdQueue slotId).toNat).message
        (state.submitted (storageSlotIdQueue slotId).toNat)) =
          (storageSlotIdIndex slotId).toNat) :
      LoopReply traffic state (.submit command slotId) (.error error) (state.send slotId)
  | waited {state : LoopState} {slotId : UInt32} (hAnswered : state.slotAnswered slotId) :
      LoopReply traffic state (.storageWait slotId) (.ok ()) state
  | waitFailed {state : LoopState} {slotId : UInt32} {error : Error} :
      LoopReply traffic state (.storageWait slotId) (.error error) state
  | released {state : LoopState} {slotId : UInt32} {client : StorageClient}
      (hReleased : state.run.client.releaseSlot slotId (.ok ()) = (.ok (), client)) :
      LoopReply traffic state (.releaseSlot slotId) (.ok ())
        { state with run.client := client, run.released := state.run.released ++ [slotId] }
  | releaseFailed {state : LoopState} {slotId : UInt32} {cleared : Except Error Unit}
      {error : Error} {client : StorageClient}
      (hFailed : state.run.client.releaseSlot slotId cleared = (.error error, client)) :
      LoopReply traffic state (.releaseSlot slotId) (.error error)
        { state with run.client := client }
  | verified {state : LoopState} {command : Nat} {answer : Except Error Unit} :
      LoopReply traffic state (.verifyRead command) answer state

/-- The workers move on their own, as far as the submitted commands allow. -/
def loopWorld (traffic : Nat → Traffic) (session : Session) (workers : List Worker) :
    Environment LoopState LoopCall LoopCall.Answer where
  drift := fun state state' => ∃ queue worker config, workers[queue]? = some worker ∧
    worker.commandCount ≠ 0 ∧
    (clientWorld (traffic queue) session (state.submitted queue)).Step
      (state.configs queue) config ∧ state' = state.place queue config
  reply := LoopReply traffic

section Pace

variable (traffic : Nat → Traffic) (session : Session) (workers : List Worker) (qpCount : Nat)

/-- What holds of client and workers throughout. -/
structure Orderly (state : LoopState) : Prop where
  runs : ∀ queue worker, workers[queue]? = some worker → WorkerReaches (traffic queue) session
    worker (state.configs queue).1 (state.configs queue).2
  received_le : ∀ queue, (state.configs queue).2.received ≤ (state.configs queue).2.arrived
  arrived_le : ∀ queue, (state.configs queue).2.arrived ≤ state.submitted queue
  carried : ∀ queue, queue < qpCount → ∀ turn, turn < state.submitted queue →
    carriedSlotIndex ((traffic queue).message turn) = turnSlot qpCount queue turn

/-- How far the loop has come. Commands go round the queues and the slots. -/
structure Paced (issued : List UInt32) (sent released : Nat) (state : LoopState) : Prop extends
    Orderly traffic session workers qpCount state where
  round : RoundRobin qpCount state.run
  issued_eq : state.run.issued = issued
  queues : ∀ place slotId, issued[place]? = some slotId →
    (storageSlotIdQueue slotId).toNat = place % qpCount
  released_eq : state.run.released.length = released
  submitted_eq : ∀ queue, queue < qpCount →
    state.submitted queue = commandShare sent qpCount queue
  turns_eq : ∀ place, place < sent → sent ≤ place + qpCount * kStorageSlotsPerQp →
    state.turns (place % (qpCount * kStorageSlotsPerQp)) = place / qpCount
  answers : ∀ place, place < released → state.answered (place % qpCount) (place / qpCount)

end Pace

variable {traffic : Nat → Traffic} {session : Session} {workers : List Worker}
  {qpCount sent released : Nat} {issued : List UInt32} {state : LoopState}

section Drift

variable {queue : Nat} {worker : Worker} {config : Config}

theorem LoopState.answered_place
    (hStep : (clientWorld (traffic queue) session sent).Step (state.configs queue) config)
    {other turn : Nat} (h : state.answered other turn) :
    (state.place queue config).answered other turn := by
  obtain ⟨address, key, length, bytes, hPosted⟩ := h
  refine ⟨address, key, length, bytes, ?_⟩
  by_cases hSame : other = queue
  · subst hSame
    simp only [place, Function.update_self]
    exact (clientWorld_progress hStep).history_subset turn hPosted
  · simp only [place, Function.update_of_ne hSame]
    exact hPosted

/-- A step of a worker keeps the commands in order. -/
theorem Orderly.serve (h : Orderly traffic session workers qpCount state)
    (hStep : (clientWorld (traffic queue) session (state.submitted queue)).Step
      (state.configs queue) config) :
    Orderly traffic session workers qpCount (state.place queue config) where
  runs := by
    intro other worker hWorker
    by_cases hSame : other = queue
    · subst hSame
      simp only [LoopState.place, Function.update_self]
      exact Relation.ReflTransGen.tail (h.runs other worker hWorker) (clientWorld_step hStep)
    · simp only [LoopState.place, Function.update_of_ne hSame]
      exact h.runs other worker hWorker
  received_le := by
    intro other
    by_cases hSame : other = queue
    · subst hSame
      simp only [LoopState.place, Function.update_self]
      exact (clientWorld_progress hStep).received_le (h.received_le other)
    · simp only [LoopState.place, Function.update_of_ne hSame]
      exact h.received_le other
  arrived_le := by
    intro other
    by_cases hSame : other = queue
    · subst hSame
      simp only [LoopState.place, Function.update_self]
      exact (clientWorld_progress hStep).arrived_le (h.arrived_le other)
    · simp only [LoopState.place, Function.update_of_ne hSame]
      exact h.arrived_le other
  carried := h.carried

theorem orderly_stable : (loopWorld traffic session workers).Stable
    (Orderly traffic session workers qpCount) := by
  rintro state state' ⟨queue, worker, config, -, -, hStep, rfl⟩ h
  exact h.serve hStep

theorem answered_stable (queue turn : Nat) :
    (loopWorld traffic session workers).Stable (·.answered queue turn) := by
  rintro state state' ⟨other, worker, config, -, -, hStep, rfl⟩ h
  exact LoopState.answered_place hStep h

theorem paced_stable : (loopWorld traffic session workers).Stable
    (Paced traffic session workers qpCount issued sent released) := by
  rintro state state' ⟨queue, worker, config, -, -, hStep, rfl⟩ h
  exact { h with
    toOrderly := h.toOrderly.serve hStep
    answers := fun place hPlace => LoopState.answered_place hStep (h.answers place hPlace) }

end Drift

section Slots

/-- A slot is free under the cursor while fewer commands are open than there are slots. -/
theorem allocates_cursor {run : SlotRun} (h : RoundRobin qpCount run)
    (hRoom : run.issued.length < run.released.length + qpCount * kStorageSlotsPerQp) :
    ∃ slotId client, run.client.allocateSlot (.ok ()) (.ok ()) = (.ok slotId, client) ∧
      RoundRobin qpCount { run with client := client, issued := run.issued ++ [slotId] } ∧
      (storageSlotIdQueue slotId).toNat = run.issued.length % qpCount := by
  have hPositive := h.ordered.opened.slots_positive
  have hLength := h.ordered.opened.slots_length
  have hCursor : run.client.allocatedSlots
      (run.issued.length % (qpCount * kStorageSlotsPerQp)) = false := by
    rw [← Bool.not_eq_true, h.busy _ (Nat.mod_lt _ hPositive)]
    rintro ⟨place, hStart, hEnd, hPlace⟩
    have hApart := turn_apart hEnd hPlace
    omega
  have hSome : (SlotRun.target run.client .allocate).isSome = true := by
    apply List.find?_isSome.mpr
    refine ⟨run.issued.length % (qpCount * kStorageSlotsPerQp), ?_, by simp [hCursor]⟩
    apply mem_searchOrder.mpr
    rw [hLength]
    exact Nat.mod_lt _ hPositive
  obtain ⟨index, hTarget⟩ := Option.isSome_iff_exists.mp hSome
  obtain ⟨hIndex, -⟩ := h.target_cursor hTarget
  subst hIndex
  have hFind : run.client.searchOrder.find? (fun index => !run.client.allocatedSlots index) =
      some (run.issued.length % (qpCount * kStorageSlotsPerQp)) := hTarget
  refine ⟨_, _, ?_, h.take hRoom, ?_⟩
  · simp only [StorageClient.allocateSlot, hFind, StorageClient.installState,
      SlotRun.setState_setState]
  · rw [(handle_parts h.ordered.opened (Nat.mod_lt _ hPositive)).2, Nat.mod_mul_right_mod]

/-- The slot of the oldest open command can be given back. -/
theorem releases_oldest {run : SlotRun} (h : RoundRobin qpCount run) {slotId : UInt32}
    (hOldest : run.issued[run.released.length]? = some slotId)
    (hQueue : (storageSlotIdQueue slotId).toNat = run.released.length % qpCount) :
    ∃ client, run.client.releaseSlot slotId (.ok ()) = (.ok (), client) ∧
      RoundRobin qpCount
        { run with client := client, released := run.released ++ [slotId] } := by
  have hPositive := h.ordered.opened.slots_positive
  have hIndex := h.handle _ _ hOldest
  have hInside : (storageSlotIdIndex slotId).toNat < qpCount * kStorageSlotsPerQp := by
    rw [hIndex]
    exact Nat.mod_lt _ hPositive
  have hBusy : run.client.allocatedSlots (storageSlotIdIndex slotId).toNat = true :=
    (h.busy _ hInside).mpr ⟨run.released.length, Nat.le_refl _,
      (List.getElem?_eq_some_iff.mp hOldest).1, hIndex.symm⟩
  have hOn : run.client.slotQueue (storageSlotIdIndex slotId).toNat = storageSlotIdQueue slotId := by
    apply UInt32.toNat_inj.mp
    rw [h.ordered.opened.slotQueue_toNat hInside, hQueue, hIndex, Nat.mod_mul_right_mod]
  have hHandle : ¬((storageSlotIdIndex slotId).toNat ≥ run.client.slots.length ∨
      run.client.slotQueue (storageSlotIdIndex slotId).toNat ≠ storageSlotIdQueue slotId) := by
    rw [h.ordered.opened.slots_length]
    simp only [not_or, Nat.not_le, ne_eq, not_not]
    exact ⟨hInside, hOn⟩
  refine ⟨_, ?_, h.giveBack hOldest⟩
  simp only [StorageClient.releaseSlot, if_neg hHandle, hBusy, Bool.not_true, Bool.false_eq_true,
    if_false]

end Slots

section Attention

/-- The worker of a queue has answered a command, or has stopped, or is not
held up by a message that is not on its way. -/
def Attended (state : LoopState) (queue turn : Nat) : Prop :=
  state.answered queue turn ∨ (∃ error, (state.configs queue).1 = .done (.error error)) ∨
    ∃ call next, (state.configs queue).1 = .call call next ∧
      (call = .waitReceive →
        (state.configs queue).2.received < state.submitted queue ∧
        (state.configs queue).2.received < (state.configs queue).2.receives.length)

/-- The workers of a session that expects `total` commands. -/
structure Staffed (workers : List Worker) (qpCount total : Nat) : Prop where
  length_eq : workers.length = qpCount
  worker : ∀ queue, queue < qpCount → ∃ worker, workers[queue]? = some worker ∧
    worker.commandCount = commandShare total qpCount queue ∧
    (worker.commandCount ≠ 0 → worker.slots.length = kStorageSlotsPerQp)

variable {total windowStart : Nat}

/-- A command that has been sent is within the share of its queue. -/
theorem share_of_lt {place : Nat} (hPositive : 0 < qpCount) (h : place < sent) :
    place / qpCount < commandShare sent qpCount (place % qpCount) := by
  rw [commandShare_eq_count (Nat.mod_lt _ hPositive)]
  have hBefore : Nat.count (fun other => other % qpCount = place % qpCount) place =
      place / qpCount := count_at hPositive
  have hMono := Nat.count_monotone (fun other => other % qpCount = place % qpCount)
    (Nat.succ_le_of_lt h)
  rw [Nat.count_succ, if_pos rfl, hBefore] at hMono
  exact hMono

/-- Commands that fill whole rounds of the slots. -/
theorem share_of_rounds {queue rounds : Nat} (hQueue : queue < qpCount) :
    commandShare (qpCount * kStorageSlotsPerQp * rounds) qpCount queue =
      kStorageSlotsPerQp * rounds := by
  have hPositive : 0 < qpCount := Nat.zero_lt_of_lt hQueue
  rw [commandShare, Nat.mul_assoc, Nat.mul_mod_right, if_neg (Nat.not_lt_zero _),
    Nat.mul_div_cancel_left _ hPositive, Nat.add_zero]

/-- A command that is completed has its answer posted. -/
theorem answered_of_completed {workload : Workload} {fabric : Fabric} {turn : Nat}
    (hDone : fabric.history turn = workload.completedEvents turn)
    (hAccepted : ∃ parsed, workload.parsed turn = .ok parsed) :
    ∃ address key length bytes,
      .completionPosted address key length bytes ∈ fabric.history turn := by
  obtain ⟨parsed, hParsed⟩ := hAccepted
  rw [hDone, workload.completedEvents_eq turn hParsed]
  exact ⟨_, _, _, _, List.mem_append_right _ List.mem_cons_self⟩

/-- A worker that has received all commands of whole rounds and waits for more
has answered them. -/
theorem answers_rounds {workload : Workload} {base rounds : Nat} {fabric : Fabric}
    (hWindow : InWindow workload base fabric)
    (hSlots : workload.worker.slots.length = kStorageSlotsPerQp) (hRounds : 0 < rounds)
    (hReceived : fabric.received = kStorageSlotsPerQp * rounds) : base = fabric.received := by
  have hExpected := hWindow.expected
  have hBegun := hWindow.begun
  have hInside := hWindow.inside
  have hSixteen : kStorageSlotsPerQp = 16 := rfl
  have hActive : workload.active = kStorageSlotsPerQp := by
    rw [Workload.active, activeSlots, hSlots]
    apply Nat.min_eq_right
    change kStorageSlotsPerQp ≤ workload.commandCount
    rw [hSixteen] at hReceived ⊢
    omega
  obtain ⟨windows, hBase⟩ := hWindow.aligned
  rw [hActive] at hBase hInside
  rw [hSixteen] at hReceived hBase hInside
  omega

/-- Once a window is submitted, the worker of each of its commands sees to it. -/
theorem attended_of_submitted (hStaff : Staffed workers qpCount total)
    (hOrderly : Orderly traffic session workers qpCount state) (hPositive : 0 < qpCount)
    {rounds place : Nat}
    (hSubmitted : ∀ queue, queue < qpCount → state.submitted queue = commandShare
      (min total (qpCount * kStorageSlotsPerQp * (rounds + 1))) qpCount queue)
    (hPlace : place < min total (qpCount * kStorageSlotsPerQp * (rounds + 1))) :
    Attended state (place % qpCount) (place / qpCount) := by
  have hQueue : place % qpCount < qpCount := Nat.mod_lt _ hPositive
  obtain ⟨worker, hWorker, hCount, hSlots⟩ := hStaff.worker _ hQueue
  have hShare := share_of_lt hPositive hPlace
  have hTotal := share_of_lt hPositive (Nat.lt_of_lt_of_le hPlace (Nat.min_le_left ..))
  rw [← hSubmitted _ hQueue] at hShare
  rw [← hCount] at hTotal
  have hFlow := Nat.le_trans (hOrderly.received_le _) (hOrderly.arrived_le (place % qpCount))
  let workload : Workload :=
    { traffic := traffic (place % qpCount), session := session, worker := worker }
  have hReaches : WorkerReaches workload.traffic workload.session workload.worker _ _ :=
    hOrderly.runs _ _ hWorker
  cases hProgram : (state.configs (place % qpCount)).1 with
  | done result =>
      cases result with
      | error error => exact .inr (.inl ⟨error, hProgram⟩)
      | ok value =>
          rw [hProgram] at hReaches
          have hFinished : Finished workload (state.configs (place % qpCount)).2 :=
            hReaches.safe
          exact .inl (answered_of_completed (hFinished.done _ hTotal)
            (hFinished.accepted _ hTotal))
  | call call next =>
      by_cases hReceives : call = .waitReceive
      · subst hReceives
        rw [hProgram] at hReaches
        obtain ⟨base, hWindow⟩ : ∃ base, InWindow workload base _ :=
          hReaches.inWindow
        have hExpected : (state.configs (place % qpCount)).2.received < worker.commandCount :=
          hWindow.expected
        rcases Nat.lt_or_eq_of_le hFlow with hMore | hAll
        · refine .inr (.inr ⟨_, _, hProgram, fun _ => ⟨hMore, ?_⟩⟩)
          rw [hWindow.posted]
          exact hWindow.inside
        -- The worker waits for the first command of the next window.
        · rcases Nat.le_total total (qpCount * kStorageSlotsPerQp * (rounds + 1)) with hLast | hFull
          · rw [hAll, hSubmitted _ hQueue, Nat.min_eq_left hLast, hCount] at hExpected
            exact absurd hExpected (Nat.lt_irrefl _)
          · have hReceived : (state.configs (place % qpCount)).2.received =
                kStorageSlotsPerQp * (rounds + 1) := by
              rw [hAll, hSubmitted _ hQueue, Nat.min_eq_right hFull, share_of_rounds hQueue]
            have hBase := answers_rounds hWindow (hSlots (Nat.ne_zero_of_lt hTotal))
              (Nat.succ_pos _) hReceived
            have hBefore : place / qpCount < base := by
              rw [hBase, hAll]
              exact hShare
            exact .inl (answered_of_completed (hWindow.done _ hBefore)
              (hWindow.accepted _ hBefore))
      · exact .inr (.inr ⟨call, next, hProgram, fun hSame => absurd hSame hReceives⟩)

end Attention

section Calls

/-- What a call of the loop finds. -/
def Expected (qpCount : Nat) (state : LoopState) : LoopCall → Prop
  | .allocateSlot =>
      ∃ slotId client, state.run.client.allocateSlot (.ok ()) (.ok ()) = (.ok slotId, client)
  | .submit command slotId =>
      (storageSlotIdQueue slotId).toNat = command % qpCount ∧
        (storageSlotIdIndex slotId).toNat =
          turnSlot qpCount (command % qpCount) (command / qpCount) ∧
        state.submitted (command % qpCount) = command / qpCount
  | .storageWait slotId =>
      state.turns (storageSlotIdIndex slotId).toNat <
          state.submitted (storageSlotIdQueue slotId).toNat ∧
        Attended state (storageSlotIdQueue slotId).toNat
          (state.turns (storageSlotIdIndex slotId).toNat)
  | .releaseSlot slotId =>
      ∃ client, state.run.client.releaseSlot slotId (.ok ()) = (.ok (), client)
  | .verifyRead _ => True

/-- Safety of a part of the loop, with `next` for its regular result. -/
abbrev LoopRun (traffic : Nat → Traffic) (session : Session) (workers : List Worker)
    (qpCount : Nat) {Value : Type} (next : Value → LoopState → Prop) (program : LoopProgram Value)
    (state : LoopState) : Prop :=
  Safe (loopWorld traffic session workers)
    (fun state call => Orderly traffic session workers qpCount state ∧
      Expected qpCount state call)
    (Safe.outcome (fun _ => Orderly traffic session workers qpCount) next) program.run state

theorem Paced.queue_count (h : Paced traffic session workers qpCount issued sent released state)
    (hPositive : 0 < qpCount) : state.submitted (sent % qpCount) = sent / qpCount := by
  have hQueue : sent % qpCount < qpCount := Nat.mod_lt _ hPositive
  rw [h.submitted_eq _ hQueue, commandShare_eq_count hQueue, count_at hPositive]

/-- The place of a handle among the commands gives its slot. -/
theorem Paced.handle (h : Paced traffic session workers qpCount issued sent released state)
    {place : Nat} {slotId : UInt32} (hSlot : issued[place]? = some slotId) :
    (storageSlotIdIndex slotId).toNat = place % (qpCount * kStorageSlotsPerQp) :=
  h.round.handle place slotId (h.issued_eq.symm ▸ hSlot)

theorem safe_allocate (h : Paced traffic session workers qpCount issued sent released state)
    (hRoom : issued.length < released + qpCount * kStorageSlotsPerQp) :
    LoopRun traffic session workers qpCount
      (fun slotId => Paced traffic session workers qpCount (issued ++ [slotId]) sent released)
      (ExceptT.mk (.ask LoopCall.allocateSlot)) state := by
  have hAllocates : ∀ state, Paced traffic session workers qpCount issued sent released state →
      ∃ slotId client, state.run.client.allocateSlot (.ok ()) (.ok ()) = (.ok slotId, client) ∧
        RoundRobin qpCount
          { state.run with client := client, issued := state.run.issued ++ [slotId] } ∧
        (storageSlotIdQueue slotId).toNat = issued.length % qpCount := by
    intro state h
    have hHere := allocates_cursor h.round (by rw [h.issued_eq, h.released_eq]; exact hRoom)
    rw [h.issued_eq] at hHere ⊢
    exact hHere
  refine Safe.call (Paced traffic session workers qpCount issued sent released) paced_stable h
    (fun state h => ?_) ?_
  · obtain ⟨slotId, client, hAllocated, -⟩ := hAllocates state h
    exact ⟨h.toOrderly, slotId, client, hAllocated⟩
  · intro state answer state' h hReply
    cases hReply with
    | allocated hAllocated =>
        obtain ⟨_, _, hSame, hRound, hQueue⟩ := hAllocates _ h
        rw [hAllocated] at hSame
        cases hSame
        exact { h with
          toOrderly := { h.toOrderly with }
          round := hRound
          issued_eq := congrArg (· ++ _) h.issued_eq
          queues := forall_getElem?_concat h.queues hQueue }
    | allocationFailed hFailed => exact { h.toOrderly with }

/-- One more command is one more for its queue. -/
theorem share_succ {queue : Nat} (hQueue : queue < qpCount) :
    commandShare (sent + 1) qpCount queue =
      commandShare sent qpCount queue + if sent % qpCount = queue then 1 else 0 := by
  rw [commandShare_eq_count hQueue, commandShare_eq_count hQueue, Nat.count_succ]

/-- The message of the next command carries the slot that its worker expects. -/
theorem Paced.send_orderly (h : Paced traffic session workers qpCount issued sent released state)
    (hPositive : 0 < qpCount) {slotId : UInt32} (hSlot : issued[sent]? = some slotId)
    (hMessage : carriedSlotIndex ((traffic (storageSlotIdQueue slotId).toNat).message
      (state.submitted (storageSlotIdQueue slotId).toNat)) =
        (storageSlotIdIndex slotId).toNat) :
    Orderly traffic session workers qpCount (state.send slotId) := by
  have hQueue := h.queues sent slotId hSlot
  refine { h.toOrderly with
    arrived_le := fun queue => ?_
    carried := fun queue hInside turn hTurn => ?_ }
  · apply Nat.le_trans (h.arrived_le queue)
    by_cases hSame : queue = (storageSlotIdQueue slotId).toNat
    · simp [LoopState.send, hSame]
    · simp [LoopState.send, Function.update_of_ne hSame]
  · by_cases hSame : queue = (storageSlotIdQueue slotId).toNat
    · subst hSame
      simp only [LoopState.send, Function.update_self] at hTurn
      rcases Nat.lt_succ_iff_lt_or_eq.mp hTurn with hOld | rfl
      · exact h.carried _ hInside turn hOld
      · rw [hMessage, h.handle hSlot, hQueue, h.queue_count hPositive, turnSlot_at]
    · simp only [LoopState.send, Function.update_of_ne hSame] at hTurn
      exact h.carried queue hInside turn hTurn

theorem Paced.send (h : Paced traffic session workers qpCount issued sent released state)
    (hPositive : 0 < qpCount) {slotId : UInt32} (hSlot : issued[sent]? = some slotId)
    (hOrderly : Orderly traffic session workers qpCount (state.send slotId)) :
    Paced traffic session workers qpCount issued (sent + 1) released (state.send slotId) where
  toOrderly := hOrderly
  round := h.round
  issued_eq := h.issued_eq
  queues := h.queues
  released_eq := h.released_eq
  submitted_eq := by
    intro queue hInside
    have hQueue := h.queues sent slotId hSlot
    rw [share_succ hInside, ← h.submitted_eq queue hInside]
    by_cases hSame : sent % qpCount = queue
    · subst hSame
      simp [LoopState.send, hQueue]
    · rw [if_neg hSame]
      simp only [LoopState.send, hQueue]
      exact Function.update_of_ne (Ne.symm hSame) ..
  turns_eq := by
    intro place hPlace hRecent
    have hIndex := h.handle hSlot
    have hQueue := h.queues sent slotId hSlot
    rcases Nat.lt_succ_iff_lt_or_eq.mp hPlace with hOld | rfl
    · have hApart : place % (qpCount * kStorageSlotsPerQp) ≠
          sent % (qpCount * kStorageSlotsPerQp) := by
        intro hSame
        have := turn_apart hOld hSame
        omega
      simp only [LoopState.send, hIndex]
      rw [Function.update_of_ne hApart]
      exact h.turns_eq place hOld (by omega)
    · simp only [LoopState.send, hIndex, Function.update_self, hQueue]
      exact h.queue_count hPositive
  answers := h.answers

theorem safe_submit (h : Paced traffic session workers qpCount issued sent released state)
    (hPositive : 0 < qpCount) {slotId : UInt32} (hSlot : issued[sent]? = some slotId) :
    LoopRun traffic session workers qpCount
      (fun _ => Paced traffic session workers qpCount issued (sent + 1) released)
      (ExceptT.mk (.ask (LoopCall.submit sent slotId))) state := by
  refine Safe.call (Paced traffic session workers qpCount issued sent released) paced_stable h
    (fun state h => ⟨h.toOrderly, h.queues sent slotId hSlot, ?_, h.queue_count hPositive⟩) ?_
  · rw [h.handle hSlot, turnSlot_at]
  · intro state answer state' h hReply
    cases hReply with
    | submitted hMessage => exact h.send hPositive hSlot (h.send_orderly hPositive hSlot hMessage)
    | submissionFailed => exact h.toOrderly
    | sentFailed hMessage => exact h.send_orderly hPositive hSlot hMessage

/-- Releasing the oldest slot once it is answered. -/
theorem safe_release (h : Paced traffic session workers qpCount issued sent released state)
    {slotId : UInt32} (hSlot : issued[released]? = some slotId)
    (hAnswered : state.answered (released % qpCount) (released / qpCount)) :
    LoopRun traffic session workers qpCount
      (fun _ => Paced traffic session workers qpCount issued sent (released + 1))
      (ExceptT.mk (.ask (LoopCall.releaseSlot slotId))) state := by
  have hReleases : ∀ state, Paced traffic session workers qpCount issued sent released state →
      ∃ client, state.run.client.releaseSlot slotId (.ok ()) = (.ok (), client) ∧
        RoundRobin qpCount
          { state.run with client := client, released := state.run.released ++ [slotId] } := by
    intro state h
    apply releases_oldest h.round
    · rw [h.issued_eq, h.released_eq]
      exact hSlot
    · rw [h.released_eq]
      exact h.queues released slotId hSlot
  refine Safe.call (fun state => Paced traffic session workers qpCount issued sent released state ∧
      state.answered (released % qpCount) (released / qpCount))
    (fun state state' hDrift h => ⟨paced_stable state state' hDrift h.1,
      answered_stable _ _ state state' hDrift h.2⟩) ⟨h, hAnswered⟩ (fun state h => ?_) ?_
  · obtain ⟨client, hReleased, -⟩ := hReleases state h.1
    exact ⟨h.1.toOrderly, client, hReleased⟩
  · rintro state answer state' ⟨h, hAnswered⟩ hReply
    cases hReply with
    | released hReleased =>
        obtain ⟨_, hSame, hRound⟩ := hReleases _ h
        rw [hReleased] at hSame
        cases hSame
        refine { h with
          toOrderly := { h.toOrderly with }
          round := hRound
          released_eq := by rw [List.length_append, h.released_eq, List.length_singleton]
          answers := fun place hPlace => ?_ }
        rcases Nat.lt_succ_iff_lt_or_eq.mp hPlace with hOld | rfl
        · exact h.answers place hOld
        · exact hAnswered
    | releaseFailed hFailed => exact { h.toOrderly with }

end Calls

section Loop

variable {total rounds : Nat} {read : Bool}

/-- The end of a window of a loop that starts with `rounds` full windows. -/
def windowEnd (qpCount total rounds : Nat) : Nat :=
  min total (qpCount * kStorageSlotsPerQp * (rounds + 1))

theorem safe_storageWait (hStaff : Staffed workers qpCount total) (hPositive : 0 < qpCount)
    (h : Paced traffic session workers qpCount issued (windowEnd qpCount total rounds) released
      state)
    (hOpen : released < windowEnd qpCount total rounds)
    (hRecent : windowEnd qpCount total rounds ≤ released + qpCount * kStorageSlotsPerQp)
    {slotId : UInt32} (hSlot : issued[released]? = some slotId) :
    LoopRun traffic session workers qpCount
      (fun _ state => Paced traffic session workers qpCount issued
          (windowEnd qpCount total rounds) released state ∧
        state.answered (released % qpCount) (released / qpCount))
      (ExceptT.mk (.ask (LoopCall.storageWait slotId))) state := by
  have hCommand : ∀ state, Paced traffic session workers qpCount issued
      (windowEnd qpCount total rounds) released state →
      (storageSlotIdQueue slotId).toNat = released % qpCount ∧
        state.turns (storageSlotIdIndex slotId).toNat = released / qpCount := by
    intro state h
    rw [h.handle hSlot]
    exact ⟨h.queues released slotId hSlot, h.turns_eq released hOpen hRecent⟩
  refine Safe.call (Paced traffic session workers qpCount issued
    (windowEnd qpCount total rounds) released) paced_stable h (fun state h => ?_) ?_
  · obtain ⟨hQueue, hTurn⟩ := hCommand state h
    refine ⟨h.toOrderly, ?_⟩
    simp only [Expected, hQueue, hTurn]
    refine ⟨?_, attended_of_submitted hStaff h.toOrderly hPositive h.submitted_eq hOpen⟩
    rw [h.submitted_eq _ (Nat.mod_lt _ hPositive)]
    exact share_of_lt hPositive hOpen
  · intro state answer state' h hReply
    cases hReply with
    | waited hAnswered =>
        obtain ⟨hQueue, hTurn⟩ := hCommand state h
        rw [LoopState.slotAnswered, hQueue, hTurn] at hAnswered
        exact ⟨h, hAnswered⟩
    | waitFailed => exact h.toOrderly

theorem safe_awaitCommand (hStaff : Staffed workers qpCount total) (hPositive : 0 < qpCount)
    (h : Paced traffic session workers qpCount issued (windowEnd qpCount total rounds) released
      state)
    (hOpen : released < windowEnd qpCount total rounds)
    (hRecent : windowEnd qpCount total rounds ≤ released + qpCount * kStorageSlotsPerQp)
    {resources : CommandResources} (hSlot : issued[released]? = some resources.slotId) :
    LoopRun traffic session workers qpCount
      (fun _ => Paced traffic session workers qpCount issued (windowEnd qpCount total rounds)
        (released + 1)) (awaitCommand read resources) state := by
  refine Safe.seqFallible _ (safe_storageWait hStaff hPositive h hOpen hRecent hSlot)
    fun _ state h => ?_
  refine Safe.seqFallible _ (safe_release h.1 hSlot h.2) fun _ state h => ?_
  split
  · refine Safe.call _ paced_stable h (fun state h => ⟨h.toOrderly, trivial⟩) ?_
    intro state answer state' h hReply
    cases hReply with
    | verified =>
        cases answer with
        | error error => exact h.toOrderly
        | ok value => exact h
  · exact h

/-- Reserving a slot and submitting a command on it. -/
theorem safe_submitCommand (hPositive : 0 < qpCount)
    (h : Paced traffic session workers qpCount issued issued.length released state)
    (hRoom : issued.length < released + qpCount * kStorageSlotsPerQp) :
    LoopRun traffic session workers qpCount
      (fun resources => Paced traffic session workers qpCount (issued ++ [resources.slotId])
        (issued.length + 1) released) (submitCommand issued.length) state := by
  refine Safe.seqFallible _ (safe_allocate h hRoom) fun slotId state h => ?_
  exact Safe.seqFallible _ (safe_submit h hPositive List.getElem?_concat_length)
    fun _ state h => h

/-- The commands of a window are submitted. -/
theorem safe_submitting (hPositive : 0 < qpCount) {count : Nat}
    (hCount : count ≤ qpCount * kStorageSlotsPerQp)
    (h : Paced traffic session workers qpCount issued issued.length issued.length state) :
    LoopRun traffic session workers qpCount
      (fun commands state => commands.length = count ∧ Paced traffic session workers qpCount
        (issued ++ commands.map CommandResources.slotId) (issued.length + count) issued.length
        state)
      (Fallible.collect submitCommand (List.range' issued.length count)) state := by
  refine Safe.weakenValue (Safe.collect (fun commands state => Paced traffic session workers
      qpCount (issued ++ commands.map CommandResources.slotId) (issued.length + commands.length)
      issued.length state) (List.range' issued.length count)
    (fun commands command state hCommand h => ?_) ?_) ?_
  · obtain ⟨hInside, rfl⟩ := List.getElem?_eq_some_iff.mp hCommand
    rw [List.length_range'] at hInside
    have hSent : issued.length + commands.length =
        (issued ++ commands.map CommandResources.slotId).length := by
      rw [List.length_append, List.length_map]
    rw [List.getElem_range', Nat.one_mul]
    rw [hSent] at h ⊢
    refine (safe_submitCommand hPositive h ?_).weakenValue fun resources state h => ?_
    · rw [← hSent]
      omega
    · rw [← hSent, List.append_assoc] at h
      rw [List.map_append, List.length_append]
      exact h
  · rw [List.map_nil, List.append_nil]
    exact h
  · rintro commands state ⟨hLength, h⟩
    rw [List.length_range'] at hLength
    rw [hLength] at h
    exact ⟨hLength, h⟩

/-- One window, from one rest of the loop to the next. -/
theorem safe_submissionWindow (read : Bool) (hStaff : Staffed workers qpCount total)
    (hPositive : 0 < qpCount)
    (hLength : issued.length = qpCount * kStorageSlotsPerQp * rounds) (hBegun : issued.length < total)
    (h : Paced traffic session workers qpCount issued issued.length issued.length state) :
    LoopRun traffic session workers qpCount
      (fun _ state => ∃ issued, issued.length = windowEnd qpCount total rounds ∧
        Paced traffic session workers qpCount issued issued.length issued.length state)
      (submissionWindow read issued.length (windowEnd qpCount total rounds)) state := by
  have hEnd : windowEnd qpCount total rounds =
      min total (issued.length + qpCount * kStorageSlotsPerQp) := by
    rw [windowEnd, Nat.mul_succ, hLength]
  obtain ⟨count, hCount⟩ : ∃ count, windowEnd qpCount total rounds = issued.length + count :=
    ⟨windowEnd qpCount total rounds - issued.length, by omega⟩
  have hSmall : count ≤ qpCount * kStorageSlotsPerQp := by omega
  rw [submissionWindow, hCount, Nat.add_sub_cancel_left]
  refine Safe.seqFallible _ (safe_submitting hPositive hSmall h) fun commands state h => ?_
  obtain ⟨hCommands, h⟩ := h
  have hAll : (issued ++ commands.map CommandResources.slotId).length = issued.length + count := by
    rw [List.length_append, List.length_map, hCommands]
  refine Safe.seqFallible _ (Safe.collect (fun waited state => Paced traffic session workers
      qpCount (issued ++ commands.map CommandResources.slotId) (issued.length + count)
      (issued.length + waited.length) state) commands (fun waited resources state hNext h => ?_) h)
    fun waited state h => ?_
  · have hInside := (List.getElem?_eq_some_iff.mp hNext).1
    rw [← hCount] at h ⊢
    refine (safe_awaitCommand hStaff hPositive h (by omega) (by omega) ?_).weakenValue
      fun _ state h => ?_
    · rw [List.getElem?_append_right (Nat.le_add_right ..), Nat.add_sub_cancel_left,
        List.getElem?_map, hNext]
      rfl
    · rw [List.length_append, List.length_singleton, ← Nat.add_assoc]
      exact h
  · obtain ⟨hWaited, h⟩ := h
    rw [hWaited, hCommands] at h
    refine ⟨_, hAll, ?_⟩
    rw [hAll]
    exact h

/-- Every command of a queue's share is one of the loop. -/
theorem place_lt {queue turn : Nat} (hQueue : queue < qpCount)
    (h : turn < commandShare total qpCount queue) : turn * qpCount + queue < total := by
  have hSplit := Nat.div_add_mod total qpCount
  rw [commandShare] at h
  rcases Nat.lt_or_ge turn (total / qpCount) with hLess | hMore
  · have hRound := Nat.mul_le_mul_right qpCount (Nat.succ_le_of_lt hLess)
    rw [Nat.succ_mul, Nat.mul_comm (total / qpCount)] at hRound
    omega
  · split at h
    · have hSame : turn = total / qpCount := by omega
      rw [hSame, Nat.mul_comm]
      omega
    · omega

/-- All commands that the workers expect have been submitted and answered. -/
def Served (workers : List Worker) (state : LoopState) : Prop :=
  ∀ queue worker, workers[queue]? = some worker →
    state.submitted queue = worker.commandCount ∧
      ∀ turn, turn < worker.commandCount → state.answered queue turn

/-- A client that has released every slot has been served. -/
theorem Paced.served (hStaff : Staffed workers qpCount total)
    (h : Paced traffic session workers qpCount issued total total state) :
    Served workers state := by
  intro queue worker hWorker
  have hQueue : queue < qpCount := by
    rw [← hStaff.length_eq]
    exact (List.getElem?_eq_some_iff.mp hWorker).1
  obtain ⟨_, hSame, hCount, -⟩ := hStaff.worker queue hQueue
  rw [hWorker] at hSame
  cases hSame
  rw [hCount]
  refine ⟨h.submitted_eq queue hQueue, fun turn hTurn => ?_⟩
  have hAnswered := h.answers _ (place_lt hQueue hTurn)
  rw [Nat.mul_comm, Nat.mul_add_mod, Nat.mod_eq_of_lt hQueue,
    Nat.mul_add_div (Nat.zero_lt_of_lt hQueue), Nat.div_eq_of_lt hQueue, Nat.add_zero] at hAnswered
  exact hAnswered

theorem safe_runCommands (hStaff : Staffed workers qpCount total) (hPositive : 0 < qpCount)
    (fuel rounds : Nat) (hFuel : total ≤ qpCount * kStorageSlotsPerQp * rounds + fuel)
    {issued : List UInt32} {state : LoopState}
    (hLength : issued.length = min total (qpCount * kStorageSlotsPerQp * rounds))
    (h : Paced traffic session workers qpCount issued issued.length issued.length state) :
    LoopRun traffic session workers qpCount (fun _ state =>
        Orderly traffic session workers qpCount state ∧ Served workers state)
      (runCommands read (qpCount * kStorageSlotsPerQp) total fuel
        (qpCount * kStorageSlotsPerQp * rounds)) state := by
  have hSlots : 0 < qpCount * kStorageSlotsPerQp := Nat.mul_pos hPositive (by decide)
  have hFinish : total ≤ qpCount * kStorageSlotsPerQp * rounds →
      Orderly traffic session workers qpCount state ∧ Served workers state := by
    intro hEnd
    rw [Nat.min_eq_left hEnd] at hLength
    rw [hLength] at h
    exact ⟨h.toOrderly, h.served hStaff⟩
  induction fuel generalizing rounds issued state with
  | zero => exact hFinish hFuel
  | succ fuel ih =>
      rw [runCommands]
      by_cases hMore : qpCount * kStorageSlotsPerQp * rounds < total
      · rw [if_pos hMore, ← Nat.mul_succ]
        rw [Nat.min_eq_right (Nat.le_of_lt hMore)] at hLength
        have hWindow := safe_submissionWindow read hStaff hPositive hLength
          (hLength ▸ hMore) h
        rw [hLength] at hWindow
        refine Safe.seqFallible _ hWindow fun _ state h => ?_
        obtain ⟨issued, hIssued, h⟩ := h
        refine ih (rounds + 1) ?_ hIssued h fun hEnd => ?_
        · rw [Nat.mul_succ]
          omega
        · rw [hIssued, windowEnd, Nat.min_eq_left hEnd] at h
          exact ⟨h.toOrderly, h.served hStaff⟩
      · rw [if_neg hMore]
        exact hFinish (Nat.le_of_not_lt hMore)

end Loop

section Session

variable {total cpuCount : Nat} {qpNum psn : UInt32} {client : StorageClient}
  {commands completions : StorageMemory} {read : Bool}

/-- The split of the commands staffs the queues. -/
theorem staffed_of_split (hOpened : client.Opened qpCount)
    (hWorkers : makeWorkers (client.slotTable commands completions) total qpCount cpuCount =
      .ok workers) : Staffed workers qpCount total := by
  have hAll := makeWorkers_ok (fun index hIndex => makeWorker_slotTable hOpened hIndex total
    commands completions) hWorkers
  subst hAll
  refine ⟨by rw [List.length_map, List.length_range], fun queue hQueue => ?_⟩
  refine ⟨_, by rw [List.getElem?_map, List.getElem?_range hQueue]; rfl, rfl, fun hBusy => ?_⟩
  change (if commandShare total qpCount queue = 0 then [] else _).length = _
  rw [if_neg hBusy, slotsOf_slotTable commands completions hOpened hQueue, List.length_map,
    List.length_range]

/-- Before the first command the client is on pace. -/
theorem begin_paced (hOpen : StorageClient.openClient qpCount qpNum psn = .ok client) :
    Paced traffic session workers qpCount [] 0 0 (LoopState.begin client session workers) where
  runs := by
    intro queue worker hWorker
    simp only [LoopState.begin, Conversation.begin, hWorker]
    exact Relation.ReflTransGen.refl
  received_le := by
    intro queue
    simp only [LoopState.begin, Conversation.begin]
    split <;> exact Nat.le_refl _
  arrived_le := by
    intro queue
    simp only [LoopState.begin, Conversation.begin]
    split <;> exact Nat.le_refl _
  carried := fun _ _ _ hTurn => absurd hTurn (Nat.not_lt_zero _)
  round := RoundRobin.begin hOpen
  issued_eq := rfl
  queues := fun _ _ hSlot => nomatch hSlot
  released_eq := rfl
  submitted_eq := by
    intro queue hQueue
    rw [commandShare_eq_count hQueue, Nat.count_zero]
    rfl
  turns_eq := fun _ hPlace => absurd hPlace (Nat.not_lt_zero _)
  answers := fun _ hPlace => absurd hPlace (Nat.not_lt_zero _)

/-- However the client's loop and the workers of its session interleave, with
as many commands on both sides: a slot is free whenever the loop reserves one,
each command goes out from the slot that its worker expects next, and a worker
whose answer the loop waits for has answered, has stopped, or is not held up by
a command that was not sent. When the loop ends, every command is answered. -/
theorem windowed_loop_attended
    (hOpen : StorageClient.openClient qpCount qpNum psn = .ok client)
    (hWorkers : makeWorkers (client.slotTable commands completions) total qpCount cpuCount =
      .ok workers)
    {program : Program LoopCall LoopCall.Answer (Except Error Unit)}
    (hRun : (loopWorld traffic session workers).Reaches
      ((runCommands read client.slots.length total total 0).run,
        LoopState.begin client session workers) (program, state)) :
    (∀ call next, program = .call call next → Expected qpCount state call) ∧
      (program = .done (.ok ()) → Served workers state) ∧
      ∀ queue worker error, workers[queue]? = some worker → worker.commandCount ≠ 0 →
        (state.configs queue).1 = .done (.error error) →
        (state.configs queue).2.failure = none →
        ∀ message ∈ wrongSlotMessages, error ≠ protocolError message := by
  have hOpened := StorageClient.openClient_opened hOpen
  have hStaff := staffed_of_split hOpened hWorkers
  have hLoop : LoopRun traffic session workers qpCount (fun _ state =>
      Orderly traffic session workers qpCount state ∧ Served workers state)
      (runCommands read client.slots.length total total 0)
      (LoopState.begin client session workers) := by
    have hNone : ([] : List UInt32).length = min total (qpCount * kStorageSlotsPerQp * 0) :=
      (Nat.min_zero total).symm
    rw [hOpened.slots_length]
    exact safe_runCommands hStaff hOpened.positive total 0 (Nat.le_add_left ..) hNone
      (begin_paced hOpen)
  have hSafe := Safe.reaches (fun result => ?_) hRun hLoop
  · have hOrderly : Orderly traffic session workers qpCount state := by
      match program, hSafe with
      | .done (.ok _), hSafe => exact hSafe.1
      | .done (.error _), hSafe => exact hSafe
      | .call _ _, hSafe => exact (hSafe state .refl).1.1
    refine ⟨?_, ?_, fun queue worker error hWorker hBusy hDone hHealthy => ?_⟩
    · rintro call next rfl
      exact (hSafe state .refl).1.2
    · rintro rfl
      exact hSafe.2
    · have hQueue : queue < qpCount := by
        rw [← hStaff.length_eq]
        exact (List.getElem?_eq_some_iff.mp hWorker).1
      let workload : Workload :=
        { traffic := traffic queue, session := session, worker := worker }
      have hReaches : WorkerReaches workload.traffic workload.session workload.worker _ _ :=
        hOrderly.runs queue worker hWorker
      refine worker_never_wrong_slot hOpened hQueue commands completions ?_ hReaches
        (fun turn hTurn => hOrderly.carried queue hQueue turn ?_) hDone hHealthy
      · have hAll := makeWorkers_ok (fun index hIndex => makeWorker_slotTable hOpened hIndex total
          commands completions) hWorkers
        rw [hAll, List.getElem?_map, List.getElem?_range hQueue] at hWorker
        cases hWorker
        exact if_neg hBusy
      · have hReceived := hOrderly.received_le queue
        have hArrived := hOrderly.arrived_le queue
        omega
  · cases result with
    | error error => exact orderly_stable
    | ok value =>
        rintro before after hDrift ⟨hOrderly, hServed⟩
        refine ⟨orderly_stable before after hDrift hOrderly, fun queue worker hWorker => ?_⟩
        obtain ⟨hCount, hAnswers⟩ := hServed queue worker hWorker
        refine ⟨?_, fun turn hTurn => answered_stable queue turn before after hDrift
          (hAnswers turn hTurn)⟩
        obtain ⟨_, _, _, -, -, -, rfl⟩ := hDrift
        exact hCount

end Session

section Schedule

variable {traffic : Nat → Traffic} {session : Session} {workers : List Worker}

/-- The scheduler of a worker delivers only what its client has sent. -/
theorem execute_client (traffic : Traffic) (session : Session) (sent moves : Nat)
    (config : Config) :
    (clientWorld traffic session sent).Reaches config
      (execute traffic session sent moves config) := by
  induction moves generalizing config with
  | zero => exact .refl
  | succ moves ih =>
      refine Relation.ReflTransGen.trans ?_ (ih (advance traffic session sent config))
      obtain ⟨program, fabric⟩ := config
      cases program with
      | done result => exact .refl
      | call call next =>
          simp only [advance]
          split
          · rename_i hDeliver
            exact .single (.drift ⟨Nat.lt_of_lt_of_le hDeliver.2.2 (Nat.min_le_left ..),
              Nat.lt_of_lt_of_le hDeliver.2.2 (Nat.min_le_right ..), rfl⟩)
          · split
            · rename_i answer fabric' hRespond
              exact .single (.reply (respond_reply hRespond))
            · exact .refl

/-- The worker of a queue makes some moves. -/
def LoopState.serve (traffic : Nat → Traffic) (session : Session) (queue moves : Nat)
    (state : LoopState) : LoopState :=
  state.place queue
    (execute (traffic queue) session (state.submitted queue) moves (state.configs queue))

/-- Moves of one worker are a run of the loop. -/
theorem LoopState.serve_reaches {queue : Nat} {worker : Worker}
    (hWorker : workers[queue]? = some worker) (hBusy : worker.commandCount ≠ 0)
    (program : Program LoopCall LoopCall.Answer (Except Error Unit)) (moves : Nat)
    (state : LoopState) :
    (loopWorld traffic session workers).Reaches (program, state)
      (program, state.serve traffic session queue moves) := by
  have hMoves : (loopWorld traffic session workers).Reaches
      (program, state.place queue (state.configs queue))
      (program, state.serve traffic session queue moves) := by
    refine Relation.ReflTransGen.lift (fun config => (program, state.place queue config)) ?_ _ _
      (execute_client (traffic queue) session (state.submitted queue) moves (state.configs queue))
    intro config config' hStep
    refine .drift ⟨queue, worker, config', hWorker, hBusy, ?_, ?_⟩
    · change (clientWorld (traffic queue) session (state.submitted queue)).Step
        (Function.update state.configs queue config queue) config'
      rw [Function.update_self]
      exact hStep
    · simp only [LoopState.place, Function.update_idem]
  rwa [LoopState.place, Function.update_eq_self] at hMoves

/-- Whether the completion record of a slot's command has been posted. -/
def LoopState.recorded (state : LoopState) (slotId : UInt32) : Bool :=
  ((state.configs (storageSlotIdQueue slotId).toNat).2.history
    (state.turns (storageSlotIdIndex slotId).toNat)).any fun event => event.completion?.isSome

/-- A slot whose answer is recorded is answered. -/
theorem LoopState.slotAnswered_of_recorded {state : LoopState} {slotId : UInt32}
    (h : state.recorded slotId = true) : state.slotAnswered slotId := by
  obtain ⟨event, hEvent, hRecord⟩ := List.any_eq_true.mp h
  cases event with
  | completionPosted address key length bytes => exact ⟨address, key, length, bytes, hEvent⟩
  | _ => cases hRecord

abbrev LoopConfig := Program LoopCall LoopCall.Answer (Except Error Unit) × LoopState

/-- One call of the loop. While it waits, the worker of the first queue moves. -/
def loopAdvance (traffic : Nat → Traffic) (session : Session) (moves : Nat) :
    LoopConfig → LoopConfig
  | (.done result, state) => (.done result, state)
  | (.call .allocateSlot next, state) =>
      match state.run.client.allocateSlot (.ok ()) (.ok ()) with
      | (.ok slotId, client) =>
          (next (.ok slotId),
            { state with run.client := client, run.issued := state.run.issued ++ [slotId] })
      | (.error error, client) => (next (.error error), { state with run.client := client })
  | (.call (.submit command slotId) next, state) =>
      if carriedSlotIndex ((traffic (storageSlotIdQueue slotId).toNat).message
          (state.submitted (storageSlotIdQueue slotId).toNat)) =
            (storageSlotIdIndex slotId).toNat then
        (next (.ok ()), state.send slotId)
      else (.call (.submit command slotId) next, state)
  | (.call (.storageWait slotId) next, state) =>
      let served := state.serve traffic session 0 moves
      if served.recorded slotId then (next (.ok ()), served)
      else (.call (.storageWait slotId) next, served)
  | (.call (.releaseSlot slotId) next, state) =>
      match state.run.client.releaseSlot slotId (.ok ()) with
      | (.ok (), client) =>
          (next (.ok ()),
            { state with run.client := client, run.released := state.run.released ++ [slotId] })
      | (.error error, client) => (next (.error error), { state with run.client := client })
  | (.call (.verifyRead _) next, state) => (next (.ok ()), state)

def loopExecute (traffic : Nat → Traffic) (session : Session) (moves : Nat) :
    Nat → LoopConfig → LoopConfig
  | 0, config => config
  | calls + 1, config =>
      loopExecute traffic session moves calls (loopAdvance traffic session moves config)

/-- A computed move is a run. -/
theorem loopAdvance_reaches {worker : Worker} (hWorker : workers[0]? = some worker)
    (hBusy : worker.commandCount ≠ 0) (moves : Nat) (config : LoopConfig) :
    (loopWorld traffic session workers).Reaches config
      (loopAdvance traffic session moves config) := by
  obtain ⟨program, state⟩ := config
  match program with
  | .done result => exact .refl
  | .call .allocateSlot next =>
      simp only [loopAdvance]
      split
      · rename_i hAllocated
        exact .single (.reply (.allocated hAllocated))
      · rename_i hFailed
        exact .single (.reply (.allocationFailed hFailed))
  | .call (.submit command slotId) next =>
      simp only [loopAdvance]
      split
      · rename_i hMessage
        exact .single (.reply (.submitted hMessage))
      · exact .refl
  | .call (.storageWait slotId) next =>
      have hServed := @LoopState.serve_reaches traffic session workers 0 worker hWorker hBusy
        (.call (.storageWait slotId) next) moves state
      simp only [loopAdvance]
      split
      · rename_i hRecorded
        exact hServed.tail (.reply (.waited (LoopState.slotAnswered_of_recorded hRecorded)))
      · exact hServed
  | .call (.releaseSlot slotId) next =>
      simp only [loopAdvance]
      split
      · rename_i hReleased
        exact .single (.reply (.released hReleased))
      · rename_i hFailed
        exact .single (.reply (.releaseFailed hFailed))
  | .call (.verifyRead command) next => exact .single (.reply .verified)

theorem loopExecute_reaches {worker : Worker} (hWorker : workers[0]? = some worker)
    (hBusy : worker.commandCount ≠ 0) (moves calls : Nat) (config : LoopConfig) :
    (loopWorld traffic session workers).Reaches config
      (loopExecute traffic session moves calls config) := by
  induction calls generalizing config with
  | zero => exact .refl
  | succ calls ih => exact (loopAdvance_reaches hWorker hBusy moves config).trans (ih _)

/-- Whether the loop has ended without an error. -/
def LoopConfig.returned : LoopConfig → Bool
  | (.done (.ok ()), _) => true
  | _ => false

theorem LoopConfig.returned_eq {config : LoopConfig} (h : config.returned = true) :
    config = (.done (.ok ()), config.2) := by
  unfold LoopConfig.returned at h
  split at h
  · rfl
  · cases h

/-- Reads from the slots of one queue, in turn. -/
def soloTraffic (_ : Nat) : Traffic where
  message := fun turn => commandLayout .read { endRead 0 with
    commandId := UInt64.ofNat (turn + 1)
    slotIndex := UInt32.ofNat (turnSlot 1 0 turn) } kRemoteWrite
    (List.replicate kStorageCommandBytes 0)
  descriptors := fun _ => []
  message_length := fun _ => by simp

def soloSession : Session where
  storageSize := 64
  slots := soloClient.slotTable pairMemory pairMemory

/-- One command more than the queue has slots. -/
def soloWorkers : List Worker := [{ qpIndex := 0, commandCount := 17, slots := List.range 16 }]

/-- The loop submits a full window, waits for all of it, and goes on with the
last command. It ends when that is answered as well. -/
theorem windowed_loop_twoWindows : ∃ state,
    (loopWorld soloTraffic soloSession soloWorkers).Reaches
      ((runCommands true soloClient.slots.length 17 17 0).run,
        LoopState.begin soloClient soloSession soloWorkers) (.done (.ok ()), state) ∧
    state.submitted 0 = 17 ∧ ∀ turn, turn < 17 → state.answered 0 turn := by
  have hWorkers : makeWorkers (soloClient.slotTable pairMemory pairMemory) 17 1 1 =
      .ok soloWorkers := by
    decide +kernel
  have hReturned : (loopExecute soloTraffic soloSession 50 86
      ((runCommands true soloClient.slots.length 17 17 0).run,
        LoopState.begin soloClient soloSession soloWorkers)).returned = true := by
    decide +kernel
  have hWorker : soloWorkers[0]? =
      some { qpIndex := 0, commandCount := 17, slots := List.range 16 } := rfl
  have hRun := @loopExecute_reaches soloTraffic soloSession soloWorkers _ hWorker (by decide) 50 86
    ((runCommands true soloClient.slots.length 17 17 0).run,
      LoopState.begin soloClient soloSession soloWorkers)
  rw [LoopConfig.returned_eq hReturned] at hRun
  have hServed := (windowed_loop_attended (show StorageClient.openClient 1 0 1 = _ from rfl)
    hWorkers hRun).2.1 rfl
  exact ⟨_, hRun, hServed 0 _ rfl⟩

end Schedule

end NdsStorage.System
