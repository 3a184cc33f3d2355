import NdsStorage.System.SlotOrder

/-! A client that submits one command, waits for its completion record and only
then submits the next one, against the workers of a session. A worker answers
the commands of a window when it has received all of them, so a worker that
expects a second command in the window of the first never answers the first. -/
namespace NdsStorage.System

open Bytes Interaction Server Client

/-- The environment of a worker whose peer has sent `sent` messages so far. -/
def clientWorld (traffic : Traffic) (session : Session) (sent : Nat) :
    Environment Fabric Call Call.Answer where
  drift := fun fabric fabric' =>
    fabric.arrived < sent ∧ (fabricWorld traffic session).drift fabric fabric'
  reply := (fabricWorld traffic session).reply

/-- A worker of the client's world is a worker of the fabric. -/
theorem clientWorld_step {traffic : Traffic} {session : Session} {sent : Nat}
    {config config' : Config} (h : (clientWorld traffic session sent).Step config config') :
    (fabricWorld traffic session).Step config config' := by
  cases h with
  | drift hDrift => exact .drift hDrift.2
  | reply hReply => exact .reply hReply

/-- The workers of a session, the commands submitted on each queue, and the
command that the client waits for, by queue and by its turn on the queue. -/
structure Conversation where
  configs : Nat → Config
  submitted : Nat → Nat
  waiting : Option (Nat × Nat)

namespace Conversation

/-- One worker has moved on. -/
def place (state : Conversation) (queue : Nat) (config : Config) : Conversation :=
  { state with configs := Function.update state.configs queue config }

@[simp] theorem place_self (state : Conversation) (queue : Nat) (config : Config) :
    (state.place queue config).configs queue = config :=
  Function.update_self ..

/-- A step of one worker leaves the others alone. -/
theorem place_other (state : Conversation) {queue other : Nat} (h : other ≠ queue)
    (config : Config) : (state.place queue config).configs other = state.configs other :=
  Function.update_of_ne h ..

@[simp] theorem place_place (state : Conversation) (queue : Nat) (first second : Config) :
    (state.place queue first).place queue second = state.place queue second := by
  simp only [place, Function.update_idem]

@[simp] theorem place_same (state : Conversation) (queue : Nat) :
    state.place queue (state.configs queue) = state := by
  simp only [place, Function.update_eq_self]

variable (traffic : Nat → Traffic) (session : Session) (workers : List Worker)

def begin : Conversation where
  configs := fun queue => match workers[queue]? with
    | some worker => ((runWorker session worker).run, Fabric.initial)
    | none => (.done (.ok ()), Fabric.initial)
  submitted := fun _ => 0
  waiting := none

/-- The completion record of a command is on its way. -/
def answered (state : Conversation) (queue turn : Nat) : Prop :=
  ∃ address key length bytes,
    .completionPosted address key length bytes ∈ (state.configs queue).2.history turn

/-- The client submits only while it waits for nothing. Workers without
commands are not started. -/
inductive Step : Conversation → Conversation → Prop
  | submit {state : Conversation} {queue : Nat} (hQueue : queue < workers.length)
      (hIdle : state.waiting = none) :
      Step state { state with
        submitted := Function.update state.submitted queue (state.submitted queue + 1)
        waiting := some (queue, state.submitted queue) }
  | serve {state : Conversation} {queue : Nat} {worker : Worker} {config : Config}
      (hWorker : workers[queue]? = some worker) (hBusy : worker.commandCount ≠ 0)
      (hStep : (clientWorld (traffic queue) session (state.submitted queue)).Step
        (state.configs queue) config) :
      Step state (state.place queue config)
  | observe {state : Conversation} {queue turn : Nat}
      (hWaiting : state.waiting = some (queue, turn)) (hAnswered : state.answered queue turn) :
      Step state { state with waiting := none }

/-- Every state that some interleaving of the client and the workers reaches. -/
def Reached (state : Conversation) : Prop :=
  Relation.ReflTransGen (Step traffic session workers) (begin session workers) state

/-- A worker waits for a further command while the client waits for the answer
to one that this worker has received. -/
def Deadlocked (state : Conversation) : Prop :=
  ∃ queue turn next, state.waiting = some (queue, turn) ∧
    (state.configs queue).1 = .call .waitReceive next ∧ turn < (state.configs queue).2.received

variable {traffic session workers} {state : Conversation}

/-- What a worker does in a conversation it also does against some peer of its own. -/
theorem worker_reaches (h : Reached traffic session workers state) {queue : Nat}
    {worker : Worker} (hWorker : workers[queue]? = some worker) :
    WorkerReaches (traffic queue) session worker (state.configs queue).1
      (state.configs queue).2 := by
  induction h with
  | refl =>
      simp only [begin, hWorker]
      exact Relation.ReflTransGen.refl
  | tail _ hStep ih =>
      cases hStep with
      | submit => exact ih
      | observe => exact ih
      | @serve other _ config _ _ hServe =>
          by_cases hSame : queue = other
          · subst hSame
            rw [place_self]
            exact Relation.ReflTransGen.tail ih (clientWorld_step hServe)
          · rw [place_other _ hSame]
            exact ih

/-- The client waits for the command of a queue of the session. -/
theorem waiting_queue (h : Reached traffic session workers state) {queue turn : Nat}
    (hWaiting : state.waiting = some (queue, turn)) : queue < workers.length := by
  induction h with
  | refl => cases hWaiting
  | tail _ hStep ih =>
      cases hStep with
      | submit hQueue _ =>
          cases hWaiting
          exact hQueue
      | observe => cases hWaiting
      | serve => exact ih hWaiting

/-- A worker with one command does not wait again after it has received it. -/
theorem not_deadlocked (h : Reached traffic session workers state)
    (hShares : ∀ worker ∈ workers, worker.commandCount ≤ 1) : ¬ state.Deadlocked := by
  rintro ⟨queue, turn, next, hWaiting, hCall, hReceived⟩
  obtain ⟨worker, hWorker⟩ : ∃ worker, workers[queue]? = some worker :=
    ⟨_, List.getElem?_eq_getElem (waiting_queue h hWaiting)⟩
  let workload : Workload := { traffic := traffic queue, session := session, worker := worker }
  have hReaches : WorkerReaches workload.traffic workload.session workload.worker _ _ :=
    worker_reaches h hWorker
  rw [hCall] at hReaches
  have hExpected : (state.configs queue).2.received < worker.commandCount :=
    hReaches.callSafe.expected rfl
  have hShare := hShares worker (List.mem_of_getElem? hWorker)
  omega

/-- The moves of one worker, while the client waits. -/
theorem serve_reaches {queue : Nat} {worker : Worker} {config : Config}
    (hWorker : workers[queue]? = some worker) (hBusy : worker.commandCount ≠ 0)
    (hServe : (clientWorld (traffic queue) session (state.submitted queue)).Reaches
      (state.configs queue) config) :
    Relation.ReflTransGen (Step traffic session workers) state (state.place queue config) := by
  induction hServe with
  | refl =>
      rw [place_same]
  | @tail config config' _ hStep ih =>
      have hHere : (clientWorld (traffic queue) session (state.submitted queue)).Step
          ((state.place queue config).configs queue) config' := by
        rw [place_self]
        exact hStep
      have hNext : Step traffic session workers (state.place queue config)
          ((state.place queue config).place queue config') := .serve hWorker hBusy hHere
      rw [place_place] at hNext
      exact Relation.ReflTransGen.tail ih hNext

end Conversation

section Starvation

variable {traffic : Traffic} {session : Session} {worker : Worker} {sent : Nat}

/-- The worker posts its receives one after another. -/
theorem posts_receives (slots : List Nat) (fabric : Fabric)
    (hRoom : fabric.receives.length + slots.length ≤ kQpDepth) :
    (clientWorld traffic session sent).Reaches
      ((Fallible.collect postReceive slots).run, fabric)
      (.done (.ok (slots.map fun _ => ())),
        { fabric with receives := fabric.receives ++ slots }) := by
  induction slots generalizing fabric with
  | nil =>
      rw [List.append_nil]
      exact Relation.ReflTransGen.refl
  | cons slot slots ih =>
      simp only [List.length_cons] at hRoom
      have hPost : (clientWorld traffic session sent).Reaches ((postReceive slot).run, fabric)
          (.done (.ok ()), { fabric with receives := fabric.receives ++ [slot] }) :=
        .ask (Reply.postReceive (by omega))
      have hRest := ih { fabric with receives := fabric.receives ++ [slot] } (by
        simp only [List.length_append, List.length_singleton]
        omega)
      simp only [List.append_assoc, List.singleton_append] at hRest
      exact (hPost.bindFallible _).trans (hRest.bindFallible _)

variable {state : PendingCommand}

/-- The worker posts a payload that is valid and has room. -/
theorem posts_payload {fabric : Fabric} (hSome : state.requests ≠ [])
    (hValid : ∀ request ∈ state.requests, requestValid session.storageSize.toNat request)
    (hRoom : fabric.outstanding + state.requests.length ≤ kQpDepth) :
    ∃ pending fabric', (clientWorld traffic session sent).Reaches
        ((postPayload state).run, fabric) (.done (.ok pending), fabric') ∧
      fabric'.received = fabric.received := by
  let posted := (fabric.post state.slot state.requests.length
    (.payload (payloadOpcode state.storageRead))).record (fabric.current state.slot)
      (.payloadPosted (payloadOpcode state.storageRead) state.requests)
  have hPost : (clientWorld traffic session sent).Reaches ((postPayloadBatch state).run, fabric)
      (.done (.ok (fabric.sent + state.requests.length - 1)), posted) := by
    unfold postPayloadBatch posted payloadOpcode
    cases state.storageRead with
    | false => exact .ask (Reply.postTransferBatch hSome hValid hRoom)
    | true => exact .ask (Reply.postTransferBatch hSome hValid hRoom)
  exact ⟨_, posted, hPost.bindFallible _, rfl⟩

/-- With its receives posted and one message sent, a worker gets as far as the
message, whether or not the command is valid. -/
theorem receives_first (slots : List Nat)
    (hParsed : parseCommand session.storageSize 0 (worker.slots.getD 0 0)
      (traffic.message 0) = .ok (state, none))
    (hPosts : state.completion.status = .success → state.requests ≠ [] ∧
      (∀ request ∈ state.requests, requestValid session.storageSize.toNat request) ∧
      state.requests.length ≤ kQpDepth) :
    ∃ pending fabric, (clientWorld traffic session 1).Reaches
        ((receiveCommand session worker 0).run, { Fabric.initial with receives := 0 :: slots })
        (.done (.ok pending), fabric) ∧ fabric.received = 1 := by
  let fabric : Fabric := { Fabric.initial with receives := 0 :: slots }
  let loaded := ((fabric.arrive traffic).receive 0).record 0 (.loaded 0 (traffic.message 0))
  have hArrive : (clientWorld traffic session 1).Reaches
      ((receiveCommand session worker 0).run, fabric)
      ((receiveCommand session worker 0).run, fabric.arrive traffic) :=
    Relation.ReflTransGen.single (.drift ⟨Nat.zero_lt_one, Nat.zero_lt_succ _, rfl⟩)
  have hWait : (clientWorld traffic session 1).Reaches (waitReceive.run, fabric.arrive traffic)
      (.done (.ok ()), (fabric.arrive traffic).receive 0) :=
    .ask (Reply.waitReceive Nat.zero_lt_one ⟨Nat.le_refl 0, Nat.le_refl 0⟩)
  have hLoad : (clientWorld traffic session 1).Reaches
      ((loadCommand 0).run, (fabric.arrive traffic).receive 0)
      (.done (.ok (traffic.message 0)), loaded) :=
    (Environment.Reaches.ask Reply.loadCommand).bind _
  have hStart := hArrive.trans ((hWait.bindFallible _).trans (hLoad.bindFallible _))
  rw [hParsed] at hStart
  change (clientWorld traffic session 1).Reaches _ (ExceptT.run
    (if state.completion.status = .success then postPayload state else pure state), loaded)
    at hStart
  by_cases hSuccess : state.completion.status = .success
  · obtain ⟨hSome, hValid, hRoom⟩ := hPosts hSuccess
    have hLoad : loaded.outstanding + state.requests.length ≤ kQpDepth := by
      change 0 - 0 + _ ≤ _
      omega
    obtain ⟨pending, posted, hPosted, hReceived⟩ := posts_payload hSome hValid hLoad
    rw [if_pos hSuccess] at hStart
    exact ⟨pending, posted, hStart.trans hPosted, hReceived⟩
  · rw [if_neg hSuccess] at hStart
    exact ⟨state, loaded, hStart, rfl⟩

/-- A worker that expects a second command in its first window waits for it
before it answers the first. -/
theorem worker_starves (hCount : 2 ≤ worker.commandCount) (hSlots : 2 ≤ worker.slots.length)
    (hDepth : activeSlots worker ≤ kQpDepth)
    (hParsed : parseCommand session.storageSize 0 (worker.slots.getD 0 0)
      (traffic.message 0) = .ok (state, none))
    (hPosts : state.completion.status = .success → state.requests ≠ [] ∧
      (∀ request ∈ state.requests, requestValid session.storageSize.toNat request) ∧
      state.requests.length ≤ kQpDepth) :
    ∃ next fabric, (clientWorld traffic session 1).Reaches
        ((runWorker session worker).run, Fabric.initial) (.call .waitReceive next, fabric) ∧
      fabric.received = 1 := by
  obtain ⟨rest, hRest⟩ : ∃ rest, activeSlots worker = rest + 2 :=
    ⟨activeSlots worker - 2, by rw [activeSlots]; omega⟩
  obtain ⟨rounds, hRounds⟩ : ∃ rounds, worker.commandCount = rounds + 1 :=
    ⟨worker.commandCount - 1, by omega⟩
  have hWindow : min (activeSlots worker) (worker.commandCount - 0) = rest + 2 := by
    rw [hRest, Nat.min_eq_left]
    rw [activeSlots] at hRest
    omega
  have hRange : List.range (rest + 2) =
      0 :: 1 :: (List.range rest).map fun slot => slot + 1 + 1 := by
    simp [List.range_succ_eq_map]
  obtain ⟨pending, fabric, hFirst, hReceived⟩ := receives_first
    (1 :: (List.range rest).map fun slot => slot + 1 + 1) hParsed hPosts
  have hSecond : (clientWorld traffic session 1).Reaches
      ((receiveCommand session worker 1).run, fabric) (.call .waitReceive _, fabric) :=
    Relation.ReflTransGen.refl
  obtain ⟨_, hSecond⟩ := hSecond.collectHead ((List.range rest).map fun slot => slot + 1 + 1)
  obtain ⟨_, hReceives⟩ := Environment.Reaches.collectTail hFirst hSecond
  rw [← hRange] at hReceives
  have hRun : ∃ next, (clientWorld traffic session 1).Reaches
      ((runWindows session worker worker.commandCount 0).run,
        { Fabric.initial with receives := List.range (rest + 2) })
      (.call .waitReceive next, fabric) := by
    obtain ⟨_, hWindowRun⟩ : ∃ next, (clientWorld traffic session 1).Reaches
        ((runWindow session worker (rest + 2)).run,
          { Fabric.initial with receives := List.range (rest + 2) })
        (.call .waitReceive next, fabric) :=
      hReceives.callFallible _
    rw [hRounds, runWindows, if_pos (by omega)]
    dsimp only
    rw [hWindow]
    exact hWindowRun.callFallible _
  obtain ⟨next, hRun⟩ := hRun
  have hPosted : (clientWorld traffic session 1).Reaches
      ((Fallible.collect postReceive (List.range (rest + 2))).run, Fabric.initial)
      (.done (.ok _), { Fabric.initial with receives := List.range (rest + 2) }) :=
    posts_receives _ _ (by
      rw [List.length_range, ← hRest]
      exact (Nat.zero_add _).symm ▸ hDepth)
  have hSome : ¬ worker.slots.isEmpty = true := by
    rw [List.isEmpty_iff_length_eq_zero]
    omega
  refine ⟨next, fabric, ?_, hReceived⟩
  rw [runWorker, if_neg hSome, hRest]
  exact (hPosted.bindFallible _).trans hRun

end Starvation

section Reads

/-- A peer that sends the same read again and again. -/
def readTraffic (command : StorageTransferCommand) : Traffic where
  message := fun _ =>
    commandLayout .read command kRemoteWrite (List.replicate kStorageCommandBytes 0)
  descriptors := fun _ => []
  message_length := fun _ => by simp

theorem parseCommand_readTraffic {command : StorageTransferCommand}
    (hId : command.commandId ≠ 0) (hLength : command.length ≠ 0)
    (hData : memoryValid command.data command.length) (size : UInt64) (slot turn : Nat) :
    parseCommand size slot command.slotIndex.toNat ((readTraffic command).message turn) =
      .ok (acceptTransfer size true command { slot := slot }, none) := by
  have hBuffer : kStorageCommandBytes ≤ (List.replicate kStorageCommandBytes (0 : UInt8)).length :=
    Nat.le_of_eq List.length_replicate.symm
  have hOperation := deserializeStorageOperation_layout .read command kRemoteWrite hBuffer
  simp only [readTraffic, parseCommand, hOperation, decodeOr, Except.mapError, bind, Except.bind]
  exact parseTransfer_ok.mpr ⟨command, deserializeTransfer_layout hBuffer .read kRemoteWrite command
    hId hLength hData, rfl, rfl, rfl⟩


/-- A read of eight bytes past the end of the namespace, from the first slot. -/
def endRead (size : UInt64) : StorageTransferCommand where
  commandId := 1
  offset := size
  length := 8
  data := { address := 4096, length := 8, remoteKey := 5 }
  slotIndex := 0

/-- No read starts at the end of the namespace. -/
theorem outOfRange_end (size : UInt64) : outOfRange size size 8 = true := by
  simp [outOfRange]

theorem parseCommand_endRead (size : UInt64) :
    parseCommand size 0 0 ((readTraffic (endRead size)).message 0) =
      .ok (acceptTransfer size true (endRead size) { slot := 0 }, none) := by
  have hId : (endRead size).commandId ≠ 0 := by simp [endRead]
  have hLength : (endRead size).length ≠ 0 := by simp [endRead]
  have hData : memoryValid (endRead size).data (endRead size).length :=
    show memoryValid { address := 4096, length := 8, remoteKey := 5 } 8 = true by decide
  have hSlot : (endRead size).slotIndex.toNat = 0 := rfl
  have hParsed := parseCommand_readTraffic hId hLength hData size 0 0
  rw [hSlot] at hParsed
  exact hParsed

end Reads

section Sharing

variable {qpCount commandCount cpuCount : Nat} {qpNum psn : UInt32} {client : StorageClient}
  {commands completions : StorageMemory} {workers : List Worker}

/-- With no more commands than queues, no queue gets two. -/
theorem commandShare_le_one {queue : Nat} (h : commandCount ≤ qpCount) :
    commandShare commandCount qpCount queue ≤ 1 := by
  rw [commandShare]
  rcases Nat.lt_or_eq_of_le h with hLess | rfl
  · rw [Nat.div_eq_of_lt hLess]
    split <;> omega
  · rw [Nat.mod_self, if_neg (Nat.not_lt_zero _)]
    rcases Nat.eq_zero_or_pos commandCount with rfl | hPositive
    · decide
    · rw [Nat.div_self hPositive]

/-- With more commands than queues the first queue has at least two. -/
theorem two_le_commandShare (hPositive : 0 < qpCount) (h : qpCount < commandCount) :
    2 ≤ commandShare commandCount qpCount 0 := by
  rw [commandShare]
  have hOne : 1 ≤ commandCount / qpCount := (Nat.one_le_div_iff hPositive).mpr (Nat.le_of_lt h)
  have hSplit := Nat.div_add_mod commandCount qpCount
  split
  · omega
  · rename_i hRest
    have hZero : commandCount % qpCount = 0 := Nat.eq_zero_of_not_pos hRest
    rcases Nat.lt_or_ge (commandCount / qpCount) 2 with hLess | hTwo
    · have hExact : commandCount / qpCount = 1 := by omega
      rw [hZero, hExact, Nat.mul_one, Nat.add_zero] at hSplit
      omega
    · exact hTwo

/-- The first command goes to the first queue. Its worker receives it and waits
for another one, which the client does not send before it has an answer. -/
theorem deadlock_reached (hOpened : client.Opened qpCount)
    (hWorkers : workers = (List.range qpCount).map fun queue => {
      qpIndex := queue
      commandCount := commandShare commandCount qpCount queue
      slots := if commandShare commandCount qpCount queue = 0 then []
        else slotsOf (client.slotTable commands completions) queue })
    (hMore : qpCount < commandCount) (traffic : Nat → Traffic) (session : Session)
    {pending : PendingCommand}
    (hParsed : parseCommand session.storageSize 0 0 ((traffic 0).message 0) = .ok (pending, none))
    (hPosts : pending.completion.status = .success → pending.requests ≠ [] ∧
      (∀ request ∈ pending.requests, requestValid session.storageSize.toNat request) ∧
      pending.requests.length ≤ kQpDepth) :
    ∃ state, Conversation.Reached traffic session workers state ∧ state.Deadlocked := by
  have hQueue : 0 < qpCount := hOpened.positive
  have hShare := two_le_commandShare hQueue hMore
  let worker : Worker := {
    qpIndex := 0
    commandCount := commandShare commandCount qpCount 0
    slots := slotsOf (client.slotTable commands completions) 0 }
  have hSlots : worker.slots = (List.range kStorageSlotsPerQp).map fun turn => turn * qpCount + 0 :=
    slotsOf_slotTable commands completions hOpened hQueue
  have hWorker : workers[0]? = some worker := by
    rw [hWorkers, List.getElem?_map, List.getElem?_range hQueue, Option.map_some,
      if_neg (by omega)]
  have hLength : worker.slots.length = kStorageSlotsPerQp := by
    rw [hSlots, List.length_map, List.length_range]
  have hFirst : worker.slots.getD 0 0 = 0 := by
    rw [hSlots]
    simp [kStorageSlotsPerQp]
  have hDepth : activeSlots worker ≤ kQpDepth :=
    Nat.le_trans (Nat.min_le_right ..) (by rw [hLength]; decide)
  obtain ⟨next, fabric, hRun, hReceived⟩ := worker_starves hShare (by rw [hLength]; decide) hDepth
    (show parseCommand session.storageSize 0 (worker.slots.getD 0 0) ((traffic 0).message 0) = _ by
      rw [hFirst]
      exact hParsed) hPosts
  let asked : Conversation := { Conversation.begin session workers with
    submitted := Function.update (Conversation.begin session workers).submitted 0 1
    waiting := some (0, 0) }
  have hAsked : Conversation.Step traffic session workers (.begin session workers) asked :=
    .submit (List.getElem?_eq_some_iff.mp hWorker).1 rfl
  have hConfig : asked.configs 0 = ((runWorker session worker).run, Fabric.initial) := by
    simp only [asked, Conversation.begin, hWorker]
  rw [← hConfig] at hRun
  have hServed : Relation.ReflTransGen (Conversation.Step traffic session workers) asked
      (asked.place 0 (.call .waitReceive next, fabric)) :=
    Conversation.serve_reaches hWorker (Nat.ne_zero_of_lt hShare) hRun
  refine ⟨_, Relation.ReflTransGen.head hAsked hServed, 0, 0, next, rfl, ?_, ?_⟩
  · rw [Conversation.place_self]
  · rw [Conversation.place_self, hReceived]
    exact Nat.zero_lt_one

/-- The client of one command at a time and the workers of its session never
wait for each other exactly when no queue has more than one command to serve:
the command count must not exceed the number of queues. -/
theorem oneAtATime_never_deadlocks_iff
    (hOpen : StorageClient.openClient qpCount qpNum psn = .ok client)
    (hWorkers : makeWorkers (client.slotTable commands completions) commandCount qpCount cpuCount =
      .ok workers) (size : UInt64) :
    (∀ traffic state, Conversation.Reached traffic
        { storageSize := size, slots := client.slotTable commands completions } workers state →
      ¬ state.Deadlocked) ↔ commandCount ≤ qpCount := by
  have hOpened := StorageClient.openClient_opened hOpen
  have hAll := makeWorkers_ok (fun index hIndex => makeWorker_slotTable hOpened hIndex
    commandCount commands completions) hWorkers
  constructor
  · intro hNever
    by_contra hMore
    have hParsed := parseCommand_endRead size
    have hRefused : (acceptTransfer size true (endRead size) { slot := 0 }).completion.status =
        .rangeError := by
      simp [acceptTransfer, endRead, outOfRange_end]
    obtain ⟨state, hReached, hDeadlocked⟩ : ∃ state, Conversation.Reached
        (fun _ => readTraffic (endRead size))
        { storageSize := size, slots := client.slotTable commands completions } workers state ∧
        state.Deadlocked := by
      apply deadlock_reached hOpened hAll (Nat.lt_of_not_le hMore)
        (fun _ => readTraffic (endRead size))
        { storageSize := size, slots := client.slotTable commands completions } hParsed
      intro hSuccess
      rw [hRefused] at hSuccess
      cases hSuccess
    exact hNever _ state hReached hDeadlocked
  · intro hFew traffic state hReached
    apply Conversation.not_deadlocked hReached
    intro worker hWorker
    rw [hAll] at hWorker
    obtain ⟨queue, -, rfl⟩ := List.mem_map.mp hWorker
    exact commandShare_le_one hFew

/-- Two commands over two queues. -/
theorem oneAtATime_pair : ∃ workers,
    makeWorkers (pairClient.slotTable pairMemory pairMemory) 2 2 2 = .ok workers ∧
    ∀ traffic state, Conversation.Reached traffic
        { storageSize := 64, slots := pairClient.slotTable pairMemory pairMemory } workers state →
      ¬ state.Deadlocked := by
  have hOpen : StorageClient.openClient 2 0 1 = .ok pairClient := rfl
  have hWorkers : makeWorkers (pairClient.slotTable pairMemory pairMemory) 2 2 2 = .ok
      [{ qpIndex := 0
         commandCount := 1
         slots := [0, 2, 4, 6, 8, 10, 12, 14, 16, 18, 20, 22, 24, 26, 28, 30] },
       { qpIndex := 1
         commandCount := 1
         slots := [1, 3, 5, 7, 9, 11, 13, 15, 17, 19, 21, 23, 25, 27, 29, 31] }] := by
    decide +kernel
  exact ⟨_, hWorkers, (oneAtATime_never_deadlocks_iff hOpen hWorkers 64).mpr (Nat.le_refl 2)⟩

/-- A client with a single queue of sixteen slots. -/
def soleClient : StorageClient where
  qpCount := 1
  slots := StorageClient.slotLayout 1
  allocatedSlots := fun _ => false
  nextSlot := 0
  nextCommandId := 1
  states := fun _ => {}

/-- A read of the first eight bytes from the first slot. -/
def startRead : StorageTransferCommand where
  commandId := 1
  offset := 0
  length := 8
  data := { address := 4096, length := 8, remoteKey := 5 }
  slotIndex := 0

/-- Two commands over a single queue: the worker holds back the answer to the
first, a valid read, and waits for the second, which is not sent before. -/
theorem oneAtATime_deadlocks :
    StorageClient.openClient 1 0 1 = .ok soleClient ∧
    ∃ workers, makeWorkers (soleClient.slotTable pairMemory pairMemory) 2 1 1 = .ok workers ∧
    ∃ state, Conversation.Reached (fun _ => readTraffic startRead)
        { storageSize := 64, slots := soleClient.slotTable pairMemory pairMemory } workers state ∧
      state.Deadlocked := by
  have hOpen : StorageClient.openClient 1 0 1 = .ok soleClient := rfl
  have hOpened := StorageClient.openClient_opened hOpen
  have hWorkers : makeWorkers (soleClient.slotTable pairMemory pairMemory) 2 1 1 = .ok
      [{ qpIndex := 0
         commandCount := 2
         slots := [0, 1, 2, 3, 4, 5, 6, 7, 8, 9, 10, 11, 12, 13, 14, 15] }] := by
    decide +kernel
  have hAll := makeWorkers_ok (fun index hIndex => makeWorker_slotTable hOpened hIndex
    2 pairMemory pairMemory) hWorkers
  have hParsed : parseCommand 64 0 0 ((readTraffic startRead).message 0) =
      .ok (acceptTransfer 64 true startRead { slot := 0 }, none) :=
    parseCommand_readTraffic (by decide) (by decide) (by decide) 64 0 0
  refine ⟨hOpen, _, hWorkers, deadlock_reached hOpened hAll (by decide)
    (fun _ => readTraffic startRead)
    { storageSize := 64, slots := soleClient.slotTable pairMemory pairMemory } hParsed ?_⟩
  intro _
  decide

end Sharing

end NdsStorage.System
