import NdsStorage.System.SharedNamespace

/-! What a read returns after writes that the client has seen complete, and an
exchange of two commands over two queues that shows it. -/
namespace NdsStorage.System.SharedNamespace

open Bytes Interaction Server Client

variable {traffic : Nat → Traffic} {session : Session} {workers : List Worker}
  {content : PayloadByte → UInt8} {state : SharedNamespace}

/-- A completed write is visible to every later read, whatever queues the two
are on. When the read is seen complete, its buffer holds at each position the
byte of that write, or the byte of one that was not seen complete when that
write was submitted. -/
theorem completed_write_visible {bytes : Nat → UInt8}
    (hReached : Reached traffic session workers content bytes state)
    {source target : PayloadByte} {position : Nat}
    (hWrite : Covers traffic session false source position)
    (hRead : Covers traffic session true target position)
    (hKnown : state.seen target.command source.command = some .success)
    (hObserved : state.observed target.command = some .success) :
    ∃ last, Covers traffic session false last position ∧
      state.buffers target = some (content last) ∧
      (last.command = source.command ∨ state.seen source.command last.command = none) := by
  have hCoherent := Coherent.reached hReached
  have hLanded : state.landed target :=
    hCoherent.landed_of_observed (hObserved ▸ Option.some_ne_none _) hRead
  exact hCoherent.delivered target position hLanded hRead source
    (hKnown ▸ Option.some_ne_none _) hWrite

section Exchange

/-- What has settled later had settled before. -/
theorem Settled.before {landed : PayloadByte → Prop} {queue : Nat} {before after : Fabric}
    (h : Settled landed queue after) (hGrow : ∀ turn, before.history turn ⊆ after.history turn) :
    Settled landed queue before :=
  fun turn opcode requests hPosted hWaited =>
    h turn opcode requests (hGrow turn hPosted) (hGrow turn hWaited)

/-- The moves of one worker while nothing else happens. -/
theorem serve_run {queue : Nat} {worker : Worker} {config : Config}
    (hWorker : workers[queue]? = some worker)
    (hRun : (clientWorld (traffic queue) session (state.submitted queue)).Reaches
      (state.configs queue) config)
    (hSettled : Settled state.landed queue config.2) :
    Relation.ReflTransGen (Step traffic session workers content) state
      (state.place queue config) := by
  induction hRun with
  | refl => rw [place_same]
  | @tail config config' _ hStep ih =>
      have hEarlier := hSettled.before (clientWorld_progress hStep).history_subset
      have hHere : (clientWorld (traffic queue) session
          ((state.place queue config).submitted queue)).Step
          ((state.place queue config).configs queue) config' := by
        simp only [place, Function.update_self]
        exact hStep
      have hNext : Step traffic session workers content (state.place queue config)
          ((state.place queue config).place queue config') := .serve hWorker hHere hSettled
      rw [place_place] at hNext
      exact Relation.ReflTransGen.tail (ih hEarlier) hNext

/-- The scheduler delivers no more messages than were sent. -/
theorem execute_client {traffic : Traffic} {session : Session} (sent moves : Nat)
    (config : Config) :
    (clientWorld traffic session sent).Reaches config
      (execute traffic session sent moves config) := by
  induction moves generalizing config with
  | zero => exact Relation.ReflTransGen.refl
  | succ moves ih =>
      apply Relation.ReflTransGen.trans ?_ (ih (advance traffic session sent config))
      obtain ⟨program, fabric⟩ := config
      cases program with
      | done result => exact Relation.ReflTransGen.refl
      | call call next =>
          simp only [advance]
          split
          · rename_i hDeliver
            obtain ⟨hSent, hFree⟩ := Nat.lt_min.mp hDeliver.2.2
            exact Relation.ReflTransGen.single (.drift ⟨hSent, hFree, rfl⟩)
          · split
            · rename_i answer fabric' hRespond
              exact Relation.ReflTransGen.single (.reply (respond_reply hRespond))
            · exact Relation.ReflTransGen.refl

/-- The queue that writes and the queue that reads. -/
def byteQueue (isRead : Bool) : Nat := if isRead then 1 else 0

/-- A peer that transfers the first byte of the namespace. -/
def byteTraffic (isRead : Bool) : Traffic where
  message := fun _ => commandLayout (if isRead then .read else .write) {
      commandId := 1
      offset := 0
      length := 1
      data := { address := 4096, length := 1, remoteKey := 5 }
      slotIndex := if isRead then 1 else 0 }
    (transferAccess (if isRead then .read else .write)) (List.replicate kStorageCommandBytes 0)
  descriptors := fun _ => []
  message_length := fun _ => by simp

def byteSession : Session where
  storageSize := 64
  slots := (List.range 2).map fun queue => {
    command := { address := 8192, length := 64, remoteKey := 5 }
    completion := { address := 12288, length := 32, remoteKey := 5 }
    qpIndex := UInt32.ofNat queue
    reserved := 0 }

def byteWorker (isRead : Bool) : Worker where
  qpIndex := byteQueue isRead
  commandCount := 1
  slots := [byteQueue isRead]

def bytePosted (isRead : Bool) : Config :=
  runFor (byteTraffic isRead) byteSession (byteWorker isRead) 1 5

def byteAnswered (isRead : Bool) : Config :=
  execute (byteTraffic isRead) byteSession 1 7 (bytePosted isRead)

def byteRequest : TransferRequest where
  localOffset := 0
  remoteAddress := 4096
  remoteKey := 5
  length := 1

def firstByte (isRead : Bool) : PayloadByte where
  command := { queue := byteQueue isRead, turn := 0 }
  request := 0
  offset := 0

def byteRecord : StorageCompletion where
  commandId := 1
  state := .complete
  status := .success
  bytesTransferred := 1

/-- The write goes before the read, each with a queue and a worker of its own. -/
def byteWorkers : List Worker := [byteWorker false, byteWorker true]

def byteTraffics (queue : Nat) : Traffic := byteTraffic (queue == 1)

/-- One command from its submission to its completion. -/
def exchanged (content : PayloadByte → UInt8) (isRead : Bool) (state : SharedNamespace) :
    SharedNamespace :=
  let posted := (state.submit (byteQueue isRead)).place (byteQueue isRead) (bytePosted isRead)
  let moved := if isRead then posted.deliver (firstByte isRead) 0
    else posted.store (firstByte isRead) 0 (content (firstByte isRead))
  (moved.place (byteQueue isRead) (byteAnswered isRead)).observe (firstByte isRead).command .success

/-- A payload of one byte has landed when it is waited for. -/
theorem byteSettled {landed : PayloadByte → Prop} {isRead : Bool} {fabric : Fabric}
    (hFresh : ∀ turn, 1 ≤ turn → fabric.history turn = [])
    (hPayload : (fabric.history 0).filterMap Event.payload? =
      [(payloadOpcode isRead, [byteRequest])])
    (hLanded : .payloadWaited ∈ fabric.history 0 → landed (firstByte isRead)) :
    Settled landed (byteQueue isRead) fabric := by
  intro turn opcode requests hPosted hWaited byte position hCommand hMoves
  obtain rfl | hLater : turn = 0 ∨ 1 ≤ turn := by omega
  · have hMember : (opcode, requests) ∈ (fabric.history 0).filterMap Event.payload? :=
      List.mem_filterMap.mpr ⟨_, hPosted, rfl⟩
    rw [hPayload, List.mem_singleton] at hMember
    obtain ⟨-, rfl⟩ := Prod.mk.inj hMember
    obtain ⟨request, hRequest, hOffset, -⟩ := hMoves
    obtain ⟨command, index, offset⟩ := byte
    obtain ⟨hIndex, rfl⟩ := List.getElem?_eq_some_iff.mp hRequest
    have hFirst : index = 0 := Nat.lt_one_iff.mp hIndex
    subst hFirst
    have hStart : offset = 0 := Nat.lt_one_iff.mp hOffset
    subst hStart hCommand
    exact hLanded hWaited
  · rw [hFresh turn hLater] at hPosted
    cases hPosted

/-- The worker of one command has no other history. -/
theorem byteWorker_fresh {isRead : Bool} {config : Config}
    (hRun : (fabricWorld (byteTraffic isRead) byteSession).Reaches
      ((runWorker byteSession (byteWorker isRead)).run, Fabric.initial) config)
    (hReceived : config.2.received = 1) (turn : Nat) (h : 1 ≤ turn) :
    config.2.history turn = [] := by
  let workload : Workload := {
    traffic := byteTraffic isRead
    session := byteSession
    worker := byteWorker isRead }
  obtain ⟨program, fabric⟩ := config
  have hReaches : WorkerReaches workload.traffic workload.session workload.worker program fabric :=
    hRun
  apply hReaches.invariant.fresh
  rw [show fabric.received = 1 from hReceived]
  exact h

/-- The run of a worker up to its payload. -/
theorem bytePosted_reached (isRead : Bool) :
    (fabricWorld (byteTraffic isRead) byteSession).Reaches
      ((runWorker byteSession (byteWorker isRead)).run, Fabric.initial) (bytePosted isRead) := by
  unfold bytePosted runFor
  exact execute_reaches ..

/-- The run of a worker up to its answer. -/
theorem byteAnswered_reached (isRead : Bool) :
    (fabricWorld (byteTraffic isRead) byteSession).Reaches
      ((runWorker byteSession (byteWorker isRead)).run, Fabric.initial) (byteAnswered isRead) := by
  apply Relation.ReflTransGen.trans (bytePosted_reached isRead)
  unfold byteAnswered
  exact execute_reaches ..

theorem byteTraffics_queue (isRead : Bool) : byteTraffics (byteQueue isRead) = byteTraffic isRead := by
  cases isRead with
  | false => rfl
  | true => rfl

theorem byteWorkers_queue (isRead : Bool) :
    byteWorkers[byteQueue isRead]? = some (byteWorker isRead) := by
  cases isRead with
  | false => rfl
  | true => rfl

/-- Submitting one byte, moving it and observing the answer is a run. -/
theorem exchanged_reached (isRead : Bool)
    (hConfig : state.configs (byteQueue isRead) =
      ((runWorker byteSession (byteWorker isRead)).run, Fabric.initial))
    (hSubmitted : state.submitted (byteQueue isRead) = 0) :
    Relation.ReflTransGen (Step byteTraffics byteSession byteWorkers content) state
      (exchanged content isRead state) := by
  have hPayload : ∀ isRead, ((bytePosted isRead).2.history 0).filterMap Event.payload? =
      [(payloadOpcode isRead, [byteRequest])] := by decide +kernel
  have hUnwaited : ∀ isRead, .payloadWaited ∉ (bytePosted isRead).2.history 0 := by
    decide +kernel
  have hPosted : ∀ isRead, .payloadPosted (payloadOpcode isRead) [byteRequest] ∈
      (bytePosted isRead).2.history 0 := by decide +kernel
  have hPayload' : ∀ isRead, ((byteAnswered isRead).2.history 0).filterMap Event.payload? =
      [(payloadOpcode isRead, [byteRequest])] := by decide +kernel
  have hCompleted : ∀ isRead, .completionPosted 12288 5 32 (completionRecord byteRecord) ∈
      (byteAnswered isRead).2.history 0 := by decide +kernel
  have hReceived : ∀ isRead, (bytePosted isRead).2.received = 1 ∧
      (byteAnswered isRead).2.received = 1 := by decide +kernel
  let asked := state.submit (byteQueue isRead)
  let posted := asked.place (byteQueue isRead) (bytePosted isRead)
  have hAsked : Step byteTraffics byteSession byteWorkers content state asked := .submit _
  have hServed : Relation.ReflTransGen (Step byteTraffics byteSession byteWorkers content)
      asked posted := by
    apply serve_run (byteWorkers_queue isRead)
    · have hCount : asked.submitted (byteQueue isRead) = 1 := by
        simp [asked, SharedNamespace.submit, hSubmitted]
      rw [hCount, byteTraffics_queue]
      change (clientWorld _ _ _).Reaches (state.configs (byteQueue isRead)) _
      rw [hConfig]
      exact execute_client ..
    · exact byteSettled (byteWorker_fresh (bytePosted_reached isRead) (hReceived isRead).1)
        (hPayload isRead)
        fun hWaited => absurd hWaited (hUnwaited isRead)
  have hOpen : (posted.fabric (byteQueue isRead)).PayloadOpen 0 (payloadOpcode isRead)
      [byteRequest] := by
    rw [place_fabric_self]
    exact Or.inl ⟨hPosted isRead, hUnwaited isRead⟩
  have hMoves : Moves [byteRequest] (firstByte isRead) 0 :=
    ⟨byteRequest, rfl, Nat.zero_lt_one, rfl⟩
  let moved := if isRead then posted.deliver (firstByte isRead) 0
    else posted.store (firstByte isRead) 0 (content (firstByte isRead))
  have hMoved : Step byteTraffics byteSession byteWorkers content posted moved := by
    cases isRead with
    | false => exact .store hOpen hMoves
    | true => exact .deliver hOpen hMoves
  have hLanded : moved.landed (firstByte isRead) := by
    cases isRead with
    | false => exact Or.inl rfl
    | true => exact Or.inl rfl
  have hMovedConfig : moved.configs = posted.configs ∧ moved.submitted = posted.submitted := by
    cases isRead with
    | false => exact ⟨rfl, rfl⟩
    | true => exact ⟨rfl, rfl⟩
  have hAnswered : Relation.ReflTransGen (Step byteTraffics byteSession byteWorkers content)
      moved (moved.place (byteQueue isRead) (byteAnswered isRead)) := by
    apply serve_run (byteWorkers_queue isRead)
    · have hCount : posted.submitted (byteQueue isRead) = 1 := by
        simp [posted, asked, SharedNamespace.submit, place, hSubmitted]
      have hHere : posted.configs (byteQueue isRead) = bytePosted isRead := by
        simp [posted, place]
      rw [hMovedConfig.1, hMovedConfig.2, hCount, hHere, byteTraffics_queue]
      exact execute_client ..
    · exact byteSettled (byteWorker_fresh (byteAnswered_reached isRead) (hReceived isRead).2)
        (hPayload' isRead) fun _ => hLanded
  have hObserved : Step byteTraffics byteSession byteWorkers content
      (moved.place (byteQueue isRead) (byteAnswered isRead)) (exchanged content isRead state) := by
    have hRecord : deserializeStorageCompletion (completionRecord byteRecord) = .ok byteRecord :=
      deserializeStorageCompletion_layout byteRecord (by decide) rfl
    have hHistory : .completionPosted 12288 5 32 (completionRecord byteRecord) ∈
        ((moved.place (byteQueue isRead) (byteAnswered isRead)).fabric (byteQueue isRead)).history
          0 := by
      rw [place_fabric_self]
      exact hCompleted isRead
    exact .observe hHistory hRecord
  exact Relation.ReflTransGen.head hAsked (hServed.trans (Relation.ReflTransGen.head hMoved
    (hAnswered.tail hObserved)))

def byteEntry : StorageBatchEntry where
  offset := 0
  length := 1
  data := { address := 4096, length := 1, remoteKey := 5 }

theorem byteCovers (isRead : Bool) :
    Covers byteTraffics byteSession isRead (firstByte isRead) 0 := by
  have hOperation : deserializeStorageOperation ((byteTraffic isRead).message 0) =
      .ok (if isRead then .read else .write) :=
    deserializeStorageOperation_layout _ _ _ (Nat.le_of_eq List.length_replicate.symm)
  have hDescribed : ∀ isRead, described byteSession.storageSize ((byteTraffic isRead).message 0)
      ((byteTraffic isRead).descriptors 0) = some [byteEntry] := by decide +kernel
  have hSame := byteTraffics_queue isRead
  refine ⟨if isRead then .read else .write, [byteEntry], byteEntry, ?_, ?_, ?_, rfl,
    Nat.zero_lt_one, rfl⟩
  · rw [firstByte, hSame, hOperation]
  · cases isRead with
    | false => rfl
    | true => rfl
  · rw [firstByte, hSame]
    exact hDescribed isRead

/-- A byte is written on one queue and then read on another. The namespace was
zero before. -/
theorem completed_write_visible_byte :
    ∃ state, Reached byteTraffics byteSession byteWorkers (fun _ => 7) (fun _ => 0) state ∧
      state.seen (firstByte true).command (firstByte false).command = some .success ∧
      state.observed (firstByte true).command = some .success ∧
      state.buffers (firstByte true) = some 7 := by
  let start := begin byteSession byteWorkers fun _ => 0
  have hWritten : Relation.ReflTransGen (Step byteTraffics byteSession byteWorkers fun _ => 7)
      start (exchanged (fun _ => 7) false start) := exchanged_reached false rfl rfl
  have hRead : Relation.ReflTransGen (Step byteTraffics byteSession byteWorkers fun _ => 7)
      (exchanged (fun _ => 7) false start)
      (exchanged (fun _ => 7) true (exchanged (fun _ => 7) false start)) :=
    exchanged_reached true rfl rfl
  have hReached : Reached byteTraffics byteSession byteWorkers (fun _ => 7) (fun _ => 0) _ :=
    hWritten.trans hRead
  obtain ⟨last, -, hBuffer, -⟩ := completed_write_visible hReached (byteCovers false)
    (byteCovers true) rfl rfl
  exact ⟨_, hReached, rfl, rfl, hBuffer⟩

end Exchange

end NdsStorage.System.SharedNamespace
