import NdsStorage.Server.Fabric

/-! A scheduler for workers. It lets every call succeed if the queue pair allows
it, delivers the peer's messages only when the worker waits for one, and polls
no more completions than the waits require. What it computes is a run. -/
namespace NdsStorage.Server

open Bytes Interaction

instance (regionLength : Nat) (request : TransferRequest) :
    Decidable (requestValid regionLength request) :=
  inferInstanceAs (Decidable (_ ∧ _ ∧ _ ∧ _ ∧ _ ∧ _))

/-- The completions a wait has to poll. -/
def Fabric.retireTo (fabric : Fabric) (wrId : Nat) : Nat := max fabric.retired (wrId + 1)

/-- A successful answer, where one is possible. -/
def respond (traffic : Traffic) (session : Session) (fabric : Fabric) :
    (call : Call) → Option (call.Answer × Fabric)
  | .postReceive slot =>
      if fabric.receives.length - fabric.received < kQpDepth then
        some (.ok (), { fabric with receives := fabric.receives ++ [slot] })
      else none
  | .waitReceive =>
      if fabric.received < fabric.arrived ∧ fabric.retired ≤ fabric.sent then
        some (.ok (), fabric.receive fabric.retired)
      else none
  | .loadCommand slot =>
      some (fabric.commandBytes slot,
        fabric.record (fabric.current slot) (.loaded slot (fabric.commandBytes slot)))
  | .postRead slot address key length =>
      if requestValid (kStorageMaxBatchEntries * kStorageBatchEntryBytes)
          (slotRequest address key length) ∧ fabric.outstanding + 1 ≤ kQpDepth then
        some (.ok fabric.sent, (fabric.post slot 1 (.fetch length)).record (fabric.current slot)
          (.fetchPosted address key length))
      else none
  | .waitRead wrId =>
      match fabric.posts wrId with
      | { command, slot, kind := .fetch length } =>
          if fabric.retireTo wrId ≤ fabric.sent then
            some (.ok (), ({ fabric with retired := fabric.retireTo wrId }.land traffic command
              slot length).record command .fetchWaited)
          else none
      | _ => none
  | .loadEntries slot => some (fabric.entryBytes slot, fabric)
  | .postTransferBatch slot opcode requests =>
      if requests ≠ [] ∧ (∀ request ∈ requests, requestValid session.storageSize.toNat request) ∧
          fabric.outstanding + requests.length ≤ kQpDepth then
        some (.ok (fabric.sent + requests.length - 1),
          (fabric.post slot requests.length (.payload opcode)).record (fabric.current slot)
            (.payloadPosted opcode requests))
      else none
  | .waitTransferBatch opcode wrId =>
      match fabric.posts wrId with
      | { command, slot := _, kind := .payload opcode' } =>
          if opcode' = opcode ∧ fabric.retireTo wrId ≤ fabric.sent then
            some (.ok (), { fabric with retired := fabric.retireTo wrId }.record command
              .payloadWaited)
          else none
      | _ => none
  | .loadCompletion slot => some (fabric.completionBytes slot, fabric)
  | .storeCompletion slot bytes =>
      some ((), { fabric with
        completionBytes := Function.update fabric.completionBytes slot bytes })
  | .postWrite slot address key length =>
      if requestValid kStorageCompletionBytes (slotRequest address key length) ∧
          fabric.outstanding + 1 ≤ kQpDepth then
        some (.ok fabric.sent, (fabric.post slot 1 .completion).record (fabric.current slot)
          (.completionPosted address key length
            (slice (fabric.completionBytes slot) 0 length.toNat)))
      else none
  | .waitWrite wrId =>
      match fabric.posts wrId with
      | { command, slot := _, kind := .completion } =>
          if fabric.retireTo wrId ≤ fabric.sent then
            some (.ok (), { fabric with retired := fabric.retireTo wrId }.record command
              .completionWaited)
          else none
      | _ => none

variable {traffic : Traffic} {session : Session} {fabric fabric' : Fabric}

/-- Retiring up to a work request retires that one too. -/
theorem polled_retireTo {wrId : Nat} (h : fabric.retireTo wrId ≤ fabric.sent) :
    polled fabric (fabric.retireTo wrId) ∧ wrId < fabric.retireTo wrId :=
  ⟨⟨Nat.le_max_left .., h⟩, Nat.le_max_right ..⟩

/-- An answer that is computed is one of the possible ones. -/
theorem respond_reply {call : Call} {answer : call.Answer}
    (h : respond traffic session fabric call = some (answer, fabric')) :
    Reply traffic session fabric call answer fabric' := by
  cases call with
  | postReceive slot =>
      obtain ⟨hRoom, hSame⟩ := Option.ite_none_right_eq_some.mp h
      cases hSame
      exact .postReceive hRoom
  | waitReceive =>
      obtain ⟨hReady, hSame⟩ := Option.ite_none_right_eq_some.mp h
      cases hSame
      exact .waitReceive hReady.1 ⟨Nat.le_refl _, hReady.2⟩
  | loadCommand slot =>
      cases h
      exact .loadCommand
  | postRead slot address key length =>
      obtain ⟨hReady, hSame⟩ := Option.ite_none_right_eq_some.mp h
      cases hSame
      exact .postRead hReady.1 hReady.2
  | waitRead wrId =>
      simp only [respond] at h
      split at h
      · rename_i command slot length hPost
        obtain ⟨hReady, hSame⟩ := Option.ite_none_right_eq_some.mp h
        cases hSame
        exact .waitRead hPost (polled_retireTo hReady).1 (polled_retireTo hReady).2
      · cases h
  | loadEntries slot =>
      cases h
      exact .loadEntries
  | postTransferBatch slot opcode requests =>
      obtain ⟨hReady, hSame⟩ := Option.ite_none_right_eq_some.mp h
      cases hSame
      exact .postTransferBatch hReady.1 hReady.2.1 hReady.2.2
  | waitTransferBatch opcode wrId =>
      simp only [respond] at h
      split at h
      · rename_i command slot opcode' hPost
        obtain ⟨⟨rfl, hReady⟩, hSame⟩ := Option.ite_none_right_eq_some.mp h
        cases hSame
        exact .waitTransferBatch hPost (polled_retireTo hReady).1 (polled_retireTo hReady).2
      · cases h
  | loadCompletion slot =>
      cases h
      exact .loadCompletion
  | storeCompletion slot bytes =>
      cases h
      exact .storeCompletion
  | postWrite slot address key length =>
      obtain ⟨hReady, hSame⟩ := Option.ite_none_right_eq_some.mp h
      cases hSame
      exact .postWrite hReady.1 hReady.2
  | waitWrite wrId =>
      simp only [respond] at h
      split at h
      · rename_i command slot hPost
        obtain ⟨hReady, hSame⟩ := Option.ite_none_right_eq_some.mp h
        cases hSame
        exact .waitWrite hPost (polled_retireTo hReady).1 (polled_retireTo hReady).2
      · cases h

abbrev Config := Program Call Call.Answer (Except Error Unit) × Fabric

/-- One move of a worker whose peer sends the first `sent` messages. -/
def advance (traffic : Traffic) (session : Session) (sent : Nat) : Config → Config
  | (.done result, fabric) => (.done result, fabric)
  | (.call call next, fabric) =>
      if call = .waitReceive ∧ fabric.arrived = fabric.received ∧
          fabric.arrived < min sent fabric.receives.length then
        (.call call next, fabric.arrive traffic)
      else
        match respond traffic session fabric call with
        | some (answer, fabric') => (next answer, fabric')
        | none => (.call call next, fabric)

/-- Moves of the scheduler, one after the other. -/
def execute (traffic : Traffic) (session : Session) (sent : Nat) : Nat → Config → Config
  | 0, config => config
  | moves + 1, config =>
      execute traffic session sent moves (advance traffic session sent config)

/-- A computed move is a run of the worker. -/
theorem advance_reaches (sent : Nat) (config : Config) :
    (fabricWorld traffic session).Reaches config (advance traffic session sent config) := by
  obtain ⟨program, fabric⟩ := config
  cases program with
  | done result => exact Relation.ReflTransGen.refl
  | call call next =>
      simp only [advance]
      split
      · rename_i hDeliver
        exact Relation.ReflTransGen.single (.drift ⟨Nat.lt_of_lt_of_le hDeliver.2.2
          (Nat.min_le_right ..), rfl⟩)
      · split
        · rename_i answer fabric' hRespond
          exact Relation.ReflTransGen.single (.reply (respond_reply hRespond))
        · exact Relation.ReflTransGen.refl

theorem execute_reaches (sent moves : Nat) (config : Config) :
    (fabricWorld traffic session).Reaches config
      (execute traffic session sent moves config) := by
  induction moves generalizing config with
  | zero => exact Relation.ReflTransGen.refl
  | succ moves ih => exact (advance_reaches sent config).trans (ih _)

/-- The run of a worker under the scheduler. -/
def runFor (traffic : Traffic) (session : Session) (worker : Worker) (sent moves : Nat) : Config :=
  execute traffic session sent moves ((runWorker session worker).run, Fabric.initial)

/-- What a worker has returned, if it has. -/
def Config.outcome? : Config → Option (Except Error Unit)
  | (.done result, _) => some result
  | (.call _ _, _) => none

theorem Config.outcome?_eq {config : Config} {result : Except Error Unit}
    (h : config.outcome? = some result) : config.1 = .done result := by
  obtain ⟨program, fabric⟩ := config
  cases program with
  | done other =>
      cases h
      rfl
  | call call next => cases h

/-- Running a worker for some moves is one of its runs. -/
theorem runFor_reaches (traffic : Traffic) (session : Session) (worker : Worker)
    (sent moves : Nat) :
    WorkerReaches traffic session worker (runFor traffic session worker sent moves).1
      (runFor traffic session worker sent moves).2 :=
  execute_reaches sent moves _

end NdsStorage.Server
