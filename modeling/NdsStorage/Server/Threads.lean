import Mathlib.Algebra.BigOperators.Group.List.Basic
import Mathlib.Algebra.Ring.Nat
import NdsStorage.Interaction.FirstFailure
import NdsStorage.Server.Completion
import NdsStorage.Server.Setup

/-! The threads of a session. Every worker with commands gets a thread, which is
pinned to a CPU before the worker runs on it, and the session ends with the
first error that any of them has recorded. -/
namespace NdsStorage.Server

open Bytes Interaction

/-- The thread of a worker: the outcome of pinning it, and its worker. -/
structure WorkerThread where
  pinned : Option (Except Error Unit)
  config : Config

namespace WorkerThread

/-- What the body of the thread ends with. -/
def outcome (thread : WorkerThread) : Option (Except Error Unit) :=
  match thread.pinned with
  | none => none
  | some (.error error) => some (.error error)
  | some (.ok ()) =>
      match thread.config.1 with
      | .done result => some result
      | .call _ _ => none

/-- The thread is pinned first, and its worker moves after that. -/
inductive Move (traffic : Traffic) (session : Session) : WorkerThread → WorkerThread → Prop
  | pin {config : Config} (result : Except Error Unit) :
      Move traffic session { pinned := none, config := config }
        { pinned := some result, config := config }
  | work {config config' : Config} (hStep : (fabricWorld traffic session).Step config config') :
      Move traffic session { pinned := some (.ok ()), config := config }
        { pinned := some (.ok ()), config := config' }

end WorkerThread

section Session

variable (traffic : Nat → Traffic) (started : Started)

def workerJobs : Jobs WorkerThread Error where
  move := fun queue => WorkerThread.Move (traffic queue) started.session
  outcome := fun _ => WorkerThread.outcome

/-- A queue pair whose worker has commands gets a thread. -/
def Busy (queue : Nat) : Prop :=
  ∃ worker, started.workers[queue]? = some worker ∧ worker.commandCount ≠ 0

def newThread (queue : Nat) : WorkerThread where
  pinned := none
  config := match started.workers[queue]? with
    | some worker => ((runWorker started.session worker).run, Fabric.initial)
    | none => (.done (.ok ()), Fabric.initial)

/-- Every state of the threads that some interleaving reaches. -/
def ThreadsReach (threads : Threads WorkerThread Error) : Prop :=
  Threads.Reached (workerJobs traffic started) (Busy started) (newThread started) threads

/-- What `serve_commands` returns after the join. -/
def joinedResult (threads : Threads WorkerThread Error) : Except Error Unit :=
  match threads.first with
  | some error => .error error
  | none => .ok ()

variable {traffic started} {threads : Threads WorkerThread Error}

/-- Each thread is in a run of its own worker. -/
theorem thread_reaches (h : ThreadsReach traffic started threads) {queue : Nat} {worker : Worker}
    (hWorker : started.workers[queue]? = some worker) :
    WorkerReaches (traffic queue) started.session worker (threads.locals queue).config.1
      (threads.locals queue).config.2 := by
  refine Threads.locals_invariant (fun queue thread =>
    ∀ worker, started.workers[queue]? = some worker →
      WorkerReaches (traffic queue) started.session worker thread.config.1 thread.config.2)
    ?_ ?_ h queue worker hWorker
  · intro queue worker hWorker
    simp only [newThread, hWorker]
    exact Relation.ReflTransGen.refl
  · intro queue before after hMove hBefore worker hWorker
    cases hMove with
    | pin result => exact hBefore worker hWorker
    | work hStep => exact Relation.ReflTransGen.tail (hBefore worker hWorker) hStep

/-- A thread that ended well was pinned and its worker has returned. -/
theorem outcome_ok {thread : WorkerThread} (h : thread.outcome = some (.ok ())) :
    thread.config.1 = .done (.ok ()) := by
  unfold WorkerThread.outcome at h
  split at h
  · cases h
  · cases h
  · split at h
    next result hDone =>
      cases h
      exact hDone
    · cases h

/-- A thread fails when it is pinned or when its worker fails. -/
theorem outcome_error {thread : WorkerThread} {error : Error}
    (h : thread.outcome = some (.error error)) :
    thread.pinned = some (.error error) ∨ thread.config.1 = .done (.error error) := by
  unfold WorkerThread.outcome at h
  split at h
  · cases h
  next hPinned =>
    cases h
    exact Or.inl hPinned
  · split at h
    next result hDone =>
      cases h
      exact Or.inr hDone
    · cases h

end Session

/-- The shares of the queue pairs add up to the commands of the session. -/
theorem commandShare_sum {qpCount : Nat} (commandCount : Nat) (hPositive : 0 < qpCount) :
    ((List.range qpCount).map (commandShare commandCount qpCount)).sum = commandCount := by
  have hPart : ∀ count, ((List.range count).map (commandShare commandCount qpCount)).sum =
      count * (commandCount / qpCount) + min count (commandCount % qpCount) := by
    intro count
    induction count with
    | zero => simp
    | succ count ih =>
        rw [List.range_succ, List.map_append, List.sum_append, ih, List.map_singleton,
          List.sum_singleton, commandShare, Nat.succ_mul]
        split <;> omega
  have hRest := Nat.mod_lt commandCount hPositive
  rw [hPart, Nat.min_eq_right (Nat.le_of_lt hRest), Nat.div_add_mod]

section Joined

variable {traffic : Nat → Traffic} {started : Started} {threads : Threads WorkerThread Error}
  {table : List StorageSlot} {qpCount commandCount : Nat}

/-- The shares of the workers add up to the commands. -/
theorem Built.commands (h : Built table qpCount commandCount started) (hPositive : 0 < qpCount) :
    (started.workers.map Worker.commandCount).sum = commandCount := by
  have hLength : started.workers.length = qpCount := by
    have hEach := (forall₂_of_mapM h).length_eq
    rw [← hEach, List.length_range]
  have hCounts : started.workers.map Worker.commandCount =
      (List.range qpCount).map (commandShare commandCount qpCount) := by
    apply List.ext_getElem
    · simp [hLength]
    · intro queue hLeft hRight
      have hInside : queue < started.workers.length := by simpa using hLeft
      have hWorker := (h.worker (List.getElem?_eq_getElem hInside)).1
      simpa using hWorker
  rw [hCounts, commandShare_sum commandCount hPositive]

/-- The answer of a worker to one of its commands: one completion, which carries
the command's identifier. -/
def AnsweredOnce (workload : Workload) (fabric : Fabric) (command : Nat) : Prop :=
  ∃ address key record completion,
    (fabric.history command).filterMap Event.completion? = [(address, key, record)] ∧
      deserializeStorageCompletion record = .ok completion ∧ completion.state = .complete ∧
      completion.commandId = carriedCommandId (workload.traffic.message command)

/-- A worker that has returned has answered all its commands. -/
theorem answeredOnce_of_returned {workload : Workload} {fabric : Fabric}
    (hRun : WorkerReaches workload.traffic workload.session workload.worker (.done (.ok ()))
      fabric) {command : Nat} (hCommand : command < workload.worker.commandCount) :
    AnsweredOnce workload fabric command := by
  obtain ⟨-, -, -, hDone, hAccepted⟩ := hRun.safe
  obtain ⟨parsed, hParsed⟩ := hAccepted command hCommand
  obtain ⟨completion, hRecord, hComplete, hId, -⟩ := completionRecord_eq hParsed
  have hOne := workload.completedEvents_completion command hParsed
  rw [← hDone command hCommand] at hOne
  exact ⟨_, _, _, completion, hOne, hRecord, hComplete, hId⟩

/-- What the end of a session means, in every interleaving of its threads. It
ends well if and only if every thread has run its worker to the end. Then all
the commands of the session are answered, each once. Otherwise it ends with an
error that some thread got from its CPU or from its worker. And the threads
never wait for each other for good: until they are joined one of them can move,
unless all that are left wait for the network. -/
theorem session_result (hBuilt : Built table qpCount commandCount started)
    (hPositive : 0 < qpCount) (hReach : ThreadsReach traffic started threads) :
    (Threads.Joined (Busy started) threads →
      (joinedResult threads = .ok () ↔
        ∀ queue, Busy started queue → threads.phase queue = .finished) ∧
      (joinedResult threads = .ok () →
        (started.workers.map Worker.commandCount).sum = commandCount ∧
        ∀ queue worker, started.workers[queue]? = some worker →
          ∀ command, command < worker.commandCount →
            AnsweredOnce { traffic := traffic queue, session := started.session, worker := worker }
              (threads.locals queue).config.2 command) ∧
      ∀ error, joinedResult threads = .error error → ∃ queue, Busy started queue ∧
        ((threads.locals queue).pinned = some (.error error) ∨
          (threads.locals queue).config.1 = .done (.error error))) ∧
    (¬Threads.Joined (Busy started) threads →
      (∃ threads', Threads.Step (workerJobs traffic started) (Busy started) threads threads') ∨
        ∃ queue, threads.phase queue = .running ∧ (threads.locals queue).outcome = none) := by
  have hSound := Threads.Sound.reached hReach
  refine ⟨fun hJoined => ?_, fun hOpen => ?_⟩
  · obtain ⟨hFirst, hError⟩ := hSound.joined hJoined
    have hResult : joinedResult threads = .ok () ↔ threads.first = none := by
      unfold joinedResult
      cases threads.first <;> simp
    refine ⟨hResult.trans hFirst, fun hOk => ⟨hBuilt.commands hPositive, ?_⟩, ?_⟩
    · intro queue worker hWorker command hCommand
      let workload : Workload := {
        traffic := traffic queue
        session := started.session
        worker := worker }
      have hFinished := hFirst.mp (hResult.mp hOk) queue ⟨worker, hWorker, by omega⟩
      have hDone := outcome_ok (hSound.finished queue hFinished)
      have hRun := thread_reaches hReach hWorker
      rw [hDone] at hRun
      have hReturned : WorkerReaches workload.traffic workload.session workload.worker
          (.done (.ok ())) (threads.locals queue).config.2 := hRun
      exact answeredOnce_of_returned hReturned hCommand
    · intro error hResult
      unfold joinedResult at hResult
      cases hSome : threads.first with
      | none =>
          rw [hSome] at hResult
          cases hResult
      | some first =>
          rw [hSome] at hResult
          cases hResult
          obtain ⟨queue, hBusy, hOutcome⟩ := hError error hSome
          exact ⟨queue, hBusy, outcome_error hOutcome⟩
  · by_cases hJobs : ∀ queue, threads.phase queue = .running →
        (threads.locals queue).outcome ≠ none
    · exact Or.inl (hSound.moves hOpen hJobs)
    · simp only [not_forall, not_not] at hJobs
      obtain ⟨queue, hRunning, hNone⟩ := hJobs
      exact Or.inr ⟨queue, hRunning, hNone⟩

end Joined

section Pair

def queueWorker (queue : Nat) : Worker where
  qpIndex := queue
  commandCount := 1
  slots := [queue]

/-- Two queue pairs with one slot and one command each. -/
def twoQueues : Started where
  session := {
    storageSize := 64
    slots := (List.range 2).map fun slot => {
      command := { address := 8192 + 64 * UInt64.ofNat slot, length := 64, remoteKey := 5 }
      completion := { address := 12288 + 32 * UInt64.ofNat slot, length := 32, remoteKey := 5 }
      qpIndex := UInt32.ofNat slot
      reserved := 0 } }
  workers := [queueWorker 0, queueWorker 1]

/-- What a worker does with a read that names the first slot. -/
def queueRun (queue : Nat) : Config :=
  runFor singleRead.traffic twoQueues.session (queueWorker queue) 1 14

/-- Both queues are run by the worker's own steps. -/
theorem queueRun_reaches (queue : Nat) :
    (fabricWorld singleRead.traffic twoQueues.session).Reaches
      ((runWorker twoQueues.session (queueWorker queue)).run, Fabric.initial) (queueRun queue) :=
  execute_reaches 1 14 _

def wrongSlot : Error := protocolError "storage read arrived in the wrong slot"

/-- One worker returns, the other meets a wrong slot. -/
theorem queueRun_outcomes : (queueRun 0).outcome? = some (.ok ()) ∧
    (queueRun 1).outcome? = some (.error wrongSlot) := by
  decide +kernel

theorem pinned_run {traffic : Traffic} {session : Session} {config config' : Config}
    (h : (fabricWorld traffic session).Reaches config config') :
    Relation.ReflTransGen (WorkerThread.Move traffic session)
      { pinned := some (.ok ()), config := config }
      { pinned := some (.ok ()), config := config' } := by
  induction h with
  | refl => exact .refl
  | tail _ hStep ih => exact ih.tail (.work hStep)

/-- Both threads work. The second fails, and the first ends well while the
second holds the lock. The session ends with the error of the second. -/
theorem session_result_twoQueues : ∃ threads,
    ThreadsReach (fun _ => singleRead.traffic) twoQueues threads ∧
      Threads.Joined (Busy twoQueues) threads ∧ threads.phase 0 = .finished ∧
      joinedResult threads = .error wrongSlot ∧
      (¬∀ queue, Busy twoQueues queue → threads.phase queue = .finished) ∧
      ∃ queue, Busy twoQueues queue ∧ ((threads.locals queue).pinned = some (.error wrongSlot) ∨
        (threads.locals queue).config.1 = .done (.error wrongSlot)) := by
  let jobs := workerJobs (fun _ => singleRead.traffic) twoQueues
  let pinned := fun queue => ({ pinned := some (.ok ()), config := queueRun queue } : WorkerThread)
  have hOutcomes : (pinned 0).outcome = some (.ok ()) ∧
      (pinned 1).outcome = some (.error wrongSlot) := by
    simp only [WorkerThread.outcome, pinned, Config.outcome?_eq queueRun_outcomes.1,
      Config.outcome?_eq queueRun_outcomes.2, and_self]
  have hWorker : ∀ queue, queue < 2 → twoQueues.workers[queue]? = some (queueWorker queue) := by
    decide
  have hBusy : ∀ queue, queue < 2 → Busy twoQueues queue :=
    fun queue hQueue => ⟨_, hWorker queue hQueue, Nat.one_ne_zero⟩
  have hOnly : ∀ queue, Busy twoQueues queue → queue < 2 := by
    rintro queue ⟨worker, hHere, -⟩
    exact (List.getElem?_eq_some_iff.mp hHere).1
  have hWork : ∀ queue, queue < 2 → Relation.ReflTransGen (jobs.move queue)
      (newThread twoQueues queue) (pinned queue) := by
    intro queue hQueue
    have hPinned := pinned_run (queueRun_reaches queue)
    rw [newThread, hWorker queue hQueue]
    exact Relation.ReflTransGen.head (.pin (.ok ())) hPinned
  let entered := ((Threads.begin (newThread twoQueues)).setPhase 0
    (.running : ThreadPhase Error)).setPhase 1 .running
  let worked := (entered.setLocal 0 (pinned 0)).setLocal 1 (pinned 1)
  let locked := { (worked.setPhase 1 (.reporting wrongSlot)).setPhase 1 (.recording wrongSlot) with
    holder := some 1 }
  let recorded := { (locked.setPhase 0 .finished).setPhase 1 (.raising wrongSlot) with
    first := some wrongSlot }
  let joined := { ({ recorded.setPhase 1 (.releasing wrongSlot) with flag := true } :
      Threads WorkerThread Error).setPhase 1 (.reported wrongSlot) with holder := none }
  have hEntered : ThreadsReach (fun _ => singleRead.traffic) twoQueues entered :=
    (Relation.ReflTransGen.single (.enter (hBusy 0 (by decide)) rfl rfl)).tail
      (.enter (hBusy 1 (by decide)) rfl rfl)
  have hFirst : Relation.ReflTransGen (Threads.Step jobs (Busy twoQueues)) entered
      (entered.setLocal 0 (pinned 0)) :=
    Threads.work_run rfl (hWork 0 (by decide))
  have hSecond : Relation.ReflTransGen (Threads.Step jobs (Busy twoQueues))
      (entered.setLocal 0 (pinned 0)) worked :=
    Threads.work_run rfl (hWork 1 (by decide))
  have hLocked : Relation.ReflTransGen (Threads.Step jobs (Busy twoQueues)) worked locked :=
    (Relation.ReflTransGen.single (.fail rfl hOutcomes.2)).tail (.acquire rfl rfl)
  have hRecorded : Relation.ReflTransGen (Threads.Step jobs (Busy twoQueues)) locked recorded :=
    (Relation.ReflTransGen.single (.finish rfl hOutcomes.1)).tail (.record rfl)
  have hJoined : Relation.ReflTransGen (Threads.Step jobs (Busy twoQueues)) recorded joined :=
    (Relation.ReflTransGen.single (.raise rfl)).tail (.release rfl)
  have hReach : ThreadsReach (fun _ => singleRead.traffic) twoQueues joined :=
    ((((hEntered.trans hFirst).trans hSecond).trans hLocked).trans hRecorded).trans hJoined
  have hAll : Threads.Joined (Busy twoQueues) joined := by
    intro queue hQueue
    match queue, hOnly queue hQueue with
    | 0, _ => exact trivial
    | 1, _ => exact trivial
  have hBuilt : Built twoQueues.session.slots 2 2 twoQueues := rfl
  have hError : joinedResult joined = .error wrongSlot := rfl
  obtain ⟨hFinished, -, hCause⟩ := (session_result hBuilt (by decide) hReach).1 hAll
  exact ⟨joined, hReach, hAll, rfl, hError,
    fun hBoth => (nomatch hError.symm.trans (hFinished.mpr hBoth)), hCause wrongSlot hError⟩

end Pair

end NdsStorage.Server
