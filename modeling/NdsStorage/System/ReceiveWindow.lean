import NdsStorage.Server.Setup
import NdsStorage.System.SharedNamespace
import Mathlib.Data.List.Perm.Subperm

/-! Sends against the receives that the server has posted. The client sends the
bootstrap record once its transport is open, commands once it has seen the
namespace record, and uses a slot again once it has seen the completion. The
server publishes, answers and completes before it posts the receive that the
client's next send needs, so a send may find none. -/
namespace NdsStorage.System

open Bytes Interaction Server Client

/-- A completion has been written for the command. -/
def answers (fabric : Fabric) (turn : Nat) : Bool :=
  (fabric.history turn).any fun event =>
    match event with
    | .completionPosted .. => true
    | _ => false

/-- The test for an answer decides it. -/
theorem answers_iff (fabric : Fabric) (turn : Nat) :
    answers fabric turn = true ↔ fabric.Answered turn := by
  rw [answers, List.any_eq_true]
  constructor
  · rintro ⟨event, hEvent, hPosted⟩
    split at hPosted
    · exact ⟨_, _, _, _, hEvent⟩
    · cases hPosted
  · rintro ⟨address, key, length, bytes, hEvent⟩
    exact ⟨_, hEvent, rfl⟩

/-- How many of the first commands have been answered. -/
def answeredCount (fabric : Fabric) (count : Nat) : Nat :=
  (List.range count).countP (answers fabric)

/-- The worker has posted its first window, and then a receive again for each
command that it has answered, as long as it expects more commands. -/
def caughtUp (worker : Worker) (fabric : Fabric) : Prop :=
  activeSlots worker ≤ fabric.receives.length ∧
    (worker.commandCount ≤ fabric.receives.length ∨
      answeredCount fabric worker.commandCount + activeSlots worker ≤ fabric.receives.length)

/-- Threads of the server, what the client has done, and whether some message
found no receive. For each queue the client knows which commands it has sent
and which of them still occupy a slot. -/
structure ReceiveSession where
  main : Program SetupCall SetupCall.Answer (Except Error Started)
  control : Control
  opened : Bool
  greeted : Bool
  observedNamespace : Bool
  started : Option Started
  configs : Nat → Config
  sent : Nat → Nat
  live : Nat → List Nat
  missed : Bool

/-- A message that reaches the server. -/
inductive Arrival where
  | bootstrap
  | command (queue : Nat)
deriving DecidableEq, Repr

namespace ReceiveSession

def fabric (state : ReceiveSession) (queue : Nat) : Fabric := (state.configs queue).2

def place (state : ReceiveSession) (queue : Nat) (config : Config) : ReceiveSession :=
  { state with configs := Function.update state.configs queue config }

/-- The bootstrap record lands in the posted buffer, or finds none. -/
def takeBootstrap (hello : Buffer) (state : ReceiveSession) : ReceiveSession :=
  if state.control.arrived < state.control.posted then
    { state with
      control.arrived := state.control.arrived + 1
      control.bytes := hello }
  else { state with missed := true }

/-- A command lands in the oldest free receive of its queue, or finds none. -/
def takeCommand (traffic : Traffic) (queue : Nat) (state : ReceiveSession) : ReceiveSession :=
  let fabric := state.fabric queue
  if fabric.arrived < fabric.receives.length then
    state.place queue ((state.configs queue).1, fabric.arrive traffic)
  else { state with missed := true }

/-- Workers with commands run in threads of their own. -/
def launch (started : Started) (queue : Nat) (config : Config) : Config :=
  match started.workers[queue]? with
  | some worker =>
      if worker.commandCount = 0 then config
      else ((runWorker started.session worker).run, config.2)
  | none => config

section Runs

variable (qpCount commandCount : Nat) (capacity : UInt64) (table : List StorageSlot)
  (hello : Buffer) (traffic : Nat → Traffic)

def initial : ReceiveSession where
  main := (runSession qpCount capacity commandCount).run
  control := .initial
  opened := false
  greeted := false
  observedNamespace := false
  started := none
  configs := fun _ => (.done (.ok ()), Fabric.initial)
  sent := fun _ => 0
  live := fun _ => []
  missed := false

/-- Moves of the server's threads, of the client, and of messages under way.
`permitted` restricts when messages arrive. -/
inductive Step (permitted : ReceiveSession → Arrival → Prop) :
    ReceiveSession → ReceiveSession → Prop
  | main {state : ReceiveSession} {request : SetupCall}
      {next : request.Answer → Program SetupCall SetupCall.Answer (Except Error Started)}
      {answer : request.Answer} {control : Control}
      (hMain : state.main = .call request next)
      (hReply : state.control.reply table request answer control) :
      Step permitted state { state with
        main := next answer
        control := control }
  | start {state : ReceiveSession} {started : Started}
      (hMain : state.main = .done (.ok started)) (hOnce : state.started = none) :
      Step permitted state { state with
        started := some started
        configs := fun queue => launch started queue (state.configs queue) }
  | serve {state : ReceiveSession} {queue : Nat} {started : Started} {call : Call}
      {next : call.Answer → Program Call Call.Answer (Except Error Unit)}
      {answer : call.Answer} {fabric : Fabric} (hStarted : state.started = some started)
      (hConfig : (state.configs queue).1 = .call call next)
      (hReply : Reply (traffic queue) started.session (state.fabric queue) call answer fabric) :
      Step permitted state (state.place queue (next answer, fabric))
  | openTransport {state : ReceiveSession} (hPublished : state.control.published = true) :
      Step permitted state { state with opened := true }
  | sendBootstrap {state : ReceiveSession} (hOpened : state.opened = true) :
      Step permitted state { state with greeted := true }
  | observeNamespace {state : ReceiveSession} (hAnswered : state.control.answered = true) :
      Step permitted state { state with observedNamespace := true }
  | sendCommand {state : ReceiveSession} {queue : Nat} (hQueue : queue < qpCount)
      (hObserved : state.observedNamespace = true)
      (hSlot : (state.live queue).length < kStorageSlotsPerQp)
      (hCovered : state.sent queue < commandShare commandCount qpCount queue) :
      Step permitted state { state with
        sent := Function.update state.sent queue (state.sent queue + 1)
        live := Function.update state.live queue (state.live queue ++ [state.sent queue]) }
  | observeCompletion {state : ReceiveSession} {queue turn : Nat}
      (hLive : turn ∈ state.live queue) (hAnswered : (state.fabric queue).Answered turn) :
      Step permitted state { state with
        live := Function.update state.live queue ((state.live queue).erase turn) }
  | arriveBootstrap {state : ReceiveSession} (hGreeted : state.greeted = true)
      (hOnce : state.control.arrived = 0) (hPermitted : permitted state .bootstrap) :
      Step permitted state (state.takeBootstrap hello)
  | arriveCommand {state : ReceiveSession} {queue : Nat}
      (hSent : (state.fabric queue).arrived < state.sent queue)
      (hPermitted : permitted state (.command queue)) :
      Step permitted state (state.takeCommand (traffic queue) queue)

/-- Every state that some interleaving reaches. -/
def Reached (permitted : ReceiveSession → Arrival → Prop) (state : ReceiveSession) : Prop :=
  Relation.ReflTransGen (Step qpCount commandCount table hello traffic permitted)
    (initial qpCount commandCount capacity) state

end Runs

/-- Messages arrive at any time. -/
def anytime (_ : ReceiveSession) (_ : Arrival) : Prop := True

/-- No message overtakes the thread that posts the receives of its queue pair. -/
def afterPosting (state : ReceiveSession) : Arrival → Prop
  | .bootstrap => 0 < state.control.posted
  | .command queue => ∃ started worker, state.started = some started ∧
      started.workers[queue]? = some worker ∧ caughtUp worker (state.fabric queue)

instance (worker : Worker) (fabric : Fabric) : Decidable (caughtUp worker fabric) :=
  inferInstanceAs (Decidable (_ ∧ (_ ∨ _)))

instance (state : ReceiveSession) (arrival : Arrival) : Decidable (anytime state arrival) :=
  inferInstanceAs (Decidable True)

theorem afterPosting_command (state : ReceiveSession) (queue : Nat) :
    (∃ worker ∈ state.started.bind fun started => started.workers[queue]?,
      caughtUp worker (state.fabric queue)) ↔ afterPosting state (.command queue) := by
  simp only [afterPosting, Option.mem_def, Option.bind_eq_some_iff]
  constructor
  · rintro ⟨worker, ⟨started, hStarted, hWorker⟩, hCaught⟩
    exact ⟨started, worker, hStarted, hWorker, hCaught⟩
  · rintro ⟨started, worker, hStarted, hWorker, hCaught⟩
    exact ⟨worker, ⟨started, hStarted, hWorker⟩, hCaught⟩

instance (state : ReceiveSession) : (arrival : Arrival) → Decidable (afterPosting state arrival)
  | .bootstrap => inferInstanceAs (Decidable (0 < _))
  | .command queue => decidable_of_iff _ (afterPosting_command state queue)

section Schedules

/-- The choices of a scheduler. -/
inductive Move where
  | main
  | start
  | serve (queue : Nat)
  | openTransport
  | sendBootstrap
  | observeNamespace
  | sendCommand (queue : Nat)
  | observeCompletion (queue turn : Nat)
  | arriveBootstrap
  | arriveCommand (queue : Nat)
deriving DecidableEq, Repr

variable (qpCount commandCount : Nat) (capacity : UInt64) (table : List StorageSlot)
  (hello : Buffer) (traffic : Nat → Traffic) (permitted : ReceiveSession → Arrival → Prop)
  [∀ state arrival, Decidable (permitted state arrival)]

/-- The chosen move, with successful answers to the server's calls. A move that
is not possible changes nothing. -/
def perform (state : ReceiveSession) : Move → ReceiveSession
  | .main =>
      match state.main with
      | .done _ => state
      | .call request next =>
          match state.control.respond table qpCount request with
          | some (answer, control) =>
              { state with
                main := next answer
                control := control }
          | none => state
  | .start =>
      match state.main, state.started with
      | .done (.ok started), none =>
          { state with
            started := some started
            configs := fun queue => launch started queue (state.configs queue) }
      | _, _ => state
  | .serve queue =>
      match state.started, state.configs queue with
      | some started, (.call call next, fabric) =>
          match respond (traffic queue) started.session fabric call with
          | some (answer, fabric') => state.place queue (next answer, fabric')
          | none => state
      | _, _ => state
  | .openTransport =>
      if state.control.published then { state with opened := true } else state
  | .sendBootstrap => if state.opened then { state with greeted := true } else state
  | .observeNamespace =>
      if state.control.answered then { state with observedNamespace := true } else state
  | .sendCommand queue =>
      if queue < qpCount ∧ state.observedNamespace ∧
          (state.live queue).length < kStorageSlotsPerQp ∧
          state.sent queue < commandShare commandCount qpCount queue then
        { state with
          sent := Function.update state.sent queue (state.sent queue + 1)
          live := Function.update state.live queue (state.live queue ++ [state.sent queue]) }
      else state
  | .observeCompletion queue turn =>
      if turn ∈ state.live queue ∧ answers (state.fabric queue) turn then
        { state with live := Function.update state.live queue ((state.live queue).erase turn) }
      else state
  | .arriveBootstrap =>
      if state.greeted ∧ state.control.arrived = 0 ∧ permitted state .bootstrap then
        state.takeBootstrap hello
      else state
  | .arriveCommand queue =>
      if (state.fabric queue).arrived < state.sent queue ∧ permitted state (.command queue) then
        state.takeCommand (traffic queue) queue
      else state

/-- The chosen moves, one after the other. -/
def play (moves : List Move) : ReceiveSession :=
  moves.foldl (perform qpCount commandCount table hello traffic permitted)
    (initial qpCount commandCount capacity)

variable {qpCount commandCount capacity table hello traffic permitted}

/-- A computed move is a run. -/
theorem perform_reaches (state : ReceiveSession) (move : Move) :
    Relation.ReflTransGen (Step qpCount commandCount table hello traffic permitted) state
      (perform qpCount commandCount table hello traffic permitted state move) := by
  cases move with
  | main =>
      simp only [perform]
      split
      · exact .refl
      · rename_i request next hMain
        split
        · rename_i answer control hAnswer
          exact .single (.main hMain (Control.respond_reply hAnswer))
        · exact .refl
  | start =>
      simp only [perform]
      split
      · rename_i started hMain hOnce
        exact .single (.start hMain hOnce)
      · exact .refl
  | serve queue =>
      simp only [perform]
      split
      · rename_i started call next fabric hStarted hConfig
        split
        · rename_i answer fabric' hAnswer
          have hFabric : state.fabric queue = fabric := congrArg Prod.snd hConfig
          exact .single (.serve hStarted (congrArg Prod.fst hConfig)
            (hFabric ▸ respond_reply hAnswer))
        · exact .refl
      · exact .refl
  | openTransport =>
      simp only [perform]
      split
      · rename_i hPublished
        exact .single (.openTransport hPublished)
      · exact .refl
  | sendBootstrap =>
      simp only [perform]
      split
      · rename_i hOpened
        exact .single (.sendBootstrap hOpened)
      · exact .refl
  | observeNamespace =>
      simp only [perform]
      split
      · rename_i hAnswered
        exact .single (.observeNamespace hAnswered)
      · exact .refl
  | sendCommand queue =>
      simp only [perform]
      split
      · rename_i hReady
        exact .single (.sendCommand hReady.1 hReady.2.1 hReady.2.2.1 hReady.2.2.2)
      · exact .refl
  | observeCompletion queue turn =>
      simp only [perform]
      split
      · rename_i hReady
        exact .single (.observeCompletion hReady.1 ((answers_iff _ _).mp hReady.2))
      · exact .refl
  | arriveBootstrap =>
      simp only [perform]
      split
      · rename_i hReady
        exact .single (.arriveBootstrap hReady.1 hReady.2.1 hReady.2.2)
      · exact .refl
  | arriveCommand queue =>
      simp only [perform]
      split
      · rename_i hReady
        exact .single (.arriveCommand hReady.1 hReady.2)
      · exact .refl

/-- Whatever the scheduler chooses is a run. -/
theorem play_reached (moves : List Move) :
    Reached qpCount commandCount capacity table hello traffic permitted
      (play qpCount commandCount capacity table hello traffic permitted moves) := by
  have hAny : ∀ state,
      Relation.ReflTransGen (Step qpCount commandCount table hello traffic permitted) state
        (moves.foldl (perform qpCount commandCount table hello traffic permitted) state) := by
    induction moves with
    | nil => exact fun _ => .refl
    | cons move moves ih => exact fun state => (perform_reaches state move).trans (ih _)
  exact hAny _

end Schedules

section Accounts

variable {qpCount commandCount : Nat} {capacity : UInt64} {table : List StorageSlot}
  {hello : Buffer} {traffic : Nat → Traffic} {state state' : ReceiveSession}

/-- The client's slots against the server's answers. -/
structure Accounted (qpCount commandCount : Nat) (table : List StorageSlot)
    (state : ReceiveSession) : Prop where
  kept : state.missed = false
  main_safe : ∀ control, Safe (setupWorld table) (fun _ _ => True)
    (Safe.outcome (fun _ _ => True) fun started _ => Built table qpCount commandCount started)
    state.main control
  started_built : ∀ started, state.started = some started →
    Built table qpCount commandCount started
  sent_le : ∀ queue, state.sent queue ≤ commandShare commandCount qpCount queue
  live_le : ∀ queue, (state.live queue).length ≤ kStorageSlotsPerQp
  occupied : ∀ queue turn, turn < state.sent queue →
    turn ∈ state.live queue ∨ (state.fabric queue).Answered turn

namespace Accounted

theorem initial : Accounted qpCount commandCount table (initial qpCount commandCount capacity) where
  kept := rfl
  main_safe := runSession_yields capacity
  started_built := fun _ hNone => nomatch hNone
  sent_le := fun _ => Nat.zero_le _
  live_le := fun _ => Nat.zero_le _
  occupied := fun _ _ hNone => absurd hNone (Nat.not_lt_zero _)

/-- A change that keeps all answers keeps the account. -/
theorem keep (h : Accounted qpCount commandCount table state) (hMissed : state'.missed = false)
    (hMain : state'.main = state.main) (hStarted : state'.started = state.started)
    (hSent : state'.sent = state.sent) (hLive : state'.live = state.live)
    (hHistory : ∀ queue turn,
      (state.fabric queue).history turn ⊆ (state'.fabric queue).history turn) :
    Accounted qpCount commandCount table state' where
  kept := hMissed
  main_safe := hMain ▸ h.main_safe
  started_built := hStarted ▸ h.started_built
  sent_le := hSent ▸ h.sent_le
  live_le := hLive ▸ h.live_le
  occupied := by
    intro queue turn hTurn
    rw [hSent] at hTurn
    rw [hLive]
    rcases h.occupied queue turn hTurn with hSlot | ⟨address, key, length, bytes, hPosted⟩
    · exact .inl hSlot
    · exact .inr ⟨address, key, length, bytes, hHistory queue turn hPosted⟩

/-- What the client has sent is answered or occupies one of the slots. -/
theorem sent_le_answered (h : Accounted qpCount commandCount table state) (queue : Nat) :
    state.sent queue ≤ answeredCount (state.fabric queue) (commandShare commandCount qpCount queue) +
      kStorageSlotsPerQp := by
  have hSplit : (List.range (state.sent queue)).length = _ :=
    List.length_eq_countP_add_countP (answers (state.fabric queue))
  have hOpen : (List.range (state.sent queue)).countP
      (fun turn => decide ¬answers (state.fabric queue) turn = true) ≤
        (state.live queue).length := by
    rw [List.countP_eq_length_filter]
    apply List.Subperm.length_le
    apply List.subperm_of_subset ((List.nodup_range).filter _)
    intro turn hTurn
    obtain ⟨hSent, hOpen⟩ := List.mem_filter.mp hTurn
    rcases h.occupied queue turn (List.mem_range.mp hSent) with hSlot | hAnswered
    · exact hSlot
    · rw [(answers_iff _ _).mpr hAnswered] at hOpen
      simp at hOpen
  have hAnswered : (List.range (state.sent queue)).countP (answers (state.fabric queue)) ≤
      answeredCount (state.fabric queue) (commandShare commandCount qpCount queue) :=
    List.Sublist.countP_le (List.range_sublist.mpr (h.sent_le queue))
  have hLive := h.live_le queue
  rw [List.length_range] at hSplit
  omega

/-- Behind a worker that has caught up, a receive is left for every message. -/
theorem receive_free (h : Accounted qpCount commandCount table state)
    (hTable : ∀ queue, queue < qpCount → (slotsOf table queue).length = kStorageSlotsPerQp)
    {queue : Nat} (hSent : (state.fabric queue).arrived < state.sent queue)
    (hPosting : afterPosting state (.command queue)) :
    (state.fabric queue).arrived < (state.fabric queue).receives.length := by
  obtain ⟨started, worker, hStarted, hWorker, hWindow, hCaught⟩ := hPosting
  have hBuilt := h.started_built started hStarted
  obtain ⟨hCount, hSlots⟩ := hBuilt.worker hWorker
  have hShare := h.sent_le queue
  rw [← hCount] at hShare
  have hQueue : queue < qpCount := by
    have hInside := (List.getElem?_eq_some_iff.mp hWorker).1
    rwa [← (forall₂_of_mapM hBuilt).length_eq, List.length_range] at hInside
  rcases hCaught with hAll | hReposted
  · omega
  · have hAnswered := h.sent_le_answered queue
    rw [← hCount] at hAnswered
    have hActive : activeSlots worker = min worker.commandCount kStorageSlotsPerQp := by
      rw [activeSlots, hSlots (by omega), hTable queue hQueue]
    rw [hActive] at hWindow hReposted
    omega

/-- A command within its share keeps the account. -/
theorem send (h : Accounted qpCount commandCount table state) {queue : Nat}
    (hSlot : (state.live queue).length < kStorageSlotsPerQp)
    (hCovered : state.sent queue < commandShare commandCount qpCount queue) :
    Accounted qpCount commandCount table { state with
      sent := Function.update state.sent queue (state.sent queue + 1)
      live := Function.update state.live queue (state.live queue ++ [state.sent queue]) } := by
  refine { h with sent_le := ?_, live_le := ?_, occupied := ?_ }
  · intro other
    by_cases hSame : other = queue
    · subst hSame
      simpa [Nat.succ_le_iff] using hCovered
    · simpa [hSame] using h.sent_le other
  · intro other
    by_cases hSame : other = queue
    · subst hSame
      simpa [Nat.succ_le_iff] using hSlot
    · simpa [hSame] using h.live_le other
  · intro other turn hTurn
    by_cases hSame : other = queue
    · subst hSame
      simp only [Function.update_self] at hTurn ⊢
      rcases Nat.lt_succ_iff_lt_or_eq.mp hTurn with hEarlier | rfl
      · rcases h.occupied other turn hEarlier with hOld | hAnswered
        · exact .inl (List.mem_append_left _ hOld)
        · exact .inr hAnswered
      · exact .inl (List.mem_append_right _ (List.mem_singleton.mpr rfl))
    · simp only [Function.update_of_ne hSame] at hTurn ⊢
      exact h.occupied other turn hTurn

theorem observe (h : Accounted qpCount commandCount table state) {queue turn : Nat}
    (hAnswered : (state.fabric queue).Answered turn) :
    Accounted qpCount commandCount table { state with
      live := Function.update state.live queue ((state.live queue).erase turn) } := by
  refine { h with live_le := ?_, occupied := ?_ }
  · intro other
    by_cases hSame : other = queue
    · subst hSame
      simp only [Function.update_self]
      exact Nat.le_trans List.length_erase_le (h.live_le other)
    · simpa [hSame] using h.live_le other
  · intro other later hTurn
    by_cases hSame : other = queue
    · subst hSame
      simp only [Function.update_self]
      by_cases hThis : later = turn
      · exact .inr (hThis ▸ hAnswered)
      · rcases h.occupied other later hTurn with hOld | hDone
        · exact .inl ((List.mem_erase_of_ne hThis).mpr hOld)
        · exact .inr hDone
    · simp only [Function.update_of_ne hSame]
      exact h.occupied other later hTurn

/-- Every step keeps the account. -/
theorem step (hTable : ∀ queue, queue < qpCount →
      (slotsOf table queue).length = kStorageSlotsPerQp)
    (h : Accounted qpCount commandCount table state)
    (hStep : Step qpCount commandCount table hello traffic afterPosting state state') :
    Accounted qpCount commandCount table state' := by
  cases hStep with
  | @main request next answer control hMain hReply =>
      have hSafe := h.main_safe state.control
      rw [hMain] at hSafe
      have hNext := (hSafe state.control .refl).2 answer control hReply
      exact { h with main_safe := fun later => safe_anywhere later hNext }
  | @start started hMain hOnce =>
      have hSafe := h.main_safe state.control
      rw [hMain] at hSafe
      have hFabric : ∀ queue, (launch started queue (state.configs queue)).2 = state.fabric queue := by
        intro queue
        unfold launch
        split
        · split
          · rfl
          · rfl
        · rfl
      exact { h with
        started_built := by
          intro other hOther
          cases hOther
          exact hSafe
        occupied := by
          intro queue turn hTurn
          rcases h.occupied queue turn hTurn with hSlot | hAnswered
          · exact .inl hSlot
          · refine .inr ?_
            rw [fabric, hFabric]
            exact hAnswered }
  | @serve queue started call next answer fabric hStarted hConfig hReply =>
      have hProgress : Progress 0 _ _ := reply_progress hReply
      refine h.keep h.kept rfl rfl rfl rfl fun other turn => ?_
      by_cases hSame : other = queue
      · subst hSame
        simp only [ReceiveSession.fabric, place, Function.update_self]
        exact hProgress.history_subset turn
      · simp only [ReceiveSession.fabric, place, Function.update_of_ne hSame]
        exact List.Subset.refl _
  | openTransport hPublished => exact h.keep h.kept rfl rfl rfl rfl fun _ _ => List.Subset.refl _
  | sendBootstrap hOpened => exact h.keep h.kept rfl rfl rfl rfl fun _ _ => List.Subset.refl _
  | observeNamespace hAnswered => exact h.keep h.kept rfl rfl rfl rfl fun _ _ => List.Subset.refl _
  | @sendCommand queue hQueue hObserved hSlot hCovered => exact h.send hSlot hCovered
  | @observeCompletion queue turn hLive hAnswered => exact h.observe hAnswered
  | arriveBootstrap hGreeted hOnce hPermitted =>
      have hPosted : 0 < state.control.posted := hPermitted
      rw [takeBootstrap, if_pos (hOnce ▸ hPosted)]
      exact h.keep h.kept rfl rfl rfl rfl fun _ _ => List.Subset.refl _
  | @arriveCommand queue hSent hPermitted =>
      rw [takeCommand, if_pos (h.receive_free hTable hSent hPermitted)]
      refine h.keep h.kept rfl rfl rfl rfl fun other turn => ?_
      by_cases hSame : other = queue
      · subst hSame
        simp only [fabric, place, Function.update_self]
        exact List.Subset.refl _
      · simp only [fabric, place, Function.update_of_ne hSame]
        exact List.Subset.refl _

end Accounted

/-- As long as no message overtakes the thread that posts its receive, every
message finds one. -/
theorem sends_find_receive
    (hTable : ∀ queue, queue < qpCount → (slotsOf table queue).length = kStorageSlotsPerQp)
    (hRun : Reached qpCount commandCount capacity table hello traffic afterPosting state) :
    state.missed = false := by
  have hAccounted : Accounted qpCount commandCount table state := by
    induction hRun with
    | refl => exact .initial
    | tail _ hStep ih => exact ih.step hTable hStep
  exact hAccounted.kept

end Accounts

section Sixteen

/-- One queue pair with its sixteen slots. -/
def soleTable : List StorageSlot :=
  List.replicate kStorageSlotsPerQp {
    command := { address := 8192, length := 64, remoteKey := 5 }
    completion := { address := 12288, length := 32, remoteKey := 5 }
    qpIndex := 0
    reserved := 0 }

def soleHello : Buffer :=
  (serializeStorageBootstrap {
    completion := { address := 12288, length := 512, remoteKey := 5 }
    namespaceResponse := { address := 16384, length := 64, remoteKey := 5 }
    slots := { address := 20480, length := 4096, remoteKey := 5 }
    slotCount := 16 } (List.replicate kStorageBootstrapBytes 0)).2

/-- A peer that goes through the slots and reads the first byte each time. -/
def soleTraffic (_ : Nat) : Traffic where
  message := fun turn => commandLayout .read {
      commandId := UInt64.ofNat (turn + 1)
      offset := 0
      length := 1
      data := { address := 4096, length := 1, remoteKey := 5 }
      slotIndex := UInt32.ofNat (turn % kStorageSlotsPerQp) }
    kRemoteWrite (List.replicate kStorageCommandBytes 0)
  descriptors := fun _ => []
  message_length := fun _ => by simp

/-- A session of seventeen commands, one more than there are slots. -/
def soleRun (permitted : ReceiveSession → Arrival → Prop)
    [∀ state arrival, Decidable (permitted state arrival)] (moves : List Move) : ReceiveSession :=
  play 1 17 64 soleTable soleHello soleTraffic permitted moves

/-- Up to the first sixteen commands of the client, the server behind in time. -/
def soleOpening : List Move :=
  List.replicate 4 .main ++ [.openTransport, .sendBootstrap, .arriveBootstrap] ++
    List.replicate 4 .main ++ .observeNamespace :: List.replicate 16 (.sendCommand 0)

/-- The worker posts its window before the commands arrive. -/
def soleWindow : List Move :=
  soleOpening ++ List.replicate 6 .main ++ .start :: List.replicate 16 (.serve 0) ++
    List.replicate 16 (.arriveCommand 0)

/-- One run with the bootstrap record and a whole window of commands. -/
theorem sends_find_receive_window :
    (soleRun afterPosting soleWindow).control.arrived = 1 ∧
      ((soleRun afterPosting soleWindow).fabric 0).arrived = 16 ∧
      (soleRun afterPosting soleWindow).missed = false := by
  have hTable : ∀ queue, queue < 1 → (slotsOf soleTable queue).length = kStorageSlotsPerQp := by
    intro queue hQueue
    obtain rfl : queue = 0 := Nat.lt_one_iff.mp hQueue
    decide
  refine ⟨by decide +kernel, by decide +kernel, ?_⟩
  exact sends_find_receive hTable (play_reached soleWindow)

/-- A bootstrap record right after the identities are published, a command right
after the namespace record, and a command into the slot of the first completion
find no receive. -/
theorem sends_overtake_receives :
    (∃ state, Reached 1 17 64 soleTable soleHello soleTraffic anytime state ∧
      state.missed = true ∧ state.control.posted = 0) ∧
    (∃ state, Reached 1 17 64 soleTable soleHello soleTraffic anytime state ∧
      state.missed = true ∧ state.control.arrived = 1 ∧ (state.fabric 0).receives = []) ∧
    (∃ state, Reached 1 17 64 soleTable soleHello soleTraffic anytime state ∧
      state.missed = true ∧ (state.fabric 0).arrived = 16 ∧ state.sent 0 = 17) := by
  refine ⟨⟨_, play_reached [.main, .openTransport, .sendBootstrap, .arriveBootstrap], ?_⟩,
    ⟨_, play_reached (soleOpening ++ [.arriveCommand 0]), ?_⟩,
    ⟨_, play_reached (soleWindow ++ List.replicate 67 (.serve 0) ++
      [.observeCompletion 0 0, .sendCommand 0, .arriveCommand 0]), ?_⟩⟩
  · decide +kernel
  · decide +kernel
  · decide +kernel

end Sixteen

end ReceiveSession

end NdsStorage.System
