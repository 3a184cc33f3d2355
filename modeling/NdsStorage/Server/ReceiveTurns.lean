import NdsStorage.Interaction.Requests
import NdsStorage.Server.WorkerInvariant

/-! When a worker waits for a message. It does so only in the first phase of a
window, so all commands of earlier windows are completed by then and the
receives of the whole window are posted. -/
namespace NdsStorage.Server

open Bytes Interaction

variable {workload : Workload} {origin base width : Nat} {fabric : Fabric}

/-- A worker that waits for a message is inside a window whose receives are
posted, and has completed all commands before the window. -/
structure InWindow (workload : Workload) (base : Nat) (fabric : Fabric) : Prop where
  aligned : workload.active ∣ base
  begun : base ≤ fabric.received
  inside : fabric.received < base + workload.active
  expected : fabric.received < workload.commandCount
  posted : fabric.receives.length = base + workload.active
  done : ∀ command, command < base → fabric.history command = workload.completedEvents command
  accepted : ∀ command, command < base → ∃ parsed, workload.parsed command = .ok parsed

/-- What holds whenever the worker waits for a message. -/
def ReceiveTurn (workload : Workload) (fabric : Fabric) (call : Call) : Prop :=
  call = .waitReceive → ∃ base, InWindow workload base fabric

/-- A worker program under the requirement on its waits for messages. -/
abbrev TurnRun (workload : Workload) {Value : Type} (next : Value → Fabric → Prop)
    (program : WorkerProgram Value) (fabric : Fabric) : Prop :=
  Safe (fabricWorld workload.traffic workload.session) (ReceiveTurn workload)
    (Safe.outcome (Stops workload) next) program.run fabric

section Other

/-- Calls that do not wait for a message. -/
def Call.Other (call : Call) : Prop := call ≠ .waitReceive

/-- A part of a worker that never waits for a message. -/
abbrev NeverReceives {Value : Type} (program : WorkerProgram Value) : Prop :=
  Makes Call.Other program.run

variable {session : Session} {worker : Worker}

theorem lift_neverReceives {call : Call} (h : call.Other) :
    NeverReceives (ExceptT.lift (Program.ask call)) :=
  (Makes.ask h).bind fun _ => trivial

theorem postPayload_neverReceives (state : PendingCommand) :
    NeverReceives (postPayload state) := by
  apply Makes.seqFallible
  · unfold postPayloadBatch
    split
    · exact .ask nofun
    · exact .ask nofun
  · exact fun _ => trivial

theorem resolveBatch_neverReceives (state : PendingCommand) :
    NeverReceives (resolveBatch session state) := by
  unfold resolveBatch
  split
  · refine Makes.seqFallible (.ask nofun) fun _ => ?_
    refine Makes.seqFallible (lift_neverReceives nofun) fun entryBytes => ?_
    dsimp only
    split
    · exact postPayload_neverReceives _
    · exact trivial
  · exact trivial

theorem waitPayload_neverReceives (state : PendingCommand) : NeverReceives (waitPayload state) := by
  unfold waitPayload
  split
  · split
    · exact .ask nofun
    · exact .ask nofun
  · exact trivial

theorem postCompletion_neverReceives (state : PendingCommand) :
    NeverReceives (postCompletion session worker state) := by
  refine Makes.seqFallible (lift_neverReceives nofun) fun buffer => ?_
  dsimp only
  split
  · exact trivial
  · refine Makes.seqFallible (lift_neverReceives nofun) fun _ => ?_
    exact Makes.seqFallible (.ask nofun) fun _ => trivial

/-- Reposting posts receives but waits for none. -/
theorem repostReceives_neverReceives (index : Nat) (pending : List PendingCommand) :
    NeverReceives (repostReceives worker index pending) := by
  unfold repostReceives
  split
  · refine Makes.seqFallible (.collect _ fun _ => ?_) fun _ => trivial
    exact .ask nofun
  · exact trivial

/-- What follows the message of a command. -/
theorem receiveCommand_neverReceives (slot : Nat) {next : Call.Answer .waitReceive →
      Program Call Call.Answer (Except Error PendingCommand)}
    (h : (receiveCommand session worker slot).run = .call .waitReceive next)
    (answer : Call.Answer .waitReceive) : Makes Call.Other (next answer) := by
  cases h
  cases answer with
  | error error => exact trivial
  | ok _ =>
      refine Makes.seqFallible (lift_neverReceives nofun) fun bytes => ?_
      refine Makes.seqFallible trivial fun parsed => ?_
      obtain ⟨state, entries⟩ := parsed
      cases entries with
      | some entries => exact Makes.seqFallible (.ask nofun) fun _ => trivial
      | none =>
          dsimp only
          split
          · exact postPayload_neverReceives _
          · exact trivial

/-- A safe part that never waits for a message meets the requirement on the waits. -/
theorem turn_of_neverReceives {Value : Type} {next : Value → Fabric → Prop}
    {program : WorkerProgram Value} (h : SafeRun workload next program fabric)
    (hNever : NeverReceives program) : TurnRun workload next program fabric :=
  Safe.only h hNever fun _ _ hOther hReceive => absurd hReceive hOther

end Other

section Windows

/-- While a window is received, the next command is the one in turn. -/
theorem Receiving.turn (hWindow : Window workload base width)
    (hAccepted : ∀ command, command < base → ∃ parsed, workload.parsed command = .ok parsed)
    {pending : List PendingCommand} {slot : Nat}
    (hSlot : (List.range width)[pending.length]? = some slot)
    (h : Receiving workload origin base width pending fabric) :
    TurnRun workload (fun state => Receiving workload origin base width (pending ++ [state]))
      (receiveCommand workload.session workload.worker slot) fabric := by
  have hSafe := h.step hWindow hSlot
  obtain ⟨posts, hAt, -⟩ := h
  have hIndex : pending.length < width := by
    simpa using (List.getElem?_eq_some_iff.mp hSlot).1
  intro fabric' hDrifts
  have hHere := (At.stable workload _).drifts hDrifts hAt
  refine ⟨fun _ => ⟨base, hWindow.aligned, ?_, ?_, ?_, hHere.posted_eq, ?_, hAccepted⟩,
    fun answer fabric'' hReply => ?_⟩
  · rw [hHere.received_eq]
    exact Nat.le_add_right ..
  · rw [hHere.received_eq]
    exact Nat.add_lt_add_left (Nat.lt_of_lt_of_le hIndex hWindow.small) base
  · rw [hHere.received_eq]
    exact Nat.lt_of_lt_of_le (Nat.add_lt_add_left hIndex base) hWindow.inside
  · intro command hCommand
    rw [hHere.history_eq]
    exact if_pos hCommand
  · apply Safe.only ((hSafe fabric' hDrifts).2 answer fabric'' hReply)
      (receiveCommand_neverReceives slot rfl answer)
    exact fun _ _ hOther hReceive => absurd hReceive hOther

theorem turn_runWindow (hWindow : Window workload base width)
    (hAccepted : ∀ command, command < base → ∃ parsed, workload.parsed command = .ok parsed)
    {posts : Nat → Post} {sent : Nat}
    (h : At workload (restStage workload base (base + workload.active) sent posts) fabric) :
    TurnRun workload (fun pending fabric => pending.length = width ∧
        (∀ index state, pending[index]? = some state →
          state.slot = workload.slotOf (base + index)) ∧
        (∀ index, index < width → ∃ parsed, workload.parsed (base + index) = .ok parsed) ∧
        ∃ sent posts, At workload
          (restStage workload (base + width) (base + workload.active) sent posts) fabric)
      (runWindow workload.session workload.worker width) fabric := by
  have hReceiving : TurnRun workload _ (Fallible.collect
      (receiveCommand workload.session workload.worker) (List.range width)) fabric :=
    Safe.collect (Receiving workload sent base width) (List.range width)
      (fun pending slot fabric hSlot h => h.turn hWindow hAccepted hSlot)
      ⟨posts, profile_begin width workload.admittedEvents ▸ h, fun _ _ hState => nomatch hState⟩
  refine Safe.seqOnly (safe_runWindow hWindow h) (hReceiving.weaken fun _ _ _ => trivial)
    (fun pending => ?_) fun _ _ hOther hReceive => absurd hReceive hOther
  refine Makes.seqFallible (.collect _ resolveBatch_neverReceives) fun resolved => ?_
  refine Makes.seqFallible (.collect _ waitPayload_neverReceives) fun _ => ?_
  refine Makes.seqFallible (.collect _ postCompletion_neverReceives) fun answered => ?_
  refine Makes.seqFallible (.collect _ fun _ => ?_) fun _ => trivial
  exact .ask nofun

theorem turn_runWindows (hActive : 0 < workload.active) (hDepth : workload.active ≤ kQpDepth)
    (rounds count : Nat) (hAligned : count < workload.commandCount → workload.active ∣ count)
    {fabric : Fabric} (h : Resting workload count fabric) :
    TurnRun workload (fun _ _ => True) (runWindows workload.session workload.worker rounds count)
      fabric := by
  induction rounds generalizing count fabric with
  | zero => exact trivial
  | succ rounds ih =>
      rw [runWindows]
      by_cases hMore : count < workload.worker.commandCount
      · rw [if_pos hMore]
        obtain ⟨posted, sent, posts, hAt, hPosted⟩ := h.stage
        rw [hPosted hMore] at hAt
        have hWindow : Window workload count
            (min (activeSlots workload.worker) (workload.worker.commandCount - count)) :=
          ⟨hAligned hMore, hMore, rfl, hActive, hDepth⟩
        refine Safe.seqFallible _ (turn_runWindow hWindow h.accepted hAt)
          fun pending fabric hDone => ?_
        obtain ⟨hLength, hSlots, hAccepted, sent, posts, hAt⟩ := hDone
        have hRepost := turn_of_neverReceives (safe_repostReceives hWindow hLength hSlots
          (fun command hCommand => ?_) hAt) (repostReceives_neverReceives _ _)
        · refine Safe.seqFallible _ hRepost fun _ fabric h => ih _ (fun hAgain => ?_) h
          have hFull : min (activeSlots workload.worker) (workload.worker.commandCount - count) =
              workload.active := by
            change min workload.active (workload.commandCount - count) = workload.active
            change count + min workload.active (workload.commandCount - count) <
              workload.commandCount at hAgain
            omega
          rw [hFull]
          exact Nat.dvd_add (hAligned hMore) (Nat.dvd_refl _)
        · rcases Nat.lt_or_ge command count with hEarlier | hHere
          · exact h.accepted command hEarlier
          · obtain ⟨index, rfl⟩ := Nat.exists_eq_add_of_le hHere
            exact hAccepted index (by omega)
      · rw [if_neg hMore]
        exact trivial

/-- The receives of the first window. -/
theorem turn_firstReceives (workload : Workload) :
    TurnRun workload (fun _ fabric => Resting workload 0 fabric ∧ workload.active ≤ kQpDepth)
      (Fallible.collect postReceive (List.range (activeSlots workload.worker)))
      Fabric.initial := by
  have hPosts : SafeRun workload _ (Fallible.collect postReceive
      (List.range (activeSlots workload.worker))) Fabric.initial :=
    Safe.collect (fun posted fabric => At workload
        (restStage workload 0 posted.length 0 Fabric.initial.posts) fabric ∧
          posted.length ≤ kQpDepth) (List.range (activeSlots workload.worker))
      (fun posted slot fabric hSlot h => ?_) ⟨initial_at workload, Nat.zero_le _⟩
  · apply turn_of_neverReceives _ (.collect _ fun slot => .ask nofun)
    apply hPosts.weakenValue
    intro posted fabric hPosted
    obtain ⟨hLength, hAt, hDepth⟩ := hPosted
    rw [List.length_range] at hLength
    rw [hLength] at hAt hDepth
    exact ⟨⟨⟨_, _, _, hAt, fun _ => (Nat.zero_add _).symm⟩, fun _ h => absurd h (Nat.not_lt_zero _)⟩,
      hDepth⟩
  · have hIndex : posted.length < workload.active := by
      simpa [Workload.active] using (List.getElem?_eq_some_iff.mp hSlot).1
    rw [show activeSlots workload.worker = workload.active from rfl,
      List.getElem?_range hIndex] at hSlot
    cases hSlot
    refine safe_postReceive (restStage_sound (Nat.zero_le _)) (Nat.mod_eq_of_lt hIndex).symm
      (fun fabric h hRoom => ?_) h.1
    rw [List.length_append, List.length_singleton]
    exact ⟨h, hRoom⟩

/-- A worker waits for messages only inside windows. -/
theorem turn_runWorker (workload : Workload) :
    TurnRun workload (fun _ _ => True) (runWorker workload.session workload.worker)
      Fabric.initial := by
  unfold runWorker
  by_cases hSlots : workload.worker.slots = []
  · rw [if_pos (by simpa using hSlots)]
    exact ⟨(initial_at workload).invariant (restStage_sound (Nat.zero_le _)),
      .noSlots rfl hSlots rfl⟩
  rw [if_neg (by simpa using hSlots)]
  refine Safe.seqFallible _ (turn_firstReceives workload) fun _ fabric h => ?_
  rcases Nat.eq_zero_or_pos workload.commandCount with hNone | hSome
  · rw [show workload.worker.commandCount = 0 from hNone]
    exact trivial
  · have hActive : 0 < workload.active :=
      Nat.lt_min.mpr ⟨hSome, List.length_pos_iff.mpr hSlots⟩
    exact turn_runWindows hActive h.2 _ 0 (fun _ => Nat.dvd_zero _) h.1

/-- Whenever a worker waits for a message, it is inside a window. -/
theorem WorkerReaches.inWindow {next : Call.Answer .waitReceive →
      Program Call Call.Answer (Except Error Unit)}
    (h : WorkerReaches workload.traffic workload.session workload.worker
      (.call .waitReceive next) fabric) : ∃ base, InWindow workload base fabric := by
  have hTurn : Safe (fabricWorld workload.traffic workload.session) (ReceiveTurn workload)
      (fun _ _ => True) _ _ :=
    Safe.reaches (fun _ _ _ _ => id) h ((turn_runWorker workload).weaken fun _ _ _ => trivial)
  exact (hTurn fabric Relation.ReflTransGen.refl).1 rfl

end Windows

end NdsStorage.Server
