import NdsStorage.Server.WindowPhases

/-! Every run of a worker keeps the run invariant, and a worker that returns
without an error has served all its commands. -/
namespace NdsStorage.Server

open Bytes Interaction

variable {workload : Workload} {origin base width : Nat} {fabric : Fabric}

section Settling

variable (workload origin base width)

/-- The payloads of the first `count` commands of the window are retired. -/
def PayloadsRetired (floor count : Nat) : Prop :=
  ∀ index, index < count → (workload.resolved (base + index)).completion.status = .success →
    payloadEnd workload origin base width index ≤ floor

/-- The third phase after some payloads of the window have been waited for. -/
structure SettlingAt (resolved : List PendingCommand) (count floor : Nat) (posts : Nat → Post)
    (fabric : Fabric) : Prop where
  stage : At workload (windowStage workload base (base + width)
    (resolveSent workload origin base width width) floor posts
    (profile workload base width workload.settledEvents workload.resolvedEvents count)) fabric
  floor_le : origin ≤ floor
  fetches : FetchesRetired workload origin base floor width
  payloads : PayloadsRetired workload origin base width floor count
  resolved : ∀ index state, resolved[index]? = some state →
    ResolvedAs workload posts (base + index) (payloadEnd workload origin base width index) state

variable {workload origin base width}

/-- Waiting for one payload of the window. -/
theorem SettlingAt.step (hWindow : Window workload base width) {resolved : List PendingCommand}
    {count floor : Nat} {posts : Nat → Post} {state : PendingCommand} (hCount : count < width)
    (hState : resolved[count]? = some state)
    (h : SettlingAt workload origin base width resolved count floor posts fabric) :
    SafeRun workload (fun _ fabric => ∃ floor posts,
      SettlingAt workload origin base width resolved (count + 1) floor posts fabric)
      (waitPayload state) fabric := by
  have hSound := phase_sound hWindow (fun _ => isPrefix_completed.2.2.2.1)
    (fun _ => isPrefix_completed.2.2.1) (resolveSent workload origin base width width) floor posts
    (Nat.le_of_lt hCount)
  refine safe_waitPayload hSound (h.resolved count state hState) (profile_here hCount) ?_ ?_
    h.stage
  · intro fabric hStatus hAt
    refine ⟨floor, posts, ?_, h.floor_le, h.fetches, ?_, h.resolved⟩
    · rw [windowStage_advance]
      exact hAt
    · intro index hIndex hSuccess
      rcases Nat.lt_succ_iff_lt_or_eq.mp hIndex with hEarlier | rfl
      · exact h.payloads index hEarlier hSuccess
      · exact absurd hSuccess hStatus
  · intro fabric hStatus hAt
    refine ⟨max floor (payloadEnd workload origin base width count), posts, ?_,
      Nat.le_trans h.floor_le (Nat.le_max_left ..), ?_, ?_, h.resolved⟩
    · rw [windowStage_advance]
      exact hAt
    · intro index other entries hIndex hBatch
      exact Nat.le_trans (h.fetches index other entries hIndex hBatch) (Nat.le_max_left ..)
    · intro index hIndex hSuccess
      rcases Nat.lt_succ_iff_lt_or_eq.mp hIndex with hEarlier | rfl
      · exact Nat.le_trans (h.payloads index hEarlier hSuccess) (Nat.le_max_left ..)
      · exact Nat.le_max_right ..

/-- After the third phase no send request is outstanding: the last one posted
was a fetch or a payload, and all of these have been waited for. -/
theorem SettlingAt.retired {resolved : List PendingCommand} {floor : Nat} {posts : Nat → Post}
    (h : SettlingAt workload origin base width resolved width floor posts fabric) :
    resolveSent workload origin base width width ≤ floor := by
  have hAdmitted : admitWrId workload origin base width ≤ floor := by
    refine loadOver_covered h.floor_le fun index hIndex hLoad => ?_
    cases hParsed : workload.parsed (base + index) with
    | error error => simp [Workload.admitLoad, hParsed] at hLoad
    | ok parsed =>
        obtain ⟨state, entries⟩ := parsed
        cases entries with
        | some entries => exact h.fetches index state entries hIndex hParsed
        | none =>
            have hSuccess : state.completion.status = .success := by
              by_contra hStatus
              exact hLoad (admitLoad_refused hParsed hStatus)
            have hEnd := h.payloads index hIndex ((single_resolved hParsed).1 ▸ hSuccess)
            simp only [payloadEnd, hParsed] at hEnd
            exact hEnd
  refine loadOver_covered hAdmitted fun index hIndex hLoad => ?_
  cases hParsed : workload.parsed (base + index) with
  | error error => simp [Workload.resolveLoad, hParsed] at hLoad
  | ok parsed =>
      obtain ⟨state, entries⟩ := parsed
      cases entries with
      | none => exact absurd (single_resolved hParsed).2.1 hLoad
      | some entries =>
          have hSuccess : (workload.resolved (base + index)).completion.status = .success := by
            by_contra hStatus
            simp [Workload.resolveLoad, hParsed, payloadLoad, hStatus] at hLoad
          have hEnd := h.payloads index hIndex hSuccess
          simp only [payloadEnd, hParsed] at hEnd
          exact hEnd

theorem safe_settling (hWindow : Window workload base width) {pending resolved : List PendingCommand}
    (hLength : resolved.length = width)
    (h : Resolving workload origin base width pending resolved fabric) :
    SafeRun workload (fun _ fabric => ∃ floor posts,
      SettlingAt workload origin base width resolved width floor posts fabric)
      (Fallible.collect waitPayload resolved) fabric := by
  obtain ⟨floor, posts, hAt, hFloor, hFetches, -, hResolved⟩ := h
  rw [hLength, profile_turn workload.settledEvents] at hAt
  refine Safe.weakenValue (Safe.collect (fun waited fabric => ∃ floor posts,
      SettlingAt workload origin base width resolved waited.length floor posts fabric) resolved
    (fun waited state fabric hState h => ?_) ⟨floor, posts, hAt, hFloor, hLength ▸ hFetches, ?_,
      hResolved⟩) ?_
  · obtain ⟨floor, posts, h⟩ := h
    refine Safe.weakenValue (h.step hWindow (hLength ▸ (List.getElem?_eq_some_iff.mp hState).1)
      hState) fun _ fabric hNext => ?_
    rw [List.length_append, List.length_singleton]
    exact hNext
  · intro index hIndex
    cases hIndex
  · intro waited fabric hWaited
    rw [hWaited.1, hLength] at hWaited
    exact hWaited.2

end Settling

section Answering

variable (workload base width)

/-- What the fourth phase leaves of a command: the request that carries its completion. -/
structure AnsweredAs (posts : Nat → Post) (sent index : Nat) (state : PendingCommand) : Prop where
  slot_eq : state.slot = workload.slotOf (base + index)
  wrId_eq : state.completionWrId = sent + index
  post_eq : posts (sent + index) =
    ⟨base + index, workload.slotOf (base + index), .completion⟩

/-- The fourth phase after some completions of the window have been posted. -/
def Answering (sent : Nat) (answered : List PendingCommand) (fabric : Fabric) : Prop :=
  ∃ posts, At workload (windowStage workload base (base + width) (sent + answered.length) sent
      posts (profile workload base width workload.answeredEvents workload.settledEvents
        answered.length)) fabric ∧
    ∀ index state, answered[index]? = some state →
      AnsweredAs workload base posts sent index state

variable {workload base width}

/-- Answering one command of the window. -/
theorem Answering.step (hWindow : Window workload base width) {sent finish : Nat}
    {answered : List PendingCommand} {state : PendingCommand} {payloadPosts : Nat → Post}
    (hIndex : answered.length < width)
    (hState : ResolvedAs workload payloadPosts (base + answered.length) finish state)
    (h : Answering workload base width sent answered fabric) :
    SafeRun workload (fun state => Answering workload base width sent (answered ++ [state]))
      (postCompletion workload.session workload.worker state) fabric := by
  obtain ⟨posts, hAt, hAnswered⟩ := h
  have hSmall := hWindow.small
  have hDepth := hWindow.depth
  have hSound := phase_sound hWindow (fun _ => isPrefix_completed.2.2.2.2)
    (fun _ => isPrefix_completed.2.2.2.1) (sent + answered.length) sent posts (Nat.le_of_lt hIndex)
  refine safe_postCompletion hSound hState (Nat.add_lt_add_left hIndex base)
    (by change base + width ≤ _; omega) (profile_here hIndex)
    (by change sent + answered.length - sent + 1 ≤ _; omega) (fun fabric hAt => ?_) hAt
  refine ⟨Function.update posts (sent + answered.length + 1 - 1)
    ⟨base + answered.length, workload.slotOf (base + answered.length), .completion⟩, ?_,
    forall_getElem?_concat (fun index other hOther => ?_)
      ⟨hState.slot_eq, rfl, Function.update_self ..⟩⟩
  · rw [List.length_append, List.length_singleton, windowStage_advance]
    exact hAt
  · have hEarlier := (List.getElem?_eq_some_iff.mp hOther).1
    have hOld := hAnswered index other hOther
    refine { hOld with post_eq := ?_ }
    rw [Function.update_of_ne (by omega)]
    exact hOld.post_eq

theorem safe_answering (hWindow : Window workload base width) {resolved : List PendingCommand}
    {floor : Nat} {posts : Nat → Post} (hLength : resolved.length = width)
    (h : SettlingAt workload origin base width resolved width floor posts fabric) :
    SafeRun workload (fun answered fabric => answered.length = width ∧
        Answering workload base width (resolveSent workload origin base width width) answered
          fabric)
      (Fallible.collect (postCompletion workload.session workload.worker) resolved) fabric := by
  have hRetired := h.retired
  have hResolved := h.resolved
  have hAt := h.stage
  rw [profile_turn workload.answeredEvents] at hAt
  refine Safe.weakenValue (Safe.collect (Answering workload base width
      (resolveSent workload origin base width width)) resolved
    (fun answered state fabric hState h => ?_)
    ⟨posts, { hAt with floor_le := Nat.le_trans hRetired hAt.floor_le }, ?_⟩) ?_
  · have hIndex := (List.getElem?_eq_some_iff.mp hState).1
    exact h.step hWindow (hLength ▸ hIndex) (hResolved _ _ hState)
  · intro index state hState
    cases hState
  · intro answered fabric hAnswered
    exact ⟨hAnswered.1.trans hLength, hAnswered.2⟩

end Answering

section Finishing

/-- The stage between windows: `count` commands have been served and nothing
is outstanding. -/
def restStage (workload : Workload) (count posted sent : Nat) (posts : Nat → Post) : Stage where
  base := count
  posted := posted
  received := count
  sent := sent
  floor := sent
  posts := posts
  history := settledHistory workload count

theorem restStage_sound {count posted sent : Nat} {posts : Nat → Post}
    (hCount : count ≤ workload.commandCount) :
    (restStage workload count posted sent posts).Sound workload where
  planned := by
    intro command
    simp only [restStage, settledHistory]
    split
    · exact List.prefix_rfl
    · exact List.nil_prefix
  done := fun command hCommand => if_pos hCommand
  fresh := fun command hCommand => if_neg (Nat.not_lt.mpr hCommand)
  bounded := hCount
  covered := fun command hBase hReceived => absurd hReceived (Nat.not_lt.mpr hBase)

theorem safe_finishing (hWindow : Window workload base width) {sent : Nat}
    {answered : List PendingCommand} (hLength : answered.length = width)
    (h : Answering workload base width sent answered fabric) :
    SafeRun workload (fun _ fabric => ∃ posts, At workload
        (restStage workload (base + width) (base + workload.active) (sent + width) posts) fabric)
      (Fallible.collect (fun state => waitWrite state.completionWrId) answered) fabric := by
  obtain ⟨posts, hAt, hAnswered⟩ := h
  rw [hLength, profile_turn workload.completedEvents] at hAt
  refine Safe.weakenValue (Safe.collect (fun waited fabric => ∃ floor, At workload
      (windowStage workload base (base + width) (sent + width) floor posts
        (profile workload base width workload.completedEvents workload.answeredEvents
          waited.length)) fabric ∧ sent + waited.length ≤ floor) answered
    (fun waited state fabric hState h => ?_) ⟨sent, hAt, Nat.le_refl _⟩) ?_
  · obtain ⟨floor, hAt, hFloor⟩ := h
    have hIndex : waited.length < width := hLength ▸ (List.getElem?_eq_some_iff.mp hState).1
    have hSound := phase_sound hWindow (fun _ => List.prefix_rfl)
      (fun _ => isPrefix_completed.2.2.2.2) (sent + width) floor posts (Nat.le_of_lt hIndex)
    have hPosted := hAnswered _ _ hState
    rw [hPosted.wrId_eq]
    refine safe_waitCompletion hSound hPosted.post_eq (profile_here hIndex) (fun fabric hAt => ?_)
      hAt
    refine ⟨max floor (sent + waited.length + 1), ?_, ?_⟩
    · rw [List.length_append, List.length_singleton, windowStage_advance]
      exact hAt
    · rw [List.length_append, List.length_singleton]
      exact Nat.le_max_right ..
  · rintro waited fabric ⟨hWaited, floor, hAt, hFloor⟩
    rw [hWaited, hLength] at hAt hFloor
    rw [profile_end] at hAt
    exact ⟨posts, { hAt with floor_le := Nat.le_trans hFloor hAt.floor_le }⟩

/-- One whole window, from rest to rest. -/
theorem safe_runWindow (hWindow : Window workload base width) {posts : Nat → Post} {sent : Nat}
    (h : At workload (restStage workload base (base + workload.active) sent posts) fabric) :
    SafeRun workload (fun pending fabric => pending.length = width ∧
        (∀ index state, pending[index]? = some state →
          state.slot = workload.slotOf (base + index)) ∧
        (∀ index, index < width → ∃ parsed, workload.parsed (base + index) = .ok parsed) ∧
        ∃ sent posts, At workload
          (restStage workload (base + width) (base + workload.active) sent posts) fabric)
      (runWindow workload.session workload.worker width) fabric := by
  unfold runWindow
  refine Safe.seqFallible _ (safe_receiving hWindow h) fun pending fabric h => ?_
  refine Safe.seqFallible _ (safe_resolving hWindow h.1 h.2) fun resolved fabric h => ?_
  obtain ⟨hResolved, h⟩ := h
  refine Safe.seqFallible _ (safe_settling hWindow hResolved h) fun _ fabric h => ?_
  obtain ⟨floor, posts, h⟩ := h
  have hAccepted : ∀ index, index < width →
      ∃ parsed, workload.parsed (base + index) = .ok parsed := by
    intro index hIndex
    have hSome := List.getElem?_eq_getElem (hResolved.symm ▸ hIndex : index < resolved.length)
    exact (h.resolved index _ hSome).accepted
  refine Safe.seqFallible _ (safe_answering hWindow hResolved h) fun answered fabric h => ?_
  obtain ⟨hAnswered, h⟩ := h
  have hSlots : ∀ index state, answered[index]? = some state →
      state.slot = workload.slotOf (base + index) := by
    obtain ⟨posts, -, hStates⟩ := h
    exact fun index state hState => (hStates index state hState).slot_eq
  refine Safe.seqFallible _ (safe_finishing hWindow hAnswered h) fun _ fabric h => ?_
  obtain ⟨posts, h⟩ := h
  exact ⟨hAnswered, hSlots, hAccepted, _, posts, h⟩

end Finishing

section Loop

/-- A worker between windows. The receives of the next window, if any, are posted. -/
structure Resting (workload : Workload) (count : Nat) (fabric : Fabric) : Prop where
  stage : ∃ posted sent posts, At workload (restStage workload count posted sent posts) fabric ∧
    (count < workload.commandCount → posted = count + workload.active)
  accepted : ∀ command, command < count → ∃ parsed, workload.parsed command = .ok parsed

theorem slotOf_add_active (command : Nat) :
    workload.slotOf (command + workload.active) = workload.slotOf command :=
  Nat.add_mod_right ..

theorem safe_repostReceives (hWindow : Window workload base width) {posts : Nat → Post}
    {sent : Nat} {pending : List PendingCommand} (hLength : pending.length = width)
    (hSlots : ∀ index state, pending[index]? = some state →
      state.slot = workload.slotOf (base + index))
    (hAccepted : ∀ command, command < base + width →
      ∃ parsed, workload.parsed command = .ok parsed)
    (h : At workload (restStage workload (base + width) (base + workload.active) sent posts)
      fabric) :
    SafeRun workload (fun _ => Resting workload (base + width))
      (repostReceives workload.worker (base + width) pending) fabric := by
  unfold repostReceives
  change SafeRun workload _ (if base + width < workload.commandCount then _ else _) fabric
  by_cases hMore : base + width < workload.commandCount
  · have hFull : width = workload.active := by
      have := hWindow.width_eq
      omega
    rw [if_pos hMore]
    refine Safe.seqFallible _ (Safe.collect (fun posted fabric => At workload (restStage workload
        (base + width) (base + workload.active + posted.length) sent posts) fabric) pending
      (fun posted state fabric hState h => ?_) h) fun posted fabric h => ?_
    · refine safe_postReceive (restStage_sound (Nat.le_of_lt hMore)) ?_ (fun fabric h _ => ?_) h
      · rw [hSlots _ _ hState]
        change _ = workload.slotOf (base + workload.active + posted.length)
        rw [Nat.add_right_comm, slotOf_add_active]
      · rw [List.length_append, List.length_singleton]
        exact h
    · obtain ⟨hPosted, h⟩ := h
      refine ⟨⟨_, sent, posts, h, fun _ => ?_⟩, hAccepted⟩
      rw [hPosted, hLength, hFull]
  · rw [if_neg hMore]
    exact ⟨⟨_, sent, posts, h, fun hMore' => absurd hMore' hMore⟩, hAccepted⟩

/-- What holds when a worker returns without an error. -/
structure Finished (workload : Workload) (fabric : Fabric) : Prop where
  invariant : RunInvariant workload fabric
  healthy : fabric.failure = none
  received_eq : fabric.received = workload.commandCount
  done : ∀ command, command < workload.commandCount →
    fabric.history command = workload.completedEvents command
  accepted : ∀ command, command < workload.commandCount →
    ∃ parsed, workload.parsed command = .ok parsed

/-- A worker that rests after its last command has finished. -/
theorem Resting.finished (h : Resting workload workload.commandCount fabric) :
    Finished workload fabric := by
  obtain ⟨posted, sent, posts, hAt, -⟩ := h.stage
  have hSound : (restStage workload workload.commandCount posted sent posts).Sound workload :=
    restStage_sound (Nat.le_refl _)
  refine ⟨hAt.invariant hSound, hAt.healthy, hAt.received_eq, fun command hCommand => ?_,
    h.accepted⟩
  rw [hAt.history_eq]
  exact hSound.done command hCommand

theorem safe_runWindows (hActive : 0 < workload.active) (hDepth : workload.active ≤ kQpDepth)
    (rounds count : Nat) (hRounds : workload.commandCount ≤ count + rounds)
    (hCount : count ≤ workload.commandCount)
    (hAligned : count < workload.commandCount → workload.active ∣ count) {fabric : Fabric}
    (h : Resting workload count fabric) :
    SafeRun workload (fun _ => Finished workload)
      (runWindows workload.session workload.worker rounds count) fabric := by
  induction rounds generalizing count fabric with
  | zero =>
      have hEnd : count = workload.commandCount := by omega
      subst hEnd
      exact h.finished
  | succ rounds ih =>
      rw [runWindows]
      by_cases hMore : count < workload.worker.commandCount
      · rw [if_pos hMore]
        obtain ⟨posted, sent, posts, hAt, hPosted⟩ := h.stage
        rw [hPosted hMore] at hAt
        have hWindow : Window workload count
            (min (activeSlots workload.worker) (workload.worker.commandCount - count)) :=
          ⟨hAligned hMore, hMore, rfl, hActive, hDepth⟩
        have hInside := hWindow.inside
        have hProgress : 0 < min (activeSlots workload.worker)
            (workload.worker.commandCount - count) :=
          Nat.lt_min.mpr ⟨hActive, Nat.sub_pos_of_lt hMore⟩
        refine Safe.seqFallible _ (safe_runWindow hWindow hAt) fun pending fabric hDone => ?_
        obtain ⟨hLength, hSlots, hAccepted, sent, posts, hAt⟩ := hDone
        refine Safe.seqFallible _ (safe_repostReceives hWindow hLength hSlots ?_ hAt)
          fun _ fabric h => ih _ (by omega) hInside ?_ h
        · intro command hCommand
          rcases Nat.lt_or_ge command count with hEarlier | hHere
          · exact h.accepted command hEarlier
          · obtain ⟨index, rfl⟩ := Nat.exists_eq_add_of_le hHere
            exact hAccepted index (by omega)
        · intro hAgain
          have hFull : min (activeSlots workload.worker) (workload.worker.commandCount - count) =
              workload.active := by
            change min workload.active (workload.commandCount - count) = workload.active
            change count + min workload.active (workload.commandCount - count) <
              workload.commandCount at hAgain
            omega
          rw [hFull]
          exact Nat.dvd_add (hAligned hMore) (Nat.dvd_refl _)
      · rw [if_neg hMore]
        have hEnd : count = workload.commandCount := Nat.le_antisymm hCount (Nat.not_lt.mp hMore)
        subst hEnd
        exact h.finished

/-- A fresh fabric is at rest before the first window. -/
theorem initial_at (workload : Workload) :
    At workload (restStage workload 0 0 0 Fabric.initial.posts) Fabric.initial where
  healthy := rfl
  receiveSide := ⟨rfl, Nat.le_refl _, Nat.le_refl _, fun _ h => absurd h (Nat.not_lt_zero _),
    fun _ h => absurd h (Nat.not_lt_zero _)⟩
  entryLength := fun _ => List.length_replicate
  completionLength := fun _ => List.length_replicate
  posted_eq := rfl
  received_eq := rfl
  sent_eq := rfl
  floor_le := Nat.le_refl _
  retired_le := Nat.le_refl _
  room := Nat.zero_le _
  posts_eq := rfl
  history_eq := rfl

/-- A worker keeps the run invariant whatever its peer sends and however the
transport answers. -/
theorem safe_runWorker (workload : Workload) :
    SafeRun workload (fun _ => Finished workload)
      (runWorker workload.session workload.worker) Fabric.initial := by
  unfold runWorker
  by_cases hSlots : workload.worker.slots = []
  · rw [if_pos (by simpa using hSlots)]
    exact ⟨(initial_at workload).invariant (restStage_sound (Nat.zero_le _)),
      .noSlots rfl hSlots rfl⟩
  rw [if_neg (by simpa using hSlots)]
  refine Safe.seqFallible _ (Safe.collect (fun posted fabric => At workload
      (restStage workload 0 posted.length 0 Fabric.initial.posts) fabric ∧
        posted.length ≤ kQpDepth) (List.range (activeSlots workload.worker))
    (fun posted slot fabric hSlot h => ?_) ⟨initial_at workload, Nat.zero_le _⟩)
    fun posted fabric h => ?_
  · have hIndex : posted.length < workload.active := by
      simpa [Workload.active] using (List.getElem?_eq_some_iff.mp hSlot).1
    rw [show activeSlots workload.worker = workload.active from rfl,
      List.getElem?_range hIndex] at hSlot
    cases hSlot
    refine safe_postReceive (restStage_sound (Nat.zero_le _)) (Nat.mod_eq_of_lt hIndex).symm
      (fun fabric h hRoom => ?_) h.1
    rw [List.length_append, List.length_singleton]
    exact ⟨h, hRoom⟩
  · obtain ⟨hPosted, hAt, hDepth⟩ := h
    rw [List.length_range] at hPosted
    rw [hPosted] at hAt hDepth
    have hResting : Resting workload 0 fabric :=
      ⟨⟨_, _, _, hAt, fun _ => (Nat.zero_add _).symm⟩, fun _ h => absurd h (Nat.not_lt_zero _)⟩
    rcases Nat.eq_zero_or_pos workload.commandCount with hNone | hSome
    · have hStop : runWindows workload.session workload.worker workload.worker.commandCount 0 =
          pure () := by
        rw [show workload.worker.commandCount = 0 from hNone]
        rfl
      rw [hStop]
      exact (hNone ▸ hResting : Resting workload workload.commandCount fabric).finished
    · have hActive : 0 < workload.active :=
        Nat.lt_min.mpr ⟨hSome, List.length_pos_iff.mpr hSlots⟩
      exact safe_runWindows hActive hDepth _ 0 (by rw [Nat.zero_add]; exact Nat.le_refl _)
        (Nat.zero_le _) (fun _ => Nat.dvd_zero _) hResting

end Loop

section Runs

theorem RunInvariant.arrive (h : RunInvariant workload fabric) :
    RunInvariant workload (fabric.arrive workload.traffic) :=
  { h with }

/-- Safety is an invariant of the configurations of a run. -/
theorem WorkerReaches.safe {program : Program Call Call.Answer (Except Error Unit)}
    (h : WorkerReaches workload.traffic workload.session workload.worker program fabric) :
    Safe (fabricWorld workload.traffic workload.session) (CallSafe workload)
      (Safe.outcome (Stops workload) fun _ => Finished workload) program fabric := by
  refine Safe.reaches ?_ h (safe_runWorker workload)
  rintro (error | value) fabric fabric' ⟨-, rfl⟩ hPost
  · refine ⟨hPost.invariant.arrive, ?_⟩
    cases hPost.cause with
    | transport hFailure => exact .transport hFailure
    | refused hHealthy hReceived hParsed => exact .refused hHealthy hReceived hParsed
    | noSlots hHealthy hSlots hError => exact .noSlots hHealthy hSlots hError
  · exact { hPost with invariant := hPost.invariant.arrive }

/-- The invariant holds in every run of the worker. -/
theorem WorkerReaches.invariant {program : Program Call Call.Answer (Except Error Unit)}
    (h : WorkerReaches workload.traffic workload.session workload.worker program fabric) :
    RunInvariant workload fabric := by
  have hSafe := h.safe
  match program, hSafe with
  | .done (.ok _), hSafe => exact hSafe.invariant
  | .done (.error _), hSafe => exact hSafe.invariant
  | .call _ _, hSafe => exact (hSafe fabric Relation.ReflTransGen.refl).1.invariant

theorem WorkerReaches.callSafe {call : Call}
    {next : call.Answer → Program Call Call.Answer (Except Error Unit)}
    (h : WorkerReaches workload.traffic workload.session workload.worker (.call call next)
      fabric) : CallSafe workload fabric call :=
  (h.safe fabric Relation.ReflTransGen.refl).1

end Runs

end NdsStorage.Server
