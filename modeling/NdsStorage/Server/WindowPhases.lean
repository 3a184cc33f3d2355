import NdsStorage.Server.WindowSteps

/-! The phases of a window. Each phase turns the histories of the window's
commands, one command after the other, from what the previous phase left into
its own. The send requests of a window are numbered from `origin` on. -/
namespace NdsStorage.Server

open Bytes Interaction

/-- A window of `width` commands that starts at `base`. -/
structure Window (workload : Workload) (base width : Nat) : Prop where
  aligned : workload.active ∣ base
  begun : base < workload.commandCount
  width_eq : width = min workload.active (workload.commandCount - base)
  positive : 0 < workload.active
  depth : workload.active ≤ kQpDepth

namespace Window

variable {workload : Workload} {base width : Nat}

/-- A window is no larger than the ring of slots. -/
theorem small (h : Window workload base width) : width ≤ workload.active := by
  rw [h.width_eq]
  exact Nat.min_le_left ..

theorem inside (h : Window workload base width) : base + width ≤ workload.commandCount := by
  have hBegun := h.begun
  rw [h.width_eq]
  omega

/-- The commands of a window fill the slots in order. -/
theorem slotOf (h : Window workload base width) {index : Nat} (hIndex : index < width) :
    workload.slotOf (base + index) = index :=
  workload.slotOf_window h.aligned (Nat.lt_of_lt_of_le hIndex h.small)

end Window

section Profile

variable (workload : Workload) (base width : Nat)

/-- Histories in the middle of a phase: the first `index` commands of the
window have been advanced from `previous` to `next`. -/
def profile (next previous : Nat → List Event) (index : Nat) : Nat → List Event :=
  fun command =>
    if command < base then workload.completedEvents command
    else if command < base + index then next command
    else if command < base + width then previous command
    else []

/-- Histories between windows. -/
def settledHistory (count : Nat) : Nat → List Event :=
  fun command => if command < count then workload.completedEvents command else []

variable {workload base width} {next previous : Nat → List Event} {index : Nat}

theorem profile_here (hIndex : index < width) :
    profile workload base width next previous index (base + index) = previous (base + index) := by
  rw [profile, if_neg (by omega), if_neg (by omega), if_pos (by omega)]

theorem profile_advance :
    Function.update (profile workload base width next previous index) (base + index)
      (next (base + index)) = profile workload base width next previous (index + 1) := by
  funext command
  by_cases hCommand : command = base + index
  · subst hCommand
    rw [Function.update_self, profile, if_neg (by omega), if_pos (by omega)]
  · rw [Function.update_of_ne hCommand, profile, profile]
    split
    · rfl
    · by_cases hEarlier : command < base + index
      · rw [if_pos hEarlier, if_pos (by omega)]
      · have hLater : ¬ command < base + (index + 1) := by omega
        simp only [if_neg hEarlier, if_neg hLater]

/-- A phase that has nothing to do for a command leaves the histories as they are. -/
theorem profile_stay (hIndex : index < width)
    (hSame : next (base + index) = previous (base + index)) :
    profile workload base width next previous (index + 1) =
      profile workload base width next previous index := by
  have hHere : profile workload base width next previous index (base + index) =
      previous (base + index) := profile_here hIndex
  rw [← profile_advance, hSame, ← hHere, Function.update_eq_self]

/-- The end of one phase is the beginning of the next. -/
theorem profile_turn (later : Nat → List Event) :
    profile workload base width next previous width =
      profile workload base width later next 0 := by
  funext command
  simp only [profile, Nat.add_zero]
  split
  · rfl
  · split
    · rfl
    · rfl

/-- A phase starts where the one before it ended. -/
theorem profile_begin (width : Nat) (next : Nat → List Event) :
    settledHistory workload base = profile workload base width next (fun _ => []) 0 := by
  funext command
  simp only [settledHistory, profile, Nat.add_zero]
  split
  · rfl
  · split <;> rfl

/-- A window ends with all its commands settled. -/
theorem profile_end :
    profile workload base width workload.completedEvents previous width =
      settledHistory workload (base + width) := by
  funext command
  simp only [settledHistory, profile]
  split
  · rw [if_pos (by omega)]
  · split <;> rfl

end Profile

/-- A stage inside a window. -/
def windowStage (workload : Workload) (base received sent floor : Nat) (posts : Nat → Post)
    (history : Nat → List Event) : Stage where
  base := base
  posted := base + workload.active
  received := received
  sent := sent
  floor := floor
  posts := posts
  history := history

theorem windowStage_sound {workload : Workload} {base width received sent floor index : Nat}
    {posts : Nat → Post} {next previous : Nat → List Event}
    (hNext : ∀ command, next command <+: workload.completedEvents command)
    (hPrevious : ∀ command, previous command <+: workload.completedEvents command)
    (hFresh : ∀ command, received ≤ command → command < base + width →
      base + index ≤ command ∧ previous command = [])
    (hWindow : Window workload base width) (hReceived : received ≤ base + width)
    (hIndex : base + index ≤ received) :
    (windowStage workload base received sent floor posts
      (profile workload base width next previous index)).Sound workload where
  planned := by
    intro command
    simp only [windowStage, profile]
    split
    · exact List.prefix_rfl
    · split
      · exact hNext command
      · split
        · exact hPrevious command
        · exact List.nil_prefix
  done := by
    intro command hCommand
    exact if_pos hCommand
  fresh := by
    intro command hCommand
    change received ≤ command at hCommand
    simp only [windowStage, profile]
    rw [if_neg (by omega), if_neg (by omega)]
    split
    · rename_i hInside
      exact (hFresh command hCommand hInside).2
    · rfl
  bounded := Nat.le_trans hReceived hWindow.inside
  covered := by
    intro command hBase _
    exact Nat.add_le_add_right hBase _

/-- Facts about the items of a list extended by one item. -/
theorem forall_getElem?_concat {Item : Type} {items : List Item} {item : Item}
    {property : Nat → Item → Prop}
    (hItems : ∀ index other, items[index]? = some other → property index other)
    (hItem : property items.length item) :
    ∀ index other, (items ++ [item])[index]? = some other → property index other := by
  intro index other hOther
  rcases Nat.lt_trichotomy index items.length with hBefore | rfl | hAfter
  · rw [List.getElem?_append_left hBefore] at hOther
    exact hItems index other hOther
  · rw [List.getElem?_concat_length] at hOther
    cases hOther
    exact hItem
  · rw [List.getElem?_eq_none (by simp; omega)] at hOther
    cases hOther

section Receiving

variable (workload : Workload) (posts : Nat → Post) (origin base : Nat)

/-- The send request that the first phase posts for a command of the window, if any. -/
def admitWrId (index : Nat) : Nat := origin + loadOver workload.admitLoad base index

/-- What the first phase leaves of a command of the window. -/
inductive AdmittedAt (index : Nat) : PendingCommand → Prop
  | refused {state : PendingCommand}
      (hParsed : workload.parsed (base + index) = .ok (state, none))
      (hStatus : state.completion.status ≠ .success) : AdmittedAt index state
  | single {state : PendingCommand}
      (hParsed : workload.parsed (base + index) = .ok (state, none))
      (hStatus : state.completion.status = .success)
      (hPost : posts (admitWrId workload origin base index) =
        ⟨base + index, workload.slotOf (base + index),
          .payload (payloadOpcode state.storageRead)⟩) :
      AdmittedAt index { state with
        payloadWrId := admitWrId workload origin base index
        payloadPending := true }
  | batch {state : PendingCommand} {entries : StorageMemory}
      (hParsed : workload.parsed (base + index) = .ok (state, some entries))
      (hPost : posts (admitWrId workload origin base index) =
        ⟨base + index, workload.slotOf (base + index),
          .fetch (descriptorBytes state.entryCount)⟩) :
      AdmittedAt index { state with
        descriptorWrId := admitWrId workload origin base index
        descriptorPending := true }

variable {workload posts origin base}

/-- An accepted single command has one work request posted. -/
theorem admitLoad_single {command : Nat} {state : PendingCommand}
    (hParsed : workload.parsed command = .ok (state, none))
    (hStatus : state.completion.status = .success) : workload.admitLoad command = 1 := by
  simp only [Workload.admitLoad, hParsed, payloadLoad, if_pos hStatus]
  exact parseCommand_single hParsed hStatus

theorem admitLoad_batch {command : Nat} {state : PendingCommand} {entries : StorageMemory}
    (hParsed : workload.parsed command = .ok (state, some entries)) :
    workload.admitLoad command = 1 := by
  simp only [Workload.admitLoad, hParsed]

/-- Later commands are posted under later identifiers. -/
theorem admitWrId_lt {index later : Nat} (hLoad : workload.admitLoad (base + index) = 1)
    (hLater : index < later) :
    admitWrId workload origin base index < admitWrId workload origin base later := by
  have hMono := loadOver_mono workload.admitLoad base (Nat.succ_le_of_lt hLater)
  rw [Nat.succ_eq_add_one, loadOver, hLoad] at hMono
  unfold admitWrId
  omega

/-- Later posts leave the identifiers of earlier requests alone. -/
theorem AdmittedAt.frame {posts' : Nat → Post} {index later : Nat} {state : PendingCommand}
    (h : AdmittedAt workload posts origin base index state) (hLater : index < later)
    (hPosts : ∀ wrId, wrId < admitWrId workload origin base later → posts' wrId = posts wrId) :
    AdmittedAt workload posts' origin base index state := by
  cases h with
  | refused hParsed hStatus => exact .refused hParsed hStatus
  | single hParsed hStatus hPost =>
      refine .single hParsed hStatus ?_
      rw [hPosts _ (admitWrId_lt (admitLoad_single hParsed hStatus) hLater), hPost]
  | batch hParsed hPost =>
      refine .batch hParsed ?_
      rw [hPosts _ (admitWrId_lt (admitLoad_batch hParsed) hLater), hPost]

variable (workload origin base) in
/-- The first phase after some commands of the window have been received. -/
def Receiving (width : Nat) (pending : List PendingCommand) (fabric : Fabric) : Prop :=
  ∃ posts, At workload (windowStage workload base (base + pending.length)
      (admitWrId workload origin base pending.length) origin posts
      (profile workload base width workload.admittedEvents (fun _ => []) pending.length)) fabric ∧
    ∀ index state, pending[index]? = some state →
      AdmittedAt workload posts origin base index state

end Receiving

section Phases

variable {workload : Workload} {origin base width : Nat} {fabric : Fabric}

/-- Advancing one command of a window is rewriting its history. -/
theorem windowStage_advance (received sent floor index : Nat) (posts : Nat → Post)
    (next previous : Nat → List Event) :
    windowStage workload base received sent floor posts
        (profile workload base width next previous (index + 1)) =
      (windowStage workload base received sent floor posts
        (profile workload base width next previous index)).write (base + index)
        (next (base + index)) := by
  rw [← profile_advance]
  rfl

/-- The identifier moves by what admitting posts. -/
theorem admitWrId_succ (index : Nat) : admitWrId workload origin base (index + 1) =
    admitWrId workload origin base index + workload.admitLoad (base + index) :=
  (Nat.add_assoc ..).symm

theorem admitLoad_refused {command : Nat} {state : PendingCommand}
    (hParsed : workload.parsed command = .ok (state, none))
    (hStatus : state.completion.status ≠ .success) : workload.admitLoad command = 0 := by
  simp only [Workload.admitLoad, hParsed, payloadLoad, if_neg hStatus]

/-- Receiving one command of the window. -/
theorem Receiving.step (hWindow : Window workload base width) {pending : List PendingCommand}
    {slot : Nat} (hSlot : (List.range width)[pending.length]? = some slot)
    (h : Receiving workload origin base width pending fabric) :
    SafeRun workload (fun state => Receiving workload origin base width (pending ++ [state]))
      (receiveCommand workload.session workload.worker slot) fabric := by
  obtain ⟨posts, hAt, hPending⟩ := h
  have hIndex : pending.length < width := by
    simpa using (List.getElem?_eq_some_iff.mp hSlot).1
  rw [List.getElem?_range hIndex, ← hWindow.slotOf hIndex] at hSlot
  cases hSlot
  have hSmall := hWindow.small
  have hInside := hWindow.inside
  have hDepth := hWindow.depth
  have hLoad := loadOver_le workload.admitLoad_le base pending.length
  have hEarlier : ∀ entry wrId, wrId < admitWrId workload origin base pending.length →
      Function.update posts (admitWrId workload origin base pending.length + 1 - 1) entry wrId =
        posts wrId := by
    intro entry wrId hWrId
    exact Function.update_of_ne (by omega) ..
  refine safe_receiveCommand (windowStage_sound (fun _ => isPrefix_completed.2.1)
    (fun _ => List.nil_prefix) (fun _ hReceived _ => ⟨hReceived, rfl⟩) hWindow (by omega)
    (Nat.le_refl _)) rfl (Nat.le_refl _) (Nat.le_add_right ..) (by omega) hWindow.positive ?_
    ?_ ?_ ?_ hAt
  · change admitWrId workload origin base pending.length - origin + 1 ≤ _
    unfold admitWrId
    omega
  · intro fabric state hParsed hStatus h
    refine ⟨posts, ?_, forall_getElem?_concat hPending (.refused hParsed hStatus)⟩
    rw [List.length_append, List.length_singleton, windowStage_advance, admitWrId_succ,
      admitLoad_refused hParsed hStatus]
    exact h
  · intro fabric state hParsed hStatus h
    refine ⟨_, ?_, forall_getElem?_concat (fun index other hOther =>
      (hPending index other hOther).frame (List.getElem?_eq_some_iff.mp hOther).1 (hEarlier _))
      (.single hParsed hStatus (Function.update_self ..))⟩
    rw [List.length_append, List.length_singleton, windowStage_advance, admitWrId_succ,
      admitLoad_single hParsed hStatus]
    exact h
  · intro fabric state entries hParsed h
    refine ⟨_, ?_, forall_getElem?_concat (fun index other hOther =>
      (hPending index other hOther).frame (List.getElem?_eq_some_iff.mp hOther).1 (hEarlier _))
      (.batch hParsed (Function.update_self ..))⟩
    rw [List.length_append, List.length_singleton, windowStage_advance, admitWrId_succ,
      admitLoad_batch hParsed]
    exact h

/-- The first phase as a whole. -/
theorem safe_receiving (hWindow : Window workload base width) {posts : Nat → Post}
    (h : At workload (windowStage workload base base origin origin posts
      (settledHistory workload base)) fabric) :
    SafeRun workload (fun pending fabric => pending.length = width ∧
        Receiving workload origin base width pending fabric)
      (Fallible.collect (receiveCommand workload.session workload.worker) (List.range width))
      fabric := by
  refine Safe.weakenValue (Safe.collect (Receiving workload origin base width) (List.range width)
    (fun pending slot fabric hSlot h => h.step hWindow hSlot) ⟨posts, ?_, ?_⟩) ?_
  · rw [profile_begin width workload.admittedEvents] at h
    exact h
  · intro index state hState
    cases hState
  · intro pending fabric hPending
    exact ⟨hPending.1.trans (List.length_range), hPending.2⟩

/-- Send requests of the window when `index` batches have been resolved. -/
def resolveSent (workload : Workload) (origin base width index : Nat) : Nat :=
  admitWrId workload origin base width + loadOver workload.resolveLoad base index

/-- One past the last request of a command's payload. -/
def payloadEnd (workload : Workload) (origin base width index : Nat) : Nat :=
  match workload.parsed (base + index) with
  | .ok (_, some _) => resolveSent workload origin base width (index + 1)
  | _ => admitWrId workload origin base (index + 1)

theorem admitWrId_mono {first second : Nat} (h : first ≤ second) :
    admitWrId workload origin base first ≤ admitWrId workload origin base second :=
  Nat.add_le_add_left (loadOver_mono _ _ h) _

/-- A payload ends before the next one is posted. -/
theorem payloadEnd_le {index later : Nat} (hIndex : index < width) (hLater : index < later) :
    payloadEnd workload origin base width index ≤
      resolveSent workload origin base width later := by
  unfold payloadEnd
  split
  · exact Nat.add_le_add_left (loadOver_mono _ _ hLater) _
  · exact Nat.le_trans (admitWrId_mono hIndex) (Nat.le_add_right ..)

/-- Later posts do not change what has been resolved. -/
theorem ResolvedAs.frame {posts posts' : Nat → Post} {command finish bound : Nat}
    {state : PendingCommand} (h : ResolvedAs workload posts command finish state)
    (hFinish : finish ≤ bound) (hPosts : ∀ wrId, wrId < bound → posts' wrId = posts wrId) :
    ResolvedAs workload posts' command finish state :=
  { h with
    post_eq := by
      intro hPending
      obtain ⟨hEnd, hPost⟩ := h.post_eq hPending
      exact ⟨hEnd, (hPosts _ (by omega)).trans hPost⟩ }

variable (workload origin base width) in
/-- The fetches of the first `count` commands of the window are retired. -/
def FetchesRetired (floor count : Nat) : Prop :=
  ∀ index state entries, index < count →
    workload.parsed (base + index) = .ok (state, some entries) →
    admitWrId workload origin base (index + 1) ≤ floor

variable (workload origin base width) in
/-- The second phase after some commands of the window have been resolved. -/
structure ResolvingAt (pending resolved : List PendingCommand) (floor : Nat)
    (posts : Nat → Post) (fabric : Fabric) : Prop where
  stage : At workload (windowStage workload base (base + width)
    (resolveSent workload origin base width resolved.length) floor posts
    (profile workload base width workload.resolvedEvents workload.admittedEvents
      resolved.length)) fabric
  floor_le : origin ≤ floor
  fetches : FetchesRetired workload origin base floor resolved.length
  admitted : ∀ index state, pending[index]? = some state →
    AdmittedAt workload posts origin base index state
  resolved : ∀ index state, resolved[index]? = some state →
    ResolvedAs workload posts (base + index) (payloadEnd workload origin base width index) state

variable (workload origin base width) in
def Resolving (pending resolved : List PendingCommand) (fabric : Fabric) : Prop :=
  ∃ floor posts, ResolvingAt workload origin base width pending resolved floor posts fabric

theorem resolveSent_succ (index : Nat) : resolveSent workload origin base width (index + 1) =
    resolveSent workload origin base width index + workload.resolveLoad (base + index) :=
  (Nat.add_assoc ..).symm

/-- Commands without descriptors have nothing to do in the second phase. -/
theorem single_resolved {command : Nat} {state : PendingCommand}
    (hParsed : workload.parsed command = .ok (state, none)) :
    workload.resolved command = state ∧ workload.resolveLoad command = 0 ∧
      workload.resolvedEvents command = workload.admittedEvents command := by
  simp only [Workload.resolved, Workload.resolveLoad, Workload.resolvedEvents, hParsed,
    List.append_nil, and_self]

/-- The stages of the phases in which all messages of the window have been received. -/
theorem phase_sound (hWindow : Window workload base width) {next previous : Nat → List Event}
    (hNext : ∀ command, next command <+: workload.completedEvents command)
    (hPrevious : ∀ command, previous command <+: workload.completedEvents command)
    (sent floor : Nat) (posts : Nat → Post) {index : Nat} (hIndex : index ≤ width) :
    (windowStage workload base (base + width) sent floor posts
      (profile workload base width next previous index)).Sound workload :=
  windowStage_sound hNext hPrevious (fun _ hReceived hInside => absurd hInside (by omega)) hWindow
    (Nat.le_refl _) (by omega)

/-- The budget of a workload covers the payload of each valid batch at the
moment when it is posted. -/
theorem batch_fits {index floor : Nat} {state : PendingCommand} {entries : StorageMemory}
    (hWindow : Window workload base width) (hIndex : index < width)
    (hParsed : workload.parsed (base + index) = .ok (state, some entries))
    (hStatus : (workload.resolved (base + index)).completion.status = .success)
    (hBudget : workload.SendBudget) :
    resolveSent workload origin base width index -
        max floor (admitWrId workload origin base index + 1) +
      (workload.resolved (base + index)).requests.length ≤ kQpDepth := by
  have hBound := hBudget base index entries state hWindow.aligned hWindow.begun
    (hWindow.width_eq ▸ hIndex) hParsed hStatus
  rw [← hWindow.width_eq] at hBound
  have hSplit := loadOver_add workload.admitLoad base (index + 1) (width - (index + 1))
  rw [show index + 1 + (width - (index + 1)) = width by omega] at hSplit
  have hFetch : loadOver workload.admitLoad base (index + 1) =
      loadOver workload.admitLoad base index + 1 := by
    rw [loadOver, admitLoad_batch hParsed]
  have hPayload : loadOver workload.resolveLoad base (index + 1) =
      loadOver workload.resolveLoad base index +
        (workload.resolved (base + index)).requests.length := by
    simp only [loadOver, Workload.resolveLoad, hParsed, payloadLoad, if_pos hStatus]
  unfold resolveSent admitWrId
  omega

/-- Passing over a command without descriptors. -/
theorem ResolvingAt.pass {pending resolved : List PendingCommand} {floor : Nat}
    {posts : Nat → Post} {state state' : PendingCommand} (hIndex : resolved.length < width)
    (hParsed : workload.parsed (base + resolved.length) = .ok (state, none))
    (hState : ResolvedAs workload posts (base + resolved.length)
      (payloadEnd workload origin base width resolved.length) state')
    (h : ResolvingAt workload origin base width pending resolved floor posts fabric) :
    Resolving workload origin base width pending (resolved ++ [state']) fabric := by
  obtain ⟨-, hLoad, hEvents⟩ := single_resolved hParsed
  refine ⟨floor, posts, ?_, h.floor_le, ?_, h.admitted,
    forall_getElem?_concat h.resolved hState⟩
  · rw [List.length_append, List.length_singleton, resolveSent_succ, hLoad,
      profile_stay hIndex hEvents]
    exact h.stage
  · intro index other entries hOther hBatch
    rw [List.length_append, List.length_singleton] at hOther
    rcases Nat.lt_succ_iff_lt_or_eq.mp hOther with hEarlier | rfl
    · exact h.fetches index other entries hEarlier hBatch
    · rw [hParsed] at hBatch
      cases hBatch

/-- The fetch of one more batch has been waited for. -/
theorem FetchesRetired.extend {floor index : Nat} {state : PendingCommand}
    {entries : StorageMemory} (h : FetchesRetired workload origin base floor index)
    (hParsed : workload.parsed (base + index) = .ok (state, some entries)) :
    FetchesRetired workload origin base
      (max floor (admitWrId workload origin base index + 1)) (index + 1) := by
  intro other otherState otherEntries hOther hBatch
  rcases Nat.lt_succ_iff_lt_or_eq.mp hOther with hEarlier | rfl
  · exact Nat.le_trans (h other _ _ hEarlier hBatch) (Nat.le_max_left ..)
  · rw [admitWrId_succ, admitLoad_batch hParsed]
    exact Nat.le_max_right ..

section Batch

variable {pending resolved : List PendingCommand} {floor : Nat} {posts : Nat → Post}
  {state : PendingCommand} {entries : StorageMemory} {fabric' : Fabric}
  (hParsed : workload.parsed (base + resolved.length) = .ok (state, some entries))

include hParsed in
theorem resolveLoad_batch : workload.resolveLoad (base + resolved.length) =
    payloadLoad (workload.resolved (base + resolved.length)) := by
  simp only [Workload.resolveLoad, hParsed]

include hParsed in
theorem resolved_noPayload :
    (workload.resolved (base + resolved.length)).payloadPending = false := by
  rw [Workload.resolved_batch hParsed]
  exact (parseCommand_accepted hParsed).noPayload

include hParsed in
/-- A batch that was found invalid posts nothing more. -/
theorem ResolvingAt.refuse
    (h : ResolvingAt workload origin base width pending resolved floor posts fabric)
    (hStatus : (workload.resolved (base + resolved.length)).completion.status ≠ .success)
    (hAt : At workload ((windowStage workload base (base + width)
      (resolveSent workload origin base width resolved.length)
      (max floor (admitWrId workload origin base resolved.length + 1)) posts
      (profile workload base width workload.resolvedEvents workload.admittedEvents
        resolved.length)).write (base + resolved.length)
      (workload.resolvedEvents (base + resolved.length))) fabric') :
    Resolving workload origin base width pending
      (resolved ++ [{ workload.resolved (base + resolved.length) with
        descriptorWrId := admitWrId workload origin base resolved.length
        descriptorPending := true }]) fabric' := by
  have hNoPayload := resolved_noPayload hParsed
  refine ⟨max floor (admitWrId workload origin base resolved.length + 1), posts, ?_,
    Nat.le_trans h.floor_le (Nat.le_max_left ..), ?_, h.admitted,
    forall_getElem?_concat h.resolved ?_⟩
  · rw [List.length_append, List.length_singleton, resolveSent_succ, resolveLoad_batch hParsed,
      payloadLoad, if_neg hStatus, windowStage_advance]
    exact hAt
  · rw [List.length_append, List.length_singleton]
    exact h.fetches.extend hParsed
  · exact {
      slot_eq := (workload.resolved_accepted _ hParsed).1
      accepted := ⟨_, hParsed⟩
      completion_eq := rfl
      pending_iff := by simp [hNoPayload, hStatus]
      post_eq := by simp [hNoPayload] }

include hParsed in
/-- A valid batch posts its requests at the end of the send queue. -/
theorem ResolvingAt.post (hIndex : resolved.length < width) (hLength : pending.length = width)
    (h : ResolvingAt workload origin base width pending resolved floor posts fabric)
    (hStatus : (workload.resolved (base + resolved.length)).completion.status = .success)
    (hSome : 0 < (workload.resolved (base + resolved.length)).requests.length)
    (hAt : At workload (((windowStage workload base (base + width)
      (resolveSent workload origin base width resolved.length)
      (max floor (admitWrId workload origin base resolved.length + 1)) posts
      (profile workload base width workload.resolvedEvents workload.admittedEvents
        resolved.length)).post (workload.resolved (base + resolved.length)).requests.length
      ⟨base + resolved.length, workload.slotOf (base + resolved.length),
        .payload (payloadOpcode (workload.resolved (base + resolved.length)).storageRead)⟩).write
      (base + resolved.length) (workload.resolvedEvents (base + resolved.length))) fabric') :
    Resolving workload origin base width pending
      (resolved ++ [{ workload.resolved (base + resolved.length) with
        descriptorWrId := admitWrId workload origin base resolved.length
        descriptorPending := true
        payloadWrId := resolveSent workload origin base width resolved.length +
          (workload.resolved (base + resolved.length)).requests.length - 1
        payloadPending := true }]) fabric' := by
  have hEarlier : ∀ entry wrId, wrId < resolveSent workload origin base width resolved.length →
      Function.update posts (resolveSent workload origin base width resolved.length +
        (workload.resolved (base + resolved.length)).requests.length - 1) entry wrId =
          posts wrId := by
    intro entry wrId hWrId
    exact Function.update_of_ne (by omega) ..
  refine ⟨max floor (admitWrId workload origin base resolved.length + 1), Function.update posts
    (resolveSent workload origin base width resolved.length +
      (workload.resolved (base + resolved.length)).requests.length - 1)
    ⟨base + resolved.length, workload.slotOf (base + resolved.length),
      .payload (payloadOpcode (workload.resolved (base + resolved.length)).storageRead)⟩, ?_,
    Nat.le_trans h.floor_le (Nat.le_max_left ..), ?_, ?_,
    forall_getElem?_concat (fun index other hOther => ?_) ?_⟩
  · rw [List.length_append, List.length_singleton, resolveSent_succ, resolveLoad_batch hParsed,
      payloadLoad, if_pos hStatus, windowStage_advance]
    exact hAt
  · rw [List.length_append, List.length_singleton]
    exact h.fetches.extend hParsed
  · intro index other hOther
    refine (h.admitted index other hOther).frame
      (hLength ▸ (List.getElem?_eq_some_iff.mp hOther).1) fun wrId hWrId => hEarlier _ wrId ?_
    exact Nat.lt_of_lt_of_le hWrId (Nat.le_add_right ..)
  · have hOtherIndex := (List.getElem?_eq_some_iff.mp hOther).1
    exact (h.resolved index other hOther).frame
      (payloadEnd_le (Nat.lt_trans hOtherIndex hIndex) hOtherIndex) (hEarlier _)
  · refine {
      slot_eq := (workload.resolved_accepted _ hParsed).1
      accepted := ⟨_, hParsed⟩
      completion_eq := rfl
      pending_iff := by simp [hStatus]
      post_eq := fun _ => ⟨?_, Function.update_self ..⟩ }
    simp only [payloadEnd, hParsed, resolveSent_succ, resolveLoad_batch hParsed, payloadLoad,
      if_pos hStatus]
    omega

end Batch

/-- Resolving one command of the window. -/
theorem ResolvingAt.step (hWindow : Window workload base width)
    {pending resolved : List PendingCommand} {floor : Nat} {posts : Nat → Post}
    {state : PendingCommand} (hLength : pending.length = width)
    (hPending : pending[resolved.length]? = some state)
    (h : ResolvingAt workload origin base width pending resolved floor posts fabric) :
    SafeRun workload (fun state => Resolving workload origin base width pending
      (resolved ++ [state])) (resolveBatch workload.session state) fabric := by
  have hIndex : resolved.length < width := hLength ▸ (List.getElem?_eq_some_iff.mp hPending).1
  have hSmall := hWindow.small
  cases h.admitted _ _ hPending with
  | refused hParsed hStatus =>
      have hAccepted := parseCommand_accepted hParsed
      have hSame := (single_resolved hParsed).1
      unfold resolveBatch
      rw [if_neg (by rw [hAccepted.noDescriptor]; exact Bool.false_ne_true)]
      exact h.pass hIndex hParsed {
        slot_eq := hAccepted.slot_eq
        accepted := ⟨_, hParsed⟩
        completion_eq := by rw [hSame]
        pending_iff := by simp [hAccepted.noPayload, hSame, hStatus]
        post_eq := by simp [hAccepted.noPayload] }
  | @single state hParsed hStatus hPost =>
      have hAccepted := parseCommand_accepted hParsed
      have hSame := (single_resolved hParsed).1
      unfold resolveBatch
      rw [if_neg (by
        change ¬ state.descriptorPending = true
        rw [hAccepted.noDescriptor]
        exact Bool.false_ne_true)]
      refine h.pass hIndex hParsed {
        slot_eq := hAccepted.slot_eq
        accepted := ⟨_, hParsed⟩
        completion_eq := by rw [hSame]
        pending_iff := by simp [hSame, hStatus]
        post_eq := fun _ => ⟨?_, hPost⟩ }
      simp only [payloadEnd, hParsed, admitWrId_succ, admitLoad_single hParsed hStatus]
  | @batch state entries hParsed hPost =>
      have hSound := phase_sound hWindow (fun _ => isPrefix_completed.2.2.1)
        (fun _ => isPrefix_completed.2.1)
        (resolveSent workload origin base width resolved.length) floor posts (Nat.le_of_lt hIndex)
      exact safe_resolveBatch hSound hParsed hPost (Nat.le_add_right ..)
        (Nat.add_lt_add_left hIndex base) (by change base + width ≤ _; omega)
        (profile_here hIndex)
        (fun hBudget hStatus => batch_fits hWindow hIndex hParsed hStatus hBudget)
        (fun fabric hStatus hAt => h.refuse hParsed hStatus hAt)
        (fun fabric hStatus hSome hAt => h.post hParsed hIndex hLength hStatus hSome hAt) h.stage

theorem safe_resolving (hWindow : Window workload base width) {pending : List PendingCommand}
    (hLength : pending.length = width) (h : Receiving workload origin base width pending fabric) :
    SafeRun workload (fun resolved fabric => resolved.length = width ∧
        Resolving workload origin base width pending resolved fabric)
      (Fallible.collect (resolveBatch workload.session) pending) fabric := by
  obtain ⟨posts, hAt, hPending⟩ := h
  rw [hLength, profile_turn workload.resolvedEvents] at hAt
  refine Safe.weakenValue (Safe.collect (Resolving workload origin base width pending) pending
    (fun resolved state fabric hState h => ?_) ⟨origin, posts, hAt, Nat.le_refl _, ?_, hPending,
      ?_⟩) ?_
  · obtain ⟨floor, posts, h⟩ := h
    exact h.step hWindow hLength hState
  · intro index state entries hIndex
    cases hIndex
  · intro index state hState
    cases hState
  · intro resolved fabric hResolved
    exact ⟨hResolved.1.trans hLength, hResolved.2⟩

end Phases

end NdsStorage.Server
