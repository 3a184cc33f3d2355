import NdsStorage.Memory.Overlapped
import NdsStorage.System.Visibility

/-! The namespace as an atomic store. The workers move the bytes of several
commands at the same time. A client that keeps commands in flight apart cannot
notice: it sees what a store would show that performs one command at a time, in
the order in which the client sees them complete. -/
namespace NdsStorage.System.SharedNamespace

open Bytes Interaction Server Client Memory

variable (traffic : Nat → Traffic) (session : Session) (workers : List Worker)
  (content : PayloadByte → UInt8)

/-- The payload bytes of the commands, as accesses to the namespace. -/
def accesses : Accesses CommandRef PayloadByte Nat UInt8 where
  command := PayloadByte.command
  covers := Covers traffic session
  content := content
  covers_unique := Covers.unique

/-- Submitted and not seen complete. -/
def InFlight (state : SharedNamespace) (command : CommandRef) : Prop :=
  command.turn < state.submitted command.queue ∧ state.observed command = none

/-- Where a byte of one of these commands is written, they move no other byte. -/
def Disjoint (commands : CommandRef → Prop) : Prop :=
  ∀ byte other position isRead, commands byte.command → commands other.command →
    Covers traffic session false byte position → Covers traffic session isRead other position →
    byte = other

/-- The runs of a client that keeps the commands in flight apart, with the
order in which it has seen commands complete. -/
inductive ApartRun (bytes : Nat → UInt8) : List CommandRef → SharedNamespace → Prop
  | begin : ApartRun bytes [] (begin session workers bytes)
  | step {order : List CommandRef} {state state' : SharedNamespace}
      (hRun : ApartRun bytes order state) (hStep : Step traffic session workers content state state')
      (hApart : Disjoint traffic session state'.InFlight)
      (hSame : ∀ command, state'.observed command ≠ none → state.observed command ≠ none) :
      ApartRun bytes order state'
  | complete {order : List CommandRef} {state state' : SharedNamespace} {command : CommandRef}
      (hRun : ApartRun bytes order state) (hStep : Step traffic session workers content state state')
      (hApart : Disjoint traffic session state'.InFlight)
      (hNew : state.observed command = none) (hObserved : state'.observed command ≠ none) :
      ApartRun bytes (order ++ [command]) state'

/-- What the commands in flight have done to the namespace so far. -/
def overlapped (state : SharedNamespace) (order : List CommandRef) :
    Overlapped CommandRef PayloadByte Nat UInt8 where
  memory := state.bytes
  buffers := state.buffers
  landed := state.landed
  invoked := fun command => command.turn < state.submitted command.queue
  responses := order

variable {traffic session workers content} {state state' : SharedNamespace}

theorem Coherent.submitted_of_answered (h : Coherent traffic session workers content state)
    {command : CommandRef} (hAnswered : (state.fabric command.queue).Answered command.turn) :
    command.turn < state.submitted command.queue := by
  obtain ⟨address, key, length, record, hPosted⟩ := hAnswered
  have hSome := List.ne_nil_of_mem hPosted
  obtain ⟨worker, -, hRun⟩ := h.worker_of_history hSome
  let workload : Workload := {
    traffic := traffic command.queue
    session := session
    worker := worker }
  have hReaches : WorkerReaches workload.traffic workload.session workload.worker _ _ := hRun
  have hReceived : command.turn < (state.fabric command.queue).received := by
    by_contra hEarly
    exact hSome (hReaches.invariant.fresh command.turn (Nat.le_of_not_lt hEarly))
  exact Nat.lt_of_lt_of_le hReceived
    (Nat.le_trans (h.received_le command.queue) (h.arrived_le command.queue))

/-- What a step adds to the completions that the client has seen. -/
theorem Step.observed_le (hStep : Step traffic session workers content state state')
    {command : CommandRef} (hObserved : state.observed command ≠ none) :
    state'.observed command ≠ none := by
  cases hStep with
  | submit | serve | store | deliver => exact hObserved
  | @observe other _ _ _ _ completion =>
      by_cases hSame : command = other
      · subst hSame
        simp [SharedNamespace.observe]
      · simpa [SharedNamespace.observe, hSame] using hObserved

theorem Step.submitted_le (hStep : Step traffic session workers content state state')
    (queue : Nat) : state.submitted queue ≤ state'.submitted queue := by
  cases hStep with
  | submit other =>
      by_cases hSame : queue = other
      · subst hSame
        simp [SharedNamespace.submit]
      · simp [SharedNamespace.submit, hSame]
  | serve | store | deliver | observe => exact Nat.le_refl _

/-- The completions seen so far, and those that a command could know of when it
was submitted come before it. -/
structure Ordered (order : List CommandRef) (state : SharedNamespace) : Prop where
  nodup : order.Nodup
  mem_iff : ∀ command, command ∈ order ↔ state.observed command ≠ none
  earlier : ∀ before command after, order = before ++ command :: after →
    ∀ other, state.seen command other ≠ none → other ∈ before

namespace Ordered

/-- Before the first answer the order is empty. -/
theorem begin (bytes : Nat → UInt8) : Ordered [] (begin session workers bytes) where
  nodup := List.nodup_nil
  mem_iff := by simp [SharedNamespace.begin]
  earlier := by simp

variable {order : List CommandRef}

/-- A step changes what is known only to the command that it submits. -/
theorem seen_kept (h : Ordered order state)
    (hCoherent : Coherent traffic session workers content state)
    (hStep : Step traffic session workers content state state') {command : CommandRef}
    (hMember : command ∈ order) : state'.seen command = state.seen command := by
  cases hStep with
  | submit queue =>
      apply Function.update_of_ne
      rintro rfl
      have hObserved := (h.mem_iff _).mp hMember
      exact Nat.lt_irrefl _ (hCoherent.submitted_of_answered (hCoherent.answered _ hObserved))
  | serve | store | deliver | observe => rfl

/-- A step without a new observation keeps the order. -/
theorem step (h : Ordered order state) (hCoherent : Coherent traffic session workers content state)
    (hStep : Step traffic session workers content state state')
    (hSame : ∀ command, state'.observed command ≠ none → state.observed command ≠ none) :
    Ordered order state' where
  nodup := h.nodup
  mem_iff := fun command => (h.mem_iff command).trans ⟨hStep.observed_le, hSame command⟩
  earlier := by
    intro before command after hOrder other hSeen
    rw [h.seen_kept hCoherent hStep (by simp [hOrder])] at hSeen
    exact h.earlier before command after hOrder other hSeen

end Ordered

/-- A completion is seen in a step that does nothing else. -/
theorem Step.observes (hStep : Step traffic session workers content state state')
    {command : CommandRef} (hNew : state.observed command = none)
    (hObserved : state'.observed command ≠ none) :
    (state.fabric command.queue).Answered command.turn ∧
      ∃ status, state' = state.observe command status := by
  cases hStep with
  | submit | serve | store | deliver => exact absurd hNew hObserved
  | @observe other _ _ _ _ completion hPosted =>
      by_cases hSame : command = other
      · subst hSame
        exact ⟨⟨_, _, _, _, hPosted⟩, _, rfl⟩
      · simp only [SharedNamespace.observe, Function.update_of_ne hSame] at hObserved
        exact absurd hNew hObserved

/-- An observed completion is the next in the order. -/
theorem Ordered.complete {order : List CommandRef} (h : Ordered order state)
    (hCoherent : Coherent traffic session workers content state) {command : CommandRef}
    (hNew : state.observed command = none) (status : StorageStatus) :
    Ordered (order ++ [command]) (state.observe command status) where
  nodup := by
    apply List.nodup_append'.mpr
    refine ⟨h.nodup, List.nodup_singleton _, ?_⟩
    rw [List.disjoint_singleton, h.mem_iff]
    exact fun hObserved => hObserved hNew
  mem_iff := by
    intro other
    by_cases hSame : other = command
    · subst hSame
      simp [SharedNamespace.observe]
    · simp [SharedNamespace.observe, hSame, h.mem_iff]
  earlier := by
    intro before last after hOrder other hSeen
    rcases List.eq_nil_or_concat after with rfl | ⟨rest, final, rfl⟩
    · obtain ⟨rfl, -⟩ := List.append_inj' hOrder rfl
      exact (h.mem_iff other).mpr (hCoherent.seen_le last other hSeen)
    · rw [List.concat_eq_append, ← List.cons_append, ← List.append_assoc] at hOrder
      obtain ⟨hBefore, -⟩ := List.append_inj' hOrder rfl
      exact h.earlier before last rest hBefore other hSeen

/-- Bytes move while their command is in flight, and complete commands have
moved all of them. -/
theorem overlapped_step {order : List CommandRef}
    (hCoherent : Coherent traffic session workers content state) (hOrdered : Ordered order state)
    (hStep : Step traffic session workers content state state') :
    Overlapped.Step (accesses traffic session content) (state.overlapped order)
      (state'.overlapped order) := by
  have hPending : ∀ {byte : PayloadByte},
      byte.command.turn < state.submitted byte.command.queue →
      state.observed byte.command = none → (state.overlapped order).Pending byte.command := by
    intro byte hSubmitted hUnseen
    refine ⟨hSubmitted, fun hMember => ?_⟩
    exact (hOrdered.mem_iff _).mp hMember hUnseen
  cases hStep with
  | submit queue =>
      apply Overlapped.Step.invoke { queue := queue, turn := state.submitted queue }
      rintro ⟨other, turn⟩
      by_cases hSame : other = queue
      · subst hSame
        simp only [overlapped, SharedNamespace.submit, CommandRef.mk.injEq, true_and,
          Function.update_self]
        omega
      · simp [overlapped, SharedNamespace.submit, hSame]
  | serve | observe => exact .stutter
  | @store byte position _ hOpen hMoves =>
      obtain ⟨hSubmitted, hUnseen, isRead, hOpcode, hCovers⟩ := hCoherent.open_byte hOpen hMoves
      cases isRead with
      | true => cases hOpcode
      | false =>
          apply Overlapped.Step.store (hPending hSubmitted hUnseen) hCovers
          · exact Function.update_self ..
          · exact fun other hOther => Function.update_of_ne hOther ..
          · exact fun other => Iff.rfl
  | @deliver byte position _ hOpen hMoves =>
      obtain ⟨hSubmitted, hUnseen, isRead, hOpcode, hCovers⟩ := hCoherent.open_byte hOpen hMoves
      cases isRead with
      | false => cases hOpcode
      | true =>
          apply Overlapped.Step.load (hPending hSubmitted hUnseen) hCovers
          · exact Function.update_self ..
          · exact fun other hOther => Function.update_of_ne hOther ..
          · exact fun other => Iff.rfl

/-- Observing a completion commits its access. -/
theorem overlapped_complete {order : List CommandRef}
    (hCoherent : Coherent traffic session workers content state) (hOrdered : Ordered order state)
    {command : CommandRef} (hAnswered : (state.fabric command.queue).Answered command.turn)
    (hNew : state.observed command = none) (status : StorageStatus) :
    Overlapped.Step (accesses traffic session content) (state.overlapped order)
      ((state.observe command status).overlapped (order ++ [command])) := by
  apply Overlapped.Step.respond
  · refine ⟨hCoherent.submitted_of_answered hAnswered, fun hMember => ?_⟩
    exact (hOrdered.mem_iff _).mp hMember hNew
  · intro byte position isRead hByte hCovers
    have hSame : byte.command = command := hByte
    subst hSame
    apply (hCoherent.observe status hAnswered).landed_of_observed ?_ hCovers
    simp [SharedNamespace.observe]

theorem overlapped_raceFree {order : List CommandRef} (hOrdered : Ordered order state)
    (hApart : Disjoint traffic session state.InFlight) :
    (state.overlapped order).RaceFree (accesses traffic session content) := by
  have hFlight : ∀ {command : CommandRef}, (state.overlapped order).Pending command →
      state.InFlight command := by
    intro command hPending
    refine ⟨hPending.1, ?_⟩
    by_contra hObserved
    exact hPending.2 ((hOrdered.mem_iff _).mpr hObserved)
  intro byte other position isRead hByte hOther
  exact hApart byte other position isRead (hFlight hByte) (hFlight hOther)

/-- Runs of the workers are runs of an overlapped memory. -/
theorem ApartRun.simulated {bytes : Nat → UInt8} {order : List CommandRef}
    (h : ApartRun traffic session workers content bytes order state) :
    Coherent traffic session workers content state ∧ Ordered order state ∧
      Overlapped.RaceFreeRun (accesses traffic session content)
        ((SharedNamespace.begin session workers bytes).overlapped []) (state.overlapped order) := by
  induction h with
  | begin => exact ⟨Coherent.begin .., Ordered.begin bytes, .start⟩
  | step _ hStep hApart hSame ih =>
      obtain ⟨hCoherent, hOrdered, hRun⟩ := ih
      have hAfter := hOrdered.step hCoherent hStep hSame
      exact ⟨hCoherent.step hStep, hAfter,
        .step hRun (overlapped_step hCoherent hOrdered hStep) (overlapped_raceFree hAfter hApart)⟩
  | complete _ hStep hApart hNew hObserved ih =>
      obtain ⟨hCoherent, hOrdered, hRun⟩ := ih
      have hNext := hCoherent.step hStep
      obtain ⟨hAnswered, status, rfl⟩ := hStep.observes hNew hObserved
      have hAfter := hOrdered.complete hCoherent hNew status
      exact ⟨hNext, hAfter,
        .step hRun (overlapped_complete hCoherent hOrdered hAnswered hNew status)
          (overlapped_raceFree hAfter hApart)⟩

/-- A client that keeps the commands in flight apart works with an atomic
store. There is one order of the commands that it has seen complete, an order
that respects what it knew when it submitted them. The namespace holds what
these commands leave when they are performed one after another, except where a
write is in flight, and every completed read has returned what it reads there. -/
theorem apart_runs_atomic {bytes : Nat → UInt8} {order : List CommandRef}
    (hRun : ApartRun traffic session workers content bytes order state) :
    order.Nodup ∧ (∀ command, command ∈ order ↔ state.observed command ≠ none) ∧
      (∀ before command after, order = before ++ command :: after →
        ∀ other, state.seen command other ≠ none → other ∈ before) ∧
      (∀ position,
        (∀ byte, state.InFlight byte.command → ¬Covers traffic session false byte position) →
        state.bytes position =
          (AtomicStore.replay (accesses traffic session content) bytes order).memory position) ∧
      ∀ byte position, state.observed byte.command ≠ none →
        Covers traffic session true byte position → state.buffers byte =
          (AtomicStore.replay (accesses traffic session content) bytes order).results byte := by
  obtain ⟨-, hOrdered, hSimulated⟩ := hRun.simulated
  let start := (SharedNamespace.begin session workers bytes).overlapped []
  have hNone : ∀ command, ¬start.invoked command := fun command => Nat.not_lt_zero _
  have hFree : start.RaceFree (accesses traffic session content) :=
    fun byte _ _ _ hPending => absurd hPending.1 (hNone _)
  have hBegin : Overlapped.Refines (accesses traffic session content) bytes start :=
    .begin hNone rfl fun _ => id
  obtain ⟨hRefines, -⟩ := hBegin.run hFree hSimulated
  refine ⟨hOrdered.nodup, hOrdered.mem_iff, hOrdered.earlier, ?_, ?_⟩
  · intro position hQuiet
    apply hRefines.quiet
    intro byte hPending
    apply hQuiet byte ⟨hPending.1, ?_⟩
    by_contra hObserved
    exact hPending.2 ((hOrdered.mem_iff _).mpr hObserved)
  · intro byte position hObserved hCovers
    exact hRefines.answered byte position ((hOrdered.mem_iff _).mpr hObserved) hCovers

/-- Steps between two states keep to the commands that the later one has
submitted and the earlier one has not seen complete. -/
def Window (state state' : SharedNamespace) (command : CommandRef) : Prop :=
  command.turn < state'.submitted command.queue ∧ state.observed command = none

/-- Any steps extend a run when the commands that can be in flight meanwhile
are disjoint. -/
theorem ApartRun.extend {bytes : Nat → UInt8} {order : List CommandRef}
    (hRun : ApartRun traffic session workers content bytes order state)
    (hSteps : Relation.ReflTransGen (Step traffic session workers content) state state')
    (hApart : Disjoint traffic session (Window state state')) :
    ∃ later, ApartRun traffic session workers content bytes (order ++ later) state' := by
  suffices hPart : ∀ middle, Relation.ReflTransGen (Step traffic session workers content) state
      middle → (∀ queue, middle.submitted queue ≤ state'.submitted queue) →
      (∀ command, state.observed command ≠ none → middle.observed command ≠ none) ∧
        ∃ later, ApartRun traffic session workers content bytes (order ++ later) middle from
    (hPart state' hSteps fun _ => Nat.le_refl _).2
  intro middle hMiddle
  induction hMiddle with
  | refl => exact fun _ => ⟨fun _ => id, [], by rwa [List.append_nil]⟩
  | @tail middle next _ hStep ih =>
      intro hSubmitted
      obtain ⟨hObserved, later, hBefore⟩ :=
        ih fun queue => Nat.le_trans (hStep.submitted_le queue) (hSubmitted queue)
      have hGrow : ∀ command, state.observed command ≠ none → next.observed command ≠ none :=
        fun command hSeen => hStep.observed_le (hObserved command hSeen)
      have hWindow : ∀ command, next.InFlight command → Window state state' command := by
        intro command hFlight
        refine ⟨Nat.lt_of_lt_of_le hFlight.1 (hSubmitted command.queue), ?_⟩
        by_contra hSeen
        exact hGrow command hSeen hFlight.2
      have hNext : Disjoint traffic session next.InFlight :=
        fun byte other position isRead hByte hOther =>
          hApart byte other position isRead (hWindow _ hByte) (hWindow _ hOther)
      refine ⟨hGrow, ?_⟩
      by_cases hNew : ∃ command, middle.observed command = none ∧ next.observed command ≠ none
      · obtain ⟨command, hNone, hSome⟩ := hNew
        refine ⟨later ++ [command], ?_⟩
        rw [← List.append_assoc]
        exact .complete hBefore hStep hNext hNone hSome
      · refine ⟨later, .step hBefore hStep hNext fun command hSome hNone => ?_⟩
        exact hNew ⟨command, hNone, hSome⟩

section Exchange

theorem byteCovers_first {isRead : Bool} {byte : PayloadByte} {position : Nat}
    (h : Covers byteTraffics byteSession isRead byte position) :
    byte.request = 0 ∧ byte.offset = 0 := by
  obtain ⟨operation, entries, entry, -, -, hEntries, hEntry, hOffset, -⟩ := h
  have hDescribed : ∀ isRead, described byteSession.storageSize ((byteTraffic isRead).message 0)
      ((byteTraffic isRead).descriptors 0) = some [byteEntry] := by decide +kernel
  have hSame : some entries = some [byteEntry] :=
    hEntries.symm.trans (hDescribed (byte.command.queue == 1))
  cases hSame
  obtain ⟨hIndex, rfl⟩ := List.getElem?_eq_some_iff.mp hEntry
  obtain hFirst : byte.request = 0 := Nat.lt_one_iff.mp hIndex
  simp only [hFirst, List.getElem_cons_zero, byteEntry] at hOffset
  exact ⟨hFirst, Nat.lt_one_iff.mp hOffset⟩

/-- A single command is apart from itself. -/
theorem single_disjoint {commands : CommandRef → Prop} {command : CommandRef}
    (hOne : ∀ other, commands other → other = command) :
    Disjoint byteTraffics byteSession commands := by
  rintro ⟨_, _, _⟩ ⟨_, _, _⟩ position isRead hByte hOther hStored hCovers
  obtain ⟨rfl, rfl⟩ := byteCovers_first hStored
  obtain ⟨rfl, rfl⟩ := byteCovers_first hCovers
  rw [PayloadByte.mk.injEq]
  exact ⟨(hOne _ hByte).trans (hOne _ hOther).symm, rfl, rfl⟩

/-- The exchange of one byte over two queues keeps its commands apart: the write
is complete before the read is submitted. -/
theorem exchanged_apart :
    ∃ order state, ApartRun byteTraffics byteSession byteWorkers (fun _ => 7) (fun _ => 0) order
      state ∧ state.observed (firstByte true).command = some .success ∧
      state.buffers (firstByte true) = some 7 := by
  let start := begin byteSession byteWorkers fun _ => 0
  let written := exchanged (fun _ => 7) false start
  let read := exchanged (fun _ => 7) true written
  have hWindow : ∀ command, Window start written command → command = (firstByte false).command := by
    rintro ⟨queue, turn⟩ ⟨hTurn, -⟩
    by_cases hQueue : queue = 0
    · subst hQueue
      obtain rfl : turn = 0 := Nat.lt_one_iff.mp hTurn
      rfl
    · simp [written, exchanged, byteQueue, SharedNamespace.submit, SharedNamespace.store,
        SharedNamespace.observe, place, start, begin, hQueue] at hTurn
  have hWindow' : ∀ command, Window written read command → command = (firstByte true).command := by
    rintro ⟨queue, turn⟩ ⟨hTurn, hUnseen⟩
    by_cases hQueue : queue = 1
    · subst hQueue
      obtain rfl : turn = 0 := Nat.lt_one_iff.mp hTurn
      rfl
    · have hWrite : queue = 0 ∧ turn = 0 := by
        by_cases hFirst : queue = 0
        · subst hFirst
          exact ⟨rfl, Nat.lt_one_iff.mp hTurn⟩
        · simp [read, written, exchanged, byteQueue, SharedNamespace.submit, SharedNamespace.store,
            SharedNamespace.deliver, SharedNamespace.observe, place, start, begin, hQueue,
            hFirst] at hTurn
      obtain ⟨rfl, rfl⟩ := hWrite
      cases hUnseen
  obtain ⟨first, hFirst⟩ := (ApartRun.begin : ApartRun byteTraffics byteSession byteWorkers
    (fun _ => 7) (fun _ => 0) [] start).extend (exchanged_reached false rfl rfl)
    (single_disjoint hWindow)
  obtain ⟨second, hSecond⟩ := hFirst.extend (exchanged_reached true rfl rfl)
    (single_disjoint hWindow')
  exact ⟨_, read, hSecond, rfl, rfl⟩

/-- The byte that was read is the one that the atomic store returns. -/
theorem apart_runs_atomic_exchange :
    ∃ order state, ApartRun byteTraffics byteSession byteWorkers (fun _ => 7) (fun _ => 0) order
      state ∧ some 7 = (AtomicStore.replay (accesses byteTraffics byteSession fun _ => 7)
        (fun _ => 0) order).results (firstByte true) := by
  obtain ⟨order, state, hRun, hObserved, hBuffer⟩ := exchanged_apart
  refine ⟨order, state, hRun, ?_⟩
  rw [← hBuffer]
  exact (apart_runs_atomic hRun).2.2.2.2 (firstByte true) 0 (by rw [hObserved]; simp)
    (byteCovers true)

end Exchange

end NdsStorage.System.SharedNamespace
