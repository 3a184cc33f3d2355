import Mathlib.Logic.Function.Basic
import Mathlib.Logic.Relation

/-! Threads that keep the first of their failures. Each thread looks at a flag,
does its job and, if the job fails, takes a lock, records its failure unless
one is recorded already, raises the flag and gives the lock back. Threads that
have not begun when the flag is up do not begin at all. -/
namespace Interaction

/-- Jobs with private states. A job that is over has an outcome. -/
structure Jobs (Local Failure : Type) where
  move : Nat → Local → Local → Prop
  outcome : Nat → Local → Option (Except Failure Unit)

/-- How far a thread is. -/
inductive ThreadPhase (Failure : Type) where
  | created
  | running
  | reporting (failure : Failure)
  | recording (failure : Failure)
  | raising (failure : Failure)
  | releasing (failure : Failure)
  | skipped
  | finished
  | reported (failure : Failure)

namespace ThreadPhase

variable {Failure : Type}

/-- The thread is over. -/
def Ended : ThreadPhase Failure → Prop
  | skipped | finished | reported _ => True
  | _ => False

/-- The thread holds the lock. -/
def Locked : ThreadPhase Failure → Prop
  | recording _ | raising _ | releasing _ => True
  | _ => False

/-- The failure of the job, once it is known. -/
def failure? : ThreadPhase Failure → Option Failure
  | reporting failure | recording failure | raising failure | releasing failure
  | reported failure => some failure
  | _ => none

/-- The failure that the thread has offered for the record. -/
def recorded? : ThreadPhase Failure → Option Failure
  | raising failure | releasing failure | reported failure => some failure
  | _ => none

/-- The failure for which the thread has raised the flag. -/
def raised? : ThreadPhase Failure → Option Failure
  | releasing failure | reported failure => some failure
  | _ => none

end ThreadPhase

structure Threads (Local Failure : Type) where
  phase : Nat → ThreadPhase Failure
  locals : Nat → Local
  flag : Bool
  holder : Option Nat
  first : Option Failure

namespace Threads

variable {Local Failure : Type}

def setPhase (threads : Threads Local Failure) (thread : Nat) (phase : ThreadPhase Failure) :
    Threads Local Failure :=
  { threads with phase := Function.update threads.phase thread phase }

def setLocal (threads : Threads Local Failure) (thread : Nat) (after : Local) :
    Threads Local Failure :=
  { threads with locals := Function.update threads.locals thread after }

@[simp] theorem setLocal_self (threads : Threads Local Failure) (thread : Nat) (after : Local) :
    (threads.setLocal thread after).locals thread = after :=
  Function.update_self ..

@[simp] theorem setLocal_phase (threads : Threads Local Failure) (thread : Nat) (after : Local) :
    (threads.setLocal thread after).phase = threads.phase := rfl

theorem setLocal_other (threads : Threads Local Failure) {thread other : Nat} (h : other ≠ thread)
    (after : Local) : (threads.setLocal thread after).locals other = threads.locals other :=
  Function.update_of_ne h ..

/-- No thread has begun. -/
def begin (locals : Nat → Local) : Threads Local Failure where
  phase := fun _ => .created
  locals := locals
  flag := false
  holder := none
  first := none

variable (jobs : Jobs Local Failure) (exists_ : Nat → Prop)

/-- One move of one thread. -/
inductive Step (threads : Threads Local Failure) : Threads Local Failure → Prop
  | skip {thread : Nat} (hExists : exists_ thread) (hPhase : threads.phase thread = .created)
      (hFlag : threads.flag = true) : Step threads (threads.setPhase thread .skipped)
  | enter {thread : Nat} (hExists : exists_ thread) (hPhase : threads.phase thread = .created)
      (hFlag : threads.flag = false) : Step threads (threads.setPhase thread .running)
  | work {thread : Nat} {after : Local} (hPhase : threads.phase thread = .running)
      (hMove : jobs.move thread (threads.locals thread) after) :
      Step threads (threads.setLocal thread after)
  | finish {thread : Nat} (hPhase : threads.phase thread = .running)
      (hOutcome : jobs.outcome thread (threads.locals thread) = some (.ok ())) :
      Step threads (threads.setPhase thread .finished)
  | fail {thread : Nat} {failure : Failure} (hPhase : threads.phase thread = .running)
      (hOutcome : jobs.outcome thread (threads.locals thread) = some (.error failure)) :
      Step threads (threads.setPhase thread (.reporting failure))
  | acquire {thread : Nat} {failure : Failure} (hPhase : threads.phase thread = .reporting failure)
      (hFree : threads.holder = none) :
      Step threads { threads.setPhase thread (.recording failure) with holder := some thread }
  | record {thread : Nat} {failure : Failure} (hPhase : threads.phase thread = .recording failure) :
      Step threads { threads.setPhase thread (.raising failure) with
        first := threads.first.or (some failure) }
  | raise {thread : Nat} {failure : Failure} (hPhase : threads.phase thread = .raising failure) :
      Step threads { threads.setPhase thread (.releasing failure) with flag := true }
  | release {thread : Nat} {failure : Failure}
      (hPhase : threads.phase thread = .releasing failure) :
      Step threads { threads.setPhase thread (.reported failure) with holder := none }

/-- Every state that some interleaving reaches. -/
def Reached (locals : Nat → Local) (threads : Threads Local Failure) : Prop :=
  Relation.ReflTransGen (Step jobs exists_) (begin locals) threads

/-- All threads can be joined. -/
def Joined (threads : Threads Local Failure) : Prop :=
  ∀ thread, exists_ thread → (threads.phase thread).Ended

/-- What holds in every state. -/
structure Sound (threads : Threads Local Failure) : Prop where
  absent : ∀ thread, ¬exists_ thread → threads.phase thread = .created
  holder : ∀ thread, threads.holder = some thread ↔ (threads.phase thread).Locked
  first_mem : ∀ failure, threads.first = some failure →
    ∃ thread, (threads.phase thread).recorded? = some failure
  first_some : ∀ thread failure, (threads.phase thread).recorded? = some failure →
    threads.first ≠ none
  flag : threads.flag = true ↔ ∃ thread failure, (threads.phase thread).raised? = some failure
  skipped : ∀ thread, threads.phase thread = .skipped → threads.flag = true
  finished : ∀ thread, threads.phase thread = .finished →
    jobs.outcome thread (threads.locals thread) = some (.ok ())
  failed : ∀ thread failure, (threads.phase thread).failure? = some failure →
    jobs.outcome thread (threads.locals thread) = some (.error failure)

/-- What the moves of a job keep holds of its state, whatever the threads do. -/
theorem locals_invariant {jobs : Jobs Local Failure} {exists_ : Nat → Prop} {locals : Nat → Local}
    (invariant : Nat → Local → Prop) (hBegin : ∀ thread, invariant thread (locals thread))
    (hMove : ∀ thread before after, jobs.move thread before after → invariant thread before →
      invariant thread after)
    {threads : Threads Local Failure} (h : Reached jobs exists_ locals threads) (thread : Nat) :
    invariant thread (threads.locals thread) := by
  induction h with
  | refl => exact hBegin thread
  | tail _ hStep ih =>
      cases hStep with
      | skip | enter | finish | fail | acquire | record | raise | release => exact ih
      | @work mover after hPhase hWork =>
          by_cases hSame : thread = mover
          · subst hSame
            rw [setLocal_self]
            exact hMove _ _ _ hWork ih
          · rw [setLocal_other _ hSame]
            exact ih

/-- The moves of one job while the other threads rest. -/
theorem work_run {jobs : Jobs Local Failure} {exists_ : Nat → Prop}
    {threads : Threads Local Failure} {thread : Nat} {after : Local}
    (hPhase : threads.phase thread = .running)
    (hRun : Relation.ReflTransGen (jobs.move thread) (threads.locals thread) after) :
    Relation.ReflTransGen (Step jobs exists_) threads (threads.setLocal thread after) := by
  induction hRun with
  | refl => rw [setLocal, Function.update_eq_self]
  | @tail middle after _ hMove ih =>
      have hNext : Step jobs exists_ (threads.setLocal thread middle)
          ((threads.setLocal thread middle).setLocal thread after) := by
        have hHere : (threads.setLocal thread middle).phase thread = .running := hPhase
        apply Step.work hHere
        rw [setLocal_self]
        exact hMove
      have hSame : (threads.setLocal thread middle).setLocal thread after =
          threads.setLocal thread after := by
        simp only [setLocal, Function.update_idem]
      exact Relation.ReflTransGen.tail ih (hSame ▸ hNext)

namespace Sound

variable {jobs exists_} {threads threads' : Threads Local Failure}

theorem begin (locals : Nat → Local) : Sound jobs exists_ (begin locals) where
  absent := fun _ _ => rfl
  holder := fun _ => ⟨fun h => (nomatch h), fun h => h.elim⟩
  first_mem := fun _ h => (nomatch h)
  first_some := fun _ _ h => (nomatch h)
  flag := ⟨fun h => (nomatch h), fun ⟨_, _, h⟩ => (nomatch h)⟩
  skipped := fun _ h => (nomatch h)
  finished := fun _ h => (nomatch h)
  failed := fun _ _ h => (nomatch h)

/-- A thread that moves has begun, or begins now. -/
theorem exists_of_phase (h : Sound jobs exists_ threads) {thread : Nat}
    {phase : ThreadPhase Failure} (hPhase : threads.phase thread = phase)
    (hBegun : phase ≠ .created) : exists_ thread := by
  by_contra hAbsent
  exact hBegun (hPhase.symm.trans (h.absent thread hAbsent))

/-- What a change of one thread may do to the lock, the record and the flag. -/
structure Change (jobs : Jobs Local Failure) (before after : Threads Local Failure) (thread : Nat)
    (phase : ThreadPhase Failure) : Prop where
  phase_eq : after.phase = Function.update before.phase thread phase
  locals_eq : after.locals = before.locals
  locked : after.holder = some thread ↔ phase.Locked
  others : ∀ other, other ≠ thread → (after.holder = some other ↔ before.holder = some other)
  first_eq : after.first = before.first ∨
    ∃ failure, phase.recorded? = some failure ∧ after.first = before.first.or (some failure)
  kept : ∀ failure, (before.phase thread).recorded? = some failure →
    phase.recorded? = some failure
  recorded : ∀ failure, phase.recorded? = some failure → after.first ≠ none
  flag_iff : after.flag = true ↔ before.flag = true ∨ ∃ failure, phase.raised? = some failure
  raised : ∀ failure, (before.phase thread).raised? = some failure → phase.raised? = some failure
  skipped : phase = .skipped → after.flag = true
  finished : phase = .finished → jobs.outcome thread (before.locals thread) = some (.ok ())
  failed : ∀ failure, phase.failure? = some failure →
    jobs.outcome thread (before.locals thread) = some (.error failure)

namespace Change

variable {thread : Nat} {phase : ThreadPhase Failure}

/-- Only the thread that moves changes its phase. -/
theorem phase_at (h : Change jobs threads threads' thread phase) (other : Nat) :
    threads'.phase other = if other = thread then phase else threads.phase other := by
  rw [h.phase_eq, Function.update_apply]

/-- What a thread had recorded stays on its record. -/
theorem recorded_kept (h : Change jobs threads threads' thread phase) {other : Nat}
    {failure : Failure} (hOther : (threads.phase other).recorded? = some failure) :
    (threads'.phase other).recorded? = some failure := by
  rw [h.phase_at]
  split
  next hSame =>
    subst hSame
    exact h.kept failure hOther
  · exact hOther

theorem raised_kept (h : Change jobs threads threads' thread phase) {other : Nat}
    {failure : Failure} (hOther : (threads.phase other).raised? = some failure) :
    (threads'.phase other).raised? = some failure := by
  rw [h.phase_at]
  split
  next hSame =>
    subst hSame
    exact h.raised failure hOther
  · exact hOther

theorem first_kept (h : Change jobs threads threads' thread phase) (hSome : threads.first ≠ none) :
    threads'.first ≠ none := by
  rcases h.first_eq with hFirst | ⟨failure, -, hFirst⟩
  · rw [hFirst]
    exact hSome
  · rw [hFirst]
    cases threads.first <;> simp

end Change

/-- A change within its rules keeps the state sound. -/
theorem change (h : Sound jobs exists_ threads) {thread : Nat} (hExists : exists_ thread)
    {phase : ThreadPhase Failure} (hChange : Change jobs threads threads' thread phase) :
    Sound jobs exists_ threads' where
  absent := by
    intro other hAbsent
    have hOther : other ≠ thread := by
      rintro rfl
      exact hAbsent hExists
    rw [hChange.phase_at, if_neg hOther]
    exact h.absent other hAbsent
  holder := by
    intro other
    rw [hChange.phase_at]
    split
    next hSame => rw [hSame, hChange.locked]
    next hOther => rw [hChange.others other hOther, h.holder]
  first_mem := by
    intro failure hSome
    have hEarlier : ∀ failure, threads.first = some failure →
        ∃ other, (threads'.phase other).recorded? = some failure := by
      intro failure hBefore
      obtain ⟨other, hOther⟩ := h.first_mem failure hBefore
      exact ⟨other, hChange.recorded_kept hOther⟩
    rcases hChange.first_eq with hFirst | ⟨own, hOwn, hFirst⟩
    · exact hEarlier failure (hFirst ▸ hSome)
    · cases hBefore : threads.first with
      | none =>
          rw [hFirst, hBefore] at hSome
          cases hSome
          exact ⟨thread, by rw [hChange.phase_at, if_pos rfl, hOwn]⟩
      | some earlier =>
          rw [hFirst, hBefore] at hSome
          exact hEarlier failure (hBefore.trans hSome)
  first_some := by
    intro other failure hOther
    rw [hChange.phase_at] at hOther
    split at hOther
    · exact hChange.recorded failure hOther
    · exact hChange.first_kept (h.first_some other failure hOther)
  flag := by
    refine hChange.flag_iff.trans ⟨?_, ?_⟩
    · rintro (hFlag | ⟨failure, hRaised⟩)
      · obtain ⟨other, failure, hOther⟩ := h.flag.mp hFlag
        exact ⟨other, failure, hChange.raised_kept hOther⟩
      · exact ⟨thread, failure, by rw [hChange.phase_at, if_pos rfl, hRaised]⟩
    · rintro ⟨other, failure, hOther⟩
      rw [hChange.phase_at] at hOther
      split at hOther
      · exact Or.inr ⟨failure, hOther⟩
      · exact Or.inl (h.flag.mpr ⟨other, failure, hOther⟩)
  skipped := by
    intro other hOther
    rw [hChange.phase_at] at hOther
    split at hOther
    · exact hChange.skipped hOther
    · exact hChange.flag_iff.mpr (Or.inl (h.skipped other hOther))
  finished := by
    intro other hOther
    rw [hChange.phase_at] at hOther
    rw [hChange.locals_eq]
    split at hOther
    next hSame =>
      subst hSame
      exact hChange.finished hOther
    · exact h.finished other hOther
  failed := by
    intro other failure hOther
    rw [hChange.phase_at] at hOther
    rw [hChange.locals_eq]
    split at hOther
    next hSame =>
      subst hSame
      exact hChange.failed failure hOther
    · exact h.failed other failure hOther

/-- Only a running thread moves its job, and a running thread has no outcome to
lose. -/
theorem work (h : Sound jobs exists_ threads) {thread : Nat} {after : Local}
    (hPhase : threads.phase thread = .running) :
    Sound jobs exists_ (threads.setLocal thread after) where
  absent := h.absent
  holder := h.holder
  first_mem := h.first_mem
  first_some := h.first_some
  flag := h.flag
  skipped := h.skipped
  finished := by
    intro other hOther
    have hSame : other ≠ thread := by
      rintro rfl
      rw [setLocal_phase, hPhase] at hOther
      cases hOther
    rw [setLocal_other _ hSame]
    exact h.finished other hOther
  failed := by
    intro other failure hOther
    have hSame : other ≠ thread := by
      rintro rfl
      rw [setLocal_phase, hPhase] at hOther
      cases hOther
    rw [setLocal_other _ hSame]
    exact h.failed other failure hOther

/-- A move that has nothing to do with the lock, the record or the flag. -/
theorem plain (h : Sound jobs exists_ threads) {thread : Nat} {phase : ThreadPhase Failure}
    (hBefore : threads.phase thread = .created ∨ threads.phase thread = .running)
    (hLocked : ¬phase.Locked) (hRecorded : phase.recorded? = none)
    (hRaised : phase.raised? = none) (hSkipped : phase = .skipped → threads.flag = true)
    (hFinished : phase = .finished → jobs.outcome thread (threads.locals thread) = some (.ok ()))
    (hFailed : ∀ failure, phase.failure? = some failure →
      jobs.outcome thread (threads.locals thread) = some (.error failure)) :
    Change jobs threads (threads.setPhase thread phase) thread phase where
  phase_eq := rfl
  locals_eq := rfl
  locked := by
    refine (h.holder thread).trans ⟨?_, fun hAfter => absurd hAfter hLocked⟩
    rcases hBefore with hPhase | hPhase <;> rw [hPhase] <;> exact fun hNone => hNone.elim
  others := fun _ _ => Iff.rfl
  first_eq := Or.inl rfl
  kept := by
    rcases hBefore with hPhase | hPhase <;> rw [hPhase] <;> exact fun _ hNone => (nomatch hNone)
  recorded := by simp [hRecorded]
  flag_iff := by simp [hRaised, setPhase]
  raised := by
    rcases hBefore with hPhase | hPhase <;> rw [hPhase] <;> exact fun _ hNone => (nomatch hNone)
  skipped := hSkipped
  finished := hFinished
  failed := hFailed

/-- Every step is a change within the rules. -/
theorem step (h : Sound jobs exists_ threads) (hStep : Step jobs exists_ threads threads') :
    Sound jobs exists_ threads' := by
  cases hStep with
  | @skip thread hExists hPhase hFlag =>
      apply h.change hExists
      apply h.plain (Or.inl hPhase) <;> simp [ThreadPhase.Locked, ThreadPhase.recorded?,
        ThreadPhase.raised?, ThreadPhase.failure?, hFlag]
  | @enter thread hExists hPhase hFlag =>
      apply h.change hExists
      apply h.plain (Or.inl hPhase) <;> simp [ThreadPhase.Locked, ThreadPhase.recorded?,
        ThreadPhase.raised?, ThreadPhase.failure?]
  | work hPhase => exact h.work hPhase
  | @finish thread hPhase hOutcome =>
      apply h.change (h.exists_of_phase hPhase (by simp))
      apply h.plain (Or.inr hPhase) <;> simp [ThreadPhase.Locked, ThreadPhase.recorded?,
        ThreadPhase.raised?, ThreadPhase.failure?, hOutcome]
  | @fail thread failure hPhase hOutcome =>
      apply h.change (h.exists_of_phase hPhase (by simp))
      apply h.plain (Or.inr hPhase) <;> simp [ThreadPhase.Locked, ThreadPhase.recorded?,
        ThreadPhase.raised?, ThreadPhase.failure?, hOutcome]
  | @acquire thread failure hPhase hFree =>
      have hFailed := h.failed thread failure (by rw [hPhase]; rfl)
      have hChange : Change jobs threads { threads.setPhase thread (.recording failure) with
          holder := some thread } thread (.recording failure) := {
        phase_eq := rfl
        locals_eq := rfl
        locked := by simp [ThreadPhase.Locked]
        others := by
          intro other hOther
          simp [hFree, hOther.symm]
        first_eq := Or.inl rfl
        kept := by simp [hPhase, ThreadPhase.recorded?]
        recorded := by simp [ThreadPhase.recorded?]
        flag_iff := by simp [ThreadPhase.raised?, setPhase]
        raised := by simp [hPhase, ThreadPhase.raised?]
        skipped := by simp
        finished := by simp
        failed := by simpa [ThreadPhase.failure?] using hFailed }
      exact h.change (h.exists_of_phase hPhase (by simp)) hChange
  | @record thread failure hPhase =>
      have hFailed := h.failed thread failure (by rw [hPhase]; rfl)
      have hHolder := (h.holder thread).mpr (by rw [hPhase]; trivial)
      have hChange : Change jobs threads { threads.setPhase thread (.raising failure) with
          first := threads.first.or (some failure) } thread (.raising failure) := {
        phase_eq := rfl
        locals_eq := rfl
        locked := by simp [ThreadPhase.Locked, setPhase, hHolder]
        others := fun _ _ => Iff.rfl
        first_eq := Or.inr ⟨failure, rfl, rfl⟩
        kept := by simp [hPhase, ThreadPhase.recorded?]
        recorded := by
          intro other _
          cases threads.first <;> simp
        flag_iff := by simp [ThreadPhase.raised?, setPhase]
        raised := by simp [hPhase, ThreadPhase.raised?]
        skipped := by simp
        finished := by simp
        failed := by simpa [ThreadPhase.failure?] using hFailed }
      exact h.change (h.exists_of_phase hPhase (by simp)) hChange
  | @raise thread failure hPhase =>
      have hFailed := h.failed thread failure (by rw [hPhase]; rfl)
      have hHolder := (h.holder thread).mpr (by rw [hPhase]; trivial)
      have hFirst := h.first_some thread failure (by rw [hPhase]; rfl)
      have hChange : Change jobs threads { threads.setPhase thread (.releasing failure) with
          flag := true } thread (.releasing failure) := {
        phase_eq := rfl
        locals_eq := rfl
        locked := by simp [ThreadPhase.Locked, setPhase, hHolder]
        others := fun _ _ => Iff.rfl
        first_eq := Or.inl rfl
        kept := by simp [hPhase, ThreadPhase.recorded?]
        recorded := fun _ _ => hFirst
        flag_iff := by simp [ThreadPhase.raised?]
        raised := by simp [hPhase, ThreadPhase.raised?]
        skipped := by simp
        finished := by simp
        failed := by simpa [ThreadPhase.failure?] using hFailed }
      exact h.change (h.exists_of_phase hPhase (by simp)) hChange
  | @release thread failure hPhase =>
      have hFailed := h.failed thread failure (by rw [hPhase]; rfl)
      have hHolder := (h.holder thread).mpr (by rw [hPhase]; trivial)
      have hFirst := h.first_some thread failure (by rw [hPhase]; rfl)
      have hFlag := h.flag.mpr ⟨thread, failure, by rw [hPhase]; rfl⟩
      have hChange : Change jobs threads { threads.setPhase thread (.reported failure) with
          holder := none } thread (.reported failure) := {
        phase_eq := rfl
        locals_eq := rfl
        locked := by simp [ThreadPhase.Locked]
        others := by
          intro other hOther
          simp [hHolder, hOther.symm]
        first_eq := Or.inl rfl
        kept := by simp [hPhase, ThreadPhase.recorded?]
        recorded := fun _ _ => hFirst
        flag_iff := by simp [ThreadPhase.raised?, setPhase, hFlag]
        raised := by simp [hPhase, ThreadPhase.raised?]
        skipped := by simp
        finished := by simp
        failed := by simpa [ThreadPhase.failure?] using hFailed }
      exact h.change (h.exists_of_phase hPhase (by simp)) hChange

/-- Every state that is reached is sound. -/
theorem reached {locals : Nat → Local} (h : Reached jobs exists_ locals threads) :
    Sound jobs exists_ threads := by
  induction h with
  | refl => exact Sound.begin locals
  | tail _ hStep ih => exact ih.step hStep

/-- Without a record at the join every job has ended well, and with one some job
has failed so. -/
theorem joined (h : Sound jobs exists_ threads) (hJoined : Joined exists_ threads) :
    (threads.first = none ↔ ∀ thread, exists_ thread → threads.phase thread = .finished) ∧
      ∀ failure, threads.first = some failure →
        ∃ thread, exists_ thread ∧
          jobs.outcome thread (threads.locals thread) = some (.error failure) := by
  have hRecorded : ∀ failure, threads.first = some failure →
      ∃ thread, exists_ thread ∧ (threads.phase thread).recorded? = some failure := by
    intro failure hFirst
    obtain ⟨thread, hThread⟩ := h.first_mem failure hFirst
    refine ⟨thread, ?_, hThread⟩
    apply h.exists_of_phase rfl
    intro hCreated
    rw [hCreated] at hThread
    cases hThread
  refine ⟨⟨fun hNone thread hExists => ?_, fun hFinished => ?_⟩, fun failure hFirst => ?_⟩
  · have hEnded := hJoined thread hExists
    have hUnflagged : threads.flag ≠ true := by
      intro hFlag
      obtain ⟨other, failure, hRaised⟩ := h.flag.mp hFlag
      apply h.first_some other failure ?_ hNone
      cases hPhase : threads.phase other <;> simp_all [ThreadPhase.raised?, ThreadPhase.recorded?]
    cases hPhase : threads.phase thread with
    | finished => rfl
    | skipped => exact absurd (h.skipped thread hPhase) hUnflagged
    | reported failure => exact absurd hNone (h.first_some thread failure (by rw [hPhase]; rfl))
    | created | running | reporting | recording | raising | releasing =>
        rw [hPhase] at hEnded
        exact hEnded.elim
  · by_contra hSome
    obtain ⟨failure, hFirst⟩ := Option.ne_none_iff_exists'.mp hSome
    obtain ⟨thread, hExists, hThread⟩ := hRecorded failure hFirst
    rw [hFinished thread hExists] at hThread
    cases hThread
  · obtain ⟨thread, hExists, hThread⟩ := hRecorded failure hFirst
    refine ⟨thread, hExists, h.failed thread failure ?_⟩
    cases hPhase : threads.phase thread <;> simp_all [ThreadPhase.failure?, ThreadPhase.recorded?]

/-- The lock never stops the threads: until they can be joined one of them can
move, unless all that are left wait for their jobs. -/
theorem moves (h : Sound jobs exists_ threads) (hOpen : ¬Joined exists_ threads)
    (hJobs : ∀ thread, threads.phase thread = .running →
      jobs.outcome thread (threads.locals thread) ≠ none) :
    ∃ threads', Step jobs exists_ threads threads' := by
  simp only [Joined, not_forall] at hOpen
  obtain ⟨thread, hExists, hLeft⟩ := hOpen
  cases hHolder : threads.holder with
  | some owner =>
      have hLocked := (h.holder owner).mp hHolder
      cases hPhase : threads.phase owner with
      | recording failure => exact ⟨_, .record hPhase⟩
      | raising failure => exact ⟨_, .raise hPhase⟩
      | releasing failure => exact ⟨_, .release hPhase⟩
      | created | running | reporting | skipped | finished | reported =>
          rw [hPhase] at hLocked
          exact hLocked.elim
  | none =>
      cases hPhase : threads.phase thread with
      | created =>
          cases hFlag : threads.flag with
          | true => exact ⟨_, .skip hExists hPhase hFlag⟩
          | false => exact ⟨_, .enter hExists hPhase hFlag⟩
      | running =>
          obtain ⟨outcome, hOutcome⟩ := Option.ne_none_iff_exists'.mp (hJobs thread hPhase)
          cases outcome with
          | ok _ => exact ⟨_, .finish hPhase hOutcome⟩
          | error failure => exact ⟨_, .fail hPhase hOutcome⟩
      | reporting failure => exact ⟨_, .acquire hPhase hHolder⟩
      | recording failure => exact ⟨_, .record hPhase⟩
      | raising failure => exact ⟨_, .raise hPhase⟩
      | releasing failure => exact ⟨_, .release hPhase⟩
      | skipped | finished | reported =>
          rw [hPhase] at hLeft
          exact absurd trivial hLeft

end Sound

end Threads

end Interaction
