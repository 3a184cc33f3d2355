import Mathlib.Data.List.Basic
import Mathlib.Logic.Function.Basic
import Mathlib.Logic.Relation

/-! A memory whose commands take time. The bytes of a command move one by one
while it is pending, in any order and more than once. As long as commands that
are pending together stay apart, the memory cannot be told from one whose
commands take effect at once, in the order of their responses. -/
namespace NdsStorage.Memory

variable {Command Byte Position Value : Type*}

/-- The bytes that commands move. A byte has one position and one direction. -/
structure Accesses (Command Byte Position Value : Type*) where
  command : Byte → Command
  covers : Bool → Byte → Position → Prop
  content : Byte → Value
  covers_unique : ∀ {isRead isRead' byte position position'}, covers isRead byte position →
    covers isRead' byte position' → isRead = isRead' ∧ position = position'

/-- A store whose commands take effect at once. -/
structure AtomicStore (Byte Position Value : Type*) where
  memory : Position → Value
  results : Byte → Option Value

namespace AtomicStore

variable (accesses : Accesses Command Byte Position Value)

open Classical in
/-- The bytes that a command reads are taken before its own bytes are stored. -/
noncomputable def perform (store : AtomicStore Byte Position Value) (command : Command) :
    AtomicStore Byte Position Value where
  memory := fun position =>
    if h : ∃ byte, accesses.command byte = command ∧ accesses.covers false byte position then
      accesses.content h.choose
    else store.memory position
  results := fun byte =>
    if h : accesses.command byte = command ∧ ∃ position, accesses.covers true byte position then
      some (store.memory h.2.choose)
    else store.results byte

/-- The commands one after another, on a memory with some content. -/
noncomputable def replay (memory : Position → Value) (commands : List Command) :
    AtomicStore Byte Position Value :=
  commands.foldl (perform accesses) { memory := memory, results := fun _ => none }

@[simp] theorem replay_nil (memory : Position → Value) :
    (replay accesses memory []).memory = memory := rfl

/-- The last command is performed on what the others have left. -/
theorem replay_append (memory : Position → Value) (commands : List Command) (command : Command) :
    replay accesses memory (commands ++ [command]) =
      perform accesses (replay accesses memory commands) command := by
  simp [replay]

variable {accesses} {store : AtomicStore Byte Position Value} {command : Command}
  {byte : Byte} {position : Position}

/-- A position that one byte of a command stores to holds that byte afterwards. -/
theorem perform_stored (hCommand : accesses.command byte = command)
    (hCovers : accesses.covers false byte position)
    (hOnly : ∀ other, accesses.command other = command → accesses.covers false other position →
      other = byte) : (perform accesses store command).memory position = accesses.content byte := by
  have hSome : ∃ byte, accesses.command byte = command ∧ accesses.covers false byte position :=
    ⟨byte, hCommand, hCovers⟩
  simp only [perform, dif_pos hSome]
  rw [hOnly _ hSome.choose_spec.1 hSome.choose_spec.2]

/-- A position that the command does not write keeps its value. -/
theorem perform_unstored
    (hNone : ∀ byte, accesses.command byte = command → ¬accesses.covers false byte position) :
    (perform accesses store command).memory position = store.memory position := by
  apply dif_neg
  rintro ⟨byte, hCommand, hCovers⟩
  exact hNone byte hCommand hCovers

/-- A byte that is read takes the value of its position. -/
theorem perform_loaded (hCommand : accesses.command byte = command)
    (hCovers : accesses.covers true byte position) :
    (perform accesses store command).results byte = some (store.memory position) := by
  have hSome : accesses.command byte = command ∧
      ∃ position, accesses.covers true byte position := ⟨hCommand, position, hCovers⟩
  simp only [perform, dif_pos hSome]
  rw [(accesses.covers_unique hSome.2.choose_spec hCovers).2]

/-- The bytes of other commands are left alone. -/
theorem perform_kept (hCommand : accesses.command byte ≠ command) :
    (perform accesses store command).results byte = store.results byte := by
  apply dif_neg
  rintro ⟨hSame, -⟩
  exact hCommand hSame

end AtomicStore

/-- The memory while commands overlap, and the order of the responses so far. -/
structure Overlapped (Command Byte Position Value : Type*) where
  memory : Position → Value
  buffers : Byte → Option Value
  landed : Byte → Prop
  invoked : Command → Prop
  responses : List Command

namespace Overlapped

def Pending (state : Overlapped Command Byte Position Value) (command : Command) : Prop :=
  state.invoked command ∧ command ∉ state.responses

variable (accesses : Accesses Command Byte Position Value)

/-- Where a pending byte is stored, no other byte of a pending command is moved. -/
def RaceFree (state : Overlapped Command Byte Position Value) : Prop :=
  ∀ byte other position isRead, state.Pending (accesses.command byte) →
    state.Pending (accesses.command other) → accesses.covers false byte position →
    accesses.covers isRead other position → byte = other

/-- The changes of an overlapped memory, described by the state that they lead
to. -/
inductive Step (state : Overlapped Command Byte Position Value) :
    Overlapped Command Byte Position Value → Prop
  | stutter : Step state state
  | invoke {invoked : Command → Prop} (command : Command)
      (hInvoked : ∀ other, invoked other ↔ other = command ∨ state.invoked other) :
      Step state { state with invoked := invoked }
  | store {memory : Position → Value} {landed : Byte → Prop} {byte : Byte} {position : Position}
      (hPending : state.Pending (accesses.command byte))
      (hCovers : accesses.covers false byte position)
      (hHere : memory position = accesses.content byte)
      (hElsewhere : ∀ other, other ≠ position → memory other = state.memory other)
      (hLanded : ∀ other, landed other ↔ other = byte ∨ state.landed other) :
      Step state { state with memory := memory, landed := landed }
  | load {buffers : Byte → Option Value} {landed : Byte → Prop} {byte : Byte}
      {position : Position} (hPending : state.Pending (accesses.command byte))
      (hCovers : accesses.covers true byte position)
      (hHere : buffers byte = some (state.memory position))
      (hElsewhere : ∀ other, other ≠ byte → buffers other = state.buffers other)
      (hLanded : ∀ other, landed other ↔ other = byte ∨ state.landed other) :
      Step state { state with buffers := buffers, landed := landed }
  | respond {command : Command} (hPending : state.Pending command)
      (hLanded : ∀ byte position isRead, accesses.command byte = command →
        accesses.covers isRead byte position → state.landed byte) :
      Step state { state with responses := state.responses ++ [command] }

/-- The runs in which pending commands stay apart. -/
inductive RaceFreeRun (start : Overlapped Command Byte Position Value) :
    Overlapped Command Byte Position Value → Prop
  | start : RaceFreeRun start start
  | step {state state' : Overlapped Command Byte Position Value}
      (hRun : RaceFreeRun start state) (hStep : Step accesses state state')
      (hFree : RaceFree accesses state') : RaceFreeRun start state'

/-- An overlapped memory against the atomic store that has performed the
commands with a response. -/
structure Refines (memory : Position → Value)
    (state : Overlapped Command Byte Position Value) : Prop where
  invoked : ∀ byte, state.landed byte → state.invoked (accesses.command byte)
  quiet : ∀ position,
    (∀ byte, state.Pending (accesses.command byte) → ¬accesses.covers false byte position) →
    state.memory position = (AtomicStore.replay accesses memory state.responses).memory position
  stored : ∀ byte position, state.Pending (accesses.command byte) → state.landed byte →
    accesses.covers false byte position → state.memory position = accesses.content byte
  loaded : ∀ byte position, state.Pending (accesses.command byte) → state.landed byte →
    accesses.covers true byte position → state.buffers byte =
      some ((AtomicStore.replay accesses memory state.responses).memory position)
  answered : ∀ byte position, accesses.command byte ∈ state.responses →
    accesses.covers true byte position → state.buffers byte =
      (AtomicStore.replay accesses memory state.responses).results byte

variable {accesses} {memory : Position → Value}
  {state state' : Overlapped Command Byte Position Value}

/-- No pending command stores where a pending byte is read. -/
theorem RaceFree.unstored (hFree : state.RaceFree accesses) {byte : Byte} {position : Position}
    (hPending : state.Pending (accesses.command byte))
    (hCovers : accesses.covers true byte position) :
    ∀ other, state.Pending (accesses.command other) → ¬accesses.covers false other position := by
  intro other hOther hStored
  obtain rfl := hFree other byte position true hOther hPending hStored hCovers
  exact absurd (accesses.covers_unique hStored hCovers).1 Bool.noConfusion

namespace Refines

theorem begin (hNone : ∀ command, ¬state.invoked command) (hEmpty : state.responses = [])
    (hLanded : ∀ byte, ¬state.landed byte) : Refines accesses state.memory state where
  invoked := fun byte h => absurd h (hLanded byte)
  quiet := fun position _ => by rw [hEmpty, AtomicStore.replay_nil]
  stored := fun byte _ hPending => absurd hPending.1 (hNone _)
  loaded := fun byte _ hPending => absurd hPending.1 (hNone _)
  answered := fun byte _ h => by simp [hEmpty] at h

theorem invoke (h : Refines accesses memory state) {invoked : Command → Prop} {command : Command}
    (hInvoked : ∀ other, invoked other ↔ other = command ∨ state.invoked other) :
    Refines accesses memory { state with invoked := invoked } := by
  have hPending : ∀ other, state.Pending other →
      Pending { state with invoked := invoked } other := fun other hOther =>
    ⟨(hInvoked other).mpr (Or.inr hOther.1), hOther.2⟩
  have hBefore : ∀ byte, state.landed byte →
      Pending { state with invoked := invoked } (accesses.command byte) →
      state.Pending (accesses.command byte) := fun byte hLanded hAfter =>
    ⟨h.invoked byte hLanded, hAfter.2⟩
  exact {
    invoked := fun byte hLanded => (hInvoked _).mpr (Or.inr (h.invoked byte hLanded))
    quiet := fun position hQuiet => h.quiet position fun byte hByte =>
      hQuiet byte (hPending _ hByte)
    stored := fun byte position hByte hLanded =>
      h.stored byte position (hBefore byte hLanded hByte) hLanded
    loaded := fun byte position hByte hLanded =>
      h.loaded byte position (hBefore byte hLanded hByte) hLanded
    answered := h.answered }

/-- A byte that lands writes what its command would write. -/
theorem store (h : Refines accesses memory state) (hFree : state.RaceFree accesses)
    {after : Position → Value} {landed : Byte → Prop} {byte : Byte} {position : Position}
    (hPending : state.Pending (accesses.command byte))
    (hCovers : accesses.covers false byte position)
    (hHere : after position = accesses.content byte)
    (hElsewhere : ∀ other, other ≠ position → after other = state.memory other)
    (hLanded : ∀ other, landed other ↔ other = byte ∨ state.landed other) :
    Refines accesses memory { state with memory := after, landed := landed } where
  invoked := by
    intro other hOther
    rcases (hLanded other).mp hOther with rfl | hBefore
    · exact hPending.1
    · exact h.invoked other hBefore
  quiet := by
    intro place hQuiet
    have hOther : place ≠ position := by
      rintro rfl
      exact hQuiet byte hPending hCovers
    exact (hElsewhere place hOther).trans (h.quiet place hQuiet)
  stored := by
    intro other place hOther hMoved hPlace
    by_cases hSame : place = position
    · subst hSame
      obtain rfl := hFree byte other place false hPending hOther hCovers hPlace
      exact hHere
    · apply (hElsewhere place hSame).trans
      rcases (hLanded other).mp hMoved with rfl | hBefore
      · exact absurd (accesses.covers_unique hPlace hCovers).2 hSame
      · exact h.stored other place hOther hBefore hPlace
  loaded := by
    intro other place hOther hMoved hPlace
    rcases (hLanded other).mp hMoved with rfl | hBefore
    · exact absurd (accesses.covers_unique hPlace hCovers).1 Bool.noConfusion
    · exact h.loaded other place hOther hBefore hPlace
  answered := h.answered

/-- The position of a byte that is read is quiet, so the memory holds there
what the atomic store does. -/
theorem load (h : Refines accesses memory state) (hFree : state.RaceFree accesses)
    {buffers : Byte → Option Value} {landed : Byte → Prop} {byte : Byte} {position : Position}
    (hPending : state.Pending (accesses.command byte))
    (hCovers : accesses.covers true byte position)
    (hHere : buffers byte = some (state.memory position))
    (hElsewhere : ∀ other, other ≠ byte → buffers other = state.buffers other)
    (hLanded : ∀ other, landed other ↔ other = byte ∨ state.landed other) :
    Refines accesses memory { state with buffers := buffers, landed := landed } where
  invoked := by
    intro other hOther
    rcases (hLanded other).mp hOther with rfl | hBefore
    · exact hPending.1
    · exact h.invoked other hBefore
  quiet := h.quiet
  stored := by
    intro other place hOther hMoved hPlace
    rcases (hLanded other).mp hMoved with rfl | hBefore
    · exact absurd (accesses.covers_unique hPlace hCovers).1 Bool.noConfusion
    · exact h.stored other place hOther hBefore hPlace
  loaded := by
    intro other place hOther hMoved hPlace
    by_cases hSame : other = byte
    · subst hSame
      obtain rfl := (accesses.covers_unique hPlace hCovers).2
      exact hHere.trans (congrArg some (h.quiet place (hFree.unstored hPending hCovers)))
    · apply (hElsewhere other hSame).trans
      exact h.loaded other place hOther (((hLanded other).mp hMoved).resolve_left hSame) hPlace
  answered := by
    intro other place hOther hPlace
    have hSame : other ≠ byte := by
      rintro rfl
      exact hPending.2 hOther
    exact (hElsewhere other hSame).trans <|
      h.answered other place hOther hPlace

/-- The command takes effect in the atomic store when it responds. Its bytes
have all landed by then, and nothing that is still pending depends on them. -/
theorem respond (h : Refines accesses memory state) (hFree : state.RaceFree accesses)
    {command : Command} (hPending : state.Pending command)
    (hLanded : ∀ byte position isRead, accesses.command byte = command →
      accesses.covers isRead byte position → state.landed byte) :
    Refines accesses memory { state with responses := state.responses ++ [command] } := by
  have hBefore : ∀ other,
      Pending { state with responses := state.responses ++ [command] } other →
      state.Pending other ∧ other ≠ command := by
    intro other hOther
    have hAbsent := hOther.2
    simp only [List.mem_append, List.mem_singleton, not_or] at hAbsent
    exact ⟨⟨hOther.1, hAbsent.1⟩, hAbsent.2⟩
  exact {
    invoked := h.invoked
    quiet := by
      intro position hQuiet
      simp only [AtomicStore.replay_append]
      by_cases hOwn : ∃ byte, accesses.command byte = command ∧
          accesses.covers false byte position
      · obtain ⟨byte, hByte, hCovers⟩ := hOwn
        rw [AtomicStore.perform_stored hByte hCovers]
        · exact h.stored byte position (hByte ▸ hPending)
            (hLanded byte position false hByte hCovers) hCovers
        · intro other hOther hSame
          exact hFree other byte position false (hOther ▸ hPending) (hByte ▸ hPending) hSame
            hCovers
      · rw [AtomicStore.perform_unstored fun byte hByte hCovers => hOwn ⟨byte, hByte, hCovers⟩]
        apply h.quiet
        intro byte hByte hCovers
        by_cases hSame : accesses.command byte = command
        · exact hOwn ⟨byte, hSame, hCovers⟩
        · apply hQuiet byte ⟨hByte.1, ?_⟩ hCovers
          simp only [List.mem_append, List.mem_singleton, not_or]
          exact ⟨hByte.2, hSame⟩
    stored := fun byte position hByte => h.stored byte position (hBefore _ hByte).1
    loaded := by
      intro byte position hByte hMoved hCovers
      simp only [AtomicStore.replay_append]
      rw [AtomicStore.perform_unstored]
      · exact h.loaded byte position (hBefore _ hByte).1 hMoved hCovers
      · intro other hOther
        exact hFree.unstored (hBefore _ hByte).1 hCovers other (hOther ▸ hPending)
    answered := by
      intro byte position hByte hCovers
      simp only [AtomicStore.replay_append]
      by_cases hSame : accesses.command byte = command
      · rw [AtomicStore.perform_loaded hSame hCovers]
        exact h.loaded byte position (hSame ▸ hPending)
          (hLanded byte position true hSame hCovers) hCovers
      · rw [AtomicStore.perform_kept hSame]
        simp only [List.mem_append, List.mem_singleton, hSame, or_false] at hByte
        exact h.answered byte position hByte hCovers }

/-- Every step keeps the state that of the commands in their order. -/
theorem step (h : Refines accesses memory state) (hFree : state.RaceFree accesses)
    (hStep : Step accesses state state') : Refines accesses memory state' := by
  cases hStep with
  | stutter => exact h
  | invoke _ hInvoked => exact h.invoke hInvoked
  | store hPending hCovers hHere hElsewhere hLanded =>
      exact h.store hFree hPending hCovers hHere hElsewhere hLanded
  | load hPending hCovers hHere hElsewhere hLanded =>
      exact h.load hFree hPending hCovers hHere hElsewhere hLanded
  | respond hPending hLanded => exact h.respond hFree hPending hLanded

/-- A race-free run is a run of the atomic store. -/
theorem run {start : Overlapped Command Byte Position Value} (h : Refines accesses memory start)
    (hStart : start.RaceFree accesses) (hRun : RaceFreeRun accesses start state) :
    Refines accesses memory state ∧ state.RaceFree accesses := by
  induction hRun with
  | start => exact ⟨h, hStart⟩
  | step _ hStep hFree ih => exact ⟨ih.1.step ih.2 hStep, hFree⟩

end Refines

end Overlapped

end NdsStorage.Memory
