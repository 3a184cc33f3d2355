import NdsStorage.Interaction.Safety

/-! Programs that make only some of the requests, whatever they are answered.
What is required of the other requests holds for such a program without a
look at the state. -/
namespace Interaction

variable {State Request : Type} {Answer : Request → Type}
variable {Result First Second Failure Item Output : Type}

/-- Every request that the program may ever make is allowed. -/
def Makes (allowed : Request → Prop) : Program Request Answer Result → Prop
  | .done _ => True
  | .call request next => allowed request ∧ ∀ answer, Makes allowed (next answer)

variable {allowed : Request → Prop}

namespace Makes

/-- A composition makes the requests of its parts. -/
theorem bind {first : Program Request Answer First}
    {next : First → Program Request Answer Second} (hFirst : Makes allowed first)
    (hNext : ∀ value, Makes allowed (next value)) : Makes allowed (first.bind next) := by
  induction first with
  | done value => exact hNext value
  | call request rest ih => exact ⟨hFirst.1, fun answer => ih answer (hFirst.2 answer)⟩

theorem ask {request : Request} (h : allowed request) :
    Makes allowed (Program.ask request : Program Request Answer (Answer request)) :=
  ⟨h, fun _ => trivial⟩

theorem seqFallible {first : Fallible Request Answer Failure First}
    {rest : First → Fallible Request Answer Failure Second} (hFirst : Makes allowed first.run)
    (hRest : ∀ value, Makes allowed (rest value).run) : Makes allowed (first >>= rest).run := by
  apply bind hFirst
  intro result
  cases result with
  | ok value => exact hRest value
  | error failure => exact trivial

/-- A loop makes no other requests than its body. -/
theorem collect {body : Item → Fallible Request Answer Failure Output} (items : List Item)
    (hBody : ∀ item, Makes allowed (body item).run) :
    Makes allowed (Fallible.collect body items).run := by
  induction items with
  | nil => exact trivial
  | cons item items ih =>
      apply seqFallible (hBody item)
      intro output
      apply seqFallible ih
      intro outputs
      exact trivial

end Makes

/-- A safe program stays safe for another requirement that all its requests meet. -/
theorem Safe.only {world : Environment State Request Answer} {pre pre' : State → Request → Prop}
    {post : Result → State → Prop} {program : Program Request Answer Result} {state : State}
    (h : Safe world pre post program state) (hMakes : Makes allowed program)
    (hPre : ∀ state request, allowed request → pre' state request) :
    Safe world pre' post program state := by
  induction program generalizing state with
  | done result => exact h
  | call request next ih =>
      intro state' hDrifts
      refine ⟨hPre state' request hMakes.1, fun answer state'' hReply => ?_⟩
      exact ih answer ((h state' hDrifts).2 answer state'' hReply) (hMakes.2 answer)

/-- The same when only the second of two parts is known to make such requests. -/
theorem Safe.seqOnly {world : Environment State Request Answer}
    {pre pre' : State → Request → Prop} {post : Except Failure Second → State → Prop}
    {first : Fallible Request Answer Failure First}
    {rest : First → Fallible Request Answer Failure Second} {state : State}
    (h : Safe world pre post (first >>= rest).run state)
    (hFirst : Safe world pre' (fun _ _ => True) first.run state)
    (hRest : ∀ value, Makes allowed (rest value).run)
    (hPre : ∀ state request, allowed request → pre' state request) :
    Safe world pre' post (first >>= rest).run state := by
  change Safe world pre post (first.run.bind _) state at h
  change Safe world pre' post (first.run.bind _) state
  generalize first.run = program at h hFirst
  induction program generalizing state with
  | done result =>
      cases result with
      | ok value => exact h.only (hRest value) hPre
      | error failure => exact h
  | call request next ih =>
      intro state' hDrifts
      refine ⟨(hFirst state' hDrifts).1, fun answer state'' hReply => ?_⟩
      exact ih answer ((h state' hDrifts).2 answer state'' hReply)
        ((hFirst state' hDrifts).2 answer state'' hReply)

end Interaction
