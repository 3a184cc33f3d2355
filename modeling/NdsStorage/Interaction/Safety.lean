import NdsStorage.Interaction.Program

/-! A program logic for interactive programs. `Safe` says that every request
meets its precondition and every return meets its postcondition, whatever the
environment answers and however it drifts in between. It is an invariant of
configurations, so it also serves as the per-thread part of an invariant over
interleaved programs. -/
namespace Interaction

variable {State Request : Type} {Answer : Request → Type}
variable {Result First Second Failure Item Output : Type}

namespace Environment

/-- Any number of spontaneous moves. -/
def Drifts (world : Environment State Request Answer) : State → State → Prop :=
  Relation.ReflTransGen world.drift

/-- An assertion that spontaneous moves cannot falsify. -/
def Stable (world : Environment State Request Answer) (assertion : State → Prop) : Prop :=
  ∀ state state', world.drift state state' → assertion state → assertion state'

variable {world : Environment State Request Answer}

/-- What is stable survives any number of drifts. -/
theorem Stable.drifts {assertion : State → Prop} (hStable : world.Stable assertion)
    {state state' : State} (hDrifts : world.Drifts state state') (h : assertion state) :
    assertion state' := by
  induction hDrifts with
  | refl => exact h
  | tail _ hDrift ih => exact hStable _ _ hDrift ih

end Environment

open Environment

/-- Every request is issued in a state that satisfies `pre` and every return
happens in a state that satisfies `post`. Drift may precede each request. -/
def Safe (world : Environment State Request Answer) (pre : State → Request → Prop)
    (post : Result → State → Prop) : Program Request Answer Result → State → Prop
  | .done result, state => post result state
  | .call request next, state => ∀ state', world.Drifts state state' →
      pre state' request ∧ ∀ answer state'', world.reply state' request answer state'' →
        Safe world pre post (next answer) state''

variable {world : Environment State Request Answer} {pre : State → Request → Prop}

namespace Safe

theorem weaken {post post' : Result → State → Prop} {program : Program Request Answer Result}
    {state : State} (h : Safe world pre post program state)
    (hPost : ∀ result state, post result state → post' result state) :
    Safe world pre post' program state := by
  induction program generalizing state with
  | done result => exact hPost _ _ h
  | call request next ih =>
      intro state' hDrifts
      obtain ⟨hPre, hNext⟩ := h state' hDrifts
      exact ⟨hPre, fun answer state'' hReply => ih answer (hNext answer state'' hReply)⟩

theorem bind {post : Second → State → Prop} {first : Program Request Answer First}
    {next : First → Program Request Answer Second} {state : State}
    (h : Safe world pre (fun value => Safe world pre post (next value)) first state) :
    Safe world pre post (first.bind next) state := by
  induction first generalizing state with
  | done result => exact h
  | call request rest ih =>
      intro state' hDrifts
      obtain ⟨hPre, hNext⟩ := h state' hDrifts
      exact ⟨hPre, fun answer state'' hReply => ih answer (hNext answer state'' hReply)⟩

/-- A request made under a stable assertion keeps it until the answer. -/
theorem call {post : Result → State → Prop} {request : Request}
    {next : Answer request → Program Request Answer Result} {state : State}
    (assertion : State → Prop) (hStable : world.Stable assertion) (h : assertion state)
    (hPre : ∀ state, assertion state → pre state request)
    (hReply : ∀ state answer state', assertion state → world.reply state request answer state' →
      Safe world pre post (next answer) state') :
    Safe world pre post (.call request next) state := by
  intro state' hDrifts
  have hHere := hStable.drifts hDrifts h
  exact ⟨hPre state' hHere, fun answer state'' => hReply state' answer state'' hHere⟩

/-- The postcondition of a fallible program: `stop` for failures, `next` for values. -/
def outcome (stop : Failure → State → Prop) (next : First → State → Prop) :
    Except Failure First → State → Prop
  | .ok value, state => next value state
  | .error failure, state => stop failure state

variable {stop : Failure → State → Prop}

/-- The rule of composition for programs that may fail. -/
theorem bindFallible {next : Second → State → Prop}
    {first : Fallible Request Answer Failure First}
    {rest : First → Fallible Request Answer Failure Second} {state : State}
    (h : Safe world pre (outcome stop fun value => Safe world pre (outcome stop next)
      (rest value).run) first.run state) :
    Safe world pre (outcome stop next) (first >>= rest).run state := by
  apply bind
  apply weaken h
  intro result state hResult
  cases result with
  | ok value => exact hResult
  | error failure => exact hResult

theorem weakenValue {next next' : First → State → Prop}
    {program : Fallible Request Answer Failure First} {state : State}
    (h : Safe world pre (outcome stop next) program.run state)
    (hNext : ∀ value state, next value state → next' value state) :
    Safe world pre (outcome stop next') program.run state := by
  apply weaken h
  intro result state hResult
  cases result with
  | ok value => exact hNext value state hResult
  | error failure => exact hResult

/-- Sequencing through an intermediate assertion. -/
theorem seqFallible (middle : First → State → Prop) {next : Second → State → Prop}
    {first : Fallible Request Answer Failure First}
    {rest : First → Fallible Request Answer Failure Second} {state : State}
    (hFirst : Safe world pre (outcome stop middle) first.run state)
    (hRest : ∀ value state, middle value state →
      Safe world pre (outcome stop next) (rest value).run state) :
    Safe world pre (outcome stop next) (first >>= rest).run state :=
  bindFallible (weakenValue hFirst hRest)

/-- The loop rule. The invariant speaks of the outputs produced so far, so an
item's position is the number of outputs before it. -/
theorem collect (invariant : List Output → State → Prop)
    {body : Item → Fallible Request Answer Failure Output} (items : List Item)
    (hBody : ∀ outputs item state, items[outputs.length]? = some item → invariant outputs state →
      Safe world pre (outcome stop fun output => invariant (outputs ++ [output]))
        (body item).run state)
    {state : State} (h : invariant [] state) :
    Safe world pre (outcome stop fun outputs state =>
      outputs.length = items.length ∧ invariant outputs state)
      (Fallible.collect body items).run state := by
  induction items generalizing invariant state with
  | nil => exact ⟨rfl, h⟩
  | cons item rest ih =>
      refine seqFallible _ (hBody [] item state rfl h) fun output state hOutput => ?_
      refine seqFallible _ (ih (fun outputs => invariant (output :: outputs)) ?_ hOutput) ?_
      · intro outputs next state hNext hInvariant
        exact hBody (output :: outputs) next state hNext hInvariant
      · intro outputs state hOutputs
        exact ⟨congrArg Nat.succ hOutputs.1, hOutputs.2⟩

end Safe

/-- Safety is kept by every move of a run, when drift keeps the postcondition. -/
theorem Safe.step {post : Result → State → Prop}
    (hStable : ∀ result, world.Stable (post result))
    {start finish : Program Request Answer Result × State}
    (hStep : world.Step start finish) (h : Safe world pre post start.1 start.2) :
    Safe world pre post finish.1 finish.2 := by
  cases hStep with
  | @drift program state state' hDrift =>
      cases program with
      | done result => exact hStable result state state' hDrift h
      | call request next =>
          intro state'' hDrifts
          exact h state'' (Relation.ReflTransGen.head hDrift hDrifts)
  | reply hReply => exact (h _ Relation.ReflTransGen.refl).2 _ _ hReply

/-- Safety passes to every configuration that is reached. -/
theorem Safe.reaches {post : Result → State → Prop}
    (hStable : ∀ result, world.Stable (post result))
    {start finish : Program Request Answer Result × State}
    (hReaches : world.Reaches start finish) (h : Safe world pre post start.1 start.2) :
    Safe world pre post finish.1 finish.2 := by
  induction hReaches with
  | refl => exact h
  | tail _ hStep ih => exact Safe.step hStable hStep ih

/-- What every permitted request preserves holds throughout a safe run. -/
theorem Safe.always {post : Result → State → Prop} {invariant : State → Prop}
    (hStable : ∀ result, world.Stable (post result)) (hDrift : world.Stable invariant)
    (hReply : ∀ state request answer state', invariant state → pre state request →
      world.reply state request answer state' → invariant state')
    {start finish : Program Request Answer Result × State}
    (hReaches : world.Reaches start finish) (hSafe : Safe world pre post start.1 start.2)
    (h : invariant start.2) : invariant finish.2 := by
  induction hReaches with
  | refl => exact h
  | @tail middle last hBefore hStep ih =>
      have hMiddle := Safe.reaches hStable hBefore hSafe
      cases hStep with
      | drift hMove => exact hDrift _ _ hMove ih
      | reply hAnswer =>
          exact hReply _ _ _ _ ih (hMiddle _ Relation.ReflTransGen.refl).1 hAnswer

end Interaction
