import Mathlib.Logic.Relation

/-! Sequential code that only touches the world through calls. A program is a
finite tree: it either returns or makes a request and continues with the
answer. The environment decides which answers are possible, so every loop of
the modeled code is a plain recursive definition that produces a tree. -/
namespace Interaction

/-- Code that issues requests one at a time and finally returns a result. -/
inductive Program (Request : Type) (Answer : Request → Type) (Result : Type) where
  | done (result : Result)
  | call (request : Request) (next : Answer request → Program Request Answer Result)

namespace Program

variable {Request : Type} {Answer : Request → Type} {First Second : Type}

/-- Sequential composition, grafting the continuation at every return. -/
def bind : Program Request Answer First → (First → Program Request Answer Second) →
    Program Request Answer Second
  | .done result, next => next result
  | .call request rest, next => .call request fun answer => (rest answer).bind next

instance : Monad (Program Request Answer) where
  pure := .done
  bind := bind

/-- The result when every request gets the answer of a fixed function. -/
def replay (answer : (request : Request) → Answer request) : Program Request Answer First → First
  | .done result => result
  | .call request next => (next (answer request)).replay answer

/-- The requests that are then made, in order. -/
def requests (answer : (request : Request) → Answer request) :
    Program Request Answer First → List Request
  | .done _ => []
  | .call request next => request :: (next (answer request)).requests answer

theorem replay_bind (answer : (request : Request) → Answer request)
    (program : Program Request Answer First) (next : First → Program Request Answer Second) :
    (program.bind next).replay answer = (next (program.replay answer)).replay answer := by
  induction program with
  | done result => rfl
  | call request rest ih => exact ih (answer request)

/-- The requests of a composition are those of its parts, in order. -/
theorem requests_bind (answer : (request : Request) → Answer request)
    (program : Program Request Answer First) (next : First → Program Request Answer Second) :
    (program.bind next).requests answer =
      program.requests answer ++ (next (program.replay answer)).requests answer := by
  induction program with
  | done result => rfl
  | call request rest ih =>
      rw [bind, requests, requests, replay, ih (answer request), List.cons_append]

/-- Run against a world that answers each request and changes as it does. -/
def perform {State : Type} (handle : (request : Request) → State → Answer request × State) :
    Program Request Answer First → State → First × State
  | .done result, state => (result, state)
  | .call request next, state =>
      let answered := handle request state
      (next answered.1).perform handle answered.2

/-- One request whose answer is the result. -/
def ask (request : Request) : Program Request Answer (Answer request) :=
  .call request .done

end Program

/-- Programs that may stop early with a failure, as code with checked returns does. -/
abbrev Fallible (Request : Type) (Answer : Request → Type) (Failure Result : Type) :=
  ExceptT Failure (Program Request Answer) Result

namespace Fallible

variable {Request : Type} {Answer : Request → Type} {First Failure Item : Type}

/-- Return a computed outcome, stopping on its failure. -/
def ofExcept (outcome : Except Failure First) : Fallible Request Answer Failure First :=
  ExceptT.mk (.done outcome)

/-- Run a body for each item in order and collect the outputs. The first
failure stops the loop. -/
def collect (body : Item → Fallible Request Answer Failure First) :
    List Item → Fallible Request Answer Failure (List First)
  | [] => pure []
  | item :: rest => do
      let output ← body item
      let outputs ← collect body rest
      pure (output :: outputs)

end Fallible

/-- The world a program runs in. `drift` is what may happen on its own at any
moment, and `reply` relates a request to its possible answers and effects. -/
structure Environment (State Request : Type) (Answer : Request → Type) where
  drift : State → State → Prop
  reply : State → (request : Request) → Answer request → State → Prop

variable {State Request : Type} {Answer : Request → Type} {Result : Type}

/-- A program together with the state of its world moves by drift or by an answer. -/
inductive Environment.Step (world : Environment State Request Answer) :
    Program Request Answer Result × State → Program Request Answer Result × State → Prop
  | drift {program : Program Request Answer Result} {state state' : State}
      (hDrift : world.drift state state') :
      Environment.Step world (program, state) (program, state')
  | reply {request : Request} {next : Answer request → Program Request Answer Result}
      {state state' : State} {answer : Answer request}
      (hReply : world.reply state request answer state') :
      Environment.Step world (.call request next, state) (next answer, state')

/-- Every configuration a run can reach, in any order of drift and answers. -/
def Environment.Reaches (world : Environment State Request Answer)
    (start finish : Program Request Answer Result × State) : Prop :=
  Relation.ReflTransGen world.Step start finish

section Runs

variable {world : Environment State Request Answer} {First Second Failure : Type}
  {state state' : State}

/-- A run of the first part is a run of the composition. -/
theorem Environment.Reaches.bind {first first' : Program Request Answer First}
    (h : world.Reaches (first, state) (first', state'))
    (next : First → Program Request Answer Second) :
    world.Reaches (first.bind next, state) (first'.bind next, state') := by
  refine Relation.ReflTransGen.lift
    (fun config : Program Request Answer First × State => (config.1.bind next, config.2)) ?_ _ _ h
  rintro _ _ (hDrift | hReply)
  · exact .drift hDrift
  · exact .reply hReply

/-- Once the first part has returned a value, the second part starts with it. -/
theorem Environment.Reaches.bindFallible {first : Fallible Request Answer Failure First}
    {value : First} (h : world.Reaches (first.run, state) (.done (.ok value), state'))
    (rest : First → Fallible Request Answer Failure Second) :
    world.Reaches ((first >>= rest).run, state) ((rest value).run, state') :=
  h.bind _

/-- A request of the first part is a request of the composition. -/
theorem Environment.Reaches.callFallible {first : Fallible Request Answer Failure First}
    {request : Request} {next : Answer request → Program Request Answer (Except Failure First)}
    (h : world.Reaches (first.run, state) (.call request next, state'))
    (rest : First → Fallible Request Answer Failure Second) :
    ∃ next', world.Reaches ((first >>= rest).run, state) (.call request next', state') :=
  ⟨_, h.bind _⟩

/-- A request of the first round of a loop is a request of the loop. -/
theorem Environment.Reaches.collectHead {Item : Type}
    {body : Item → Fallible Request Answer Failure First} {item : Item}
    {request : Request} {next : Answer request → Program Request Answer (Except Failure First)}
    (h : world.Reaches ((body item).run, state) (.call request next, state'))
    (items : List Item) :
    ∃ next', world.Reaches ((Fallible.collect body (item :: items)).run, state)
      (.call request next', state') :=
  h.callFallible _

/-- So is one of a later round, once the first round has returned. -/
theorem Environment.Reaches.collectTail {Item : Type}
    {body : Item → Fallible Request Answer Failure First} {item : Item} {items : List Item}
    {value : First} {state'' : State} {request : Request}
    {next : Answer request → Program Request Answer (Except Failure (List First))}
    (hFirst : world.Reaches ((body item).run, state) (.done (.ok value), state'))
    (hRest : world.Reaches ((Fallible.collect body items).run, state')
      (.call request next, state'')) :
    ∃ next', world.Reaches ((Fallible.collect body (item :: items)).run, state)
      (.call request next', state'') := by
  obtain ⟨next', hNext⟩ := hRest.callFallible fun values => pure (value :: values)
  exact ⟨next', (hFirst.bindFallible _).trans hNext⟩

theorem Environment.Reaches.ask {request : Request} {answer : Answer request}
    (hReply : world.reply state request answer state') :
    world.Reaches (Program.ask request, state) (.done answer, state') :=
  Relation.ReflTransGen.single (.reply hReply)

end Runs

end Interaction
