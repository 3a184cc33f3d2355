import NdsStorage.Server.Service

/-! The main thread of a session. It accepts the connection, which publishes the
identities of the queue pairs, and then serves the bootstrap on queue pair zero
before it starts the workers. -/
namespace NdsStorage.Server

open Bytes Interaction

/-- Calls of the main thread. Transfers are on queue pair zero. -/
inductive SetupCall where
  | publishQps
  | connectQps
  | registerMemory
  | postReceive
  | waitReceive
  | loadBootstrap
  | postWrite (address : UInt64) (key : UInt32) (bytes : Buffer)
  | waitWrite
  | readSlots (address : UInt64) (key length : UInt32)
  | allowedCpus
deriving DecidableEq

abbrev SetupCall.Answer : SetupCall → Type
  | .publishQps | .connectQps | .registerMemory | .postReceive | .waitReceive
  | .postWrite .. | .waitWrite => Except Error Unit
  | .loadBootstrap => Buffer
  | .readSlots .. => Except Error (List StorageSlot)
  | .allowedCpus => Except Error Nat

abbrev SetupProgram := Fallible SetupCall SetupCall.Answer Error

/-- The last steps of accepting a connection: the local identities are sent,
then the queue pairs are connected. -/
def acceptQps : SetupProgram Unit := do
  ExceptT.mk (.ask SetupCall.publishQps)
  ExceptT.mk (.ask SetupCall.connectQps)

/-- Check the bootstrap record and write the capacity to the client. -/
def exchangeBootstrap (bytes : Buffer) (capacity : UInt64) : SetupProgram StorageBootstrap :=
  match deserializeStorageBootstrap bytes,
      serializeStorageNamespace { capacity := capacity } (List.replicate kStorageNamespaceBytes 0) with
  | .ok bootstrap, (.ok (), answer) => do
      ExceptT.mk (.ask SetupCall.registerMemory)
      ExceptT.mk (.ask (SetupCall.postWrite bootstrap.namespaceResponse.address
        bootstrap.namespaceResponse.remoteKey answer))
      ExceptT.mk (.ask SetupCall.waitWrite)
      pure bootstrap
  | _, _ => throw (protocolError "invalid storage bootstrap record")

def slotTableValid (bootstrap : StorageBootstrap) : Bool :=
  bootstrap.slotCount ≠ 0 &&
    bootstrap.slotCount.toNat ≤ 0xffffffff / kStorageSlotDescriptorBytes &&
    bootstrap.slotCount.toNat * kStorageSlotDescriptorBytes ≤ bootstrap.slots.length.toNat

def fetchSlots (bootstrap : StorageBootstrap) (qpCount : Nat) :
    SetupProgram (List StorageSlot) :=
  if !slotTableValid bootstrap then
    throw { code := .invalidArgument, message := "invalid storage slot table" }
  else do
    ExceptT.mk (.ask SetupCall.registerMemory)
    let slots ← ExceptT.mk (.ask (SetupCall.readSlots bootstrap.slots.address
      bootstrap.slots.remoteKey
      (UInt32.ofNat (bootstrap.slotCount.toNat * kStorageSlotDescriptorBytes))))
    if ¬ slots.all (slotValid qpCount) then
      throw (protocolError "storage slot table contains an invalid slot")
    else pure slots

/-- What the main thread hands to the threads it starts. -/
structure Started where
  session : Session
  workers : List Worker
deriving DecidableEq, Repr

/-- The threads are started when every busy worker has a CPU of its own. -/
def startWorkers (capacity : UInt64) (slots : List StorageSlot) (workers : List Worker) :
    SetupProgram Started := do
  let cpuCount ← ExceptT.mk (.ask SetupCall.allowedCpus)
  if cpuCount < (workers.filter fun worker => worker.commandCount ≠ 0).length then
    throw { code := .runtime, message := "server needs one allowed CPU per busy storage QP" }
  else
    pure {
      session := { storageSize := capacity, slots := slots }
      workers := workers }

/-- Everything up to the start of the worker threads. -/
def serveCommands (qpCount : Nat) (capacity : UInt64) (commandCount : Nat) :
    SetupProgram Started :=
  if commandCount = 0 ∨ qpCount = 0 then
    throw {
      code := .invalidArgument
      message := "transport, namespace, and QPs are required" }
  else do
    ExceptT.mk (.ask SetupCall.registerMemory)
    ExceptT.mk (.ask SetupCall.postReceive)
    ExceptT.mk (.ask SetupCall.waitReceive)
    let bytes ← ExceptT.lift (.ask SetupCall.loadBootstrap)
    let bootstrap ← exchangeBootstrap bytes capacity
    let slots ← fetchSlots bootstrap qpCount
    ExceptT.mk (.ask SetupCall.registerMemory)
    let workers ← Fallible.ofExcept
      ((List.range qpCount).mapM (makeWorker slots commandCount qpCount))
    ExceptT.mk (.ask SetupCall.registerMemory)
    startWorkers capacity slots workers

/-- A session from the accepted connection to its workers. -/
def runSession (qpCount : Nat) (capacity : UInt64) (commandCount : Nat) : SetupProgram Started := do
  acceptQps
  serveCommands qpCount capacity commandCount

/-- The bootstrap side of queue pair zero and what the client can see of it. -/
structure Control where
  published : Bool
  posted : Nat
  arrived : Nat
  received : Nat
  bytes : Buffer
  answered : Bool

namespace Control

def initial : Control where
  published := false
  posted := 0
  arrived := 0
  received := 0
  bytes := List.replicate kStorageBootstrapBytes 0
  answered := false

/-- Any call may fail. The slot table is the one in the client's memory. -/
def reply (table : List StorageSlot) (control : Control) :
    (call : SetupCall) → call.Answer → Control → Prop
  | .publishQps, .ok (), control' => control' = { control with published := true }
  | .postReceive, .ok (), control' => control' = { control with posted := control.posted + 1 }
  | .waitReceive, .ok (), control' =>
      control.received < control.arrived ∧
        control' = { control with received := control.received + 1 }
  | .loadBootstrap, bytes, control' => bytes = control.bytes ∧ control' = control
  | .postWrite _ _ _, .ok (), control' => control' = { control with answered := true }
  | .readSlots _ _ _, .ok slots, control' => slots = table ∧ control' = control
  | _, _, control' => control' = control

/-- A successful answer, where one is possible, on a machine with `cpus` CPUs. -/
def respond (table : List StorageSlot) (cpus : Nat) (control : Control) :
    (call : SetupCall) → Option (call.Answer × Control)
  | .publishQps => some (.ok (), { control with published := true })
  | .connectQps => some (.ok (), control)
  | .registerMemory => some (.ok (), control)
  | .postReceive => some (.ok (), { control with posted := control.posted + 1 })
  | .waitReceive =>
      if control.received < control.arrived then
        some (.ok (), { control with received := control.received + 1 })
      else none
  | .loadBootstrap => some (control.bytes, control)
  | .postWrite _ _ _ => some (.ok (), { control with answered := true })
  | .waitWrite => some (.ok (), control)
  | .readSlots _ _ _ => some (.ok table, control)
  | .allowedCpus => some (.ok cpus, control)

/-- An answer that is computed is one of the possible ones. -/
theorem respond_reply {table : List StorageSlot} {cpus : Nat} {control control' : Control}
    {call : SetupCall} {answer : call.Answer}
    (h : control.respond table cpus call = some (answer, control')) :
    control.reply table call answer control' := by
  cases call with
  | waitReceive =>
      obtain ⟨hArrived, hSame⟩ := Option.ite_none_right_eq_some.mp h
      cases hSame
      exact ⟨hArrived, rfl⟩
  | loadBootstrap =>
      cases h
      exact ⟨rfl, rfl⟩
  | readSlots address key length =>
      cases h
      exact ⟨rfl, rfl⟩
  | _ =>
      cases h
      rfl

end Control

/-- The main thread, whatever happens on the control side in between. -/
def setupWorld (table : List StorageSlot) : Environment Control SetupCall SetupCall.Answer where
  drift := fun _ _ => True
  reply := Control.reply table

/-- The workers are those of the slot table. -/
def Built (table : List StorageSlot) (qpCount commandCount : Nat) (started : Started) : Prop :=
  (List.range qpCount).mapM (makeWorker table commandCount qpCount) = .ok started.workers

section Setup

variable {table : List StorageSlot} {qpCount commandCount : Nat} {Result First Second : Type}

/-- A part of the setup that ends with a certain result, if it does. -/
def Yields (table : List StorageSlot) (program : SetupProgram Result) (next : Result → Prop) :
    Prop :=
  ∀ control, Safe (setupWorld table) (fun _ _ => True)
    (Safe.outcome (fun _ _ => True) fun result _ => next result) program.run control

/-- What is known about the result does not depend on the control side. -/
theorem safe_anywhere {program : Program SetupCall SetupCall.Answer (Except Error Result)}
    {next : Result → Prop} {control : Control} (later : Control)
    (h : Safe (setupWorld table) (fun _ _ => True)
      (Safe.outcome (fun _ _ => True) fun result _ => next result) program control) :
    Safe (setupWorld table) (fun _ _ => True)
      (Safe.outcome (fun _ _ => True) fun result _ => next result) program later := by
  cases program with
  | done result =>
      cases result with
      | error error => exact trivial
      | ok value => exact h
  | call request rest => exact fun control' _ => h control' (.single trivial)

theorem Yields.any (program : SetupProgram Result) : Yields table program fun _ => True := by
  intro control
  generalize program.run = body
  induction body generalizing control with
  | done result =>
      cases result with
      | error error => exact trivial
      | ok value => exact trivial
  | call request rest ih =>
      intro control' _
      exact ⟨trivial, fun answer control'' _ => ih answer control''⟩

theorem Yields.seq {middle : First → Prop} {next : Second → Prop} {first : SetupProgram First}
    {rest : First → SetupProgram Second} (hFirst : Yields table first middle)
    (hRest : ∀ value, middle value → Yields table (rest value) next) :
    Yields table (first >>= rest) next := fun control =>
  Safe.seqFallible _ (hFirst control) fun value control hValue => hRest value hValue control

theorem Yields.throw {error : Error} {next : Result → Prop} :
    Yields table (throw error : SetupProgram Result) next := fun _ => trivial

theorem Yields.ite {condition : Prop} [Decidable condition] {next : Result → Prop}
    {first second : SetupProgram Result} (hFirst : Yields table first next)
    (hSecond : Yields table second next) :
    Yields table (if condition then first else second) next := by
  split
  · exact hFirst
  · exact hSecond

theorem readSlots_yields (address : UInt64) (key length : UInt32) :
    Yields table (ExceptT.mk (.ask (SetupCall.readSlots address key length))) (· = table) := by
  intro control control' _
  refine ⟨trivial, fun answer control'' hReply => ?_⟩
  cases answer with
  | error error => exact trivial
  | ok slots => exact hReply.1

theorem fetchSlots_yields (bootstrap : StorageBootstrap) :
    Yields table (fetchSlots bootstrap qpCount) (· = table) := by
  refine Yields.ite Yields.throw ?_
  refine (Yields.any _).seq fun _ _ => ?_
  refine (readSlots_yields _ _ _).seq fun slots hSlots => ?_
  refine Yields.ite Yields.throw ?_
  exact fun _ => hSlots

/-- Whatever the client and the provider do, the workers follow the table. -/
theorem runSession_yields (capacity : UInt64) :
    Yields table (runSession qpCount capacity commandCount)
      (Built table qpCount commandCount) := by
  refine (Yields.any _).seq fun _ _ => ?_
  refine Yields.ite Yields.throw ?_
  refine (Yields.any _).seq fun _ _ => ?_
  refine (Yields.any _).seq fun _ _ => ?_
  refine (Yields.any _).seq fun _ _ => ?_
  refine (Yields.any _).seq fun bytes _ => ?_
  refine (Yields.any _).seq fun bootstrap _ => ?_
  refine (fetchSlots_yields bootstrap).seq fun slots hSlots => ?_
  subst hSlots
  refine (Yields.any _).seq fun _ _ => ?_
  have hWorkers : Yields slots (Fallible.ofExcept
      ((List.range qpCount).mapM (makeWorker slots commandCount qpCount))) fun workers =>
        (List.range qpCount).mapM (makeWorker slots commandCount qpCount) = .ok workers := by
    intro control
    cases hMake : (List.range qpCount).mapM (makeWorker slots commandCount qpCount) with
    | error error => exact trivial
    | ok workers => exact rfl
  refine hWorkers.seq fun workers hBuilt => ?_
  refine (Yields.any _).seq fun _ _ => ?_
  refine (Yields.any _).seq fun _ _ => ?_
  refine Yields.ite Yields.throw ?_
  exact fun _ => hBuilt

/-- A worker that was built for a queue pair with commands has all its slots. -/
theorem Built.worker {started : Started} (h : Built table qpCount commandCount started)
    {queue : Nat} {worker : Worker} (hWorker : started.workers[queue]? = some worker) :
    worker.commandCount = commandShare commandCount qpCount queue ∧
      (worker.commandCount ≠ 0 → worker.slots = slotsOf table queue) := by
  have hEach := forall₂_of_mapM h
  have hMake : makeWorker table commandCount qpCount queue = .ok worker := by
    obtain ⟨hInside, rfl⟩ := List.getElem?_eq_some_iff.mp hWorker
    have hHere := hEach.get (by rw [hEach.length_eq]; exact hInside) hInside
    simpa using hHere
  by_cases hShare : commandShare commandCount qpCount queue = 0
  · rw [makeWorker_idle hShare] at hMake
    cases hMake
    exact ⟨hShare.symm, fun hBusy => absurd rfl hBusy⟩
  · have hWhole := makeWorker_busy hShare hMake
    rw [hWhole]
    exact ⟨rfl, fun _ => rfl⟩

end Setup

end NdsStorage.Server
