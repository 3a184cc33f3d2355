import Mathlib.Logic.Function.Basic
import NdsStorage.Server.Worker

/-! The queue pair of one worker and the memory it is registered with. Receives
are consumed in posting order, a successful wait means that the request it
names has completed, and send requests complete in posting order, so that one
polled completion covers every earlier request. Messages arrive on their own
whenever a posted receive is free. Next to the physical state the fabric keeps
a history of what was done for each received command. -/
namespace NdsStorage.Server

open Bytes Interaction

/-- The depth every queue pair is created with, for sends and for receives. -/
def kQpDepth : Nat := 128

/-- What was done for one command, in order. -/
inductive Event where
  | loaded (slot : Nat) (bytes : Buffer)
  | fetchPosted (address : UInt64) (key length : UInt32)
  | fetchWaited
  | payloadPosted (opcode : TransferOpcode) (requests : List TransferRequest)
  | payloadWaited
  | completionPosted (address : UInt64) (key length : UInt32) (bytes : Buffer)
  | completionWaited
deriving DecidableEq, Repr

inductive PostKind where
  | fetch (length : UInt32) | payload (opcode : TransferOpcode) | completion
deriving DecidableEq, Repr

/-- The command and slot a work request was posted for. -/
structure Post where
  command : Nat
  slot : Nat
  kind : PostKind
deriving DecidableEq, Repr

/-- The peer's contribution to a run: the messages it sends on the queue pair,
in order, and the descriptor array found in its memory when the fetch for a
command is served. -/
structure Traffic where
  message : Nat → Buffer
  descriptors : Nat → Buffer
  message_length : ∀ command, (message command).length = kStorageCommandBytes

structure Fabric where
  receives : List Nat
  arrived : Nat
  received : Nat
  current : Nat → Nat
  commandBytes : Nat → Buffer
  entryBytes : Nat → Buffer
  completionBytes : Nat → Buffer
  sent : Nat
  retired : Nat
  posts : Nat → Post
  history : Nat → List Event
  refused : Option (Nat × TransferOpcode × List TransferRequest)
  failure : Option Error

namespace Fabric

/-- A connected queue pair with nothing posted and zeroed slot buffers. -/
def initial : Fabric where
  receives := []
  arrived := 0
  received := 0
  current := fun _ => 0
  commandBytes := fun _ => List.replicate kStorageCommandBytes 0
  entryBytes := fun _ => List.replicate (kStorageMaxBatchEntries * kStorageBatchEntryBytes) 0
  completionBytes := fun _ => List.replicate kStorageCompletionBytes 0
  sent := 0
  retired := 0
  posts := fun _ => { command := 0, slot := 0, kind := .completion }
  history := fun _ => []
  refused := none
  failure := none

/-- Send requests that no polled completion covers yet. -/
def outstanding (fabric : Fabric) : Nat := fabric.sent - fabric.retired

def record (fabric : Fabric) (command : Nat) (event : Event) : Fabric :=
  { fabric with
    history := Function.update fabric.history command (fabric.history command ++ [event]) }

/-- The next message lands in the buffer of the oldest free receive. -/
def arrive (traffic : Traffic) (fabric : Fabric) : Fabric :=
  { fabric with
    arrived := fabric.arrived + 1
    commandBytes := Function.update fabric.commandBytes
      (fabric.receives.getD fabric.arrived 0) (traffic.message fabric.arrived) }

/-- Consume the oldest receive completion. Other completions may be polled on the way. -/
def receive (fabric : Fabric) (retired : Nat) : Fabric :=
  { fabric with
    received := fabric.received + 1
    current := Function.update fabric.current (fabric.receives.getD fabric.received 0)
      fabric.received
    retired := retired }

/-- Hand `count` linked requests for a slot to the send queue. The identifier
of the batch is that of its last request. -/
def post (fabric : Fabric) (slot count : Nat) (kind : PostKind) : Fabric :=
  { fabric with
    sent := fabric.sent + count
    posts := Function.update fabric.posts (fabric.sent + count - 1)
      { command := fabric.current slot, slot := slot, kind := kind } }

/-- The fetched bytes of the client's descriptor array are in the slot's buffer. -/
def land (traffic : Traffic) (fabric : Fabric) (command slot : Nat) (length : UInt32) : Fabric :=
  { fabric with
    entryBytes := Function.update fabric.entryBytes slot
      (put (fabric.entryBytes slot) 0 (slice (traffic.descriptors command) 0 length.toNat)) }

/-- A call that failed. A refused batch leaves the requests before the refused
one posted. -/
def fail (fabric : Fabric) (error : Error) (accepted : Nat) : Call → Fabric
  | .postTransferBatch slot opcode requests =>
      { fabric with
        sent := fabric.sent + (requests.take accepted).length
        refused := some (fabric.current slot, opcode, requests.take accepted)
        failure := some error }
  | _ => { fabric with failure := some error }

end Fabric

/-- The answer of a failing call. Buffer accesses do not fail. -/
def Call.failure (error : Error) : (call : Call) → Option call.Answer
  | .postReceive _ | .waitReceive | .waitRead _ | .waitTransferBatch _ _ | .waitWrite _
  | .postRead .. | .postTransferBatch .. | .postWrite .. => some (.error error)
  | .loadCommand _ | .loadEntries _ | .loadCompletion _ | .storeCompletion _ _ => none

/-- The number of send requests a call hands over. -/
def Call.demand : Call → Nat
  | .postRead .. | .postWrite .. => 1
  | .postTransferBatch _ _ requests => requests.length
  | _ => 0

/-- The checks on a request before it is handed to the provider. -/
def requestValid (regionLength : Nat) (request : TransferRequest) : Prop :=
  request.length ≠ 0 ∧ request.localOffset.toNat ≤ regionLength ∧
    request.length.toNat ≤ regionLength - request.localOffset.toNat ∧
    request.remoteAddress ≠ 0 ∧ request.remoteKey ≠ 0 ∧
    request.remoteAddress ≤ kMaxU64 - request.length.toUInt64

/-- A request on a slot's own buffer. -/
def slotRequest (address : UInt64) (key length : UInt32) : TransferRequest where
  localOffset := 0
  remoteAddress := address
  remoteKey := key
  length := length

/-- Some completions of the send queue are polled, each covering all earlier requests. -/
def polled (fabric : Fabric) (retired : Nat) : Prop :=
  fabric.retired ≤ retired ∧ retired ≤ fabric.sent

/-- The possible answers to a call. Posts succeed only while the queues have room. -/
inductive Reply (traffic : Traffic) (session : Session) :
    Fabric → (call : Call) → call.Answer → Fabric → Prop
  | postReceive {fabric : Fabric} {slot : Nat}
      (hRoom : fabric.receives.length - fabric.received < kQpDepth) :
      Reply traffic session fabric (.postReceive slot) (.ok ())
        { fabric with receives := fabric.receives ++ [slot] }
  | waitReceive {fabric : Fabric} {retired : Nat} (hArrived : fabric.received < fabric.arrived)
      (hPolled : polled fabric retired) :
      Reply traffic session fabric .waitReceive (.ok ()) (fabric.receive retired)
  | loadCommand {fabric : Fabric} {slot : Nat} :
      Reply traffic session fabric (.loadCommand slot) (fabric.commandBytes slot)
        (fabric.record (fabric.current slot) (.loaded slot (fabric.commandBytes slot)))
  | postRead {fabric : Fabric} {slot : Nat} {address : UInt64} {key length : UInt32}
      (hValid : requestValid (kStorageMaxBatchEntries * kStorageBatchEntryBytes)
        (slotRequest address key length))
      (hRoom : fabric.outstanding + 1 ≤ kQpDepth) :
      Reply traffic session fabric (.postRead slot address key length) (.ok fabric.sent)
        ((fabric.post slot 1 (.fetch length)).record (fabric.current slot)
          (.fetchPosted address key length))
  | waitRead {fabric : Fabric} {wrId retired command slot : Nat} {length : UInt32}
      (hPost : fabric.posts wrId = { command := command, slot := slot, kind := .fetch length })
      (hPolled : polled fabric retired) (hDone : wrId < retired) :
      Reply traffic session fabric (.waitRead wrId) (.ok ())
        (({ fabric with retired := retired }.land traffic command slot length).record command
          .fetchWaited)
  | loadEntries {fabric : Fabric} {slot : Nat} :
      Reply traffic session fabric (.loadEntries slot) (fabric.entryBytes slot) fabric
  | postTransferBatch {fabric : Fabric} {slot : Nat} {opcode : TransferOpcode}
      {requests : List TransferRequest} (hSome : requests ≠ [])
      (hValid : ∀ request ∈ requests, requestValid session.storageSize.toNat request)
      (hRoom : fabric.outstanding + requests.length ≤ kQpDepth) :
      Reply traffic session fabric (.postTransferBatch slot opcode requests)
        (.ok (fabric.sent + requests.length - 1))
        ((fabric.post slot requests.length (.payload opcode)).record (fabric.current slot)
          (.payloadPosted opcode requests))
  | waitTransferBatch {fabric : Fabric} {opcode : TransferOpcode} {wrId retired command slot : Nat}
      (hPost : fabric.posts wrId = { command := command, slot := slot, kind := .payload opcode })
      (hPolled : polled fabric retired) (hDone : wrId < retired) :
      Reply traffic session fabric (.waitTransferBatch opcode wrId) (.ok ())
        ({ fabric with retired := retired }.record command .payloadWaited)
  | loadCompletion {fabric : Fabric} {slot : Nat} :
      Reply traffic session fabric (.loadCompletion slot) (fabric.completionBytes slot) fabric
  | storeCompletion {fabric : Fabric} {slot : Nat} {bytes : Buffer} :
      Reply traffic session fabric (.storeCompletion slot bytes) ()
        { fabric with completionBytes := Function.update fabric.completionBytes slot bytes }
  | postWrite {fabric : Fabric} {slot : Nat} {address : UInt64} {key length : UInt32}
      (hValid : requestValid kStorageCompletionBytes (slotRequest address key length))
      (hRoom : fabric.outstanding + 1 ≤ kQpDepth) :
      Reply traffic session fabric (.postWrite slot address key length) (.ok fabric.sent)
        ((fabric.post slot 1 .completion).record (fabric.current slot)
          (.completionPosted address key length
            (slice (fabric.completionBytes slot) 0 length.toNat)))
  | waitWrite {fabric : Fabric} {wrId retired command slot : Nat}
      (hPost : fabric.posts wrId = { command := command, slot := slot, kind := .completion })
      (hPolled : polled fabric retired) (hDone : wrId < retired) :
      Reply traffic session fabric (.waitWrite wrId) (.ok ())
        ({ fabric with retired := retired }.record command .completionWaited)
  | failed {fabric : Fabric} {call : Call} {answer : call.Answer} {error : Error}
      {accepted : Nat} (hFailure : call.failure error = some answer)
      (hRoom : fabric.outstanding + accepted ≤ kQpDepth) :
      Reply traffic session fabric call answer (fabric.fail error accepted call)

/-- The environment of one worker. -/
def fabricWorld (traffic : Traffic) (session : Session) :
    Environment Fabric Call Call.Answer where
  drift := fun fabric fabric' =>
    fabric.arrived < fabric.receives.length ∧ fabric' = fabric.arrive traffic
  reply := Reply traffic session

/-- Every configuration that a run of a worker reaches. -/
def WorkerReaches (traffic : Traffic) (session : Session) (worker : Worker)
    (program : Program Call Call.Answer (Except Error Unit)) (fabric : Fabric) : Prop :=
  (fabricWorld traffic session).Reaches ((runWorker session worker).run, Fabric.initial)
    (program, fabric)

end NdsStorage.Server
