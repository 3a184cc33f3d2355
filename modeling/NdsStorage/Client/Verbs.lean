import NdsStorage.Client.Backends

/-! Work requests and the queue pair they are posted on. A side of a queue pair
is one work queue with its completion queue: the counters that device code
keeps in memory, and the requests that the hardware has taken over but not yet
reported. Completion entries appear on their own, in posting order, so every
poll comes with the entries that have arrived before it looks. -/
namespace NdsStorage.Client

def kMaxCompletions : Nat := 16
def kWrSend : UInt32 := 0
def kWrRdmaRead : UInt32 := 1
def kWrRdmaWrite : UInt32 := 2
def kSendSignaled : UInt32 := 1
def kQpModeNormal : Int32 := 0
def kHnsHwCqeBytes : UInt32 := 32
def kHnsHwWqeDataSegBytes : UInt32 := 16

structure SendWr where
  wrId : UInt64
  opcode : UInt32
  flags : UInt32
  localBuffer : Sge
  remoteAddress : UInt64
  remoteKey : UInt32
deriving DecidableEq, Repr

structure RecvWr where
  wrId : UInt64
  localBuffer : Sge
deriving DecidableEq, Repr

structure WorkQueueDescriptor where
  depth : UInt32
  entrySize : UInt32
  bufferAddress : UInt64
  headAddress : UInt64
  tailAddress : UInt64
  doorbellAddress : UInt64
  wrIdAddress : UInt64
deriving DecidableEq, Repr

structure CqDescriptor where
  depth : UInt32
  entrySize : UInt32
  bufferAddress : UInt64
  consumerAddress : UInt64
  doorbellAddress : UInt64
deriving DecidableEq, Repr

structure QpDescriptor where
  qpMode : Int32
  sendQueue : WorkQueueDescriptor
  receiveQueue : WorkQueueDescriptor
  sendCq : CqDescriptor
  receiveCq : CqDescriptor
deriving DecidableEq, Repr

namespace QpDescriptor

def queue (descriptor : QpDescriptor) (sendCq : Bool) : WorkQueueDescriptor :=
  if sendCq then descriptor.sendQueue else descriptor.receiveQueue

def cq (descriptor : QpDescriptor) (sendCq : Bool) : CqDescriptor :=
  if sendCq then descriptor.sendCq else descriptor.receiveCq

end QpDescriptor

/-- A completion entry. Device code reads the low bits of the producer index
and the status; the position of the request among all posted ones is kept for
the account of the queue. -/
structure Cqe where
  position : Nat
  wqeIndex : UInt32
  status : UInt8
deriving DecidableEq, Repr

/-- The counters of a work queue and of its completion queue. -/
structure QueueCounters where
  head : UInt32
  tail : UInt32
  consumer : UInt32
deriving DecidableEq, Repr

structure QueueSide where
  counters : QueueCounters
  wrIds : Nat → UInt64
  posted : Nat
  awaiting : List Cqe
  ready : List Cqe
  reclaimed : Nat

namespace QueueSide

/-- Nothing posted yet, with equal head and tail. -/
def idle (start consumer : UInt32) (wrIds : Nat → UInt64) : QueueSide where
  counters := {
    head := start
    tail := start
    consumer := consumer }
  wrIds := wrIds
  posted := 0
  awaiting := []
  ready := []
  reclaimed := 0

/-- Posted requests that no polled completion covers yet. -/
def outstanding (side : QueueSide) : Nat := side.posted - side.reclaimed

/-- The hardware takes over the request at the producer index. -/
def handOver (side : QueueSide) (signaled : Bool) : QueueSide :=
  { side with
    counters.head := side.counters.head + 1
    posted := side.posted + 1
    awaiting :=
      if signaled then
        side.awaiting ++ [{
          position := side.posted
          wqeIndex := side.counters.head &&& 0xffff
          status := 0 }]
      else side.awaiting }

/-- The completion of the oldest reported request is written. -/
def complete (side : QueueSide) (status : UInt8) : QueueSide :=
  match side.awaiting with
  | [] => side
  | cqe :: rest =>
      { side with
        awaiting := rest
        ready := side.ready ++ [{ cqe with status := status }] }

/-- The polling loop: completion entries are consumed in order until none is
ready or the limit is reached. A consumed entry covers its request and all
earlier ones. -/
def reap (move : QueueCounters → Cqe → QueueCounters) : Nat → QueueSide → List Cqe × QueueSide
  | 0, side => ([], side)
  | limit + 1, side =>
      match side.ready with
      | [] => ([], side)
      | cqe :: rest =>
          let next := reap move limit
            { side with
              counters := move side.counters cqe
              ready := rest
              reclaimed := cqe.position + 1 }
          (cqe :: next.1, next.2)

end QueueSide

/-- The tail that a send completion reports, from the low bits of its index. -/
def sendTailForCqe (tail depth : UInt32) (cqe : Cqe) : UInt32 :=
  tail + ((cqe.wqeIndex - tail) &&& (depth - 1))

/-- How device code moves its counters past a completion entry. -/
def pollMove (sendCq : Bool) (depth : UInt32) (counters : QueueCounters) (cqe : Cqe) :
    QueueCounters :=
  { counters with
    consumer := counters.consumer + 1
    tail := (if sendCq then sendTailForCqe counters.tail depth cqe else counters.tail) + 1 }

/-- The scheduling record of one queue pair. -/
structure TransportQpState where
  signalInterval : UInt32
  unsignaledCount : UInt32
  sendCredits : UInt32
  receiveCredits : UInt32
deriving DecidableEq, Repr

/-- A send queue entry as the hardware reads it. -/
structure SendWqe where
  opcode : UInt32
  signaled : Bool
  owner : Bool
  messageLength : UInt32
  remoteKey : UInt32
  remoteAddress : UInt64
  localBuffer : Sge
deriving DecidableEq, Repr

structure TransportQp where
  descriptor : QpDescriptor
  state : TransportQpState
  send : QueueSide
  receive : QueueSide
  sendRing : Nat → SendWqe
  receiveRing : Nat → Sge
  unrung : List Bool

/-- The statuses of the completions that arrive at one moment. -/
structure Arrivals where
  send : List UInt8
  receive : List UInt8

namespace TransportQp

def arrive (qp : TransportQp) (arrivals : Arrivals) : TransportQp :=
  { qp with
    send := arrivals.send.foldl QueueSide.complete qp.send
    receive := arrivals.receive.foldl QueueSide.complete qp.receive }

def side (qp : TransportQp) (sendCq : Bool) : QueueSide :=
  if sendCq then qp.send else qp.receive

def setSide (qp : TransportQp) (sendCq : Bool) (side : QueueSide) : TransportQp :=
  if sendCq then { qp with send := side } else { qp with receive := side }

end TransportQp

/-! The vector core posts by writing queue entries and ringing the doorbell. -/

def aivValidSendWr (wr : SendWr) : Bool :=
  wr.opcode = kWrSend || wr.opcode = kWrRdmaRead || wr.opcode = kWrRdmaWrite

def hnsHwSqOpcode (opcode : UInt32) : UInt32 :=
  if opcode = kWrSend then 0x0
  else if opcode = kWrRdmaWrite then 0x3
  else if opcode = kWrRdmaRead then 0x5
  else 0xffffffff

def sendWqe (producer : UInt32) (wr : SendWr) : SendWqe where
  opcode := hnsHwSqOpcode wr.opcode
  signaled := wr.flags &&& kSendSignaled ≠ 0
  owner := (producer >>> 15) &&& 1 = 0
  messageLength := wr.localBuffer.length
  remoteKey := if wr.opcode = kWrSend then 0 else wr.remoteKey
  remoteAddress := if wr.opcode = kWrSend then 0 else wr.remoteAddress
  localBuffer := wr.localBuffer

/-- The slot of a producer index in a ring. -/
def ringIndex (producer depth : UInt32) : Nat := (producer % depth).toNat

def populateSendWqe (producer : UInt32) (wr : SendWr) (qp : TransportQp) : TransportQp :=
  let index := ringIndex producer qp.descriptor.sendQueue.depth
  { qp with
    sendRing := Function.update qp.sendRing index (sendWqe producer wr)
    send.wrIds := Function.update qp.send.wrIds index wr.wrId }

/-- The doorbell hands the populated entries over, up to the new producer index. -/
def ringSendDoorbell (wqes : List SendWqe) (producer : UInt32) (qp : TransportQp) : TransportQp :=
  let side := wqes.foldl (fun side wqe => side.handOver wqe.signaled) qp.send
  { qp with send := { side with counters.head := producer } }

def aivPostSend (wr : SendWr) (qp : TransportQp) : OperationStatus × TransportQp :=
  let head := qp.send.counters.head
  let depth := qp.descriptor.sendQueue.depth
  if !aivValidSendWr wr then (.invalidArgument, qp)
  else if depth ≤ 1 ∨ head - qp.send.counters.tail ≥ depth - 1 then (.queueFull, qp)
  else (.success, ringSendDoorbell [sendWqe head wr] (head + 1) (populateSendWqe head wr qp))

/-- A receive entry at the head of the receive queue. -/
def postReceiveEntry (wr : RecvWr) (qp : TransportQp) : TransportQp :=
  let index := ringIndex qp.receive.counters.head qp.descriptor.receiveQueue.depth
  let side := { qp.receive with wrIds := Function.update qp.receive.wrIds index wr.wrId }
  { qp with
    receiveRing := Function.update qp.receiveRing index wr.localBuffer
    receive := side.handOver true }

def receiveQueueFull (qp : TransportQp) : Bool :=
  qp.receive.counters.head - qp.receive.counters.tail ≥ qp.descriptor.receiveQueue.depth

def aivPostRecv (wr : RecvWr) (qp : TransportQp) : OperationStatus × TransportQp :=
  if receiveQueueFull qp then (.queueFull, qp) else (.success, postReceiveEntry wr qp)

/-! The control processor posts sends through its provider. -/

/-- What the provider answers to a send. -/
structure ProviderPost where
  resolved : Bool
  accepted : Bool
deriving DecidableEq, Repr

/-- The identifier is stored before the provider is called. An accepted send
moves the head on, a refused one leaves the queue as it is. -/
def aicpuPostSend (wr : SendWr) (provider : ProviderPost) (qp : TransportQp) :
    OperationStatus × TransportQp :=
  let queue := qp.descriptor.sendQueue
  if wr.opcode ≠ kWrSend ∧ wr.opcode ≠ kWrRdmaRead ∧ wr.opcode ≠ kWrRdmaWrite then
    (.unsupported, qp)
  else if qp.descriptor.qpMode ≠ kQpModeNormal then (.unsupported, qp)
  else if !provider.resolved then (.symbolUnavailable, qp)
  else if queue.wrIdAddress = 0 ∨ queue.headAddress = 0 ∨ queue.depth = 0 then
    (.invalidArgument, qp)
  else
    let index := ringIndex qp.send.counters.head queue.depth
    let side := { qp.send with wrIds := Function.update qp.send.wrIds index wr.wrId }
    if provider.accepted then
      (.success, { qp with send := side.handOver (wr.flags &&& kSendSignaled ≠ 0) })
    else (.providerFailed, { qp with send := side })

def aicpuPostRecv (wr : RecvWr) (qp : TransportQp) : OperationStatus × TransportQp :=
  let queue := qp.descriptor.receiveQueue
  if queue.bufferAddress = 0 ∨ queue.headAddress = 0 ∨ queue.tailAddress = 0 ∨
      queue.doorbellAddress = 0 ∨ queue.wrIdAddress = 0 ∨ queue.depth = 0 ∨
      queue.entrySize < kHnsHwWqeDataSegBytes then
    (.invalidArgument, qp)
  else if receiveQueueFull qp then (.queueFull, qp)
  else (.success, postReceiveEntry wr qp)

def aicpuPollCq (sendCq : Bool) (arrivals : Arrivals) (qp : TransportQp) :
    Except OperationStatus (List Cqe) × TransportQp :=
  let qp := qp.arrive arrivals
  let cq := qp.descriptor.cq sendCq
  let wq := qp.descriptor.queue sendCq
  if cq.bufferAddress = 0 ∨ cq.consumerAddress = 0 ∨ cq.depth = 0 ∨
      cq.entrySize < kHnsHwCqeBytes ∨ wq.tailAddress = 0 ∨ wq.wrIdAddress = 0 then
    (.error .invalidArgument, qp)
  else
    let reaped := (qp.side sendCq).reap (pollMove sendCq wq.depth) kMaxCompletions
    (.ok reaped.1, qp.setSide sendCq reaped.2)

/-! The host posts and polls through the adapter library. -/

/-- What the library and the runtime answer while a send is posted. -/
structure RaSendResults where
  sendWr : Int
  setDevice : Int
  doorbell : Int
deriving DecidableEq, Repr

structure RaRecvResults where
  recvWrlist : Int
  completed : Nat
deriving DecidableEq, Repr

/-- The answer to a poll: some of the entries that are ready, or an error. -/
inductive RaPoll where
  | polled (arrivals : Arrivals) (count : Nat)
  | invalid (result : Int)

def raSendValid (wr : SendWr) : Bool :=
  wr.localBuffer.address ≠ 0 && wr.localBuffer.length ≠ 0 && wr.localBuffer.localKey ≠ 0 &&
    (wr.opcode = kWrSend || wr.opcode = kWrRdmaRead || wr.opcode = kWrRdmaWrite) &&
    (wr.opcode = kWrSend || (wr.remoteAddress ≠ 0 && wr.remoteKey ≠ 0)) &&
    (wr.opcode ≠ kWrSend || (wr.remoteAddress = 0 && wr.remoteKey = 0))

def raPrepareSend (wr : SendWr) (results : RaSendResults) (qp : TransportQp) :
    Except Error Unit × TransportQp :=
  if !raSendValid wr then
    (.error {
      code := .invalidArgument
      message := "RA post requires a connected RA QP, valid local SGE, supported opcode, " ++
        "and matching remote-memory metadata" }, qp)
  else if results.sendWr ≠ 0 then
    (.error {
      code := .ra
      message := "RaTypicalSendWr failed: " ++ toString results.sendWr }, qp)
  else
    (.ok (), { qp with unrung := qp.unrung ++ [decide (wr.flags &&& kSendSignaled ≠ 0)] })

/-- The doorbell hands over every prepared entry. -/
def raRingSend (results : RaSendResults) (qp : TransportQp) : Except Error Unit × TransportQp :=
  if results.setDevice ≠ 0 then
    (.error {
      code := .runtime
      message := "rtSetDevice before rtRDMADBSend failed: " ++ toString results.setDevice }, qp)
  else if results.doorbell ≠ 0 then
    (.error {
      code := .runtime
      message := "rtRDMADBSend failed: " ++ toString results.doorbell }, qp)
  else
    (.ok (), { qp with
      send := qp.unrung.foldl QueueSide.handOver qp.send
      unrung := [] })

def raPostSend (wr : SendWr) (results : RaSendResults) (qp : TransportQp) :
    Except Error Unit × TransportQp :=
  match raPrepareSend wr results qp with
  | (.error error, qp) => (.error error, qp)
  | (.ok (), qp) => raRingSend results qp

def raPostRecv (wr : RecvWr) (results : RaRecvResults) (qp : TransportQp) :
    Except Error Unit × TransportQp :=
  if wr.localBuffer.address = 0 ∨ wr.localBuffer.length = 0 ∨ wr.localBuffer.localKey = 0 then
    (.error {
      code := .invalidArgument
      message := "RA receive post requires a connected RA QP and valid SGE" }, qp)
  else if results.recvWrlist ≠ 0 ∨ results.completed ≠ 1 then
    (.error {
      code := .ra
      message := "RaRecvWrlist failed: " ++ toString results.recvWrlist }, qp)
  else (.ok (), { qp with receive := qp.receive.handOver true })

/-- The library keeps the counters of its queues to itself. -/
def raPollCq (sendCq : Bool) : RaPoll → TransportQp → Except Error (List Cqe) × TransportQp
  | .polled arrivals count, qp =>
      let qp := qp.arrive arrivals
      let reaped := (qp.side sendCq).reap (fun counters _ => counters) (min count kMaxCompletions)
      (.ok reaped.1, qp.setSide sendCq reaped.2)
  | .invalid result, qp =>
      (.error {
        code := .ra
        message := "RaPollCq returned an invalid result: " ++ toString result }, qp)

end NdsStorage.Client
