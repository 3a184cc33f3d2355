import NdsStorage.Client.CompletionRing
import NdsStorage.Client.Completions
import NdsStorage.Memory.Flat

/-! The queue pair of the vector core as it lies in device memory. Device code
reads and writes words there: the entries and identifiers of the two work
queues, the entries of the two completion queues, the indices, and the
doorbells. The hardware sees nothing else, so it reads the work entries back
from memory when a doorbell tells it to, and it writes its reports there. -/
namespace NdsStorage.Client

open Bytes FlatMemory PhaseRing

/-- The descriptor of a queue pair with what its send doorbell carries. -/
structure DeviceQp where
  descriptor : QpDescriptor
  number : UInt32
  serviceLevel : UInt32
deriving DecidableEq, Repr

def kHnsHwSqSignaled : UInt32 := (1 : UInt32) <<< 8
def kHnsRoceSqWqeBytes : Nat := 48
def kHnsRoceSgeBytes : Nat := 16

def WorkQueueDescriptor.entryAddress (queue : WorkQueueDescriptor) (producer : UInt32) : UInt64 :=
  queue.bufferAddress + queue.entrySize.toUInt64 * (producer % queue.depth).toUInt64

def WorkQueueDescriptor.idAddress (queue : WorkQueueDescriptor) (producer : UInt32) : UInt64 :=
  queue.wrIdAddress + 8 * (producer % queue.depth).toUInt64

def CqDescriptor.entryAddress (cq : CqDescriptor) (consumer : UInt32) : UInt64 :=
  cq.bufferAddress + cq.entrySize.toUInt64 * (consumer % cq.depth).toUInt64

section Entries

/-- The first word of a send entry before it is given to the hardware. -/
def sqWord (wr : SendWr) : UInt32 :=
  hnsHwSqOpcode wr.opcode ||| (if wr.flags &&& kSendSignaled ≠ 0 then kHnsHwSqSignaled else 0)

/-- The owner bit, from the bit of the producer index that counts passes. -/
def sqOwner (producer : UInt32) : UInt32 :=
  ((~~~((producer >>> 15) &&& 1)) <<< 7) &&& ((1 : UInt32) <<< 7)

def sgeFields (sge : Sge) : List Buffer :=
  [memory32 sge.length, memory32 sge.localKey, memory64 sge.address]

def sqFields (wr : SendWr) : List Buffer := [
  memory32 (sqWord wr), memory32 wr.localBuffer.length, memory32 0, memory32 ((1 : UInt32) <<< 24),
  memory32 0, memory32 (if wr.opcode = kWrSend then 0 else wr.remoteKey),
  memory64 (if wr.opcode = kWrSend then 0 else wr.remoteAddress)] ++ sgeFields wr.localBuffer

/-- The entry is complete, and so is its identifier, before the owner bit is set. -/
def populateSendWqeAt (queue : WorkQueueDescriptor) (producer : UInt32) (wr : SendWr)
    (memory : Memory) : Memory :=
  let wqe := (queue.entryAddress producer).toNat
  let memory := storeFields memory wqe (sqFields wr)
  let memory := store64 memory (queue.idAddress producer).toNat wr.wrId
  store32 memory wqe (load32 memory wqe ||| sqOwner producer)

def loadSge (memory : Memory) (address : Nat) : Sge where
  length := load32 memory address
  localKey := load32 memory (address + 4)
  address := load64 memory (address + 8)

/-- A send entry as the hardware reads it. -/
def loadSendWqe (memory : Memory) (address : Nat) : SendWqe where
  opcode := load32 memory address &&& 0x1f
  signaled := load32 memory address &&& kHnsHwSqSignaled ≠ 0
  owner := load32 memory address &&& 0x80 ≠ 0
  messageLength := load32 memory (address + 4)
  remoteKey := load32 memory (address + 20)
  remoteAddress := load64 memory (address + 24)
  localBuffer := loadSge memory (address + 32)

def cqeFields (cqe : HnsHwCqe) : List Buffer :=
  [memory32 cqe.byte4, memory32 cqe.immediateData, memory32 cqe.byte12, memory32 cqe.byte16,
    memory32 cqe.byteCount, memory32 0, memory32 0, memory32 0]

def loadCqe (memory : Memory) (address : Nat) : HnsHwCqe where
  byte4 := load32 memory address
  immediateData := load32 memory (address + 4)
  byte12 := load32 memory (address + 8)
  byte16 := load32 memory (address + 12)
  byteCount := load32 memory (address + 16)

/-- A report names its request by the low bits of the producer index. -/
def indexed (wqeIndex : UInt32) (cqe : HnsHwCqe) : HnsHwCqe :=
  { cqe with byte4 := (cqe.byte4 &&& (0xffff : UInt32)) ||| (wqeIndex <<< (16 : UInt32)) }

def cqeStatus (cqe : HnsHwCqe) : UInt8 := (cqe.byte4 >>> 8).toUInt8

end Entries

/-- What the hardware keeps of one side: the requests that it has taken over,
those it still has to report, and how far its completion queue is filled and
known to be read. -/
structure Engine where
  producer : UInt32
  posted : Nat
  awaiting : List Cqe
  written : Nat
  published : Nat

namespace Engine

def takeOver (engine : Engine) (signaled : Bool) : Engine :=
  { engine with
    producer := engine.producer + 1
    posted := engine.posted + 1
    awaiting :=
      if signaled then
        engine.awaiting ++ [{
          position := engine.posted
          wqeIndex := engine.producer &&& 0xffff
          status := 0 }]
      else engine.awaiting }

/-- A doorbell carries the low bits of an index. -/
def rungFor (engine : Engine) (index : UInt32) : Nat :=
  ((index - engine.producer) &&& 0xffff).toNat

/-- Work entries are read from memory, up to the index of the doorbell. -/
def takeSends (queue : WorkQueueDescriptor) (memory : Memory) : Nat → Engine → Engine
  | 0, engine => engine
  | count + 1, engine =>
      let wqe := loadSendWqe memory (queue.entryAddress engine.producer).toNat
      takeSends queue memory count (engine.takeOver wqe.signaled)

def takeReceives : Nat → Engine → Engine
  | 0, engine => engine
  | count + 1, engine => takeReceives count (engine.takeOver true)

/-- The doorbell of a completion queue carries the low bits of its consumer index. -/
def learn (engine : Engine) (doorbell : UInt32) : Engine :=
  { engine with
    published := engine.published +
      (doorbell.toNat + 2 ^ 24 - engine.published % 2 ^ 24) % 2 ^ 24 }

end Engine

structure Device where
  qp : DeviceQp
  memory : Memory
  send : Engine
  receive : Engine

namespace Device

def engine (device : Device) (sendCq : Bool) : Engine :=
  if sendCq then device.send else device.receive

def setEngine (device : Device) (sendCq : Bool) (engine : Engine) : Device :=
  if sendCq then { device with send := engine } else { device with receive := engine }

def queue (device : Device) (sendCq : Bool) : WorkQueueDescriptor :=
  device.qp.descriptor.queue sendCq

def cq (device : Device) (sendCq : Bool) : CqDescriptor := device.qp.descriptor.cq sendCq

/-- The hardware writes its next report, if one is due and the ring has room. -/
def report (sendCq : Bool) (device : Device) (cqe : HnsHwCqe) : Device :=
  let engine := device.engine sendCq
  let cq := device.cq sendCq
  let depth := cq.depth.toNat
  match engine.awaiting with
  | [] => device
  | next :: rest =>
      if engine.written < engine.published + depth then
        let entry := CqRing.stampOwner (passPhase depth engine.written) (indexed next.wqeIndex cqe)
        { device with
          memory := storeFields device.memory
            (cq.bufferAddress.toNat + cq.entrySize.toNat * (engine.written % depth))
            (cqeFields entry) }.setEngine sendCq
          { engine with
            awaiting := rest
            written := engine.written + 1 }
      else device

/-! Device code. -/

def sendDoorbell (qp : DeviceQp) (producer : UInt32) : UInt64 :=
  qp.number.toUInt64 ||| ((producer &&& 0xffff).toUInt64 <<< 32) |||
    (qp.serviceLevel.toUInt64 <<< 48)

def ringSendDoorbell (producer : UInt32) (device : Device) : Device :=
  let queue := device.queue true
  let doorbell := sendDoorbell device.qp producer
  let memory := store64 (store32 device.memory queue.headAddress.toNat producer)
    queue.doorbellAddress.toNat doorbell
  let count := device.send.rungFor ((doorbell >>> 32).toUInt32 &&& 0xffff)
  { device with
    memory := memory
    send := device.send.takeSends queue memory count }

def aivPostSend (wr : SendWr) (device : Device) : OperationStatus × Device :=
  let queue := device.queue true
  if !aivValidSendWr wr then (.invalidArgument, device)
  else
    let head := load32 device.memory queue.headAddress.toNat
    if queue.depth ≤ 1 ∨
        head - load32 device.memory queue.tailAddress.toNat ≥ queue.depth - 1 then
      (.queueFull, device)
    else
      (.success, ringSendDoorbell (head + 1)
        { device with memory := populateSendWqeAt queue head wr device.memory })

def populateAllAt (queue : WorkQueueDescriptor) (producer : UInt32) :
    List SendWr → Memory → Memory
  | [], memory => memory
  | wr :: rest, memory =>
      populateAllAt queue (producer + 1) rest (populateSendWqeAt queue producer wr memory)

/-- One doorbell for the part of a batch that fits. -/
def aivPostSendBatch (wrs : List SendWr) (device : Device) : BatchOutcome × Device :=
  let queue := device.queue true
  let head := load32 device.memory queue.headAddress.toNat
  let used := head - load32 device.memory queue.tailAddress.toNat
  if wrs = [] then ({ status := some .invalidArgument, badWr := none }, device)
  else if queue.depth ≤ 1 ∨ used ≥ queue.depth - 1 then
    ({ status := some .queueFull, badWr := some 0 }, device)
  else
    match wrs.findIdx? fun wr => !aivValidSendWr wr with
    | some index => ({ status := some .invalidArgument, badWr := some index }, device)
    | none =>
        let available := queue.depth - 1 - used
        let posted := min wrs.length available.toNat
        let rung := ringSendDoorbell (head + UInt32.ofNat posted)
          { device with
            memory := populateAllAt queue head (markLast (wrs.take posted)) device.memory }
        if posted ≠ wrs.length then ({ status := some .queueFull, badWr := some posted }, rung)
        else ({ status := some .success, badWr := none }, rung)

/-- The doorbell of a receive is rung before its index is stored. -/
def aivPostRecv (wr : RecvWr) (device : Device) : OperationStatus × Device :=
  let queue := device.queue false
  let head := load32 device.memory queue.headAddress.toNat
  if head - load32 device.memory queue.tailAddress.toNat ≥ queue.depth then (.queueFull, device)
  else
    let memory := storeFields device.memory (queue.entryAddress head).toNat
      (sgeFields wr.localBuffer)
    let memory := store64 memory (queue.idAddress head).toNat wr.wrId
    let doorbell := (head + 1) &&& 0xffff
    let memory := store32 memory queue.doorbellAddress.toNat doorbell
    (.success, { device with
      memory := store32 memory queue.headAddress.toNat (head + 1)
      receive := device.receive.takeReceives (device.receive.rungFor doorbell) })

/-- Where a poll stands: its copies of the counters, and the device. -/
structure Cursor where
  consumer : UInt32
  tail : UInt32
  device : Device

/-- The polling loop. Before each look the hardware may write further reports. -/
def pollWalk (sendCq : Bool) :
    Nat → List (List HnsHwCqe) → Cursor → List Wc × Cursor
  | 0, _, cursor => ([], cursor)
  | limit + 1, arrivals, cursor =>
      let device := (arrivals.headD []).foldl (report sendCq) cursor.device
      let cq := device.cq sendCq
      let wq := device.queue sendCq
      let cqe := loadCqe device.memory (cq.entryAddress cursor.consumer).toNat
      if ownerTurned cqe cursor.consumer cq.depth then
        let tail := if sendCq then hnsHwSendTailForCqe cursor.tail wq.depth cqe else cursor.tail
        let next := pollWalk sendCq limit arrivals.tail {
          consumer := cursor.consumer + 1
          tail := tail + 1
          device := device }
        (hnsHwDecodeCqe cqe (load64 device.memory (wq.idAddress tail).toNat) :: next.1, next.2)
      else ([], { cursor with device := device })

/-- The indices are stored and the completion queue's doorbell is rung when a
poll has found something. -/
def aivPollCq (sendCq : Bool) (maxCompletions : Nat) (arrivals : List (List HnsHwCqe))
    (device : Device) : Except OperationStatus (List Wc) × Device :=
  let cq := device.cq sendCq
  let wq := device.queue sendCq
  if maxCompletions = 0 then (.error .invalidArgument, device)
  else
    let polled := pollWalk sendCq (min maxCompletions kMaxCompletions) arrivals {
      consumer := load32 device.memory cq.consumerAddress.toNat
      tail := load32 device.memory wq.tailAddress.toNat
      device := device }
    let device := polled.2.device
    if polled.1 = [] then (.ok [], device)
    else
      let memory := store32 device.memory cq.consumerAddress.toNat polled.2.consumer
      let memory := store32 memory wq.tailAddress.toNat polled.2.tail
      let doorbell := polled.2.consumer &&& 0x00ffffff
      (.ok polled.1, { device with
        memory := store32 memory cq.doorbellAddress.toNat doorbell }.setEngine sendCq
          ((device.engine sendCq).learn doorbell))

end Device

end NdsStorage.Client
