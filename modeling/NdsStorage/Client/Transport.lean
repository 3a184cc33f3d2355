import Mathlib.Logic.Relation
import NdsStorage.Client.Verbs

/-! The transport operations of the three backends. The transport asks for a
completion once in every signal interval and pays for each request with a
credit, which the completions pay back. What arrives at each poll of an
operation is an argument, so an operation is a function of the queue pair it
finds. An operation that has used up its polls and still waits has no result. -/
namespace NdsStorage.Client

def kTransportSignalInterval : UInt32 := 32

def transportShouldSignal (state : TransportQpState) : Bool :=
  if state.signalInterval = 0 then false
  else state.unsignaledCount + 1 ≥ state.signalInterval

/-- Signaling belongs to the transport, which overwrites the flags of a request. -/
def SendWr.scheduled (wr : SendWr) (signaled : Bool) : SendWr :=
  { wr with flags := if signaled then kSendSignaled else 0 }

def transportRecordSend (state : TransportQpState) (signaled : Bool) : Option TransportQpState :=
  if state.sendCredits = 0 then none
  else some { state with
    sendCredits := state.sendCredits - 1
    unsignaledCount := if signaled then 0 else state.unsignaledCount + 1 }

def transportRecordReceive (state : TransportQpState) : Option TransportQpState :=
  if state.receiveCredits = 0 then none
  else some { state with receiveCredits := state.receiveCredits - 1 }

def transportReclaimSend (state : TransportQpState) (completionCount : UInt32) :
    TransportQpState :=
  if state.signalInterval = 0 then state
  else { state with sendCredits := state.sendCredits + completionCount * state.signalInterval }

def transportReclaimReceive (state : TransportQpState) (completionCount : UInt32) :
    TransportQpState :=
  { state with receiveCredits := state.receiveCredits + completionCount }

/-- The queue depths a transport was configured with. -/
structure QpConfig where
  sendQueueDepth : UInt32
  receiveQueueDepth : UInt32
deriving DecidableEq, Repr

/-- A descriptor without a depth leaves it to the configuration. -/
def QpDescriptor.capacity (descriptor : QpDescriptor) (config : QpConfig) (sendCq : Bool) :
    UInt32 :=
  let exported := (descriptor.queue sendCq).depth
  if exported ≠ 0 then exported
  else if sendCq then config.sendQueueDepth else config.receiveQueueDepth

/-- The record that a transport is opened with. -/
def buildQpState (descriptor : QpDescriptor) (config : QpConfig) : Except Error TransportQpState :=
  let sendDepth := descriptor.capacity config true
  let receiveDepth := descriptor.capacity config false
  if sendDepth = 0 ∨ receiveDepth = 0 then
    .error {
      code := .invalidArgument
      message := "transport QP state requires nonzero queue capacities" }
  else
    .ok {
      signalInterval := kTransportSignalInterval
      unsignaledCount := 0
      sendCredits := sendDepth
      receiveCredits := receiveDepth }

/-- Credit the polled completions of one side. -/
def transportReclaim (sendCq : Bool) (completions : List Cqe) (qp : TransportQp) : TransportQp :=
  let count := UInt32.ofNat completions.length
  { qp with
    state :=
      if sendCq then transportReclaimSend qp.state count
      else transportReclaimReceive qp.state count }

def transportCredits (sendCq : Bool) (qp : TransportQp) : UInt32 :=
  if sendCq then qp.state.sendCredits else qp.state.receiveCredits

def completionFailed (completions : List Cqe) : Bool := completions.any fun cqe => cqe.status ≠ 0

/-- The status of a poll, once its completions have been credited. -/
def reclaimStatus (completions : List Cqe) : OperationStatus :=
  if completionFailed completions then .providerFailed else .success

/-- One poll of a completion queue by device code, with what arrives before it. -/
abbrev DeviceReclaim := Bool → Arrivals → TransportQp → OperationStatus × TransportQp

section Device

variable (reclaim : DeviceReclaim) (post : SendWr → TransportQp → OperationStatus × TransportQp)

/-- Poll once when the credits are used up. -/
def reclaimIfNeeded (sendCq : Bool) (arrivals : Arrivals) (qp : TransportQp) :
    OperationStatus × TransportQp :=
  if transportCredits sendCq qp ≠ 0 then (.success, qp) else reclaim sendCq arrivals qp

/-- Poll until the credits have been paid back. -/
def waitForSendCompletion (targetCredits : UInt32) :
    List Arrivals → TransportQp → Option OperationStatus × TransportQp
  | [], qp => if qp.state.sendCredits < targetCredits then (none, qp) else (some .success, qp)
  | arrivals :: rest, qp =>
      if qp.state.sendCredits < targetCredits then
        let polled := reclaim true arrivals qp
        if polled.1 ≠ .success then (some polled.1, polled.2)
        else waitForSendCompletion targetCredits rest polled.2
      else (some .success, qp)

/-- The send path of both device backends. -/
def devicePostSend (wr : SendWr) (first : Arrivals) (polls : List Arrivals) (qp : TransportQp) :
    Option OperationStatus × TransportQp :=
  if qp.state.signalInterval = 0 then (some .invalidArgument, qp)
  else
    let reclaimed := reclaimIfNeeded reclaim true first qp
    if reclaimed.1 ≠ .success then (some reclaimed.1, reclaimed.2)
    else if reclaimed.2.state.sendCredits = 0 then (some .queueFull, reclaimed.2)
    else
      let next := reclaimed.2.state
      let signaled := transportShouldSignal next
      let posted := post (wr.scheduled signaled) reclaimed.2
      if posted.1 ≠ .success then (some posted.1, posted.2)
      else
        match transportRecordSend next signaled with
        | none => (some .queueFull, posted.2)
        | some state =>
            let qp := { posted.2 with state := state }
            if signaled then
              waitForSendCompletion reclaim (state.sendCredits + state.signalInterval) polls qp
            else (some .success, qp)

/-- The receive path of both device backends. -/
def devicePostRecv (post : RecvWr → TransportQp → OperationStatus × TransportQp) (wr : RecvWr)
    (first : Arrivals) (qp : TransportQp) : OperationStatus × TransportQp :=
  let reclaimed := reclaimIfNeeded reclaim false first qp
  if reclaimed.1 ≠ .success then reclaimed
  else if reclaimed.2.state.receiveCredits = 0 then (.queueFull, reclaimed.2)
  else
    let posted := post wr reclaimed.2
    if posted.1 ≠ .success then posted
    else
      match transportRecordReceive posted.2.state with
      | none => (.queueFull, posted.2)
      | some state => (.success, { posted.2 with state := state })

end Device

/-! The vector core. -/

def aivReclaimTransportCq (sendCq : Bool) (arrivals : Arrivals) (qp : TransportQp) :
    OperationStatus × TransportQp :=
  let qp := qp.arrive arrivals
  let cq := qp.descriptor.cq sendCq
  let wq := qp.descriptor.queue sendCq
  if cq.bufferAddress = 0 ∨ cq.consumerAddress = 0 ∨ cq.doorbellAddress = 0 ∨ cq.depth = 0 ∨
      cq.entrySize < kHnsHwCqeBytes ∨ wq.tailAddress = 0 ∨ wq.wrIdAddress = 0 ∨ wq.depth = 0 then
    (.invalidArgument, qp)
  else
    let reaped := (qp.side sendCq).reap (pollMove sendCq wq.depth) kMaxCompletions
    (reclaimStatus reaped.1, transportReclaim sendCq reaped.1 (qp.setSide sendCq reaped.2))

/-- Without a place for the return value the outcome of the post is not seen. -/
def aivPostTransportSend (returnValue : Bool) :
    SendWr → Arrivals → List Arrivals → TransportQp → Option OperationStatus × TransportQp :=
  devicePostSend aivReclaimTransportCq fun wr qp =>
    let posted := aivPostSend wr qp
    (if returnValue then posted.1 else .success, posted.2)

/-- Free entries of the send queue, one of which stays unused. -/
def sendQueueAvailable (qp : TransportQp) : UInt32 :=
  let used := qp.send.counters.head - qp.send.counters.tail
  let depth := qp.descriptor.sendQueue.depth
  if used < depth - 1 then depth - 1 - used else 0

structure BatchProgress where
  next : TransportQpState
  signalCount : UInt32
  wqes : List SendWqe
  qp : TransportQp

/-- One entry of a batch is populated and charged. -/
def BatchProgress.schedule (progress : BatchProgress) (producer : UInt32) (wr : SendWr) :
    BatchProgress :=
  let signaled : Bool := progress.next.unsignaledCount + 1 ≥ progress.next.signalInterval
  { next := { progress.next with
      sendCredits := progress.next.sendCredits - 1
      unsignaledCount := if signaled then 0 else progress.next.unsignaledCount + 1 }
    signalCount := progress.signalCount + if signaled then 1 else 0
    wqes := progress.wqes ++ [sendWqe producer (wr.scheduled signaled)]
    qp := populateSendWqe producer (wr.scheduled signaled) progress.qp }

/-- The entries of a batch in order. The loop stops when the credits run out. -/
def scheduleBatch (head : UInt32) :
    List SendWr → UInt32 → BatchProgress → Bool × BatchProgress
  | [], _, progress => (true, progress)
  | wr :: rest, index, progress =>
      let scheduled := progress.schedule (head + index) wr
      if progress.next.sendCredits = 0 then (false, { progress with qp := scheduled.qp })
      else scheduleBatch head rest (index + 1) scheduled

/-- The outcome of a batch names the first request that was not posted. -/
structure BatchOutcome where
  status : Option OperationStatus
  badWr : Option Nat
deriving DecidableEq, Repr

/-- The doorbell, the stored record and the wait for all reports of a batch. -/
def finishBatch (count limited : Nat) (head : UInt32) (progress : BatchProgress)
    (polls : List Arrivals) : BatchOutcome × TransportQp :=
  let rung := ringSendDoorbell progress.wqes (head + UInt32.ofNat limited) progress.qp
  let qp := { rung with state := progress.next }
  let waited :=
    if progress.signalCount ≠ 0 then
      waitForSendCompletion aivReclaimTransportCq
        (qp.state.sendCredits + progress.signalCount * qp.state.signalInterval) polls qp
    else (some .success, qp)
  if waited.1 ≠ some .success then
    ({ status := waited.1, badWr := none }, waited.2)
  else if limited ≠ count then
    ({ status := some .queueFull, badWr := some limited }, waited.2)
  else ({ status := some .success, badWr := none }, waited.2)

/-- Post as much of a valid batch as the queue and the credits take. -/
def postPrefix (wrs : List SendWr) (polls : List Arrivals) (qp : TransportQp) :
    BatchOutcome × TransportQp :=
  let limited := min (min wrs.length (sendQueueAvailable qp).toNat) qp.state.sendCredits.toNat
  match wrs.findIdx? fun wr => !aivValidSendWr wr with
  | some index => ({ status := some .invalidArgument, badWr := some index }, qp)
  | none =>
      if limited = 0 then ({ status := some .queueFull, badWr := some 0 }, qp)
      else
        let head := qp.send.counters.head
        let scheduled := scheduleBatch head (wrs.take limited) 0
          { next := qp.state
            signalCount := 0
            wqes := []
            qp := qp }
        if !scheduled.1 then ({ status := some .queueFull, badWr := none }, scheduled.2.qp)
        else finishBatch wrs.length limited head scheduled.2 polls

def aivPostTransportSendBatch (wrs : List SendWr) (first : Arrivals) (polls : List Arrivals)
    (qp : TransportQp) : BatchOutcome × TransportQp :=
  let queue := qp.descriptor.sendQueue
  if wrs = [] ∨ qp.state.signalInterval = 0 ∨ queue.headAddress = 0 ∨ queue.tailAddress = 0 ∨
      queue.depth ≤ 1 then
    ({ status := some .invalidArgument, badWr := none }, qp)
  else
    let reclaimed :=
      if sendQueueAvailable qp = 0 ∨ qp.state.sendCredits = 0 then
        aivReclaimTransportCq true first qp
      else (.success, qp)
    if reclaimed.1 ≠ .success then
      ({ status := some reclaimed.1, badWr := none }, reclaimed.2)
    else postPrefix wrs polls reclaimed.2

def aivRdmaSend := aivPostTransportSend
def aivRdmaRead := aivPostTransportSend
def aivRdmaWrite := aivPostTransportSend
def aivRdmaSendBatch := aivPostTransportSendBatch

def aivRdmaRecv : RecvWr → Arrivals → TransportQp → OperationStatus × TransportQp :=
  devicePostRecv aivReclaimTransportCq aivPostRecv

/-! The control processor. -/

def aicpuReclaim (sendCq : Bool) (arrivals : Arrivals) (qp : TransportQp) :
    OperationStatus × TransportQp :=
  match aicpuPollCq sendCq arrivals qp with
  | (.error status, qp) => (status, qp)
  | (.ok completions, qp) => (reclaimStatus completions, transportReclaim sendCq completions qp)

def aicpuTransportPostSend (provider : ProviderPost) :
    SendWr → Arrivals → List Arrivals → TransportQp → Option OperationStatus × TransportQp :=
  devicePostSend aicpuReclaim fun wr => aicpuPostSend wr provider

def aicpuRdmaSend := aicpuTransportPostSend
def aicpuRdmaRead := aicpuTransportPostSend
def aicpuRdmaWrite := aicpuTransportPostSend

def aicpuRdmaRecv : RecvWr → Arrivals → TransportQp → OperationStatus × TransportQp :=
  devicePostRecv aicpuReclaim aicpuPostRecv

/-! The host. -/

def raReclaim (sendCq : Bool) (poll : RaPoll) (qp : TransportQp) : Except Error Nat × TransportQp :=
  match raPollCq sendCq poll qp with
  | (.error error, qp) => (.error error, qp)
  | (.ok completions, qp) =>
      let qp := transportReclaim sendCq completions qp
      if completionFailed completions then
        (.error {
          code := .ra
          message := "RA transport completion failed" }, qp)
      else (.ok completions.length, qp)

def raReclaimIfNeeded (sendCq : Bool) (poll : RaPoll) (qp : TransportQp) :
    Except Error Unit × TransportQp :=
  if transportCredits sendCq qp = 0 then
    match raReclaim sendCq poll qp with
    | (.error error, qp) => (.error error, qp)
    | (.ok _, qp) => (.ok (), qp)
  else (.ok (), qp)

/-- The deadline passes after the polls that are given. -/
def raWaitForSendCompletion (targetCredits : UInt32) :
    List RaPoll → TransportQp → Except Error Unit × TransportQp
  | [], qp =>
      if qp.state.sendCredits ≥ targetCredits then (.ok (), qp)
      else
        (.error {
          code := .runtime
          message := "RA transport completion timed out" }, qp)
  | poll :: rest, qp =>
      if qp.state.sendCredits < targetCredits then
        match raReclaim true poll qp with
        | (.error error, qp) => (.error error, qp)
        | (.ok _, qp) => raWaitForSendCompletion targetCredits rest qp
      else (.ok (), qp)

def raPost (wr : SendWr) (results : RaSendResults) (first : RaPoll) (polls : List RaPoll)
    (qp : TransportQp) : Except Error Unit × TransportQp :=
  if qp.state.signalInterval = 0 then
    (.error {
      code := .invalidArgument
      message := "RA transport send requires runtime, QP, and state" }, qp)
  else
    match raReclaimIfNeeded true first qp with
    | (.error error, qp) => (.error error, qp)
    | (.ok (), qp) =>
        if qp.state.sendCredits = 0 then
          (.error {
            code := .transport
            message := "RA transport send credits exhausted" }, qp)
        else
          let next := qp.state
          let signaled := transportShouldSignal next
          match raPostSend (wr.scheduled signaled) results qp with
          | (.error error, qp) => (.error error, qp)
          | (.ok (), qp) =>
              match transportRecordSend next signaled with
              | none =>
                  (.error {
                    code := .transport
                    message := "RA transport send state update failed" }, qp)
              | some state =>
                  let qp := { qp with state := state }
                  if signaled then
                    raWaitForSendCompletion (state.sendCredits + state.signalInterval) polls qp
                  else (.ok (), qp)

def raRdmaSend := raPost
def raRdmaRead := raPost
def raRdmaWrite := raPost

def raRdmaRecv (wr : RecvWr) (results : RaRecvResults) (first : RaPoll) (qp : TransportQp) :
    Except Error Unit × TransportQp :=
  match raReclaimIfNeeded false first qp with
  | (.error error, qp) => (.error error, qp)
  | (.ok (), qp) =>
      if qp.state.receiveCredits = 0 then
        (.error {
          code := .transport
          message := "RA transport receive credits exhausted" }, qp)
      else
        match raPostRecv wr results qp with
        | (.error error, qp) => (.error error, qp)
        | (.ok (), qp) =>
            match transportRecordReceive qp.state with
            | none =>
                (.error {
                  code := .transport
                  message := "RA transport receive state update failed" }, qp)
            | some state => (.ok (), { qp with state := state })

end NdsStorage.Client
