import NdsStorage.Counter.SkipZero
import NdsStorage.Server.Fabric

/-! The server's verbs queue pair. Sends, transfers and receives share one
completion queue. A wait polls it for the completion of one request and parks
whatever else it finds, so that the wait for that request finds it later. What
the verbs library answers is an argument of each call. -/
namespace NdsStorage.Server.Endpoint

/-- Opcodes of work completions. -/
inductive WcOpcode where
  | send | rdmaWrite | rdmaRead | recv
  | other (value : UInt32)
deriving DecidableEq, Repr

/-- The numbers the verbs library gives them. -/
def WcOpcode.code : WcOpcode → UInt32
  | send => 0
  | rdmaWrite => 1
  | rdmaRead => 2
  | recv => 128
  | other value => value

structure IbvWc where
  wrId : UInt64
  status : UInt32
  opcode : WcOpcode
  vendorErr : UInt32
deriving DecidableEq, Repr

def kWcSuccess : UInt32 := 0

/-- Opcodes of send work requests. -/
inductive WrOpcode where
  | send | rdmaRead | rdmaWrite
deriving DecidableEq, Repr

/-- The opcode a request completes with. -/
def WrOpcode.completion : WrOpcode → WcOpcode
  | send => .send
  | rdmaRead => .rdmaRead
  | rdmaWrite => .rdmaWrite

/-- A request that asks for a completion. -/
structure Signaled where
  opcode : WcOpcode
  wrId : UInt64
deriving DecidableEq, Repr

/-- The request a completion names. -/
def IbvWc.request (completion : IbvWc) : Signaled where
  opcode := completion.opcode
  wrId := completion.wrId

@[simp] theorem IbvWc.request_opcode (completion : IbvWc) :
    completion.request.opcode = completion.opcode := rfl

@[simp] theorem IbvWc.request_wrId (completion : IbvWc) :
    completion.request.wrId = completion.wrId := rfl

structure IbvSge where
  address : UInt64
  length : UInt32
  localKey : UInt32
deriving DecidableEq, Repr

structure IbvSendWr where
  wrId : UInt64
  sge : IbvSge
  opcode : WrOpcode
  signaled : Bool
  remoteAddress : UInt64 := 0
  remoteKey : UInt32 := 0
deriving DecidableEq, Repr

/-- A registered region. It may be registered with another endpoint. -/
structure MemoryRegion where
  address : UInt64
  length : UInt64
  localKey : UInt32
  belongs : Bool
deriving DecidableEq, Repr

/-- One transfer of a batch. The region may be missing. -/
structure TransferRequest where
  region : Option MemoryRegion
  localOffset : UInt64
  remoteAddress : UInt64
  remoteKey : UInt32
  length : UInt32
deriving DecidableEq, Repr

structure QueuePair where
  created : Bool
  connected : Bool
  nextSendWrId : UInt64 := 4
  nextReceiveWrId : UInt64 := 1
  pendingReceiveIds : List UInt64 := []
  pendingCompletions : List IbvWc := []
deriving DecidableEq, Repr

/-- A queue pair and its completion queue. `expected` holds the signaled
requests whose completion is still to arrive. The last five fields are a history
that no function reads: the requests handed to the hardware, the signaled ones
among them, the completions taken from the queue and those that a wait returned,
with the request it waited for. -/
structure Connection extends QueuePair where
  expected : List Signaled := []
  entries : List IbvWc := []
  sends : List UInt64 := []
  receives : List UInt64 := []
  signaled : List Signaled := []
  taken : List IbvWc := []
  returned : List (Signaled × IbvWc) := []
deriving DecidableEq, Repr

def verbsError (message : String) : Error := { code := .verbs, message := message }

def invalidArgument (message : String) : Error := { code := .invalidArgument, message := message }

def nextWrId (current : UInt64) : UInt64 := SkipZero.next current

/-- A completion that arrives, with the request it is for. -/
structure Arrival where
  request : Signaled
  completion : IbvWc
deriving DecidableEq, Repr

/-- What one call to `ibv_post_send` answers: a refusal may leave requests
before the refused one posted. -/
inductive PostAnswer where
  | accepted
  | refused (accepted : Nat) (reason : String)
deriving DecidableEq, Repr

/-- What one call to `ibv_poll_cq` answers. Nothing may be visible yet
although completions have arrived. -/
inductive PollAnswer where
  | ready | empty | failed
deriving DecidableEq, Repr

/-- One turn of the polling loop: what arrives before it, and the answer. -/
structure Look where
  arrivals : List Arrival
  answer : PollAnswer
deriving DecidableEq, Repr

namespace QueuePair

def validLocalRegion (qp : QueuePair) (region : MemoryRegion) (localOffset : UInt64)
    (length : UInt32) : Bool :=
  qp.created && qp.connected && region.belongs && region.address != 0 && region.localKey != 0 &&
    length != 0 && localOffset ≤ region.length &&
    length.toUInt64 ≤ region.length - localOffset &&
    localOffset ≤ kMaxU64 - region.address &&
    region.address + localOffset ≤ kMaxU64 - length.toUInt64

/-- The check of one request of a transfer batch. -/
def validTransfer (qp : QueuePair) (region : MemoryRegion) (request : TransferRequest) : Bool :=
  qp.validLocalRegion region request.localOffset request.length &&
    request.remoteAddress != 0 && request.remoteKey != 0 &&
    request.remoteAddress ≤ kMaxU64 - request.length.toUInt64

end QueuePair

namespace Connection

/-- A completion arrives once for each expected request. Only a successful one
is sure to carry the request's opcode. -/
def arrive (connection : Connection) (arrival : Arrival) : Connection :=
  if arrival.request ∈ connection.expected ∧
      arrival.completion.wrId = arrival.request.wrId ∧
      (arrival.completion.status = kWcSuccess →
        arrival.completion.opcode = arrival.request.opcode) then
    { connection with
      expected := connection.expected.erase arrival.request
      entries := connection.entries ++ [arrival.completion] }
  else connection

def ibvPostRecv (connection : Connection) (wrId : UInt64) : Connection :=
  { connection with
    receives := connection.receives ++ [wrId]
    signaled := connection.signaled ++ [{ opcode := .recv, wrId := wrId }]
    expected := connection.expected ++ [{ opcode := .recv, wrId := wrId }] }

/-- The requests of a list that ask for a completion. -/
def signals (wrs : List IbvSendWr) : List Signaled :=
  (wrs.filter fun wr => wr.signaled).map fun wr =>
    { opcode := wr.opcode.completion, wrId := wr.wrId }

def ibvPostSend (connection : Connection) (wrs : List IbvSendWr) : Connection :=
  { connection with
    sends := connection.sends ++ wrs.map fun wr => wr.wrId
    signaled := connection.signaled ++ signals wrs
    expected := connection.expected ++ signals wrs }

def postReceive (connection : Connection) (region : MemoryRegion) (answer : Option String) :
    Except Error Unit × Connection :=
  if !connection.validLocalRegion region 0 region.length.toUInt32 || region.length > kMaxU32 then
    (.error (invalidArgument "CPU receive requires a valid QP and registered memory region"),
      connection)
  else if kQpDepth ≤ connection.pendingReceiveIds.length then
    (.error { code := .runtime, message := "CPU receive queue has no available credit" },
      connection)
  else
    match answer with
    | some reason => (.error (verbsError reason), connection)
    | none =>
        let wrId := connection.nextReceiveWrId
        (.ok (), { connection.ibvPostRecv wrId with
          nextReceiveWrId := nextWrId wrId
          pendingReceiveIds := connection.pendingReceiveIds ++ [wrId] })

/-- A single refused request is not posted, and its identifier is used again. -/
def postSend (connection : Connection) (region : MemoryRegion) (length : UInt32)
    (answer : PostAnswer) : Except Error UInt64 × Connection :=
  if !connection.validLocalRegion region 0 length then
    (.error (invalidArgument "invalid send length"), connection)
  else
    let wrId := connection.nextSendWrId
    let sge : IbvSge := {
      address := region.address
      length := length
      localKey := region.localKey }
    match answer with
    | .refused _ reason => (.error (verbsError reason), connection)
    | .accepted =>
        (.ok wrId, { connection.ibvPostSend
          [{ wrId := wrId, sge := sge, opcode := .send, signaled := true }] with
          nextSendWrId := nextWrId wrId })

/-- The work requests of a batch from its first request on. Identifiers are
used up one by one, also when a later request is refused. -/
def prepareTransfers (opcode : WrOpcode) :
    List TransferRequest → Connection → Option (List IbvSendWr) × Connection
  | [], connection => (some [], connection)
  | request :: requests, connection =>
      match request.region with
      | none => (none, connection)
      | some region =>
          if !connection.validTransfer region request then (none, connection)
          else
            let wr : IbvSendWr := {
              wrId := connection.nextSendWrId
              sge := {
                address := region.address + request.localOffset
                length := request.length
                localKey := region.localKey }
              opcode := opcode
              signaled := requests.isEmpty
              remoteAddress := request.remoteAddress
              remoteKey := request.remoteKey }
            let (wrs, connection) := prepareTransfers opcode requests
              { connection with nextSendWrId := nextWrId connection.nextSendWrId }
            (wrs.map (wr :: ·), connection)

def postTransferBatch (connection : Connection) (opcode : WrOpcode)
    (requests : List TransferRequest) (answer : PostAnswer) :
    Except Error (List UInt64) × Connection :=
  if !connection.created || !connection.connected || requests.isEmpty then
    (.error (invalidArgument "invalid RDMA transfer batch"), connection)
  else
    match prepareTransfers opcode requests connection with
    | (none, connection) => (.error (invalidArgument "invalid RDMA transfer range"), connection)
    | (some wrs, connection) =>
        match answer with
        | .refused accepted reason =>
            (.error (verbsError reason), connection.ibvPostSend (wrs.dropLast.take accepted))
        | .accepted => (.ok (wrs.map fun wr => wr.wrId), connection.ibvPostSend wrs)

def timedOut : Error := verbsError "timed out waiting for verbs completion"

/-- The oldest completion leaves the queue. -/
def takeEntry (connection : Connection) (completion : IbvWc) (entries : List IbvWc) :
    Connection :=
  { connection with
    entries := entries
    taken := connection.taken ++ [completion] }

/-- A completion that another wait will look for. -/
def park (connection : Connection) (completion : IbvWc) : Connection :=
  { connection with pendingCompletions := connection.pendingCompletions ++ [completion] }

/-- The polling loop, until the deadline. -/
def pollLoop (opcode : WcOpcode) (expectedWrId : UInt64) :
    List Look → Connection → Except Error IbvWc × Connection
  | [], connection => (.error timedOut, connection)
  | look :: looks, connection =>
      let connection := look.arrivals.foldl arrive connection
      match look.answer, connection.entries with
      | .failed, _ => (.error (verbsError "verbs CQ polling failed"), connection)
      | .empty, _ | .ready, [] => pollLoop opcode expectedWrId looks connection
      | .ready, completion :: entries =>
          let connection := connection.takeEntry completion entries
          if completion.opcode = opcode ∧ completion.wrId = expectedWrId then
            (.ok completion, connection)
          else pollLoop opcode expectedWrId looks (connection.park completion)

/-- Parked completions are searched first, and then nothing is polled. -/
def pollMatching (connection : Connection) (opcode : WcOpcode) (expectedWrId : UInt64)
    (looks : List Look) : Except Error IbvWc × Connection :=
  if !connection.created then
    (.error (invalidArgument "CPU verbs QP is not created"), connection)
  else
    match connection.pendingCompletions.find? fun completion =>
        completion.opcode = opcode ∧ completion.wrId = expectedWrId with
    | some completion =>
        (.ok completion, { connection with
          pendingCompletions := connection.pendingCompletions.eraseP fun completion =>
            completion.opcode = opcode ∧ completion.wrId = expectedWrId })
    | none => pollLoop opcode expectedWrId looks connection

/-- Remember which completion a wait returned. -/
def recordReturned (connection : Connection) (request : Signaled) :
    Except Error IbvWc → Connection
  | .error _ => connection
  | .ok completion =>
      { connection with returned := connection.returned ++ [(request, completion)] }

def unexpectedCompletion (completion : IbvWc) : Error :=
  verbsError ("unexpected verbs completion (status " ++ toString completion.status ++
    ", opcode " ++ toString completion.opcode.code ++ ", wr_id " ++ toString completion.wrId ++
    ", vendor error " ++ toString completion.vendorErr ++ ")")

def unexpectedReceive (expectedWrId : UInt64) (completion : IbvWc) : Error :=
  verbsError ("unexpected receive completion (status " ++ toString completion.status ++
    ", opcode " ++ toString completion.opcode.code ++ ", wr_id " ++ toString completion.wrId ++
    ", expected " ++ toString expectedWrId ++ ", vendor error " ++
    toString completion.vendorErr ++ ")")

/-- What a wait makes of the completion it found. -/
def judge (opcode : WcOpcode) (expectedWrId : UInt64) (refusal : IbvWc → Error) :
    Except Error IbvWc → Except Error Unit
  | .error error => .error error
  | .ok completion =>
      if completion.status ≠ kWcSuccess ∨ completion.opcode ≠ opcode ∨
          completion.wrId ≠ expectedWrId then .error (refusal completion)
      else .ok ()

def poll (connection : Connection) (opcode : WcOpcode) (expectedWrId : UInt64)
    (looks : List Look) : Except Error Unit × Connection :=
  let (found, connection) := connection.pollMatching opcode expectedWrId looks
  (judge opcode expectedWrId unexpectedCompletion found,
    connection.recordReturned { opcode := opcode, wrId := expectedWrId } found)

def kMaxTimeout : UInt32 := 0x7fffffff

def waitReceive (connection : Connection) (timeoutMs : UInt32) (looks : List Look) :
    Except Error Unit × Connection :=
  if timeoutMs = 0 ∨ timeoutMs > kMaxTimeout then
    (.error (invalidArgument "CPU transport completion timeout is outside the supported range"),
      connection)
  else
    match connection.pendingReceiveIds with
    | [] =>
        (.error (invalidArgument "CPU receive completion has no pending receive"), connection)
    | expectedWrId :: rest =>
        match connection.pollMatching .recv expectedWrId looks with
        | (.error error, connection) => (.error error, connection)
        | (.ok completion, connection) =>
            (judge .recv expectedWrId (unexpectedReceive expectedWrId) (.ok completion),
              { connection.recordReturned { opcode := .recv, wrId := expectedWrId }
                  (.ok completion) with
                pendingReceiveIds := rest })

end Connection

end NdsStorage.Server.Endpoint
