import NdsStorage.Interaction.Safety
import NdsStorage.Negotiation.TransportInfo

/-! The exchange of queue pairs over a byte stream. Client and server are
programs over calls on their socket and on their endpoint. A read or write
moves some of the bytes asked for; one that a signal interrupts is made again
and counts as one call. -/
namespace NdsStorage.Negotiation

open Bytes Interaction

/-- Calls on the socket, and on the endpoint for the queue pairs it holds. -/
inductive Call where
  | openEndpoint
  | connect
  | accept
  | read (length : Nat)
  | write (bytes : Buffer)
  | createQp
  | localQpInfo (index : Nat)
  | qpIdentity (index : Nat)
  | connectQp (index : Nat) (peer : QpInfo)
  | makeReady

abbrev Call.Answer : Call → Type
  | .openEndpoint | .connect | .accept | .createQp | .connectQp _ _ | .makeReady =>
      Except Error Unit
  | .read _ => Except Error Buffer
  | .write _ => Except Error Nat
  | .localQpInfo _ => Except Error QpInfo
  | .qpIdentity _ => QpInfo

/-- A party stops with an error, or it would leave the bounds of an array. -/
inductive Failure where
  | error (error : Error)
  | overrun
deriving DecidableEq, Repr

abbrev PartyProgram := Fallible Call Call.Answer Failure

def attempt {Result : Type} (call : Program Call Call.Answer (Except Error Result)) :
    PartyProgram Result :=
  ExceptT.mk (call.bind fun outcome => .done (outcome.mapError .error))

def stop {Result : Type} (code : ErrorCode) (message : String) : PartyProgram Result :=
  ExceptT.mk (.done (.error (.error { code := code, message := message })))

/-- Every read moves at least one byte, so as many rounds as bytes are enough. -/
def readFull : Nat → Nat → PartyProgram Buffer
  | 0, _ => pure []
  | rounds + 1, length =>
      if length = 0 then pure []
      else do
        let chunk ← attempt (.ask (Call.read length))
        if chunk = [] then stop .transport "peer closed exchange channel"
        else
          let rest ← readFull rounds (length - chunk.length)
          pure (chunk ++ rest)

def writeFull : Nat → Buffer → PartyProgram Unit
  | 0, _ => pure ()
  | rounds + 1, bytes =>
      if bytes = [] then pure ()
      else do
        let count ← attempt (.ask (Call.write bytes))
        writeFull rounds (bytes.drop count)

def sendTransportInfo (info : TransportInfo) : PartyProgram Unit :=
  match encodeTransportInfo info with
  | .error _ => stop .transport "cannot encode transport information"
  | .ok encoded => writeFull encoded.length encoded

def receiveTransportInfo : PartyProgram TransportInfo := do
  let encoded ← readFull kTransportInfoBytes kTransportInfoBytes
  match decodeTransportInfo encoded with
  | .error _ => stop .transport "invalid transport information"
  | .ok info => pure info

/-- Copy identities to the front of the array of a record. -/
def copyQps (items : List QpInfo) : PartyProgram (Vector QpInfo 16) :=
  if items.length ≤ kMaxQpInfoBatch then pure (fillQps items)
  else ExceptT.mk (.done (.error .overrun))

/-- Connect a queue pair with the identity at its index. -/
def connectQp (peer : TransportInfo) (index : Nat) : PartyProgram Unit :=
  match peer.qps[index]? with
  | none => ExceptT.mk (.done (.error .overrun))
  | some qp => attempt (.ask (Call.connectQp index qp))

def timeoutValid (timeoutMs : UInt32) : Bool := !(timeoutMs = 0 || timeoutMs > 0x7fffffff)

structure ClientConfig where
  qpCount : UInt32
  tcpTimeoutMs : UInt32
deriving DecidableEq, Repr

structure ServerConfig where
  maxQpCount : UInt32
  completionTimeoutMs : UInt32
deriving DecidableEq, Repr

def createClientQp (index : Nat) : PartyProgram QpInfo := do
  attempt (.ask Call.createQp)
  attempt (.ask (Call.localQpInfo index))

def createServerQp (index : Nat) : PartyProgram QpInfo := do
  attempt (.ask Call.createQp)
  ExceptT.lift (.ask (Call.qpIdentity index))

/-- The client opens its transport. -/
def clientOpen (config : ClientConfig) : PartyProgram Unit := do
  if config.qpCount = 0 ∨ config.qpCount > 16 then
    stop .invalidArgument "transport QP count is outside the supported batch limit"
  else if !timeoutValid config.tcpTimeoutMs then
    stop .invalidArgument "transport TCP timeout is outside the supported range"
  else
    attempt (.ask Call.openEndpoint)
    attempt (.ask Call.connect)
    sendTransportInfo { kind := .qpCountRequest, qpCount := config.qpCount, qps := noQps }
    let response ← receiveTransportInfo
    if response.kind ≠ .qpCountResponse ∨ response.qpCount = 0 ∨
        response.qpCount > config.qpCount then
      stop .transport "invalid accepted QP count"
    else
      let accepted := response.qpCount
      let localQps ← Fallible.collect createClientQp (List.range accepted.toNat)
      let qps ← copyQps localQps
      sendTransportInfo { kind := .qpEndpoints, qpCount := accepted, qps := qps }
      let peer ← receiveTransportInfo
      if peer.kind ≠ .qpEndpoints ∨ peer.qpCount ≠ accepted then
        stop .transport "peer returned mismatched QP information"
      else
        let _ ← Fallible.collect (connectQp peer) (List.range accepted.toNat)
        attempt (.ask Call.makeReady)

/-- The server opens its transport for a negotiated count. -/
def serverOpen (config : ServerConfig) (qpCount : UInt32) : PartyProgram Unit := do
  if qpCount = 0 ∨ qpCount > config.maxQpCount ∨ qpCount > 16 then
    stop .invalidArgument "invalid negotiated QP count"
  else if !timeoutValid config.completionTimeoutMs then
    stop .invalidArgument "invalid CPU transport completion timeout"
  else
    attempt (.ask Call.openEndpoint)
    let localQps ← Fallible.collect createServerQp (List.range qpCount.toNat)
    let peer ← receiveTransportInfo
    if peer.kind ≠ .qpEndpoints ∨ peer.qpCount ≠ qpCount then
      stop .transport "peer returned mismatched QP information"
    else
      let qps ← copyQps localQps
      sendTransportInfo { kind := .qpEndpoints, qpCount := qpCount, qps := qps }
      let _ ← Fallible.collect (connectQp peer) (List.range qpCount.toNat)
      pure ()

/-- The listener accepts a connection and answers its count. -/
def serverAccept (config : ServerConfig) : PartyProgram Unit := do
  attempt (.ask Call.accept)
  let request ← receiveTransportInfo
  if request.kind ≠ .qpCountRequest then stop .transport "expected a QP-count request"
  else
    let qpCount := min request.qpCount config.maxQpCount
    sendTransportInfo { kind := .qpCountResponse, qpCount := qpCount, qps := noQps }
    serverOpen config qpCount

/-- What a party has done: the bytes moved, the queue pairs it holds with the
identities it was told for them, and the connections it made. -/
structure PartyLog where
  reads : Buffer
  writes : Buffer
  held : Nat
  localQps : List QpInfo
  connected : List (Nat × QpInfo)
deriving DecidableEq, Repr

def PartyLog.blank : PartyLog where
  reads := []
  writes := []
  held := 0
  localQps := []
  connected := []

/-- Any call may fail. The bytes that a read finds are the peer's choice. -/
def reply (log : PartyLog) : (call : Call) → call.Answer → PartyLog → Prop
  | .read length, .ok chunk, log' =>
      chunk.length ≤ length ∧ log' = { log with reads := log.reads ++ chunk }
  | .write bytes, .ok count, log' =>
      0 < count ∧ count ≤ bytes.length ∧ log' = { log with writes := log.writes ++ bytes.take count }
  | .createQp, .ok (), log' => log' = { log with held := log.held + 1 }
  | .localQpInfo _, .ok info, log' => log' = { log with localQps := log.localQps ++ [info] }
  | .qpIdentity _, info, log' => log' = { log with localQps := log.localQps ++ [info] }
  | .connectQp index peer, .ok (), log' =>
      log' = { log with connected := log.connected ++ [(index, peer)] }
  | _, _, log' => log' = log

/-- A party facing an arbitrary peer. -/
def party : Environment PartyLog Call Call.Answer where
  drift := fun _ _ => False
  reply := reply

end NdsStorage.Negotiation
