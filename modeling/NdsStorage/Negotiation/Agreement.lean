import NdsStorage.Negotiation.PartyRules
import Mathlib.Logic.Function.Iterate

/-! Both ends of the exchange agree. Two parties on one channel read what the
other has written, so that their messages match. Against any other peer a party
still keeps to its limits. -/
namespace NdsStorage.Negotiation

open Bytes Interaction

/-- A party in the middle of its run. -/
abbrev Party := Program Call Call.Answer (Except Failure Unit) × PartyLog

section Alone

variable {limit : Nat} {next : Unit → PartyLog → Prop} {program : PartyProgram Unit}
  {state : Party}

/-- What no peer can make a party violate. -/
structure WithinLimits (limit : Nat) (state : Party) : Prop where
  held_le : state.2.held ≤ limit
  connected_valid : ∀ entry ∈ state.2.connected, validateQpInfo entry.2 = true
  connects_valid : ∀ index peer rest, state.1 = .call (.connectQp index peer) rest →
    validateQpInfo peer = true
  no_overrun : state.1 ≠ .done (.error .overrun)

theorem party_stable (assertion : PartyLog → Prop) : party.Stable assertion :=
  fun _ _ hDrift => hDrift.elim

/-- A permitted call keeps the limit and adds only checked connections. -/
theorem reply_limits {log log' : PartyLog} {call : Call} {answer : call.Answer}
    (h : log.held ≤ limit ∧ ∀ entry ∈ log.connected, validateQpInfo entry.2 = true)
    (hAllowed : allowed limit log call) (hReply : reply log call answer log') :
    log'.held ≤ limit ∧ ∀ entry ∈ log'.connected, validateQpInfo entry.2 = true := by
  unfold reply at hReply
  split at hReply
  · rw [hReply.2]
    exact h
  · rw [hReply.2.2]
    exact h
  · rw [hReply]
    exact ⟨hAllowed, h.2⟩
  · rw [hReply]
    exact h
  · rw [hReply]
    exact h
  · rw [hReply]
    refine ⟨h.1, fun entry hEntry => ?_⟩
    rcases List.mem_append.mp hEntry with hOld | hNew
    · exact h.2 entry hOld
    · rw [List.mem_singleton.mp hNew]
      exact hAllowed.2
  · rw [hReply]
    exact h

/-- Wherever a party stops, it holds no more queue pairs than its limit. -/
theorem Keeps.withinLimits (h : Keeps limit program .blank next)
    (hRun : party.Reaches (program.run, PartyLog.blank) state) : WithinLimits limit state := by
  have hSafe := Safe.reaches (fun _ => party_stable _) hRun h
  have hLog := Safe.always (fun _ => party_stable _) (party_stable _)
    (fun _ _ _ _ hHere hAllowed hReply => reply_limits hHere hAllowed hReply) hRun h
    (show PartyLog.blank.held ≤ limit ∧ ∀ entry ∈ PartyLog.blank.connected,
      validateQpInfo entry.2 = true from ⟨Nat.zero_le _, by simp [PartyLog.blank]⟩)
  obtain ⟨current, log⟩ := state
  exact {
    held_le := hLog.1
    connected_valid := hLog.2
    connects_valid := by
      rintro index peer rest rfl
      exact (hSafe _ Relation.ReflTransGen.refl).1.2
    no_overrun := by
      rintro rfl
      exact hSafe }

end Alone

section Channel

/-- The two ends of one connection. -/
structure Ends where
  client : Party
  server : Party

namespace Ends

variable {ends ends' : Ends}

/-- Either party moves on. What it reads is what the other has written, in order. -/
inductive Step : Ends → Ends → Prop
  | client {ends : Ends} {client' : Party} (hStep : party.Step ends.client client')
      (hStream : client'.2.reads <+: ends.server.2.writes) :
      Step ends { ends with client := client' }
  | server {ends : Ends} {server' : Party} (hStep : party.Step ends.server server')
      (hStream : server'.2.reads <+: ends.client.2.writes) :
      Step ends { ends with server := server' }

def Reaches : Ends → Ends → Prop := Relation.ReflTransGen Step

def initial (clientConfig : ClientConfig) (serverConfig : ServerConfig) : Ends where
  client := ((clientOpen clientConfig).run, .blank)
  server := ((serverAccept serverConfig).run, .blank)

/-- Bytes once written stay written. -/
theorem writes_grow {state state' : Party} (h : party.Step state state') :
    state.2.writes <+: state'.2.writes := by
  cases h with
  | drift hDrift => exact hDrift.elim
  | @reply request rest log log' answer hReply =>
      change reply log request answer log' at hReply
      show log.writes <+: log'.writes
      unfold reply at hReply
      split at hReply
      · obtain ⟨-, rfl⟩ := hReply
        exact List.prefix_refl _
      · obtain ⟨-, -, rfl⟩ := hReply
        exact List.prefix_append ..
      all_goals
        subst hReply
        exact List.prefix_refl _

/-- Each end runs on its own, and reads a prefix of what the other wrote. -/
theorem Reaches.split (h : Reaches ends ends')
    (hClient : ends.client.2.reads <+: ends.server.2.writes)
    (hServer : ends.server.2.reads <+: ends.client.2.writes) :
    party.Reaches ends.client ends'.client ∧ party.Reaches ends.server ends'.server ∧
      ends'.client.2.reads <+: ends'.server.2.writes ∧
      ends'.server.2.reads <+: ends'.client.2.writes := by
  induction h with
  | refl => exact ⟨.refl, .refl, hClient, hServer⟩
  | tail _ hStep ih =>
      obtain ⟨hLeft, hRight, hToClient, hToServer⟩ := ih
      cases hStep with
      | client hMove hStream =>
          exact ⟨hLeft.tail hMove, hRight, hStream, hToServer.trans (writes_grow hMove)⟩
      | server hMove hStream =>
          exact ⟨hLeft, hRight.tail hMove, hToClient.trans (writes_grow hMove), hStream⟩

end Ends

/-- Two messages on each side: the second party read what the first one wrote. -/
theorem messages_eq {first second first' second' : Buffer} (hFirst : first.length = first'.length)
    (hSecond : second.length = second'.length)
    (h : first ++ second <+: first' ++ second') : first = first' ∧ second = second' := by
  have hAll := List.IsPrefix.eq_of_length h (by
    rw [List.length_append, List.length_append, hFirst, hSecond])
  exact List.append_inj hAll hFirst

/-- What is received is what was sent, but for the places it does not carry. -/
theorem Received.eq {bytes : Buffer} {info sent : TransportInfo} (h : Received bytes info)
    (hSent : encodeTransportInfo sent = .ok bytes) :
    info = { sent with qps := fillQps sent.carried } :=
  Except.ok.inj (h.decoded.symm.trans (decodeTransportInfo_encoded hSent))

/-- The identities that arrive are those that were sent. -/
theorem Received.visited_eq {bytes : Buffer} {info : TransportInfo} {count : UInt32}
    {localQps : List QpInfo} (h : Received bytes info)
    (hSent : encodeTransportInfo (endpoints count localQps) = .ok bytes)
    (hLength : localQps.length = count.toNat) : info.visited = localQps := by
  obtain ⟨-, hBatch, -⟩ := encodeTransportInfo_ok hSent
  have hCount := UInt32.le_iff_toNat_le.mp hBatch
  change count.toNat ≤ 16 at hCount
  have hFilled : (fillQps localQps).toList.take count.toNat = localQps := by
    rw [← hLength]
    exact fillQps_take (by omega)
  have hCarried : (endpoints count localQps).carried = localQps := hFilled
  rw [h.eq hSent, hCarried]
  exact hFilled

/-- Both ends hold the same number of queue pairs, connected index by index. -/
structure Agreed (count : UInt32) (clientLog serverLog : PartyLog) : Prop where
  client_held : clientLog.held = count.toNat
  server_held : serverLog.held = count.toNat
  client_qps : clientLog.localQps.length = count.toNat
  server_qps : serverLog.localQps.length = count.toNat
  client_connected : clientLog.connected = (List.range count.toNat).zip serverLog.localQps
  server_connected : serverLog.connected = (List.range count.toNat).zip clientLog.localQps

/-- Two parties that are done have negotiated the same. -/
theorem agreed_of_done {clientConfig : ClientConfig} {serverConfig : ServerConfig}
    {clientLog serverLog : PartyLog} {clientCount serverCount : UInt32}
    {clientPeer serverPeer : TransportInfo}
    (hClient : ClientDone clientConfig clientLog clientCount clientPeer)
    (hServer : ServerDone serverConfig serverLog serverCount serverPeer)
    (hToClient : clientLog.reads <+: serverLog.writes)
    (hToServer : serverLog.reads <+: clientLog.writes) :
    Agreed (min clientConfig.qpCount serverConfig.maxQpCount) clientLog serverLog := by
  obtain ⟨request, clientIds, hRequest, hClientIds, hClientWrites⟩ := hClient.writes_eq
  obtain ⟨answer', serverIds', response, hAnswer', -, hResponse, hServerIds', hClientReads⟩ :=
    hClient.reads_eq
  obtain ⟨request', clientIds', question, hRequest', hCount, hClientIds', hServerReads⟩ :=
    hServer.reads_eq
  obtain ⟨answer, serverIds, hAnswer, hServerIds, hServerWrites⟩ := hServer.writes_eq
  -- The server read the client's two messages.
  rw [hServerReads, hClientWrites] at hToServer
  obtain ⟨rfl, rfl⟩ := messages_eq
    (hRequest'.length_eq.trans (encodeTransportInfo_length hRequest).symm)
    (hClientIds'.length_eq.trans (encodeTransportInfo_length hClientIds).symm) hToServer
  -- The client read the server's two messages.
  rw [hClientReads, hServerWrites] at hToClient
  obtain ⟨rfl, rfl⟩ := messages_eq
    (hAnswer'.length_eq.trans (encodeTransportInfo_length hAnswer).symm)
    (hServerIds'.length_eq.trans (encodeTransportInfo_length hServerIds).symm) hToClient
  have hQuestion := hRequest'.eq hRequest
  have hResponded := hAnswer'.eq hAnswer
  subst hQuestion hResponded
  obtain rfl : serverCount = clientCount := hResponse
  obtain rfl : serverCount = min clientConfig.qpCount serverConfig.maxQpCount := hCount
  have hClientSide := hClientIds'.visited_eq hClientIds hClient.opened.localQps_length
  have hServerSide := hServerIds'.visited_eq hServerIds hServer.opened.localQps_length
  exact {
    client_held := hClient.opened.held_eq
    server_held := hServer.opened.held_eq
    client_qps := hClient.opened.localQps_length
    server_qps := hServer.opened.localQps_length
    client_connected := by rw [hClient.opened.connected_eq, hServerSide]
    server_connected := by rw [hServer.opened.connected_eq, hClientSide] }

/-- Negotiation agrees on one channel, and stays within limits against any peer. -/
theorem negotiation_agrees (clientConfig : ClientConfig) (serverConfig : ServerConfig) :
    (∀ clientLog serverLog, Ends.Reaches (Ends.initial clientConfig serverConfig) {
        client := (.done (.ok ()), clientLog)
        server := (.done (.ok ()), serverLog) } →
      Agreed (min clientConfig.qpCount serverConfig.maxQpCount) clientLog serverLog) ∧
    (∀ state, party.Reaches ((clientOpen clientConfig).run, PartyLog.blank) state →
      WithinLimits clientConfig.qpCount.toNat state) ∧
    ∀ state, party.Reaches ((serverAccept serverConfig).run, PartyLog.blank) state →
      WithinLimits serverConfig.maxQpCount.toNat state := by
  have hClient := clientOpen_keeps clientConfig
  have hServer := serverAccept_keeps serverConfig
  refine ⟨?_, fun state => hClient.withinLimits, fun state => hServer.withinLimits⟩
  intro clientLog serverLog hRun
  obtain ⟨hLeft, hRight, hToClient, hToServer⟩ := hRun.split List.nil_prefix List.nil_prefix
  obtain ⟨_, _, hClientDone⟩ := Safe.reaches (fun _ => party_stable _) hLeft hClient
  obtain ⟨_, _, hServerDone⟩ := Safe.reaches (fun _ => party_stable _) hRight hServer
  exact agreed_of_done hClientDone hServerDone hToClient hToServer

end Channel

section Schedule

/-- The identity of a queue pair in a run where nothing fails. -/
def sampleQp (held : Nat) : QpInfo where
  qpNum := UInt32.ofNat (held + 16)
  psn := 7
  portNum := 1
  gidIndex := 0
  pathMtu := 4096
  trafficClass := 0
  serviceLevel := 0
  retryCount := 7
  retryTimeout := 14
  gid := Vector.replicate 16 0

/-- The answer to a call in such a run. A read without bytes has to wait, and
no call moves more than 700 bytes. -/
def answer (peerWrites : Buffer) (log : PartyLog) : (call : Call) → Option (call.Answer × PartyLog)
  | .read length =>
      let chunk := (peerWrites.drop log.reads.length).take (min length 700)
      if chunk = [] then none
      else some (.ok chunk, { log with reads := log.reads ++ chunk })
  | .write bytes =>
      let count := min bytes.length 700
      if count = 0 then none
      else some (.ok count, { log with writes := log.writes ++ bytes.take count })
  | .createQp => some (.ok (), { log with held := log.held + 1 })
  | .localQpInfo index =>
      some (.ok (sampleQp index), { log with localQps := log.localQps ++ [sampleQp index] })
  | .qpIdentity index =>
      some (sampleQp index, { log with localQps := log.localQps ++ [sampleQp index] })
  | .connectQp index peer =>
      some (.ok (), { log with connected := log.connected ++ [(index, peer)] })
  | .openEndpoint | .connect | .accept | .makeReady => some (.ok (), log)

/-- An answer that is computed is one of the possible ones. -/
theorem answer_reply {peerWrites : Buffer} {log log' : PartyLog} {call : Call}
    {given : call.Answer} (h : answer peerWrites log call = some (given, log')) :
    reply log call given log' := by
  cases call with
  | read length =>
      unfold answer at h
      dsimp only at h
      split at h
      · cases h
      · cases h
        exact ⟨Nat.le_trans (List.length_take_le ..) (Nat.min_le_left ..), rfl⟩
  | write bytes =>
      unfold answer at h
      dsimp only at h
      split at h
      · cases h
      · rename_i hSome
        cases h
        exact ⟨Nat.pos_of_ne_zero hSome, Nat.min_le_left .., rfl⟩
  | _ =>
      cases h
      rfl

/-- One party moves if its call can be answered from what the other wrote. -/
def move (peerWrites : Buffer) (state : Party) : Option Party :=
  match state.1 with
  | .done _ => none
  | .call request rest =>
      match answer peerWrites state.2 request with
      | none => none
      | some (given, log) => if log.reads <+: peerWrites then some (rest given, log) else none

theorem move_step {peerWrites : Buffer} {state state' : Party}
    (h : move peerWrites state = some state') :
    party.Step state state' ∧ state'.2.reads <+: peerWrites := by
  obtain ⟨program, log⟩ := state
  unfold move at h
  split at h
  · cases h
  · rename_i request rest hProgram
    dsimp only at hProgram
    subst hProgram
    split at h
    · cases h
    · rename_i given log' hAnswer
      split at h
      · rename_i hStream
        cases h
        exact ⟨.reply (answer_reply hAnswer), hStream⟩
      · cases h

/-- The client moves where it can, and else the server. -/
def Ends.advance (ends : Ends) : Ends :=
  match move ends.server.2.writes ends.client with
  | some client' => { ends with client := client' }
  | none =>
      match move ends.client.2.writes ends.server with
      | some server' => { ends with server := server' }
      | none => ends

/-- Advancing both ends is a run. -/
theorem Ends.advance_reaches (ends : Ends) : Ends.Reaches ends ends.advance := by
  unfold Ends.advance
  split
  · rename_i client' hMove
    exact .single (.client (move_step hMove).1 (move_step hMove).2)
  · split
    · rename_i server' hMove
      exact .single (.server (move_step hMove).1 (move_step hMove).2)
    · exact .refl

theorem Ends.iterate_reaches (count : Nat) (ends : Ends) :
    Ends.Reaches ends (Ends.advance^[count] ends) := by
  induction count generalizing ends with
  | zero => exact .refl
  | succ count ih => exact ends.advance_reaches.trans (ih ends.advance)

def Party.succeeded (state : Party) : Bool :=
  match state.1 with
  | .done (.ok ()) => true
  | _ => false

theorem Party.eq_of_succeeded {state : Party} (h : Party.succeeded state = true) :
    state = (.done (.ok ()), state.2) := by
  obtain ⟨program, log⟩ := state
  unfold Party.succeeded at h
  split at h
  · rename_i hProgram
    dsimp only at hProgram
    rw [hProgram]
  · cases h

def threeWanted : ClientConfig := { qpCount := 3, tcpTimeoutMs := 1000 }

def twoOffered : ServerConfig := { maxQpCount := 2, completionTimeoutMs := 1000 }

/-- A client that asks for three queue pairs and a server that offers two end
up with two each. -/
theorem negotiation_agrees_two : ∃ clientLog serverLog,
    Ends.Reaches (Ends.initial threeWanted twoOffered) {
      client := (.done (.ok ()), clientLog)
      server := (.done (.ok ()), serverLog) } ∧
    Agreed 2 clientLog serverLog := by
  have hRun := Ends.iterate_reaches 40 (Ends.initial threeWanted twoOffered)
  have hFinished : Party.succeeded (Ends.advance^[40] (Ends.initial threeWanted twoOffered)).client
      = true ∧ Party.succeeded (Ends.advance^[40] (Ends.initial threeWanted twoOffered)).server
      = true := by decide +kernel
  generalize Ends.advance^[40] (Ends.initial threeWanted twoOffered) = ends at hRun hFinished
  obtain ⟨client, server⟩ := ends
  have hClient : client = (.done (.ok ()), client.2) := Party.eq_of_succeeded hFinished.1
  have hServer : server = (.done (.ok ()), server.2) := Party.eq_of_succeeded hFinished.2
  rw [hClient, hServer] at hRun
  exact ⟨_, _, hRun, (negotiation_agrees threeWanted twoOffered).1 _ _ hRun⟩

end Schedule

end NdsStorage.Negotiation
