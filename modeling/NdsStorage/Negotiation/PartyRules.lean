import NdsStorage.Negotiation.Exchange

/-! Each party of the exchange is followed on its own, against a peer that sends
whatever it likes. A party that succeeds has written and read two messages. -/
namespace NdsStorage.Negotiation

open Bytes Interaction

section Calls

variable {limit : Nat} {log : PartyLog} {Result First Second : Type}

/-- Queue pairs are created within the limit, and connected with checked identities. -/
def allowed (limit : Nat) (log : PartyLog) : Call → Prop
  | .createQp => log.held < limit
  | .connectQp index peer => index < log.held ∧ validateQpInfo peer = true
  | _ => True

/-- No party leaves the bounds of its array. -/
def inBounds : Failure → PartyLog → Prop
  | .error _, _ => True
  | .overrun, _ => False

/-- A program that keeps to what is allowed and hands on `next` where it succeeds. -/
def Keeps (limit : Nat) (program : PartyProgram Result) (log : PartyLog)
    (next : Result → PartyLog → Prop) : Prop :=
  Safe party (allowed limit) (Safe.outcome inBounds next) program.run log

theorem drifts_eq {log' : PartyLog} (h : party.Drifts log log') : log' = log := by
  induction h with
  | refl => rfl
  | tail _ hDrift _ => exact hDrift.elim

/-- A call is allowed and leaves what its answers leave. -/
theorem ask_safe {call : Call} {post : call.Answer → PartyLog → Prop}
    (hAllowed : allowed limit log call)
    (hReply : ∀ answer log', reply log call answer log' → post answer log') :
    Safe party (allowed limit) post (.ask call) log := by
  intro log' hDrifts
  rw [drifts_eq hDrifts]
  exact ⟨hAllowed, hReply⟩

theorem attempt_keeps {program : Program Call Call.Answer (Except Error Result)}
    {next : Result → PartyLog → Prop}
    (h : Safe party (allowed limit) (fun outcome log => ∀ value, outcome = .ok value →
      next value log) program log) : Keeps limit (attempt program) log next := by
  apply Safe.bind
  apply Safe.weaken h
  intro outcome log hOutcome
  cases outcome with
  | error failure => exact trivial
  | ok value => exact hOutcome value rfl

theorem stop_keeps {next : Result → PartyLog → Prop} (code : ErrorCode) (message : String) :
    Keeps limit (stop code message) log next :=
  trivial

theorem seq_keeps (middle : First → PartyLog → Prop) {next : Second → PartyLog → Prop}
    {first : PartyProgram First} {rest : First → PartyProgram Second}
    (hFirst : Keeps limit first log middle)
    (hRest : ∀ value log, middle value log → Keeps limit (rest value) log next) :
    Keeps limit (first >>= rest) log next :=
  Safe.seqFallible middle hFirst hRest

theorem openEndpoint_keeps :
    Keeps limit (attempt (.ask Call.openEndpoint)) log fun _ log' => log' = log :=
  attempt_keeps (ask_safe trivial fun _ _ hReply _ _ => hReply)

theorem connect_keeps : Keeps limit (attempt (.ask Call.connect)) log fun _ log' => log' = log :=
  attempt_keeps (ask_safe trivial fun _ _ hReply _ _ => hReply)

theorem accept_keeps : Keeps limit (attempt (.ask Call.accept)) log fun _ log' => log' = log :=
  attempt_keeps (ask_safe trivial fun _ _ hReply _ _ => hReply)

/-- Making the queue pairs ready creates none. -/
theorem makeReady_keeps : Keeps limit (attempt (.ask Call.makeReady)) log fun _ log' => log' = log :=
  attempt_keeps (ask_safe trivial fun _ _ hReply _ _ => hReply)

end Calls

section Stream

variable {limit : Nat} {log : PartyLog}

/-- However the stream is cut, a full read returns the next bytes of it. -/
theorem readFull_keeps {rounds length : Nat} (hRounds : length ≤ rounds) :
    Keeps limit (readFull rounds length) log fun bytes log' =>
      bytes.length = length ∧ log' = { log with reads := log.reads ++ bytes } := by
  induction rounds generalizing length log with
  | zero =>
      obtain rfl : length = 0 := Nat.le_zero.mp hRounds
      exact ⟨rfl, by simp⟩
  | succ rounds ih =>
      unfold readFull
      split
      · rename_i hZero
        exact ⟨hZero.symm, by simp⟩
      · refine seq_keeps (fun chunk log' => chunk.length ≤ length ∧
          log' = { log with reads := log.reads ++ chunk }) ?_ ?_
        · refine attempt_keeps (ask_safe ?_ ?_)
          · trivial
          · intro answer log' hReply chunk hChunk
            subst hChunk
            exact hReply
        · rintro chunk _ ⟨hChunk, rfl⟩
          split
          · exact stop_keeps ..
          · rename_i hSome
            have hPositive := List.length_pos_iff.mpr hSome
            refine seq_keeps _ (ih (by omega)) ?_
            rintro rest _ ⟨hRest, rfl⟩
            refine ⟨?_, ?_⟩
            · rw [List.length_append, hRest]
              omega
            · simp

/-- A message is written in full before the program goes on. -/
theorem writeFull_keeps {rounds : Nat} {bytes : Buffer} (hRounds : bytes.length ≤ rounds) :
    Keeps limit (writeFull rounds bytes) log fun _ log' =>
      log' = { log with writes := log.writes ++ bytes } := by
  induction rounds generalizing bytes log with
  | zero =>
      obtain rfl : bytes = [] := List.length_eq_zero_iff.mp (Nat.le_zero.mp hRounds)
      exact (by simp : log = { log with writes := log.writes ++ [] })
  | succ rounds ih =>
      unfold writeFull
      split
      · rename_i hNone
        subst hNone
        exact (by simp : log = { log with writes := log.writes ++ [] })
      · refine seq_keeps (fun count log' => 0 < count ∧ count ≤ bytes.length ∧
          log' = { log with writes := log.writes ++ bytes.take count }) ?_ ?_
        · refine attempt_keeps (ask_safe ?_ ?_)
          · trivial
          · intro answer log' hReply count hCount
            subst hCount
            exact hReply
        · rintro count _ ⟨hPositive, hCount, rfl⟩
          have hRest := @ih { log with writes := log.writes ++ bytes.take count }
            (bytes.drop count) (by
              rw [List.length_drop]
              omega)
          apply Safe.weakenValue hRest
          rintro _ log' rfl
          simp

/-- A message that is sent is on the wire in full. -/
theorem sendTransportInfo_keeps (info : TransportInfo) :
    Keeps limit (sendTransportInfo info) log fun _ log' => ∃ encoded,
      encodeTransportInfo info = .ok encoded ∧
      log' = { log with writes := log.writes ++ encoded } := by
  unfold sendTransportInfo
  split
  · exact stop_keeps ..
  · rename_i encoded hEncoded
    apply Safe.weakenValue (writeFull_keeps (Nat.le_refl _))
    rintro _ _ rfl
    exact ⟨encoded, hEncoded, rfl⟩

/-- A message that is received has been read in full. -/
theorem receiveTransportInfo_keeps :
    Keeps limit receiveTransportInfo log fun info log' => ∃ encoded,
      encoded.length = kTransportInfoBytes ∧ decodeTransportInfo encoded = .ok info ∧
      log' = { log with reads := log.reads ++ encoded } := by
  refine seq_keeps _ (readFull_keeps (Nat.le_refl _)) ?_
  rintro encoded _ ⟨hLength, rfl⟩
  split
  · exact stop_keeps ..
  · rename_i info hInfo
    exact ⟨encoded, hLength, hInfo, rfl⟩

end Stream

section QueuePairs

variable {limit : Nat} {log : PartyLog}

theorem createQp_keeps (h : log.held < limit) :
    Keeps limit (attempt (.ask Call.createQp)) log fun _ log' =>
      log' = { log with held := log.held + 1 } := by
  refine attempt_keeps (ask_safe ?_ ?_)
  · exact h
  · intro answer log' hReply value hValue
    subst hValue
    exact hReply

theorem createClientQp_keeps (h : log.held < limit) (index : Nat) :
    Keeps limit (createClientQp index) log fun qp log' =>
      log' = { log with held := log.held + 1, localQps := log.localQps ++ [qp] } := by
  refine seq_keeps _ (createQp_keeps h) ?_
  rintro _ _ rfl
  refine attempt_keeps (ask_safe ?_ ?_)
  · trivial
  · intro answer log' hReply qp hQp
    subst hQp
    exact hReply

theorem createServerQp_keeps (h : log.held < limit) (index : Nat) :
    Keeps limit (createServerQp index) log fun qp log' =>
      log' = { log with held := log.held + 1, localQps := log.localQps ++ [qp] } := by
  refine seq_keeps _ (createQp_keeps h) ?_
  rintro _ _ rfl
  apply Safe.bind
  exact ask_safe trivial fun qp log' hReply => hReply

/-- Both sides create their queue pairs in a loop up to the count. -/
theorem createLoop_keeps {create : Nat → PartyProgram QpInfo} {count : Nat}
    (hCreate : ∀ log : PartyLog, log.held < limit → ∀ index,
      Keeps limit (create index) log fun qp log' =>
        log' = { log with held := log.held + 1, localQps := log.localQps ++ [qp] })
    (h : log.held + count ≤ limit) :
    Keeps limit (Fallible.collect create (List.range count)) log fun qps log' =>
      qps.length = count ∧
      log' = { log with held := log.held + count, localQps := log.localQps ++ qps } := by
  have hLoop := @Safe.collect _ _ _ _ _ _ party (allowed limit) inBounds
    (fun qps log' => log' = { log with
      held := log.held + qps.length
      localQps := log.localQps ++ qps }) create (List.range count) (by
        rintro qps index _ hIndex rfl
        have hInside := (List.getElem?_eq_some_iff.mp hIndex).1
        rw [List.length_range] at hInside
        apply Safe.weakenValue (hCreate _ (by show log.held + qps.length < limit; omega) index)
        rintro qp _ rfl
        simp [Nat.add_assoc]) log (by simp)
  apply Safe.weakenValue hLoop
  rintro qps _ ⟨hLength, rfl⟩
  rw [List.length_range] at hLength
  exact ⟨hLength, by rw [hLength]⟩

/-- Copying the descriptors stays within the array. -/
theorem copyQps_keeps {items : List QpInfo} (h : items.length ≤ 16) :
    Keeps limit (copyQps items) log fun qps log' => qps = fillQps items ∧ log' = log := by
  unfold copyQps
  split
  · exact ⟨rfl, rfl⟩
  · rename_i hMany
    exact absurd h hMany

theorem TransportInfo.qps_visited (info : TransportInfo) {index : Nat}
    (h : index < info.visited.length) : info.qps[index]? = some info.visited[index] := by
  have hArray : index < 16 := by
    have hTake := h
    rw [TransportInfo.visited, List.length_take] at hTake
    simp at hTake
    omega
  rw [Vector.getElem?_eq_getElem hArray]
  simp [TransportInfo.visited]

/-- Every queue pair is connected with the identity at its index. -/
theorem connectLoop_keeps {peer : TransportInfo} (hBatch : peer.qpCount ≤ 16)
    (hHeld : peer.qpCount.toNat ≤ log.held)
    (hValid : ∀ qp ∈ peer.visited, validateQpInfo qp = true) :
    Keeps limit (Fallible.collect (connectQp peer) (List.range peer.qpCount.toNat)) log
      fun _ log' => log' = { log with
        connected := log.connected ++ (List.range peer.qpCount.toNat).zip peer.visited } := by
  have hVisited := visited_length hBatch
  have hLoop := @Safe.collect _ _ _ _ _ _ party (allowed limit) inBounds
    (fun outputs log' => log' = { log with
      connected := log.connected ++
        ((List.range peer.qpCount.toNat).zip peer.visited).take outputs.length })
    (connectQp peer) (List.range peer.qpCount.toNat) (by
      rintro outputs index _ hIndex rfl
      obtain ⟨hInside, rfl⟩ := List.getElem?_eq_some_iff.mp hIndex
      rw [List.length_range] at hInside
      rw [List.getElem_range]
      have hQp := peer.qps_visited (hVisited ▸ hInside)
      rw [connectQp, hQp]
      refine attempt_keeps (ask_safe ?_ ?_)
      · exact ⟨Nat.lt_of_lt_of_le hInside hHeld, hValid _ (List.getElem_mem _)⟩
      · intro answer log' hReply value hValue
        subst hValue
        rw [List.length_append, List.length_singleton, List.take_add_one,
          List.getElem?_eq_getElem (by simp [hVisited]; omega), List.getElem_zip,
          List.getElem_range, ← List.append_assoc]
        exact hReply) log (by simp)
  apply Safe.weakenValue hLoop
  rintro outputs _ ⟨hLength, rfl⟩
  rw [List.length_range] at hLength
  rw [hLength, List.take_of_length_le (by simp [hVisited])]

end QueuePairs

section Parties

/-- A party that holds its queue pairs and has connected all of them. -/
structure Opened (log : PartyLog) (count : UInt32) (peer : TransportInfo) : Prop where
  held_eq : log.held = count.toNat
  localQps_length : log.localQps.length = count.toNat
  peer_kind : peer.kind = .qpEndpoints
  peer_count : peer.qpCount = count
  connected_eq : log.connected = (List.range count.toNat).zip peer.visited

/-- Bytes of the stream that a party took for a record. -/
structure Received (bytes : Buffer) (info : TransportInfo) : Prop where
  length_eq : bytes.length = kTransportInfoBytes
  decoded : decodeTransportInfo bytes = .ok info

def countRequest (config : ClientConfig) : TransportInfo :=
  { kind := .qpCountRequest, qpCount := config.qpCount, qps := noQps }

def countResponse (count : UInt32) : TransportInfo :=
  { kind := .qpCountResponse, qpCount := count, qps := noQps }

def endpoints (count : UInt32) (localQps : List QpInfo) : TransportInfo :=
  { kind := .qpEndpoints, qpCount := count, qps := fillQps localQps }

/-- What a client that succeeds has written and read. -/
structure ClientDone (config : ClientConfig) (log : PartyLog) (count : UInt32)
    (peer : TransportInfo) : Prop where
  opened : Opened log count peer
  writes_eq : ∃ request identities, encodeTransportInfo (countRequest config) = .ok request ∧
    encodeTransportInfo (endpoints count log.localQps) = .ok identities ∧
    log.writes = request ++ identities
  reads_eq : ∃ answer identities response, Received answer response ∧
    response.kind = .qpCountResponse ∧ response.qpCount = count ∧ Received identities peer ∧
    log.reads = answer ++ identities

/-- What a server that succeeds has read and written. -/
structure ServerDone (config : ServerConfig) (log : PartyLog) (count : UInt32)
    (peer : TransportInfo) : Prop where
  opened : Opened log count peer
  reads_eq : ∃ question identities request, Received question request ∧
    count = min request.qpCount config.maxQpCount ∧ Received identities peer ∧
    log.reads = question ++ identities
  writes_eq : ∃ answer identities, encodeTransportInfo (countResponse count) = .ok answer ∧
    encodeTransportInfo (endpoints count log.localQps) = .ok identities ∧
    log.writes = answer ++ identities

/-- The open of the client, from its first call. -/
theorem clientOpen_keeps (config : ClientConfig) :
    Keeps config.qpCount.toNat (clientOpen config) .blank fun _ log =>
      ∃ count peer, ClientDone config log count peer := by
  unfold clientOpen
  split
  · exact stop_keeps ..
  split
  · exact stop_keeps ..
  rename_i hCount _
  refine seq_keeps _ openEndpoint_keeps ?_
  rintro _ _ rfl
  refine seq_keeps _ connect_keeps ?_
  rintro _ _ rfl
  refine seq_keeps _ (sendTransportInfo_keeps _) ?_
  rintro _ _ ⟨request, hRequest, rfl⟩
  refine seq_keeps _ receiveTransportInfo_keeps ?_
  rintro response _ ⟨answer, hAnswer, hResponse, rfl⟩
  split
  · exact stop_keeps ..
  rename_i hAccepted
  rw [not_or, not_or, Decidable.not_not, gt_iff_lt, UInt32.not_lt] at hAccepted
  obtain ⟨-, hBatch, -⟩ := decodeTransportInfo_valid hResponse
  have hLimit := UInt32.le_iff_toNat_le.mp hAccepted.2.2
  have hArray := UInt32.le_iff_toNat_le.mp hBatch
  change _ ≤ 16 at hArray
  refine seq_keeps _ (createLoop_keeps (fun log => createClientQp_keeps) (by
    show 0 + response.qpCount.toNat ≤ config.qpCount.toNat
    omega)) ?_
  rintro localQps _ ⟨hLocal, rfl⟩
  refine seq_keeps _ (copyQps_keeps (by omega)) ?_
  rintro _ _ ⟨rfl, rfl⟩
  refine seq_keeps _ (sendTransportInfo_keeps _) ?_
  rintro _ _ ⟨sent, hSent, rfl⟩
  refine seq_keeps _ receiveTransportInfo_keeps ?_
  rintro peer _ ⟨identities, hIdentities, hPeer, rfl⟩
  split
  · exact stop_keeps ..
  rename_i hMatch
  rw [not_or, Decidable.not_not, Decidable.not_not] at hMatch
  obtain ⟨-, -, hValid⟩ := decodeTransportInfo_valid hPeer
  rw [TransportInfo.carried, if_pos hMatch.1] at hValid
  rw [← hMatch.2]
  refine seq_keeps _ (connectLoop_keeps (hMatch.2 ▸ hBatch) (by
    rw [hMatch.2]
    exact Nat.le_add_left ..) hValid) ?_
  rintro _ _ rfl
  apply Safe.weakenValue makeReady_keeps
  rintro _ _ rfl
  refine ⟨peer.qpCount, peer, ?_, ⟨request, sent, hRequest, ?_, rfl⟩,
    ⟨answer, identities, response, ⟨hAnswer, hResponse⟩, hAccepted.1, hMatch.2.symm,
      ⟨hIdentities, hPeer⟩, rfl⟩⟩
  · exact {
      held_eq := by
        rw [hMatch.2]
        exact Nat.zero_add _
      localQps_length := by
        rw [hMatch.2]
        exact hLocal
      peer_kind := hMatch.1
      peer_count := rfl
      connected_eq := rfl }
  · rw [hMatch.2]
    exact hSent

/-- The open of the server, from its first call. -/
theorem serverAccept_keeps (config : ServerConfig) :
    Keeps config.maxQpCount.toNat (serverAccept config) .blank fun _ log =>
      ∃ count peer, ServerDone config log count peer := by
  unfold serverAccept
  refine seq_keeps _ accept_keeps ?_
  rintro _ _ rfl
  refine seq_keeps _ receiveTransportInfo_keeps ?_
  rintro request _ ⟨question, hQuestion, hRequest, rfl⟩
  split
  · exact stop_keeps ..
  refine seq_keeps _ (sendTransportInfo_keeps _) ?_
  rintro _ _ ⟨answer, hAnswer, rfl⟩
  generalize hCount : min request.qpCount config.maxQpCount = count at hAnswer ⊢
  unfold serverOpen
  split
  · exact stop_keeps ..
  split
  · exact stop_keeps ..
  rename_i hRange _
  rw [not_or, not_or, gt_iff_lt, gt_iff_lt, UInt32.not_lt, UInt32.not_lt] at hRange
  have hLimit := UInt32.le_iff_toNat_le.mp hRange.2.1
  have hArray := UInt32.le_iff_toNat_le.mp hRange.2.2
  change _ ≤ 16 at hArray
  refine seq_keeps _ openEndpoint_keeps ?_
  rintro _ _ rfl
  refine seq_keeps _ (createLoop_keeps (fun log => createServerQp_keeps) (by
    show 0 + count.toNat ≤ config.maxQpCount.toNat
    omega)) ?_
  rintro localQps _ ⟨hLocal, rfl⟩
  refine seq_keeps _ receiveTransportInfo_keeps ?_
  rintro peer _ ⟨identities, hIdentities, hPeer, rfl⟩
  split
  · exact stop_keeps ..
  rename_i hMatch
  rw [not_or, Decidable.not_not, Decidable.not_not] at hMatch
  obtain ⟨-, -, hValid⟩ := decodeTransportInfo_valid hPeer
  rw [TransportInfo.carried, if_pos hMatch.1] at hValid
  refine seq_keeps _ (copyQps_keeps (by omega)) ?_
  rintro _ _ ⟨rfl, rfl⟩
  refine seq_keeps _ (sendTransportInfo_keeps _) ?_
  rintro _ _ ⟨sent, hSent, rfl⟩
  obtain rfl := hMatch.2
  refine seq_keeps _ (connectLoop_keeps hRange.2.2 (Nat.le_add_left ..) hValid) ?_
  rintro _ _ rfl
  refine ⟨peer.qpCount, peer, ?_, ⟨question, identities, request, ⟨hQuestion, hRequest⟩,
    hCount.symm, ⟨hIdentities, hPeer⟩, rfl⟩, ⟨answer, sent, hAnswer, hSent, rfl⟩⟩
  exact {
    held_eq := Nat.zero_add _
    localQps_length := hLocal
    peer_kind := hMatch.1
    peer_count := rfl
    connected_eq := rfl }

end Parties

end NdsStorage.Negotiation
