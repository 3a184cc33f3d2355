import NdsStorage.Negotiation.Framing

/-! The two accounts of a full read and a full write. In the exchange they are
programs that go on with the answer of a call, and an interrupted call is made
again out of sight; in the framing they are loops that look at every answer.
Both come to the same results on the same bytes. -/
namespace NdsStorage.Negotiation.TcpConnection

open Bytes Interaction

/-- The bytes that a party will find, and those that it has written. -/
structure Channel where
  stream : Buffer
  written : Buffer
deriving DecidableEq, Repr

/-- An answer that a read may get. -/
def ReadAnswer.Possible (stream : Buffer) (length : Nat) : ReadAnswer → Prop
  | .moved count => 0 < count ∧ count ≤ length ∧ count ≤ stream.length
  | .endOfStream => stream = []
  | .interrupted | .failed _ => True

/-- The bytes that a read takes from the stream. -/
def ReadAnswer.count : ReadAnswer → Nat
  | .moved count => count
  | .endOfStream | .interrupted | .failed _ => 0

/-- What a call returns that is made again after each interruption. -/
def ReadAnswer.outcome (stream : Buffer) : ReadAnswer → Option (Except Error Buffer)
  | .moved count => some (.ok (stream.take count))
  | .endOfStream => some (.ok [])
  | .interrupted => none
  | .failed reason => some (.error (systemError "read" reason))

def WriteAnswer.Possible (cursor : Buffer) : WriteAnswer → Prop
  | .moved count => 0 < count ∧ count ≤ cursor.length
  | .interrupted | .failed _ => True

def WriteAnswer.count : WriteAnswer → Nat
  | .moved count => count
  | .interrupted | .failed _ => 0

def WriteAnswer.outcome : WriteAnswer → Option (Except Error Nat)
  | .moved count => some (.ok count)
  | .interrupted => none
  | .failed reason => some (.error (systemError "write" reason))

/-- The calls of the exchange on the socket, interruptions left out. -/
inductive SocketReply : Channel → (call : Call) → call.Answer → Channel → Prop
  | read {channel : Channel} {length : Nat} {answer : ReadAnswer} {outcome : Except Error Buffer}
      (hPossible : answer.Possible channel.stream length)
      (hOutcome : answer.outcome channel.stream = some outcome) :
      SocketReply channel (.read length) outcome
        { channel with stream := channel.stream.drop answer.count }
  | write {channel : Channel} {bytes : Buffer} {answer : WriteAnswer} {outcome : Except Error Nat}
      (hPossible : answer.Possible bytes) (hOutcome : answer.outcome = some outcome) :
      SocketReply channel (.write bytes) outcome
        { channel with written := channel.written ++ bytes.take answer.count }

def socket : Environment Channel Call Call.Answer where
  drift := fun _ _ => False
  reply := SocketReply

/-- Between the calls of a loop the channel does not change. -/
theorem socket_stable (assertion : Channel → Prop) : socket.Stable assertion :=
  fun _ _ hDrift => hDrift.elim

/-- A call of a program on the socket, and what may follow each of its answers. -/
theorem socket_call {Result : Type} {call : Call}
    {next : call.Answer → Program Call Call.Answer Result} {channel : Channel}
    {post : Result → Channel → Prop}
    (hNext : ∀ answer channel', SocketReply channel call answer channel' →
      Safe socket (fun _ _ => True) post (next answer) channel') :
    Safe socket (fun _ _ => True) post (.call call next) channel := by
  apply Safe.call (fun state => state = channel) (socket_stable _) rfl (fun _ _ => trivial)
  rintro state answer channel' rfl hReply
  exact hNext answer channel' hReply

section Reads

variable {channel channel' : Channel} {filled : Buffer} {length rounds : Nat}
  {result : Except Error Buffer}

/-- A loop of `read_full` that comes to its end. -/
inductive ReadRun : Channel → ReadLoop → Except Error Buffer → Channel → Prop
  | returned {channel : Channel} {result : Except Error Buffer} :
      ReadRun channel (.returned result) result channel
  | answered {channel channel' : Channel} {filled : Buffer} {length : Nat} {answer : ReadAnswer}
      {result : Except Error Buffer} (hPossible : answer.Possible channel.stream length)
      (hRest : ReadRun { channel with stream := channel.stream.drop answer.count }
        (readAnswered channel.stream filled length answer) result channel') :
      ReadRun channel (.calling filled length) result channel'

theorem readFull_calling (filled : Buffer) (hCalling : length ≠ 0) :
    readFull filled length = .calling filled length := if_pos hCalling

/-- How the program goes on with the bytes of a call. -/
def readMore (rounds length : Nat) (chunk : Buffer) : PartyProgram Buffer :=
  if chunk = [] then stop .transport "peer closed exchange channel"
  else do
    let rest ← Negotiation.readFull rounds (length - chunk.length)
    pure (chunk ++ rest)

theorem readFull_succ (hCalling : length ≠ 0) : Negotiation.readFull (rounds + 1) length =
    attempt (.ask (Call.read length)) >>= readMore rounds length := if_neg hCalling

/-- A call that has moved some bytes leaves the program the others. -/
theorem readMore_moved {stream : Buffer} {count : Nat}
    (hPossible : (ReadAnswer.moved count).Possible stream length) :
    readMore rounds length (stream.take count) = (do
      let rest ← Negotiation.readFull rounds (length - count)
      pure (stream.take count ++ rest)) := by
  have hChunk : (stream.take count).length = count := List.length_take_of_le hPossible.2.2
  have hSome : stream.take count ≠ [] := by
    intro hNone
    rw [hNone] at hChunk
    exact Nat.ne_of_gt hPossible.1 hChunk.symm
  rw [readMore, if_neg hSome, hChunk]

/-- The program reads what the loop has still to read. -/
theorem ReadRun.reaches {loop : ReadLoop} (h : ReadRun channel loop result channel')
    (hLoop : loop = readFull filled length) (hRounds : length ≤ rounds) :
    ∃ outcome : Except Failure Buffer, result.mapError .error = outcome.map (filled ++ ·) ∧
      socket.Reaches ((Negotiation.readFull rounds length).run, channel)
        (.done outcome, channel') := by
  induction h generalizing filled length rounds with
  | @returned channel result =>
      by_cases hZero : length = 0
      · subst hZero
        cases hLoop
        refine ⟨.ok [], congrArg Except.ok (List.append_nil filled).symm, ?_⟩
        cases rounds <;> exact .refl
      · rw [readFull_calling filled hZero] at hLoop
        cases hLoop
  | @answered channel channel' _ _ answer result hPossible hRest ih =>
      have hSome : length ≠ 0 := by
        rintro rfl
        cases hLoop
      rw [readFull_calling filled hSome] at hLoop
      obtain ⟨rfl, rfl⟩ := ReadLoop.calling.inj hLoop.symm
      obtain ⟨rounds, rfl⟩ := Nat.exists_eq_succ_of_ne_zero (fun hNone : rounds = 0 =>
        hSome (Nat.le_zero.mp (hNone ▸ hRounds)))
      have hCall : ∀ outcome : Except Error Buffer, answer.outcome channel.stream = some outcome →
          socket.Reaches ((attempt (.ask (Call.read length))).run, channel)
            (.done (outcome.mapError .error),
              { channel with stream := channel.stream.drop answer.count }) := fun _ hOutcome =>
        (Environment.Reaches.ask (SocketReply.read hPossible hOutcome)).bind _
      cases answer with
      | moved count =>
          have hCount : 0 < count := hPossible.1
          obtain ⟨outcome, hOutcome, hReaches⟩ := @ih (filled ++ channel.stream.take count)
            (length - count) rounds rfl (by omega)
          refine ⟨outcome.map (channel.stream.take count ++ ·), ?_, ?_⟩
          · rw [hOutcome]
            cases outcome with
            | error failure => rfl
            | ok more => exact congrArg Except.ok (List.append_assoc ..)
          · rw [readFull_succ hSome]
            refine ((hCall _ rfl).bindFallible (readMore rounds length)).trans ?_
            rw [readMore_moved hPossible]
            cases outcome with
            | error failure => exact hReaches.bind _
            | ok more => exact hReaches.bindFallible _
      | endOfStream =>
          cases hRest
          refine ⟨.error (.error (transportError "peer closed exchange channel")), rfl, ?_⟩
          rw [readFull_succ hSome]
          exact (hCall _ rfl).bindFallible (readMore rounds length)
      | interrupted => exact ih rfl hRounds
      | failed reason =>
          cases hRest
          refine ⟨.error (.error (systemError "read" reason)), rfl, ?_⟩
          rw [readFull_succ hSome]
          exact (hCall _ rfl).bind _

/-- Whatever the program returns, the loop returns it behind the bytes that it has. -/
theorem readFull_runs (filled : Buffer) (hRounds : length ≤ rounds) :
    Safe socket (fun _ _ => True)
      (Safe.outcome
        (fun failure channel' => ∃ error, failure = .error error ∧
          ReadRun channel (readFull filled length) (.error error) channel')
        (fun more channel' =>
          ReadRun channel (readFull filled length) (.ok (filled ++ more)) channel'))
      (Negotiation.readFull rounds length).run channel := by
  induction rounds generalizing filled length channel with
  | zero =>
      obtain rfl := Nat.le_zero.mp hRounds
      change ReadRun channel (.returned (.ok filled)) (.ok (filled ++ [])) channel
      rw [List.append_nil]
      exact .returned
  | succ rounds ih =>
      by_cases hZero : length = 0
      · subst hZero
        change ReadRun channel (.returned (.ok filled)) (.ok (filled ++ [])) channel
        rw [List.append_nil]
        exact .returned
      rw [readFull_succ hZero, readFull_calling filled hZero]
      apply socket_call
      intro outcome between hReply
      cases hReply with
      | @read _ answer _ hPossible hOutcome =>
          cases answer with
          | moved count =>
              cases hOutcome
              have hCount : 0 < count := hPossible.1
              change Safe _ _ _ (readMore rounds length (channel.stream.take count)).run _
              rw [readMore_moved hPossible]
              refine Safe.bind (Safe.weaken (@ih { channel with stream := channel.stream.drop count }
                (length - count) (filled ++ channel.stream.take count) (by omega)) ?_)
              intro result channel' hResult
              cases result with
              | error failure =>
                  obtain ⟨error, rfl, hRun⟩ := hResult
                  exact ⟨error, rfl, .answered hPossible hRun⟩
              | ok more =>
                  change ReadRun channel (.calling filled length)
                    (.ok (filled ++ (channel.stream.take count ++ more))) channel'
                  rw [← List.append_assoc]
                  exact .answered hPossible hResult
          | endOfStream =>
              cases hOutcome
              exact ⟨_, rfl, .answered hPossible .returned⟩
          | interrupted => cases hOutcome
          | failed reason =>
              cases hOutcome
              exact ⟨_, rfl, .answered hPossible .returned⟩

/-- A full read of the exchange returns what the loop returns, and leaves the same bytes. -/
theorem readFull_exact (channel channel' : Channel) (length : Nat)
    (outcome : Except Failure Buffer) :
    socket.Reaches ((Negotiation.readFull length length).run, channel) (.done outcome, channel') ↔
      ∃ result, outcome = result.mapError .error ∧
        ReadRun channel (readFull [] length) result channel' := by
  constructor
  · intro hReaches
    have hSafe := Safe.reaches (fun _ => socket_stable _) hReaches
      (@readFull_runs channel length length [] (Nat.le_refl length))
    cases outcome with
    | error failure =>
        obtain ⟨error, rfl, hRun⟩ := hSafe
        exact ⟨.error error, rfl, hRun⟩
    | ok bytes => exact ⟨.ok bytes, rfl, hSafe⟩
  · rintro ⟨result, rfl, hRun⟩
    obtain ⟨outcome, hOutcome, hReaches⟩ := hRun.reaches rfl (Nat.le_refl length)
    rw [hOutcome]
    cases outcome with
    | error failure => exact hReaches
    | ok bytes => exact hReaches

end Reads

section Writes

variable {channel channel' : Channel} {cursor : Buffer} {rounds : Nat} {result : Except Error Unit}

/-- A loop of `write_full` that comes to its end. -/
inductive WriteRun : Channel → WriteLoop → Except Error Unit → Channel → Prop
  | returned {channel : Channel} {result : Except Error Unit} :
      WriteRun channel (.returned result) result channel
  | answered {channel channel' : Channel} {cursor : Buffer} {answer : WriteAnswer}
      {result : Except Error Unit} (hPossible : answer.Possible cursor)
      (hRest : WriteRun { channel with written := channel.written ++ cursor.take answer.count }
        (writeAnswered cursor answer) result channel') :
      WriteRun channel (.calling cursor) result channel'

theorem writeFull_calling (hCalling : cursor ≠ []) : writeFull cursor = .calling cursor :=
  if_pos (fun hNone => hCalling (List.length_eq_zero_iff.mp hNone))

theorem writeFull_succ (hCalling : cursor ≠ []) : Negotiation.writeFull (rounds + 1) cursor =
    attempt (.ask (Call.write cursor)) >>= fun count =>
      Negotiation.writeFull rounds (cursor.drop count) := if_neg hCalling

/-- Every run over the channel is a run of the program. -/
theorem WriteRun.reaches {loop : WriteLoop} (h : WriteRun channel loop result channel')
    (hLoop : loop = writeFull cursor) (hRounds : cursor.length ≤ rounds) :
    socket.Reaches ((Negotiation.writeFull rounds cursor).run, channel)
      (.done (result.mapError .error), channel') := by
  induction h generalizing cursor rounds with
  | @returned channel result =>
      by_cases hNone : cursor = []
      · subst hNone
        cases hLoop
        cases rounds <;> exact .refl
      · rw [writeFull_calling hNone] at hLoop
        cases hLoop
  | @answered channel channel' _ answer result hPossible hRest ih =>
      have hSome : cursor ≠ [] := by
        rintro rfl
        cases hLoop
      rw [writeFull_calling hSome] at hLoop
      obtain rfl := WriteLoop.calling.inj hLoop.symm
      obtain ⟨rounds, rfl⟩ := Nat.exists_eq_succ_of_ne_zero (fun hNone : rounds = 0 =>
        hSome (List.length_eq_zero_iff.mp (Nat.le_zero.mp (hNone ▸ hRounds))))
      have hCall : ∀ outcome : Except Error Nat, answer.outcome = some outcome →
          socket.Reaches ((attempt (.ask (Call.write cursor))).run, channel)
            (.done (outcome.mapError .error),
              { channel with written := channel.written ++ cursor.take answer.count }) :=
        fun _ hOutcome => (Environment.Reaches.ask (SocketReply.write hPossible hOutcome)).bind _
      cases answer with
      | moved count =>
          have hLess : (cursor.drop count).length ≤ rounds := by
            rw [List.length_drop]
            have hCount := hPossible.1
            omega
          rw [writeFull_succ hSome]
          exact ((hCall _ rfl).bindFallible _).trans (ih rfl hLess)
      | interrupted =>
          have hNothing : channel.written ++ cursor.take 0 = channel.written := List.append_nil _
          have hSame := ih rfl hRounds
          simpa only [WriteAnswer.count, hNothing] using hSame
      | failed reason =>
          cases hRest
          rw [writeFull_succ hSome]
          exact (hCall _ rfl).bind _

/-- Every run of the program is a run over the channel. -/
theorem writeFull_runs (hRounds : cursor.length ≤ rounds) :
    Safe socket (fun _ _ => True)
      (fun outcome channel' => ∃ result, outcome = Except.mapError Failure.error result ∧
        WriteRun channel (writeFull cursor) result channel')
      (Negotiation.writeFull rounds cursor).run channel := by
  induction rounds generalizing cursor channel with
  | zero =>
      obtain rfl := List.length_eq_zero_iff.mp (Nat.le_zero.mp hRounds)
      exact ⟨.ok (), rfl, .returned⟩
  | succ rounds ih =>
      by_cases hNone : cursor = []
      · subst hNone
        exact ⟨.ok (), rfl, .returned⟩
      rw [writeFull_succ hNone, writeFull_calling hNone]
      apply socket_call
      intro outcome between hReply
      cases hReply with
      | @write _ answer _ hPossible hOutcome =>
          cases answer with
          | moved count =>
              cases hOutcome
              have hLess : (cursor.drop count).length ≤ rounds := by
                rw [List.length_drop]
                have hCount := hPossible.1
                omega
              change Safe _ _ _ (Negotiation.writeFull rounds (cursor.drop count)).run _
              apply Safe.weaken (ih hLess)
              rintro _ channel' ⟨result, rfl, hRun⟩
              exact ⟨result, rfl, .answered hPossible hRun⟩
          | interrupted => cases hOutcome
          | failed reason =>
              cases hOutcome
              exact ⟨.error _, rfl, .answered hPossible .returned⟩

/-- A full write of the exchange returns what the loop returns, with the same bytes written. -/
theorem writeFull_exact (channel channel' : Channel) (bytes : Buffer)
    (outcome : Except Failure Unit) :
    socket.Reaches ((Negotiation.writeFull bytes.length bytes).run, channel)
        (.done outcome, channel') ↔
      ∃ result, outcome = Except.mapError Failure.error result ∧
        WriteRun channel (writeFull bytes) result channel' := by
  constructor
  · intro hReaches
    exact Safe.reaches (fun _ => socket_stable _) hReaches
      (@writeFull_runs channel bytes bytes.length (Nat.le_refl _))
  · rintro ⟨result, rfl, hRun⟩
    exact hRun.reaches rfl (Nat.le_refl _)

end Writes

end NdsStorage.Negotiation.TcpConnection
