import NdsStorage.Negotiation.Exchange

/-! Messages on the exchange channel. A sender writes them one after the other
in full, and a receiver reads the same lengths in full. Calls on the socket move
some of the bytes asked for, are interrupted, or fail, and the two sides take
turns in any order. -/
namespace NdsStorage.Negotiation.TcpConnection

open Bytes

inductive WriteAnswer where
  | moved (count : Nat)
  | interrupted
  | failed (reason : String)
deriving DecidableEq, Repr

/-- A read that finds the end of the stream returns zero. -/
inductive ReadAnswer where
  | moved (count : Nat)
  | endOfStream
  | interrupted
  | failed (reason : String)
deriving DecidableEq, Repr

def transportError (message : String) : Error := { code := .transport, message := message }

def systemError (operation reason : String) : Error :=
  transportError (operation ++ ": " ++ reason)

section Loops

/-- The loop of `write_full` at its head: a call with the bytes from the cursor
on is next, or it has returned. -/
inductive WriteLoop where
  | calling (cursor : Buffer)
  | returned (result : Except Error Unit)
deriving DecidableEq, Repr

def writeFull (cursor : Buffer) : WriteLoop :=
  if cursor.length ≠ 0 then .calling cursor else .returned (.ok ())

def writeAnswered (cursor : Buffer) : WriteAnswer → WriteLoop
  | .moved count => writeFull (cursor.drop count)
  | .interrupted => writeFull cursor
  | .failed reason => .returned (.error (systemError "write" reason))

/-- The loop of `read_full`, with the bytes before its cursor. -/
inductive ReadLoop where
  | calling (filled : Buffer) (length : Nat)
  | returned (result : Except Error Buffer)
deriving DecidableEq, Repr

def readFull (filled : Buffer) (length : Nat) : ReadLoop :=
  if length ≠ 0 then .calling filled length else .returned (.ok filled)

def readAnswered (stream filled : Buffer) (length : Nat) : ReadAnswer → ReadLoop
  | .moved count => readFull (filled ++ stream.take count) (length - count)
  | .endOfStream => .returned (.error (transportError "peer closed exchange channel"))
  | .interrupted => readFull filled length
  | .failed reason => .returned (.error (systemError "read" reason))

end Loops

/-- The sender: what the call in progress has still to write, the messages of
later calls, and the results of earlier ones. No call is in progress if nothing
is left to write. -/
structure Sender where
  cursor : Buffer
  waiting : List Buffer
  results : List (Except Error Unit)
deriving DecidableEq, Repr

/-- An error ends the exchange. Otherwise calls follow each other until one has
to wait for the socket. -/
def Sender.proceed : List Buffer → WriteLoop → List (Except Error Unit) → Sender
  | waiting, .calling cursor, results =>
      { cursor := cursor, waiting := waiting, results := results }
  | _, .returned (.error error), results =>
      { cursor := [], waiting := [], results := results ++ [.error error] }
  | [], .returned (.ok ()), results =>
      { cursor := [], waiting := [], results := results ++ [.ok ()] }
  | message :: waiting, .returned (.ok ()), results =>
      proceed waiting (writeFull message) (results ++ [.ok ()])

def Sender.start : List Buffer → Sender
  | [] => { cursor := [], waiting := [], results := [] }
  | message :: waiting => proceed waiting (writeFull message) []

/-- The receiver: the bytes that the call in progress has read and the length
it has still to read, the lengths of later calls, and the results of earlier
ones with the bytes they read. -/
structure Receiver where
  filled : Buffer
  length : Nat
  waiting : List Nat
  results : List (Except Error Buffer)
deriving DecidableEq, Repr

def Receiver.proceed : List Nat → ReadLoop → List (Except Error Buffer) → Receiver
  | waiting, .calling filled length, results =>
      { filled := filled, length := length, waiting := waiting, results := results }
  | _, .returned (.error error), results =>
      { filled := [], length := 0, waiting := [], results := results ++ [.error error] }
  | [], .returned (.ok bytes), results =>
      { filled := [], length := 0, waiting := [], results := results ++ [.ok bytes] }
  | length :: waiting, .returned (.ok bytes), results =>
      proceed waiting (readFull [] length) (results ++ [.ok bytes])

def Receiver.start : List Nat → Receiver
  | [] => { filled := [], length := 0, waiting := [], results := [] }
  | length :: waiting => proceed waiting (readFull [] length) []

/-- Both sides and the bytes between them. The last two fields are a history
that no function reads: the bytes that writes and reads have moved. -/
structure Session where
  sender : Sender
  stream : Buffer
  ended : Bool
  receiver : Receiver
  written : Buffer
  consumed : Buffer
deriving DecidableEq, Repr

def Session.start (messages : List Buffer) : Session where
  sender := .start messages
  stream := []
  ended := false
  receiver := .start (messages.map List.length)
  written := []
  consumed := []

inductive Action where
  | write (answer : WriteAnswer)
  | read (answer : ReadAnswer)
  | close
deriving DecidableEq, Repr

namespace Session

def resumeWrite (session : Session) (answer : WriteAnswer) : Session :=
  { session with
    sender := .proceed session.sender.waiting (writeAnswered session.sender.cursor answer)
      session.sender.results }

def resumeRead (session : Session) (answer : ReadAnswer) : Session :=
  { session with
    receiver := .proceed session.receiver.waiting
      (readAnswered session.stream session.receiver.filled session.receiver.length answer)
      session.receiver.results }

def performWrite (session : Session) : WriteAnswer → Option Session
  | .moved count =>
      if 0 < count ∧ count ≤ session.sender.cursor.length ∧ session.ended = false then
        some { session.resumeWrite (.moved count) with
          stream := session.stream ++ session.sender.cursor.take count
          written := session.written ++ session.sender.cursor.take count }
      else none
  | .interrupted => some (session.resumeWrite .interrupted)
  | .failed reason => some (session.resumeWrite (.failed reason))

/-- A read waits while the stream is empty and has not ended. -/
def performRead (session : Session) : ReadAnswer → Option Session
  | .moved count =>
      if 0 < count ∧ count ≤ session.receiver.length ∧ count ≤ session.stream.length then
        some { session.resumeRead (.moved count) with
          stream := session.stream.drop count
          consumed := session.consumed ++ session.stream.take count }
      else none
  | .endOfStream =>
      if session.stream = [] ∧ session.ended = true then some (session.resumeRead .endOfStream)
      else none
  | .interrupted => some (session.resumeRead .interrupted)
  | .failed reason => some (session.resumeRead (.failed reason))

/-- An action that is possible in a state, and the state it leads to. -/
def perform (session : Session) : Action → Option Session
  | .write answer => if session.sender.cursor = [] then none else session.performWrite answer
  | .read answer => if session.receiver.length = 0 then none else session.performRead answer
  | .close => if session.ended then none else some { session with ended := true }

def performAll (session : Session) : List Action → Option Session
  | [] => some session
  | action :: actions => (session.perform action).bind fun session => session.performAll actions

end Session

section Senders

variable {messages finished waiting : List Buffer} {part cursor written : Buffer}
  {sender : Sender}

/-- How far a sender is. Every call that returned well has written its message,
the call in progress has written a part of its own, and nothing else has been
written. -/
inductive Sender.Sends (messages : List Buffer) : Buffer → Sender → Prop
  | writing {finished waiting : List Buffer} {part cursor : Buffer}
      (hMessages : messages = finished ++ (part ++ cursor) :: waiting) (hCursor : cursor ≠ []) :
      Sends messages (finished.flatten ++ part) {
        cursor := cursor
        waiting := waiting
        results := finished.map fun _ => .ok () }
  | finished :
      Sends messages messages.flatten {
        cursor := []
        waiting := []
        results := messages.map fun _ => .ok () }
  | failed {finished waiting : List Buffer} {part rest : Buffer} {error : Error}
      (hMessages : messages = finished ++ (part ++ rest) :: waiting) (hRest : rest ≠ []) :
      Sends messages (finished.flatten ++ part) {
        cursor := []
        waiting := []
        results := finished.map (fun _ => .ok ()) ++ [.error error] }

namespace Sender

/-- A message that is not finished keeps its call. -/
theorem proceed_calling (waiting : List Buffer) (cursor : Buffer)
    (results : List (Except Error Unit)) :
    proceed waiting (.calling cursor) results =
      { cursor := cursor, waiting := waiting, results := results } := by
  cases waiting <;> rfl

/-- A message written to its end lets the next one begin. -/
theorem proceed_next (message : Buffer) (waiting : List Buffer)
    (results : List (Except Error Unit)) :
    proceed (message :: waiting) (writeFull []) results =
      proceed waiting (writeFull message) (results ++ [.ok ()]) := rfl

theorem proceed_error (waiting : List Buffer) (error : Error)
    (results : List (Except Error Unit)) :
    proceed waiting (.returned (.error error)) results =
      { cursor := [], waiting := [], results := results ++ [.error error] } := by
  cases waiting <;> rfl

/-- What is written is a prefix of the messages. -/
theorem Sends.written_prefix (h : sender.Sends messages written) : written <+: messages.flatten := by
  cases h with
  | @writing finished waiting part cursor hMessages hCursor =>
      refine ⟨cursor ++ waiting.flatten, ?_⟩
      simp [hMessages]
  | finished => exact List.prefix_rfl
  | @failed finished waiting part rest error hMessages hRest =>
      refine ⟨rest ++ waiting.flatten, ?_⟩
      simp [hMessages]

/-- A call that has nothing left to write returns, and the next one begins. -/
theorem proceed_sends (hMessages : messages = finished ++ (part ++ cursor) :: waiting) :
    (proceed waiting (writeFull cursor) (finished.map fun _ => .ok ())).Sends messages
      (finished.flatten ++ part) := by
  induction waiting generalizing finished part cursor with
  | nil =>
      cases cursor with
      | nil =>
          have hWritten : finished.flatten ++ part = messages.flatten := by simp [hMessages]
          have hResults : (finished.map fun _ => (Except.ok () : Except Error Unit)) ++ [.ok ()] =
              messages.map fun _ => .ok () := by simp [hMessages]
          change Sends messages _ { cursor := [], waiting := [], results := _ ++ [.ok ()] }
          rw [hWritten, hResults]
          exact .finished
      | cons byte rest => exact .writing hMessages (List.cons_ne_nil byte rest)
  | cons message waiting ih =>
      cases cursor with
      | nil =>
          have hNext : messages = (finished ++ [part]) ++ ([] ++ message) :: waiting := by
            simp [hMessages]
          have hSends := ih hNext
          rw [proceed_next]
          simpa using hSends
      | cons byte rest => exact .writing hMessages (List.cons_ne_nil byte rest)

theorem start_sends (messages : List Buffer) : (start messages).Sends messages [] := by
  cases messages with
  | nil => exact .finished
  | cons message waiting =>
      have hFirst : message :: waiting = [] ++ ([] ++ message) :: waiting := rfl
      exact proceed_sends hFirst

/-- What a call in progress has still to write, with the later messages. -/
def owed (sender : Sender) : Nat := sender.cursor.length + sender.waiting.flatten.length

/-- Going on to the next message owes what is left of all of them. -/
theorem proceed_owed (waiting : List Buffer) (cursor : Buffer)
    (results : List (Except Error Unit)) :
    (proceed waiting (writeFull cursor) results).owed = cursor.length + waiting.flatten.length := by
  induction waiting generalizing cursor results with
  | nil => cases cursor <;> rfl
  | cons message waiting ih =>
      cases cursor with
      | nil =>
          have hNext := ih message (results ++ [.ok ()])
          rw [proceed_next]
          simpa using hNext
      | cons byte rest => rfl

theorem proceed_results (waiting : List Buffer) (cursor : Buffer)
    {results : List (Except Error Unit)} (hOk : ∀ result ∈ results, result = .ok ()) :
    ∀ result ∈ (proceed waiting (writeFull cursor) results).results, result = .ok () := by
  induction waiting generalizing cursor results with
  | nil =>
      cases cursor with
      | nil => simpa [proceed, writeFull, or_imp, forall_and] using hOk
      | cons byte rest => exact hOk
  | cons message waiting ih =>
      cases cursor with
      | nil =>
          apply ih message
          simpa [or_imp, forall_and] using hOk
      | cons byte rest => exact hOk

end Sender

end Senders

section Receivers

variable {messages finished more : List Buffer} {message filled consumed : Buffer} {length : Nat}
  {receiver : Receiver}

/-- How far a receiver is. Every call that returned well has read its message,
and the call in progress has read a part of its own and nothing beyond. -/
inductive Receiver.Receives (messages : List Buffer) : Buffer → Receiver → Prop
  | reading {finished more : List Buffer} {message filled : Buffer} {length : Nat}
      (hMessages : messages = finished ++ message :: more) (hFilled : filled <+: message)
      (hLength : message.length = filled.length + length) (hCalling : length ≠ 0) :
      Receives messages (finished.flatten ++ filled) {
        filled := filled
        length := length
        waiting := more.map List.length
        results := finished.map .ok }
  | finished :
      Receives messages messages.flatten {
        filled := []
        length := 0
        waiting := []
        results := messages.map .ok }
  | failed {finished more : List Buffer} {message filled : Buffer} {error : Error}
      (hMessages : messages = finished ++ message :: more) (hFilled : filled <+: message)
      (hShort : filled.length < message.length) :
      Receives messages (finished.flatten ++ filled) {
        filled := []
        length := 0
        waiting := []
        results := finished.map .ok ++ [.error error] }

namespace Receiver

theorem proceed_calling (waiting : List Nat) (filled : Buffer) (length : Nat)
    (results : List (Except Error Buffer)) :
    proceed waiting (.calling filled length) results =
      { filled := filled, length := length, waiting := waiting, results := results } := by
  cases waiting <;> rfl

/-- A read that is full lets the next one begin. -/
theorem proceed_next (length : Nat) (waiting : List Nat) (filled : Buffer)
    (results : List (Except Error Buffer)) :
    proceed (length :: waiting) (readFull filled 0) results =
      proceed waiting (readFull [] length) (results ++ [.ok filled]) := rfl

theorem proceed_error (waiting : List Nat) (error : Error)
    (results : List (Except Error Buffer)) :
    proceed waiting (.returned (.error error)) results =
      { filled := [], length := 0, waiting := [], results := results ++ [.error error] } := by
  cases waiting <;> rfl

/-- What has been received is made of whole messages and one in the making. -/
theorem proceed_receives (hMessages : messages = finished ++ message :: more)
    (hFilled : filled <+: message) (hLength : message.length = filled.length + length) :
    (proceed (more.map List.length) (readFull filled length) (finished.map .ok)).Receives messages
      (finished.flatten ++ filled) := by
  induction more generalizing finished message filled length with
  | nil =>
      cases length with
      | zero =>
          have hSame : filled = message := hFilled.eq_of_length hLength.symm
          have hConsumed : finished.flatten ++ filled = messages.flatten := by
            simp [hMessages, hSame]
          have hResults : finished.map .ok ++ [(Except.ok filled : Except Error Buffer)] =
              messages.map .ok := by simp [hMessages, hSame]
          change Receives messages _ {
            filled := []
            length := 0
            waiting := []
            results := finished.map .ok ++ [.ok filled] }
          rw [hConsumed, hResults]
          exact .finished
      | succ length => exact .reading hMessages hFilled hLength (Nat.succ_ne_zero length)
  | cons next more ih =>
      cases length with
      | zero =>
          have hSame : filled = message := hFilled.eq_of_length hLength.symm
          have hNext : messages = (finished ++ [filled]) ++ next :: more := by
            simp [hMessages, hSame]
          have hReceives := ih hNext (List.nil_prefix) (Nat.zero_add _).symm
          rw [List.map_cons, proceed_next]
          simpa using hReceives
      | succ length => exact .reading hMessages hFilled hLength (Nat.succ_ne_zero length)

/-- Before the first call nothing is received. -/
theorem start_receives (messages : List Buffer) :
    (start (messages.map List.length)).Receives messages [] := by
  cases messages with
  | nil => exact .finished
  | cons message more =>
      have hFirst : message :: more = [] ++ message :: more := rfl
      exact proceed_receives hFirst List.nil_prefix (Nat.zero_add _).symm

theorem proceed_results (waiting : List Nat) (filled : Buffer) (length : Nat)
    {results : List (Except Error Buffer)} (hOk : ∀ result ∈ results, ∃ bytes, result = .ok bytes) :
    ∀ result ∈ (proceed waiting (readFull filled length) results).results,
      ∃ bytes, result = .ok bytes := by
  induction waiting generalizing filled length results with
  | nil =>
      cases length with
      | zero => simpa [proceed, readFull, or_imp, forall_and] using hOk
      | succ length => exact hOk
  | cons next waiting ih =>
      cases length with
      | zero =>
          apply ih [] next
          simpa [or_imp, forall_and] using hOk
      | succ length => exact hOk

end Receiver

end Receivers

section Calls

variable {messages : List Buffer} {written consumed stream : Buffer} {sender : Sender}
  {receiver : Receiver}

/-- A write moves the first bytes from the cursor on. -/
theorem Sender.Sends.moved (h : sender.Sends messages written) (hCalling : sender.cursor ≠ [])
    (count : Nat) :
    (Sender.proceed sender.waiting (writeAnswered sender.cursor (.moved count))
      sender.results).Sends messages (written ++ sender.cursor.take count) := by
  cases h with
  | @writing finished waiting part cursor hMessages hCursor =>
      rw [← List.take_append_drop count cursor, ← List.append_assoc] at hMessages
      rw [List.append_assoc]
      exact Sender.proceed_sends hMessages
  | finished => exact absurd rfl hCalling
  | failed hMessages hRest => exact absurd rfl hCalling

/-- A call that breaks has still written a prefix. -/
theorem Sender.Sends.broken (h : sender.Sends messages written) (hCalling : sender.cursor ≠ [])
    (error : Error) :
    (Sender.proceed sender.waiting (.returned (.error error)) sender.results).Sends messages
      written := by
  cases h with
  | @writing finished waiting part cursor hMessages hCursor =>
      rw [Sender.proceed_error]
      exact .failed hMessages hCursor
  | finished => exact absurd rfl hCalling
  | failed hMessages hRest => exact absurd rfl hCalling

/-- A read moves bytes of the message that its call is for. -/
theorem Receiver.Receives.moved (h : receiver.Receives messages consumed)
    (hCalling : receiver.length ≠ 0) (hStream : consumed ++ stream <+: messages.flatten)
    {count : Nat} (hCount : count ≤ receiver.length) (hFound : count ≤ stream.length) :
    (Receiver.proceed receiver.waiting
      (readAnswered stream receiver.filled receiver.length (.moved count))
      receiver.results).Receives messages (consumed ++ stream.take count) := by
  cases h with
  | @reading finished more message filled length hMessages hFilled hLength hOpen =>
      dsimp only at hCount
      have hWhole : filled ++ stream <+: message ++ more.flatten := by
        rw [hMessages, List.append_assoc] at hStream
        simpa [List.prefix_append_right_inj] using hStream
      have hTaken : filled ++ stream.take count <+: message ++ more.flatten := by
        apply List.IsPrefix.trans _ hWhole
        exact (List.prefix_append_right_inj filled).mpr (List.take_prefix count stream)
      have hTakenLength : (filled ++ stream.take count).length = filled.length + count := by
        rw [List.length_append, List.length_take, Nat.min_eq_left hFound]
      have hPart : filled ++ stream.take count <+: message := by
        apply List.prefix_of_prefix_length_le hTaken (List.prefix_append _ _)
        omega
      have hRest : message.length = (filled ++ stream.take count).length + (length - count) := by
        omega
      rw [List.append_assoc]
      exact Receiver.proceed_receives hMessages hPart hRest
  | finished => exact absurd rfl hCalling
  | failed hMessages hFilled hShort => exact absurd rfl hCalling

/-- A call that breaks has still received whole messages before. -/
theorem Receiver.Receives.broken (h : receiver.Receives messages consumed)
    (hCalling : receiver.length ≠ 0) (error : Error) :
    (Receiver.proceed receiver.waiting (.returned (.error error)) receiver.results).Receives
      messages consumed := by
  cases h with
  | @reading finished more message filled length hMessages hFilled hLength hOpen =>
      rw [Receiver.proceed_error]
      exact .failed hMessages hFilled (by omega)
  | finished => exact absurd rfl hCalling
  | failed hMessages hFilled hShort => exact absurd rfl hCalling

end Calls

namespace Session

variable {messages : List Buffer} {session session' : Session} {action : Action}
  {actions : List Action}

/-- Both sides keep to the messages, and the stream is first in, first out. -/
structure Framed (messages : List Buffer) (session : Session) : Prop where
  sends : session.sender.Sends messages session.written
  receives : session.receiver.Receives messages session.consumed
  fifo : session.written = session.consumed ++ session.stream

/-- An interrupted call is made again in the same state. -/
theorem resumeWrite_interrupted (hCalling : session.sender.cursor ≠ []) :
    session.resumeWrite .interrupted = session := by
  have hLength : session.sender.cursor.length ≠ 0 := mt List.length_eq_zero_iff.mp hCalling
  have hLoop : writeAnswered session.sender.cursor .interrupted =
      .calling session.sender.cursor := if_pos hLength
  rw [resumeWrite, hLoop, Sender.proceed_calling]

theorem resumeRead_interrupted (hCalling : session.receiver.length ≠ 0) :
    session.resumeRead .interrupted = session := by
  have hLoop : readAnswered session.stream session.receiver.filled session.receiver.length
      .interrupted = .calling session.receiver.filled session.receiver.length :=
    if_pos hCalling
  rw [resumeRead, hLoop, Receiver.proceed_calling]

theorem Framed.start (messages : List Buffer) : (Session.start messages).Framed messages where
  sends := Sender.start_sends messages
  receives := Receiver.start_receives messages
  fifo := rfl

theorem Framed.performWrite (h : session.Framed messages) (hCalling : session.sender.cursor ≠ [])
    {answer : WriteAnswer} (hPerform : session.performWrite answer = some session') :
    session'.Framed messages := by
  cases answer with
  | moved count =>
      obtain ⟨-, hSame⟩ := Option.ite_none_right_eq_some.mp hPerform
      cases hSame
      exact {
        sends := h.sends.moved hCalling count
        receives := h.receives
        fifo := by
          dsimp only
          rw [h.fifo, List.append_assoc]
          rfl }
  | interrupted =>
      cases hPerform
      rw [resumeWrite_interrupted hCalling]
      exact h
  | failed reason =>
      cases hPerform
      exact ⟨h.sends.broken hCalling _, h.receives, h.fifo⟩

theorem Framed.performRead (h : session.Framed messages) (hCalling : session.receiver.length ≠ 0)
    {answer : ReadAnswer} (hPerform : session.performRead answer = some session') :
    session'.Framed messages := by
  cases answer with
  | moved count =>
      obtain ⟨⟨-, hCount, hFound⟩, hSame⟩ := Option.ite_none_right_eq_some.mp hPerform
      have hStream := h.sends.written_prefix
      rw [h.fifo] at hStream
      cases hSame
      exact {
        sends := h.sends
        receives := h.receives.moved hCalling hStream hCount hFound
        fifo := by
          dsimp only
          rw [List.append_assoc, List.take_append_drop]
          exact h.fifo }
  | endOfStream =>
      obtain ⟨-, hSame⟩ := Option.ite_none_right_eq_some.mp hPerform
      cases hSame
      exact ⟨h.sends, h.receives.broken hCalling _, h.fifo⟩
  | interrupted =>
      cases hPerform
      rw [resumeRead_interrupted hCalling]
      exact h
  | failed reason =>
      cases hPerform
      exact ⟨h.sends, h.receives.broken hCalling _, h.fifo⟩

theorem Framed.perform (h : session.Framed messages)
    (hPerform : session.perform action = some session') : session'.Framed messages := by
  cases action with
  | write answer =>
      obtain ⟨hCalling, hWrite⟩ := Option.ite_none_left_eq_some.mp hPerform
      exact h.performWrite hCalling hWrite
  | read answer =>
      obtain ⟨hCalling, hRead⟩ := Option.ite_none_left_eq_some.mp hPerform
      exact h.performRead hCalling hRead
  | close =>
      obtain ⟨-, hSame⟩ := Option.ite_none_left_eq_some.mp hPerform
      cases hSame
      exact ⟨h.sends, h.receives, h.fifo⟩

theorem Framed.performAll (h : session.Framed messages)
    (hRun : session.performAll actions = some session') : session'.Framed messages := by
  induction actions generalizing session with
  | nil =>
      cases hRun
      exact h
  | cons action actions ih =>
      obtain ⟨next, hPerform, hRest⟩ := Option.bind_eq_some_iff.mp hRun
      exact ih (h.perform hPerform) hRest

end Session

/-- A call that a signal interrupts. -/
def Action.interruption : Action → Bool
  | .write .interrupted | .read .interrupted => true
  | _ => false

/-- A call that moves bytes or is interrupted. -/
def Action.clean : Action → Bool
  | .write (.moved _) | .write .interrupted | .read (.moved _) | .read .interrupted => true
  | _ => false

namespace Session

variable {messages : List Buffer} {session session' : Session} {action : Action}
  {actions : List Action}

/-- A bound on what can still happen, interruptions apart. Every byte is moved
twice, and each side and the stream can end once. -/
def remaining (session : Session) : Nat :=
  2 * session.sender.owed + session.stream.length + (!session.sender.cursor.isEmpty).toNat +
    (session.receiver.length != 0).toNat + (!session.ended).toNat

/-- A write that is not interrupted makes progress. -/
theorem performWrite_remaining (hCalling : session.sender.cursor ≠ []) {answer : WriteAnswer}
    (hPerform : session.performWrite answer = some session')
    (hAnswer : answer ≠ .interrupted) : session'.remaining < session.remaining := by
  have hBusy : (!session.sender.cursor.isEmpty).toNat = 1 := by simpa using hCalling
  cases answer with
  | moved count =>
      obtain ⟨⟨hSome, hCount, -⟩, hSame⟩ := Option.ite_none_right_eq_some.mp hPerform
      cases hSame
      have hOwed := Sender.proceed_owed session.sender.waiting (session.sender.cursor.drop count)
        session.sender.results
      have hLater := Bool.toNat_le (!(Sender.proceed session.sender.waiting
        (writeFull (session.sender.cursor.drop count)) session.sender.results).cursor.isEmpty)
      have hOwes : session.sender.owed =
        session.sender.cursor.length + session.sender.waiting.flatten.length := rfl
      rw [List.length_drop] at hOwed
      simp only [remaining, resumeWrite, writeAnswered, List.length_append, List.length_take]
      omega
  | interrupted => exact absurd rfl hAnswer
  | failed reason =>
      cases hPerform
      simp only [remaining, resumeWrite, writeAnswered, Sender.proceed_error, Sender.owed,
        List.length_nil, List.flatten_nil, List.isEmpty_nil, Bool.not_true, Bool.toNat_false]
      omega

theorem performRead_remaining (hCalling : session.receiver.length ≠ 0) {answer : ReadAnswer}
    (hPerform : session.performRead answer = some session')
    (hAnswer : answer ≠ .interrupted) : session'.remaining < session.remaining := by
  have hBusy : (session.receiver.length != 0).toNat = 1 := by simpa using hCalling
  cases answer with
  | moved count =>
      obtain ⟨⟨hSome, hCount, hFound⟩, hSame⟩ := Option.ite_none_right_eq_some.mp hPerform
      cases hSame
      have hLater := Bool.toNat_le ((Receiver.proceed session.receiver.waiting
        (readAnswered session.stream session.receiver.filled session.receiver.length
          (.moved count)) session.receiver.results).length != 0)
      simp only [remaining, resumeRead, List.length_drop]
      omega
  | endOfStream =>
      obtain ⟨-, hSame⟩ := Option.ite_none_right_eq_some.mp hPerform
      cases hSame
      simp only [remaining, resumeRead, readAnswered, Receiver.proceed_error, bne_self_eq_false,
        Bool.toNat_false]
      omega
  | interrupted => exact absurd rfl hAnswer
  | failed reason =>
      cases hPerform
      simp only [remaining, resumeRead, readAnswered, Receiver.proceed_error, bne_self_eq_false,
        Bool.toNat_false]
      omega

theorem perform_remaining (hPerform : session.perform action = some session')
    (hAction : action.interruption = false) : session'.remaining < session.remaining := by
  cases action with
  | write answer =>
      obtain ⟨hCalling, hWrite⟩ := Option.ite_none_left_eq_some.mp hPerform
      apply performWrite_remaining hCalling hWrite
      rintro rfl
      cases hAction
  | read answer =>
      obtain ⟨hCalling, hRead⟩ := Option.ite_none_left_eq_some.mp hPerform
      apply performRead_remaining hCalling hRead
      rintro rfl
      cases hAction
  | close =>
      obtain ⟨hOpen, hSame⟩ := Option.ite_none_left_eq_some.mp hPerform
      cases hSame
      have hFalse : session.ended = false := by simpa using hOpen
      simp only [remaining, hFalse, Bool.not_true, Bool.not_false, Bool.toNat_false,
        Bool.toNat_true]
      omega

theorem perform_interruption (hPerform : session.perform action = some session')
    (hAction : action.interruption = true) : session' = session := by
  cases action with
  | write answer =>
      obtain ⟨hCalling, hWrite⟩ := Option.ite_none_left_eq_some.mp hPerform
      cases answer with
      | interrupted =>
          cases hWrite
          exact resumeWrite_interrupted hCalling
      | moved count => cases hAction
      | failed reason => cases hAction
  | read answer =>
      obtain ⟨hCalling, hRead⟩ := Option.ite_none_left_eq_some.mp hPerform
      cases answer with
      | interrupted =>
          cases hRead
          exact resumeRead_interrupted hCalling
      | moved count => cases hAction
      | endOfStream => cases hAction
      | failed reason => cases hAction
  | close => cases hAction

/-- Interruptions apart, a run is at most as long as its bound says. -/
theorem performAll_remaining (hRun : session.performAll actions = some session') :
    session'.remaining + actions.countP (fun action => !action.interruption) ≤
      session.remaining := by
  induction actions generalizing session with
  | nil =>
      cases hRun
      exact Nat.le_refl _
  | cons action actions ih =>
      obtain ⟨next, hPerform, hRest⟩ := Option.bind_eq_some_iff.mp hRun
      have hLater := ih hRest
      rw [List.countP_cons]
      cases hAction : action.interruption with
      | true =>
          rw [perform_interruption hPerform hAction] at hLater
          simpa using hLater
      | false =>
          have hLess := perform_remaining hPerform hAction
          simp only [Bool.not_false, if_true]
          omega

theorem start_remaining (messages : List Buffer) :
    (start messages).remaining ≤ 2 * messages.flatten.length + 3 := by
  have hOwed : (Sender.start messages).owed = messages.flatten.length := by
    cases messages with
    | nil => rfl
    | cons message waiting =>
        rw [Sender.start, Sender.proceed_owed, List.flatten_cons, List.length_append]
  have hSender := Bool.toNat_le (!(Sender.start messages).cursor.isEmpty)
  have hReceiver := Bool.toNat_le ((Receiver.start (messages.map List.length)).length != 0)
  simp only [remaining, start, hOwed, List.length_nil, Bool.not_false, Bool.toNat_true]
  omega

/-- Nothing has gone wrong so far. -/
structure Flowing (session : Session) : Prop where
  ended_eq : session.ended = false
  sent : ∀ result ∈ session.sender.results, result = .ok ()
  received : ∀ result ∈ session.receiver.results, ∃ bytes, result = .ok bytes

theorem Flowing.start (messages : List Buffer) : (Session.start messages).Flowing where
  ended_eq := rfl
  sent := by
    cases messages with
    | nil => exact List.forall_mem_nil _
    | cons message waiting => exact Sender.proceed_results waiting message (List.forall_mem_nil _)
  received := by
    cases messages with
    | nil => exact List.forall_mem_nil _
    | cons message more => exact Receiver.proceed_results _ [] _ (List.forall_mem_nil _)

theorem Flowing.perform (h : session.Flowing) (hPerform : session.perform action = some session')
    (hClean : action.clean = true) : session'.Flowing := by
  cases action with
  | write answer =>
      obtain ⟨hCalling, hWrite⟩ := Option.ite_none_left_eq_some.mp hPerform
      cases answer with
      | moved count =>
          obtain ⟨-, hSame⟩ := Option.ite_none_right_eq_some.mp hWrite
          cases hSame
          exact ⟨h.ended_eq, Sender.proceed_results _ _ h.sent, h.received⟩
      | interrupted =>
          cases hWrite
          rw [resumeWrite_interrupted hCalling]
          exact h
      | failed reason => cases hClean
  | read answer =>
      obtain ⟨hCalling, hRead⟩ := Option.ite_none_left_eq_some.mp hPerform
      cases answer with
      | moved count =>
          obtain ⟨-, hSame⟩ := Option.ite_none_right_eq_some.mp hRead
          cases hSame
          exact ⟨h.ended_eq, h.sent, Receiver.proceed_results _ _ _ h.received⟩
      | endOfStream => cases hClean
      | interrupted =>
          cases hRead
          rw [resumeRead_interrupted hCalling]
          exact h
      | failed reason => cases hClean
  | close => cases hClean

theorem Flowing.performAll (h : session.Flowing)
    (hRun : session.performAll actions = some session')
    (hClean : ∀ action ∈ actions, action.clean = true) : session'.Flowing := by
  induction actions generalizing session with
  | nil =>
      cases hRun
      exact h
  | cons action actions ih =>
      obtain ⟨next, hPerform, hRest⟩ := Option.bind_eq_some_iff.mp hRun
      rw [List.forall_mem_cons] at hClean
      exact ih (h.perform hPerform hClean.1) hRest hClean.2

/-- All calls have returned well, and the messages have arrived. -/
structure Finished (messages : List Buffer) (session : Session) : Prop where
  sent : session.sender = {
    cursor := []
    waiting := []
    results := messages.map fun _ => .ok () }
  received : session.receiver = {
    filled := []
    length := 0
    waiting := []
    results := messages.map .ok }
  written_eq : session.written = messages.flatten
  consumed_eq : session.consumed = messages.flatten
  stream_eq : session.stream = []

/-- While nothing goes wrong, calls can move bytes until all have returned. -/
theorem Framed.progress (h : session.Framed messages) (hFlowing : session.Flowing) :
    session.Finished messages ∨ ∃ action, action.clean = true ∧ action.interruption = false ∧
      (session.perform action).isSome = true := by
  obtain ⟨hSends, hReceives, hFifo⟩ := h
  obtain ⟨hOpen, hSent, hReceived⟩ := hFlowing
  obtain ⟨sender, stream, ended, receiver, written, consumed⟩ := session
  dsimp only at hSends hReceives hFifo hOpen hSent hReceived
  cases hSends with
  | @writing finished waiting part cursor hMessages hCursor =>
      right
      refine ⟨.write (.moved cursor.length), rfl, rfl, ?_⟩
      have hSome : 0 < cursor.length := List.length_pos_iff.mpr hCursor
      simp [Session.perform, Session.performWrite, hCursor, hSome, hOpen]
  | failed hMessages hRest =>
      have hWrong := hSent _ (List.mem_append_right _ List.mem_cons_self)
      cases hWrong
  | finished =>
      cases hReceives with
      | @reading finished more message filled length hMessages hFilled hLength hCalling =>
          right
          refine ⟨.read (.moved 1), rfl, rfl, ?_⟩
          have hTotal := congrArg List.length hFifo
          rw [hMessages] at hTotal
          simp only [List.flatten_append, List.flatten_cons, List.length_append] at hTotal
          have hFound : 1 ≤ stream.length := by omega
          have hCount : 1 ≤ length := Nat.pos_of_ne_zero hCalling
          simp [Session.perform, Session.performRead, hCalling, hCount, hFound]
      | finished =>
          left
          have hEmpty : stream = [] := by simpa using hFifo.symm
          exact ⟨rfl, rfl, rfl, rfl, hEmpty⟩
      | failed hMessages hFilled hShort =>
          obtain ⟨bytes, hWrong⟩ := hReceived _ (List.mem_append_right _ List.mem_cons_self)
          cases hWrong

/-- The call in progress returns an error when the socket fails or, for a read,
when the stream has ended. -/
structure Breaks (session : Session) : Prop where
  write : ∀ reason next, session.perform (.write (.failed reason)) = some next →
    next.sender.results = session.sender.results ++ [.error (systemError "write" reason)]
  read : ∀ reason next, session.perform (.read (.failed reason)) = some next →
    next.receiver.results = session.receiver.results ++ [.error (systemError "read" reason)]
  ended : session.receiver.length ≠ 0 → session.stream = [] → session.ended = true →
    (∀ count, session.perform (.read (.moved count)) = none) ∧
    ∃ next, session.perform (.read .endOfStream) = some next ∧
      next.receiver.results = session.receiver.results ++
        [.error (transportError "peer closed exchange channel")]

/-- An error in either direction breaks the session off. -/
theorem breaks (session : Session) : session.Breaks where
  write := by
    intro reason next hPerform
    obtain ⟨-, hSame⟩ := Option.ite_none_left_eq_some.mp hPerform
    cases hSame
    simp [resumeWrite, writeAnswered, Sender.proceed_error]
  read := by
    intro reason next hPerform
    obtain ⟨-, hSame⟩ := Option.ite_none_left_eq_some.mp hPerform
    cases hSame
    simp [resumeRead, readAnswered, Receiver.proceed_error]
  ended := by
    intro hCalling hEmpty hEnded
    constructor
    · intro count
      have hNone : ¬(0 < count ∧ count ≤ session.receiver.length ∧
          count ≤ session.stream.length) := by
        rw [hEmpty]
        intro hMoved
        exact absurd hMoved.1 (Nat.not_lt.mpr hMoved.2.2)
      rw [Session.perform, if_neg hCalling, performRead, if_neg hNone]
    · refine ⟨session.resumeRead .endOfStream, ?_, ?_⟩
      · rw [Session.perform, if_neg hCalling, performRead, if_pos ⟨hEmpty, hEnded⟩]
      · simp [resumeRead, readAnswered, Receiver.proceed_error]

/-- Framing is exact, whatever the socket answers and however the two sides
take turns: calls that return well have moved their message and nothing else,
and calls that are cut short return an error. A run without errors makes
progress until all calls have returned, after a bounded number of calls that
are not interrupted. -/
theorem framing_exact (messages : List Buffer) {actions : List Action} {session : Session}
    (hRun : (Session.start messages).performAll actions = some session) :
    session.Framed messages ∧ session.Breaks ∧
    actions.countP (fun action => !action.interruption) ≤ 2 * messages.flatten.length + 3 ∧
    ((∀ action ∈ actions, action.clean = true) →
      session.Finished messages ∨ ∃ action, action.clean = true ∧ action.interruption = false ∧
        (session.perform action).isSome = true) := by
  have hFramed := (Framed.start messages).performAll hRun
  have hBound := performAll_remaining hRun
  have hStart := start_remaining messages
  refine ⟨hFramed, breaks session, by omega, fun hClean => ?_⟩
  exact hFramed.progress ((Flowing.start messages).performAll hRun hClean)

def smallMessages : List Buffer := [[1, 2, 3], [], [4, 5]]

/-- Short and interrupted calls, and a read that crosses no boundary although
bytes of the next message have arrived. -/
def smallActions : List Action := [
  .write (.moved 1), .write .interrupted, .write (.moved 2), .read (.moved 1), .write (.moved 2),
  .read .interrupted, .read (.moved 2), .read (.moved 1), .read (.moved 1)]

def smallSession : Session where
  sender := {
    cursor := []
    waiting := []
    results := [.ok (), .ok (), .ok ()] }
  stream := []
  ended := false
  receiver := {
    filled := []
    length := 0
    waiting := []
    results := [.ok [1, 2, 3], .ok [], .ok [4, 5]] }
  written := [1, 2, 3, 4, 5]
  consumed := [1, 2, 3, 4, 5]

/-- Three messages, one of them empty, in short and interrupted calls. -/
theorem framing_exact_small :
    (Session.start smallMessages).performAll smallActions = some smallSession ∧
    smallSession.Framed smallMessages ∧ smallSession.Breaks ∧
    (smallSession.Finished smallMessages ∨ ∃ action, action.clean = true ∧
      action.interruption = false ∧ (smallSession.perform action).isSome = true) := by
  have hRun : (Session.start smallMessages).performAll smallActions = some smallSession := by
    decide
  obtain ⟨hFramed, hBreaks, -, hProgress⟩ := framing_exact smallMessages hRun
  exact ⟨hRun, hFramed, hBreaks, hProgress (by decide)⟩

end Session

end NdsStorage.Negotiation.TcpConnection
