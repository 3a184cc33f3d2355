import NdsStorage.Client.Verbs
import NdsStorage.Ring.Phase
import Mathlib.Logic.Relation
import Mathlib.Data.Nat.Bitwise

/-! The completion queue as it lies in memory. The hardware writes its entries
around a ring and turns their owner bit over on every pass. Three loops of
device code read them, each with its own copy of the consumer index, which is
stored back and published once at the end. -/
namespace NdsStorage.Client

open PhaseRing

section Codec

structure HnsHwCqe where
  byte4 : UInt32
  immediateData : UInt32
  byte12 : UInt32
  byte16 : UInt32
  byteCount : UInt32
deriving DecidableEq, Repr

structure Wc where
  wrId : UInt64
  status : Int32
  opcode : Int32
  vendorError : UInt32
  byteLength : UInt32
  qpNumber : UInt32
  flags : UInt32
  immediateDataOrInvalidatedRkey : UInt32
  reserved : UInt32
deriving DecidableEq, Repr

/-- The owner bit differs from the bit of the consumer index that counts passes. -/
def ownerTurned (cqe : HnsHwCqe) (consumer depth : UInt32) : Bool :=
  ((cqe.byte4 >>> 7) &&& 1) ^^^ (if consumer &&& depth ≠ 0 then 1 else 0) ≠ 0

def hnsHwCqeIsReady (cqe : HnsHwCqe) (consumer depth : UInt32) : Bool :=
  depth ≠ 0 && ownerTurned cqe consumer depth

def hnsHwSendTailForCqe (tail depth : UInt32) (cqe : HnsHwCqe) : UInt32 :=
  tail + (((cqe.byte4 >>> 16) - tail) &&& (depth - 1))

def hnsHwDecodeCqe (cqe : HnsHwCqe) (wrId : UInt64) : Wc where
  wrId := wrId
  status := ((cqe.byte4 >>> 8) &&& 0xff).toInt32
  opcode := (cqe.byte4 &&& 0x1f).toInt32
  vendorError := (cqe.byte16 >>> 24) &&& 0xff
  byteLength := cqe.byteCount
  qpNumber := cqe.byte12 &&& 0x00ffffff
  flags := 0
  immediateDataOrInvalidatedRkey := cqe.immediateData
  reserved := 0

end Codec

/-- A completion queue and the counters of its work queue. The last three
fields are an account: all entries written and all entries consumed so far, and
how many of the latter the hardware has been told of. -/
structure CqRing where
  sendCq : Bool
  cq : CqDescriptor
  wq : WorkQueueDescriptor
  entries : Nat → HnsHwCqe
  wrIds : Nat → UInt64
  consumer : UInt32
  tail : UInt32
  doorbell : UInt32
  state : TransportQpState
  written : List HnsHwCqe
  consumed : List HnsHwCqe
  published : Nat

namespace CqRing

def ownerMask : UInt32 := 0x80

/-- The hardware's own setting of the owner bit. -/
def stampOwner (owner : Bool) (cqe : HnsHwCqe) : HnsHwCqe :=
  { cqe with byte4 := (cqe.byte4 &&& 0xffffff7f) ||| (if owner then ownerMask else 0) }

/-- The hardware writes its next entry, unless the ring has no room for it. -/
def arrive (ring : CqRing) (cqe : HnsHwCqe) : CqRing :=
  let position := ring.written.length
  let depth := ring.cq.depth.toNat
  if position < ring.published + depth then
    let entry := stampOwner (passPhase depth position) cqe
    { ring with
      entries := Function.update ring.entries (position % depth) entry
      written := ring.written ++ [entry] }
  else ring

/-- An entry that a loop consumes, with the tail that it covers. -/
structure Taken where
  cqe : HnsHwCqe
  tail : UInt32

/-- Where a loop stands: its copies of the counters, and the ring. -/
structure Cursor where
  consumer : UInt32
  tail : UInt32
  ring : CqRing

/-- The loop over the ring. Before each look further entries may arrive. -/
def walk (isReady : HnsHwCqe → UInt32 → UInt32 → Bool) :
    Nat → List (List HnsHwCqe) → Cursor → List Taken × Cursor
  | 0, _, cursor => ([], cursor)
  | limit + 1, arrivals, cursor =>
      let ring := (arrivals.headD []).foldl arrive cursor.ring
      let cqe := ring.entries (ringIndex cursor.consumer ring.cq.depth)
      if isReady cqe cursor.consumer ring.cq.depth then
        let tail :=
          if ring.sendCq then hnsHwSendTailForCqe cursor.tail ring.wq.depth cqe else cursor.tail
        let next := walk isReady limit arrivals.tail {
          consumer := cursor.consumer + 1
          tail := tail + 1
          ring := ring }
        ({ cqe := cqe, tail := tail } :: next.1, next.2)
      else ([], { cursor with ring := ring })

def start (ring : CqRing) : Cursor where
  consumer := ring.consumer
  tail := ring.tail
  ring := ring

/-- The counters are stored back after a loop that consumed something. -/
def store (rung : Bool) (walked : List Taken × Cursor) : CqRing :=
  let ring := walked.2.ring
  let consumed := ring.consumed ++ walked.1.map Taken.cqe
  if walked.1 = [] then ring
  else
    { ring with
      consumer := walked.2.consumer
      tail := walked.2.tail
      doorbell := if rung then walked.2.consumer &&& 0x00ffffff else ring.doorbell
      consumed := consumed
      published := if rung then consumed.length else ring.published }

def decode (ring : CqRing) (taken : Taken) : Wc :=
  hnsHwDecodeCqe taken.cqe (ring.wrIds (ringIndex taken.tail ring.wq.depth))

def pollLimit (maxCompletions : UInt32) : Nat := min maxCompletions.toNat kMaxCompletions

/-- The vector core looks at the owner bit without a test of the depth. -/
def aivPollCq (maxCompletions : UInt32) (arrivals : List (List HnsHwCqe)) (ring : CqRing) :
    Except OperationStatus (List Wc) × CqRing :=
  if maxCompletions = 0 then (.error .invalidArgument, ring)
  else
    let walked := walk ownerTurned (pollLimit maxCompletions) arrivals ring.start
    (.ok (walked.1.map ring.decode), store true walked)

/-- The control processor rings only where there is a doorbell. -/
def aicpuPollCq (maxCompletions : UInt32) (arrivals : List (List HnsHwCqe)) (ring : CqRing) :
    Except OperationStatus (List Wc) × CqRing :=
  if maxCompletions = 0 then (.error .invalidArgument, ring)
  else if ring.cq.bufferAddress = 0 ∨ ring.cq.consumerAddress = 0 ∨ ring.cq.depth = 0 ∨
      ring.cq.entrySize < kHnsHwCqeBytes ∨ ring.wq.tailAddress = 0 ∨ ring.wq.wrIdAddress = 0 then
    (.error .invalidArgument, ring)
  else
    let walked := walk hnsHwCqeIsReady (pollLimit maxCompletions) arrivals ring.start
    (.ok (walked.1.map ring.decode), store (ring.cq.doorbellAddress ≠ 0) walked)

def reclaimCredits (sendCq : Bool) (count : Nat) (state : TransportQpState) : TransportQpState :=
  if sendCq then
    { state with sendCredits := state.sendCredits + UInt32.ofNat count * state.signalInterval }
  else { state with receiveCredits := state.receiveCredits + UInt32.ofNat count }

/-- The transport of the vector core keeps the statuses to itself and hands
back the credits. -/
def reclaimTransportCq (arrivals : List (List HnsHwCqe)) (ring : CqRing) :
    OperationStatus × Nat × CqRing :=
  if ring.cq.bufferAddress = 0 ∨ ring.cq.consumerAddress = 0 ∨ ring.cq.doorbellAddress = 0 ∨
      ring.cq.depth = 0 ∨ ring.cq.entrySize < kHnsHwCqeBytes ∨ ring.wq.tailAddress = 0 ∨
      ring.wq.wrIdAddress = 0 ∨ ring.wq.depth = 0 then
    (.invalidArgument, 0, ring)
  else
    let walked := walk hnsHwCqeIsReady kMaxCompletions arrivals ring.start
    let count := walked.1.length
    let status :=
      if walked.1.any fun taken => (taken.cqe.byte4 >>> 8) &&& 0xff ≠ 0 then .providerFailed
      else .success
    let stored := store true walked
    (status, count,
      if count = 0 then stored
      else { stored with state := reclaimCredits ring.sendCq count stored.state })

/-- An entry arrives between two calls, or one of the loops is called. -/
inductive Step : CqRing → CqRing → Prop
  | arrive (ring : CqRing) (cqe : HnsHwCqe) : Step ring (ring.arrive cqe)
  | aivPollCq (ring : CqRing) (maxCompletions : UInt32) (arrivals : List (List HnsHwCqe)) :
      Step ring (ring.aivPollCq maxCompletions arrivals).2
  | aicpuPollCq (ring : CqRing) (maxCompletions : UInt32) (arrivals : List (List HnsHwCqe)) :
      Step ring (ring.aicpuPollCq maxCompletions arrivals).2
  | reclaimTransportCq (ring : CqRing) (arrivals : List (List HnsHwCqe)) :
      Step ring (ring.reclaimTransportCq arrivals).2.2

def Reaches : CqRing → CqRing → Prop := Relation.ReflTransGen Step

section Owner

variable {bits count : Nat} {depth : UInt32}

def ownerBit (cqe : HnsHwCqe) : Bool := cqe.byte4.toNat.testBit 7

/-- Where the consumer stands decides which value of the owner bit is new. -/
theorem ownerTurned_eq (cqe : HnsHwCqe) (consumer depth : UInt32) :
    ownerTurned cqe consumer depth = (ownerBit cqe ^^ decide (consumer &&& depth ≠ 0)) := by
  have hOwner : (cqe.byte4 >>> 7) &&& 1 = if ownerBit cqe then 1 else 0 := by
    apply UInt32.toNat_inj.mp
    rw [UInt32.toNat_and, UInt32.toNat_shiftRight]
    change cqe.byte4.toNat >>> 7 &&& 1 = _
    rw [Nat.and_one_is_mod, ownerBit, Nat.testBit_eq_decide_div_mod_eq, Nat.shiftRight_eq_div_pow]
    rcases Nat.mod_two_eq_zero_or_one (cqe.byte4.toNat / 2 ^ 7) with hBit | hBit
    · rw [hBit]
      rfl
    · rw [hBit]
      rfl
  rw [ownerTurned, hOwner]
  by_cases hPass : consumer &&& depth = 0
  · cases ownerBit cqe
    · simp [hPass]
    · simp [hPass]
  · cases ownerBit cqe
    · simp [hPass]
    · simp [hPass]

/-- A stamped entry carries the owner bit it was given. -/
theorem ownerBit_stampOwner (owner : Bool) (cqe : HnsHwCqe) :
    ownerBit (stampOwner owner cqe) = owner := by
  rw [ownerBit, stampOwner]
  dsimp only
  rw [UInt32.toNat_or, UInt32.toNat_and, Nat.testBit_or, Nat.testBit_and]
  have hCleared : (0xffffff7f : UInt32).toNat.testBit 7 = false := by decide
  rw [hCleared, Bool.and_false, Bool.false_or]
  cases owner
  · decide
  · decide

/-- The bit of the consumer index that the depth selects is the parity of the
pass, also after the index has wrapped. -/
theorem passBit_eq (hBits : bits ≤ 31) (hDepth : depth.toNat = 2 ^ bits) (count : Nat) :
    decide (UInt32.ofNat count &&& depth ≠ 0) = !passPhase (2 ^ bits) count := by
  have hWord : (UInt32.ofNat count &&& depth).toNat = (count.testBit bits).toNat * 2 ^ bits := by
    rw [UInt32.toNat_and, UInt32.toNat_ofNat', hDepth, Nat.and_two_pow, Nat.testBit_mod_two_pow,
      decide_eq_true (show bits < 32 by omega), Bool.true_and]
  have hZero : UInt32.ofNat count &&& depth = 0 ↔ count.testBit bits = false := by
    rw [← UInt32.toNat_inj, hWord]
    have hPositive : 0 < 2 ^ bits := Nat.two_pow_pos bits
    cases count.testBit bits
    · simp
    · simp
  rw [passPhase, Nat.testBit_eq_decide_div_mod_eq] at *
  simp only [ne_eq, hZero, decide_eq_false_iff_not, Decidable.not_not]
  rcases Nat.mod_two_eq_zero_or_one (count / 2 ^ bits) with hBit | hBit
  · simp [hBit]
  · simp [hBit]

end Owner

/-- The ring between two looks at it, when `done` has been consumed. -/
structure Ordered (bits : Nat) (done : List HnsHwCqe) (ring : CqRing) : Prop where
  depth_eq : ring.cq.depth.toNat = 2 ^ bits
  done_prefix : done <+: ring.written
  published_le : ring.published ≤ done.length
  ahead_le : ring.written.length ≤ ring.published + 2 ^ bits
  phased : Phased (2 ^ bits) ownerBit ring.written ring.entries

variable {bits : Nat} {done : List HnsHwCqe} {ring ring' : CqRing}

/-- The hardware stamps an entry with the owner bit of its lap. -/
theorem Ordered.arrive (h : ring.Ordered bits done) (cqe : HnsHwCqe) :
    (ring.arrive cqe).Ordered bits done := by
  unfold CqRing.arrive
  dsimp only
  rw [h.depth_eq]
  split
  · rename_i hRoom
    exact {
      depth_eq := h.depth_eq
      done_prefix := h.done_prefix.trans (List.prefix_append ..)
      published_le := h.published_le
      ahead_le := by
        rw [List.length_append, List.length_singleton]
        exact hRoom
      phased := h.phased.write (ownerBit_stampOwner ..) }
  · exact h

/-- A look finds the next entry exactly if it has been written. -/
theorem Ordered.look (h : ring.Ordered bits done) (hBits : bits ≤ 31) :
    (ownerTurned (ring.entries (ringIndex (UInt32.ofNat done.length) ring.cq.depth))
        (UInt32.ofNat done.length) ring.cq.depth = true ∧
      done ++ [ring.entries (ringIndex (UInt32.ofNat done.length) ring.cq.depth)] <+:
        ring.written) ∨
    (ownerTurned (ring.entries (ringIndex (UInt32.ofNat done.length) ring.cq.depth))
        (UInt32.ofNat done.length) ring.cq.depth = false ∧ done = ring.written) := by
  have hSize : 0 < 2 ^ bits := Nat.two_pow_pos bits
  have hIndex : ringIndex (UInt32.ofNat done.length) ring.cq.depth = done.length % 2 ^ bits := by
    rw [ringIndex, UInt32.toNat_mod, h.depth_eq, UInt32.toNat_ofNat']
    exact Nat.mod_mod_of_dvd _ (Nat.pow_dvd_pow 2 (by omega))
  rw [hIndex, ownerTurned_eq, passBit_eq hBits h.depth_eq]
  obtain ⟨rest, hRest⟩ := h.done_prefix
  have hAhead := h.ahead_le
  have hPublished := h.published_le
  cases rest with
  | nil =>
      rw [List.append_nil] at hRest
      have hStale := h.phased.stale hSize
      rw [← hRest] at hStale
      rw [hStale]
      exact .inr ⟨by simp, hRest⟩
  | cons next rest =>
      have hNext : ring.written[done.length]? = some next := by
        rw [← hRest, List.getElem?_append_right (Nat.le_refl _), Nat.sub_self]
        rfl
      obtain ⟨hEntry, hPhase⟩ := h.phased.fresh hNext (by omega)
      rw [hPhase, hEntry]
      exact .inl ⟨by simp, rest, by rw [← hRest, List.append_assoc]; rfl⟩

/-- The hardware writes into the ring and nowhere else. -/
theorem arrive_frame (ring : CqRing) (cqe : HnsHwCqe) :
    ∃ entries written, ring.arrive cqe = { ring with entries := entries, written := written } := by
  unfold CqRing.arrive
  dsimp only
  split
  · exact ⟨_, _, rfl⟩
  · exact ⟨ring.entries, ring.written, rfl⟩

/-- What arrives is written to the entries and to nothing else of the ring. -/
theorem arrivals_frame (cqes : List HnsHwCqe) (ring : CqRing) :
    ∃ entries written, cqes.foldl CqRing.arrive ring =
      { ring with entries := entries, written := written } := by
  induction cqes generalizing ring with
  | nil => exact ⟨ring.entries, ring.written, rfl⟩
  | cons cqe rest ih =>
      obtain ⟨entries, written, hFirst⟩ := ring.arrive_frame cqe
      obtain ⟨entries, written, hRest⟩ := ih (ring.arrive cqe)
      refine ⟨entries, written, ?_⟩
      rw [List.foldl_cons, hRest, hFirst]

/-- Any number of arrivals keeps the ring in order. -/
theorem Ordered.arrivals (cqes : List HnsHwCqe) (h : ring.Ordered bits done) :
    (cqes.foldl CqRing.arrive ring).Ordered bits done := by
  induction cqes generalizing ring with
  | nil => exact h
  | cons cqe rest ih => exact ih (h.arrive cqe)

/-- What a loop has done when it ends, from entries already consumed. -/
structure Walked (bits limit : Nat) (done : List HnsHwCqe) (ring : CqRing)
    (walked : List Taken × Cursor) : Prop where
  ordered : walked.2.ring.Ordered bits (done ++ walked.1.map Taken.cqe)
  consumer_eq : walked.2.consumer = UInt32.ofNat (done ++ walked.1.map Taken.cqe).length
  within : walked.1.length ≤ limit
  none_skipped : walked.1.length < limit → done ++ walked.1.map Taken.cqe = walked.2.ring.written
  frame : ∃ entries written, walked.2.ring = { ring with entries := entries, written := written }

/-- A poll takes the oldest entries that have arrived, and no others. -/
theorem walk_ordered {isReady : HnsHwCqe → UInt32 → UInt32 → Bool}
    (hReady : ∀ cqe consumer depth, depth ≠ 0 →
      isReady cqe consumer depth = ownerTurned cqe consumer depth)
    (hBits : bits ≤ 31) (limit : Nat) (arrivals : List (List HnsHwCqe)) {cursor : Cursor}
    (h : cursor.ring.Ordered bits done) (hConsumer : cursor.consumer = UInt32.ofNat done.length) :
    Walked bits limit done cursor.ring (walk isReady limit arrivals cursor) := by
  induction limit generalizing done arrivals cursor with
  | zero =>
      exact {
        ordered := by simpa [walk] using h
        consumer_eq := by simpa [walk] using hConsumer
        within := Nat.le_refl _
        none_skipped := fun hNone => absurd hNone (Nat.lt_irrefl _)
        frame := ⟨_, _, rfl⟩ }
  | succ limit ih =>
      have hArrived := h.arrivals (arrivals.headD [])
      obtain ⟨entries, written, hFrame⟩ := arrivals_frame (arrivals.headD []) cursor.ring
      have hDepth : ((arrivals.headD []).foldl CqRing.arrive cursor.ring).cq.depth ≠ 0 := by
        intro hZero
        have hSize := hArrived.depth_eq
        rw [hZero] at hSize
        exact absurd hSize (Nat.ne_of_lt (Nat.two_pow_pos bits))
      unfold walk
      generalize (arrivals.headD []).foldl CqRing.arrive cursor.ring = ring at hArrived hFrame hDepth
      dsimp only
      rw [hConsumer, hReady _ _ _ hDepth]
      rcases hArrived.look hBits with ⟨hTurned, hNext⟩ | ⟨hKept, hAll⟩
      · rw [if_pos hTurned]
        generalize ring.entries (ringIndex (UInt32.ofNat done.length) ring.cq.depth) = cqe at hNext
        generalize (if ring.sendCq then _ else _ : UInt32) = tail
        have hOrdered : ring.Ordered bits (done ++ [cqe]) := {
          depth_eq := hArrived.depth_eq
          done_prefix := hNext
          published_le := by
            rw [List.length_append]
            exact Nat.le_add_right_of_le hArrived.published_le
          ahead_le := hArrived.ahead_le
          phased := hArrived.phased }
        have hRest := @ih (done ++ [cqe]) arrivals.tail
          { consumer := UInt32.ofNat done.length + 1, tail := tail + 1, ring := ring } hOrdered (by
            rw [List.length_append, List.length_singleton, UInt32.ofNat_add]
            rfl)
        generalize walk isReady limit arrivals.tail _ = rest at hRest
        obtain ⟨laterEntries, laterWritten, hLater⟩ := hRest.frame
        exact {
          ordered := by simpa using hRest.ordered
          consumer_eq := by simpa using hRest.consumer_eq
          within := Nat.succ_le_succ hRest.within
          none_skipped := fun hFewer => by
            simpa using hRest.none_skipped (Nat.lt_of_succ_lt_succ hFewer)
          frame := ⟨laterEntries, laterWritten, by rw [hLater, hFrame]⟩ }
      · rw [if_neg (by simp [hKept])]
        exact {
          ordered := by simpa using hArrived
          consumer_eq := by simp
          within := Nat.zero_le _
          none_skipped := fun _ => by simpa using hAll
          frame := ⟨entries, written, hFrame⟩ }

/-- The ring between two calls. -/
structure Settled (bits : Nat) (ring : CqRing) : Prop where
  ordered : ring.Ordered bits ring.consumed
  consumer_eq : ring.consumer = UInt32.ofNat ring.consumed.length

/-- A call consumes the next entries in order, at most as many as its limit,
and fewer only if no further one was written when it stopped. -/
structure Delivers (limit : Nat) (ring ring' : CqRing) (taken : List HnsHwCqe) : Prop where
  consumed_eq : ring'.consumed = ring.consumed ++ taken
  in_order : ring'.consumed <+: ring'.written
  within : taken.length ≤ limit
  none_skipped : taken.length < limit → ring'.consumed = ring'.written

/-- What a poll writes back settles the ring and delivers what was taken. -/
theorem Settled.store {limit : Nat} {walked : List Taken × Cursor} (h : ring.Settled bits)
    (hWalked : Walked bits limit ring.consumed ring walked) (rung : Bool) :
    (store rung walked).Settled bits ∧
      Delivers limit ring (CqRing.store rung walked) (walked.1.map Taken.cqe) := by
  obtain ⟨taken, consumer, tail, last⟩ := walked
  obtain ⟨hOrdered, hConsumer, hWithin, hNone, entries, written, hFrame⟩ := hWalked
  dsimp only at hOrdered hConsumer hWithin hNone hFrame
  subst hFrame
  unfold CqRing.store
  dsimp only
  split
  · rename_i hEmpty
    subst hEmpty
    rw [List.map_nil, List.append_nil] at hOrdered hNone
    exact ⟨⟨hOrdered, h.consumer_eq⟩,
      (List.append_nil _).symm, hOrdered.done_prefix, hWithin, hNone⟩
  · refine ⟨⟨?_, hConsumer⟩, rfl, hOrdered.done_prefix, ?_, ?_⟩
    · exact {
        depth_eq := hOrdered.depth_eq
        done_prefix := hOrdered.done_prefix
        published_le := by
          dsimp only
          split
          · exact Nat.le_refl _
          · exact hOrdered.published_le
        ahead_le := by
          have hAhead := hOrdered.ahead_le
          have hPublished := hOrdered.published_le
          dsimp only at hAhead hPublished ⊢
          split
          · omega
          · exact hAhead
        phased := hOrdered.phased }
    · rw [List.length_map]
      exact hWithin
    · rw [List.length_map]
      exact hNone

/-- The fields that the control processor's poll checks. -/
def Pollable (ring : CqRing) : Prop :=
  ring.cq.bufferAddress ≠ 0 ∧ ring.cq.consumerAddress ≠ 0 ∧ ring.cq.depth ≠ 0 ∧
    kHnsHwCqeBytes ≤ ring.cq.entrySize ∧ ring.wq.tailAddress ≠ 0 ∧ ring.wq.wrIdAddress ≠ 0

/-- The fields that the transport's poll checks. -/
def Reclaimable (ring : CqRing) : Prop :=
  ring.Pollable ∧ ring.cq.doorbellAddress ≠ 0 ∧ ring.wq.depth ≠ 0

/-- A call with an unusable argument is refused and changes nothing. Every other
call delivers, and its records are decoded from the entries that it consumed. -/
def Answers (unusable : Prop) (limit : Nat) (ring : CqRing)
    (outcome : Except OperationStatus (List Wc) × CqRing) : Prop :=
  (unusable ∧ outcome = (.error .invalidArgument, ring)) ∨
  (¬unusable ∧ ∃ completions taken, outcome.1 = .ok completions ∧
    Delivers limit ring outcome.2 taken ∧
    List.Forall₂ (fun cqe wc => ∃ wrId, wc = hnsHwDecodeCqe cqe wrId) taken completions)

/-- The transport's poll is refused on a queue that it cannot use, and delivers
on every other one. Its status tells whether one of the entries is a failure. -/
def Reclaims (ring : CqRing) (outcome : OperationStatus × Nat × CqRing) : Prop :=
  (¬ring.Reclaimable ∧ outcome = (.invalidArgument, 0, ring)) ∨
  (ring.Reclaimable ∧ ∃ taken, Delivers kMaxCompletions ring outcome.2.2 taken ∧
    outcome.2.1 = taken.length ∧
    outcome.1 = if taken.any fun cqe => (cqe.byte4 >>> 8) &&& 0xff ≠ 0 then .providerFailed
      else .success)

/-- The fields that a poll refuses to work without. -/
theorem not_pollable_iff (ring : CqRing) : ¬ring.Pollable ↔
    ring.cq.bufferAddress = 0 ∨ ring.cq.consumerAddress = 0 ∨ ring.cq.depth = 0 ∨
      ring.cq.entrySize < kHnsHwCqeBytes ∨ ring.wq.tailAddress = 0 ∨ ring.wq.wrIdAddress = 0 := by
  simp only [Pollable, not_and_or, not_not, ne_eq, UInt32.not_le]

/-- The fields that reclaiming refuses to work without. -/
theorem not_reclaimable_iff (ring : CqRing) : ¬ring.Reclaimable ↔
    ring.cq.bufferAddress = 0 ∨ ring.cq.consumerAddress = 0 ∨ ring.cq.doorbellAddress = 0 ∨
      ring.cq.depth = 0 ∨ ring.cq.entrySize < kHnsHwCqeBytes ∨ ring.wq.tailAddress = 0 ∨
      ring.wq.wrIdAddress = 0 ∨ ring.wq.depth = 0 := by
  rw [Reclaimable, not_and_or, not_and_or, not_pollable_iff]
  simp only [ne_eq, not_not]
  tauto

theorem decode_taken (ring : CqRing) (taken : List Taken) :
    List.Forall₂ (fun cqe wc => ∃ wrId, wc = hnsHwDecodeCqe cqe wrId)
      (taken.map Taken.cqe) (taken.map ring.decode) := by
  induction taken with
  | nil => exact .nil
  | cons first rest ih => exact .cons ⟨_, rfl⟩ ih

/-- The control processor reads the owner bit as the vector core does. -/
theorem hnsHwCqeIsReady_eq (cqe : HnsHwCqe) (consumer depth : UInt32) (h : depth ≠ 0) :
    hnsHwCqeIsReady cqe consumer depth = ownerTurned cqe consumer depth := by
  simp [hnsHwCqeIsReady, h]

/-- A poll of the vector core, in any settled ring. -/
theorem Settled.aivPollCq (h : ring.Settled bits) (hBits : bits ≤ 31) (maxCompletions : UInt32)
    (arrivals : List (List HnsHwCqe)) :
    (ring.aivPollCq maxCompletions arrivals).2.Settled bits ∧
      Answers (maxCompletions = 0) (pollLimit maxCompletions) ring
        (ring.aivPollCq maxCompletions arrivals) := by
  unfold CqRing.aivPollCq
  split
  · rename_i hZero
    exact ⟨h, .inl ⟨hZero, rfl⟩⟩
  · rename_i hSome
    have hWalked := walk_ordered (fun _ _ _ _ => rfl) hBits (pollLimit maxCompletions) arrivals
      (show ring.start.ring.Ordered bits ring.consumed from h.ordered) h.consumer_eq
    obtain ⟨hSettled, hDelivers⟩ := h.store hWalked true
    exact ⟨hSettled, .inr ⟨hSome, _, _, rfl, hDelivers, ring.decode_taken _⟩⟩

/-- A poll of the control processor, in any settled ring. -/
theorem Settled.aicpuPollCq (h : ring.Settled bits) (hBits : bits ≤ 31) (maxCompletions : UInt32)
    (arrivals : List (List HnsHwCqe)) :
    (ring.aicpuPollCq maxCompletions arrivals).2.Settled bits ∧
      Answers (maxCompletions = 0 ∨ ¬ring.Pollable) (pollLimit maxCompletions) ring
        (ring.aicpuPollCq maxCompletions arrivals) := by
  rw [not_pollable_iff]
  unfold CqRing.aicpuPollCq
  split
  · rename_i hZero
    exact ⟨h, .inl ⟨.inl hZero, rfl⟩⟩
  split
  · rename_i hFields
    exact ⟨h, .inl ⟨.inr hFields, rfl⟩⟩
  · rename_i hSome hUsable
    have hWalked := walk_ordered hnsHwCqeIsReady_eq hBits (pollLimit maxCompletions) arrivals
      (show ring.start.ring.Ordered bits ring.consumed from h.ordered) h.consumer_eq
    obtain ⟨hSettled, hDelivers⟩ := h.store hWalked (ring.cq.doorbellAddress ≠ 0)
    exact ⟨hSettled, .inr ⟨not_or.mpr ⟨hSome, hUsable⟩, _, _, rfl, hDelivers,
      ring.decode_taken _⟩⟩

theorem Settled.withState (h : ring.Settled bits) (state : TransportQpState) :
    Settled bits { ring with state := state } where
  ordered := {
    depth_eq := h.ordered.depth_eq
    done_prefix := h.ordered.done_prefix
    published_le := h.ordered.published_le
    ahead_le := h.ordered.ahead_le
    phased := h.ordered.phased }
  consumer_eq := h.consumer_eq

theorem Settled.reclaimTransportCq (h : ring.Settled bits) (hBits : bits ≤ 31)
    (arrivals : List (List HnsHwCqe)) :
    (ring.reclaimTransportCq arrivals).2.2.Settled bits ∧
      Reclaims ring (ring.reclaimTransportCq arrivals) := by
  unfold Reclaims
  have hCheck := ring.not_reclaimable_iff
  unfold CqRing.reclaimTransportCq
  split
  · rename_i hFields
    exact ⟨h, .inl ⟨hCheck.mpr hFields, rfl⟩⟩
  · rename_i hUsable
    have hReclaimable := Classical.not_not.mp (mt hCheck.mp hUsable)
    have hWalked := walk_ordered hnsHwCqeIsReady_eq hBits kMaxCompletions arrivals
      (show ring.start.ring.Ordered bits ring.consumed from h.ordered) h.consumer_eq
    obtain ⟨hSettled, hDelivers⟩ := h.store hWalked true
    dsimp only
    split
    · exact ⟨hSettled, .inr ⟨hReclaimable, _, hDelivers, (List.length_map _).symm, by
        rw [List.any_map]
        rfl⟩⟩
    · exact ⟨hSettled.withState _, .inr ⟨hReclaimable, _,
        ⟨hDelivers.consumed_eq, hDelivers.in_order, hDelivers.within, hDelivers.none_skipped⟩,
        (List.length_map _).symm, by
          rw [List.any_map]
          rfl⟩⟩

/-- Each poll finds the ring settled and leaves it so. -/
theorem Settled.step (h : ring.Settled bits) (hBits : bits ≤ 31) (hStep : Step ring ring') :
    ring'.Settled bits := by
  cases hStep with
  | arrive cqe =>
      obtain ⟨entries, written, hFrame⟩ := ring.arrive_frame cqe
      have hOrdered := h.ordered.arrive cqe
      rw [hFrame] at hOrdered ⊢
      exact ⟨hOrdered, h.consumer_eq⟩
  | aivPollCq maxCompletions arrivals => exact (h.aivPollCq hBits maxCompletions arrivals).1
  | aicpuPollCq maxCompletions arrivals => exact (h.aicpuPollCq hBits maxCompletions arrivals).1
  | reclaimTransportCq arrivals => exact (h.reclaimTransportCq hBits arrivals).1

/-- The ring is settled after any number of polls. -/
theorem Settled.reaches (h : ring.Settled bits) (hBits : bits ≤ 31) (hRun : Reaches ring ring') :
    ring'.Settled bits := by
  induction hRun with
  | refl => exact h
  | tail _ hStep ih => exact ih.step hBits hStep

def blankCqe : HnsHwCqe where
  byte4 := 0
  immediateData := 0
  byte12 := 0
  byte16 := 0
  byteCount := 0

/-- A ring of zeroes that nobody has used. -/
structure Zeroed (ring : CqRing) : Prop where
  entries_eq : ring.entries = fun _ => blankCqe
  consumer_eq : ring.consumer = 0
  written_eq : ring.written = []
  consumed_eq : ring.consumed = []
  published_eq : ring.published = 0

theorem Settled.zeroed (h : ring.Zeroed) (hDepth : ring.cq.depth.toNat = 2 ^ bits) :
    ring.Settled bits where
  ordered := {
    depth_eq := hDepth
    done_prefix := by
      rw [h.consumed_eq]
      exact List.nil_prefix
    published_le := by
      rw [h.published_eq]
      exact Nat.zero_le _
    ahead_le := by
      rw [h.written_eq]
      exact Nat.zero_le _
    phased := by
      rw [h.written_eq, h.entries_eq]
      exact Phased.empty fun _ => by decide }
  consumer_eq := by
    rw [h.consumer_eq, h.consumed_eq]
    rfl

/-- On every run, entries are consumed once and in the order they were written.
A poll delivers whenever its arguments are usable, and is refused exactly when
they are not. -/
theorem cqes_consumed_in_order {fresh : CqRing} (hBits : bits ≤ 31)
    (hDepth : fresh.cq.depth.toNat = 2 ^ bits) (hZeroed : fresh.Zeroed)
    (hRun : Reaches fresh ring) :
    ring.consumed <+: ring.written ∧ ring.consumer = UInt32.ofNat ring.consumed.length ∧
    (∀ maxCompletions arrivals, Answers (maxCompletions = 0) (min maxCompletions.toNat 16) ring
      (ring.aivPollCq maxCompletions arrivals)) ∧
    (∀ maxCompletions arrivals, Answers (maxCompletions = 0 ∨ ¬ring.Pollable)
      (min maxCompletions.toNat 16) ring (ring.aicpuPollCq maxCompletions arrivals)) ∧
    ∀ arrivals, Reclaims ring (ring.reclaimTransportCq arrivals) := by
  have h := (Settled.zeroed hZeroed hDepth).reaches hBits hRun
  exact ⟨h.ordered.done_prefix, h.consumer_eq,
    fun maxCompletions arrivals => (h.aivPollCq hBits maxCompletions arrivals).2,
    fun maxCompletions arrivals => (h.aicpuPollCq hBits maxCompletions arrivals).2,
    fun arrivals => (h.reclaimTransportCq hBits arrivals).2⟩

/-- A receive completion queue of two entries. -/
def smallRing : CqRing where
  sendCq := false
  cq := {
    depth := 2
    entrySize := 32
    bufferAddress := 1
    consumerAddress := 1
    doorbellAddress := 1 }
  wq := {
    depth := 2
    entrySize := 16
    bufferAddress := 1
    headAddress := 1
    tailAddress := 1
    doorbellAddress := 1
    wrIdAddress := 1 }
  entries := fun _ => blankCqe
  wrIds := fun _ => 0
  consumer := 0
  tail := 0
  doorbell := 0
  state := {
    signalInterval := 32
    unsignaledCount := 0
    sendCredits := 2
    receiveCredits := 2 }
  written := []
  consumed := []
  published := 0

/-- Two entries for the vector core, then a third on the second pass for the
transport. -/
theorem cqes_consumed_across_pass : ∃ ring, Reaches smallRing ring ∧
    (ring.consumed.map ownerBit = [true, true, false]) ∧ ring.consumed <+: ring.written := by
  have hZeroed : smallRing.Zeroed := ⟨rfl, rfl, rfl, rfl, rfl⟩
  have hRun := (Relation.ReflTransGen.single (Step.aivPollCq smallRing 4
    [[blankCqe], [blankCqe]])).tail (Step.reclaimTransportCq _ [[blankCqe]])
  have hBits : 1 ≤ 31 := by decide
  exact ⟨_, hRun, by decide +kernel, (cqes_consumed_in_order hBits rfl hZeroed hRun).1⟩

end CqRing

end NdsStorage.Client
