import Mathlib.Data.Nat.ModEq
import NdsStorage.Client.Transport

/-! The account of a queue pair. Signaled requests stand one signal interval
apart, so a polled completion covers exactly one interval of requests, and the
credits it pays back are the credits that these requests were charged. -/
namespace NdsStorage.Client

/-- The requests that report a completion stand `interval` apart, the first of
them at the end of the interval after `start`. -/
def Spaced (interval : Nat) : Nat → List Cqe → Prop
  | _, [] => True
  | start, cqe :: rest =>
      cqe.position + 1 = start + interval ∧ Spaced interval (start + interval) rest

/-- Completions are spaced across the seam of two lists as within each. -/
theorem spaced_append {interval start : Nat} {first second : List Cqe} :
    Spaced interval start (first ++ second) ↔
      Spaced interval start first ∧ Spaced interval (start + interval * first.length) second := by
  induction first generalizing start with
  | nil => simp [Spaced]
  | cons cqe rest ih =>
      have hStart : start + interval + interval * rest.length =
          start + interval * (rest.length + 1) := by
        rw [Nat.mul_succ]
        omega
      simp only [List.cons_append, Spaced, ih, List.length_cons, hStart, and_assoc]

namespace QueueSide

/-- Credits and outstanding requests make up the depth of the queue. -/
structure Balanced (depth interval unsignaled credits : Nat) (side : QueueSide) : Prop where
  spaced : Spaced interval side.reclaimed (side.ready ++ side.awaiting)
  posted_eq : side.posted =
    side.reclaimed + interval * (side.ready ++ side.awaiting).length + unsignaled
  open_lt : unsignaled < interval
  credits_eq : credits + side.outstanding = depth

/-- The counters in memory agree with the account. -/
structure Aligned (start : UInt32) (side : QueueSide) : Prop where
  head_eq : side.counters.head = start + UInt32.ofNat side.posted
  tail_eq : side.counters.tail = start + UInt32.ofNat side.reclaimed
  index_eq : ∀ cqe ∈ side.ready ++ side.awaiting,
    cqe.wqeIndex = (start + UInt32.ofNat cqe.position) &&& 0xffff

variable {depth interval unsignaled credits : Nat} {start : UInt32} {side : QueueSide}

theorem reap_posted (move : QueueCounters → Cqe → QueueCounters) (limit : Nat)
    (side : QueueSide) : (side.reap move limit).2.posted = side.posted := by
  induction limit generalizing side with
  | zero => rfl
  | succ limit ih =>
      unfold QueueSide.reap
      split
      · rfl
      · exact ih _

theorem arrive_posted (statuses : List UInt8) (side : QueueSide) :
    (statuses.foldl QueueSide.complete side).posted = side.posted := by
  induction statuses generalizing side with
  | nil => rfl
  | cons status rest ih =>
      rw [List.foldl_cons, ih]
      unfold QueueSide.complete
      split <;> rfl

/-- In a balanced account nothing is reclaimed before it is posted. -/
theorem Balanced.reclaimed_le (h : side.Balanced depth interval unsignaled credits) :
    side.reclaimed ≤ side.posted := by
  rw [h.posted_eq]
  omega

/-- A request is signaled exactly when it fills its interval. -/
theorem Balanced.handOver (h : side.Balanced depth interval unsignaled credits) {signaled : Bool}
    (hSignaled : signaled = true ↔ unsignaled + 1 = interval) (hCredits : 0 < credits) :
    (side.handOver signaled).Balanced depth interval (if signaled then 0 else unsignaled + 1)
      (credits - 1) := by
  have hPosted := h.posted_eq
  have hOpen := h.open_lt
  have hDepth := h.credits_eq
  have hOutstanding : credits - 1 + (side.handOver signaled).outstanding = depth := by
    have hLe := h.reclaimed_le
    simp only [outstanding, QueueSide.handOver] at hDepth ⊢
    omega
  cases signaled with
  | false =>
      have hShort : unsignaled + 1 ≠ interval := fun hFull => Bool.noConfusion (hSignaled.mpr hFull)
      constructor
      · exact h.spaced
      · simp only [QueueSide.handOver, Bool.false_eq_true, if_false]
        omega
      · simp only [Bool.false_eq_true, if_false]
        omega
      · exact hOutstanding
  | true =>
      have hFull : unsignaled + 1 = interval := hSignaled.mp rfl
      constructor
      · simp only [QueueSide.handOver, if_true]
        rw [← List.append_assoc, spaced_append]
        refine ⟨h.spaced, ?_, trivial⟩
        show side.posted + 1 = _
        omega
      · simp only [QueueSide.handOver, if_true, ← List.append_assoc]
        rw [List.length_append, List.length_singleton, Nat.mul_succ]
        omega
      · simp only [if_true]
        omega
      · exact hOutstanding

/-- An arriving completion leaves the account in balance. -/
theorem Balanced.complete (h : side.Balanced depth interval unsignaled credits) (status : UInt8) :
    (side.complete status).Balanced depth interval unsignaled credits := by
  unfold QueueSide.complete
  split
  · exact h
  · rename_i cqe rest hAwaiting
    have hSpaced := h.spaced
    have hPosted := h.posted_eq
    rw [hAwaiting] at hSpaced hPosted
    constructor
    · have hParts := spaced_append.mp hSpaced
      rw [List.append_assoc, spaced_append]
      exact hParts
    · rw [hPosted]
      simp
    · exact h.open_lt
    · exact h.credits_eq

/-- Every polled completion pays one interval back. -/
theorem Balanced.reap (h : side.Balanced depth interval unsignaled credits)
    (move : QueueCounters → Cqe → QueueCounters) (limit : Nat) :
    (side.reap move limit).2.Balanced depth interval unsignaled
      (credits + (side.reap move limit).1.length * interval) := by
  induction limit generalizing side credits with
  | zero => simpa [QueueSide.reap] using h
  | succ limit ih =>
      unfold QueueSide.reap
      split
      · simpa using h
      · rename_i cqe rest hReady
        have hSpaced := h.spaced
        have hPosted := h.posted_eq
        have hDepth := h.credits_eq
        rw [hReady] at hSpaced hPosted
        obtain ⟨hPosition, hRest⟩ := hSpaced
        simp only [List.cons_append, List.length_cons, Nat.mul_succ] at hPosted
        have hNext : QueueSide.Balanced depth interval unsignaled (credits + interval)
            { side with
              counters := move side.counters cqe
              ready := rest
              reclaimed := cqe.position + 1 } := by
          constructor
          · rw [hPosition]
            exact hRest
          · show side.posted =
              cqe.position + 1 + interval * (rest ++ side.awaiting).length + unsignaled
            omega
          · exact h.open_lt
          · simp only [outstanding] at hDepth ⊢
            omega
        have hReaped := ih hNext
        rw [List.length_cons, Nat.succ_mul, Nat.add_comm _ interval, ← Nat.add_assoc]
        exact hReaped

theorem Aligned.handOver (h : side.Aligned start) (signaled : Bool) :
    (side.handOver signaled).Aligned start where
  head_eq := by
    show side.counters.head + 1 = start + UInt32.ofNat (side.posted + 1)
    rw [h.head_eq, UInt32.ofNat_add, UInt32.add_assoc]
    rfl
  tail_eq := h.tail_eq
  index_eq := by
    intro cqe hCqe
    cases signaled with
    | false => exact h.index_eq cqe hCqe
    | true =>
        simp only [QueueSide.handOver, if_true, ← List.append_assoc] at hCqe
        rcases List.mem_append.mp hCqe with hOld | hNew
        · exact h.index_eq cqe hOld
        · rw [List.mem_singleton.mp hNew, h.head_eq]

/-- An arriving completion carries the index of its request. -/
theorem Aligned.complete (h : side.Aligned start) (status : UInt8) :
    (side.complete status).Aligned start := by
  unfold QueueSide.complete
  split
  · exact h
  · rename_i cqe rest hAwaiting
    have hIndex := h.index_eq
    rw [hAwaiting] at hIndex
    refine ⟨h.head_eq, h.tail_eq, ?_⟩
    intro other hOther
    simp only [List.append_assoc, List.mem_append, List.mem_singleton] at hOther
    rcases hOther with hReady | rfl | hRest
    · exact hIndex other (List.mem_append_left _ hReady)
    · exact hIndex cqe (List.mem_append_right _ List.mem_cons_self)
    · exact hIndex other (List.mem_append_right _ (List.mem_cons_of_mem _ hRest))

/-- Numbers that agree modulo the ring are told apart by their low bits. -/
theorem low_bits_sub {bits tail target : Nat} (hBits : bits ≤ 16) (hOrder : tail ≤ target)
    (hTurn : target - tail < 2 ^ bits) :
    (2 ^ 32 - tail % 2 ^ 32 + target % 2 ^ 32 % 2 ^ 16) % 2 ^ 32 % 2 ^ bits = target - tail := by
  have hLow : 2 ^ bits ∣ 2 ^ 16 := Nat.pow_dvd_pow 2 hBits
  have hWord : 2 ^ bits ∣ 2 ^ 32 := Nat.dvd_trans hLow (by decide)
  have hTail : tail % 2 ^ 32 < 2 ^ 32 := Nat.mod_lt _ (by decide)
  have hReduce : ∀ value : Nat, value % 2 ^ 32 ≡ value [MOD 2 ^ bits] := fun value =>
    Nat.mod_mod_of_dvd value hWord
  have hTarget : target % 2 ^ 32 % 2 ^ 16 ≡ target [MOD 2 ^ bits] :=
    (Nat.mod_mod_of_dvd (target % 2 ^ 32) hLow).trans (hReduce target)
  have hSame : 2 ^ 32 - tail % 2 ^ 32 + target % 2 ^ 32 % 2 ^ 16 ≡ target - tail
      [MOD 2 ^ bits] := by
    apply Nat.ModEq.add_right_cancel (hReduce tail)
    calc 2 ^ 32 - tail % 2 ^ 32 + target % 2 ^ 32 % 2 ^ 16 + tail % 2 ^ 32
        = 2 ^ 32 + target % 2 ^ 32 % 2 ^ 16 := by omega
      _ ≡ 0 + target [MOD 2 ^ bits] :=
          (Nat.modEq_zero_iff_dvd.mpr hWord).add hTarget
      _ = target - tail + tail := by omega
  rw [Nat.mod_mod_of_dvd _ hWord, hSame, Nat.mod_eq_of_lt hTurn]

/-- The low bits of an index determine the tail, as long as the request is
less than one turn of the queue ahead of the old tail. -/
theorem sendTail_eq {bits reclaimed position : Nat} {queueDepth : UInt32} (hBits : bits ≤ 16)
    (hDepth : queueDepth.toNat = 2 ^ bits) (hOrder : reclaimed ≤ position)
    (hTurn : position - reclaimed < 2 ^ bits) {cqe : Cqe}
    (hIndex : cqe.wqeIndex = (start + UInt32.ofNat position) &&& 0xffff) :
    sendTailForCqe (start + UInt32.ofNat reclaimed) queueDepth cqe =
      start + UInt32.ofNat position := by
  have hMask : (queueDepth - 1).toNat = 2 ^ bits - 1 := by
    have hOne : 1 ≤ queueDepth := by
      rw [UInt32.le_iff_toNat_le, hDepth]
      exact Nat.one_le_two_pow
    rw [UInt32.toNat_sub_of_le _ _ hOne, hDepth]
    rfl
  have hLow : (0xffff : UInt32).toNat = 2 ^ 16 - 1 := rfl
  have hSteps := low_bits_sub hBits (Nat.add_le_add_left hOrder start.toNat)
    (Nat.add_sub_add_left start.toNat position reclaimed ▸ hTurn)
  apply UInt32.toNat_inj.mp
  rw [sendTailForCqe, hIndex]
  simp only [UInt32.toNat_add, UInt32.toNat_and, UInt32.toNat_sub, UInt32.toNat_ofNat', hMask, hLow,
    Nat.and_two_pow_sub_one_eq_mod, Nat.add_mod_mod, Nat.mod_add_mod]
  rw [hSteps]
  congr 1
  omega

/-- Where the low bits are needed, the queue is no deeper than they tell apart. -/
def TailReadable (sendCq : Bool) (queueDepth : UInt32) (depth : Nat) : Prop :=
  sendCq = true → ∃ bits ≤ 16, queueDepth.toNat = 2 ^ bits ∧ depth = 2 ^ bits

/-- A completion moves the tail past the requests it covers. -/
theorem pollMove_aligned {sendCq : Bool} {queueDepth : UInt32}
    (hReadable : TailReadable sendCq queueDepth depth) (hInterval : sendCq = false → interval = 1)
    {counters : QueueCounters} {cqe : Cqe} {reclaimed : Nat}
    (hTail : counters.tail = start + UInt32.ofNat reclaimed)
    (hIndex : cqe.wqeIndex = (start + UInt32.ofNat cqe.position) &&& 0xffff)
    (hPosition : cqe.position + 1 = reclaimed + interval) (hOpen : 0 < interval)
    (hTurn : interval ≤ depth) :
    (pollMove sendCq queueDepth counters cqe).tail =
      start + UInt32.ofNat (cqe.position + 1) := by
  rw [UInt32.ofNat_add, ← UInt32.add_assoc]
  cases sendCq with
  | false =>
      have hOne := hInterval rfl
      have hSame : cqe.position = reclaimed := by omega
      simp only [pollMove, Bool.false_eq_true, if_false, hTail, hSame]
      rfl
  | true =>
      obtain ⟨bits, hBits, hQueue, hDepth⟩ := hReadable rfl
      simp only [pollMove, if_true, hTail]
      rw [sendTail_eq hBits hQueue (by omega) (by omega) hIndex]
      rfl

theorem Aligned.reap {sendCq : Bool} {queueDepth : UInt32}
    (hReadable : TailReadable sendCq queueDepth depth) (hInterval : sendCq = false → interval = 1)
    (hBalanced : side.Balanced depth interval unsignaled credits) (h : side.Aligned start)
    (limit : Nat) : (side.reap (pollMove sendCq queueDepth) limit).2.Aligned start := by
  induction limit generalizing side credits with
  | zero => exact h
  | succ limit ih =>
      unfold QueueSide.reap
      split
      · exact h
      · rename_i cqe rest hReady
        have hFirst := hBalanced.reap (pollMove sendCq queueDepth) 1
        have hSpaced := hBalanced.spaced
        have hPosted := hBalanced.posted_eq
        have hDepth := hBalanced.credits_eq
        have hIndex := h.index_eq
        simp only [QueueSide.reap, hReady] at hFirst
        rw [hReady] at hSpaced hPosted hIndex
        simp only [List.cons_append, List.length_cons, Nat.mul_succ] at hPosted
        simp only [outstanding] at hDepth
        refine ih hFirst ⟨h.head_eq, ?_, ?_⟩
        · exact pollMove_aligned hReadable hInterval h.tail_eq (hIndex cqe List.mem_cons_self)
            hSpaced.1 (Nat.zero_lt_of_lt hBalanced.open_lt) (by omega)
        · exact fun other hOther => hIndex other (List.mem_cons_of_mem _ hOther)

end QueueSide

/-- The fixed quantities of a queue pair. It is tracked when its counters in
memory are to agree with the account, for which the send queue must not be
deeper than the index field of a completion entry. -/
structure Account where
  descriptor : QpDescriptor
  sendDepth : UInt32
  receiveDepth : UInt32
  sendStart : UInt32
  receiveStart : UInt32
  tracked : Prop
  readable : tracked → QueueSide.TailReadable true descriptor.sendQueue.depth sendDepth.toNat

namespace Account

/-- The account of a queue pair between two operations. -/
structure Exact (account : Account) (qp : TransportQp) : Prop where
  descriptor_eq : qp.descriptor = account.descriptor
  interval_eq : qp.state.signalInterval = kTransportSignalInterval
  unrung_eq : qp.unrung = []
  send : qp.send.Balanced account.sendDepth.toNat kTransportSignalInterval.toNat
    qp.state.unsignaledCount.toNat qp.state.sendCredits.toNat
  receive : qp.receive.Balanced account.receiveDepth.toNat 1 0 qp.state.receiveCredits.toNat
  sendAligned : account.tracked → qp.send.Aligned account.sendStart
  receiveAligned : account.tracked → qp.receive.Aligned account.receiveStart

variable {account : Account} {qp : TransportQp}

/-- A property of a side that each arriving completion keeps. -/
theorem foldl_complete {property : QueueSide → Prop}
    (hStep : ∀ side status, property side → property (side.complete status)) {side : QueueSide}
    (h : property side) (statuses : List UInt8) :
    property (statuses.foldl QueueSide.complete side) := by
  induction statuses generalizing side with
  | nil => exact h
  | cons status rest ih => exact ih (hStep side status h)

theorem Exact.arrive (h : account.Exact qp) (arrivals : Arrivals) :
    account.Exact (qp.arrive arrivals) where
  descriptor_eq := h.descriptor_eq
  interval_eq := h.interval_eq
  unrung_eq := h.unrung_eq
  send := foldl_complete (fun _ status hSide => hSide.complete status) h.send _
  receive := foldl_complete (fun _ status hSide => hSide.complete status) h.receive _
  sendAligned := fun hTracked =>
    foldl_complete (fun _ status hSide => hSide.complete status) (h.sendAligned hTracked) _
  receiveAligned := fun hTracked =>
    foldl_complete (fun _ status hSide => hSide.complete status) (h.receiveAligned hTracked) _

/-- Polled send completions are credited without wrapping. -/
theorem Exact.reclaimSend (h : account.Exact qp) (move : QueueCounters → Cqe → QueueCounters)
    (limit : Nat)
    (hAligned : account.tracked → (qp.send.reap move limit).2.Aligned account.sendStart) :
    account.Exact (transportReclaim true (qp.send.reap move limit).1
      (qp.setSide true (qp.send.reap move limit).2)) := by
  have hReaped := h.send.reap move limit
  have hDepth := hReaped.credits_eq
  have hWord := account.sendDepth.toNat_lt
  have hCredits : (qp.state.sendCredits +
      UInt32.ofNat (qp.send.reap move limit).1.length * kTransportSignalInterval).toNat =
      qp.state.sendCredits.toNat +
        (qp.send.reap move limit).1.length * kTransportSignalInterval.toNat := by
    simp only [UInt32.toNat_add, UInt32.toNat_mul, UInt32.toNat_ofNat']
    have hInterval : kTransportSignalInterval.toNat = 32 := rfl
    rw [hInterval] at hDepth ⊢
    omega
  have hState : (transportReclaim true (qp.send.reap move limit).1
      (qp.setSide true (qp.send.reap move limit).2)).state =
      { qp.state with
        sendCredits := qp.state.sendCredits +
          UInt32.ofNat (qp.send.reap move limit).1.length * kTransportSignalInterval } := by
    simp [transportReclaim, TransportQp.setSide, transportReclaimSend, h.interval_eq,
      kTransportSignalInterval]
  constructor
  · exact h.descriptor_eq
  · rw [hState]
    exact h.interval_eq
  · exact h.unrung_eq
  · rw [hState, hCredits]
    exact hReaped
  · rw [hState]
    exact h.receive
  · exact hAligned
  · exact h.receiveAligned

/-- A poll of the receive side pays back its completions. -/
theorem Exact.reclaimReceive (h : account.Exact qp) (move : QueueCounters → Cqe → QueueCounters)
    (limit : Nat)
    (hAligned : account.tracked → (qp.receive.reap move limit).2.Aligned account.receiveStart) :
    account.Exact (transportReclaim false (qp.receive.reap move limit).1
      (qp.setSide false (qp.receive.reap move limit).2)) := by
  have hReaped := h.receive.reap move limit
  have hDepth := hReaped.credits_eq
  have hWord := account.receiveDepth.toNat_lt
  have hCredits : (qp.state.receiveCredits +
      UInt32.ofNat (qp.receive.reap move limit).1.length).toNat =
      qp.state.receiveCredits.toNat + (qp.receive.reap move limit).1.length * 1 := by
    simp only [UInt32.toNat_add, UInt32.toNat_ofNat']
    omega
  rw [← hCredits] at hReaped
  exact {
    descriptor_eq := h.descriptor_eq
    interval_eq := h.interval_eq
    unrung_eq := h.unrung_eq
    send := h.send
    receive := hReaped
    sendAligned := h.sendAligned
    receiveAligned := hAligned }

/-- Device code polls either completion queue. -/
theorem Exact.devicePoll (h : account.Exact qp) (sendCq : Bool) (limit : Nat) :
    account.Exact (transportReclaim sendCq
      ((qp.side sendCq).reap (pollMove sendCq (qp.descriptor.queue sendCq).depth) limit).1
      (qp.setSide sendCq
        ((qp.side sendCq).reap (pollMove sendCq (qp.descriptor.queue sendCq).depth) limit).2)) := by
  rw [h.descriptor_eq]
  cases sendCq with
  | false =>
      apply h.reclaimReceive
      intro hTracked
      exact QueueSide.Aligned.reap (fun hSend => Bool.noConfusion hSend) (fun _ => rfl) h.receive
        (h.receiveAligned hTracked) limit
  | true =>
      apply h.reclaimSend
      intro hTracked
      exact QueueSide.Aligned.reap (account.readable hTracked) (fun hReceive =>
        Bool.noConfusion hReceive) h.send (h.sendAligned hTracked) limit

/-- The transport asks for a completion exactly at the end of an interval. -/
theorem Exact.shouldSignal_iff (h : account.Exact qp) :
    transportShouldSignal qp.state = true ↔
      qp.state.unsignaledCount.toNat + 1 = kTransportSignalInterval.toNat := by
  have hOpen := h.send.open_lt
  have hInterval : kTransportSignalInterval.toNat = 32 := rfl
  have hNext : (qp.state.unsignaledCount + 1).toNat = qp.state.unsignaledCount.toNat + 1 := by
    rw [UInt32.toNat_add, Nat.mod_eq_of_lt]
    · rfl
    · show qp.state.unsignaledCount.toNat + 1 < _
      omega
  have hActive : qp.state.signalInterval ≠ 0 := by
    rw [h.interval_eq]
    decide
  unfold transportShouldSignal
  rw [if_neg hActive, decide_eq_true_iff, ge_iff_le, UInt32.le_iff_toNat_le, hNext, h.interval_eq]
  omega

theorem recordSend_some {state state' : TransportQpState} {signaled : Bool}
    (h : transportRecordSend state signaled = some state') :
    0 < state.sendCredits.toNat ∧
      state' = { state with
        sendCredits := state.sendCredits - 1
        unsignaledCount := if signaled then 0 else state.unsignaledCount + 1 } := by
  unfold transportRecordSend at h
  split at h
  · cases h
  · rename_i hCredits
    refine ⟨Nat.pos_of_ne_zero fun hZero => hCredits (UInt32.toNat_inj.mp hZero), ?_⟩
    exact (Option.some.inj h).symm

/-- Taking one from a positive counter does not wrap. -/
theorem toNat_pred {count : UInt32} (h : 0 < count.toNat) :
    (count - 1).toNat = count.toNat - 1 := by
  rw [UInt32.toNat_sub_of_le]
  · rfl
  · rw [UInt32.le_iff_toNat_le]
    exact h

/-- A send that the hardware has taken over is charged one credit. -/
theorem Exact.chargeSend (h : account.Exact qp) {state : TransportQpState}
    (hRecord : transportRecordSend qp.state (transportShouldSignal qp.state) = some state)
    {charged : TransportQp} (hDescriptor : charged.descriptor = qp.descriptor)
    (hUnrung : charged.unrung = qp.unrung) (hReceive : charged.receive = qp.receive)
    (hSend : { charged.send with wrIds := qp.send.wrIds } =
      qp.send.handOver (transportShouldSignal qp.state)) :
    account.Exact { charged with state := state } := by
  obtain ⟨hCredits, rfl⟩ := recordSend_some hRecord
  have hSignal := h.shouldSignal_iff
  have hOpen := h.send.open_lt
  have hBalanced := h.send.handOver hSignal hCredits
  have hUnsignaled : (if transportShouldSignal qp.state then 0
      else qp.state.unsignaledCount + 1).toNat =
      if transportShouldSignal qp.state then 0 else qp.state.unsignaledCount.toNat + 1 := by
    split
    · rfl
    · rw [UInt32.toNat_add, Nat.mod_eq_of_lt]
      · rfl
      · have hInterval : kTransportSignalInterval.toNat = 32 := rfl
        show qp.state.unsignaledCount.toNat + 1 < _
        omega
  rw [← hSend, ← hUnsignaled, ← toNat_pred hCredits] at hBalanced
  constructor
  · exact hDescriptor.trans h.descriptor_eq
  · exact h.interval_eq
  · exact hUnrung.trans h.unrung_eq
  · exact ⟨hBalanced.spaced, hBalanced.posted_eq, hBalanced.open_lt, hBalanced.credits_eq⟩
  · rw [hReceive]
    exact h.receive
  · intro hTracked
    have hAligned := (h.sendAligned hTracked).handOver (transportShouldSignal qp.state)
    rw [← hSend] at hAligned
    exact ⟨hAligned.head_eq, hAligned.tail_eq, hAligned.index_eq⟩
  · rw [hReceive]
    exact h.receiveAligned

/-- A receive that the hardware has taken over is charged one credit. -/
theorem Exact.chargeReceive (h : account.Exact qp) {state : TransportQpState}
    (hRecord : transportRecordReceive qp.state = some state) {charged : TransportQp}
    (hDescriptor : charged.descriptor = qp.descriptor) (hUnrung : charged.unrung = qp.unrung)
    (hSend : charged.send = qp.send)
    (hReceive : { charged.receive with wrIds := qp.receive.wrIds } = qp.receive.handOver true) :
    account.Exact { charged with state := state } := by
  unfold transportRecordReceive at hRecord
  split at hRecord
  · cases hRecord
  · rename_i hSome
    obtain rfl := Option.some.inj hRecord
    have hCredits : 0 < qp.state.receiveCredits.toNat :=
      Nat.pos_of_ne_zero fun hZero => hSome (UInt32.toNat_inj.mp hZero)
    have hSignal : true = true ↔ 0 + 1 = 1 := by simp
    have hBalanced := h.receive.handOver hSignal hCredits
    rw [← hReceive, ← toNat_pred hCredits] at hBalanced
    constructor
    · exact hDescriptor.trans h.descriptor_eq
    · exact h.interval_eq
    · exact hUnrung.trans h.unrung_eq
    · rw [hSend]
      exact h.send
    · exact ⟨hBalanced.spaced, hBalanced.posted_eq, hBalanced.open_lt, hBalanced.credits_eq⟩
    · rw [hSend]
      exact h.sendAligned
    · intro hTracked
      have hAligned := (h.receiveAligned hTracked).handOver true
      rw [← hReceive] at hAligned
      exact ⟨hAligned.head_eq, hAligned.tail_eq, hAligned.index_eq⟩

end Account

end NdsStorage.Client
