import NdsStorage.Client.SendProgress

/-! The records of the send path, and what they come to once every report has
been polled. A single send waits at each signal and a batch once for all of its
signals, but it makes no difference whether a report is polled early or late. -/
namespace NdsStorage.Client

section Deferral

variable {State Item : Type}

/-- If it makes no difference to settle before a step, it is enough to settle
in the end. -/
theorem foldl_settle {settle : State → State} {post : State → Item → State}
    (hPost : ∀ state item, settle (post (settle state) item) = settle (post state item))
    (items : List Item) (state : State) :
    settle (items.foldl post state) =
      items.foldl (fun state item => settle (post state item)) (settle state) := by
  induction items generalizing state with
  | nil => rfl
  | cons item rest ih => rw [List.foldl_cons, List.foldl_cons, ih, hPost]

end Deferral

/-- Counters after a report that carries the given index. -/
def QueueCounters.report (depth : UInt32) (counters : QueueCounters) (index : UInt32) :
    QueueCounters :=
  pollMove true depth counters { position := 0, wqeIndex := index, status := 0 }

/-- What the send operations of the transport write, and the indices of the
reports that have not been polled. -/
structure SendView where
  state : TransportQpState
  counters : QueueCounters
  wrIds : Nat → UInt64
  ring : Nat → SendWqe
  pending : List UInt32

def TransportQp.sendView (qp : TransportQp) : SendView where
  state := qp.state
  counters := qp.send.counters
  wrIds := qp.send.wrIds
  ring := qp.sendRing
  pending := (signaledOutstanding qp).map Cqe.wqeIndex

/-- Nothing is pending exactly if nothing signaled is outstanding. -/
theorem TransportQp.pending_eq_nil {qp : TransportQp} :
    qp.sendView.pending = [] ↔ signaledOutstanding qp = [] :=
  List.map_eq_nil_iff

namespace SendView

/-- One request is written, handed over and charged. -/
def post (depth : UInt32) (view : SendView) (wr : SendWr) : SendView :=
  let signaled := transportShouldSignal view.state
  let producer := view.counters.head
  { state := { view.state with
      sendCredits := view.state.sendCredits - 1
      unsignaledCount := if signaled then 0 else view.state.unsignaledCount + 1 }
    counters := { view.counters with head := producer + 1 }
    wrIds := Function.update view.wrIds (ringIndex producer depth) wr.wrId
    ring := Function.update view.ring (ringIndex producer depth)
      (sendWqe producer (wr.scheduled signaled))
    pending := if signaled then view.pending ++ [producer &&& 0xffff] else view.pending }

/-- The oldest reports are polled and credited. -/
def poll (depth : UInt32) (count : Nat) (view : SendView) : SendView :=
  { view with
    state := transportReclaimSend view.state (UInt32.ofNat (view.pending.take count).length)
    counters := (view.pending.take count).foldl (QueueCounters.report depth) view.counters
    pending := view.pending.drop count }

/-- All reports are polled, as far as the vector core can read them. -/
def settle (descriptor : QpDescriptor) (view : SendView) : SendView :=
  if sendCqReadable descriptor then
    view.poll descriptor.sendQueue.depth view.pending.length
  else view

variable {descriptor : QpDescriptor} {depth : UInt32} {view : SendView}

/-- Completions may be paid back together or one by one. -/
theorem reclaimSend_add (state : TransportQpState) (first second : UInt32) :
    transportReclaimSend (transportReclaimSend state first) second =
      transportReclaimSend state (first + second) := by
  unfold transportReclaimSend
  split
  · rfl
  · simp only [TransportQpState.mk.injEq, and_true, true_and]
    grind

theorem reclaimSend_zero (state : TransportQpState) : transportReclaimSend state 0 = state := by
  unfold transportReclaimSend
  split
  · rfl
  · simp

/-- Without pending requests a poll changes nothing. -/
theorem poll_all (h : view.pending = []) (count : Nat) : view.poll depth count = view := by
  obtain ⟨state, counters, wrIds, ring, pending⟩ := view
  subst h
  simp [poll, reclaimSend_zero]

theorem settle_pending (h : view.pending = []) : view.settle descriptor = view := by
  unfold settle
  split
  · exact poll_all h _
  · rfl

/-- Reports that are polled ahead need not be polled again. -/
theorem settle_poll (hReadable : sendCqReadable descriptor) (count : Nat) :
    (view.poll descriptor.sendQueue.depth count).settle descriptor = view.settle descriptor := by
  rw [settle, if_pos hReadable, settle, if_pos hReadable]
  unfold poll
  simp only [reclaimSend_add, ← UInt32.ofNat_add, ← List.length_append, ← List.foldl_append,
    List.take_length, List.take_append_drop, List.drop_length]

/-- Polling leaves the head alone. -/
theorem report_head (indices : List UInt32) (counters : QueueCounters) (head : UInt32) :
    indices.foldl (QueueCounters.report depth) { counters with head := head } =
      { indices.foldl (QueueCounters.report depth) counters with head := head } := by
  induction indices generalizing counters with
  | nil => rfl
  | cons index rest ih => exact ih (counters.report depth index)

theorem report_keeps_head (indices : List UInt32) (counters : QueueCounters) :
    (indices.foldl (QueueCounters.report depth) counters).head = counters.head := by
  induction indices generalizing counters with
  | nil => rfl
  | cons index rest ih => exact ih (counters.report depth index)

/-- Which send is signaled does not depend on the credits. -/
theorem shouldSignal_reclaimSend (state : TransportQpState) (count : UInt32) :
    transportShouldSignal (transportReclaimSend state count) = transportShouldSignal state := by
  unfold transportReclaimSend
  split
  · rfl
  · rfl

/-- The charge of a request and the credits of reports add up in either order. -/
theorem charge_reclaimSend (state : TransportQpState) (count unsignaled : UInt32) :
    { transportReclaimSend state count with
        sendCredits := (transportReclaimSend state count).sendCredits - 1
        unsignaledCount := unsignaled } =
      transportReclaimSend { state with
        sendCredits := state.sendCredits - 1
        unsignaledCount := unsignaled } count := by
  unfold transportReclaimSend
  dsimp only
  split
  · rfl
  · simp only [TransportQpState.mk.injEq, and_true, true_and]
    grind

/-- Reclaiming does not touch the unsignaled count. -/
theorem reclaimSend_unsignaled (state : TransportQpState) (count : UInt32) :
    (transportReclaimSend state count).unsignaledCount = state.unsignaledCount := by
  unfold transportReclaimSend
  split
  · rfl
  · rfl

/-- A request may be posted before or after older reports are polled. -/
theorem poll_post (wr : SendWr) {count : Nat} (h : count ≤ view.pending.length) :
    (view.poll depth count).post depth wr = (view.post depth wr).poll depth count := by
  have hTake : ((view.post depth wr).pending.take count) = view.pending.take count := by
    unfold post
    dsimp only
    split
    · rw [List.take_append_of_le_length h]
    · rfl
  have hDrop : (view.post depth wr).pending.drop count =
      if transportShouldSignal view.state then
        view.pending.drop count ++ [view.counters.head &&& 0xffff]
      else view.pending.drop count := by
    unfold post
    dsimp only
    split
    · rw [List.drop_append_of_le_length h]
    · rfl
  conv_rhs => rw [poll, hTake, hDrop]
  unfold post poll
  simp only [shouldSignal_reclaimSend, report_keeps_head, report_head, reclaimSend_unsignaled,
    charge_reclaimSend]

/-- It makes no difference whether reports are polled before or after a request. -/
theorem settle_post (descriptor : QpDescriptor) (view : SendView) (wr : SendWr) :
    ((view.settle descriptor).post descriptor.sendQueue.depth wr).settle descriptor =
      (view.post descriptor.sendQueue.depth wr).settle descriptor := by
  by_cases hReadable : sendCqReadable descriptor
  · have hSettled : view.settle descriptor =
        view.poll descriptor.sendQueue.depth view.pending.length := if_pos hReadable
    rw [hSettled, poll_post wr (Nat.le_refl _), settle_poll hReadable]
  · simp only [settle, if_neg hReadable]

end SendView

section Polls

/-- An arriving completion changes nothing that the settled view shows. -/
theorem complete_unseen (side : QueueSide) (status : UInt8) :
    (side.complete status).counters = side.counters ∧
      (side.complete status).wrIds = side.wrIds ∧
      ((side.complete status).ready ++ (side.complete status).awaiting).map Cqe.wqeIndex =
        (side.ready ++ side.awaiting).map Cqe.wqeIndex := by
  unfold QueueSide.complete
  split
  · exact ⟨rfl, rfl, rfl⟩
  · rename_i cqe rest hAwaiting
    rw [hAwaiting]
    exact ⟨rfl, rfl, by simp⟩

/-- A completion that arrives changes nothing but who holds its report. -/
theorem sendView_arrive (qp : TransportQp) (arrivals : Arrivals) :
    (qp.arrive arrivals).sendView = qp.sendView := by
  have hUnseen := @Account.foldl_complete
    (fun other => other.counters = qp.send.counters ∧ other.wrIds = qp.send.wrIds ∧
      (other.ready ++ other.awaiting).map Cqe.wqeIndex =
        (qp.send.ready ++ qp.send.awaiting).map Cqe.wqeIndex)
    (fun other status hSame =>
      have hNext := complete_unseen other status
      ⟨hNext.1.trans hSame.1, hNext.2.1.trans hSame.2.1, hNext.2.2.trans hSame.2.2⟩)
    qp.send ⟨rfl, rfl, rfl⟩ arrivals.send
  obtain ⟨hCounters, hIds, hPending⟩ := hUnseen
  simp only [TransportQp.sendView, TransportQp.arrive, signaledOutstanding, hCounters, hIds,
    hPending]

variable {qp : TransportQp}

/-- Only the indices of the completions matter to the tail. -/
theorem foldl_report (depth : UInt32) (cqes : List Cqe) (counters : QueueCounters) :
    cqes.foldl (pollMove true depth) counters =
      (cqes.map Cqe.wqeIndex).foldl (QueueCounters.report depth) counters := by
  rw [List.foldl_map]
  rfl

/-- A poll of the vector core, if it can read the queue. -/
theorem aivReclaim_readable (hReadable : sendCqReadable qp.descriptor) (arrivals : Arrivals) :
    (aivReclaimTransportCq true arrivals qp).1 =
        reclaimStatus ((qp.arrive arrivals).send.ready.take kMaxCompletions) ∧
      (aivReclaimTransportCq true arrivals qp).2.send.ready =
        (qp.arrive arrivals).send.ready.drop kMaxCompletions ∧
      (aivReclaimTransportCq true arrivals qp).2.send.awaiting =
        (qp.arrive arrivals).send.awaiting ∧
      (aivReclaimTransportCq true arrivals qp).2.sendView =
        qp.sendView.poll qp.descriptor.sendQueue.depth
          (min kMaxCompletions (qp.arrive arrivals).send.ready.length) := by
  obtain ⟨hTaken, hLeft, hAwaiting, hIds, hCounters⟩ := reap_eq
    (pollMove true qp.descriptor.sendQueue.depth) kMaxCompletions (qp.arrive arrivals).send
  have hPolled : aivReclaimTransportCq true arrivals qp =
      (reclaimStatus ((qp.arrive arrivals).send.reap
          (pollMove true qp.descriptor.sendQueue.depth) kMaxCompletions).1,
        transportReclaim true ((qp.arrive arrivals).send.reap
            (pollMove true qp.descriptor.sendQueue.depth) kMaxCompletions).1
          ((qp.arrive arrivals).setSide true ((qp.arrive arrivals).send.reap
            (pollMove true qp.descriptor.sendQueue.depth) kMaxCompletions).2)) := if_neg hReadable
  rw [hPolled, ← sendView_arrive qp arrivals]
  generalize qp.arrive arrivals = arrived at hTaken hLeft hAwaiting hIds hCounters ⊢
  refine ⟨congrArg reclaimStatus hTaken, hLeft, hAwaiting, ?_⟩
  have hShort : min kMaxCompletions arrived.send.ready.length ≤ arrived.send.ready.length :=
    Nat.min_le_right ..
  have hFirst : (signaledOutstanding arrived).take
      (min kMaxCompletions arrived.send.ready.length) =
      arrived.send.ready.take kMaxCompletions := by
    rw [signaledOutstanding, List.take_append_of_le_length hShort, ← List.take_eq_take_min]
  have hRest : (signaledOutstanding arrived).drop
      (min kMaxCompletions arrived.send.ready.length) =
      arrived.send.ready.drop kMaxCompletions ++ arrived.send.awaiting := by
    rw [signaledOutstanding, List.drop_append_of_le_length hShort, ← List.drop_eq_drop_min]
  simp only [TransportQp.sendView, SendView.poll, ← List.map_take, ← List.map_drop, hFirst, hRest,
    List.length_map, ← foldl_report]
  simp only [transportReclaim, TransportQp.setSide, if_true, signaledOutstanding, hTaken, hLeft,
    hAwaiting, hIds, hCounters]

/-- A poll that cannot read the queue refuses. -/
theorem aivReclaim_unreadable (hReadable : ¬sendCqReadable qp.descriptor) (arrivals : Arrivals) :
    aivReclaimTransportCq true arrivals qp = (.invalidArgument, qp.arrive arrivals) :=
  if_pos (Decidable.of_not_not hReadable)

theorem aivReclaim_descriptor (arrivals : Arrivals) :
    (aivReclaimTransportCq true arrivals qp).2.descriptor = qp.descriptor := by
  unfold aivReclaimTransportCq
  dsimp only
  split
  · rfl
  · rfl

/-- A poll does not change what the records come to. -/
theorem settle_reclaim (arrivals : Arrivals) :
    (aivReclaimTransportCq true arrivals qp).2.sendView.settle qp.descriptor =
      qp.sendView.settle qp.descriptor := by
  by_cases hReadable : sendCqReadable qp.descriptor
  · obtain ⟨-, -, -, hView⟩ := aivReclaim_readable hReadable arrivals
    rw [hView, SendView.settle_poll hReadable]
  · rw [aivReclaim_unreadable hReadable, sendView_arrive]

/-- A queue settles to the same view before and after a wait. -/
theorem settle_wait (target : UInt32) (polls : List Arrivals) (qp : TransportQp) :
    (waitForSendCompletion aivReclaimTransportCq target polls qp).2.sendView.settle qp.descriptor =
      qp.sendView.settle qp.descriptor := by
  induction polls generalizing qp with
  | nil =>
      unfold waitForSendCompletion
      split
      · rfl
      · rfl
  | cons arrivals rest ih =>
      have hPolled := @settle_reclaim qp arrivals
      have hRest := ih (aivReclaimTransportCq true arrivals qp).2
      rw [aivReclaim_descriptor, hPolled] at hRest
      unfold waitForSendCompletion
      dsimp only
      split
      · split
        · exact hPolled
        · exact hRest
      · rfl

end Polls

section Waits

variable {account : Account} {qp : TransportQp} {target : UInt32} {polls : List Arrivals}

/-- Every send completion that arrives is a success. -/
def Arrivals.Good (arrivals : Arrivals) : Prop := ∀ status ∈ arrivals.send, status = 0

/-- No report of a failure is ready. -/
def QueueSide.Good (side : QueueSide) : Prop := ∀ cqe ∈ side.ready, cqe.status = 0

theorem arrive_good {statuses : List UInt8} (hStatuses : ∀ status ∈ statuses, status = 0)
    {side : QueueSide} (h : side.Good) : (statuses.foldl QueueSide.complete side).Good := by
  induction statuses generalizing side with
  | nil => exact h
  | cons status rest ih =>
      apply ih fun other hOther => hStatuses other (List.mem_cons_of_mem _ hOther)
      unfold QueueSide.complete
      split
      · exact h
      · intro cqe hCqe
        rcases List.mem_append.mp hCqe with hOld | hNew
        · exact h cqe hOld
        · rw [List.mem_singleton.mp hNew]
          exact hStatuses status List.mem_cons_self

/-- Each completion that arrives is one less to wait for. -/
theorem arrive_awaiting (statuses : List UInt8) (side : QueueSide) :
    (statuses.foldl QueueSide.complete side).awaiting.length =
      side.awaiting.length - statuses.length := by
  induction statuses generalizing side with
  | nil => rfl
  | cons status rest ih =>
      rw [List.foldl_cons, ih, List.length_cons]
      unfold QueueSide.complete
      split
      · rename_i hNone
        rw [hNone, List.length_nil]
        omega
      · rename_i cqe others hAwaiting
        rw [hAwaiting, List.length_cons]
        show others.length - rest.length = _
        omega

theorem reclaimStatus_good {completions : List Cqe} (h : ∀ cqe ∈ completions, cqe.status = 0) :
    reclaimStatus completions = .success := by
  have hNone : completionFailed completions = false := by
    rw [completionFailed, List.any_eq_false]
    intro cqe hCqe
    simp [h cqe hCqe]
  rw [reclaimStatus, hNone]
  rfl

/-- The credits that all outstanding reports will pay back. -/
def fullCredits (qp : TransportQp) : UInt32 :=
  qp.state.sendCredits +
    UInt32.ofNat (signaledOutstanding qp).length * kTransportSignalInterval

/-- The reports that are outstanding pay back no more than the depth. -/
theorem credits_add_pending (h : account.Exact qp) :
    qp.state.sendCredits.toNat + 32 * (signaledOutstanding qp).length < 2 ^ 32 := by
  have hPosted := h.send.posted_eq
  have hDepth := h.send.credits_eq
  have hWord := account.sendDepth.toNat_lt
  have hInterval : kTransportSignalInterval.toNat = 32 := rfl
  simp only [QueueSide.outstanding, hInterval] at hPosted hDepth
  change qp.send.posted = qp.send.reclaimed + 32 * (signaledOutstanding qp).length + _ at hPosted
  omega

/-- Every signaled request that is outstanding will pay for 32. -/
theorem fullCredits_toNat (h : account.Exact qp) :
    (fullCredits qp).toNat =
      qp.state.sendCredits.toNat + 32 * (signaledOutstanding qp).length := by
  have hBound := credits_add_pending h
  have hInterval : kTransportSignalInterval.toNat = 32 := rfl
  simp only [fullCredits, UInt32.toNat_add, UInt32.toNat_mul, UInt32.toNat_ofNat', hInterval]
  omega

/-- The credits fall short exactly while a report is outstanding. -/
theorem credits_lt_full (h : account.Exact qp) :
    qp.state.sendCredits < fullCredits qp ↔ signaledOutstanding qp ≠ [] := by
  rw [UInt32.lt_iff_toNat_lt, fullCredits_toNat h, ← List.length_pos_iff]
  omega

theorem fullCredits_eq (h : account.Exact qp) (hReadable : sendCqReadable qp.descriptor) :
    fullCredits qp = (qp.sendView.settle qp.descriptor).state.sendCredits := by
  have hActive : kTransportSignalInterval ≠ 0 := by decide
  simp only [SendView.settle, if_pos hReadable, SendView.poll, TransportQp.sendView,
    List.length_take, List.length_map, Nat.min_self, transportReclaimSend, h.interval_eq,
    if_neg hActive, fullCredits]

/-- A poll does not change the credits that are due. -/
theorem fullCredits_reclaim (h : account.Exact qp) (hReadable : sendCqReadable qp.descriptor)
    (arrivals : Arrivals) :
    fullCredits (aivReclaimTransportCq true arrivals qp).2 = fullCredits qp := by
  have hNext := Account.aivReclaimTransportCq_keeps account true arrivals qp h
  have hDescriptor := @aivReclaim_descriptor qp arrivals
  rw [fullCredits_eq hNext (hDescriptor ▸ hReadable), hDescriptor, settle_reclaim,
    fullCredits_eq h hReadable]

/-- A wait for all reports of a queue pair ends with success, and then none is left. -/
theorem wait_done (h : account.Exact qp) (hReadable : sendCqReadable qp.descriptor)
    (hGood : qp.send.Good) (hPolls : ∀ arrivals ∈ polls, arrivals.Good)
    (hReturned : (waitForSendCompletion aivReclaimTransportCq (fullCredits qp) polls qp).1 ≠ none) :
    (waitForSendCompletion aivReclaimTransportCq (fullCredits qp) polls qp).1 = some .success ∧
      signaledOutstanding
        (waitForSendCompletion aivReclaimTransportCq (fullCredits qp) polls qp).2 = [] := by
  have hDue := credits_lt_full h
  induction polls generalizing qp with
  | nil =>
      unfold waitForSendCompletion at hReturned ⊢
      split at hReturned
      · exact absurd rfl hReturned
      · rename_i hPaid
        rw [if_neg hPaid]
        exact ⟨rfl, Decidable.of_not_not (mt hDue.mpr hPaid)⟩
  | cons arrivals rest ih =>
      obtain ⟨hStatus, hReady, -, -⟩ := aivReclaim_readable hReadable arrivals
      have hArrived : (qp.arrive arrivals).send.Good :=
        arrive_good (hPolls arrivals List.mem_cons_self) hGood
      rw [reclaimStatus_good fun cqe hCqe => hArrived cqe (List.mem_of_mem_take hCqe)] at hStatus
      have hNext := Account.aivReclaimTransportCq_keeps account true arrivals qp h
      have hDescriptor := @aivReclaim_descriptor qp arrivals
      have hFull := fullCredits_reclaim h hReadable arrivals
      unfold waitForSendCompletion at hReturned ⊢
      dsimp only at hReturned ⊢
      by_cases hWaiting : qp.state.sendCredits < fullCredits qp
      · rw [if_pos hWaiting, if_neg (not_not.mpr hStatus), ← hFull] at hReturned ⊢
        refine ih hNext (hDescriptor ▸ hReadable) ?_
          (fun other hOther => hPolls other (List.mem_cons_of_mem _ hOther)) hReturned
          (credits_lt_full hNext)
        intro cqe hCqe
        rw [hReady] at hCqe
        exact hArrived cqe (List.mem_of_mem_drop hCqe)
      · rw [if_neg hWaiting]
        exact ⟨rfl, Decidable.of_not_not (mt hDue.mpr hWaiting)⟩

/-- Once every report is paid back, a wait returns at once. -/
theorem wait_paid (h : account.Exact qp) (hNone : signaledOutstanding qp = []) :
    waitForSendCompletion aivReclaimTransportCq (fullCredits qp) polls qp = (some .success, qp) := by
  have hPaid : ¬qp.state.sendCredits < fullCredits qp :=
    fun hWaiting => (credits_lt_full h).mp hWaiting hNone
  cases polls with
  | nil =>
      unfold waitForSendCompletion
      rw [if_neg hPaid]
  | cons arrivals rest =>
      unfold waitForSendCompletion
      rw [if_neg hPaid]

/-- A wait for a single report returns once its completion has arrived. -/
theorem wait_returns (h : account.Exact qp) (hReadable : sendCqReadable qp.descriptor)
    (hOne : (signaledOutstanding qp).length ≤ 1) (hArrives : ∃ arrivals ∈ polls, arrivals.send ≠ []) :
    (waitForSendCompletion aivReclaimTransportCq (fullCredits qp) polls qp).1 ≠ none := by
  induction polls generalizing qp with
  | nil =>
      obtain ⟨arrivals, hNone, -⟩ := hArrives
      cases hNone
  | cons arrivals rest ih =>
      obtain ⟨-, hReady, hAwaiting, -⟩ := aivReclaim_readable hReadable arrivals
      have hSame : (signaledOutstanding (qp.arrive arrivals)).length ≤ 1 := by
        have hView := congrArg (fun view => view.pending.length) (sendView_arrive qp arrivals)
        simp only [TransportQp.sendView, List.length_map] at hView
        rwa [hView]
      have hLeft : (signaledOutstanding (aivReclaimTransportCq true arrivals qp).2).length =
          ((qp.arrive arrivals).send.ready.length - kMaxCompletions) +
            (qp.arrive arrivals).send.awaiting.length := by
        rw [signaledOutstanding, hReady, hAwaiting, List.length_append, List.length_drop]
      have hArrived := arrive_awaiting arrivals.send qp.send
      change (qp.arrive arrivals).send.awaiting.length = _ at hArrived
      rw [signaledOutstanding, List.length_append] at hOne hSame
      have hNext := Account.aivReclaimTransportCq_keeps account true arrivals qp h
      have hDescriptor := @aivReclaim_descriptor qp arrivals
      have hFull := fullCredits_reclaim h hReadable arrivals
      unfold waitForSendCompletion
      dsimp only
      split
      · split
        · simp
        · rw [← hFull]
          by_cases hHere : arrivals.send = []
          · obtain ⟨other, hOther, hSome⟩ := hArrives
            obtain rfl | hLater := List.mem_cons.mp hOther
            · exact absurd hHere hSome
            · exact ih hNext (hDescriptor ▸ hReadable) (by omega) ⟨other, hLater, hSome⟩
          · have hCount := List.length_pos_of_ne_nil hHere
            have hLimit : kMaxCompletions = 16 := rfl
            have hNone : signaledOutstanding (aivReclaimTransportCq true arrivals qp).2 = [] := by
              apply List.eq_nil_of_length_eq_zero
              omega
            rw [wait_paid hNext hNone]
            simp
      · simp

end Waits

end NdsStorage.Client
