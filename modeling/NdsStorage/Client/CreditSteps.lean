import NdsStorage.Client.Credits

/-! Every transport operation keeps the account of its queue pair. A poll pays
back what its completions cover, a post is charged as it hands its request
over, and everything an operation does in between leaves the books alone. -/
namespace NdsStorage.Client

/-- Once a request has been prepared, it is also handed over. -/
def RaSendResults.Clean (results : RaSendResults) : Prop :=
  results.sendWr ≠ 0 ∨ results.setDevice = 0 ∧ results.doorbell = 0

namespace Account

variable {account : Account} {qp : TransportQp}

/-- Identifiers, ring contents and nothing else differ. -/
theorem Exact.relabel (h : account.Exact qp) (sendRing : Nat → SendWqe)
    (receiveRing : Nat → Sge) (wrIds : Nat → UInt64) :
    account.Exact { qp with
      sendRing := sendRing
      receiveRing := receiveRing
      send.wrIds := wrIds } where
  descriptor_eq := h.descriptor_eq
  interval_eq := h.interval_eq
  unrung_eq := h.unrung_eq
  send := ⟨h.send.spaced, h.send.posted_eq, h.send.open_lt, h.send.credits_eq⟩
  receive := h.receive
  sendAligned := fun hTracked =>
    ⟨(h.sendAligned hTracked).head_eq, (h.sendAligned hTracked).tail_eq,
      (h.sendAligned hTracked).index_eq⟩
  receiveAligned := h.receiveAligned

/-- A poll that keeps the account. -/
def Keeps (account : Account) (reclaim : DeviceReclaim) : Prop :=
  ∀ sendCq arrivals qp, account.Exact qp → account.Exact (reclaim sendCq arrivals qp).2

/-- The vector core pays back what its completions cover. -/
theorem aivReclaimTransportCq_keeps (account : Account) : account.Keeps aivReclaimTransportCq := by
  intro sendCq arrivals qp h
  have hArrived := h.arrive arrivals
  unfold aivReclaimTransportCq
  dsimp only
  split
  · exact hArrived
  · exact hArrived.devicePoll sendCq kMaxCompletions

theorem aicpuReclaim_keeps (account : Account) : account.Keeps aicpuReclaim := by
  intro sendCq arrivals qp h
  have hArrived := h.arrive arrivals
  unfold aicpuReclaim aicpuPollCq
  dsimp only
  split
  · rename_i hPolled
    split at hPolled
    · cases hPolled
      exact hArrived
    · cases hPolled
  · rename_i hPolled
    split at hPolled
    · cases hPolled
    · cases hPolled
      exact hArrived.devicePoll sendCq kMaxCompletions

section Device

variable {reclaim : DeviceReclaim} (hReclaim : account.Keeps reclaim)

include hReclaim

/-- Reclaiming on demand is a poll or nothing. -/
theorem reclaimIfNeeded_keeps (h : account.Exact qp) (sendCq : Bool) (arrivals : Arrivals) :
    account.Exact (reclaimIfNeeded reclaim sendCq arrivals qp).2 := by
  unfold reclaimIfNeeded
  split
  · exact h
  · exact hReclaim sendCq arrivals qp h

theorem waitForSendCompletion_keeps (h : account.Exact qp) (targetCredits : UInt32)
    (polls : List Arrivals) :
    account.Exact (waitForSendCompletion reclaim targetCredits polls qp).2 := by
  induction polls generalizing qp with
  | nil =>
      unfold waitForSendCompletion
      split <;> exact h
  | cons arrivals rest ih =>
      have hPolled := hReclaim true arrivals qp h
      unfold waitForSendCompletion
      dsimp only
      split
      · split
        · exact hPolled
        · exact ih hPolled
      · exact h

/-- What a post does to the books: nothing, or it hands one request over. -/
structure HandsOver (post : SendWr → TransportQp → OperationStatus × TransportQp) : Prop where
  refused : ∀ wr qp, (post wr qp).1 ≠ .success →
    ∃ wrIds, (post wr qp).2 = { qp with send.wrIds := wrIds }
  accepted : ∀ wr qp, (post wr qp).1 = .success →
    (post wr qp).2.descriptor = qp.descriptor ∧ (post wr qp).2.unrung = qp.unrung ∧
      (post wr qp).2.receive = qp.receive ∧
      { (post wr qp).2.send with wrIds := qp.send.wrIds } =
        qp.send.handOver (decide (wr.flags &&& kSendSignaled ≠ 0))

omit hReclaim in
/-- The flag that the transport sets is the flag that the hardware sees. -/
theorem scheduled_signaled (wr : SendWr) (signaled : Bool) :
    decide ((wr.scheduled signaled).flags &&& kSendSignaled ≠ 0) = signaled := by
  cases signaled <;> simp [SendWr.scheduled, kSendSignaled]

/-- A device charges for a send exactly if it hands it over. -/
theorem devicePostSend_keeps {post : SendWr → TransportQp → OperationStatus × TransportQp}
    (hPost : HandsOver post) (h : account.Exact qp) (wr : SendWr) (first : Arrivals)
    (polls : List Arrivals) :
    account.Exact (devicePostSend reclaim post wr first polls qp).2 := by
  unfold devicePostSend
  split
  · exact h
  · have hFirst := reclaimIfNeeded_keeps hReclaim h true first
    generalize reclaimIfNeeded reclaim true first qp = reclaimed at hFirst
    dsimp only
    split
    · exact hFirst
    split
    · exact hFirst
    split
    · rename_i hRefused
      obtain ⟨wrIds, hSame⟩ := hPost.refused _ _ hRefused
      rw [hSame]
      exact hFirst.relabel _ _ wrIds
    · rename_i hAccepted
      obtain ⟨hDescriptor, hUnrung, hReceive, hSend⟩ :=
        hPost.accepted _ _ (Decidable.of_not_not hAccepted)
      rw [scheduled_signaled] at hSend
      split
      · rename_i hNone
        -- The credits were checked before the post.
        simp_all [transportRecordSend]
      · rename_i state hRecord
        have hCharged := hFirst.chargeSend hRecord hDescriptor hUnrung hReceive hSend
        split
        · exact waitForSendCompletion_keeps hReclaim hCharged _ polls
        · exact hCharged

/-- The same for receives. -/
structure HandsOverReceive (post : RecvWr → TransportQp → OperationStatus × TransportQp) :
    Prop where
  refused : ∀ wr qp, (post wr qp).1 ≠ .success → (post wr qp).2 = qp
  accepted : ∀ wr qp, (post wr qp).1 = .success → (post wr qp).2 = postReceiveEntry wr qp

theorem devicePostRecv_keeps {post : RecvWr → TransportQp → OperationStatus × TransportQp}
    (hPost : HandsOverReceive post) (h : account.Exact qp) (wr : RecvWr) (first : Arrivals) :
    account.Exact (devicePostRecv reclaim post wr first qp).2 := by
  have hFirst := reclaimIfNeeded_keeps hReclaim h false first
  unfold devicePostRecv
  generalize reclaimIfNeeded reclaim false first qp = reclaimed at hFirst
  dsimp only
  split
  · exact hFirst
  split
  · exact hFirst
  rename_i hCredits
  split
  · rename_i hRefused
    rw [hPost.refused _ _ hRefused]
    exact hFirst
  · rename_i hAccepted
    rw [hPost.accepted _ _ (Decidable.of_not_not hAccepted)]
    split
    · rename_i hNone
      have hSome : transportRecordReceive reclaimed.2.state = none := hNone
      simp [transportRecordReceive, hCredits] at hSome
    · rename_i state hRecord
      have hState : transportRecordReceive reclaimed.2.state = some state := hRecord
      exact hFirst.chargeReceive hState rfl rfl rfl rfl

end Device

/-- The post of the vector core hands over one request or none. -/
theorem aivPostSend_handsOver : HandsOver aivPostSend where
  refused := by
    intro wr qp hRefused
    refine ⟨qp.send.wrIds, ?_⟩
    unfold aivPostSend at hRefused ⊢
    dsimp only at hRefused ⊢
    split at hRefused
    · rename_i hInvalid
      rw [if_pos hInvalid]
    · rename_i hValid
      split at hRefused
      · rename_i hFull
        rw [if_neg hValid, if_pos hFull]
      · exact absurd rfl hRefused
  accepted := by
    intro wr qp hAccepted
    unfold aivPostSend at hAccepted ⊢
    dsimp only at hAccepted ⊢
    split at hAccepted
    · cases hAccepted
    · rename_i hValid
      split at hAccepted
      · cases hAccepted
      · rename_i hRoom
        rw [if_neg hValid, if_neg hRoom]
        exact ⟨rfl, rfl, rfl, rfl⟩

theorem aicpuPostSend_handsOver (provider : ProviderPost) :
    HandsOver fun wr => aicpuPostSend wr provider where
  refused := by
    intro wr qp hRefused
    unfold aicpuPostSend at hRefused ⊢
    dsimp only at hRefused ⊢
    split_ifs at hRefused ⊢
    · exact ⟨qp.send.wrIds, rfl⟩
    · exact ⟨qp.send.wrIds, rfl⟩
    · exact ⟨qp.send.wrIds, rfl⟩
    · exact ⟨qp.send.wrIds, rfl⟩
    · exact absurd rfl hRefused
    · exact ⟨_, rfl⟩
  accepted := by
    intro wr qp hAccepted
    unfold aicpuPostSend at hAccepted ⊢
    dsimp only at hAccepted ⊢
    split_ifs at hAccepted ⊢
    exact ⟨rfl, rfl, rfl, rfl⟩

/-- A receive of the vector core is handed over or refused. -/
theorem aivPostRecv_handsOver : HandsOverReceive aivPostRecv where
  refused := by
    intro wr qp hRefused
    unfold aivPostRecv at hRefused ⊢
    split_ifs at hRefused ⊢
    · rfl
    · exact absurd rfl hRefused
  accepted := by
    intro wr qp hAccepted
    unfold aivPostRecv at hAccepted ⊢
    split_ifs at hAccepted ⊢
    rfl

/-- A receive of the control processor is handed over or refused. -/
theorem aicpuPostRecv_handsOver : HandsOverReceive aicpuPostRecv where
  refused := by
    intro wr qp hRefused
    unfold aicpuPostRecv at hRefused ⊢
    dsimp only at hRefused ⊢
    split_ifs at hRefused ⊢
    · rfl
    · rfl
    · exact absurd rfl hRefused
  accepted := by
    intro wr qp hAccepted
    unfold aicpuPostRecv at hAccepted ⊢
    dsimp only at hAccepted ⊢
    split_ifs at hAccepted ⊢
    rfl

/-! Batches of the vector core. -/

/-- The send side after the doorbell for a list of entries. -/
def handOverAll (wqes : List SendWqe) (side : QueueSide) : QueueSide :=
  wqes.foldl (fun side wqe => side.handOver wqe.signaled) side

theorem handOverAll_append (wqes : List SendWqe) (wqe : SendWqe) (side : QueueSide) :
    handOverAll (wqes ++ [wqe]) side = (handOverAll wqes side).handOver wqe.signaled := by
  simp [handOverAll]

theorem handOverAll_head (wqes : List SendWqe) (side : QueueSide) :
    (handOverAll wqes side).counters.head =
      side.counters.head + UInt32.ofNat wqes.length := by
  induction wqes generalizing side with
  | nil => simp [handOverAll]
  | cons wqe rest ih =>
      have hRest := ih (side.handOver wqe.signaled)
      change (handOverAll rest (side.handOver wqe.signaled)).counters.head = _
      rw [hRest]
      show side.counters.head + 1 + _ = _
      rw [List.length_cons, Nat.add_comm, UInt32.ofNat_add, UInt32.add_assoc]
      rfl

/-- Identifiers do not matter to what is handed over. -/
theorem handOverAll_relabel (wqes : List SendWqe) (side : QueueSide) (wrIds : Nat → UInt64) :
    handOverAll wqes { side with wrIds := wrIds } =
      { handOverAll wqes side with wrIds := wrIds } := by
  induction wqes generalizing side with
  | nil => rfl
  | cons wqe rest ih => exact ih (side.handOver wqe.signaled)

/-- A batch in the making: nothing but ring contents and identifiers has
changed, and the books would balance if the doorbell were rung now. -/
structure Staged (account : Account) (base : TransportQp) (progress : BatchProgress) : Prop where
  untouched : ∃ sendRing wrIds,
    progress.qp = { base with
      sendRing := sendRing
      send.wrIds := wrIds }
  exact : account.Exact { base with
    send := handOverAll progress.wqes base.send
    state := progress.next }

/-- Writing an entry touches the ring and the identifiers only. -/
theorem Staged.populated {base : TransportQp} {progress : BatchProgress}
    (h : account.Staged base progress) (producer : UInt32) (wr : SendWr) :
    ∃ sendRing wrIds, (progress.schedule producer wr).qp =
      { base with
        sendRing := sendRing
        send.wrIds := wrIds } := by
  obtain ⟨sendRing, wrIds, hUntouched⟩ := h.untouched
  rw [BatchProgress.schedule, hUntouched]
  exact ⟨_, _, rfl⟩

/-- Scheduling one more request takes one more credit. -/
theorem Staged.schedule {base : TransportQp} {progress : BatchProgress}
    (h : account.Staged base progress) (hCredits : progress.next.sendCredits ≠ 0)
    (producer : UInt32) (wr : SendWr) : account.Staged base (progress.schedule producer wr) := by
  refine ⟨h.populated producer wr, ?_⟩
  have hActive : progress.next.signalInterval ≠ 0 := by
    rw [h.exact.interval_eq]
    decide
  have hSignal : decide (progress.next.unsignaledCount + 1 ≥ progress.next.signalInterval) =
      transportShouldSignal progress.next := by
    rw [transportShouldSignal, if_neg hActive]
  unfold BatchProgress.schedule
  dsimp only
  rw [hSignal]
  let wqe := sendWqe producer (wr.scheduled (transportShouldSignal progress.next))
  have hWqe : wqe.signaled = transportShouldSignal progress.next := scheduled_signaled wr _
  have hSend : handOverAll (progress.wqes ++ [wqe]) base.send =
      (handOverAll progress.wqes base.send).handOver (transportShouldSignal progress.next) := by
    rw [handOverAll_append, hWqe]
  refine @Exact.chargeSend account _ h.exact _ (if_neg hCredits)
    { base with send := handOverAll (progress.wqes ++ [wqe]) base.send } rfl rfl rfl ?_
  show ({ handOverAll (progress.wqes ++ [wqe]) base.send with
    wrIds := (handOverAll progress.wqes base.send).wrIds } : QueueSide) = _
  rw [hSend]
  rfl

/-- The whole loop stages its requests, unless it runs out of credits. -/
theorem scheduleBatch_staged {base : TransportQp} (head : UInt32) (wrs : List SendWr)
    {index : UInt32} {progress : BatchProgress} (h : account.Staged base progress) :
    account.Staged base (scheduleBatch head wrs index progress).2 ∧
      ((scheduleBatch head wrs index progress).1 = true →
        (scheduleBatch head wrs index progress).2.wqes.length =
          progress.wqes.length + wrs.length) := by
  induction wrs generalizing index progress with
  | nil => exact ⟨h, fun _ => rfl⟩
  | cons wr rest ih =>
      unfold scheduleBatch
      dsimp only
      split
      · exact ⟨⟨h.populated _ wr, h.exact⟩, fun hFalse => Bool.noConfusion hFalse⟩
      · rename_i hCredits
        obtain ⟨hStaged, hLength⟩ := @ih (index + 1) _ (h.schedule hCredits (head + index) wr)
        refine ⟨hStaged, fun hDone => (hLength hDone).trans ?_⟩
        simp only [BatchProgress.schedule, List.length_append, List.length_cons, List.length_nil]
        omega

/-- Ringing the doorbell and storing the record settle a staged batch. -/
theorem Staged.rung {base : TransportQp} {progress : BatchProgress}
    (h : account.Staged base progress) {producer : UInt32}
    (hProducer : producer = base.send.counters.head + UInt32.ofNat progress.wqes.length) :
    account.Exact { ringSendDoorbell progress.wqes producer progress.qp with
      state := progress.next } := by
  obtain ⟨sendRing, wrIds, hUntouched⟩ := h.untouched
  have hHead := handOverAll_head progress.wqes base.send
  have hRelabeled := h.exact.relabel sendRing base.receiveRing wrIds
  have hSame : { ringSendDoorbell progress.wqes producer progress.qp with
      state := progress.next } =
      ({ base with
        state := progress.next
        sendRing := sendRing
        send := { handOverAll progress.wqes base.send with wrIds := wrIds } } : TransportQp) := by
    rw [hUntouched, ringSendDoorbell]
    dsimp only
    have hFold := handOverAll_relabel progress.wqes base.send wrIds
    unfold handOverAll at hFold hHead ⊢
    rw [hFold, hProducer, ← hHead]
  rw [hSame]
  exact hRelabeled

/-- The doorbell hands over all that is staged. -/
theorem finishBatch_keeps {base : TransportQp} {progress : BatchProgress}
    (h : account.Staged base progress) (count : Nat) (polls : List Arrivals) :
    account.Exact (finishBatch count progress.wqes.length base.send.counters.head progress
      polls).2 := by
  have hRung := h.rung rfl
  unfold finishBatch
  dsimp only
  have hWaited := waitForSendCompletion_keeps (aivReclaimTransportCq_keeps account) hRung
    (progress.next.sendCredits + progress.signalCount * progress.next.signalInterval) polls
  split_ifs
  · exact hWaited
  · exact hWaited
  · exact hWaited
  · exact hRung
  · exact hRung
  · exact hRung

/-- The valid prefix of a batch keeps the account. -/
theorem postPrefix_keeps (h : account.Exact qp) (wrs : List SendWr) (polls : List Arrivals) :
    account.Exact (postPrefix wrs polls qp).2 := by
  unfold postPrefix
  dsimp only
  split
  · exact h
  split
  · exact h
  have hStart : account.Staged qp
      { next := qp.state
        signalCount := 0
        wqes := []
        qp := qp } := ⟨⟨qp.sendRing, qp.send.wrIds, rfl⟩, h⟩
  generalize hLimited : min (min wrs.length (sendQueueAvailable qp).toNat)
    qp.state.sendCredits.toNat = limited
  have hShort : limited ≤ wrs.length := by omega
  obtain ⟨hStaged, hLength⟩ :=
    scheduleBatch_staged qp.send.counters.head (wrs.take limited) hStart
  split
  · obtain ⟨sendRing, wrIds, hUntouched⟩ := hStaged.untouched
    rw [hUntouched]
    exact h.relabel sendRing qp.receiveRing wrIds
  · rename_i hScheduled
    have hCount := hLength (by simpa using hScheduled)
    rw [List.length_take, Nat.min_eq_left hShort, List.length_nil, Nat.zero_add] at hCount
    have hFinished := finishBatch_keeps hStaged wrs.length polls
    rw [hCount] at hFinished
    exact hFinished

theorem aivPostTransportSendBatch_keeps (h : account.Exact qp) (wrs : List SendWr)
    (first : Arrivals) (polls : List Arrivals) :
    account.Exact (aivPostTransportSendBatch wrs first polls qp).2 := by
  have hReclaimed : account.Exact
      (if sendQueueAvailable qp = 0 ∨ qp.state.sendCredits = 0 then
        aivReclaimTransportCq true first qp
      else (OperationStatus.success, qp)).2 := by
    split
    · exact aivReclaimTransportCq_keeps account true first qp h
    · exact h
  unfold aivPostTransportSendBatch
  generalize (if sendQueueAvailable qp = 0 ∨ qp.state.sendCredits = 0 then
    aivReclaimTransportCq true first qp
    else (OperationStatus.success, qp)) = reclaimed at hReclaimed ⊢
  dsimp only
  split
  · exact h
  split
  · exact hReclaimed
  · exact postPrefix_keeps hReclaimed wrs polls

/-! The host. Its library keeps the counters, so there is nothing to track. -/

/-- A post of the host that leaves nothing behind when it fails. -/
theorem raPostSend_cases {results : RaSendResults} (hClean : results.Clean)
    (hUnrung : qp.unrung = []) (wr : SendWr) :
    (∃ error, raPostSend wr results qp = (.error error, qp)) ∨
      raPostSend wr results qp =
        (.ok (), { qp with send := qp.send.handOver (decide (wr.flags &&& kSendSignaled ≠ 0)) }) := by
  unfold raPostSend raPrepareSend
  split_ifs with hInvalid hFailed
  · exact .inl ⟨_, rfl⟩
  · exact .inl ⟨_, rfl⟩
  · obtain ⟨hDevice, hDoorbell⟩ := hClean.resolve_left hFailed
    right
    simp only [raRingSend, hDevice, hDoorbell, ne_eq, not_true, if_false, hUnrung, List.nil_append,
      List.foldl_cons, List.foldl_nil]

section Host

variable (hHost : ¬account.tracked)

include hHost

/-- The host pays back the completions it is handed. -/
theorem raReclaim_keeps (h : account.Exact qp) (sendCq : Bool) (poll : RaPoll) :
    account.Exact (raReclaim sendCq poll qp).2 := by
  cases poll with
  | invalid result => exact h
  | polled arrivals count =>
      have hArrived := h.arrive arrivals
      have hReclaimed : ∀ sendCq limit, account.Exact (transportReclaim sendCq
          (((qp.arrive arrivals).side sendCq).reap (fun counters _ => counters) limit).1
          ((qp.arrive arrivals).setSide sendCq
            (((qp.arrive arrivals).side sendCq).reap (fun counters _ => counters) limit).2)) := by
        intro sendCq limit
        cases sendCq with
        | false => exact hArrived.reclaimReceive _ limit fun hTracked => absurd hTracked hHost
        | true => exact hArrived.reclaimSend _ limit fun hTracked => absurd hTracked hHost
      unfold raReclaim raPollCq
      dsimp only
      split <;> exact hReclaimed sendCq _

theorem raReclaimIfNeeded_keeps (h : account.Exact qp) (sendCq : Bool) (poll : RaPoll) :
    account.Exact (raReclaimIfNeeded sendCq poll qp).2 := by
  have hPolled := raReclaim_keeps hHost h sendCq poll
  unfold raReclaimIfNeeded
  split
  · split
    · rename_i hResult
      rw [hResult] at hPolled
      exact hPolled
    · rename_i hResult
      rw [hResult] at hPolled
      exact hPolled
  · exact h

/-- A wait that times out keeps what it has polled so far. -/
theorem raWaitForSendCompletion_keeps (h : account.Exact qp) (targetCredits : UInt32)
    (polls : List RaPoll) : account.Exact (raWaitForSendCompletion targetCredits polls qp).2 := by
  induction polls generalizing qp with
  | nil =>
      unfold raWaitForSendCompletion
      split <;> exact h
  | cons poll rest ih =>
      have hPolled := raReclaim_keeps hHost h true poll
      unfold raWaitForSendCompletion
      split
      · split
        · rename_i hResult
          rw [hResult] at hPolled
          exact hPolled
        · rename_i hResult
          rw [hResult] at hPolled
          exact ih hPolled
      · exact h

/-- A host send is charged when it is prepared and handed over when it is rung. -/
theorem raPost_keeps (h : account.Exact qp) {results : RaSendResults} (hClean : results.Clean)
    (wr : SendWr) (first : RaPoll) (polls : List RaPoll) :
    account.Exact (raPost wr results first polls qp).2 := by
  have hFirst := raReclaimIfNeeded_keeps hHost h true first
  unfold raPost
  split
  · exact h
  split
  · rename_i hResult
    rw [hResult] at hFirst
    exact hFirst
  · rename_i reclaimed hResult
    rw [hResult] at hFirst
    split
    · exact hFirst
    · rename_i hCredits
      dsimp only at hFirst hCredits ⊢
      rcases raPostSend_cases hClean hFirst.unrung_eq
        (wr.scheduled (transportShouldSignal reclaimed.state)) with ⟨error, hPosted⟩ | hPosted
      · rw [hPosted]
        exact hFirst
      · rw [hPosted, scheduled_signaled]
        dsimp only
        split
        · rename_i hNone
          simp [transportRecordSend, hCredits] at hNone
        · rename_i state hRecord
          have hCharged := @Exact.chargeSend account reclaimed hFirst state hRecord
            { reclaimed with
              send := reclaimed.send.handOver (transportShouldSignal reclaimed.state) }
            rfl rfl rfl rfl
          split
          · exact raWaitForSendCompletion_keeps hHost hCharged _ polls
          · exact hCharged

/-- A host receive is charged when the provider has taken it. -/
theorem raRdmaRecv_keeps (h : account.Exact qp) (wr : RecvWr) (results : RaRecvResults)
    (first : RaPoll) : account.Exact (raRdmaRecv wr results first qp).2 := by
  have hFirst := raReclaimIfNeeded_keeps hHost h false first
  unfold raRdmaRecv
  split
  · rename_i hResult
    rw [hResult] at hFirst
    exact hFirst
  · rename_i reclaimed hResult
    rw [hResult] at hFirst
    split
    · exact hFirst
    · rename_i hCredits
      dsimp only at hFirst hCredits ⊢
      unfold raPostRecv
      split_ifs
      · exact hFirst
      · exact hFirst
      · dsimp only
        split
        · rename_i hNone
          simp [transportRecordReceive, hCredits] at hNone
        · rename_i state hRecord
          exact @Exact.chargeReceive account reclaimed hFirst state hRecord
            { reclaimed with receive := reclaimed.receive.handOver true } rfl rfl rfl rfl

end Host

end Account

end NdsStorage.Client
