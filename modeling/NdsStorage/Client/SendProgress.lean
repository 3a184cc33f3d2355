import NdsStorage.Client.CreditRuns

/-! When the send path refuses a request for want of room. A completion only
ever arrives for a signaled request, so a queue pair that is full of unsignaled
ones stays full. The signal interval is fixed, so this depends on the depth. -/
namespace NdsStorage.Client

/-- The depths that a queue pair is created with. -/
def sendQueueDepthAccepted (depth : UInt32) : Prop :=
  depth.toNat ≤ 2 ^ 31 - 1 ∧ ∃ bits, 1 ≤ bits ∧ depth.toNat = 2 ^ bits

/-- The error of the host when its credits are used up. -/
def creditsExhausted : Error where
  code := .transport
  message := "RA transport send credits exhausted"

/-- The queue pair that a batch finds after it has looked for completions. -/
def batchReclaimed (first : Arrivals) (qp : TransportQp) : TransportQp :=
  if sendQueueAvailable qp = 0 ∨ qp.state.sendCredits = 0 then
    (aivReclaimTransportCq true first qp).2
  else qp

/-- The queue pair with the posted part of a batch in its queue. -/
def batchFilled (wrs : List SendWr) (qp : TransportQp) : TransportQp :=
  let limited := min (min wrs.length (sendQueueAvailable qp).toNat) qp.state.sendCredits.toNat
  let head := qp.send.counters.head
  let scheduled := scheduleBatch head (wrs.take limited) 0
    { next := qp.state
      signalCount := 0
      wqes := []
      qp := qp }
  { ringSendDoorbell scheduled.2.wqes (head + UInt32.ofNat limited) scheduled.2.qp with
    state := scheduled.2.next }

/-- A request that a transport operation refuses because the queue is full or
the credits are used up, with the queue pair that the request has found. A
batch refuses the first request that it does not post. -/
inductive SendRefused : Backend → TransportQp → TransportQp → Prop
  | aiv {qp : TransportQp} (wr : SendWr) (first : Arrivals) (polls : List Arrivals)
      (hFull : (aivPostTransportSend true wr first polls qp).1 = some .queueFull) :
      SendRefused .aiv qp (aivPostTransportSend true wr first polls qp).2
  | aivBatch {qp : TransportQp} (wrs : List SendWr) (first : Arrivals) (polls : List Arrivals)
      (bad : Nat) (hFull : (aivPostTransportSendBatch wrs first polls qp).1 =
        { status := some .queueFull, badWr := some bad }) :
      SendRefused .aiv qp (batchFilled wrs (batchReclaimed first qp))
  | aicpu {qp : TransportQp} (provider : ProviderPost) (wr : SendWr) (first : Arrivals)
      (polls : List Arrivals)
      (hFull : (aicpuTransportPostSend provider wr first polls qp).1 = some .queueFull) :
      SendRefused .aicpu qp (aicpuTransportPostSend provider wr first polls qp).2
  | ra {qp : TransportQp} (wr : SendWr) {results : RaSendResults} (hClean : results.Clean)
      (first : RaPoll) (polls : List RaPoll)
      (hFull : (raPost wr results first polls qp).1 = .error creditsExhausted) :
      SendRefused .ra qp (raPost wr results first polls qp).2

/-- Signaled requests whose completion has not been polled yet. -/
def signaledOutstanding (qp : TransportQp) : List Cqe := qp.send.ready ++ qp.send.awaiting

section Device

variable {reclaim : DeviceReclaim} {post : SendWr → TransportQp → OperationStatus × TransportQp}

/-- A wait never reports a full queue if its polls do not. -/
theorem waitForSendCompletion_notFull (hReclaim : ∀ sendCq arrivals qp,
    (reclaim sendCq arrivals qp).1 ≠ .queueFull) (target : UInt32) (polls : List Arrivals)
    (qp : TransportQp) : (waitForSendCompletion reclaim target polls qp).1 ≠ some .queueFull := by
  induction polls generalizing qp with
  | nil =>
      unfold waitForSendCompletion
      split
      · simp
      · simp
  | cons arrivals rest ih =>
      unfold waitForSendCompletion
      dsimp only
      split
      · split
        · simpa using hReclaim true arrivals qp
        · exact ih _
      · simp

/-- A full queue is found by the credits or by the post itself. -/
theorem devicePostSend_full (hReclaim : ∀ sendCq arrivals qp,
    (reclaim sendCq arrivals qp).1 ≠ .queueFull) {wr : SendWr} {first : Arrivals}
    {polls : List Arrivals} {qp : TransportQp}
    (h : (devicePostSend reclaim post wr first polls qp).1 = some .queueFull) :
    (devicePostSend reclaim post wr first polls qp).2.state.sendCredits = 0 ∨
      ∃ scheduled found, (post scheduled found).1 = .queueFull ∧
        (devicePostSend reclaim post wr first polls qp).2 = (post scheduled found).2 := by
  have hFirst : (reclaimIfNeeded reclaim true first qp).1 ≠ .queueFull := by
    unfold reclaimIfNeeded
    split
    · simp
    · exact hReclaim true first qp
  unfold devicePostSend at h ⊢
  split at h
  · cases h
  · rename_i hActive
    rw [if_neg hActive]
    generalize reclaimIfNeeded reclaim true first qp = reclaimed at h hFirst ⊢
    dsimp only at h ⊢
    by_cases hStatus : reclaimed.1 ≠ .success
    · rw [if_pos hStatus] at h
      exact absurd (Option.some.inj h) hFirst
    rw [if_neg hStatus] at h ⊢
    by_cases hCredits : reclaimed.2.state.sendCredits = 0
    · rw [if_pos hCredits]
      exact .inl hCredits
    rw [if_neg hCredits] at h ⊢
    right
    refine ⟨wr.scheduled (transportShouldSignal reclaimed.2.state), reclaimed.2, ?_⟩
    generalize post (wr.scheduled (transportShouldSignal reclaimed.2.state)) reclaimed.2 = posted
      at h ⊢
    by_cases hPosted : posted.1 ≠ .success
    · rw [if_pos hPosted] at h ⊢
      exact ⟨Option.some.inj h, rfl⟩
    · rw [if_neg hPosted, transportRecordSend, if_neg hCredits] at h
      dsimp only at h
      split at h
      · exact absurd h (waitForSendCompletion_notFull hReclaim _ polls _)
      · cases h

end Device

/-- The status of a completion is never a full queue. -/
theorem reclaimStatus_notFull (completions : List Cqe) : reclaimStatus completions ≠ .queueFull := by
  unfold reclaimStatus
  split
  · simp
  · simp

/-- The vector core never reports a full queue when it polls. -/
theorem aivReclaim_notFull (sendCq : Bool) (arrivals : Arrivals) (qp : TransportQp) :
    (aivReclaimTransportCq sendCq arrivals qp).1 ≠ .queueFull := by
  unfold aivReclaimTransportCq
  dsimp only
  split
  · simp
  · exact reclaimStatus_notFull _

theorem aicpuReclaim_notFull (sendCq : Bool) (arrivals : Arrivals) (qp : TransportQp) :
    (aicpuReclaim sendCq arrivals qp).1 ≠ .queueFull := by
  unfold aicpuReclaim aicpuPollCq
  dsimp only
  split
  · rename_i hPolled
    split at hPolled
    · cases hPolled
      simp
    · cases hPolled
  · exact reclaimStatus_notFull _

/-- Once a post has found the queue full, the counters in memory are a full queue apart. -/
theorem aivPostSend_full {wr : SendWr} {qp : TransportQp} (h : (aivPostSend wr qp).1 = .queueFull) :
    (aivPostSend wr qp).2 = qp ∧ (qp.descriptor.sendQueue.depth ≤ 1 ∨
      qp.send.counters.head - qp.send.counters.tail ≥ qp.descriptor.sendQueue.depth - 1) := by
  unfold aivPostSend at h ⊢
  dsimp only at h ⊢
  split at h
  · cases h
  · rename_i hValid
    split at h
    · rename_i hFull
      rw [if_neg hValid, if_pos hFull]
      exact ⟨rfl, hFull⟩
    · cases h

theorem aicpuPostSend_notFull (wr : SendWr) (provider : ProviderPost) (qp : TransportQp) :
    (aicpuPostSend wr provider qp).1 ≠ .queueFull := by
  unfold aicpuPostSend
  dsimp only
  split_ifs <;> simp

section Host

variable {qp : TransportQp}

/-- A poll of the host never fails with a transport error. -/
theorem raReclaim_code {sendCq : Bool} {poll : RaPoll} {error : Error}
    (h : (raReclaim sendCq poll qp).1 = .error error) : error.code ≠ .transport := by
  unfold raReclaim raPollCq at h
  cases poll with
  | polled arrivals count =>
      dsimp only at h
      split at h
      · cases h
        simp
      · cases h
  | invalid result =>
      cases h
      simp

theorem raReclaimIfNeeded_code {sendCq : Bool} {poll : RaPoll} {error : Error}
    (h : (raReclaimIfNeeded sendCq poll qp).1 = .error error) : error.code ≠ .transport := by
  unfold raReclaimIfNeeded at h
  split at h
  · split at h
    · rename_i failure reclaimed hPolled
      cases h
      exact raReclaim_code (congrArg Prod.fst hPolled)
    · cases h
  · cases h

theorem raWaitForSendCompletion_code {target : UInt32} {polls : List RaPoll} {error : Error}
    (h : (raWaitForSendCompletion target polls qp).1 = .error error) :
    error.code ≠ .transport := by
  induction polls generalizing qp with
  | nil =>
      unfold raWaitForSendCompletion at h
      split at h
      · cases h
      · cases h
        simp
  | cons poll rest ih =>
      unfold raWaitForSendCompletion at h
      split at h
      · split at h
        · rename_i failure reclaimed hPolled
          cases h
          exact raReclaim_code (congrArg Prod.fst hPolled)
        · exact ih h
      · cases h

theorem raPostSend_code {wr : SendWr} {results : RaSendResults} {error : Error}
    (h : (raPostSend wr results qp).1 = .error error) : error.code ≠ .transport := by
  unfold raPostSend raPrepareSend raRingSend at h
  split at h
  · rename_i failure found hPrepared
    split_ifs at hPrepared
    · cases hPrepared
      cases h
      simp
    · cases hPrepared
      cases h
      simp
    · cases hPrepared
  · split_ifs at h
    · cases h
      simp
    · cases h
      simp

/-- The host reports exhausted credits only without credits. -/
theorem raPost_full {wr : SendWr} {results : RaSendResults} {first : RaPoll} {polls : List RaPoll}
    (h : (raPost wr results first polls qp).1 = .error creditsExhausted) :
    (raPost wr results first polls qp).2.state.sendCredits = 0 := by
  have hCode : creditsExhausted.code = .transport := rfl
  unfold raPost at h ⊢
  split at h
  · cases h
  · rename_i hActive
    rw [if_neg hActive]
    cases hReclaimed : raReclaimIfNeeded true first qp with
    | mk outcome reclaimed =>
    rw [hReclaimed] at h
    cases outcome with
    | error error =>
        cases h
        exact absurd hCode (raReclaimIfNeeded_code (congrArg Prod.fst hReclaimed))
    | ok _ =>
        dsimp only at h ⊢
        by_cases hCredits : reclaimed.state.sendCredits = 0
        · rw [if_pos hCredits]
          exact hCredits
        · rw [if_neg hCredits] at h
          cases hPosted : raPostSend (wr.scheduled (transportShouldSignal reclaimed.state)) results
              reclaimed with
          | mk outcome posted =>
          rw [hPosted] at h
          cases outcome with
          | error error =>
              cases h
              exact absurd hCode (raPostSend_code (congrArg Prod.fst hPosted))
          | ok _ =>
              dsimp only at h
              rw [transportRecordSend, if_neg hCredits] at h
              dsimp only at h
              split at h
              · exact absurd hCode (raWaitForSendCompletion_code h)
              · cases h

end Host

section Batch

variable {account : Account} {qp : TransportQp} {wrs : List SendWr}

/-- A batch that is staged in full has no bad request. -/
theorem finishBatch_whole (count : Nat) (head : UInt32) (progress : BatchProgress)
    (polls : List Arrivals) : (finishBatch count count head progress polls).1.badWr = none := by
  unfold finishBatch
  simp only [ne_eq, not_true_eq_false, if_false]
  split_ifs <;> rfl

/-- A batch reports a full queue only without credits. -/
theorem postPrefix_full {polls : List Arrivals} {bad : Nat} (hSome : wrs ≠ [])
    (h : (postPrefix wrs polls qp).1 = { status := some .queueFull, badWr := some bad }) :
    min (sendQueueAvailable qp).toNat qp.state.sendCredits.toNat < wrs.length := by
  have hLength := List.length_pos_of_ne_nil hSome
  by_contra hRoom
  have hLimited : min (min wrs.length (sendQueueAvailable qp).toNat) qp.state.sendCredits.toNat =
      wrs.length := by omega
  unfold postPrefix at h
  rw [hLimited] at h
  dsimp only at h
  split at h
  · cases h
  · rw [if_neg (Nat.ne_of_gt hLength)] at h
    split at h
    · cases h
    · have hNone := congrArg BatchOutcome.badWr h
      rw [finishBatch_whole] at hNone
      cases hNone

/-- A batch that names a request it has not posted found no room for it. -/
theorem batch_full {first : Arrivals} {polls : List Arrivals} {bad : Nat}
    (h : (aivPostTransportSendBatch wrs first polls qp).1 =
      { status := some .queueFull, badWr := some bad }) :
    min (sendQueueAvailable (batchReclaimed first qp)).toNat
      (batchReclaimed first qp).state.sendCredits.toNat < wrs.length := by
  have hReclaimed : (if sendQueueAvailable qp = 0 ∨ qp.state.sendCredits = 0 then
      aivReclaimTransportCq true first qp
      else (OperationStatus.success, qp)).2 = batchReclaimed first qp := by
    rw [batchReclaimed]
    split
    · rfl
    · rfl
  unfold aivPostTransportSendBatch at h
  generalize (if sendQueueAvailable qp = 0 ∨ qp.state.sendCredits = 0 then
    aivReclaimTransportCq true first qp
    else (OperationStatus.success, qp)) = reclaimed at h hReclaimed
  dsimp only at h
  split at h
  · cases h
  · rename_i hChecked
    simp only [not_or] at hChecked
    split at h
    · exact absurd (congrArg BatchOutcome.badWr h) (by simp)
    · rw [hReclaimed] at h
      exact postPrefix_full hChecked.1 h

theorem handOverAll_posted (wqes : List SendWqe) (side : QueueSide) :
    (Account.handOverAll wqes side).posted = side.posted + wqes.length ∧
      (Account.handOverAll wqes side).reclaimed = side.reclaimed := by
  induction wqes generalizing side with
  | nil => exact ⟨rfl, rfl⟩
  | cons wqe rest ih =>
      obtain ⟨hPosted, hReclaimed⟩ := ih (side.handOver wqe.signaled)
      change (Account.handOverAll rest (side.handOver wqe.signaled)).posted = _ ∧
        (Account.handOverAll rest (side.handOver wqe.signaled)).reclaimed = _
      rw [hPosted, hReclaimed, List.length_cons]
      exact ⟨by simp only [QueueSide.handOver]; omega, rfl⟩

/-- With credits for all of them, every request of a batch is scheduled. -/
theorem scheduleBatch_true (head : UInt32) {index : UInt32} {progress : BatchProgress}
    (h : wrs.length ≤ progress.next.sendCredits.toNat) :
    (scheduleBatch head wrs index progress).1 = true := by
  induction wrs generalizing index progress with
  | nil => rfl
  | cons wr rest ih =>
      rw [List.length_cons] at h
      have hCredits : progress.next.sendCredits ≠ 0 := by
        intro hZero
        rw [hZero] at h
        exact absurd h (Nat.not_succ_le_zero _)
      unfold scheduleBatch
      dsimp only
      rw [if_neg hCredits]
      apply ih
      simp only [BatchProgress.schedule]
      rw [Account.toNat_pred (by omega)]
      omega

/-- A filled queue pair has the posted part of the batch on its account. -/
theorem batchFilled_exact (h : account.Exact qp) :
    account.Exact (batchFilled wrs qp) ∧
      (batchFilled wrs qp).send.posted = qp.send.posted +
        min (min wrs.length (sendQueueAvailable qp).toNat) qp.state.sendCredits.toNat ∧
      (batchFilled wrs qp).send.reclaimed = qp.send.reclaimed := by
  have hStart : account.Staged qp
      { next := qp.state
        signalCount := 0
        wqes := []
        qp := qp } := ⟨⟨qp.sendRing, qp.send.wrIds, rfl⟩, h⟩
  unfold batchFilled
  dsimp only
  generalize hLimited : min (min wrs.length (sendQueueAvailable qp).toNat)
    qp.state.sendCredits.toNat = limited
  have hTake : (wrs.take limited).length = limited := by
    rw [List.length_take]
    omega
  obtain ⟨hStaged, hLength⟩ := @Account.scheduleBatch_staged account qp qp.send.counters.head
    (wrs.take limited) 0 _ hStart
  have hCount := hLength (scheduleBatch_true _ (by
    rw [hTake]
    show limited ≤ qp.state.sendCredits.toNat
    omega))
  rw [hTake, List.length_nil, Nat.zero_add] at hCount
  refine ⟨hStaged.rung (by rw [hCount]), ?_⟩
  obtain ⟨sendRing, wrIds, hUntouched⟩ := hStaged.untouched
  obtain ⟨hPosted, hReclaimed⟩ := handOverAll_posted
    (scheduleBatch qp.send.counters.head (wrs.take limited) 0
      { next := qp.state
        signalCount := 0
        wqes := []
        qp := qp }).2.wqes { qp.send with wrIds := wrIds }
  simp only [ringSendDoorbell, hUntouched]
  rw [hCount] at hPosted
  exact ⟨hPosted, hReclaimed⟩

end Batch

/-- A queue pair with an interval of requests in its queue has a signaled one among them. -/
theorem signaled_of_outstanding {account : Account} {qp : TransportQp} (h : account.Exact qp)
    (hMany : kTransportSignalInterval.toNat ≤ qp.send.outstanding) :
    signaledOutstanding qp ≠ [] := by
  intro hNone
  have hPosted := h.send.posted_eq
  have hOpen := h.send.open_lt
  rw [signaledOutstanding] at hNone
  rw [hNone, List.length_nil, Nat.mul_zero, Nat.add_zero] at hPosted
  rw [QueueSide.outstanding, hPosted] at hMany
  omega

/-- The depths at which the signal interval leaves the send path of a backend
room. The vector core keeps one entry free and reads the tail from 16 bits. -/
def roomyDepth : Backend → UInt32 → Prop
  | .aiv, depth => 64 ≤ depth ∧ depth ≤ 65536
  | .aicpu, depth | .ra, depth => 32 ≤ depth

section Full

variable {account : Account} {qp : TransportQp}

/-- Without credits the whole send queue is outstanding. -/
theorem outstanding_of_credits (h : account.Exact qp) (hCredits : qp.state.sendCredits = 0) :
    qp.send.outstanding = account.sendDepth.toNat := by
  have hDepth := h.send.credits_eq
  rw [hCredits] at hDepth
  simpa using hDepth

/-- The check of the vector core counts the outstanding requests. -/
theorem outstanding_of_counters (h : account.Exact qp) (hTracked : account.tracked)
    (hDeep : 2 ≤ account.sendDepth)
    (hFull : qp.send.counters.head - qp.send.counters.tail ≥ account.sendDepth - 1) :
    account.sendDepth.toNat ≤ qp.send.outstanding + 1 := by
  have hOne : 1 ≤ account.sendDepth := UInt32.le_trans (by decide) hDeep
  rw [ge_iff_le, UInt32.le_iff_toNat_le, (h.sendAligned hTracked).used_eq h.send,
    UInt32.toNat_sub_of_le _ _ hOne] at hFull
  change account.sendDepth.toNat - 1 ≤ _ at hFull
  omega

/-- The room that the vector core finds is the depth less one entry and what is outstanding. -/
theorem available_toNat (h : account.Exact qp) (hTracked : account.tracked)
    (hDeep : 2 ≤ account.sendDepth)
    (hExported : account.descriptor.sendQueue.depth = account.sendDepth) :
    (sendQueueAvailable qp).toNat = account.sendDepth.toNat - 1 - qp.send.outstanding := by
  have hUsed := (h.sendAligned hTracked).used_eq h.send
  have hOne : 1 ≤ account.sendDepth := UInt32.le_trans (by decide) hDeep
  have hLast : (account.sendDepth - 1).toNat = account.sendDepth.toNat - 1 :=
    UInt32.toNat_sub_of_le _ _ hOne
  unfold sendQueueAvailable
  rw [h.descriptor_eq, hExported]
  dsimp only
  split
  · rename_i hRoom
    rw [UInt32.toNat_sub_of_le _ _ (UInt32.le_of_lt hRoom), hLast, hUsed]
  · rename_i hFull
    rw [UInt32.not_lt, UInt32.le_iff_toNat_le, hLast, hUsed] at hFull
    show 0 = _
    omega

/-- A batch with a request left over has filled the queue up to the entry that stays free. -/
theorem outstanding_of_batch {wrs : List SendWr} (h : account.Exact qp) (hTracked : account.tracked)
    (hDeep : 2 ≤ account.sendDepth) (hExported : account.descriptor.sendQueue.depth =
      account.sendDepth)
    (hLeft : min (sendQueueAvailable qp).toNat qp.state.sendCredits.toNat < wrs.length) :
    account.sendDepth.toNat ≤ (batchFilled wrs qp).send.outstanding + 1 := by
  obtain ⟨-, hPosted, hReclaimed⟩ := @batchFilled_exact account qp wrs h
  have hDepth := h.send.credits_eq
  have hLe := h.send.reclaimed_le
  have hAvailable := available_toNat h hTracked hDeep hExported
  rw [QueueSide.outstanding, hPosted, hReclaimed]
  rw [hAvailable] at hLeft ⊢
  rw [QueueSide.outstanding] at hDepth hLeft ⊢
  omega

end Full

section Runs

variable {backend : Backend} {config : QpConfig} {start qp found : TransportQp}

/-- At a depth that leaves room, a request is refused for want of room only
while a signaled request is outstanding, whose completion will pay an interval
back. This holds in every state of every run, whatever the order in which
operations and completions come. -/
theorem refused_send_awaits (hOpened : start.Opened config)
    (hAccepted : sendQueueDepthAccepted config.sendQueueDepth)
    (hExported : start.descriptor.sendQueue.depth = config.sendQueueDepth)
    (hRoomy : roomyDepth backend config.sendQueueDepth)
    (hRun : TransportQp.Reaches backend start qp) (hRefused : SendRefused backend qp found) :
    signaledOutstanding found ≠ [] := by
  have hExact := Account.opened_reaches hOpened hRun
  have hInterval : kTransportSignalInterval.toNat = 32 := rfl
  obtain ⟨-, bits, hBits, hDepth⟩ := hAccepted
  have hCapacity : (Account.opened backend config start).sendDepth = config.sendQueueDepth := by
    simp only [Account.opened, QpDescriptor.capacity, QpDescriptor.queue, if_true, hExported,
      ite_self]
  -- The account of the vector core is tracked, since its depth fits the index field.
  have hTracked : backend = .aiv → (Account.opened backend config start).tracked := by
    rintro rfl
    have hFits := UInt32.le_iff_toNat_le.mp hRoomy.2
    rw [hDepth] at hFits
    exact ⟨by simp, bits, (Nat.pow_le_pow_iff_right (Nat.lt_succ_self 1)).mp hFits,
      hExported ▸ hDepth⟩
  cases hRefused with
  | aiv wr first polls hFull =>
      have hFound := hExact.step (by simp) (.aivSend wr first polls (.inl rfl))
      have hMany : 64 ≤ config.sendQueueDepth.toNat := UInt32.le_iff_toNat_le.mp hRoomy.1
      apply signaled_of_outstanding hFound
      rw [hInterval]
      show 32 ≤ (aivPostTransportSend true wr first polls qp).2.send.outstanding
      rcases devicePostSend_full aivReclaim_notFull hFull with hCredits | ⟨other, last, hPost, hSame⟩
      · have hAll := outstanding_of_credits hFound hCredits
        rw [hCapacity] at hAll
        exact hAll ▸ Nat.le_trans (by decide) hMany
      · obtain ⟨hLast, hCounters⟩ := aivPostSend_full hPost
        have hSame : (aivPostTransportSend true wr first polls qp).2 = last := hSame.trans hLast
        have hFound : (Account.opened .aiv config start).Exact last := hSame ▸ hFound
        have hQueue : last.descriptor.sendQueue.depth =
            (Account.opened .aiv config start).sendDepth := by
          rw [hFound.descriptor_eq, hCapacity]
          exact hExported
        have hDeep : 2 ≤ (Account.opened .aiv config start).sendDepth := by
          rw [hCapacity]
          exact UInt32.le_trans (by decide) hRoomy.1
        rw [hSame]
        rw [hQueue] at hCounters
        have hAll := outstanding_of_counters hFound (hTracked rfl) hDeep (hCounters.resolve_left
          (UInt32.not_le.mpr (UInt32.lt_of_lt_of_le (by decide) hDeep)))
        rw [hCapacity] at hAll
        omega
  | aivBatch wrs first polls bad hFull =>
      have hReclaimed : (Account.opened .aiv config start).Exact (batchReclaimed first qp) := by
        unfold batchReclaimed
        split
        · exact Account.aivReclaimTransportCq_keeps _ true first qp hExact
        · exact hExact
      have hMany : 64 ≤ config.sendQueueDepth.toNat := UInt32.le_iff_toNat_le.mp hRoomy.1
      have hDeep : 2 ≤ (Account.opened .aiv config start).sendDepth := by
        rw [hCapacity]
        exact UInt32.le_trans (by decide) hRoomy.1
      have hAll := outstanding_of_batch hReclaimed (hTracked rfl) hDeep
        (hExported.trans hCapacity.symm) (batch_full hFull)
      rw [hCapacity] at hAll
      apply signaled_of_outstanding (batchFilled_exact hReclaimed).1
      rw [hInterval]
      omega
  | aicpu provider wr first polls hFull =>
      have hFound := hExact.step (by simp) (.aicpuSend provider wr first polls)
      have hMany : 32 ≤ config.sendQueueDepth.toNat := UInt32.le_iff_toNat_le.mp hRoomy
      apply signaled_of_outstanding hFound
      rcases devicePostSend_full aicpuReclaim_notFull hFull with hCredits | ⟨other, last, hPost, -⟩
      · rw [outstanding_of_credits hFound hCredits, hCapacity]
        exact hMany
      · exact absurd hPost (aicpuPostSend_notFull other provider last)
  | ra wr hClean first polls hFull =>
      have hUntracked : ¬ (Account.opened .ra config start).tracked := fun hTracked =>
        hTracked.1 rfl
      have hFound := hExact.step (fun _ => hUntracked) (.raSend wr hClean first polls)
      have hMany : 32 ≤ config.sendQueueDepth.toNat := UInt32.le_iff_toNat_le.mp hRoomy
      apply signaled_of_outstanding hFound
      rw [outstanding_of_credits hFound (raPost_full hFull), hCapacity]
      exact hMany

end Runs

/-- One operation after the other. -/
theorem iterate_reaches {backend : Backend} {move : TransportQp → TransportQp}
    (hMove : ∀ qp, TransportQp.Step backend qp (move qp)) (count : Nat) (qp : TransportQp) :
    TransportQp.Reaches backend qp (move^[count] qp) := by
  induction count generalizing qp with
  | zero => exact Relation.ReflTransGen.refl
  | succ count ih => exact (Relation.ReflTransGen.single (hMove qp)).trans (ih (move qp))

/-- A fresh queue pair of the given send depth. -/
def freshQp (depth : UInt32) : TransportQp :=
  { deviceQp with
    descriptor.sendQueue.depth := depth
    state.sendCredits := depth }

/-- A fresh queue pair is one that has just been opened. -/
theorem freshQp_opened {depth : UInt32} (h : depth ≠ 0) :
    (freshQp depth).Opened { sendQueueDepth := depth, receiveQueueDepth := 16 } where
  state_eq := by
    simp only [buildQpState, QpDescriptor.capacity, QpDescriptor.queue, freshQp, if_true, ne_eq, h,
      not_false_eq_true, ite_self]
    rw [if_neg (by simp [deviceQp])]
    rfl
  send_idle := ⟨0, 0, fun _ => 0, rfl⟩
  receive_idle := ⟨0, 0, fun _ => 0, rfl⟩
  unrung_eq := rfl

def noArrivals : Arrivals := { send := [], receive := [] }

def raAnswers : RaSendResults := { sendWr := 0, setDevice := 0, doorbell := 0 }

/-- A send of the vector core and of the host, at a moment when nothing arrives. -/
def aivQuietSend (qp : TransportQp) : TransportQp :=
  (aivRdmaSend true deviceSend noArrivals [] qp).2

def raQuietSend (qp : TransportQp) : TransportQp :=
  (raRdmaSend deviceSend raAnswers (.polled noArrivals 0) [] qp).2

/-- At depth 16 the host uses up its credits, and at depth 32 the vector core
its entries, before the first signaled request. The next send is refused, and
no completion is to come. -/
theorem sendPath_wedges :
    (sendQueueDepthAccepted 16 ∧ ∃ qp found, TransportQp.Reaches .ra (freshQp 16) qp ∧
      SendRefused .ra qp found ∧ signaledOutstanding found = []) ∧
    (sendQueueDepthAccepted 32 ∧ ∃ qp found, TransportQp.Reaches .aiv (freshQp 32) qp ∧
      SendRefused .aiv qp found ∧ signaledOutstanding found = []) := by
  have hClean : raAnswers.Clean := .inr ⟨rfl, rfl⟩
  refine ⟨⟨⟨by decide, 4, by decide, rfl⟩, raQuietSend^[16] (freshQp 16), _,
      iterate_reaches (fun qp => .raSend deviceSend hClean _ _) 16 _,
      .ra deviceSend hClean (.polled noArrivals 0) [] ?_, ?_⟩,
    ⟨⟨by decide, 5, by decide, rfl⟩, aivQuietSend^[31] (freshQp 32), _,
      iterate_reaches (fun qp => .aivSend deviceSend _ _ (.inl rfl)) 31 _,
      .aiv deviceSend noArrivals [] ?_, ?_⟩⟩
  · decide +kernel
  · decide +kernel
  · decide +kernel
  · decide +kernel

/-- A batch of 64 requests leaves one over on a queue of 64 entries, and the
queue then holds a signaled request. -/
theorem refused_send_awaits_batch : ∃ found, SendRefused .aiv (freshQp 64) found ∧
    signaledOutstanding found ≠ [] := by
  have hRefused : SendRefused .aiv (freshQp 64) (batchFilled (List.replicate 64 deviceSend)
      (batchReclaimed noArrivals (freshQp 64))) :=
    .aivBatch _ noArrivals [{ send := [0], receive := [] }] 63 (by decide +kernel)
  have hOpened : (freshQp 64).Opened { sendQueueDepth := 64, receiveQueueDepth := 16 } :=
    freshQp_opened (by decide)
  have hRoomy : roomyDepth .aiv 64 := ⟨by decide, by decide⟩
  exact ⟨_, hRefused, refused_send_awaits hOpened ⟨by decide, 6, by decide, rfl⟩ rfl hRoomy
    Relation.ReflTransGen.refl hRefused⟩

end NdsStorage.Client
