import NdsStorage.Client.Completions
import NdsStorage.Client.Settlement

/-! What single sends and batches of the vector core leave behind. A single send
charges one request and waits for its report, a batch charges a prefix of its
requests and then waits for all the reports among them. -/
namespace NdsStorage.Client

/-- Between two operations no report is left that a poll could read. -/
def TransportQp.Quiet (qp : TransportQp) : Prop :=
  sendCqReadable qp.descriptor → signaledOutstanding qp = []

/-- Settling changes nothing where nothing is signaled. -/
theorem TransportQp.Quiet.settle_eq {qp : TransportQp} (h : qp.Quiet) :
    qp.sendView.settle qp.descriptor = qp.sendView := by
  by_cases hReadable : sendCqReadable qp.descriptor
  · exact SendView.settle_pending (TransportQp.pending_eq_nil.mpr (h hReadable))
  · rw [SendView.settle, if_neg hReadable]

section Singles

variable {account : Account} {qp : TransportQp} {wr : SendWr} {first : Arrivals}
  {polls : List Arrivals}

/-- A request is written, handed over and charged. -/
def TransportQp.charge (qp : TransportQp) (wr : SendWr) : TransportQp :=
  { postOne qp (wr.scheduled (transportShouldSignal qp.state)) with
    state := { qp.state with
      sendCredits := qp.state.sendCredits - 1
      unsignaledCount :=
        if transportShouldSignal qp.state then 0 else qp.state.unsignaledCount + 1 } }

theorem charge_send (qp : TransportQp) (wr : SendWr) :
    { (qp.charge wr).send with wrIds := qp.send.wrIds } =
      qp.send.handOver (transportShouldSignal qp.state) := by
  have hSignaled := Account.scheduled_signaled wr (transportShouldSignal qp.state)
  show { (qp.send.handOver (decide ((wr.scheduled (transportShouldSignal qp.state)).flags &&&
    kSendSignaled ≠ 0))) with wrIds := qp.send.wrIds } = _
  rw [hSignaled]
  rfl

/-- A charged request joins the signaled ones if it is its turn. -/
theorem charge_indices (qp : TransportQp) (wr : SendWr) :
    (signaledOutstanding (qp.charge wr)).map Cqe.wqeIndex =
      if transportShouldSignal qp.state then
        (signaledOutstanding qp).map Cqe.wqeIndex ++ [qp.send.counters.head &&& 0xffff]
      else (signaledOutstanding qp).map Cqe.wqeIndex := by
  have hAwaiting := congrArg QueueSide.awaiting (charge_send qp wr)
  change (qp.charge wr).send.awaiting = _ at hAwaiting
  show (qp.send.ready ++ (qp.charge wr).send.awaiting).map _ = _
  rw [hAwaiting, QueueSide.handOver]
  dsimp only
  split
  · simp [signaledOutstanding]
  · rfl

theorem charge_pending (qp : TransportQp) (wr : SendWr) :
    (signaledOutstanding (qp.charge wr)).length =
      (signaledOutstanding qp).length + if transportShouldSignal qp.state then 1 else 0 := by
  have hLength := congrArg List.length (charge_indices qp wr)
  rw [List.length_map] at hLength
  rw [hLength]
  split
  · simp
  · simp

/-- To the view of the sends, a charged request is a post. -/
theorem charge_sendView (qp : TransportQp) (wr : SendWr) :
    (qp.charge wr).sendView = qp.sendView.post qp.descriptor.sendQueue.depth wr := by
  rw [TransportQp.sendView, charge_indices]
  rfl

theorem charge_exact (h : account.Exact qp) (hCredits : qp.state.sendCredits ≠ 0) (wr : SendWr) :
    account.Exact (qp.charge wr) := by
  have hRecord : transportRecordSend qp.state (transportShouldSignal qp.state) =
      some (qp.charge wr).state := if_neg hCredits
  exact @Account.Exact.chargeSend account qp h _ hRecord (qp.charge wr) rfl rfl rfl
    (charge_send qp wr)

/-- An accepted send charges the queue pair and waits if it was signaled. -/
theorem aivSend_charges (returnValue : Bool) (hActive : qp.state.signalInterval ≠ 0)
    (hValid : aivValidSendWr wr = true) (hCredits : qp.state.sendCredits ≠ 0)
    (hRoom : ¬(qp.descriptor.sendQueue.depth ≤ 1 ∨
      qp.send.counters.head - qp.send.counters.tail ≥ qp.descriptor.sendQueue.depth - 1)) :
    aivRdmaSend returnValue wr first polls qp =
      if transportShouldSignal qp.state then
        waitForSendCompletion aivReclaimTransportCq
          ((qp.charge wr).state.sendCredits + qp.state.signalInterval) polls (qp.charge wr)
      else (some .success, qp.charge wr) := by
  have hScheduled : aivValidSendWr (wr.scheduled (transportShouldSignal qp.state)) = true := hValid
  have hPosted : aivPostSend (wr.scheduled (transportShouldSignal qp.state)) qp =
      (.success, postOne qp (wr.scheduled (transportShouldSignal qp.state))) := by
    unfold aivPostSend
    dsimp only
    rw [hScheduled, if_neg hRoom]
    rfl
  have hFirst : reclaimIfNeeded aivReclaimTransportCq true first qp = (.success, qp) :=
    if_pos hCredits
  unfold aivRdmaSend aivPostTransportSend devicePostSend
  rw [if_neg hActive, hFirst]
  simp only [ne_eq, not_true_eq_false, if_false, if_neg hCredits, hPosted, ite_self,
    transportRecordSend]
  rfl

/-- The target of a signaled send is what its own report pays back. -/
theorem charge_fullCredits (h : account.Exact qp) (hNone : signaledOutstanding qp = [])
    (hSignaled : transportShouldSignal qp.state = true) :
    (qp.charge wr).state.sendCredits + qp.state.signalInterval = fullCredits (qp.charge wr) ∧
      (signaledOutstanding (qp.charge wr)).length = 1 ∧ (qp.charge wr).send.ready = [] := by
  have hEmpty : qp.send.ready = [] := (List.append_eq_nil_iff.mp hNone).1
  have hOne := charge_pending qp wr
  rw [hNone, hSignaled] at hOne
  refine ⟨?_, hOne, hEmpty⟩
  rw [fullCredits, hOne, h.interval_eq]
  rfl

/-- A send that finds credits and room succeeds, and leaves the records as they
are once its report is polled. -/
theorem single_settles (returnValue : Bool) (h : account.Exact qp) (hQuiet : qp.Quiet)
    (hReports : transportShouldSignal qp.state = true → sendCqReadable qp.descriptor)
    (hValid : aivValidSendWr wr = true) (hCredits : qp.state.sendCredits ≠ 0)
    (hRoom : ¬(qp.descriptor.sendQueue.depth ≤ 1 ∨
      qp.send.counters.head - qp.send.counters.tail ≥ qp.descriptor.sendQueue.depth - 1))
    (hPolls : ∀ arrivals ∈ polls, arrivals.Good)
    (hArrives : ∃ arrivals ∈ polls, arrivals.send ≠ []) :
    (aivRdmaSend returnValue wr first polls qp).1 = some .success ∧
      (aivRdmaSend returnValue wr first polls qp).2.sendView =
        (qp.sendView.post qp.descriptor.sendQueue.depth wr).settle qp.descriptor ∧
      (aivRdmaSend returnValue wr first polls qp).2.Quiet := by
  have hActive : qp.state.signalInterval ≠ 0 := by
    rw [h.interval_eq]
    decide
  have hCharged := charge_exact h hCredits wr
  rw [aivSend_charges returnValue hActive hValid hCredits hRoom, ← charge_sendView]
  split
  · rename_i hSignaled
    have hReadable := hReports hSignaled
    obtain ⟨hTarget, hOne, hEmpty⟩ := charge_fullCredits h (hQuiet hReadable) hSignaled
    have hGood : (qp.charge wr).send.Good := by
      intro cqe hCqe
      rw [hEmpty] at hCqe
      cases hCqe
    rw [hTarget]
    obtain ⟨hStatus, hNone⟩ := wait_done hCharged hReadable hGood hPolls
      (wait_returns hCharged hReadable (Nat.le_of_eq hOne) hArrives)
    refine ⟨hStatus, ?_, fun _ => hNone⟩
    have hSettled := settle_wait (fullCredits (qp.charge wr)) polls (qp.charge wr)
    rw [SendView.settle_pending (TransportQp.pending_eq_nil.mpr hNone)] at hSettled
    exact hSettled
  · rename_i hSilent
    have hPending : (qp.charge wr).sendView.pending = qp.sendView.pending := by
      rw [charge_sendView, SendView.post]
      exact if_neg hSilent
    have hQuietly : (qp.charge wr).Quiet := by
      intro hReadable
      apply TransportQp.pending_eq_nil.mp
      exact hPending.trans (TransportQp.pending_eq_nil.mpr (hQuiet hReadable))
    refine ⟨rfl, ?_, hQuietly⟩
    exact (hQuietly.settle_eq).symm

end Singles

section Batches

variable {account : Account} {qp : TransportQp} {wrs : List SendWr}

/-- The queue pair if the doorbell were rung now. -/
def BatchProgress.rung (progress : BatchProgress) (producer : UInt32) : TransportQp :=
  { ringSendDoorbell progress.wqes producer progress.qp with state := progress.next }

theorem handOverAll_wrIds (wqes : List SendWqe) (side : QueueSide) :
    (Account.handOverAll wqes side).wrIds = side.wrIds := by
  have hSame := congrArg QueueSide.wrIds (Account.handOverAll_relabel wqes side side.wrIds)
  exact hSame

/-- The doorbell hands the scheduled entries over. -/
theorem rung_eq {progress : BatchProgress} {producer : UInt32}
    (hProducer : producer = progress.qp.send.counters.head + UInt32.ofNat progress.wqes.length) :
    progress.rung producer = { progress.qp with
      send := Account.handOverAll progress.wqes progress.qp.send
      state := progress.next } := by
  have hHead := Account.handOverAll_head progress.wqes progress.qp.send
  rw [← hProducer] at hHead
  rw [← hHead]
  rfl

/-- The producer runs ahead by the entries scheduled. -/
theorem schedule_producer {progress : BatchProgress} {producer : UInt32}
    (hProducer : producer = progress.qp.send.counters.head + UInt32.ofNat progress.wqes.length)
    (wr : SendWr) :
    producer + 1 = (progress.schedule producer wr).qp.send.counters.head +
      UInt32.ofNat (progress.schedule producer wr).wqes.length := by
  show _ = progress.qp.send.counters.head + UInt32.ofNat (progress.wqes ++ [_]).length
  rw [List.length_append, UInt32.ofNat_add, ← UInt32.add_assoc, ← hProducer]
  rfl

/-- One more entry of a batch is one more request that is charged. -/
theorem schedule_charges {progress : BatchProgress} {producer : UInt32}
    (hActive : progress.next.signalInterval ≠ 0)
    (hProducer : producer = progress.qp.send.counters.head + UInt32.ofNat progress.wqes.length)
    (wr : SendWr) :
    (progress.schedule producer wr).rung (producer + 1) = (progress.rung producer).charge wr := by
  have hSignal : decide (progress.next.unsignaledCount + 1 ≥ progress.next.signalInterval) =
      transportShouldSignal progress.next := by
    rw [transportShouldSignal, if_neg hActive]
  have hHead := Account.handOverAll_head progress.wqes progress.qp.send
  rw [← hProducer] at hHead
  rw [rung_eq hProducer, rung_eq]
  · unfold BatchProgress.schedule
    dsimp only
    rw [hSignal, Account.handOverAll_append]
    simp only [populateSendWqe, Account.handOverAll_relabel]
    simp only [TransportQp.charge, postOne, ringSendDoorbell, populateSendWqe, hHead,
      handOverAll_wrIds, List.foldl_cons, List.foldl_nil, QueueSide.handOver]
  · exact schedule_producer hProducer wr

/-- The entries of a batch, charged one after the other, and the signals among them. -/
theorem scheduleBatch_charges (head : UInt32) {index : UInt32} {progress : BatchProgress}
    (hActive : progress.next.signalInterval ≠ 0)
    (hProducer : head + index =
      progress.qp.send.counters.head + UInt32.ofNat progress.wqes.length)
    (hDone : (scheduleBatch head wrs index progress).1 = true) :
    (scheduleBatch head wrs index progress).2.rung (head + index + UInt32.ofNat wrs.length) =
        wrs.foldl TransportQp.charge (progress.rung (head + index)) ∧
      (scheduleBatch head wrs index progress).2.signalCount +
          UInt32.ofNat (signaledOutstanding (progress.rung (head + index))).length =
        progress.signalCount + UInt32.ofNat (signaledOutstanding
          (wrs.foldl TransportQp.charge (progress.rung (head + index)))).length := by
  induction wrs generalizing index progress with
  | nil => simp [scheduleBatch]
  | cons wr rest ih =>
      unfold scheduleBatch at hDone ⊢
      dsimp only at hDone ⊢
      split at hDone
      · cases hDone
      · rename_i hCredits
        rw [if_neg hCredits]
        have hCharged := schedule_charges hActive hProducer wr
        have hRest := @ih (index + 1) (progress.schedule (head + index) wr) hActive
          (by rw [← UInt32.add_assoc]; exact schedule_producer hProducer wr) hDone
        rw [← UInt32.add_assoc, hCharged] at hRest
        have hProducer' : head + index + UInt32.ofNat (wr :: rest).length =
            head + index + 1 + UInt32.ofNat rest.length := by
          rw [List.length_cons, Nat.add_comm, UInt32.ofNat_add, ← UInt32.add_assoc]
          rfl
        rw [hProducer', List.foldl_cons]
        refine ⟨hRest.1, ?_⟩
        have hSignal : transportShouldSignal progress.next =
            decide (progress.next.unsignaledCount + 1 ≥ progress.next.signalInterval) :=
          if_neg hActive
        have hCount : (progress.schedule (head + index) wr).signalCount =
            progress.signalCount +
              UInt32.ofNat (if transportShouldSignal progress.next then 1 else 0) := by
          rw [BatchProgress.schedule, hSignal]
          dsimp only
          split
          · rfl
          · rfl
        have hOne := charge_pending (progress.rung (head + index)) wr
        change _ = _ + (if transportShouldSignal progress.next then 1 else 0) at hOne
        have hSum := hRest.2
        rw [hOne, hCount, UInt32.ofNat_add] at hSum
        grind

/-- How many requests of a batch are posted. -/
def batchLimit (wrs : List SendWr) (qp : TransportQp) : Nat :=
  min (min wrs.length (sendQueueAvailable qp).toNat) qp.state.sendCredits.toNat

/-- What is posted of a batch is as long as its limit. -/
theorem take_batchLimit (wrs : List SendWr) (qp : TransportQp) :
    (wrs.take (batchLimit wrs qp)).length = batchLimit wrs qp := by
  rw [List.length_take, batchLimit]
  omega

/-- The entries of a batch, written but not handed over. -/
def batchScheduled (wrs : List SendWr) (qp : TransportQp) : Bool × BatchProgress :=
  scheduleBatch qp.send.counters.head (wrs.take (batchLimit wrs qp)) 0
    { next := qp.state
      signalCount := 0
      wqes := []
      qp := qp }

/-- How many of them report a completion. -/
def batchSignals (wrs : List SendWr) (qp : TransportQp) : UInt32 :=
  (batchScheduled wrs qp).2.signalCount

theorem batchScheduled_true (wrs : List SendWr) (qp : TransportQp) :
    (batchScheduled wrs qp).1 = true := by
  apply scheduleBatch_true
  rw [take_batchLimit]
  exact Nat.min_le_right ..

/-- What a batch posts is charged request by request. -/
theorem batchFilled_charges (hActive : qp.state.signalInterval ≠ 0) :
    batchFilled wrs qp = (wrs.take (batchLimit wrs qp)).foldl TransportQp.charge qp ∧
      batchSignals wrs qp + UInt32.ofNat (signaledOutstanding qp).length =
        UInt32.ofNat (signaledOutstanding (batchFilled wrs qp)).length := by
  obtain ⟨hRung, hCount⟩ := @scheduleBatch_charges (wrs.take (batchLimit wrs qp))
    qp.send.counters.head 0 _ hActive (by simp) (batchScheduled_true wrs qp)
  have hStart : BatchProgress.rung
      { next := qp.state
        signalCount := 0
        wqes := []
        qp := qp } (qp.send.counters.head + 0) = qp := by
    rw [UInt32.add_zero]
    rfl
  rw [hStart, take_batchLimit, UInt32.add_zero] at hRung
  rw [hStart, UInt32.zero_add] at hCount
  have hFilled : batchFilled wrs qp =
      (wrs.take (batchLimit wrs qp)).foldl TransportQp.charge qp := hRung
  rw [hFilled]
  exact ⟨rfl, hCount⟩

theorem charges_ready (wrs : List SendWr) (qp : TransportQp) :
    (wrs.foldl TransportQp.charge qp).send.ready = qp.send.ready ∧
      (wrs.foldl TransportQp.charge qp).descriptor = qp.descriptor ∧
      (signaledOutstanding qp).length ≤
        (signaledOutstanding (wrs.foldl TransportQp.charge qp)).length := by
  induction wrs generalizing qp with
  | nil => exact ⟨rfl, rfl, Nat.le_refl _⟩
  | cons wr rest ih =>
      obtain ⟨hReady, hDescriptor, hLength⟩ := ih (qp.charge wr)
      rw [charge_pending] at hLength
      exact ⟨hReady, hDescriptor, Nat.le_trans (Nat.le_add_right ..) hLength⟩

/-- To the view of the sends, a charged batch is a run of posts. -/
theorem charges_sendView (wrs : List SendWr) (qp : TransportQp) :
    (wrs.foldl TransportQp.charge qp).sendView =
      wrs.foldl (SendView.post qp.descriptor.sendQueue.depth) qp.sendView := by
  induction wrs generalizing qp with
  | nil => rfl
  | cons wr rest ih =>
      have hRest := ih (qp.charge wr)
      rw [charge_sendView] at hRest
      exact hRest

/-- The posted part of a batch, once its reports have been awaited. -/
def batchWaited (wrs : List SendWr) (polls : List Arrivals) (qp : TransportQp) :
    Option OperationStatus × TransportQp :=
  let filled := batchFilled wrs qp
  if batchSignals wrs qp ≠ 0 then
    waitForSendCompletion aivReclaimTransportCq
      (filled.state.sendCredits + batchSignals wrs qp * filled.state.signalInterval) polls filled
  else (some .success, filled)

/-- A batch posts nothing, or it posts up to its limit and waits. -/
theorem postPrefix_cases (wrs : List SendWr) (polls : List Arrivals) (qp : TransportQp) :
    ((¬(∀ wr ∈ wrs, aivValidSendWr wr = true) ∨ batchLimit wrs qp = 0) ∧
      ∃ bad status, postPrefix wrs polls qp = ({ status := some status, badWr := some bad }, qp) ∧
        (status = .queueFull → bad = 0) ∧ status ≠ .success) ∨
    ((∀ wr ∈ wrs, aivValidSendWr wr = true) ∧ 0 < batchLimit wrs qp ∧
      (postPrefix wrs polls qp).2 = (batchWaited wrs polls qp).2 ∧
      (postPrefix wrs polls qp).1 =
        if (batchWaited wrs polls qp).1 ≠ some .success then
          { status := (batchWaited wrs polls qp).1, badWr := none }
        else if batchLimit wrs qp ≠ wrs.length then
          { status := some .queueFull, badWr := some (batchLimit wrs qp) }
        else { status := some .success, badWr := none }) := by
  cases hFind : wrs.findIdx? fun wr => !aivValidSendWr wr with
  | some index =>
      left
      have hInvalid : ¬∀ wr ∈ wrs, aivValidSendWr wr = true := by
        intro hValid
        have hNone : (wrs.findIdx? fun wr => !aivValidSendWr wr) = none := by simpa using hValid
        rw [hNone] at hFind
        cases hFind
      refine ⟨.inl hInvalid, index, .invalidArgument, ?_, by simp, by simp⟩
      unfold postPrefix
      simp only [hFind]
  | none =>
      by_cases hNone : batchLimit wrs qp = 0
      · left
        refine ⟨.inr hNone, 0, .queueFull, ?_, fun _ => rfl, by simp⟩
        unfold postPrefix
        simp only [hFind]
        exact if_pos hNone
      · right
        have hKept : ¬(!(batchScheduled wrs qp).1) = true := by
          rw [batchScheduled_true]
          decide
        have hPosted : postPrefix wrs polls qp =
            finishBatch wrs.length (batchLimit wrs qp) qp.send.counters.head
              (batchScheduled wrs qp).2 polls := by
          unfold postPrefix
          simp only [hFind]
          exact (if_neg hNone).trans (if_neg hKept)
        have hValid : ∀ wr ∈ wrs, aivValidSendWr wr = true := by simpa using hFind
        have hFinished : finishBatch wrs.length (batchLimit wrs qp) qp.send.counters.head
            (batchScheduled wrs qp).2 polls =
            if (batchWaited wrs polls qp).1 ≠ some .success then
              ({ status := (batchWaited wrs polls qp).1, badWr := none },
                (batchWaited wrs polls qp).2)
            else if batchLimit wrs qp ≠ wrs.length then
              ({ status := some .queueFull, badWr := some (batchLimit wrs qp) },
                (batchWaited wrs polls qp).2)
            else ({ status := some .success, badWr := none }, (batchWaited wrs polls qp).2) := rfl
        refine ⟨hValid, Nat.pos_of_ne_zero hNone, ?_⟩
        rw [hPosted, hFinished]
        split
        · exact ⟨rfl, rfl⟩
        · split
          · exact ⟨rfl, rfl⟩
          · exact ⟨rfl, rfl⟩

variable {polls : List Arrivals}

/-- A poll that cannot read the queue ends every wait. -/
theorem wait_unreadable {target : UInt32} (hReadable : ¬sendCqReadable qp.descriptor)
    (hWaiting : qp.state.sendCredits < target) :
    (waitForSendCompletion aivReclaimTransportCq target polls qp).1 ≠ some .success := by
  cases polls with
  | nil =>
      rw [waitForSendCompletion, if_pos hWaiting]
      simp
  | cons arrivals rest =>
      rw [waitForSendCompletion, if_pos hWaiting, aivReclaim_unreadable hReadable]
      simp

theorem batchFilled_descriptor (h : account.Exact qp) :
    (batchFilled wrs qp).descriptor = qp.descriptor := by
  rw [(batchFilled_exact h).1.descriptor_eq, h.descriptor_eq]

theorem batchWaited_exact (h : account.Exact qp) :
    account.Exact (batchWaited wrs polls qp).2 := by
  have hFilled := (@batchFilled_exact account qp wrs h).1
  unfold batchWaited
  dsimp only
  split
  · exact Account.waitForSendCompletion_keeps (Account.aivReclaimTransportCq_keeps account) hFilled
      _ polls
  · exact hFilled

/-- Without older reports, a batch waits for all the reports of its queue pair. -/
theorem batchWaited_eq (h : account.Exact qp) (hNone : signaledOutstanding qp = []) :
    batchWaited wrs polls qp =
      waitForSendCompletion aivReclaimTransportCq (fullCredits (batchFilled wrs qp)) polls
        (batchFilled wrs qp) := by
  have hFilled := (@batchFilled_exact account qp wrs h).1
  have hActive : qp.state.signalInterval ≠ 0 := by
    rw [h.interval_eq]
    decide
  obtain ⟨-, hCount⟩ := @batchFilled_charges qp wrs hActive
  rw [hNone] at hCount
  change batchSignals wrs qp + 0 = _ at hCount
  rw [UInt32.add_zero] at hCount
  unfold batchWaited
  dsimp only
  split
  · rw [fullCredits, ← hCount, hFilled.interval_eq]
  · rename_i hZero
    have hBound := credits_add_pending hFilled
    have hEmpty := congrArg UInt32.toNat (hCount.symm.trans (Decidable.of_not_not hZero))
    rw [UInt32.toNat_ofNat'] at hEmpty
    change _ = 0 at hEmpty
    rw [wait_paid hFilled]
    apply List.eq_nil_of_length_eq_zero
    omega

/-- A batch on a quiet queue meets no failed report. -/
theorem batchFilled_good (h : account.Exact qp) (hNone : signaledOutstanding qp = []) :
    (batchFilled wrs qp).send.Good := by
  have hActive : qp.state.signalInterval ≠ 0 := by
    rw [h.interval_eq]
    decide
  intro cqe hCqe
  rw [(batchFilled_charges hActive).1, (charges_ready _ qp).1,
    (List.append_eq_nil_iff.mp hNone).1] at hCqe
  cases hCqe

/-- The wait of a batch that returns has polled all of its reports. -/
theorem batchWaited_quiet (h : account.Exact qp) (hQuiet : qp.Quiet)
    (hPolls : ∀ arrivals ∈ polls, arrivals.Good)
    (hReturned : (batchWaited wrs polls qp).1 ≠ none) : (batchWaited wrs polls qp).2.Quiet := by
  intro hReadable
  rw [(batchWaited_exact h).descriptor_eq, ← h.descriptor_eq] at hReadable
  have hNone := hQuiet hReadable
  rw [batchWaited_eq h hNone] at hReturned ⊢
  exact (wait_done (batchFilled_exact h).1 (batchFilled_descriptor h ▸ hReadable)
    (batchFilled_good h hNone) hPolls hReturned).2

/-- A batch that has succeeded leaves what its requests come to. Where reports
cannot be read, there was none among them. -/
theorem batchWaited_settles (h : account.Exact qp) (hQuiet : qp.Quiet)
    (hPolls : ∀ arrivals ∈ polls, arrivals.Good)
    (hSuccess : (batchWaited wrs polls qp).1 = some .success) :
    (batchWaited wrs polls qp).2.sendView =
        (batchFilled wrs qp).sendView.settle qp.descriptor ∧
      (¬sendCqReadable qp.descriptor →
        (signaledOutstanding (batchFilled wrs qp)).length = (signaledOutstanding qp).length) := by
  have hFilled := (@batchFilled_exact account qp wrs h).1
  have hDescriptor := @batchFilled_descriptor account qp wrs h
  have hActive : qp.state.signalInterval ≠ 0 := by
    rw [h.interval_eq]
    decide
  obtain ⟨hCharges, hCount⟩ := @batchFilled_charges qp wrs hActive
  constructor
  · have hWaited := batchWaited_quiet h hQuiet hPolls (by rw [hSuccess]; simp)
    have hSettled := hWaited.settle_eq
    rw [(batchWaited_exact h).descriptor_eq, ← h.descriptor_eq] at hSettled
    rw [← hSettled, batchWaited, ← hDescriptor]
    split
    · exact settle_wait _ polls (batchFilled wrs qp)
    · rfl
  · intro hReadable
    have hBound := credits_add_pending hFilled
    have hMore := (charges_ready (wrs.take (batchLimit wrs qp)) qp).2.2
    rw [← hCharges] at hMore
    have hSignals : (batchSignals wrs qp).toNat =
        (signaledOutstanding (batchFilled wrs qp)).length - (signaledOutstanding qp).length := by
      have hSum := congrArg UInt32.toNat hCount
      have hWord := (batchSignals wrs qp).toNat_lt
      simp only [UInt32.toNat_add, UInt32.toNat_ofNat'] at hSum
      omega
    by_contra hDifferent
    have hSome : batchSignals wrs qp ≠ 0 := by
      intro hZero
      rw [hZero] at hSignals
      change 0 = _ at hSignals
      omega
    have hWaiting : (batchFilled wrs qp).state.sendCredits <
        (batchFilled wrs qp).state.sendCredits +
          batchSignals wrs qp * (batchFilled wrs qp).state.signalInterval := by
      have hInterval : kTransportSignalInterval.toNat = 32 := rfl
      rw [UInt32.lt_iff_toNat_lt, hFilled.interval_eq]
      simp only [UInt32.toNat_add, UInt32.toNat_mul, hSignals, hInterval]
      omega
    rw [batchWaited, if_pos hSome] at hSuccess
    exact wait_unreadable (hDescriptor ▸ hReadable) hWaiting hSuccess

/-- Without reports, a poll of a readable queue finds nothing. -/
theorem reclaim_quiet (hNone : signaledOutstanding qp = [])
    (hReadable : sendCqReadable qp.descriptor) (arrivals : Arrivals) :
    (aivReclaimTransportCq true arrivals qp).1 = .success ∧
      (aivReclaimTransportCq true arrivals qp).2.sendView = qp.sendView ∧
      signaledOutstanding (aivReclaimTransportCq true arrivals qp).2 = [] := by
  obtain ⟨hStatus, -, -, hView⟩ := aivReclaim_readable hReadable arrivals
  have hPending : qp.sendView.pending = [] := TransportQp.pending_eq_nil.mpr hNone
  have hArrived : (qp.arrive arrivals).sendView.pending = [] := by
    rw [sendView_arrive]
    exact hPending
  have hEmpty : (qp.arrive arrivals).send.ready = [] :=
    (List.append_eq_nil_iff.mp (TransportQp.pending_eq_nil.mp hArrived)).1
  rw [SendView.poll_all hPending] at hView
  rw [hEmpty] at hStatus
  refine ⟨hStatus, hView, ?_⟩
  rw [← TransportQp.pending_eq_nil, hView]
  exact hPending

/-- A batch is rejected, or it goes on with the records it has found. -/
theorem batch_reclaims (h : account.Exact qp) (hQuiet : qp.Quiet) (wrs : List SendWr)
    (first : Arrivals) (polls : List Arrivals) :
    ((aivRdmaSendBatch wrs first polls qp).1 = { status := some .invalidArgument, badWr := none } ∧
      (aivRdmaSendBatch wrs first polls qp).2.Quiet) ∨
    ∃ found, aivRdmaSendBatch wrs first polls qp = postPrefix wrs polls found ∧
      account.Exact found ∧ found.Quiet ∧ found.sendView = qp.sendView ∧
      1 < qp.descriptor.sendQueue.depth := by
  unfold aivRdmaSendBatch aivPostTransportSendBatch
  dsimp only
  split
  · exact .inl ⟨rfl, hQuiet⟩
  · rename_i hChecked
    have hDeep : 1 < qp.descriptor.sendQueue.depth := by
      simp only [not_or, UInt32.not_le] at hChecked
      exact hChecked.2.2.2.2
    by_cases hNeeded : sendQueueAvailable qp = 0 ∨ qp.state.sendCredits = 0
    · rw [if_pos hNeeded]
      by_cases hReadable : sendCqReadable qp.descriptor
      · obtain ⟨hStatus, hView, hNone⟩ := reclaim_quiet (hQuiet hReadable) hReadable first
        rw [if_neg (not_not.mpr hStatus)]
        exact .inr ⟨_, rfl, Account.aivReclaimTransportCq_keeps account true first qp h,
          fun _ => hNone, hView, hDeep⟩
      · rw [aivReclaim_unreadable hReadable]
        exact .inl ⟨rfl, fun hOther => absurd hOther hReadable⟩
    · rw [if_neg hNeeded]
      exact .inr ⟨qp, rfl, h, hQuiet, rfl, hDeep⟩

end Batches

/-- How many requests of a batch are posted, by its outcome. -/
def BatchOutcome.Posts (outcome : BatchOutcome) (count posted : Nat) : Prop :=
  outcome = { status := some .success, badWr := none } ∧ posted = count ∨
    outcome = { status := some .queueFull, badWr := some posted }

section Outcomes

variable {account : Account} {qp : TransportQp} {wrs : List SendWr} {first : Arrivals}
  {polls : List Arrivals} {posted : Nat}

/-- A batch that reports its posts was posted as far as it fits. -/
theorem postPrefix_posts (hPosts : (postPrefix wrs polls qp).1.Posts wrs.length posted) :
    (postPrefix wrs polls qp).2 = qp ∧ posted = 0 ∨
      (∀ wr ∈ wrs, aivValidSendWr wr = true) ∧ posted = batchLimit wrs qp ∧
        (batchWaited wrs polls qp).1 = some .success ∧
        (postPrefix wrs polls qp).2 = (batchWaited wrs polls qp).2 := by
  rcases postPrefix_cases wrs polls qp with ⟨-, bad, status, hWhole, hBad, hFailed⟩ |
    ⟨hValid, -, hFinish, hOutcome⟩
  · left
    rw [hWhole] at hPosts ⊢
    rcases hPosts with ⟨hSuccess, -⟩ | hFull
    · cases hSuccess
    · cases hFull
      exact ⟨rfl, hBad rfl⟩
  · right
    rw [hOutcome] at hPosts
    split at hPosts
    · rename_i hWaited
      rcases hPosts with ⟨hSuccess, -⟩ | hFull
      · exact absurd (congrArg BatchOutcome.status hSuccess) hWaited
      · cases congrArg BatchOutcome.badWr hFull
    · rename_i hWaited
      refine ⟨hValid, ?_, Decidable.of_not_not hWaited, hFinish⟩
      split at hPosts
      · rcases hPosts with ⟨hSuccess, -⟩ | hFull
        · cases hSuccess
        · cases hFull
          rfl
      · rename_i hAll
        rcases hPosts with ⟨-, hCount⟩ | hFull
        · rw [hCount]
          exact (Decidable.of_not_not hAll).symm
        · cases hFull

/-- The room in a queue depends on the view of its sends. -/
theorem available_eq {found : TransportQp} (hView : found.sendView = qp.sendView)
    (hDescriptor : found.descriptor = qp.descriptor) :
    sendQueueAvailable found = sendQueueAvailable qp := by
  have hCounters : found.send.counters = qp.send.counters := congrArg SendView.counters hView
  rw [sendQueueAvailable, hCounters, hDescriptor]
  rfl

/-- What a batch leaves behind: the posted requests, settled. -/
theorem batch_settles (h : account.Exact qp) (hQuiet : qp.Quiet)
    (hPolls : ∀ arrivals ∈ polls, arrivals.Good)
    (hPosts : (aivRdmaSendBatch wrs first polls qp).1.Posts wrs.length posted) :
    1 < qp.descriptor.sendQueue.depth ∧ posted ≤ (sendQueueAvailable qp).toNat ∧
      (∀ wr ∈ wrs.take posted, aivValidSendWr wr = true) ∧
      (aivRdmaSendBatch wrs first polls qp).2.sendView =
        ((wrs.take posted).foldl (SendView.post qp.descriptor.sendQueue.depth) qp.sendView).settle
          qp.descriptor ∧
      (¬sendCqReadable qp.descriptor →
        ((wrs.take posted).foldl (SendView.post qp.descriptor.sendQueue.depth)
          qp.sendView).pending.length = qp.sendView.pending.length) := by
  rcases batch_reclaims h hQuiet wrs first polls with ⟨hRejected, -⟩ |
    ⟨found, hBatch, hFound, hFoundQuiet, hView, hDeep⟩
  · rw [hRejected] at hPosts
    rcases hPosts with ⟨hSuccess, -⟩ | hFull
    · cases hSuccess
    · cases hFull
  · have hDescriptor : found.descriptor = qp.descriptor := by
      rw [hFound.descriptor_eq, h.descriptor_eq]
    rw [hBatch] at hPosts ⊢
    refine ⟨hDeep, ?_⟩
    rcases postPrefix_posts hPosts with ⟨hSame, rfl⟩ | ⟨hValid, rfl, hSuccess, hFinish⟩
    · rw [hSame, List.take_zero, hView]
      exact ⟨Nat.zero_le _, by simp, hQuiet.settle_eq.symm, fun _ => rfl⟩
    · have hActive : found.state.signalInterval ≠ 0 := by
        rw [hFound.interval_eq]
        decide
      have hFilled : (batchFilled wrs found).sendView =
          (wrs.take (batchLimit wrs found)).foldl
            (SendView.post qp.descriptor.sendQueue.depth) qp.sendView := by
        rw [(batchFilled_charges hActive).1, charges_sendView, hView, hDescriptor]
      obtain ⟨hSettled, hSilent⟩ := batchWaited_settles hFound hFoundQuiet hPolls hSuccess
      rw [hFinish, hSettled, hFilled, hDescriptor]
      refine ⟨?_, fun wr hWr => hValid wr (List.mem_of_mem_take hWr), rfl, fun hUnreadable => ?_⟩
      · rw [← available_eq hView hDescriptor, batchLimit]
        omega
      · have hLength := hSilent (hDescriptor ▸ hUnreadable)
        rw [← hFilled, ← hView]
        simpa only [TransportQp.sendView, List.length_map] using hLength

end Outcomes

end NdsStorage.Client
