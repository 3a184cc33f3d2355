import NdsStorage.Client.BatchSends

/-! A batch of the vector core against single sends of the same requests. Both
write the same entries and end with the same records, and the single sends find
room, as long as the low bits of a report determine the tail. A single send
relies on the tail that the last report has left, while a batch looks at the
tail only once. -/
namespace NdsStorage.Client

/-- A single send with the completions that arrive while it is called. -/
structure SingleSend where
  wr : SendWr
  first : Arrivals
  polls : List Arrivals

/-- Should the send be signaled, its completion arrives, and it is a success. -/
def SingleSend.Completes (call : SingleSend) : Prop :=
  (∀ arrivals ∈ call.polls, arrivals.Good) ∧ ∃ arrivals ∈ call.polls, arrivals.send ≠ []

/-- One single send after the other. -/
def sendEach (returnValue : Bool) :
    List SingleSend → TransportQp → List (Option OperationStatus) × TransportQp
  | [], qp => ([], qp)
  | call :: rest, qp =>
      let sent := aivRdmaSend returnValue call.wr call.first call.polls qp
      let later := sendEach returnValue rest sent.2
      (sent.1 :: later.1, later.2)

section Rows

variable {account : Account} {qp : TransportQp} {wr : SendWr} {first : Arrivals}
  {polls : List Arrivals}

theorem posts_pending (depth : UInt32) (wrs : List SendWr) (view : SendView) :
    view.pending.length ≤ (wrs.foldl (SendView.post depth) view).pending.length := by
  induction wrs generalizing view with
  | nil => exact Nat.le_refl _
  | cons wr rest ih =>
      apply Nat.le_trans _ (ih (view.post depth wr))
      rw [SendView.post]
      dsimp only
      split
      · simp
      · exact Nat.le_refl _

/-- A single send uses up at most one more entry of its queue. -/
theorem single_outstanding (h : account.Exact qp) (hCredits : qp.state.sendCredits ≠ 0)
    {sent : TransportQp} (hSent : account.Exact sent)
    (hView : sent.sendView =
      (qp.sendView.post qp.descriptor.sendQueue.depth wr).settle qp.descriptor) :
    sent.send.outstanding ≤ qp.send.outstanding + 1 := by
  have hCharged := charge_exact h hCredits wr
  have hPaid : (qp.charge wr).state.sendCredits.toNat ≤ sent.state.sendCredits.toNat := by
    have hState : sent.state = ((qp.charge wr).sendView.settle qp.descriptor).state := by
      rw [charge_sendView, ← hView]
      rfl
    rw [hState]
    by_cases hReadable : sendCqReadable qp.descriptor
    · have hFull := fullCredits_eq hCharged hReadable
      change fullCredits (qp.charge wr) =
        ((qp.charge wr).sendView.settle qp.descriptor).state.sendCredits
        at hFull
      rw [← hFull, fullCredits_toNat hCharged]
      exact Nat.le_add_right ..
    · rw [SendView.settle, if_neg hReadable]
      exact Nat.le_refl _
  have hBefore := h.send.credits_eq
  have hAfter := hSent.send.credits_eq
  have hCharge : (qp.charge wr).state.sendCredits.toNat = qp.state.sendCredits.toNat - 1 :=
    Account.toNat_pred (Nat.pos_of_ne_zero fun hZero => hCredits (UInt32.toNat_inj.mp hZero))
  omega

/-- With room for one more request, a single send is not refused. -/
theorem room_to_send (hTracked : account.tracked)
    (hExported : account.descriptor.sendQueue.depth = account.sendDepth)
    (h : account.Exact qp) (hRoom : qp.send.outstanding + 1 ≤ account.sendDepth.toNat - 1) :
    qp.state.sendCredits ≠ 0 ∧ ¬(qp.descriptor.sendQueue.depth ≤ 1 ∨
      qp.send.counters.head - qp.send.counters.tail ≥ qp.descriptor.sendQueue.depth - 1) := by
  have hDepth : qp.descriptor.sendQueue.depth = account.sendDepth := by
    rw [h.descriptor_eq, hExported]
  have hBalance := h.send.credits_eq
  have hDeep : 2 ≤ account.sendDepth := by
    rw [UInt32.le_iff_toNat_le]
    show 2 ≤ account.sendDepth.toNat
    omega
  constructor
  · intro hZero
    rw [hZero] at hBalance
    change 0 + _ = _ at hBalance
    omega
  · rw [hDepth, not_or, UInt32.not_le]
    refine ⟨UInt32.lt_of_lt_of_le (by decide) hDeep, fun hFull => ?_⟩
    have hUsed := outstanding_of_counters h hTracked hDeep hFull
    omega

/-- A send that is not refused keeps the account, also without a place for its
return value. -/
theorem single_exact (returnValue : Bool) (call : SingleSend) (h : account.Exact qp)
    (hWr : aivValidSendWr call.wr = true) (hCredits : qp.state.sendCredits ≠ 0)
    (hFree : ¬(qp.descriptor.sendQueue.depth ≤ 1 ∨
      qp.send.counters.head - qp.send.counters.tail ≥ qp.descriptor.sendQueue.depth - 1)) :
    account.Exact (aivRdmaSend returnValue call.wr call.first call.polls qp).2 := by
  have hActive : qp.state.signalInterval ≠ 0 := by
    rw [h.interval_eq]
    decide
  have hSame : aivRdmaSend returnValue call.wr call.first call.polls qp =
      aivRdmaSend true call.wr call.first call.polls qp := by
    rw [aivSend_charges returnValue hActive hWr hCredits hFree,
      aivSend_charges true hActive hWr hCredits hFree]
  rw [hSame]
  exact h.step (by simp) (.aivSend call.wr call.first call.polls (.inl rfl))

/-- Single sends that find room all succeed, and each leaves what it comes to. -/
theorem sendEach_settles (returnValue : Bool) {calls : List SingleSend} (hTracked : account.tracked)
    (hExported : account.descriptor.sendQueue.depth = account.sendDepth)
    (h : account.Exact qp) (hQuiet : qp.Quiet)
    (hRoom : calls.length ≤ account.sendDepth.toNat - 1 - qp.send.outstanding)
    (hValid : ∀ call ∈ calls, aivValidSendWr call.wr = true)
    (hCompletes : ∀ call ∈ calls, call.Completes)
    (hSilent : ¬sendCqReadable account.descriptor →
      ((calls.map SingleSend.wr).foldl (SendView.post account.sendDepth)
        qp.sendView).pending.length = qp.sendView.pending.length) :
    (∀ status ∈ (sendEach returnValue calls qp).1, status = some .success) ∧
      (sendEach returnValue calls qp).2.sendView =
        (calls.map SingleSend.wr).foldl
          (fun view wr => (view.post account.sendDepth wr).settle account.descriptor)
          qp.sendView := by
  induction calls generalizing qp with
  | nil => exact ⟨by simp [sendEach], rfl⟩
  | cons call rest ih =>
      have hDepth : qp.descriptor.sendQueue.depth = account.sendDepth := by
        rw [h.descriptor_eq, hExported]
      rw [List.length_cons] at hRoom
      obtain ⟨hCredits, hFree⟩ := room_to_send hTracked hExported h (by omega)
      -- A signal among the requests would leave one more report behind.
      have hPosts := posts_pending account.sendDepth (rest.map SingleSend.wr)
        (qp.sendView.post account.sendDepth call.wr)
      have hReports : transportShouldSignal qp.state = true → sendCqReadable qp.descriptor := by
        intro hSignaled
        by_contra hUnreadable
        have hSame := hSilent (h.descriptor_eq ▸ hUnreadable)
        have hMore : (qp.sendView.post account.sendDepth call.wr).pending.length =
            qp.sendView.pending.length + 1 := by
          have hPending : (qp.sendView.post account.sendDepth call.wr).pending =
              qp.sendView.pending ++ [qp.sendView.counters.head &&& 0xffff] := if_pos hSignaled
          rw [hPending, List.length_append, List.length_singleton]
        rw [List.map_cons, List.foldl_cons] at hSame
        omega
      obtain ⟨hGood, hArrives⟩ := hCompletes call List.mem_cons_self
      have hWr := hValid call List.mem_cons_self
      obtain ⟨hStatus, hView, hNext⟩ := @single_settles account qp call.wr call.first call.polls
        returnValue h hQuiet hReports hWr hCredits hFree hGood hArrives
      have hSent := single_exact returnValue call h hWr hCredits hFree
      have hOne := single_outstanding h hCredits hSent hView
      rw [hDepth, h.descriptor_eq] at hView
      have hRest := ih hSent hNext (by omega)
        (fun other hOther => hValid other (List.mem_cons_of_mem _ hOther))
        (fun other hOther => hCompletes other (List.mem_cons_of_mem _ hOther)) (by
          intro hUnreadable
          have hSame := hSilent hUnreadable
          have hThis := posts_pending account.sendDepth [call.wr] qp.sendView
          rw [hView, SendView.settle, if_neg hUnreadable]
          rw [List.map_cons, List.foldl_cons] at hSame
          rw [List.foldl_cons, List.foldl_nil] at hThis
          omega)
      rw [hView] at hRest
      constructor
      · intro status hStatuses
        rcases List.mem_cons.mp hStatuses with rfl | hLater
        · exact hStatus
        · exact hRest.1 status hLater
      · exact hRest.2

end Rows

/-- Operations of the vector core that have returned, where every completion
that arrives during a wait is a success and no post is refused unseen. -/
inductive TransportQp.Returned : TransportQp → TransportQp → Prop
  | arrive {qp : TransportQp} {arrivals : Arrivals} : Returned qp (qp.arrive arrivals)
  | send {qp : TransportQp} {returnValue : Bool} {wr : SendWr} {first : Arrivals}
      {polls : List Arrivals} (hSeen : returnValue = true ∨ ¬PostRefused wr first qp)
      (hPolls : ∀ arrivals ∈ polls, arrivals.Good)
      (hReturned : (aivRdmaSend returnValue wr first polls qp).1 ≠ none) :
      Returned qp (aivRdmaSend returnValue wr first polls qp).2
  | read {qp : TransportQp} {returnValue : Bool} {wr : SendWr} {first : Arrivals}
      {polls : List Arrivals} (hSeen : returnValue = true ∨ ¬PostRefused wr first qp)
      (hPolls : ∀ arrivals ∈ polls, arrivals.Good)
      (hReturned : (aivRdmaRead returnValue wr first polls qp).1 ≠ none) :
      Returned qp (aivRdmaRead returnValue wr first polls qp).2
  | write {qp : TransportQp} {returnValue : Bool} {wr : SendWr} {first : Arrivals}
      {polls : List Arrivals} (hSeen : returnValue = true ∨ ¬PostRefused wr first qp)
      (hPolls : ∀ arrivals ∈ polls, arrivals.Good)
      (hReturned : (aivRdmaWrite returnValue wr first polls qp).1 ≠ none) :
      Returned qp (aivRdmaWrite returnValue wr first polls qp).2
  | sendBatch {qp : TransportQp} {wrs : List SendWr} {first : Arrivals} {polls : List Arrivals}
      (hPolls : ∀ arrivals ∈ polls, arrivals.Good)
      (hReturned : (aivRdmaSendBatch wrs first polls qp).1.status ≠ none) :
      Returned qp (aivRdmaSendBatch wrs first polls qp).2
  | recv {qp : TransportQp} {wr : RecvWr} {first : Arrivals} :
      Returned qp (aivRdmaRecv wr first qp).2

/-- A returned call is one of the steps of the credits. -/
theorem TransportQp.Returned.step {qp next : TransportQp} (h : qp.Returned next) :
    TransportQp.Step .aiv qp next := by
  cases h with
  | arrive => exact .arrive _
  | send hSeen hPolls hReturned => exact .aivSend _ _ _ hSeen
  | read hSeen hPolls hReturned => exact .aivRead _ _ _ hSeen
  | write hSeen hPolls hReturned => exact .aivWrite _ _ _ hSeen
  | sendBatch hPolls hReturned => exact .aivSendBatch _ _ _
  | recv => exact .aivRecv _ _

section Runs

variable {account : Account} {qp : TransportQp} {wr : SendWr} {first : Arrivals}
  {polls : List Arrivals}

/-- A send that is not accepted leaves the queue pair as it is. -/
theorem aivSend_refused (hActive : qp.state.signalInterval ≠ 0)
    (hCredits : qp.state.sendCredits ≠ 0)
    (hRefused : ¬aivValidSendWr wr = true ∨ qp.descriptor.sendQueue.depth ≤ 1 ∨
      qp.send.counters.head - qp.send.counters.tail ≥ qp.descriptor.sendQueue.depth - 1) :
    aivRdmaSend true wr first polls qp =
      (some (aivPostSend (wr.scheduled (transportShouldSignal qp.state)) qp).1, qp) := by
  have hPosted : (aivPostSend (wr.scheduled (transportShouldSignal qp.state)) qp).1 ≠ .success ∧
      (aivPostSend (wr.scheduled (transportShouldSignal qp.state)) qp).2 = qp := by
    unfold aivPostSend
    dsimp only
    by_cases hInvalid : (!aivValidSendWr (wr.scheduled (transportShouldSignal qp.state))) = true
    · rw [if_pos hInvalid]
      simp
    · rw [if_neg hInvalid]
      have hFull := hRefused.resolve_left fun hOther => hInvalid (by
        rw [Bool.not_eq_true']
        exact Bool.eq_false_iff.mpr hOther)
      rw [if_pos hFull]
      simp
  have hFirst : reclaimIfNeeded aivReclaimTransportCq true first qp = (.success, qp) :=
    if_pos hCredits
  unfold aivRdmaSend aivPostTransportSend devicePostSend
  rw [if_neg hActive, hFirst]
  simp only [ne_eq, not_true_eq_false, if_false, if_neg hCredits, if_true, if_pos hPosted.1,
    hPosted.2]

/-- A send that was accepted has settled all it had signaled. -/
theorem accepted_quiet (h : account.Exact qp) (hQuiet : qp.Quiet)
    (hCredits : qp.state.sendCredits ≠ 0) (hPolls : ∀ arrivals ∈ polls, arrivals.Good)
    (hReturned : (aivRdmaSend true wr first polls qp).1 ≠ none) :
    (aivRdmaSend true wr first polls qp).2.Quiet := by
  have hActive : qp.state.signalInterval ≠ 0 := by
    rw [h.interval_eq]
    decide
  by_cases hRefused : ¬aivValidSendWr wr = true ∨ qp.descriptor.sendQueue.depth ≤ 1 ∨
      qp.send.counters.head - qp.send.counters.tail ≥ qp.descriptor.sendQueue.depth - 1
  · rw [aivSend_refused hActive hCredits hRefused]
    exact hQuiet
  · rw [not_or, not_not] at hRefused
    have hSent := h.step (by simp) (.aivSend wr first polls (.inl rfl))
    intro hReadable
    rw [hSent.descriptor_eq, ← h.descriptor_eq] at hReadable
    have hNone := hQuiet hReadable
    have hPending := charge_pending qp wr
    rw [aivSend_charges true hActive hRefused.1 hCredits hRefused.2] at hReturned ⊢
    split
    · rename_i hSignaled
      obtain ⟨hTarget, -, hEmpty⟩ := charge_fullCredits h hNone hSignaled
      have hGood : (qp.charge wr).send.Good := by
        intro cqe hCqe
        rw [hEmpty] at hCqe
        cases hCqe
      rw [if_pos hSignaled, hTarget] at hReturned
      rw [hTarget]
      exact (wait_done (charge_exact h hCredits wr) hReadable hGood hPolls hReturned).2
    · rename_i hSilent
      rw [if_neg hSilent, hNone] at hPending
      exact List.eq_nil_of_length_eq_zero hPending

theorem send_quiet {returnValue : Bool} (h : account.Exact qp) (hQuiet : qp.Quiet)
    (hSeen : returnValue = true ∨ ¬PostRefused wr first qp)
    (hPolls : ∀ arrivals ∈ polls, arrivals.Good)
    (hReturned : (aivRdmaSend returnValue wr first polls qp).1 ≠ none) :
    (aivRdmaSend returnValue wr first polls qp).2.Quiet := by
  have hSame : aivRdmaSend returnValue wr first polls qp = aivRdmaSend true wr first polls qp :=
    aivPostTransportSend_seen hSeen polls
  rw [hSame] at hReturned ⊢
  by_cases hCredits : qp.state.sendCredits = 0
  · have hSent := h.step (by simp) (.aivSend wr first polls (.inl rfl))
    intro hReadable
    rw [hSent.descriptor_eq, ← h.descriptor_eq] at hReadable
    obtain ⟨hStatus, hView, hNone⟩ := reclaim_quiet (hQuiet hReadable) hReadable first
    have hState : (aivReclaimTransportCq true first qp).2.state = qp.state :=
      congrArg SendView.state hView
    have hFirst : reclaimIfNeeded aivReclaimTransportCq true first qp =
        aivReclaimTransportCq true first qp := if_neg (not_not.mpr hCredits)
    have hActive : qp.state.signalInterval ≠ 0 := by
      rw [h.interval_eq]
      decide
    unfold aivRdmaSend aivPostTransportSend devicePostSend
    rw [if_neg hActive, hFirst]
    simp only [hStatus, ne_eq, not_true_eq_false, if_false, hState, hCredits, if_true]
    exact hNone
  · exact accepted_quiet h hQuiet hCredits hPolls hReturned

theorem sendBatch_quiet {wrs : List SendWr} (h : account.Exact qp) (hQuiet : qp.Quiet)
    (hPolls : ∀ arrivals ∈ polls, arrivals.Good)
    (hReturned : (aivRdmaSendBatch wrs first polls qp).1.status ≠ none) :
    (aivRdmaSendBatch wrs first polls qp).2.Quiet := by
  rcases batch_reclaims h hQuiet wrs first polls with ⟨-, hRejected⟩ |
    ⟨found, hBatch, hFound, hFoundQuiet, -, -⟩
  · exact hRejected
  · rw [hBatch] at hReturned ⊢
    rcases postPrefix_cases wrs polls found with ⟨-, bad, status, hWhole, -, -⟩ |
      ⟨-, -, hFinish, hOutcome⟩
    · rw [hWhole]
      exact hFoundQuiet
    · rw [hFinish]
      apply batchWaited_quiet hFound hFoundQuiet hPolls
      intro hNone
      rw [hOutcome, hNone] at hReturned
      exact hReturned rfl

/-- A receive leaves the reports of the send queue alone. -/
theorem recv_send (wr : RecvWr) (first : Arrivals) (qp : TransportQp) :
    (aivRdmaRecv wr first qp).2.send = qp.send ∨
      (aivRdmaRecv wr first qp).2.send = (qp.arrive first).send := by
  have hFirst : (reclaimIfNeeded aivReclaimTransportCq false first qp).2.send = qp.send ∨
      (reclaimIfNeeded aivReclaimTransportCq false first qp).2.send = (qp.arrive first).send := by
    unfold reclaimIfNeeded
    split
    · exact .inl rfl
    · right
      unfold aivReclaimTransportCq
      dsimp only
      split
      · rfl
      · rfl
  have hPost : ∀ found, (aivPostRecv wr found).2.send = found.send := by
    intro found
    unfold aivPostRecv
    split
    · rfl
    · rfl
  unfold aivRdmaRecv devicePostRecv
  generalize reclaimIfNeeded aivReclaimTransportCq false first qp = reclaimed at hFirst ⊢
  dsimp only
  split
  · exact hFirst
  split
  · exact hFirst
  split
  · rw [hPost]
    exact hFirst
  split
  · rw [hPost]
    exact hFirst
  · show (aivPostRecv wr reclaimed.2).2.send = _ ∨ (aivPostRecv wr reclaimed.2).2.send = _
    rw [hPost]
    exact hFirst

/-- Without signaled requests nothing can arrive. -/
theorem arrive_quiet (hQuiet : qp.Quiet) (arrivals : Arrivals) : (qp.arrive arrivals).Quiet := by
  intro hReadable
  rw [← TransportQp.pending_eq_nil, sendView_arrive]
  exact TransportQp.pending_eq_nil.mpr (hQuiet hReadable)

/-- Between two operations every report has been polled. -/
theorem TransportQp.Returned.quiet {next : TransportQp} (hStep : qp.Returned next)
    (h : account.Exact qp) (hQuiet : qp.Quiet) : next.Quiet := by
  have hNext := h.step (by simp) hStep.step
  cases hStep with
  | arrive => exact arrive_quiet hQuiet _
  | send hSeen hPolls hReturned => exact send_quiet h hQuiet hSeen hPolls hReturned
  | read hSeen hPolls hReturned => exact send_quiet h hQuiet hSeen hPolls hReturned
  | write hSeen hPolls hReturned => exact send_quiet h hQuiet hSeen hPolls hReturned
  | sendBatch hPolls hReturned => exact sendBatch_quiet h hQuiet hPolls hReturned
  | @recv wr first =>
      intro hReadable
      rw [hNext.descriptor_eq, ← h.descriptor_eq] at hReadable
      rcases recv_send wr first qp with hSame | hArrived
      · rw [signaledOutstanding, hSame]
        exact hQuiet hReadable
      · rw [signaledOutstanding, hArrived]
        exact arrive_quiet hQuiet first hReadable

/-- Every state that returned operations reach. -/
def TransportQp.ReturnedRun : TransportQp → TransportQp → Prop :=
  Relation.ReflTransGen TransportQp.Returned

end Runs

section Prefix

variable {config : QpConfig} {start qp : TransportQp} {wrs : List SendWr} {first : Arrivals}
  {polls : List Arrivals} {posted : Nat} {calls : List SingleSend}

theorem opened_quiet (hOpened : start.Opened config) : start.Quiet := by
  obtain ⟨begin, consumer, wrIds, hIdle⟩ := hOpened.send_idle
  intro _
  rw [signaledOutstanding, hIdle]
  rfl

/-- Returned calls leave nothing behind that is signaled. -/
theorem returnedRun_quiet (hOpened : start.Opened config) (hRun : start.ReturnedRun qp) :
    (Account.opened .aiv config start).Exact qp ∧ qp.Quiet := by
  induction hRun with
  | refl => exact ⟨Account.opened_exact hOpened, opened_quiet hOpened⟩
  | tail _ hStep ih => exact ⟨ih.1.step (by simp) hStep.step, hStep.quiet ih.1 ih.2⟩

/-- On a send queue that is no deeper than the index field of a completion, a
batch and single sends of what it posts write the same entries and end with the
same records, and all the single sends succeed. -/
theorem batch_matches_singles (returnValue : Bool) (hOpened : start.Opened config)
    (hAccepted : sendQueueDepthAccepted config.sendQueueDepth)
    (hExported : start.descriptor.sendQueue.depth = config.sendQueueDepth)
    (hFits : config.sendQueueDepth ≤ 65536) (hRun : start.ReturnedRun qp)
    (hPolls : ∀ arrivals ∈ polls, arrivals.Good)
    (hPosts : (aivRdmaSendBatch wrs first polls qp).1.Posts wrs.length posted)
    (hCalls : calls.map SingleSend.wr = wrs.take posted)
    (hCompletes : ∀ call ∈ calls, call.Completes) :
    (∀ status ∈ (sendEach returnValue calls qp).1, status = some .success) ∧
      (sendEach returnValue calls qp).2.sendRing = (aivRdmaSendBatch wrs first polls qp).2.sendRing ∧
      (sendEach returnValue calls qp).2.send.wrIds =
        (aivRdmaSendBatch wrs first polls qp).2.send.wrIds ∧
      (sendEach returnValue calls qp).2.send.counters =
        (aivRdmaSendBatch wrs first polls qp).2.send.counters ∧
      (sendEach returnValue calls qp).2.state = (aivRdmaSendBatch wrs first polls qp).2.state := by
  obtain ⟨hExact, hQuiet⟩ := returnedRun_quiet hOpened hRun
  obtain ⟨-, bits, hBits, hDepth⟩ := hAccepted
  have hCapacity : (Account.opened .aiv config start).sendDepth = config.sendQueueDepth := by
    simp only [Account.opened, QpDescriptor.capacity, QpDescriptor.queue, if_true, hExported,
      ite_self]
  have hTracked : (Account.opened .aiv config start).tracked := by
    have hBound := UInt32.le_iff_toNat_le.mp hFits
    rw [hDepth] at hBound
    exact ⟨by simp, bits, (Nat.pow_le_pow_iff_right (Nat.lt_succ_self 1)).mp hBound,
      hExported ▸ hDepth⟩
  have hDescriptor : qp.descriptor = start.descriptor := hExact.descriptor_eq
  have hQueue : qp.descriptor.sendQueue.depth = (Account.opened .aiv config start).sendDepth := by
    rw [hDescriptor, hExported, hCapacity]
  obtain ⟨hDeep, hAvailable, hValid, hBatch, hSilent⟩ := batch_settles hExact hQuiet hPolls hPosts
  rw [hQueue] at hBatch hSilent hDeep
  have hLength : calls.length ≤ posted := by
    rw [← List.length_map SingleSend.wr, hCalls, List.length_take]
    exact Nat.min_le_left ..
  have hTwo : 2 ≤ (Account.opened .aiv config start).sendDepth := by
    rw [UInt32.lt_iff_toNat_lt] at hDeep
    rw [UInt32.le_iff_toNat_le]
    exact hDeep
  have hRoom := available_toNat hExact hTracked hTwo (hExported.trans hCapacity.symm)
  obtain ⟨hStatuses, hSingles⟩ := sendEach_settles returnValue hTracked
    (hExported.trans hCapacity.symm) hExact hQuiet (by omega)
    (fun call hCall => hValid call.wr (hCalls ▸ List.mem_map_of_mem hCall)) hCompletes
    (fun hUnreadable => by rw [hCalls]; exact hSilent (hDescriptor ▸ hUnreadable))
  -- Both have settled the same requests, one at the end and one after each request.
  have hSame : (sendEach returnValue calls qp).2.sendView =
      (aivRdmaSendBatch wrs first polls qp).2.sendView := by
    have hFold := foldl_settle (SendView.settle_post qp.descriptor) (wrs.take posted) qp.sendView
    rw [hQuiet.settle_eq, hQueue, hDescriptor] at hFold
    rw [hSingles, hBatch, hDescriptor, hFold, hCalls]
    rfl
  exact ⟨hStatuses, congrArg SendView.ring hSame, congrArg SendView.wrIds hSame,
    congrArg SendView.counters hSame, congrArg SendView.state hSame⟩

end Prefix

/-- A send whose completion arrives at the first poll. -/
def promptSend : SingleSend where
  wr := deviceSend
  first := noArrivals
  polls := [{ send := [0], receive := [] }]

theorem promptSend_completes : promptSend.Completes :=
  ⟨by simp [promptSend, Arrivals.Good], ⟨_, List.mem_singleton_self _, by simp⟩⟩

/-- A batch of 64 on a queue of 64 entries leaves one request over; the other 63
sends cross a signal. -/
theorem batch_matches_singles_part :
    (aivRdmaSendBatch (List.replicate 64 deviceSend) noArrivals promptSend.polls
        (freshQp 64)).1.Posts 64 63 ∧
      (∀ status ∈ (sendEach true (List.replicate 63 promptSend) (freshQp 64)).1,
        status = some .success) ∧
      (sendEach true (List.replicate 63 promptSend) (freshQp 64)).2.send.counters =
        { head := 63, tail := 32, consumer := 1 } := by
  have hPosts : (aivRdmaSendBatch (List.replicate 64 deviceSend) noArrivals promptSend.polls
      (freshQp 64)).1.Posts (List.replicate 64 deviceSend).length 63 :=
    .inr (by decide +kernel)
  obtain ⟨hStatuses, -, -, hCounters, -⟩ := batch_matches_singles true
    (freshQp_opened (by decide)) ⟨by decide, 6, by decide, rfl⟩ rfl (by decide)
    Relation.ReflTransGen.refl promptSend_completes.1 hPosts
    (show (List.replicate 63 promptSend).map SingleSend.wr = _ by simp [promptSend])
    (fun call hCall => List.eq_of_mem_replicate hCall ▸ promptSend_completes)
  refine ⟨hPosts, hStatuses, hCounters.trans ?_⟩
  decide +kernel

section Deep

/-- A queue pair with a send queue deeper than the index field of a completion. -/
def deepQp : TransportQp := freshQp 131072

def promptly (qp : TransportQp) : TransportQp :=
  (aivRdmaSend true promptSend.wr promptSend.first promptSend.polls qp).2

/-- The records of a deep queue after some prompt sends. -/
structure Paced (count : Nat) (qp : TransportQp) : Prop where
  run : deepQp.ReturnedRun qp
  head_eq : qp.send.counters.head = UInt32.ofNat count
  tail_eq : qp.send.counters.tail = UInt32.ofNat (count - count % 32)
  unsignaled_eq : qp.state.unsignaledCount = UInt32.ofNat (count % 32)

variable {count : Nat} {qp : TransportQp}

theorem deepQp_opened : deepQp.Opened { sendQueueDepth := 131072, receiveQueueDepth := 16 } :=
  freshQp_opened (by decide)

theorem deepQp_readable : sendCqReadable deepQp.descriptor := by decide

theorem paced_start : Paced 0 deepQp := ⟨.refl, rfl, rfl, rfl⟩

/-- Where the sends have got to, all their reports have been polled. -/
theorem Paced.facts (h : Paced count qp) :
    (Account.opened .aiv { sendQueueDepth := 131072, receiveQueueDepth := 16 } deepQp).Exact qp ∧
      qp.Quiet ∧ qp.descriptor = deepQp.descriptor ∧ signaledOutstanding qp = [] ∧
      qp.state.sendCredits.toNat = 131072 - count % 32 := by
  obtain ⟨hExact, hQuiet⟩ := returnedRun_quiet deepQp_opened h.run
  have hDescriptor : qp.descriptor = deepQp.descriptor := hExact.descriptor_eq
  have hNone : signaledOutstanding qp = [] := hQuiet (hDescriptor ▸ deepQp_readable)
  refine ⟨hExact, hQuiet, hDescriptor, hNone, ?_⟩
  have hPosted := hExact.send.posted_eq
  have hBalance := hExact.send.credits_eq
  change qp.send.posted = qp.send.reclaimed + 32 * (signaledOutstanding qp).length + _ at hPosted
  have hDepth : (Account.opened .aiv { sendQueueDepth := 131072, receiveQueueDepth := 16 }
    deepQp).sendDepth.toNat = 131072 := rfl
  rw [hNone, h.unsignaled_eq, UInt32.toNat_ofNat', List.length_nil] at hPosted
  rw [hDepth, QueueSide.outstanding] at hBalance
  omega

/-- A prompt send succeeds as long as the tail is not ahead of the head. -/
theorem Paced.send (h : Paced count qp) :
    deepQp.ReturnedRun (promptly qp) ∧
      (promptly qp).sendView =
        (qp.sendView.post 131072 deviceSend).settle deepQp.descriptor := by
  obtain ⟨hExact, hQuiet, hDescriptor, hNone, hCredits⟩ := h.facts
  have hRoom : ¬(qp.descriptor.sendQueue.depth ≤ 1 ∨
      qp.send.counters.head - qp.send.counters.tail ≥ qp.descriptor.sendQueue.depth - 1) := by
    have hUsed : (UInt32.ofNat count - UInt32.ofNat (count - count % 32)).toNat = count % 32 := by
      simp only [UInt32.toNat_sub, UInt32.toNat_ofNat']
      omega
    have hLast : (deepQp.descriptor.sendQueue.depth - 1).toNat = 131071 := rfl
    rw [hDescriptor, h.head_eq, h.tail_eq, not_or]
    refine ⟨by decide, fun hFull => ?_⟩
    rw [ge_iff_le, UInt32.le_iff_toNat_le, hUsed, hLast] at hFull
    omega
  have hSome : qp.state.sendCredits ≠ 0 := by
    intro hZero
    rw [hZero] at hCredits
    change 0 = _ at hCredits
    omega
  obtain ⟨hStatus, hView, -⟩ := single_settles true hExact hQuiet
    (fun _ => hDescriptor ▸ deepQp_readable) (show aivValidSendWr promptSend.wr = true by decide)
    hSome hRoom promptSend_completes.1 promptSend_completes.2
  refine ⟨h.run.tail (.send (.inl rfl) promptSend_completes.1 ?_), ?_⟩
  · rw [hStatus]
    simp
  · rw [hDescriptor] at hView
    exact hView

/-- Every thirty-second send asks for a completion. -/
theorem Paced.signals_iff (h : Paced count qp) :
    transportShouldSignal qp.state = true ↔ count % 32 = 31 := by
  have hInterval : kTransportSignalInterval.toNat = 32 := rfl
  rw [h.facts.1.shouldSignal_iff, h.unsignaled_eq, UInt32.toNat_ofNat', hInterval]
  omega

/-- Within an interval only the head moves. -/
theorem Paced.within (h : Paced count qp) (hOpen : count % 32 ≠ 31) :
    Paced (count + 1) (promptly qp) := by
  have hSilent : ¬transportShouldSignal qp.state = true := mt h.signals_iff.mp hOpen
  obtain ⟨hRun, hView⟩ := h.send
  have hPending : (qp.sendView.post 131072 deviceSend).pending = [] := by
    have hSame : (qp.sendView.post 131072 deviceSend).pending = qp.sendView.pending :=
      if_neg hSilent
    rw [hSame, TransportQp.pending_eq_nil]
    exact h.facts.2.2.2.1
  rw [SendView.settle_pending hPending] at hView
  have hCounters := congrArg SendView.counters hView
  have hState := congrArg (fun view => view.state.unsignaledCount) hView
  change (promptly qp).send.counters = { qp.send.counters with head := qp.send.counters.head + 1 }
    at hCounters
  change (promptly qp).state.unsignaledCount =
    (if transportShouldSignal qp.state then 0 else qp.state.unsignaledCount + 1) at hState
  constructor
  · exact hRun
  · rw [hCounters, h.head_eq, UInt32.ofNat_add]
    rfl
  · rw [hCounters, h.tail_eq]
    congr 1
    omega
  · have hNext : (count + 1) % 32 = count % 32 + 1 := by omega
    rw [hState, if_neg hSilent, h.unsignaled_eq, hNext, UInt32.ofNat_add]
    rfl

/-- At the end of an interval the tail follows the report. -/
theorem Paced.report (h : Paced count qp) (hFull : count % 32 = 31) :
    deepQp.ReturnedRun (promptly qp) ∧
      (promptly qp).send.counters.head = UInt32.ofNat (count + 1) ∧
      (promptly qp).send.counters.tail =
        UInt32.ofNat (count - 31) +
          (((UInt32.ofNat count &&& 0xffff) - UInt32.ofNat (count - 31)) &&& 131071) + 1 ∧
      (promptly qp).state.unsignaledCount = 0 := by
  have hSignaled := h.signals_iff.mpr hFull
  have hNone := h.facts.2.2.2.1
  obtain ⟨hRun, hView⟩ := h.send
  have hPending : (qp.sendView.post 131072 deviceSend).pending =
      [UInt32.ofNat count &&& 0xffff] := by
    have hMore : (qp.sendView.post 131072 deviceSend).pending =
        qp.sendView.pending ++ [qp.send.counters.head &&& 0xffff] := if_pos hSignaled
    rw [hMore, TransportQp.pending_eq_nil.mpr hNone, h.head_eq]
    rfl
  rw [SendView.settle, if_pos deepQp_readable, SendView.poll, hPending] at hView
  have hCounters := congrArg SendView.counters hView
  have hState := congrArg (fun view => view.state.unsignaledCount) hView
  change (promptly qp).send.counters =
    QueueCounters.report 131072 { qp.send.counters with head := qp.send.counters.head + 1 }
      (UInt32.ofNat count &&& 0xffff) at hCounters
  refine ⟨hRun, ?_, ?_, ?_⟩
  · rw [hCounters]
    show qp.send.counters.head + 1 = _
    rw [h.head_eq, UInt32.ofNat_add]
    rfl
  · rw [hCounters]
    show qp.send.counters.tail + (((UInt32.ofNat count &&& 0xffff) - qp.send.counters.tail) &&&
      131071) + 1 = _
    rw [h.tail_eq, hFull]
  · change (promptly qp).state.unsignaledCount = (transportReclaimSend _ _).unsignaledCount at hState
    rw [hState, SendView.reclaimSend_unsignaled]
    exact if_pos hSignaled

/-- Up to the range of the index field, every report moves the tail to the head. -/
theorem Paced.reported (h : Paced count qp) (hFull : count % 32 = 31) (hRange : count < 65536) :
    Paced (count + 1) (promptly qp) := by
  obtain ⟨hRun, hHead, hTail, hState⟩ := h.report hFull
  have hNext : (count + 1) % 32 = 0 := by omega
  constructor
  · exact hRun
  · exact hHead
  · rw [hTail, hNext, Nat.sub_zero]
    apply UInt32.toNat_inj.mp
    have hLow : (0xffff : UInt32).toNat = 2 ^ 16 - 1 := rfl
    have hMask : (131071 : UInt32).toNat = 2 ^ 17 - 1 := rfl
    have hOne : (1 : UInt32).toNat = 1 := rfl
    simp only [UInt32.toNat_add, UInt32.toNat_and, UInt32.toNat_sub, UInt32.toNat_ofNat', hLow,
      hMask, hOne, Nat.and_two_pow_sub_one_eq_mod]
    omega
  · rw [hState, hNext]
    rfl

/-- The counters of a deep queue until the first report past the range of the index field. -/
theorem Paced.many (h : Paced count qp) (more : Nat) (hRange : count + more < 65568) :
    Paced (count + more) (promptly^[more] qp) := by
  induction more with
  | zero => exact h
  | succ more ih =>
      rw [Function.iterate_succ_apply']
      have hBefore := ih (by omega)
      by_cases hFull : (count + more) % 32 = 31
      · exact hBefore.reported hFull (by omega)
      · exact hBefore.within hFull

/-- The next report is read as one turn later, and the queue looks full. -/
theorem Paced.overrun (h : Paced 65567 qp) :
    (aivRdmaSend true promptSend.wr promptSend.first promptSend.polls (promptly qp)).1 =
      some .queueFull := by
  obtain ⟨hRun, hHead, hTail, -⟩ := h.report (by decide)
  generalize promptly qp = qp at hRun hHead hTail ⊢
  obtain ⟨hExact, hQuiet⟩ := returnedRun_quiet deepQp_opened hRun
  have hDescriptor : qp.descriptor = deepQp.descriptor := hExact.descriptor_eq
  have hNone : signaledOutstanding qp = [] := hQuiet (hDescriptor ▸ deepQp_readable)
  have hCredits : qp.state.sendCredits ≠ 0 := by
    intro hZero
    have hOutstanding := outstanding_of_credits hExact hZero
    have hMany : kTransportSignalInterval.toNat ≤ qp.send.outstanding := by
      rw [hOutstanding]
      decide
    exact signaled_of_outstanding hExact hMany hNone
  have hFull : qp.descriptor.sendQueue.depth ≤ 1 ∨
      qp.send.counters.head - qp.send.counters.tail ≥ qp.descriptor.sendQueue.depth - 1 := by
    rw [hDescriptor, hHead, hTail]
    exact .inr (by decide)
  have hActive : qp.state.signalInterval ≠ 0 := by
    rw [hExact.interval_eq]
    decide
  rw [aivSend_refused hActive hCredits (.inr hFull)]
  have hValid : ¬(!aivValidSendWr (promptSend.wr.scheduled (transportShouldSignal qp.state))) =
      true := by
    show ¬(!aivValidSendWr promptSend.wr) = true
    decide
  show some (aivPostSend (promptSend.wr.scheduled (transportShouldSignal qp.state)) qp).1 = _
  rw [aivPostSend, if_neg hValid, if_pos hFull]

/-- The batch looks at the tail before the report of its first interval. -/
theorem Paced.batch (h : Paced 65536 qp) :
    (aivRdmaSendBatch (List.replicate 33 deviceSend) noArrivals promptSend.polls qp).1 =
      { status := some .success, badWr := none } := by
  obtain ⟨hExact, hQuiet, hDescriptor, hNone, hCredits⟩ := h.facts
  have hAvailable : sendQueueAvailable qp = 131071 := by
    rw [sendQueueAvailable, h.head_eq, h.tail_eq, hDescriptor]
    decide
  have hSome : qp.state.sendCredits ≠ 0 := by
    intro hZero
    rw [hZero] at hCredits
    exact absurd hCredits (by decide)
  have hLimit : batchLimit (List.replicate 33 deviceSend) qp = 33 := by
    rw [batchLimit, hAvailable, hCredits]
    decide
  have hRoom : ¬(sendQueueAvailable qp = 0 ∨ qp.state.sendCredits = 0) := by
    rw [hAvailable, not_or]
    exact ⟨by decide, hSome⟩
  have hChecked : ¬(List.replicate 33 deviceSend = [] ∨ qp.state.signalInterval = 0 ∨
      qp.descriptor.sendQueue.headAddress = 0 ∨ qp.descriptor.sendQueue.tailAddress = 0 ∨
      qp.descriptor.sendQueue.depth ≤ 1) := by
    rw [hExact.interval_eq, hDescriptor]
    decide
  have hBatch : aivRdmaSendBatch (List.replicate 33 deviceSend) noArrivals promptSend.polls qp =
      postPrefix (List.replicate 33 deviceSend) promptSend.polls qp := by
    unfold aivRdmaSendBatch aivPostTransportSendBatch
    rw [if_neg hChecked, if_neg hRoom]
    rfl
  -- One of the 33 requests is signaled.
  have hFilled := @batchFilled_exact _ qp (List.replicate 33 deviceSend) hExact
  have hOne : (signaledOutstanding (batchFilled (List.replicate 33 deviceSend) qp)).length = 1 := by
    have hBefore := hExact.send.posted_eq
    have hAfter := hFilled.1.send.posted_eq
    have hOpen := hFilled.1.send.open_lt
    change qp.send.posted = qp.send.reclaimed + 32 * (signaledOutstanding qp).length + _ at hBefore
    change (batchFilled (List.replicate 33 deviceSend) qp).send.posted = _ +
      32 * (signaledOutstanding (batchFilled (List.replicate 33 deviceSend) qp)).length + _ at hAfter
    change _ < 32 at hOpen
    obtain ⟨-, hPosted, hReclaimed⟩ := hFilled
    change _ = qp.send.posted + batchLimit (List.replicate 33 deviceSend) qp at hPosted
    have hZero : qp.state.unsignaledCount.toNat = 0 := by
      rw [h.unsignaled_eq]
      rfl
    rw [hNone, hZero, List.length_nil] at hBefore
    rw [hPosted, hReclaimed, hLimit] at hAfter
    omega
  have hReadable : sendCqReadable
      (batchFilled (List.replicate 33 deviceSend) qp).descriptor := by
    rw [batchFilled_descriptor hExact, hDescriptor]
    exact deepQp_readable
  have hWaited : (batchWaited (List.replicate 33 deviceSend) promptSend.polls qp).1 =
      some .success := by
    rw [batchWaited_eq hExact hNone]
    exact (wait_done hFilled.1 hReadable (batchFilled_good hExact hNone) promptSend_completes.1
      (wait_returns hFilled.1 hReadable (Nat.le_of_eq hOne) promptSend_completes.2)).1
  rw [hBatch]
  rcases postPrefix_cases (List.replicate 33 deviceSend) promptSend.polls qp with
    ⟨hNothing, -⟩ | ⟨-, -, -, hOutcome⟩
  · rw [hLimit] at hNothing
    exact absurd hNothing (by decide)
  · rw [hOutcome, hWaited, hLimit]
    rfl

/-- The last of some equal sends meets the queue pair that the others have left. -/
theorem sendEach_replicate (count : Nat) (qp : TransportQp) :
    (aivRdmaSend true promptSend.wr promptSend.first promptSend.polls (promptly^[count] qp)).1 ∈
      (sendEach true (List.replicate (count + 1) promptSend) qp).1 := by
  induction count generalizing qp with
  | zero => exact List.mem_cons_self
  | succ count ih => exact List.mem_cons_of_mem _ (ih (promptly qp))

/-- After 65536 sends on a queue of 131072 entries a batch posts 33 requests,
but the last of 33 single sends is refused. -/
theorem deep_queue_differs :
    sendQueueDepthAccepted 131072 ∧ ∃ qp, deepQp.ReturnedRun qp ∧
      (aivRdmaSendBatch (List.replicate 33 deviceSend) noArrivals promptSend.polls qp).1.Posts
        33 33 ∧
      (List.replicate 33 promptSend).map SingleSend.wr =
        (List.replicate 33 deviceSend).take 33 ∧
      (∀ call ∈ List.replicate 33 promptSend, call.Completes) ∧
      some .queueFull ∈ (sendEach true (List.replicate 33 promptSend) qp).1 := by
  obtain ⟨qp, hPaced⟩ : ∃ qp, Paced 65536 qp :=
    ⟨_, Nat.zero_add 65536 ▸ paced_start.many 65536 (by decide)⟩
  have hRefused := (hPaced.many 31 (by decide)).overrun
  rw [← Function.iterate_succ_apply' promptly 31 qp] at hRefused
  refine ⟨⟨by decide, 17, by decide, rfl⟩, qp, hPaced.run, .inl ⟨?_, rfl⟩, by simp [promptSend],
    fun call hCall => List.eq_of_mem_replicate hCall ▸ promptSend_completes,
    hRefused ▸ sendEach_replicate 32 qp⟩
  exact hPaced.batch

end Deep

end NdsStorage.Client
