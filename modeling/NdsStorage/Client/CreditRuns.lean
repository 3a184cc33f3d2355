import NdsStorage.Client.CreditSteps

/-! Runs of a queue pair: any sequence of transport operations of its backend,
with completions arriving whenever they do. An operation of the vector core that
is launched without a place for its return value does not learn whether its post
was refused, and is charged for it all the same. -/
namespace NdsStorage.Client

/-- What every poll of the vector core checks before it looks for reports. -/
def sendCqReadable (descriptor : QpDescriptor) : Prop :=
  ¬(descriptor.sendCq.bufferAddress = 0 ∨ descriptor.sendCq.consumerAddress = 0 ∨
    descriptor.sendCq.doorbellAddress = 0 ∨ descriptor.sendCq.depth = 0 ∨
    descriptor.sendCq.entrySize < kHnsHwCqeBytes ∨ descriptor.sendQueue.tailAddress = 0 ∨
    descriptor.sendQueue.wrIdAddress = 0 ∨ descriptor.sendQueue.depth = 0)

instance (descriptor : QpDescriptor) : Decidable (sendCqReadable descriptor) :=
  inferInstanceAs (Decidable ¬_)

section Unseen

/-- The polling loop takes the oldest reports that are ready. -/
theorem reap_eq (move : QueueCounters → Cqe → QueueCounters) (limit : Nat) (side : QueueSide) :
    (side.reap move limit).1 = side.ready.take limit ∧
      (side.reap move limit).2.ready = side.ready.drop limit ∧
      (side.reap move limit).2.awaiting = side.awaiting ∧
      (side.reap move limit).2.wrIds = side.wrIds ∧
      (side.reap move limit).2.counters = (side.ready.take limit).foldl move side.counters := by
  induction limit generalizing side with
  | zero => exact ⟨rfl, rfl, rfl, rfl, rfl⟩
  | succ limit ih =>
      unfold QueueSide.reap
      split
      · rename_i hReady
        simp [hReady]
      · rename_i cqe rest hReady
        obtain ⟨hTaken, hLeft, hAwaiting, hIds, hCounters⟩ := ih
          { side with
            counters := move side.counters cqe
            ready := rest
            reclaimed := cqe.position + 1 }
        simp only [hTaken, hLeft, hAwaiting, hIds, hCounters, hReady, List.take_succ_cons,
          List.drop_succ_cons, List.foldl_cons, and_self]

/-- What a call without credits takes from the send completion queue before it
posts, and the send side that it leaves. -/
def firstReap (first : Arrivals) (qp : TransportQp) : List Cqe × QueueSide :=
  (qp.arrive first).send.reap (pollMove true qp.descriptor.sendQueue.depth) kMaxCompletions

/-- A call comes to its post if it finds a credit, or if it can take some
completions first and all of them are successes. -/
def ComesToPost (first : Arrivals) (qp : TransportQp) : Prop :=
  qp.state.signalInterval ≠ 0 ∧ (qp.state.sendCredits = 0 → sendCqReadable qp.descriptor ∧
    (firstReap first qp).1 ≠ [] ∧ ∀ cqe ∈ (firstReap first qp).1, cqe.status = 0)

/-- The head and tail that the post finds. -/
def countersAtPost (first : Arrivals) (qp : TransportQp) : QueueCounters :=
  if qp.state.sendCredits = 0 then (firstReap first qp).2.counters else qp.send.counters

/-- The request is valid, and beside the entry that stays unused there is a free one. -/
def SendFits (wr : SendWr) (depth : UInt32) (counters : QueueCounters) : Prop :=
  aivValidSendWr wr = true ∧ 1 < depth ∧ counters.head - counters.tail < depth - 1

/-- A call of the vector core comes to its post, which refuses the request. -/
def PostRefused (wr : SendWr) (first : Arrivals) (qp : TransportQp) : Prop :=
  ComesToPost first qp ∧ ¬SendFits wr qp.descriptor.sendQueue.depth (countersAtPost first qp)

instance (first : Arrivals) (qp : TransportQp) : Decidable (ComesToPost first qp) :=
  inferInstanceAs (Decidable (_ ∧ (_ → _ ∧ _ ∧ _)))

instance (wr : SendWr) (depth : UInt32) (counters : QueueCounters) :
    Decidable (SendFits wr depth counters) :=
  inferInstanceAs (Decidable (_ ∧ _ ∧ _))

instance (wr : SendWr) (first : Arrivals) (qp : TransportQp) :
    Decidable (PostRefused wr first qp) :=
  inferInstanceAs (Decidable (_ ∧ ¬_))

/-- A poll that reports no failure has consumed successes. -/
theorem statuses_of_success {completions : List Cqe}
    (h : completionFailed completions = false) : ∀ cqe ∈ completions, cqe.status = 0 := by
  intro cqe hCqe
  have hFine := List.any_eq_false.mp h cqe hCqe
  simpa using hFine

/-- A reclaim that reports success has seen no failed completion. -/
theorem reclaimStatus_success {completions : List Cqe}
    (h : reclaimStatus completions = .success) : completionFailed completions = false := by
  unfold reclaimStatus at h
  split at h
  · cases h
  · rename_i hFine
    simpa using hFine

variable {wr : SendWr} {first : Arrivals} {qp : TransportQp}

/-- A call that has credits after its first poll has come to its post. -/
theorem comesToPost_of_credits (hActive : qp.state.signalInterval ≠ 0)
    (hStatus : (reclaimIfNeeded aivReclaimTransportCq true first qp).1 = .success)
    (hCredits : (reclaimIfNeeded aivReclaimTransportCq true first qp).2.state.sendCredits ≠ 0) :
    ComesToPost first qp ∧
      (reclaimIfNeeded aivReclaimTransportCq true first qp).2.descriptor = qp.descriptor ∧
      (reclaimIfNeeded aivReclaimTransportCq true first qp).2.send.counters =
        countersAtPost first qp := by
  by_cases hNone : qp.state.sendCredits = 0
  · have hPolls : reclaimIfNeeded aivReclaimTransportCq true first qp =
        aivReclaimTransportCq true first qp := if_neg (by simpa [transportCredits] using hNone)
    by_cases hReadable : sendCqReadable qp.descriptor
    · have hPolled : aivReclaimTransportCq true first qp =
          (reclaimStatus (firstReap first qp).1, transportReclaim true (firstReap first qp).1
            ((qp.arrive first).setSide true (firstReap first qp).2)) := if_neg hReadable
      rw [hPolls, hPolled] at hStatus hCredits ⊢
      refine ⟨⟨hActive, fun _ => ⟨hReadable, ?_, ?_⟩⟩, rfl, ?_⟩
      · intro hNothing
        apply hCredits
        rw [hNothing]
        show (transportReclaimSend qp.state 0).sendCredits = 0
        rw [transportReclaimSend, if_neg hActive]
        simp [hNone]
      · exact statuses_of_success (reclaimStatus_success hStatus)
      · rw [countersAtPost, if_pos hNone]
        rfl
    · have hPolled : aivReclaimTransportCq true first qp = (.invalidArgument, qp.arrive first) :=
        if_pos (Decidable.of_not_not hReadable)
      rw [hPolls, hPolled] at hStatus
      cases hStatus
  · have hPolls : reclaimIfNeeded aivReclaimTransportCq true first qp = (.success, qp) :=
      if_pos hNone
    rw [hPolls, countersAtPost, if_neg hNone]
    exact ⟨⟨hActive, fun hZero => absurd hZero hNone⟩, rfl, rfl⟩

theorem aivPostSend_fits (signaled : Bool)
    (h : SendFits wr qp.descriptor.sendQueue.depth qp.send.counters) :
    (aivPostSend (wr.scheduled signaled) qp).1 = .success := by
  obtain ⟨hValid, hDeep, hRoom⟩ := h
  have hScheduled : aivValidSendWr (wr.scheduled signaled) = true := hValid
  have hFree : ¬(qp.descriptor.sendQueue.depth ≤ 1 ∨
      qp.send.counters.head - qp.send.counters.tail ≥ qp.descriptor.sendQueue.depth - 1) :=
    not_or.mpr ⟨UInt32.not_le.mpr hDeep, UInt32.not_le.mpr hRoom⟩
  unfold aivPostSend
  dsimp only
  rw [hScheduled, if_neg hFree]
  rfl

/-- Where the post is not refused, it makes no difference that nobody looks. -/
theorem aivPostTransportSend_seen {returnValue : Bool}
    (hSeen : returnValue = true ∨ ¬PostRefused wr first qp) (polls : List Arrivals) :
    aivPostTransportSend returnValue wr first polls qp =
      aivPostTransportSend true wr first polls qp := by
  cases returnValue with
  | true => rfl
  | false =>
      have hAccepted := hSeen.resolve_left Bool.false_ne_true
      unfold aivPostTransportSend devicePostSend
      by_cases hActive : qp.state.signalInterval = 0
      · rw [if_pos hActive, if_pos hActive]
      rw [if_neg hActive, if_neg hActive]
      dsimp only
      by_cases hStatus : (reclaimIfNeeded aivReclaimTransportCq true first qp).1 ≠ .success
      · rw [if_pos hStatus, if_pos hStatus]
      rw [if_neg hStatus, if_neg hStatus]
      by_cases hCredits :
          (reclaimIfNeeded aivReclaimTransportCq true first qp).2.state.sendCredits = 0
      · rw [if_pos hCredits, if_pos hCredits]
      rw [if_neg hCredits, if_neg hCredits]
      obtain ⟨hComes, hDescriptor, hCounters⟩ := comesToPost_of_credits hActive
        (Decidable.of_not_not hStatus) hCredits
      have hFits : SendFits wr qp.descriptor.sendQueue.depth (countersAtPost first qp) :=
        Decidable.of_not_not fun hNot => hAccepted ⟨hComes, hNot⟩
      rw [← hDescriptor, ← hCounters] at hFits
      simp only [aivPostSend_fits _ hFits, ite_self]

end Unseen


inductive Backend where
  | aiv | aicpu | ra
deriving DecidableEq, Repr

namespace TransportQp

/-- One operation of a backend, or some completions that arrive. An operation
whose polls do not suffice has come as far as they carry it. A single request of
the vector core has a place for the return value, or its post is not refused. -/
inductive Step : Backend → TransportQp → TransportQp → Prop
  | arrive {backend : Backend} {qp : TransportQp} (arrivals : Arrivals) :
      Step backend qp (qp.arrive arrivals)
  | aivSend {qp : TransportQp} {returnValue : Bool} (wr : SendWr) (first : Arrivals)
      (polls : List Arrivals) (hSeen : returnValue = true ∨ ¬PostRefused wr first qp) :
      Step .aiv qp (aivRdmaSend returnValue wr first polls qp).2
  | aivRead {qp : TransportQp} {returnValue : Bool} (wr : SendWr) (first : Arrivals)
      (polls : List Arrivals) (hSeen : returnValue = true ∨ ¬PostRefused wr first qp) :
      Step .aiv qp (aivRdmaRead returnValue wr first polls qp).2
  | aivWrite {qp : TransportQp} {returnValue : Bool} (wr : SendWr) (first : Arrivals)
      (polls : List Arrivals) (hSeen : returnValue = true ∨ ¬PostRefused wr first qp) :
      Step .aiv qp (aivRdmaWrite returnValue wr first polls qp).2
  | aivSendBatch {qp : TransportQp} (wrs : List SendWr) (first : Arrivals)
      (polls : List Arrivals) : Step .aiv qp (aivRdmaSendBatch wrs first polls qp).2
  | aivRecv {qp : TransportQp} (wr : RecvWr) (first : Arrivals) :
      Step .aiv qp (aivRdmaRecv wr first qp).2
  | aicpuSend {qp : TransportQp} (provider : ProviderPost) (wr : SendWr) (first : Arrivals)
      (polls : List Arrivals) : Step .aicpu qp (aicpuRdmaSend provider wr first polls qp).2
  | aicpuRead {qp : TransportQp} (provider : ProviderPost) (wr : SendWr) (first : Arrivals)
      (polls : List Arrivals) : Step .aicpu qp (aicpuRdmaRead provider wr first polls qp).2
  | aicpuWrite {qp : TransportQp} (provider : ProviderPost) (wr : SendWr) (first : Arrivals)
      (polls : List Arrivals) : Step .aicpu qp (aicpuRdmaWrite provider wr first polls qp).2
  | aicpuRecv {qp : TransportQp} (wr : RecvWr) (first : Arrivals) :
      Step .aicpu qp (aicpuRdmaRecv wr first qp).2
  | raSend {qp : TransportQp} (wr : SendWr) {results : RaSendResults} (hClean : results.Clean)
      (first : RaPoll) (polls : List RaPoll) : Step .ra qp (raRdmaSend wr results first polls qp).2
  | raRead {qp : TransportQp} (wr : SendWr) {results : RaSendResults} (hClean : results.Clean)
      (first : RaPoll) (polls : List RaPoll) : Step .ra qp (raRdmaRead wr results first polls qp).2
  | raWrite {qp : TransportQp} (wr : SendWr) {results : RaSendResults} (hClean : results.Clean)
      (first : RaPoll) (polls : List RaPoll) : Step .ra qp (raRdmaWrite wr results first polls qp).2
  | raRecv {qp : TransportQp} (wr : RecvWr) (results : RaRecvResults) (first : RaPoll) :
      Step .ra qp (raRdmaRecv wr results first qp).2

def Reaches (backend : Backend) : TransportQp → TransportQp → Prop :=
  Relation.ReflTransGen (Step backend)

/-- The same, with requests of the vector core that are refused unseen. -/
inductive AnyStep : Backend → TransportQp → TransportQp → Prop
  | seen {backend : Backend} {qp next : TransportQp} (hStep : Step backend qp next) :
      AnyStep backend qp next
  | aivSend {qp : TransportQp} (wr : SendWr) (first : Arrivals) (polls : List Arrivals) :
      AnyStep .aiv qp (aivRdmaSend false wr first polls qp).2
  | aivRead {qp : TransportQp} (wr : SendWr) (first : Arrivals) (polls : List Arrivals) :
      AnyStep .aiv qp (aivRdmaRead false wr first polls qp).2
  | aivWrite {qp : TransportQp} (wr : SendWr) (first : Arrivals) (polls : List Arrivals) :
      AnyStep .aiv qp (aivRdmaWrite false wr first polls qp).2

/-- A queue pair that has just been opened: the record is the one that was
built for it, and nothing has been posted. -/
structure Opened (config : QpConfig) (qp : TransportQp) : Prop where
  state_eq : buildQpState qp.descriptor config = .ok qp.state
  send_idle : ∃ start consumer wrIds, qp.send = .idle start consumer wrIds
  receive_idle : ∃ start consumer wrIds, qp.receive = .idle start consumer wrIds
  unrung_eq : qp.unrung = []

end TransportQp

namespace Account

variable {account : Account} {start finish : TransportQp} {backend : Backend}

/-- A request of the vector core, with a place for its return value or accepted. -/
theorem Exact.aivPost {qp : TransportQp} (h : account.Exact qp) {returnValue : Bool}
    {first : Arrivals} (wr : SendWr) (polls : List Arrivals)
    (hSeen : returnValue = true ∨ ¬PostRefused wr first qp) :
    account.Exact (aivPostTransportSend returnValue wr first polls qp).2 := by
  rw [aivPostTransportSend_seen hSeen]
  exact devicePostSend_keeps (aivReclaimTransportCq_keeps account) aivPostSend_handsOver h wr first
    polls

/-- Every call and every arrival keeps the account. -/
theorem Exact.step (hHost : backend = .ra → ¬account.tracked)
    (hStep : TransportQp.Step backend start finish) (h : account.Exact start) :
    account.Exact finish := by
  have hAiv := aivReclaimTransportCq_keeps account
  have hAicpu := aicpuReclaim_keeps account
  cases hStep with
  | arrive arrivals => exact h.arrive arrivals
  | aivSend wr first polls hSeen => exact h.aivPost wr polls hSeen
  | aivRead wr first polls hSeen => exact h.aivPost wr polls hSeen
  | aivWrite wr first polls hSeen => exact h.aivPost wr polls hSeen
  | aivSendBatch wrs first polls => exact aivPostTransportSendBatch_keeps h wrs first polls
  | aivRecv wr first => exact devicePostRecv_keeps hAiv aivPostRecv_handsOver h wr first
  | aicpuSend provider wr first polls =>
      exact devicePostSend_keeps hAicpu (aicpuPostSend_handsOver provider) h wr first polls
  | aicpuRead provider wr first polls =>
      exact devicePostSend_keeps hAicpu (aicpuPostSend_handsOver provider) h wr first polls
  | aicpuWrite provider wr first polls =>
      exact devicePostSend_keeps hAicpu (aicpuPostSend_handsOver provider) h wr first polls
  | aicpuRecv wr first => exact devicePostRecv_keeps hAicpu aicpuPostRecv_handsOver h wr first
  | raSend wr hClean first polls => exact raPost_keeps (hHost rfl) h hClean wr first polls
  | raRead wr hClean first polls => exact raPost_keeps (hHost rfl) h hClean wr first polls
  | raWrite wr hClean first polls => exact raPost_keeps (hHost rfl) h hClean wr first polls
  | raRecv wr results first => exact raRdmaRecv_keeps (hHost rfl) h wr results first

/-- The account is kept in every run. -/
theorem Exact.reaches (hHost : backend = .ra → ¬account.tracked)
    (hRun : TransportQp.Reaches backend start finish) (h : account.Exact start) :
    account.Exact finish := by
  induction hRun with
  | refl => exact h
  | tail _ hStep ih => exact ih.step hHost hStep

/-- The account that a queue pair is opened with. Device code can follow it as
long as a completion entry names every entry of the send queue. -/
def opened (backend : Backend) (config : QpConfig) (start : TransportQp) : Account where
  descriptor := start.descriptor
  sendDepth := start.descriptor.capacity config true
  receiveDepth := start.descriptor.capacity config false
  sendStart := start.send.counters.head
  receiveStart := start.receive.counters.head
  tracked := backend ≠ .ra ∧ ∃ bits ≤ 16, start.descriptor.sendQueue.depth.toNat = 2 ^ bits
  readable := by
    rintro ⟨-, bits, hBits, hDepth⟩ -
    refine ⟨bits, hBits, hDepth, ?_⟩
    have hSome : start.descriptor.sendQueue.depth ≠ 0 := by
      intro hZero
      rw [hZero] at hDepth
      exact absurd hDepth.symm (Nat.two_pow_pos bits).ne'
    simp only [QpDescriptor.capacity, QpDescriptor.queue, if_true, if_pos hSome, hDepth]

/-- A queue pair is opened with its account in balance. -/
theorem opened_exact {config : QpConfig} (hOpened : start.Opened config) :
    (opened backend config start).Exact start := by
  obtain ⟨sendStart, sendConsumer, sendIds, hSendSide⟩ := hOpened.send_idle
  obtain ⟨receiveStart, receiveConsumer, receiveIds, hReceiveSide⟩ := hOpened.receive_idle
  have hState := hOpened.state_eq
  unfold buildQpState at hState
  dsimp only at hState
  split at hState
  · cases hState
  · have hRecord := Except.ok.inj hState
    constructor
    · rfl
    · rw [← hRecord]
    · exact hOpened.unrung_eq
    · rw [← hRecord, hSendSide]
      exact ⟨trivial, rfl, Nat.succ_pos 31, rfl⟩
    · rw [← hRecord, hReceiveSide]
      exact ⟨trivial, rfl, Nat.one_pos, rfl⟩
    · intro _
      show start.send.Aligned start.send.counters.head
      rw [hSendSide]
      refine ⟨?_, ?_, fun cqe hCqe => absurd hCqe List.not_mem_nil⟩ <;> simp [QueueSide.idle]
    · intro _
      show start.receive.Aligned start.receive.counters.head
      rw [hReceiveSide]
      refine ⟨?_, ?_, fun cqe hCqe => absurd hCqe List.not_mem_nil⟩ <;> simp [QueueSide.idle]

/-- The account holds in every state of a run. -/
theorem opened_reaches {config : QpConfig} (hOpened : start.Opened config)
    (hRun : TransportQp.Reaches backend start finish) :
    (opened backend config start).Exact finish :=
  (opened_exact hOpened).reaches (fun hHost hTracked => hTracked.1 hHost) hRun

end Account

/-- The counters in memory count the outstanding requests. -/
theorem QueueSide.Aligned.used_eq {side : QueueSide} {start : UInt32} (h : side.Aligned start)
    {depth : UInt32} {interval unsignaled credits : Nat}
    (hBalanced : side.Balanced depth.toNat interval unsignaled credits) :
    (side.counters.head - side.counters.tail).toNat = side.outstanding := by
  have hLe := hBalanced.reclaimed_le
  have hDepth := hBalanced.credits_eq
  have hWord := depth.toNat_lt
  rw [h.head_eq, h.tail_eq]
  simp only [UInt32.toNat_sub, UInt32.toNat_add, UInt32.toNat_ofNat']
  simp only [QueueSide.outstanding] at hDepth ⊢
  omega

/-- What the credits of a queue pair say about its queues. -/
structure CreditsExact (sendDepth receiveDepth : UInt32) (qp : TransportQp) : Prop where
  send_eq : qp.state.sendCredits.toNat + qp.send.outstanding = sendDepth.toNat
  receive_eq : qp.state.receiveCredits.toNat + qp.receive.outstanding = receiveDepth.toNat
  unsignaled_lt : qp.state.unsignaledCount < qp.state.signalInterval
  send_le : qp.state.sendCredits ≤ sendDepth
  receive_le : qp.state.receiveCredits ≤ receiveDepth
  send_covered : qp.send.reclaimed ≤ qp.send.posted
  receive_covered : qp.receive.reclaimed ≤ qp.receive.posted

/-- An exact account is what the equations of the credits say. -/
theorem Account.Exact.credits {account : Account} {qp : TransportQp} (h : account.Exact qp) :
    CreditsExact account.sendDepth account.receiveDepth qp where
  send_eq := h.send.credits_eq
  receive_eq := h.receive.credits_eq
  unsignaled_lt := by
    rw [UInt32.lt_iff_toNat_lt, h.interval_eq]
    exact h.send.open_lt
  send_le := by
    have hCredits := h.send.credits_eq
    rw [UInt32.le_iff_toNat_le]
    omega
  receive_le := by
    have hCredits := h.receive.credits_eq
    rw [UInt32.le_iff_toNat_le]
    omega
  send_covered := h.send.reclaimed_le
  receive_covered := h.receive.reclaimed_le

namespace Account

section Refusals

variable {account : Account} {qp : TransportQp}

/-- The books would be exact with one more credit. -/
def Short (account : Account) (qp : TransportQp) : Prop :=
  ∃ state, account.Exact { qp with state := state } ∧
    state.signalInterval = qp.state.signalInterval ∧ state.sendCredits = qp.state.sendCredits + 1

/-- A queue pair that is short of a credit does not satisfy the equations. -/
theorem Short.not_exact (h : Short account qp) {receiveDepth : UInt32} :
    ¬CreditsExact account.sendDepth receiveDepth qp := by
  intro hExact
  obtain ⟨state, hTwin, -, hMore⟩ := h
  have hSum : state.sendCredits.toNat + qp.send.outstanding = account.sendDepth.toNat :=
    hTwin.send.credits_eq
  have hSame : state.sendCredits = qp.state.sendCredits := by
    apply UInt32.toNat_inj.mp
    have hSend := hExact.send_eq
    omega
  rw [hSame] at hMore
  simp at hMore

/-- A poll pays the same whether or not a credit is missing. -/
theorem Short.aivReclaim (h : Short account qp) (arrivals : Arrivals) :
    Short account (aivReclaimTransportCq true arrivals qp).2 := by
  obtain ⟨state, hTwin, hInterval, hMore⟩ := h
  have hKept := aivReclaimTransportCq_keeps account true arrivals _ hTwin
  by_cases hReadable : sendCqReadable qp.descriptor
  · have hTwinPolled : aivReclaimTransportCq true arrivals { qp with state := state } =
        (reclaimStatus (firstReap arrivals qp).1, transportReclaim true (firstReap arrivals qp).1
          (({ qp with state := state } : TransportQp).arrive arrivals |>.setSide true
            (firstReap arrivals qp).2)) := if_neg hReadable
    have hPolled : aivReclaimTransportCq true arrivals qp =
        (reclaimStatus (firstReap arrivals qp).1, transportReclaim true (firstReap arrivals qp).1
          ((qp.arrive arrivals).setSide true (firstReap arrivals qp).2)) := if_neg hReadable
    rw [hTwinPolled] at hKept
    rw [hPolled]
    refine ⟨transportReclaimSend state (UInt32.ofNat (firstReap arrivals qp).1.length), hKept, ?_⟩
    show (transportReclaimSend state _).signalInterval =
        (transportReclaimSend qp.state _).signalInterval ∧
      (transportReclaimSend state _).sendCredits =
        (transportReclaimSend qp.state _).sendCredits + 1
    unfold transportReclaimSend
    rw [hInterval]
    split
    · exact ⟨hInterval, hMore⟩
    · refine ⟨rfl, ?_⟩
      dsimp only
      rw [hMore, UInt32.add_assoc, UInt32.add_comm 1, ← UInt32.add_assoc]
  · have hTwinPolled : aivReclaimTransportCq true arrivals { qp with state := state } =
        (.invalidArgument, ({ qp with state := state } : TransportQp).arrive arrivals) :=
      if_pos (Decidable.of_not_not hReadable)
    have hPolled : aivReclaimTransportCq true arrivals qp =
        (.invalidArgument, qp.arrive arrivals) := if_pos (Decidable.of_not_not hReadable)
    rw [hTwinPolled] at hKept
    rw [hPolled]
    exact ⟨state, hKept, hInterval, hMore⟩

/-- Waiting does not bring the missing credit back. -/
theorem Short.wait (h : Short account qp) (target : UInt32) (polls : List Arrivals) :
    Short account (waitForSendCompletion aivReclaimTransportCq target polls qp).2 := by
  induction polls generalizing qp with
  | nil =>
      unfold waitForSendCompletion
      split <;> exact h
  | cons arrivals rest ih =>
      unfold waitForSendCompletion
      dsimp only
      split
      · split
        · exact h.aivReclaim arrivals
        · exact ih (h.aivReclaim arrivals)
      · exact h

/-- A call that comes to its post has a credit there. -/
theorem credits_of_comesToPost {first : Arrivals}
    (hInterval : qp.state.signalInterval = kTransportSignalInterval)
    (h : ComesToPost first qp) :
    (reclaimIfNeeded aivReclaimTransportCq true first qp).1 = .success ∧
      (reclaimIfNeeded aivReclaimTransportCq true first qp).2.state.sendCredits ≠ 0 := by
  by_cases hNone : qp.state.sendCredits = 0
  · obtain ⟨hReadable, hSome, hFine⟩ := h.2 hNone
    have hPolls : reclaimIfNeeded aivReclaimTransportCq true first qp =
        aivReclaimTransportCq true first qp := if_neg (by simpa [transportCredits] using hNone)
    have hPolled : aivReclaimTransportCq true first qp =
        (reclaimStatus (firstReap first qp).1, transportReclaim true (firstReap first qp).1
          ((qp.arrive first).setSide true (firstReap first qp).2)) := if_neg hReadable
    rw [hPolls, hPolled]
    constructor
    · have hNoFailure : completionFailed (firstReap first qp).1 = false := by
        apply List.any_eq_false.mpr
        intro cqe hCqe
        simpa using hFine cqe hCqe
      rw [reclaimStatus, hNoFailure]
      rfl
    · have hFew : (firstReap first qp).1.length ≤ kMaxCompletions := by
        rw [firstReap, (reap_eq _ _ _).1]
        exact List.length_take_le ..
      have hMany := List.length_pos_iff.mpr hSome
      have hLimit : kMaxCompletions = 16 := rfl
      have hPayment : kTransportSignalInterval.toNat = 32 := rfl
      show (transportReclaimSend qp.state _).sendCredits ≠ 0
      rw [transportReclaimSend, if_neg h.1]
      dsimp only
      rw [hNone, hInterval, UInt32.zero_add]
      intro hZero
      have hWords := congrArg UInt32.toNat hZero
      simp only [UInt32.toNat_mul, UInt32.toNat_ofNat', hPayment] at hWords
      change _ = 0 at hWords
      omega
  · rw [show reclaimIfNeeded aivReclaimTransportCq true first qp = (.success, qp) from
      if_pos hNone]
    exact ⟨rfl, hNone⟩

/-- A request that is refused unseen costs a credit for good. -/
theorem short_of_refused {wr : SendWr} {first : Arrivals} (h : account.Exact qp)
    (hRefused : PostRefused wr first qp) (polls : List Arrivals) :
    Short account (aivPostTransportSend false wr first polls qp).2 := by
  obtain ⟨hComes, hUnfit⟩ := hRefused
  obtain ⟨hStatus, hCredits⟩ := credits_of_comesToPost h.interval_eq hComes
  obtain ⟨-, hDescriptor, hCounters⟩ := comesToPost_of_credits hComes.1 hStatus hCredits
  have hFound := reclaimIfNeeded_keeps (aivReclaimTransportCq_keeps account) h true first
  rw [← hDescriptor, ← hCounters] at hUnfit
  unfold aivPostTransportSend devicePostSend
  rw [if_neg hComes.1]
  generalize reclaimIfNeeded aivReclaimTransportCq true first qp = reclaimed at *
  have hPost : ∀ signaled, (aivPostSend (wr.scheduled signaled) reclaimed.2).2 = reclaimed.2 := by
    intro signaled
    have hScheduled : aivValidSendWr (wr.scheduled signaled) = aivValidSendWr wr := rfl
    unfold aivPostSend
    dsimp only
    split
    · rfl
    split
    · rfl
    · rename_i hValid hFree
      obtain ⟨hDeep, hRoom⟩ := not_or.mp hFree
      refine absurd ⟨?_, UInt32.not_le.mp hDeep, UInt32.not_le.mp hRoom⟩ hUnfit
      rw [← hScheduled]
      simpa using hValid
  have hCharged : ∀ signaled : Bool, Short account { reclaimed.2 with
      state := { reclaimed.2.state with
        sendCredits := reclaimed.2.state.sendCredits - 1
        unsignaledCount := if signaled then 0 else reclaimed.2.state.unsignaledCount + 1 } } :=
    fun signaled => ⟨reclaimed.2.state, hFound, rfl, (UInt32.sub_add_cancel _ _).symm⟩
  simp only [hStatus, ne_eq, not_true_eq_false, if_false, if_neg hCredits, Bool.false_eq_true,
    transportRecordSend, hPost]
  split
  · exact (hCharged true).wait _ polls
  · exact hCharged false

end Refusals

end Account

/-- Whatever sequence of operations a queue pair goes through, of which none is
refused unseen, its credits and its outstanding requests make up its depths. On a
device whose completion entries can name every entry of the send queue, head and
tail count the same requests. -/
theorem credits_exact {backend : Backend} {config : QpConfig} {start finish : TransportQp}
    (hOpened : start.Opened config) (hRun : TransportQp.Reaches backend start finish) :
    CreditsExact (start.descriptor.capacity config true) (start.descriptor.capacity config false)
        finish ∧
      ∀ bits ≤ 16, backend ≠ .ra → start.descriptor.sendQueue.depth.toNat = 2 ^ bits →
        (finish.send.counters.head - finish.send.counters.tail).toNat = finish.send.outstanding ∧
        (finish.receive.counters.head - finish.receive.counters.tail).toNat =
          finish.receive.outstanding := by
  have hFinish := Account.opened_reaches hOpened hRun
  refine ⟨hFinish.credits, fun bits hBits hDevice hDepth => ?_⟩
  have hTracked : (Account.opened backend config start).tracked := ⟨hDevice, bits, hBits, hDepth⟩
  exact ⟨(hFinish.sendAligned hTracked).used_eq hFinish.send,
    (hFinish.receiveAligned hTracked).used_eq hFinish.receive⟩

/-- Every operation is a step, or a request of the vector core that is refused unseen. -/
theorem TransportQp.AnyStep.refused {backend : Backend} {qp next : TransportQp}
    (h : TransportQp.AnyStep backend qp next) : TransportQp.Step backend qp next ∨
      ∃ wr first polls, PostRefused wr first qp ∧
        next = (aivPostTransportSend false wr first polls qp).2 := by
  have hEither : ∀ (wr : SendWr) (first : Arrivals), ¬PostRefused wr first qp ∨
      PostRefused wr first qp := fun wr first => Decidable.not_or_of_imp id
  cases h with
  | seen hStep => exact .inl hStep
  | aivSend wr first polls =>
      rcases hEither wr first with hAccepted | hRefused
      · exact .inl (.aivSend wr first polls (.inr hAccepted))
      · exact .inr ⟨wr, first, polls, hRefused, rfl⟩
  | aivRead wr first polls =>
      rcases hEither wr first with hAccepted | hRefused
      · exact .inl (.aivRead wr first polls (.inr hAccepted))
      · exact .inr ⟨wr, first, polls, hRefused, rfl⟩
  | aivWrite wr first polls =>
      rcases hEither wr first with hAccepted | hRefused
      · exact .inl (.aivWrite wr first polls (.inr hAccepted))
      · exact .inr ⟨wr, first, polls, hRefused, rfl⟩

/-- The condition of a run cannot be weakened: where the books are exact, an
operation keeps them exact if and only if it is a step. -/
theorem step_iff_credits {backend : Backend} {config : QpConfig} {start qp next : TransportQp}
    (hOpened : start.Opened config) (hRun : TransportQp.Reaches backend start qp)
    (hAny : TransportQp.AnyStep backend qp next) :
    TransportQp.Step backend qp next ↔ CreditsExact (start.descriptor.capacity config true)
      (start.descriptor.capacity config false) next := by
  constructor
  · intro hStep
    exact (Account.opened_reaches hOpened (hRun.tail hStep)).credits
  · intro hCredits
    rcases hAny.refused with hStep | ⟨wr, first, polls, hRefused, rfl⟩
    · exact hStep
    · exact absurd hCredits
        (Account.short_of_refused (Account.opened_reaches hOpened hRun) hRefused polls).not_exact

/-- A device queue pair with room for 64 sends and 16 receives. -/
def deviceQp : TransportQp where
  descriptor := {
    qpMode := kQpModeNormal
    sendQueue := {
      depth := 64
      entrySize := 64
      bufferAddress := 1
      headAddress := 1
      tailAddress := 1
      doorbellAddress := 1
      wrIdAddress := 1 }
    receiveQueue := {
      depth := 16
      entrySize := 16
      bufferAddress := 1
      headAddress := 1
      tailAddress := 1
      doorbellAddress := 1
      wrIdAddress := 1 }
    sendCq := {
      depth := 64
      entrySize := 32
      bufferAddress := 1
      consumerAddress := 1
      doorbellAddress := 1 }
    receiveCq := {
      depth := 16
      entrySize := 32
      bufferAddress := 1
      consumerAddress := 1
      doorbellAddress := 1 } }
  state := {
    signalInterval := kTransportSignalInterval
    unsignaledCount := 0
    sendCredits := 64
    receiveCredits := 16 }
  send := .idle 0 0 fun _ => 0
  receive := .idle 0 0 fun _ => 0
  sendRing := fun _ => {
    opcode := 0
    signaled := false
    owner := false
    messageLength := 0
    remoteKey := 0
    remoteAddress := 0
    localBuffer := {
      address := 0
      length := 0
      localKey := 0 } }
  receiveRing := fun _ => {
    address := 0
    length := 0
    localKey := 0 }
  unrung := []

def deviceSend : SendWr where
  wrId := 1
  opcode := kWrSend
  flags := 0
  localBuffer := {
    address := 4096
    length := 64
    localKey := 1 }
  remoteAddress := 0
  remoteKey := 0

/-- A batch that crosses an interval, whose completion arrives at the second poll. -/
def batchSent : BatchOutcome × TransportQp :=
  aivRdmaSendBatch (List.replicate 33 deviceSend) { send := [], receive := [] }
    [{ send := [], receive := [] }, { send := [0], receive := [] }] deviceQp

/-- After the batch, a send without a place for its return value that is accepted. -/
def unseenSent : Option OperationStatus × TransportQp :=
  aivRdmaSend false deviceSend { send := [], receive := [] } [] batchSent.2

/-- A batch of 32, and a send whose result nobody looks at. -/
theorem credits_exact_batch :
    batchSent.1.status = some .success ∧ unseenSent.1 = some .success ∧
      unseenSent.2.send.outstanding = 2 ∧ unseenSent.2.state.sendCredits = 62 ∧
      CreditsExact 64 16 unseenSent.2 := by
  have hOpened : deviceQp.Opened { sendQueueDepth := 64, receiveQueueDepth := 16 } :=
    ⟨rfl, ⟨0, 0, fun _ => 0, rfl⟩, ⟨0, 0, fun _ => 0, rfl⟩, rfl⟩
  have hAccepted : ¬PostRefused deviceSend { send := [], receive := [] } batchSent.2 := by
    decide +kernel
  have hRun : TransportQp.Reaches .aiv deviceQp unseenSent.2 :=
    (Relation.ReflTransGen.single (.aivSendBatch _ _ _)).tail (.aivSend _ _ _ (.inr hAccepted))
  exact ⟨by decide +kernel, by decide +kernel, by decide +kernel, by decide +kernel,
    (credits_exact hOpened hRun).1⟩

/-- A request with an opcode that no post accepts. -/
def unknownSend : SendWr := { deviceSend with opcode := 255 }

/-- The post refuses the request, and without a place for the return value its
credit is gone although nothing is outstanding. -/
theorem credits_lost_unseen : ∃ config finish, deviceQp.Opened config ∧
    Relation.ReflTransGen (TransportQp.AnyStep .aiv) deviceQp finish ∧
    finish.state.sendCredits = 63 ∧ finish.send.outstanding = 0 ∧
    ¬CreditsExact (deviceQp.descriptor.capacity config true)
      (deviceQp.descriptor.capacity config false) finish := by
  have hOpened : deviceQp.Opened { sendQueueDepth := 64, receiveQueueDepth := 16 } :=
    ⟨rfl, ⟨0, 0, fun _ => 0, rfl⟩, ⟨0, 0, fun _ => 0, rfl⟩, rfl⟩
  refine ⟨_, (aivRdmaSend false unknownSend { send := [], receive := [] } [] deviceQp).2, hOpened,
    Relation.ReflTransGen.single (.aivSend _ _ _), by decide +kernel, by decide +kernel, ?_⟩
  intro hExact
  have hSum := hExact.send_eq
  revert hSum
  decide +kernel

end NdsStorage.Client
