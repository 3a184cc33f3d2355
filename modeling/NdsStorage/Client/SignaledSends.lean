import NdsStorage.Client.BatchSends
import NdsStorage.Client.CreditRuns

/-! What a successful send has seen. A call that signals requests waits until
its credits have grown by what their reports pay back. The credits do not say
whose reports these were: the reports of an earlier call that gave up on them
count as well. So the calls are followed together with the completions they
poll. -/
namespace NdsStorage.Client

section Polls

/-- A poll of the send completion queue with the entries that it consumes. -/
structure Polled where
  succeeded : Bool
  completions : List Cqe
  left : TransportQp

def devicePoll (reclaim : DeviceReclaim) (completions : Arrivals → TransportQp → List Cqe)
    (arrivals : Arrivals) (qp : TransportQp) : Polled where
  succeeded := (reclaim true arrivals qp).1 = .success
  completions := completions arrivals qp
  left := (reclaim true arrivals qp).2

def aivPoll : Arrivals → TransportQp → Polled :=
  devicePoll aivReclaimTransportCq fun arrivals qp =>
    if sendCqReadable qp.descriptor then
      ((qp.arrive arrivals).send.reap (pollMove true qp.descriptor.sendQueue.depth)
        kMaxCompletions).1
    else []

def aicpuPoll : Arrivals → TransportQp → Polled :=
  devicePoll aicpuReclaim fun arrivals qp =>
    match (aicpuPollCq true arrivals qp).1 with
    | .ok completions => completions
    | .error _ => []

def raPoll (poll : RaPoll) (qp : TransportQp) : Polled where
  succeeded := (raReclaim true poll qp).1.isOk
  completions :=
    match (raPollCq true poll qp).1 with
    | .ok completions => completions
    | .error _ => []
  left := (raReclaim true poll qp).2

/-- The requests that are to report, in posting order. -/
def signaledPositions (qp : TransportQp) : List Nat := (signaledOutstanding qp).map Cqe.position

/-- A poll consumes the oldest reports, credits each of them and fails if one
of them is a failure. -/
structure FaithfulPoll {Answer : Type} (poll : Answer → TransportQp → Polled) : Prop where
  positions : ∀ answer qp, signaledPositions qp =
    (poll answer qp).completions.map Cqe.position ++ signaledPositions (poll answer qp).left
  statuses : ∀ answer qp, (poll answer qp).succeeded = true →
    ∀ cqe ∈ (poll answer qp).completions, cqe.status = 0
  state_eq : ∀ answer qp, (poll answer qp).left.state =
    transportReclaimSend qp.state (UInt32.ofNat (poll answer qp).completions.length)

/-- Arrivals do not change which signaled requests are outstanding. -/
theorem arrive_signaledPositions (arrivals : Arrivals) (qp : TransportQp) :
    signaledPositions (qp.arrive arrivals) = signaledPositions qp := by
  have hSide : ∀ (statuses : List UInt8) (side : QueueSide),
      ((statuses.foldl QueueSide.complete side).ready ++
        (statuses.foldl QueueSide.complete side).awaiting).map Cqe.position =
      (side.ready ++ side.awaiting).map Cqe.position := by
    intro statuses
    induction statuses with
    | nil => exact fun _ => rfl
    | cons status rest ih =>
        intro side
        rw [List.foldl_cons, ih, QueueSide.complete]
        cases hAwaiting : side.awaiting with
        | nil => simp [hAwaiting]
        | cons cqe later => simp
  exact hSide arrivals.send qp.send

/-- A poll takes from the front of what has arrived. -/
theorem reap_positions (move : QueueCounters → Cqe → QueueCounters) (limit : Nat)
    (side : QueueSide) :
    side.ready = (side.reap move limit).1 ++ (side.reap move limit).2.ready ∧
      (side.reap move limit).2.awaiting = side.awaiting := by
  obtain ⟨hTaken, hLeft, hAwaiting, -⟩ := reap_eq move limit side
  rw [hTaken, hLeft, List.take_append_drop]
  exact ⟨rfl, hAwaiting⟩

/-- Reaping after an arrival, on the send side of a queue pair. -/
theorem reaped_positions (arrivals : Arrivals) (qp left : TransportQp)
    (move : QueueCounters → Cqe → QueueCounters) (limit : Nat)
    (hLeft : left.send = ((qp.arrive arrivals).send.reap move limit).2) :
    signaledPositions qp = ((qp.arrive arrivals).send.reap move limit).1.map Cqe.position ++
      signaledPositions left := by
  obtain ⟨hReady, hAwaiting⟩ := reap_positions move limit (qp.arrive arrivals).send
  rw [← arrive_signaledPositions arrivals qp, signaledPositions, signaledOutstanding, hReady,
    signaledPositions, signaledOutstanding, hLeft, hAwaiting, List.append_assoc, List.map_append]

/-- A poll that reads the queue: what it consumes and leaves. -/
structure Reads (arrivals : Arrivals) (qp : TransportQp) (polled : Polled)
    (move : QueueCounters → Cqe → QueueCounters) (limit : Nat) : Prop where
  completions_eq : polled.completions = ((qp.arrive arrivals).send.reap move limit).1
  send_eq : polled.left.send = ((qp.arrive arrivals).send.reap move limit).2
  state_eq : polled.left.state =
    transportReclaimSend qp.state (UInt32.ofNat polled.completions.length)
  succeeded : polled.succeeded = true → completionFailed polled.completions = false

/-- A poll either reads the queue or leaves it alone. -/
theorem FaithfulPoll.of_reads {Answer : Type} {poll : Answer → TransportQp → Polled}
    (h : ∀ answer qp, (∃ arrivals move limit, Reads arrivals qp (poll answer qp) move limit) ∨
      (poll answer qp).completions = [] ∧ (poll answer qp).left.state = qp.state ∧
        signaledPositions (poll answer qp).left = signaledPositions qp) : FaithfulPoll poll where
  positions := by
    intro answer qp
    obtain ⟨arrivals, move, limit, hReads⟩ | ⟨hNone, -, hSame⟩ := h answer qp
    · rw [hReads.completions_eq]
      exact reaped_positions arrivals qp _ move limit hReads.send_eq
    · rw [hNone, hSame]
      rfl
  statuses := by
    intro answer qp hSucceeded
    obtain ⟨arrivals, move, limit, hReads⟩ | ⟨hNone, -⟩ := h answer qp
    · exact statuses_of_success (hReads.succeeded hSucceeded)
    · rw [hNone]
      simp
  state_eq := by
    intro answer qp
    obtain ⟨arrivals, move, limit, hReads⟩ | ⟨hNone, hState, -⟩ := h answer qp
    · exact hReads.state_eq
    · rw [hNone, hState]
      exact (SendView.reclaimSend_zero qp.state).symm

theorem aivPoll_faithful : FaithfulPoll aivPoll := by
  apply FaithfulPoll.of_reads
  intro arrivals qp
  by_cases hReadable : sendCqReadable qp.descriptor
  · left
    have hPolled : aivReclaimTransportCq true arrivals qp =
        (reclaimStatus ((qp.arrive arrivals).send.reap
            (pollMove true qp.descriptor.sendQueue.depth) kMaxCompletions).1,
          transportReclaim true ((qp.arrive arrivals).send.reap
            (pollMove true qp.descriptor.sendQueue.depth) kMaxCompletions).1
            ((qp.arrive arrivals).setSide true ((qp.arrive arrivals).send.reap
              (pollMove true qp.descriptor.sendQueue.depth) kMaxCompletions).2)) :=
      if_neg hReadable
    refine ⟨arrivals, pollMove true qp.descriptor.sendQueue.depth, kMaxCompletions, ?_⟩
    simp only [aivPoll, devicePoll, if_pos hReadable, hPolled]
    exact {
      completions_eq := rfl
      send_eq := rfl
      state_eq := rfl
      succeeded := fun hSuccess => reclaimStatus_success (by simpa using hSuccess) }
  · right
    have hPolled : aivReclaimTransportCq true arrivals qp =
        (.invalidArgument, qp.arrive arrivals) := if_pos (Decidable.of_not_not hReadable)
    simp only [aivPoll, devicePoll, if_neg hReadable, hPolled]
    exact ⟨trivial, rfl, arrive_signaledPositions arrivals qp⟩

theorem aicpuPoll_faithful : FaithfulPoll aicpuPoll := by
  apply FaithfulPoll.of_reads
  intro arrivals qp
  by_cases hRefused : qp.descriptor.sendCq.bufferAddress = 0 ∨
      qp.descriptor.sendCq.consumerAddress = 0 ∨ qp.descriptor.sendCq.depth = 0 ∨
      qp.descriptor.sendCq.entrySize < kHnsHwCqeBytes ∨
      qp.descriptor.sendQueue.tailAddress = 0 ∨ qp.descriptor.sendQueue.wrIdAddress = 0
  · right
    have hPolled : aicpuPollCq true arrivals qp = (.error .invalidArgument, qp.arrive arrivals) :=
      if_pos hRefused
    simp only [aicpuPoll, devicePoll, aicpuReclaim, hPolled]
    exact ⟨trivial, rfl, arrive_signaledPositions arrivals qp⟩
  · left
    have hPolled : aicpuPollCq true arrivals qp =
        (.ok ((qp.arrive arrivals).send.reap (pollMove true qp.descriptor.sendQueue.depth)
            kMaxCompletions).1,
          (qp.arrive arrivals).setSide true ((qp.arrive arrivals).send.reap
            (pollMove true qp.descriptor.sendQueue.depth) kMaxCompletions).2) := if_neg hRefused
    refine ⟨arrivals, pollMove true qp.descriptor.sendQueue.depth, kMaxCompletions, ?_⟩
    simp only [aicpuPoll, devicePoll, aicpuReclaim, hPolled]
    exact {
      completions_eq := rfl
      send_eq := rfl
      state_eq := rfl
      succeeded := fun hSuccess => reclaimStatus_success (by simpa using hSuccess) }

theorem raPoll_faithful : FaithfulPoll raPoll := by
  apply FaithfulPoll.of_reads
  intro poll qp
  cases poll with
  | invalid result => exact .inr ⟨rfl, rfl, rfl⟩
  | polled arrivals count =>
      left
      refine ⟨arrivals, fun counters _ => counters, min count kMaxCompletions, ?_⟩
      simp only [raPoll, raReclaim, raPollCq]
      split
      · exact {
          completions_eq := rfl
          send_eq := rfl
          state_eq := rfl
          succeeded := fun hSuccess => by cases hSuccess }
      · rename_i hFine
        exact {
          completions_eq := rfl
          send_eq := rfl
          state_eq := rfl
          succeeded := fun _ => by simpa using hFine }

end Polls

section Waits

variable {Answer : Type} {poll : Answer → TransportQp → Polled}

/-- A wait for credits with the completions that it polls. -/
def waitLog (poll : Answer → TransportQp → Polled) (target : UInt32) :
    List Answer → TransportQp → Polled
  | [], qp => { succeeded := ¬ qp.state.sendCredits < target, completions := [], left := qp }
  | answer :: rest, qp =>
      if qp.state.sendCredits < target then
        let polled := poll answer qp
        if polled.succeeded then
          let later := waitLog poll target rest polled.left
          { later with completions := polled.completions ++ later.completions }
        else polled
      else { succeeded := true, completions := [], left := qp }

/-- The log of a device's wait, and what the wait returns. -/
theorem deviceWait_log (reclaim : DeviceReclaim)
    (completions : Arrivals → TransportQp → List Cqe) (target : UInt32) (polls : List Arrivals)
    (qp : TransportQp) :
    ((waitLog (devicePoll reclaim completions) target polls qp).succeeded = true ↔
        (waitForSendCompletion reclaim target polls qp).1 = some .success) ∧
      (waitLog (devicePoll reclaim completions) target polls qp).left =
        (waitForSendCompletion reclaim target polls qp).2 := by
  induction polls generalizing qp with
  | nil =>
      rw [waitLog, waitForSendCompletion]
      split
      · rename_i hOpen
        simp [hOpen]
      · rename_i hPaid
        simp [hPaid]
  | cons arrivals rest ih =>
      rw [waitLog, waitForSendCompletion]
      split
      · by_cases hSuccess : (reclaim true arrivals qp).1 = .success
        · simp only [devicePoll, hSuccess, decide_true, if_true, ne_eq, not_true_eq_false, if_false]
          exact ih _
        · simp only [devicePoll, hSuccess, decide_false, Bool.false_eq_true, if_false, ne_eq,
            not_false_eq_true, if_true, Option.some.injEq, and_self]
      · simp

/-- The log of a wait of the host, and what the wait returns. -/
theorem raWait_log (target : UInt32) (polls : List RaPoll) (qp : TransportQp) :
    ((waitLog raPoll target polls qp).succeeded = true ↔
        (raWaitForSendCompletion target polls qp).1 = .ok ()) ∧
      (waitLog raPoll target polls qp).left = (raWaitForSendCompletion target polls qp).2 := by
  induction polls generalizing qp with
  | nil =>
      rw [waitLog, raWaitForSendCompletion]
      split
      · rename_i hPaid
        simp [UInt32.not_lt.mpr hPaid]
      · rename_i hOpen
        simp [UInt32.not_le.mp hOpen]
  | cons poll rest ih =>
      rw [waitLog, raWaitForSendCompletion]
      split
      · generalize hPolled : raReclaim true poll qp = polled
        obtain ⟨outcome, left⟩ := polled
        cases outcome with
        | error error =>
            simp [raPoll, hPolled, Except.isOk, Except.toBool]
        | ok count =>
            simp only [raPoll, hPolled, Except.isOk, Except.toBool, if_true]
            exact ih left
      · simp

/-- A wait adds no report. -/
theorem waitLog_empty (hPoll : FaithfulPoll poll) {target : UInt32} {answers : List Answer}
    {qp : TransportQp} (hNone : signaledPositions qp = []) :
    signaledPositions (waitLog poll target answers qp).left = [] := by
  induction answers generalizing qp with
  | nil => exact hNone
  | cons answer rest ih =>
      have hPositions := hPoll.positions answer qp
      rw [hNone] at hPositions
      have hLeft := (List.append_eq_nil_iff.mp hPositions.symm).2
      rw [waitLog]
      dsimp only
      split
      · split
        · exact ih hLeft
        · exact hLeft
      · exact hNone

/-- A wait for exactly the credits of the reports that are out has polled all
of them, and they were successes. -/
theorem waitLog_complete (hPoll : FaithfulPoll poll) {target : UInt32} {answers : List Answer}
    {qp : TransportQp} (hInterval : qp.state.signalInterval = kTransportSignalInterval)
    (hTarget : target.toNat = qp.state.sendCredits.toNat + 32 * (signaledPositions qp).length)
    (hDone : (waitLog poll target answers qp).succeeded = true) :
    (waitLog poll target answers qp).completions.map Cqe.position = signaledPositions qp ∧
      (∀ cqe ∈ (waitLog poll target answers qp).completions, cqe.status = 0) ∧
      signaledPositions (waitLog poll target answers qp).left = [] := by
  have hPaid : ∀ qp : TransportQp,
      target.toNat = qp.state.sendCredits.toNat + 32 * (signaledPositions qp).length →
      ¬ qp.state.sendCredits < target → signaledPositions qp = [] := by
    intro qp hTarget hEnough
    rw [UInt32.lt_iff_toNat_lt] at hEnough
    apply List.eq_nil_of_length_eq_zero
    omega
  induction answers generalizing qp with
  | nil =>
      rw [waitLog] at hDone ⊢
      have hNone := hPaid qp hTarget (by simpa using hDone)
      exact ⟨hNone.symm, by simp, hNone⟩
  | cons answer rest ih =>
      rw [waitLog] at hDone ⊢
      by_cases hOpen : qp.state.sendCredits < target
      · rw [if_pos hOpen] at hDone ⊢
        dsimp only at hDone ⊢
        cases hSucceeded : (poll answer qp).succeeded with
        | false =>
            rw [hSucceeded] at hDone
            simp [hSucceeded] at hDone
        | true =>
            rw [hSucceeded, if_pos rfl] at hDone
            rw [if_pos rfl]
            have hPositions := hPoll.positions answer qp
            have hState := hPoll.state_eq answer qp
            have hLength := congrArg List.length hPositions
            rw [List.length_append, List.length_map] at hLength
            have hActive : (poll answer qp).left.state.signalInterval =
                kTransportSignalInterval := by
              rw [hState, transportReclaimSend]
              split <;> exact hInterval
            have hCredits : (poll answer qp).left.state.sendCredits.toNat =
                qp.state.sendCredits.toNat + 32 * (poll answer qp).completions.length := by
              have hWord := target.toNat_lt
              have hPayment : kTransportSignalInterval.toNat = 32 := rfl
              rw [hState, transportReclaimSend, if_neg (by rw [hInterval]; decide), hInterval]
              simp only [UInt32.toNat_add, UInt32.toNat_mul, UInt32.toNat_ofNat', hPayment]
              omega
            have hNext : target.toNat = (poll answer qp).left.state.sendCredits.toNat +
                32 * (signaledPositions (poll answer qp).left).length := by
              omega
            obtain ⟨hRest, hStatuses, hNone⟩ := ih hActive hNext hDone
            refine ⟨?_, ?_, hNone⟩
            · rw [List.map_append, hRest, hPositions]
            · intro cqe hCqe
              rcases List.mem_append.mp hCqe with hFirst | hLater
              · exact hPoll.statuses answer qp hSucceeded cqe hFirst
              · exact hStatuses cqe hLater
      · rw [if_neg hOpen]
        have hNone := hPaid qp hTarget hOpen
        exact ⟨hNone.symm, by simp, hNone⟩

end Waits

section Sends

/-- What a call has posted when its wait begins. -/
inductive Handover where
  | refused (left : TransportQp)
  | posted (left : TransportQp) (target : Option UInt32) (whole : Bool)

/-- A call with the signaled requests that it posts and the completions that it
polls. -/
structure SendLog where
  succeeded : Bool
  signaled : List Nat
  polled : List Cqe
  left : TransportQp

/-- The signaled requests of the second state that the first one does not have. -/
def newSignals (before after : TransportQp) : List Nat :=
  (signaledPositions after).drop (signaledPositions before).length

variable {Answer : Type}

/-- The poll that a call makes before it posts. -/
def firstPoll (poll : Answer → TransportQp → Polled) (pollsFirst : Bool) (first : Answer)
    (qp : TransportQp) : Polled :=
  if pollsFirst then poll first qp else { succeeded := true, completions := [], left := qp }

/-- A call posts and waits for the reports that it has asked for. -/
def postLog (poll : Answer → TransportQp → Polled) (posting : TransportQp → Handover)
    (polls : List Answer) (found : Polled) : SendLog :=
  match posting found.left with
  | .refused left =>
      { succeeded := false, signaled := [], polled := found.completions, left := left }
  | .posted left none whole =>
      { succeeded := whole
        signaled := newSignals found.left left
        polled := found.completions
        left := left }
  | .posted left (some target) whole =>
      let waited := waitLog poll target polls left
      { succeeded := waited.succeeded && whole
        signaled := newSignals found.left left
        polled := found.completions ++ waited.completions
        left := waited.left }

/-- A whole call. It polls first if it has to. -/
def sendLog (poll : Answer → TransportQp → Polled) (admitted pollsFirst : Bool)
    (posting : TransportQp → Handover) (first : Answer) (polls : List Answer) (qp : TransportQp) :
    SendLog :=
  if !admitted then { succeeded := false, signaled := [], polled := [], left := qp }
  else
    let found := firstPoll poll pollsFirst first qp
    if !found.succeeded then
      { succeeded := false, signaled := [], polled := found.completions, left := found.left }
    else postLog poll posting polls found

/-- Every signaled request of the call has been polled with success. -/
def SendLog.Reported (log : SendLog) : Prop :=
  ∀ position ∈ log.signaled, ∃ cqe ∈ log.polled, cqe.position = position ∧ cqe.status = 0

/-- The credits that a call waits for are those of the reports that were out
before it and of the reports that it has asked for. A call that does not see its
post refused waits although it has asked for none. -/
structure Handover.Due (found left : TransportQp) (target : Option UInt32) : Prop where
  interval_eq : left.state.signalInterval = kTransportSignalInterval
  silent : target = none → (signaledPositions left).length = (signaledPositions found).length
  awaited : ∀ credits, target = some credits →
    signaledPositions left = signaledPositions found ∨
      credits.toNat + 32 * (signaledPositions found).length =
        left.state.sendCredits.toNat + 32 * (signaledPositions left).length

/-- A report that is out before a call is gone once the call posts, provided
that the call polls first. -/
theorem firstPoll_clears {poll : Answer → TransportQp → Polled} (hPoll : FaithfulPoll poll)
    {pollsFirst : Bool} {posting : TransportQp → Handover} {first : Answer} {qp : TransportQp}
    (hFruitless : pollsFirst = true → (poll first qp).completions = [] →
      ∃ left, posting (poll first qp).left = .refused left)
    (hNone : (signaledPositions qp).length ≤ if pollsFirst then 1 else 0)
    {left : TransportQp} {target : Option UInt32} {whole : Bool}
    (hPosting : posting (firstPoll poll pollsFirst first qp).left = .posted left target whole) :
    signaledPositions (firstPoll poll pollsFirst first qp).left = [] := by
  cases pollsFirst with
  | false => exact List.eq_nil_of_length_eq_zero (Nat.le_zero.mp hNone)
  | true =>
      change posting (poll first qp).left = _ at hPosting
      show signaledPositions (poll first qp).left = []
      rw [if_pos rfl] at hNone
      have hSome : (poll first qp).completions ≠ [] := by
        intro hNothing
        obtain ⟨other, hRefused⟩ := hFruitless rfl hNothing
        rw [hPosting] at hRefused
        cases hRefused
      have hPositive := List.length_pos_iff.mpr hSome
      have hPositions := congrArg List.length (hPoll.positions first qp)
      rw [List.length_append, List.length_map] at hPositions
      apply List.eq_nil_of_length_eq_zero
      omega

/-- A call that finds no older report and returns success has polled its own. -/
theorem sendLog_reported {poll : Answer → TransportQp → Polled} (hPoll : FaithfulPoll poll)
    {admitted pollsFirst : Bool} {posting : TransportQp → Handover} {first : Answer}
    {polls : List Answer} {qp : TransportQp}
    (hDue : ∀ left target whole,
      posting (firstPoll poll pollsFirst first qp).left = .posted left target whole →
      Handover.Due (firstPoll poll pollsFirst first qp).left left target)
    (hFruitless : pollsFirst = true → (poll first qp).completions = [] →
      ∃ left, posting (poll first qp).left = .refused left)
    (hNone : (signaledPositions qp).length ≤ if pollsFirst then 1 else 0)
    (hDone : (sendLog poll admitted pollsFirst posting first polls qp).succeeded = true) :
    (sendLog poll admitted pollsFirst posting first polls qp).Reported ∧
      signaledPositions (sendLog poll admitted pollsFirst posting first polls qp).left = [] := by
  have hClears := @firstPoll_clears Answer poll hPoll pollsFirst posting first qp hFruitless hNone
  unfold sendLog at hDone ⊢
  generalize firstPoll poll pollsFirst first qp = found at hDue hClears hDone ⊢
  cases admitted with
  | false => cases hDone
  | true =>
      cases hSucceeded : found.succeeded with
      | false =>
          simp [hSucceeded] at hDone
      | true =>
          simp only [hSucceeded, Bool.not_true, Bool.false_eq_true, if_false, postLog] at hDone ⊢
          cases hPosting : posting found.left with
          | refused left =>
              rw [hPosting] at hDone
              cases hDone
          | posted left target whole =>
              have hEmpty := hClears hPosting
              have hOwed := hDue left target whole hPosting
              have hNew : newSignals found.left left = signaledPositions left := by
                rw [newSignals, hEmpty]
                rfl
              rw [hPosting] at hDone
              cases target with
              | none =>
                  have hSilent : signaledPositions left = [] := by
                    apply List.eq_nil_of_length_eq_zero
                    rw [hOwed.silent rfl, hEmpty]
                    rfl
                  refine ⟨fun position hPosition => ?_, hSilent⟩
                  change position ∈ newSignals found.left left at hPosition
                  rw [hNew, hSilent] at hPosition
                  cases hPosition
              | some credits =>
                  have hTarget := hOwed.awaited credits rfl
                  rw [hEmpty] at hTarget
                  rcases hTarget with hNothing | hTarget
                  · refine ⟨fun position hPosition => ?_, waitLog_empty hPoll hNothing⟩
                    change position ∈ newSignals found.left left at hPosition
                    rw [hNew, hNothing] at hPosition
                    cases hPosition
                  obtain ⟨hPositions, hStatuses, hLeft⟩ := waitLog_complete hPoll
                    hOwed.interval_eq hTarget (Bool.and_eq_true_iff.mp hDone).1
                  refine ⟨fun position hPosition => ?_, hLeft⟩
                  change position ∈ newSignals found.left left at hPosition
                  rw [hNew, ← hPositions] at hPosition
                  obtain ⟨cqe, hCqe, hAt⟩ := List.mem_map.mp hPosition
                  exact ⟨cqe, List.mem_append_right _ hCqe, hAt, hStatuses cqe hCqe⟩

/-- A single request is posted with a credit, and its report is awaited. -/
def sendPosting (post : SendWr → TransportQp → Bool × TransportQp) (wr : SendWr)
    (qp : TransportQp) : Handover :=
  if qp.state.sendCredits = 0 then .refused qp
  else
    let signaled := transportShouldSignal qp.state
    let posted := post (wr.scheduled signaled) qp
    if !posted.1 then .refused posted.2
    else
      match transportRecordSend qp.state signaled with
      | none => .refused posted.2
      | some state =>
          .posted { posted.2 with state := state }
            (if signaled then some (state.sendCredits + state.signalInterval) else none) true

/-- A batch is posted up to its limit, and all its reports are awaited. -/
def batchPosting (wrs : List SendWr) (qp : TransportQp) : Handover :=
  if !wrs.all aivValidSendWr || batchLimit wrs qp = 0 then .refused qp
  else
    let filled := batchFilled wrs qp
    .posted filled
      (if batchSignals wrs qp ≠ 0 then
        some (filled.state.sendCredits + batchSignals wrs qp * filled.state.signalInterval)
      else none)
      (batchLimit wrs qp = wrs.length)

section Dues

variable {account : Account} {qp : TransportQp}

/-- Each outstanding signaled request has one position. -/
theorem signaledPositions_length (qp : TransportQp) :
    (signaledPositions qp).length = (signaledOutstanding qp).length := List.length_map ..

/-- A send that is posted owes its completion from then on. -/
theorem sendPosting_due {post : SendWr → TransportQp → Bool × TransportQp} {wr : SendWr}
    (h : account.Exact qp)
    (hAccepted : ∀ wr, (post wr qp).1 = true →
      ((post wr qp).2.descriptor = qp.descriptor ∧ (post wr qp).2.unrung = qp.unrung ∧
        (post wr qp).2.receive = qp.receive ∧
        { (post wr qp).2.send with wrIds := qp.send.wrIds } =
          qp.send.handOver (decide (wr.flags &&& kSendSignaled ≠ 0))) ∨
      ∃ wrIds, (post wr qp).2 = { qp with send.wrIds := wrIds })
    {left : TransportQp} {target : Option UInt32} {whole : Bool}
    (hPosting : sendPosting post wr qp = .posted left target whole) :
    Handover.Due qp left target := by
  unfold sendPosting at hPosting
  dsimp only at hPosting
  split at hPosting
  · cases hPosting
  split at hPosting
  · cases hPosting
  rename_i hCredits hPosted
  rcases hAccepted _ (by simpa using hPosted) with ⟨hDescriptor, hUnrung, hReceive, hSend⟩ |
    ⟨wrIds, hUnposted⟩
  case inr =>
    rw [hUnposted] at hPosting
    split at hPosting
    · cases hPosting
    · rename_i state hRecord
      obtain ⟨-, hState⟩ := Account.recordSend_some hRecord
      cases hPosting
      refine ⟨?_, fun _ => rfl, fun _ _ => .inl rfl⟩
      exact (congrArg TransportQpState.signalInterval hState).trans h.interval_eq
  rw [Account.scheduled_signaled] at hSend
  split at hPosting
  · cases hPosting
  · rename_i state hRecord
    have hCharged := h.chargeSend hRecord hDescriptor hUnrung hReceive hSend
    cases hPosting
    have hLength : (signaledOutstanding
        { (post (wr.scheduled (transportShouldSignal qp.state)) qp).2 with state := state }).length =
        (signaledOutstanding qp).length + if transportShouldSignal qp.state then 1 else 0 := by
      have hReady := congrArg QueueSide.ready hSend
      have hAwaiting := congrArg QueueSide.awaiting hSend
      change (post _ qp).2.send.ready = qp.send.ready at hReady
      change (post _ qp).2.send.awaiting = _ at hAwaiting
      rw [signaledOutstanding, signaledOutstanding, hReady, hAwaiting, QueueSide.handOver]
      dsimp only
      split
      · simp
        omega
      · simp
    have hBound := credits_add_pending hCharged
    have hInterval := hCharged.interval_eq
    constructor
    · exact hInterval
    · intro hSilent
      rw [signaledPositions_length, signaledPositions_length, hLength]
      split at hSilent
      · cases hSilent
      · rename_i hUnsignaled
        rw [if_neg hUnsignaled]
        rfl
    · intro credits hTarget
      rw [signaledPositions_length, signaledPositions_length]
      split at hTarget
      · rename_i hSignaled
        cases hTarget
        right
        rw [if_pos hSignaled] at hLength
        have hPayment : kTransportSignalInterval.toNat = 32 := rfl
        change state.signalInterval = _ at hInterval
        rw [hLength] at hBound ⊢
        change state.sendCredits.toNat + _ < _ at hBound
        simp only [UInt32.toNat_add, hInterval, hPayment]
        omega
      · cases hTarget

theorem batchPosting_due {wrs : List SendWr} (h : account.Exact qp) {left : TransportQp}
    {target : Option UInt32} {whole : Bool}
    (hPosting : batchPosting wrs qp = .posted left target whole) :
    Handover.Due qp left target := by
  unfold batchPosting at hPosting
  dsimp only at hPosting
  split at hPosting
  · cases hPosting
  · cases hPosting
    have hActive : qp.state.signalInterval ≠ 0 := by
      rw [h.interval_eq]
      decide
    have hFilled := (@batchFilled_exact account qp wrs h).1
    have hBound := credits_add_pending hFilled
    obtain ⟨hCharges, hCount⟩ := @batchFilled_charges qp wrs hActive
    have hMore := (charges_ready (wrs.take (batchLimit wrs qp)) qp).2.2
    rw [← hCharges] at hMore
    have hSignals : (batchSignals wrs qp).toNat + (signaledOutstanding qp).length =
        (signaledOutstanding (batchFilled wrs qp)).length := by
      have hSum := congrArg UInt32.toNat hCount
      have hWord := (batchSignals wrs qp).toNat_lt
      simp only [UInt32.toNat_add, UInt32.toNat_ofNat'] at hSum
      omega
    constructor
    · exact hFilled.interval_eq
    · intro hSilent
      rw [signaledPositions_length, signaledPositions_length]
      split at hSilent
      · cases hSilent
      · rename_i hZero
        rw [Decidable.of_not_not hZero] at hSignals
        change 0 + _ = _ at hSignals
        omega
    · intro credits hTarget
      rw [signaledPositions_length, signaledPositions_length]
      split at hTarget
      · cases hTarget
        right
        have hPayment : kTransportSignalInterval.toNat = 32 := rfl
        simp only [UInt32.toNat_add, UInt32.toNat_mul, hFilled.interval_eq, hPayment]
        omega
      · cases hTarget

end Dues

/-- A post of device code, as a success or a failure. -/
def devicePosts (post : SendWr → TransportQp → OperationStatus × TransportQp) (wr : SendWr)
    (qp : TransportQp) : Bool × TransportQp :=
  ((post wr qp).1 = .success, (post wr qp).2)

/-- A post of the vector core as its caller sees it. -/
def aivObservedPost (returnValue : Bool) (wr : SendWr) (qp : TransportQp) :
    OperationStatus × TransportQp :=
  let posted := aivPostSend wr qp
  (if returnValue then posted.1 else .success, posted.2)

/-- Whatever its caller sees, the post hands its request over or does nothing. -/
theorem aivObservedPost_cases (returnValue : Bool) (wr : SendWr) (qp : TransportQp) :
    ((aivObservedPost returnValue wr qp).2.descriptor = qp.descriptor ∧
      (aivObservedPost returnValue wr qp).2.unrung = qp.unrung ∧
      (aivObservedPost returnValue wr qp).2.receive = qp.receive ∧
      { (aivObservedPost returnValue wr qp).2.send with wrIds := qp.send.wrIds } =
        qp.send.handOver (decide (wr.flags &&& kSendSignaled ≠ 0))) ∨
    ∃ wrIds, (aivObservedPost returnValue wr qp).2 = { qp with send.wrIds := wrIds } := by
  by_cases hPosted : (aivPostSend wr qp).1 = .success
  · exact .inl (Account.aivPostSend_handsOver.accepted wr qp hPosted)
  · exact .inr (Account.aivPostSend_handsOver.refused wr qp hPosted)

def raPosts (results : RaSendResults) (wr : SendWr) (qp : TransportQp) : Bool × TransportQp :=
  ((raPostSend wr results qp).1.isOk, (raPostSend wr results qp).2)

/-- A successful post of the host hands its one request over. -/
theorem raPosts_accepted {results : RaSendResults} {wr : SendWr} {qp : TransportQp}
    (hUnrung : qp.unrung = []) (hPosted : (raPosts results wr qp).1 = true) :
    (raPosts results wr qp).2.descriptor = qp.descriptor ∧
      (raPosts results wr qp).2.unrung = qp.unrung ∧
      (raPosts results wr qp).2.receive = qp.receive ∧
      { (raPosts results wr qp).2.send with wrIds := qp.send.wrIds } =
        qp.send.handOver (decide (wr.flags &&& kSendSignaled ≠ 0)) := by
  unfold raPosts raPostSend raPrepareSend at hPosted ⊢
  split_ifs at hPosted ⊢
  · cases hPosted
  · cases hPosted
  · unfold raRingSend at hPosted ⊢
    dsimp only at hPosted ⊢
    split_ifs at hPosted ⊢
    · cases hPosted
    · cases hPosted
    · rw [hUnrung]
      exact ⟨rfl, rfl, rfl, rfl⟩

/-- The log of a device's send, and what the send returns. -/
theorem devicePostSend_log (reclaim : DeviceReclaim)
    (completions : Arrivals → TransportQp → List Cqe)
    (post : SendWr → TransportQp → OperationStatus × TransportQp) (wr : SendWr) (first : Arrivals)
    (polls : List Arrivals) (qp : TransportQp) :
    ((sendLog (devicePoll reclaim completions) (qp.state.signalInterval ≠ 0)
          (qp.state.sendCredits = 0) (sendPosting (devicePosts post) wr) first polls
          qp).succeeded = true ↔
        (devicePostSend reclaim post wr first polls qp).1 = some .success) ∧
      (sendLog (devicePoll reclaim completions) (qp.state.signalInterval ≠ 0)
          (qp.state.sendCredits = 0) (sendPosting (devicePosts post) wr) first polls qp).left =
        (devicePostSend reclaim post wr first polls qp).2 := by
  unfold sendLog devicePostSend
  by_cases hActive : qp.state.signalInterval = 0
  · simp [hActive]
  · have hFirst : (firstPoll (devicePoll reclaim completions) (qp.state.sendCredits = 0) first
          qp).succeeded = decide ((reclaimIfNeeded reclaim true first qp).1 = .success) ∧
        (firstPoll (devicePoll reclaim completions) (qp.state.sendCredits = 0) first qp).left =
          (reclaimIfNeeded reclaim true first qp).2 := by
      by_cases hCredits : qp.state.sendCredits = 0
      · simp [firstPoll, reclaimIfNeeded, transportCredits, hCredits, devicePoll]
      · simp [firstPoll, reclaimIfNeeded, transportCredits, hCredits]
    generalize firstPoll (devicePoll reclaim completions) (qp.state.sendCredits = 0) first qp =
      found at hFirst ⊢
    generalize reclaimIfNeeded reclaim true first qp = reclaimed at hFirst ⊢
    obtain ⟨hSucceeded, hLeft⟩ := hFirst
    rw [if_neg hActive]
    by_cases hReclaimed : reclaimed.1 = .success
    · by_cases hCredits : reclaimed.2.state.sendCredits = 0
      · simp [hActive, hSucceeded, hReclaimed, hLeft, postLog, sendPosting, hCredits]
      · simp only [hActive, hSucceeded, hReclaimed, hLeft, postLog, sendPosting, hCredits,
          devicePosts, ne_eq, not_false_eq_true, decide_true, Bool.not_true, Bool.false_eq_true,
          if_false,
          not_true_eq_false]
        generalize transportShouldSignal reclaimed.2.state = signaled
        by_cases hPosted : (post (wr.scheduled signaled) reclaimed.2).1 = .success
        · have hRecord : transportRecordSend reclaimed.2.state signaled = some _ :=
            if_neg hCredits
          cases signaled with
          | false => simp [hPosted, hRecord]
          | true =>
              simp only [hPosted, hRecord, decide_true, Bool.not_true, Bool.false_eq_true,
                if_false, not_true_eq_false, if_true, Bool.and_true]
              exact deviceWait_log reclaim completions _ polls _
        · simp [hPosted]
    · simp [hActive, hSucceeded, hReclaimed, hLeft]

/-- The wait of a posted batch, with its log. -/
theorem batchWaited_log (wrs : List SendWr) (polls : List Arrivals) (qp : TransportQp)
    (hSignals : batchSignals wrs qp ≠ 0) :
    ((waitLog aivPoll ((batchFilled wrs qp).state.sendCredits +
          batchSignals wrs qp * (batchFilled wrs qp).state.signalInterval) polls
          (batchFilled wrs qp)).succeeded = true ↔
        (batchWaited wrs polls qp).1 = some .success) ∧
      (waitLog aivPoll ((batchFilled wrs qp).state.sendCredits +
          batchSignals wrs qp * (batchFilled wrs qp).state.signalInterval) polls
          (batchFilled wrs qp)).left = (batchWaited wrs polls qp).2 := by
  rw [batchWaited, if_pos hSignals]
  exact deviceWait_log aivReclaimTransportCq _ _ polls (batchFilled wrs qp)

/-- The log of a batch past its checks, and what the batch returns. -/
theorem postPrefix_log (wrs : List SendWr) (polls : List Arrivals) (found : Polled) :
    ((postLog aivPoll (batchPosting wrs) polls found).succeeded = true ↔
        (postPrefix wrs polls found.left).1.status = some .success) ∧
      (postLog aivPoll (batchPosting wrs) polls found).left =
        (postPrefix wrs polls found.left).2 := by
  unfold postLog batchPosting
  dsimp only
  rcases postPrefix_cases wrs polls found.left with ⟨hNothing, bad, status, hWhole, -, hFailed⟩ |
    ⟨hValid, hSome, hFinish, hOutcome⟩
  · have hRefused : (!wrs.all aivValidSendWr || decide (batchLimit wrs found.left = 0)) = true := by
      simpa [List.all_eq_true] using hNothing
    rw [if_pos hRefused, hWhole]
    simp [hFailed]
  · have hAccepted : ¬(!wrs.all aivValidSendWr || decide (batchLimit wrs found.left = 0)) = true := by
      simpa [List.all_eq_true] using ⟨hValid, Nat.pos_iff_ne_zero.mp hSome⟩
    rw [if_neg hAccepted, hFinish, hOutcome]
    by_cases hSignals : batchSignals wrs found.left ≠ 0
    · obtain ⟨hDone, hLeft⟩ := batchWaited_log wrs polls found.left hSignals
      rw [if_pos hSignals]
      refine ⟨?_, hLeft⟩
      simp only [Bool.and_eq_true, hDone]
      split
      · rename_i hFailed
        simp [hFailed]
      · rename_i hWaited
        split
        · rename_i hPart
          simp [hPart]
        · rename_i hAll
          simpa using ⟨Decidable.of_not_not hWaited, Decidable.of_not_not hAll⟩
    · rw [if_neg hSignals, batchWaited, if_neg hSignals]
      refine ⟨?_, rfl⟩
      simp only [ne_eq, not_true_eq_false, if_false]
      split
      · rename_i hPart
        simp [hPart]
      · rename_i hAll
        simpa using Decidable.of_not_not hAll

/-- The log of a send of the host, and what the send returns. -/
theorem raPost_log (wr : SendWr) (results : RaSendResults) (first : RaPoll) (polls : List RaPoll)
    (qp : TransportQp) :
    ((sendLog raPoll (qp.state.signalInterval ≠ 0) (qp.state.sendCredits = 0)
          (sendPosting (raPosts results) wr) first polls qp).succeeded = true ↔
        (raPost wr results first polls qp).1 = .ok ()) ∧
      (sendLog raPoll (qp.state.signalInterval ≠ 0) (qp.state.sendCredits = 0)
          (sendPosting (raPosts results) wr) first polls qp).left =
        (raPost wr results first polls qp).2 := by
  unfold sendLog raPost
  by_cases hActive : qp.state.signalInterval = 0
  · simp [hActive]
  · have hFirst : (firstPoll raPoll (qp.state.sendCredits = 0) first qp).succeeded =
          (raReclaimIfNeeded true first qp).1.isOk ∧
        (firstPoll raPoll (qp.state.sendCredits = 0) first qp).left =
          (raReclaimIfNeeded true first qp).2 := by
      by_cases hCredits : qp.state.sendCredits = 0
      · simp only [firstPoll, raReclaimIfNeeded, transportCredits, hCredits, if_true, decide_true,
          raPoll]
        generalize raReclaim true first qp = reclaimed
        obtain ⟨outcome, left⟩ := reclaimed
        cases outcome with
        | error error => exact ⟨rfl, rfl⟩
        | ok count => exact ⟨rfl, rfl⟩
      · simp [firstPoll, raReclaimIfNeeded, transportCredits, hCredits, Except.isOk, Except.toBool]
    generalize firstPoll raPoll (qp.state.sendCredits = 0) first qp = found at hFirst ⊢
    generalize raReclaimIfNeeded true first qp = reclaimed at hFirst ⊢
    obtain ⟨outcome, reached⟩ := reclaimed
    obtain ⟨hSucceeded, hLeft⟩ := hFirst
    rw [if_neg hActive]
    cases outcome with
    | error error => simp [hActive, hSucceeded, hLeft, Except.isOk, Except.toBool]
    | ok _ =>
        by_cases hCredits : reached.state.sendCredits = 0
        · simp [hActive, hSucceeded, hLeft, postLog, sendPosting, hCredits, Except.isOk, Except.toBool]
        · simp only [hActive, hSucceeded, hLeft, postLog, sendPosting, hCredits, raPosts, ne_eq,
            not_false_eq_true, decide_true, Bool.not_true, Bool.false_eq_true, if_false,
            Except.isOk, Except.toBool]
          generalize transportShouldSignal reached.state = signaled
          have hRecord : transportRecordSend reached.state signaled = some _ := if_neg hCredits
          generalize raPostSend (wr.scheduled signaled) results reached = posted
          obtain ⟨answer, handed⟩ := posted
          cases answer with
          | error error => simp
          | ok _ =>
              cases signaled with
              | false => simp [hRecord]
              | true =>
                  simp only [hRecord, Bool.not_true, Bool.false_eq_true, if_false, if_true,
                    Bool.and_true]
                  exact raWait_log _ polls _

/-- The log of a whole batch, and what the batch returns. -/
theorem batch_log (wrs : List SendWr) (first : Arrivals) (polls : List Arrivals)
    (qp : TransportQp) :
    ((sendLog aivPoll
          (wrs ≠ [] ∧ qp.state.signalInterval ≠ 0 ∧ qp.descriptor.sendQueue.headAddress ≠ 0 ∧
            qp.descriptor.sendQueue.tailAddress ≠ 0 ∧ 1 < qp.descriptor.sendQueue.depth)
          (sendQueueAvailable qp = 0 ∨ qp.state.sendCredits = 0) (batchPosting wrs) first polls
          qp).succeeded = true ↔
        (aivRdmaSendBatch wrs first polls qp).1.status = some .success) ∧
      (sendLog aivPoll
          (wrs ≠ [] ∧ qp.state.signalInterval ≠ 0 ∧ qp.descriptor.sendQueue.headAddress ≠ 0 ∧
            qp.descriptor.sendQueue.tailAddress ≠ 0 ∧ 1 < qp.descriptor.sendQueue.depth)
          (sendQueueAvailable qp = 0 ∨ qp.state.sendCredits = 0) (batchPosting wrs) first polls
          qp).left =
        (aivRdmaSendBatch wrs first polls qp).2 := by
  have hRefused : (wrs = [] ∨ qp.state.signalInterval = 0 ∨
      qp.descriptor.sendQueue.headAddress = 0 ∨ qp.descriptor.sendQueue.tailAddress = 0 ∨
      qp.descriptor.sendQueue.depth ≤ 1) ↔
      ¬(wrs ≠ [] ∧ qp.state.signalInterval ≠ 0 ∧ qp.descriptor.sendQueue.headAddress ≠ 0 ∧
        qp.descriptor.sendQueue.tailAddress ≠ 0 ∧ 1 < qp.descriptor.sendQueue.depth) := by
    rw [← UInt32.not_le]
    tauto
  unfold sendLog aivRdmaSendBatch aivPostTransportSendBatch
  dsimp only
  simp only [hRefused]
  by_cases hAdmitted : wrs ≠ [] ∧ qp.state.signalInterval ≠ 0 ∧
      qp.descriptor.sendQueue.headAddress ≠ 0 ∧ qp.descriptor.sendQueue.tailAddress ≠ 0 ∧
      1 < qp.descriptor.sendQueue.depth
  · have hFirst : (firstPoll aivPoll (sendQueueAvailable qp = 0 ∨ qp.state.sendCredits = 0) first
          qp).succeeded =
          decide ((if sendQueueAvailable qp = 0 ∨ qp.state.sendCredits = 0 then
            aivReclaimTransportCq true first qp else (.success, qp)).1 = .success) ∧
        (firstPoll aivPoll (sendQueueAvailable qp = 0 ∨ qp.state.sendCredits = 0) first qp).left =
          (if sendQueueAvailable qp = 0 ∨ qp.state.sendCredits = 0 then
            aivReclaimTransportCq true first qp else (.success, qp)).2 := by
      by_cases hNeeded : sendQueueAvailable qp = 0 ∨ qp.state.sendCredits = 0
      · simp [firstPoll, hNeeded, aivPoll, devicePoll]
      · simp [firstPoll, hNeeded]
    generalize firstPoll aivPoll (sendQueueAvailable qp = 0 ∨ qp.state.sendCredits = 0) first qp =
      found at hFirst ⊢
    generalize (if sendQueueAvailable qp = 0 ∨ qp.state.sendCredits = 0 then
      aivReclaimTransportCq true first qp else (OperationStatus.success, qp)) = reclaimed
      at hFirst ⊢
    obtain ⟨hSucceeded, hLeft⟩ := hFirst
    rw [if_neg (not_not.mpr hAdmitted)]
    by_cases hReclaimed : reclaimed.1 = .success
    · simp only [hAdmitted, hSucceeded, hReclaimed, hLeft, ne_eq, not_true_eq_false, if_false,
        decide_true, Bool.not_true, Bool.false_eq_true, not_false_eq_true, and_self]
      rw [← hLeft]
      exact postPrefix_log wrs polls found
    · simp [hAdmitted, hSucceeded, hReclaimed, hLeft]
  · rw [if_pos hAdmitted]
    simp [hAdmitted]

end Sends

section Calls

inductive RdmaOperation where
  | send | read | write
deriving DecidableEq, Repr

def aivRdma (returnValue : Bool) : RdmaOperation →
    SendWr → Arrivals → List Arrivals → TransportQp → Option OperationStatus × TransportQp
  | .send => aivRdmaSend returnValue
  | .read => aivRdmaRead returnValue
  | .write => aivRdmaWrite returnValue

def aicpuRdma : RdmaOperation → ProviderPost →
    SendWr → Arrivals → List Arrivals → TransportQp → Option OperationStatus × TransportQp
  | .send => aicpuRdmaSend
  | .read => aicpuRdmaRead
  | .write => aicpuRdmaWrite

def raRdma : RdmaOperation →
    SendWr → RaSendResults → RaPoll → List RaPoll → TransportQp → Except Error Unit × TransportQp
  | .send => raRdmaSend
  | .read => raRdmaRead
  | .write => raRdmaWrite

/-- A transport call with everything it is answered. -/
inductive SendCall : Backend → Type
  | aiv (returnValue : Bool) (operation : RdmaOperation) (wr : SendWr) (first : Arrivals)
      (polls : List Arrivals) : SendCall .aiv
  | aivBatch (wrs : List SendWr) (first : Arrivals) (polls : List Arrivals) : SendCall .aiv
  | aicpu (operation : RdmaOperation) (provider : ProviderPost) (wr : SendWr) (first : Arrivals)
      (polls : List Arrivals) : SendCall .aicpu
  | ra (operation : RdmaOperation) (wr : SendWr) (results : RaSendResults) (first : RaPoll)
      (polls : List RaPoll) : SendCall .ra

namespace SendCall

variable {backend : Backend}

/-- Whether the call returns success, and the queue pair that it leaves. -/
def run : SendCall backend → TransportQp → Bool × TransportQp
  | .aiv returnValue operation wr first polls, qp =>
      ((aivRdma returnValue operation wr first polls qp).1 = some .success,
        (aivRdma returnValue operation wr first polls qp).2)
  | .aivBatch wrs first polls, qp =>
      ((aivRdmaSendBatch wrs first polls qp).1.status = some .success,
        (aivRdmaSendBatch wrs first polls qp).2)
  | .aicpu operation provider wr first polls, qp =>
      ((aicpuRdma operation provider wr first polls qp).1 = some .success,
        (aicpuRdma operation provider wr first polls qp).2)
  | .ra operation wr results first polls, qp =>
      ((raRdma operation wr results first polls qp).1.isOk,
        (raRdma operation wr results first polls qp).2)

/-- Whether the call polls before it posts. -/
def pollsFirst : SendCall backend → TransportQp → Bool
  | .aivBatch _ _ _, qp => sendQueueAvailable qp = 0 ∨ qp.state.sendCredits = 0
  | _, qp => qp.state.sendCredits = 0

/-- The call with the signaled requests that it posts and the completions that
it polls. -/
def log : SendCall backend → TransportQp → SendLog
  | .aiv returnValue _ wr first polls, qp =>
      sendLog aivPoll (qp.state.signalInterval ≠ 0) (qp.state.sendCredits = 0)
        (sendPosting (devicePosts (aivObservedPost returnValue)) wr) first polls qp
  | .aivBatch wrs first polls, qp =>
      sendLog aivPoll
        (wrs ≠ [] ∧ qp.state.signalInterval ≠ 0 ∧ qp.descriptor.sendQueue.headAddress ≠ 0 ∧
          qp.descriptor.sendQueue.tailAddress ≠ 0 ∧ 1 < qp.descriptor.sendQueue.depth)
        (sendQueueAvailable qp = 0 ∨ qp.state.sendCredits = 0) (batchPosting wrs) first polls qp
  | .aicpu _ provider wr first polls, qp =>
      sendLog aicpuPoll (qp.state.signalInterval ≠ 0) (qp.state.sendCredits = 0)
        (sendPosting (devicePosts fun wr => aicpuPostSend wr provider) wr) first polls qp
  | .ra _ wr results first polls, qp =>
      sendLog raPoll (qp.state.signalInterval ≠ 0) (qp.state.sendCredits = 0)
        (sendPosting (raPosts results) wr) first polls qp

/-- The log of a call is the call. -/
theorem log_run (call : SendCall backend) (qp : TransportQp) :
    (call.log qp).succeeded = (call.run qp).1 ∧ (call.log qp).left = (call.run qp).2 := by
  cases call with
  | aiv returnValue operation wr first polls =>
      have hSame : aivRdma returnValue operation = aivPostTransportSend returnValue := by
        cases operation <;> rfl
      obtain ⟨hDone, hLeft⟩ := devicePostSend_log aivReclaimTransportCq _
        (aivObservedPost returnValue) wr first polls qp
      rw [log, run, hSame]
      exact ⟨Bool.eq_iff_iff.mpr (hDone.trans decide_eq_true_iff.symm), hLeft⟩
  | aivBatch wrs first polls =>
      obtain ⟨hDone, hLeft⟩ := batch_log wrs first polls qp
      exact ⟨Bool.eq_iff_iff.mpr (hDone.trans decide_eq_true_iff.symm), hLeft⟩
  | aicpu operation provider wr first polls =>
      have hSame : aicpuRdma operation provider = aicpuTransportPostSend provider := by
        cases operation <;> rfl
      obtain ⟨hDone, hLeft⟩ := devicePostSend_log aicpuReclaim _
        (fun wr => aicpuPostSend wr provider) wr first polls qp
      rw [log, run, hSame]
      exact ⟨Bool.eq_iff_iff.mpr (hDone.trans decide_eq_true_iff.symm), hLeft⟩
  | ra operation wr results first polls =>
      have hSame : raRdma operation = raPost := by cases operation <;> rfl
      obtain ⟨hDone, hLeft⟩ := raPost_log wr results first polls qp
      rw [log, run, hSame]
      refine ⟨Bool.eq_iff_iff.mpr (hDone.trans ?_), hLeft⟩
      generalize raPost wr results first polls qp = posted
      obtain ⟨outcome, left⟩ := posted
      cases outcome with
      | error error => simp [Except.isOk, Except.toBool]
      | ok _ => simp [Except.isOk, Except.toBool]

variable {account : Account} {qp : TransportQp}

/-- The account of the state in which a call posts. -/
theorem firstPoll_exact {Answer : Type} {poll : Answer → TransportQp → Polled} {needed : Bool}
    {first : Answer} (h : account.Exact qp) (hPolled : account.Exact (poll first qp).left) :
    account.Exact (firstPoll poll needed first qp).left := by
  cases needed with
  | false => exact h
  | true => exact hPolled

/-- A poll that finds nothing does not help a send without credits. -/
theorem sendPosting_fruitless {Answer : Type} {poll : Answer → TransportQp → Polled}
    (hPoll : FaithfulPoll poll) {post : SendWr → TransportQp → Bool × TransportQp} {wr : SendWr}
    {first : Answer} (hNeeded : decide (qp.state.sendCredits = 0) = true)
    (hNothing : (poll first qp).completions = []) :
    ∃ left, sendPosting post wr (poll first qp).left = .refused left := by
  have hState := hPoll.state_eq first qp
  rw [hNothing] at hState
  have hCredits : (poll first qp).left.state.sendCredits = 0 := by
    rw [hState]
    exact (congrArg _ (SendView.reclaimSend_zero qp.state)).trans (of_decide_eq_true hNeeded)
  exact ⟨_, if_pos hCredits⟩

/-- Nor does it help a batch. -/
theorem batchPosting_fruitless {wrs : List SendWr} {first : Arrivals}
    (hNeeded : decide (sendQueueAvailable qp = 0 ∨ qp.state.sendCredits = 0) = true)
    (hNothing : (aivPoll first qp).completions = []) :
    ∃ left, batchPosting wrs (aivPoll first qp).left = .refused left := by
  have hState := aivPoll_faithful.state_eq first qp
  rw [hNothing] at hState
  have hSame : (aivPoll first qp).left.state = qp.state :=
    hState.trans (SendView.reclaimSend_zero qp.state)
  have hDescriptor : (aivPoll first qp).left.descriptor = qp.descriptor :=
    aivReclaim_descriptor first
  have hCounters : (aivPoll first qp).left.send.counters = qp.send.counters := by
    by_cases hReadable : sendCqReadable qp.descriptor
    · obtain ⟨hTaken, -, -, -, hMoved⟩ := reap_eq
        (pollMove true qp.descriptor.sendQueue.depth) kMaxCompletions (qp.arrive first).send
      have hRead : (aivPoll first qp).completions = _ := if_pos hReadable
      rw [hNothing, hTaken] at hRead
      rw [← hRead] at hMoved
      have hArrived := congrArg SendView.counters (sendView_arrive qp first)
      have hReclaimed : aivReclaimTransportCq true first qp = _ := if_neg hReadable
      have hLeft : (aivPoll first qp).left = (aivReclaimTransportCq true first qp).2 := rfl
      rw [hLeft, hReclaimed]
      exact hMoved.trans hArrived
    · have hLeft : (aivPoll first qp).left = (aivReclaimTransportCq true first qp).2 := rfl
      rw [hLeft, aivReclaim_unreadable hReadable]
      exact congrArg SendView.counters (sendView_arrive qp first)
  have hAvailable : sendQueueAvailable (aivPoll first qp).left = sendQueueAvailable qp := by
    rw [sendQueueAvailable, sendQueueAvailable, hCounters, hDescriptor]
  have hLimit : batchLimit wrs (aivPoll first qp).left = 0 := by
    rw [batchLimit, hAvailable, hSame]
    rcases of_decide_eq_true hNeeded with hFull | hCredits
    · simp [hFull]
    · simp [hCredits]
  refine ⟨_, if_pos ?_⟩
  simp [hLimit]

/-- A call that returns success in a reachable state has polled the reports of
its requests, provided that no older report can take their place. -/
theorem reported {config : QpConfig} {start : TransportQp} (hOpened : start.Opened config)
    (hRun : TransportQp.Reaches backend start qp) (call : SendCall backend)
    (hOlder : (signaledOutstanding qp).length ≤ if call.pollsFirst qp then 1 else 0)
    (hDone : (call.run qp).1 = true) :
    (call.log qp).Reported ∧ signaledPositions (call.log qp).left = [] := by
  have hExact := Account.opened_reaches hOpened hRun
  rw [← (call.log_run qp).1] at hDone
  rw [← signaledPositions_length] at hOlder
  cases call with
  | aiv returnValue operation wr first polls =>
      have hFound : ∀ needed, (Account.opened .aiv config start).Exact
          (firstPoll aivPoll needed first qp).left := fun needed =>
        firstPoll_exact hExact (Account.aivReclaimTransportCq_keeps _ true first qp hExact)
      refine sendLog_reported aivPoll_faithful (fun left target whole hPosting => ?_)
        (fun hNeeded hNothing => sendPosting_fruitless aivPoll_faithful hNeeded hNothing) hOlder
        hDone
      exact sendPosting_due (hFound _) (fun wr _ => aivObservedPost_cases returnValue wr _) hPosting
  | aivBatch wrs first polls =>
      refine sendLog_reported aivPoll_faithful (fun left target whole hPosting => ?_)
        (fun hNeeded hNothing => batchPosting_fruitless hNeeded hNothing) hOlder hDone
      exact batchPosting_due (firstPoll_exact hExact
        (Account.aivReclaimTransportCq_keeps _ true first qp hExact)) hPosting
  | aicpu operation provider wr first polls =>
      refine sendLog_reported aicpuPoll_faithful (fun left target whole hPosting => ?_)
        (fun hNeeded hNothing => sendPosting_fruitless aicpuPoll_faithful hNeeded hNothing) hOlder
        hDone
      exact sendPosting_due (firstPoll_exact hExact
        (Account.aicpuReclaim_keeps _ true first qp hExact)) (fun wr hPosted =>
          .inl ((Account.aicpuPostSend_handsOver provider).accepted wr _
            (of_decide_eq_true hPosted)))
        hPosting
  | ra operation wr results first polls =>
      have hUntracked : ¬(Account.opened .ra config start).tracked := fun hTracked =>
        hTracked.1 rfl
      have hFound := @firstPoll_exact (Account.opened .ra config start) qp _ raPoll
        (decide (qp.state.sendCredits = 0)) first hExact
        (Account.raReclaim_keeps hUntracked hExact true first)
      refine sendLog_reported raPoll_faithful (fun left target whole hPosting => ?_)
        (fun hNeeded hNothing => sendPosting_fruitless raPoll_faithful hNeeded hNothing) hOlder
        hDone
      exact sendPosting_due hFound
        (fun wr hPosted => .inl (raPosts_accepted hFound.unrung_eq hPosted)) hPosting

/-- In every run, a call that finds no report of an earlier call and returns
success has seen its own requests complete. A call that polls first may find
one earlier report, since that poll has to take it. -/
theorem successful_send_completed {config : QpConfig} {start : TransportQp}
    (hOpened : start.Opened config) (hRun : TransportQp.Reaches backend start qp)
    (call : SendCall backend)
    (hOlder : (signaledOutstanding qp).length ≤ if call.pollsFirst qp then 1 else 0)
    (hDone : (call.run qp).1 = true) :
    (call.log qp).Reported ∧ signaledOutstanding (call.run qp).2 = [] := by
  obtain ⟨hReported, hLeft⟩ := call.reported hOpened hRun hOlder hDone
  refine ⟨hReported, ?_⟩
  rw [(call.log_run qp).2] at hLeft
  exact List.map_eq_nil_iff.mp hLeft

/-- A batch that crosses an interval, whose completion arrives at the second poll. -/
def crossingBatch : SendCall .aiv :=
  .aivBatch (List.replicate 33 deviceSend) noArrivals [noArrivals, { send := [0], receive := [] }]

/-- A batch that crosses the interval waits for its thirty-second request. -/
theorem successful_send_completed_batch :
    (crossingBatch.run deviceQp).1 = true ∧ (crossingBatch.log deviceQp).signaled = [31] ∧
      (crossingBatch.log deviceQp).Reported ∧
      signaledOutstanding (crossingBatch.run deviceQp).2 = [] := by
  have hOpened : deviceQp.Opened { sendQueueDepth := 64, receiveQueueDepth := 16 } :=
    ⟨rfl, ⟨0, 0, fun _ => 0, rfl⟩, ⟨0, 0, fun _ => 0, rfl⟩, rfl⟩
  have hDone : (crossingBatch.run deviceQp).1 = true := by decide +kernel
  refine ⟨hDone, by decide +kernel, ?_⟩
  exact successful_send_completed hOpened Relation.ReflTransGen.refl crossingBatch
    (by decide +kernel) hDone

/-- A send of the host whose one poll finds a single completion. -/
def hostSend : SendCall .ra :=
  .ra .send deviceSend raAnswers (.polled noArrivals 0)
    [.polled { send := [0], receive := [] } 1]

/-- The vector core polls a failed report for the first of two and gives up, and
the report that is left ends the wait of its next batch. -/
def failedBatch : TransportQp :=
  (aivRdmaSendBatch (List.replicate 64 deviceSend) noArrivals [{ send := [1], receive := [] }]
    (freshQp 128)).2

def nextBatch : SendCall .aiv :=
  .aivBatch (List.replicate 32 deviceSend) noArrivals [{ send := [0], receive := [] }]

/-- The 32nd send of the host times out, and its report ends the wait of the
64th one. -/
theorem successful_send_not_completed :
    (∃ config start qp, start.Opened config ∧ TransportQp.Reaches .ra start qp ∧
      (hostSend.run qp).1 = true ∧ (hostSend.log qp).signaled = [63] ∧
      ¬(hostSend.log qp).Reported) ∧
    (∃ config start qp, start.Opened config ∧ TransportQp.Reaches .aiv start qp ∧
      (nextBatch.run qp).1 = true ∧ (nextBatch.log qp).signaled = [95] ∧
      ¬(nextBatch.log qp).Reported) := by
  have hClean : raAnswers.Clean := .inr ⟨rfl, rfl⟩
  have hMissing : ∀ log : SendLog, ∀ position, log.signaled = [position] →
      log.polled.all (fun cqe => cqe.position != position) = true → ¬log.Reported := by
    intro log position hSignaled hOthers hReported
    obtain ⟨cqe, hCqe, hAt, -⟩ := hReported position (by simp [hSignaled])
    have hOther := List.all_eq_true.mp hOthers cqe hCqe
    simp [hAt] at hOther
  refine ⟨⟨_, freshQp 64, raQuietSend^[63] (freshQp 64), freshQp_opened (by decide),
      iterate_reaches (fun qp => .raSend deviceSend hClean _ _) 63 _, by decide +kernel,
      by decide +kernel, ?_⟩,
    ⟨_, freshQp 128, failedBatch, freshQp_opened (by decide),
      Relation.ReflTransGen.single (.aivSendBatch _ _ _), by decide +kernel, by decide +kernel,
      ?_⟩⟩
  · exact hMissing _ 63 (by decide +kernel) (by decide +kernel)
  · exact hMissing _ 95 (by decide +kernel) (by decide +kernel)

end SendCall

end Calls

end NdsStorage.Client
