import NdsStorage.Client.BatchSends

/-! Batches launched by the host. The device returns a status and the address
of the first request that it did not post, if it has set it. From these the
host makes the number of posted requests, with one default for the batch of the
verbs and another one for the batch of the transport. The array has been copied
to the device, and launches succeed. -/
namespace NdsStorage.Client

/-- The size of a work request in memory. -/
def kSendWrBytes : Nat := 48

structure PostSendBatchResult where
  posted : Nat
  status : Int32
deriving DecidableEq, Repr

/-- The array of a batch in the device's memory. -/
structure DeviceArray (address : UInt64) (count : Nat) : Prop where
  address_ne : address ≠ 0
  fits : address.toNat + count * kSendWrBytes ≤ 2 ^ 64

section Results

/-- The address of a request in the array, or zero. -/
def badWrAddress (wrsAddress : UInt64) : Option Nat → UInt64
  | none => 0
  | some index => wrsAddress + UInt64.ofNat (index * kSendWrBytes)

/-- The request at an address, if it is one of the array. -/
def badWrIndex (wrsAddress address : UInt64) (count : Nat) : Option Nat :=
  if address ≥ wrsAddress then
    let delta := (address - wrsAddress).toNat
    if delta % kSendWrBytes = 0 ∧ delta / kSendWrBytes < count then some (delta / kSendWrBytes)
    else none
  else none

/-- The number of posted requests, as the host makes it. -/
def reportedPosted (fallback : Nat) (wrsAddress : UInt64) (count : Nat) (value : Int32)
    (badWr : Option Nat) : Nat :=
  if value ≠ 0 then
    (badWrIndex wrsAddress (badWrAddress wrsAddress badWr) count).getD fallback
  else count

/-- What the host returns once the kernel has ended. `timeout` is the code of a
synchronization that has waited in vain. -/
def batchResult (fallback : Nat) (timeout : Int32) (wrsAddress : UInt64) (count : Nat)
    (outcome : BatchOutcome) : Except Error PostSendBatchResult :=
  match outcome.status with
  | none =>
      .error {
        code := .runtime
        message := "AIV transport batch synchronization failed: " ++ toString timeout.toInt }
  | some status =>
      .ok {
        posted := reportedPosted fallback wrsAddress count (setReturnValue status.code)
          outcome.badWr
        status := setReturnValue status.code }

def batchInvalid : Error where
  code := .invalidArgument
  message := "invalid AIV transport send batch"

/-- A batch that the host refuses to launch. -/
def batchRefused (count : Nat) : Prop :=
  count = 0 ∨ count > 2 ^ 32 - 1 ∨ count > (2 ^ 64 - 1) / kSendWrBytes

instance (count : Nat) : Decidable (batchRefused count) := inferInstanceAs (Decidable (_ ∨ _))

def launchPostBatchAndWait (timeout : Int32) (wrsAddress : UInt64) (wrs : List SendWr)
    (qp : TransportQp) : Except Error PostSendBatchResult × TransportQp :=
  if batchRefused wrs.length then (.error batchInvalid, qp)
  else
    let returned := aivPostSendBatch wrs qp
    (batchResult 0 timeout wrsAddress wrs.length returned.1, returned.2)

/-- Without a state array the device finds no record of the queue pair. -/
def aivRdmaSendBatchKernel (transport : TransportDescriptor) (wrs : List SendWr)
    (first : Arrivals) (polls : List Arrivals) (qp : TransportQp) : BatchOutcome × TransportQp :=
  if transport.qpStatesAddress = 0 then
    ({ status := some .invalidArgument, badWr := none }, qp)
  else aivRdmaSendBatch wrs first polls qp

def launchTransportBatchAndWait (timeout : Int32) (transport : TransportDescriptor)
    (queueIndex : UInt32) (wrsAddress : UInt64) (wrs : List SendWr) (first : Arrivals)
    (polls : List Arrivals) (qp : TransportQp) : Except Error PostSendBatchResult × TransportQp :=
  if transport.qpDescriptorsAddress = 0 ∨ queueIndex ≥ transport.qpCount then
    (.error {
      code := .invalidArgument
      message := "AIV transport batch requires a valid QP selection" }, qp)
  else if batchRefused wrs.length then (.error batchInvalid, qp)
  else
    let returned := aivRdmaSendBatchKernel transport wrs first polls qp
    (batchResult wrs.length timeout wrsAddress wrs.length returned.1, returned.2)

variable {wrsAddress : UInt64} {count : Nat}

/-- The address of a request leads back to it. -/
theorem badWrIndex_some (hArray : DeviceArray wrsAddress count) {index : Nat}
    (hIndex : index < count) :
    badWrIndex wrsAddress (badWrAddress wrsAddress (some index)) count = some index := by
  have hFits := hArray.fits
  have hSmall : index * kSendWrBytes + kSendWrBytes ≤ count * kSendWrBytes := by
    rw [← Nat.succ_mul]
    exact Nat.mul_le_mul_right _ hIndex
  have hSize : 0 < kSendWrBytes := by decide
  have hAddress : (badWrAddress wrsAddress (some index)).toNat =
      wrsAddress.toNat + index * kSendWrBytes := by
    rw [badWrAddress, UInt64.toNat_add, UInt64.toNat_ofNat']
    omega
  have hOrder : wrsAddress ≤ badWrAddress wrsAddress (some index) := by
    rw [UInt64.le_iff_toNat_le, hAddress]
    omega
  have hDelta : (badWrAddress wrsAddress (some index) - wrsAddress).toNat =
      index * kSendWrBytes := by
    rw [UInt64.toNat_sub_of_le _ _ hOrder, hAddress]
    omega
  unfold badWrIndex
  rw [if_pos hOrder]
  dsimp only
  rw [hDelta, Nat.mul_mod_left, Nat.mul_div_cancel _ hSize, if_pos ⟨rfl, hIndex⟩]

/-- Without an address there is no request to point to. -/
theorem badWrIndex_none (hArray : DeviceArray wrsAddress count) :
    badWrIndex wrsAddress (badWrAddress wrsAddress none) count = none := by
  have hBelow : ¬wrsAddress ≤ 0 := by
    intro hZero
    exact hArray.address_ne (UInt64.le_zero_iff.mp hZero)
  exact if_neg hBelow

/-- A success reports the whole batch, a failure the request it names. -/
theorem reportedPosted_eq (hArray : DeviceArray wrsAddress count) (fallback : Nat)
    (status : OperationStatus) {badWr : Option Nat} (hBad : ∀ index ∈ badWr, index < count) :
    reportedPosted fallback wrsAddress count (setReturnValue status.code) badWr =
      if status = .success then count else badWr.getD fallback := by
  have hValue : setReturnValue status.code = 0 ↔ status = .success := by
    cases status <;> decide
  rw [reportedPosted]
  by_cases hSuccess : status = .success
  · rw [if_neg (not_not.mpr (hValue.mpr hSuccess)), if_pos hSuccess]
  · rw [if_pos (mt hValue.mp hSuccess), if_neg hSuccess]
    cases badWr with
    | none => rw [badWrIndex_none hArray]
    | some index => rw [badWrIndex_some hArray (hBad index rfl)]

end Results

section Prefixes

variable {wrs : List SendWr} {qp : TransportQp}

/-- The requests that an operation has handed to the hardware. -/
def visible (before after : TransportQp) : Nat := after.send.posted - before.send.posted

/-- The requests of an array are valid, or the first one is not. -/
def prefixValid (wrs : List SendWr) : Prop :=
  (∀ wr ∈ wrs, aivValidSendWr wr = true) ∨ ∃ wr ∈ wrs.head?, aivValidSendWr wr = false

/-- The first invalid request is the first one of all. -/
theorem prefixValid_invalid {index : Nat}
    (hFind : (wrs.findIdx? fun wr => !aivValidSendWr wr) = some index) :
    index < wrs.length ∧ (prefixValid wrs ↔ index = 0) := by
  cases wrs with
  | nil => cases hFind
  | cons wr rest =>
      rw [List.findIdx?_cons] at hFind
      cases hValid : aivValidSendWr wr with
      | false =>
          simp only [hValid, Bool.not_false, if_true, Option.some.injEq] at hFind
          subst hFind
          exact ⟨Nat.succ_pos _, iff_of_true (.inr ⟨wr, rfl, hValid⟩) rfl⟩
      | true =>
          simp only [hValid, Bool.not_true, Bool.false_eq_true, if_false,
            Option.map_eq_some_iff] at hFind
          obtain ⟨later, hLater, rfl⟩ := hFind
          obtain ⟨hIn, hInvalid⟩ := List.findIdx?_eq_some_iff_getElem.mp hLater
          refine ⟨Nat.succ_lt_succ hIn, iff_of_false ?_ (Nat.succ_ne_zero later)⟩
          rintro (hAll | ⟨head, hHead, hWrong⟩)
          · have hOther := hAll _ (List.mem_cons_of_mem wr (List.getElem_mem hIn))
            simp [hOther] at hInvalid
          · cases hHead
            rw [hValid] at hWrong
            cases hWrong

/-- A batch of valid requests has a valid prefix. -/
theorem prefixValid_valid (hFind : (wrs.findIdx? fun wr => !aivValidSendWr wr) = none) :
    prefixValid wrs := .inl (by simpa using hFind)

/-- Each entry that is written counts as posted. -/
theorem postOne_posted (wrs : List SendWr) (qp : TransportQp) :
    (wrs.foldl postOne qp).send.posted = qp.send.posted + wrs.length := by
  induction wrs generalizing qp with
  | nil => rfl
  | cons wr rest ih =>
      rw [List.foldl_cons, ih, List.length_cons]
      change qp.send.posted + 1 + rest.length = _
      omega

/-- The number of requests that an outcome stands for. -/
def BatchOutcome.reports (outcome : BatchOutcome) (fallback count : Nat) : Nat :=
  if outcome.status = some .success then count else outcome.badWr.getD fallback

/-- An outcome and the requests that became visible with it. -/
structure Accounts (wrs : List SendWr) (fallback : Nat) (qp : TransportQp)
    (returned : BatchOutcome × TransportQp) (sound : Prop) : Prop where
  bad_lt : ∀ index ∈ returned.1.badWr, index < wrs.length
  reports_iff : returned.1.reports fallback wrs.length = visible qp returned.2 ↔ sound

theorem Accounts.none {fallback : Nat} {status : OperationStatus} {bad : Option Nat}
    {sound : Prop} {after : TransportQp} (hFailed : status ≠ .success)
    (hBad : ∀ index ∈ bad, index < wrs.length) (hPosted : after.send.posted = qp.send.posted)
    (hSound : bad.getD fallback = 0 ↔ sound) :
    Accounts wrs fallback qp ({ status := some status, badWr := bad }, after) sound where
  bad_lt := hBad
  reports_iff := by
    have hReports : BatchOutcome.reports { status := some status, badWr := bad } fallback
        wrs.length = bad.getD fallback := if_neg (by simpa using hFailed)
    rw [hReports, visible, hPosted, Nat.sub_self]
    exact hSound

/-- A queue without a free entry. -/
def sendQueueFull (qp : TransportQp) : Prop :=
  qp.descriptor.sendQueue.depth ≤ 1 ∨
    qp.send.counters.head - qp.send.counters.tail ≥ qp.descriptor.sendQueue.depth - 1

/-- What the verbs report is right for a valid prefix or a full queue. -/
theorem aivPostSendBatch_accounts (hSome : wrs ≠ []) :
    Accounts wrs 0 qp (aivPostSendBatch wrs qp) (prefixValid wrs ∨ sendQueueFull qp) := by
  have hPositive : 0 < wrs.length := List.length_pos_iff.mpr hSome
  unfold aivPostSendBatch
  dsimp only
  rw [if_neg hSome]
  split
  · rename_i hFull
    exact Accounts.none (by simp) (by simpa using hPositive) rfl (iff_of_true rfl (.inr hFull))
  · rename_i hRoom
    split
    · rename_i index hFind
      obtain ⟨hIn, hFirst⟩ := prefixValid_invalid hFind
      refine Accounts.none (by simp) (by simpa using hIn) rfl ?_
      exact hFirst.symm.trans (or_iff_left (show ¬sendQueueFull qp from hRoom)).symm
    · rename_i hFind
      generalize hPosted : min wrs.length (qp.descriptor.sendQueue.depth - 1 -
        (qp.send.counters.head - qp.send.counters.tail)).toNat = posted
      have hLength : (markLast (wrs.take posted)).length = posted := by
        rw [VerbsRun.markLast_length, List.length_take]
        omega
      have hRung := ringBatch_eq (markLast (wrs.take posted)) qp
      rw [hLength] at hRung
      have hVisible : visible qp ((markLast (wrs.take posted)).foldl postOne qp) = posted := by
        rw [visible, postOne_posted, hLength]
        omega
      rw [hRung]
      have hSound : prefixValid wrs ∨ sendQueueFull qp := .inl (prefixValid_valid hFind)
      split
      · rename_i hPart
        refine ⟨fun index hIndex => ?_, iff_of_true ?_ hSound⟩
        · cases hIndex
          omega
        · rw [hVisible]
          rfl
      · rename_i hWhole
        refine ⟨(fun index hIndex => by cases hIndex), iff_of_true ?_ hSound⟩
        rw [hVisible]
        exact (Decidable.of_not_not hWhole).symm

end Prefixes

section Transports

variable {wrs : List SendWr} {qp : TransportQp} {first : Arrivals} {polls : List Arrivals}

theorem aivReclaim_posted (arrivals : Arrivals) (qp : TransportQp) :
    (aivReclaimTransportCq true arrivals qp).2.send.posted = qp.send.posted := by
  have hArrived : (qp.arrive arrivals).send.posted = qp.send.posted :=
    QueueSide.arrive_posted arrivals.send qp.send
  unfold aivReclaimTransportCq
  dsimp only
  split
  · exact hArrived
  · exact (QueueSide.reap_posted _ _ _).trans hArrived

theorem reclaimSend_interval (state : TransportQpState) (count : UInt32) :
    (transportReclaimSend state count).signalInterval = state.signalInterval := by
  rw [transportReclaimSend]
  split
  · rfl
  · rfl

theorem aivReclaim_interval (arrivals : Arrivals) (qp : TransportQp) :
    (aivReclaimTransportCq true arrivals qp).2.state.signalInterval =
      qp.state.signalInterval := by
  unfold aivReclaimTransportCq
  dsimp only
  split
  · rfl
  · exact reclaimSend_interval _ _

theorem wait_posted (target : UInt32) (polls : List Arrivals) (qp : TransportQp) :
    (waitForSendCompletion aivReclaimTransportCq target polls qp).2.send.posted =
      qp.send.posted := by
  induction polls generalizing qp with
  | nil =>
      rw [waitForSendCompletion]
      split <;> rfl
  | cons arrivals rest ih =>
      have hPolled := aivReclaim_posted arrivals qp
      rw [waitForSendCompletion]
      dsimp only
      split
      · split
        · exact hPolled
        · exact (ih _).trans hPolled
      · rfl

theorem charges_posted (wrs : List SendWr) (qp : TransportQp) :
    (wrs.foldl TransportQp.charge qp).send.posted = qp.send.posted + wrs.length := by
  induction wrs generalizing qp with
  | nil => rfl
  | cons wr rest ih =>
      rw [List.foldl_cons, ih, List.length_cons]
      change qp.send.posted + 1 + rest.length = _
      omega

/-- The completion queue can be read, and a poll finds no failure in it. -/
def pollClean (arrivals : Arrivals) (qp : TransportQp) : Prop :=
  sendCqReadable qp.descriptor ∧
    ∀ cqe ∈ (qp.arrive arrivals).send.ready.take kMaxCompletions, cqe.status = 0

/-- A poll succeeds exactly if it finds no failure. -/
theorem reclaim_success_iff (arrivals : Arrivals) (qp : TransportQp) :
    (aivReclaimTransportCq true arrivals qp).1 = .success ↔ pollClean arrivals qp := by
  by_cases hReadable : sendCqReadable qp.descriptor
  · rw [(aivReclaim_readable hReadable arrivals).1, pollClean, and_iff_right hReadable]
    constructor
    · intro hSuccess cqe hCqe
      by_contra hFailed
      have hAny : completionFailed ((qp.arrive arrivals).send.ready.take kMaxCompletions) =
          true := List.any_eq_true.mpr ⟨cqe, hCqe, by simpa using hFailed⟩
      rw [reclaimStatus, hAny] at hSuccess
      cases hSuccess
    · exact reclaimStatus_good
  · rw [aivReclaim_unreadable hReadable]
    exact iff_of_false (by simp) fun hClean => hReadable hClean.1

/-- No poll of a wait finds a failure. -/
def waitClean (target : UInt32) : List Arrivals → TransportQp → Prop
  | [], _ => True
  | arrivals :: rest, qp =>
      qp.state.sendCredits < target →
        pollClean arrivals qp ∧ waitClean target rest (aivReclaimTransportCq true arrivals qp).2

/-- A wait succeeds exactly if its polls find no failure. -/
theorem wait_success_iff (target : UInt32)
    (hReturned : (waitForSendCompletion aivReclaimTransportCq target polls qp).1 ≠ none) :
    (waitForSendCompletion aivReclaimTransportCq target polls qp).1 = some .success ↔
      waitClean target polls qp := by
  induction polls generalizing qp with
  | nil =>
      rw [waitForSendCompletion] at hReturned ⊢
      split at hReturned
      · exact absurd rfl hReturned
      · rename_i hPaid
        rw [if_neg hPaid]
        exact iff_of_true rfl trivial
  | cons arrivals rest ih =>
      rw [waitForSendCompletion] at hReturned ⊢
      dsimp only at hReturned ⊢
      rw [waitClean]
      by_cases hOpen : qp.state.sendCredits < target
      · rw [if_pos hOpen] at hReturned ⊢
        by_cases hPolled : (aivReclaimTransportCq true arrivals qp).1 = .success
        · rw [if_neg (not_not.mpr hPolled)] at hReturned ⊢
          rw [ih hReturned, forall_prop_of_true hOpen,
            and_iff_right ((reclaim_success_iff arrivals qp).mp hPolled)]
        · rw [if_pos hPolled]
          apply iff_of_false
          · simpa using hPolled
          · intro hClean
            exact hPolled ((reclaim_success_iff arrivals qp).mpr (hClean hOpen).1)
      · rw [if_neg hOpen]
        exact iff_of_true rfl fun hLess => absurd hLess hOpen

/-- The credits that a batch waits for. -/
def batchTarget (wrs : List SendWr) (qp : TransportQp) : UInt32 :=
  (batchFilled wrs qp).state.sendCredits +
    batchSignals wrs qp * (batchFilled wrs qp).state.signalInterval

/-- A valid batch is posted as a whole or not at all, or its wait finds no
failure. -/
def prefixSettled (wrs : List SendWr) (polls : List Arrivals) (qp : TransportQp) : Prop :=
  (∀ wr ∈ wrs, aivValidSendWr wr = true) →
    batchLimit wrs qp = 0 ∨ batchLimit wrs qp = wrs.length ∨ batchSignals wrs qp = 0 ∨
      waitClean (batchTarget wrs qp) polls (batchFilled wrs qp)

/-- A batch that signals nothing has nothing to wait for. -/
theorem batchWaited_success_iff (hReturned : (batchWaited wrs polls qp).1 ≠ none) :
    (batchWaited wrs polls qp).1 = some .success ↔
      batchSignals wrs qp = 0 ∨ waitClean (batchTarget wrs qp) polls (batchFilled wrs qp) := by
  by_cases hSignals : batchSignals wrs qp = 0
  · rw [batchWaited, if_neg (not_not.mpr hSignals)]
    exact iff_of_true rfl (.inl hSignals)
  · rw [batchWaited, if_pos hSignals] at hReturned ⊢
    rw [wait_success_iff _ hReturned, or_iff_right hSignals]
    rfl

/-- What fits has been posted when the wait ends. -/
theorem batchWaited_posted (hActive : qp.state.signalInterval ≠ 0) :
    visible qp (batchWaited wrs polls qp).2 = batchLimit wrs qp := by
  have hFilled : (batchFilled wrs qp).send.posted = qp.send.posted + batchLimit wrs qp := by
    rw [(batchFilled_charges hActive).1, charges_posted, take_batchLimit]
  have hWaited : (batchWaited wrs polls qp).2.send.posted =
      (batchFilled wrs qp).send.posted := by
    rw [batchWaited]
    split
    · exact wait_posted _ polls _
    · rfl
  rw [visible, hWaited, hFilled]
  omega

/-- An invalid request ends a batch before anything is posted. -/
theorem postPrefix_accounts_invalid {index : Nat}
    (hFind : (wrs.findIdx? fun wr => !aivValidSendWr wr) = some index) :
    Accounts wrs wrs.length qp (postPrefix wrs polls qp)
      (prefixValid wrs ∧ prefixSettled wrs polls qp) := by
  obtain ⟨hIn, hFirst⟩ := prefixValid_invalid hFind
  have hWhole : postPrefix wrs polls qp =
      ({ status := some .invalidArgument, badWr := some index }, qp) := by
    unfold postPrefix
    simp only [hFind]
  have hInvalid : ¬∀ wr ∈ wrs, aivValidSendWr wr = true := by
    intro hValid
    have hNone : (wrs.findIdx? fun wr => !aivValidSendWr wr) = none := by simpa using hValid
    rw [hNone] at hFind
    cases hFind
  rw [hWhole]
  refine Accounts.none (by simp) (by simpa using hIn) rfl ?_
  exact hFirst.symm.trans (and_iff_left fun hValid => absurd hValid hInvalid).symm

/-- A full queue takes nothing of a batch. -/
theorem postPrefix_accounts_full (hSome : wrs ≠ [])
    (hFind : (wrs.findIdx? fun wr => !aivValidSendWr wr) = none) (hNone : batchLimit wrs qp = 0) :
    Accounts wrs wrs.length qp (postPrefix wrs polls qp)
      (prefixValid wrs ∧ prefixSettled wrs polls qp) := by
  have hPositive : 0 < wrs.length := List.length_pos_iff.mpr hSome
  have hWhole : postPrefix wrs polls qp =
      ({ status := some .queueFull, badWr := some 0 }, qp) := by
    unfold postPrefix
    simp only [hFind]
    exact if_pos hNone
  rw [hWhole]
  exact Accounts.none (by simp) (by simpa using hPositive) rfl
    (iff_of_true rfl ⟨prefixValid_valid hFind, fun _ => .inl hNone⟩)

/-- What the transport reports, when it comes to posting. -/
theorem postPrefix_accounts (hSome : wrs ≠ []) (hActive : qp.state.signalInterval ≠ 0)
    (hReturned : (postPrefix wrs polls qp).1.status ≠ none) :
    Accounts wrs wrs.length qp (postPrefix wrs polls qp)
      (prefixValid wrs ∧ prefixSettled wrs polls qp) := by
  cases hFind : wrs.findIdx? fun wr => !aivValidSendWr wr with
  | some index => exact postPrefix_accounts_invalid hFind
  | none =>
      have hPrefix := prefixValid_valid hFind
      by_cases hNone : batchLimit wrs qp = 0
      · exact postPrefix_accounts_full hSome hFind hNone
      · rcases postPrefix_cases wrs polls qp with ⟨hNothing, -⟩ | ⟨hValid, -, hFinish, hOutcome⟩
        · rcases hNothing with hInvalid | hZero
          · exact absurd (by simpa using hFind) hInvalid
          · exact absurd hZero hNone
        · have hVisible := @batchWaited_posted wrs qp polls hActive
          have hSettled : prefixSettled wrs polls qp ↔ batchLimit wrs qp = wrs.length ∨
              batchSignals wrs qp = 0 ∨
                waitClean (batchTarget wrs qp) polls (batchFilled wrs qp) :=
            ⟨fun h => (h hValid).resolve_left hNone, fun h _ => .inr h⟩
          rw [and_iff_right hPrefix, hSettled]
          rw [hOutcome] at hReturned
          have hPair : postPrefix wrs polls qp = (
              if (batchWaited wrs polls qp).1 ≠ some .success then
                { status := (batchWaited wrs polls qp).1, badWr := none }
              else if batchLimit wrs qp ≠ wrs.length then
                { status := some .queueFull, badWr := some (batchLimit wrs qp) }
              else { status := some .success, badWr := none },
              (batchWaited wrs polls qp).2) := Prod.ext hOutcome hFinish
          rw [hPair]
          by_cases hWaited : (batchWaited wrs polls qp).1 = some .success
          · have hClean := (batchWaited_success_iff (by rw [hWaited]; simp)).mp hWaited
            rw [if_neg (not_not.mpr hWaited)]
            by_cases hAll : batchLimit wrs qp = wrs.length
            · rw [if_neg (not_not.mpr hAll)]
              refine ⟨(fun index hIndex => by cases hIndex), iff_of_true ?_ (.inl hAll)⟩
              exact (hVisible.trans hAll).symm
            · rw [if_pos hAll]
              have hLimit : batchLimit wrs qp ≤ wrs.length := by
                rw [batchLimit]
                omega
              refine ⟨fun index hIndex => ?_, iff_of_true hVisible.symm (.inr hClean)⟩
              cases hIndex
              omega
          · rw [if_pos hWaited] at hReturned ⊢
            have hDirty := mt (batchWaited_success_iff hReturned).mpr hWaited
            refine ⟨(fun index hIndex => by cases hIndex), ?_⟩
            rw [BatchOutcome.reports, if_neg hWaited, or_iff_left hDirty]
            exact Eq.congr_right hVisible |>.trans eq_comm

/-- What the transport needs of a queue pair before it looks at a batch. -/
structure BatchAdmitted (qp : TransportQp) : Prop where
  interval_ne : qp.state.signalInterval ≠ 0
  head_ne : qp.descriptor.sendQueue.headAddress ≠ 0
  tail_ne : qp.descriptor.sendQueue.tailAddress ≠ 0
  depth_gt : 1 < qp.descriptor.sendQueue.depth

/-- When a batch of the transport reports what it has posted. -/
structure TransportBatchSound (wrs : List SendWr) (first : Arrivals) (polls : List Arrivals)
    (qp : TransportQp) : Prop where
  admitted : BatchAdmitted qp
  reclaimed : sendQueueAvailable qp = 0 ∨ qp.state.sendCredits = 0 → pollClean first qp
  valid : prefixValid wrs
  settled : prefixSettled wrs polls (batchReclaimed first qp)

theorem aivRdmaSendBatch_accounts (hSome : wrs ≠ [])
    (hReturned : (aivRdmaSendBatch wrs first polls qp).1.status ≠ none) :
    Accounts wrs wrs.length qp (aivRdmaSendBatch wrs first polls qp)
      (TransportBatchSound wrs first polls qp) := by
  have hPositive : wrs.length ≠ 0 := mt List.length_eq_zero_iff.mp hSome
  unfold aivRdmaSendBatch aivPostTransportSendBatch at hReturned ⊢
  dsimp only at hReturned ⊢
  by_cases hAdmitted : BatchAdmitted qp
  · have hChecked : ¬(wrs = [] ∨ qp.state.signalInterval = 0 ∨
        qp.descriptor.sendQueue.headAddress = 0 ∨ qp.descriptor.sendQueue.tailAddress = 0 ∨
        qp.descriptor.sendQueue.depth ≤ 1) := by
      simp only [not_or, UInt32.not_le]
      exact ⟨hSome, hAdmitted.interval_ne, hAdmitted.head_ne, hAdmitted.tail_ne,
        hAdmitted.depth_gt⟩
    rw [if_neg hChecked] at hReturned ⊢
    have hFound : (if sendQueueAvailable qp = 0 ∨ qp.state.sendCredits = 0 then
        aivReclaimTransportCq true first qp else (OperationStatus.success, qp)).2 =
        batchReclaimed first qp := by
      unfold batchReclaimed
      split <;> rfl
    have hClean : (if sendQueueAvailable qp = 0 ∨ qp.state.sendCredits = 0 then
        aivReclaimTransportCq true first qp else (OperationStatus.success, qp)).1 = .success ↔
        (sendQueueAvailable qp = 0 ∨ qp.state.sendCredits = 0 → pollClean first qp) := by
      split
      · rename_i hNeeded
        rw [reclaim_success_iff, forall_prop_of_true hNeeded]
      · rename_i hEnough
        exact iff_of_true rfl fun hNeeded => absurd hNeeded hEnough
    have hPosted : (batchReclaimed first qp).send.posted = qp.send.posted := by
      unfold batchReclaimed
      split
      · exact aivReclaim_posted first qp
      · rfl
    have hActive : (batchReclaimed first qp).state.signalInterval ≠ 0 := by
      unfold batchReclaimed
      split
      · rw [aivReclaim_interval]
        exact hAdmitted.interval_ne
      · exact hAdmitted.interval_ne
    by_cases hReclaimed : (if sendQueueAvailable qp = 0 ∨ qp.state.sendCredits = 0 then
        aivReclaimTransportCq true first qp else (OperationStatus.success, qp)).1 = .success
    · rw [if_neg (not_not.mpr hReclaimed), hFound] at hReturned ⊢
      obtain ⟨hBad, hReports⟩ := postPrefix_accounts hSome hActive hReturned
      refine ⟨hBad, ?_⟩
      rw [visible, ← hPosted]
      refine hReports.trans ⟨fun hSound => ?_, fun hSound => ⟨hSound.valid, hSound.settled⟩⟩
      exact ⟨hAdmitted, hClean.mp hReclaimed, hSound.1, hSound.2⟩
    · rw [if_pos hReclaimed, hFound]
      refine Accounts.none hReclaimed (fun index hIndex => by cases hIndex) hPosted ?_
      exact iff_of_false hPositive fun hSound => hReclaimed (hClean.mpr hSound.reclaimed)
  · have hChecked : wrs = [] ∨ qp.state.signalInterval = 0 ∨
        qp.descriptor.sendQueue.headAddress = 0 ∨ qp.descriptor.sendQueue.tailAddress = 0 ∨
        qp.descriptor.sendQueue.depth ≤ 1 := by
      by_contra hOpen
      simp only [not_or, UInt32.not_le] at hOpen
      exact hAdmitted ⟨hOpen.2.1, hOpen.2.2.1, hOpen.2.2.2.1, hOpen.2.2.2.2⟩
    rw [if_pos hChecked]
    refine Accounts.none (by simp) (fun index hIndex => by cases hIndex) rfl ?_
    exact iff_of_false hPositive fun hSound => hAdmitted hSound.admitted

end Transports

section Launches

variable {wrs : List SendWr} {qp after : TransportQp} {first : Arrivals} {polls : List Arrivals}
  {wrsAddress : UInt64} {timeout : Int32} {fallback : Nat} {returned : BatchOutcome × TransportQp}
  {sound : Prop} {result : PostSendBatchResult}

/-- The host hands on what the device has reported. -/
theorem Accounts.result_iff (hArray : DeviceArray wrsAddress wrs.length)
    (h : Accounts wrs fallback qp returned sound)
    (hResult : batchResult fallback timeout wrsAddress wrs.length returned.1 = .ok result) :
    result.posted = visible qp returned.2 ↔ sound := by
  unfold batchResult at hResult
  cases hStatus : returned.1.status with
  | none =>
      rw [hStatus] at hResult
      cases hResult
  | some status =>
      rw [hStatus] at hResult
      cases hResult
      have hReports : returned.1.reports fallback wrs.length =
          if status = .success then wrs.length else returned.1.badWr.getD fallback := by
        simp only [BatchOutcome.reports, hStatus, Option.some.injEq]
      rw [reportedPosted_eq hArray fallback status h.bad_lt, ← hReports]
      exact h.reports_iff

theorem batchResult_returned {outcome : BatchOutcome}
    (hResult : batchResult fallback timeout wrsAddress wrs.length outcome = .ok result) :
    outcome.status ≠ none := by
  intro hNone
  simp [batchResult, hNone] at hResult

theorem not_refused_ne_nil (hLaunched : ¬batchRefused wrs.length) : wrs ≠ [] := by
  intro hNil
  exact hLaunched (.inl (List.length_eq_zero_iff.mpr hNil))

/-- The launch of the verbs reports what its kernel does. -/
theorem launchPostBatch_iff (hArray : DeviceArray wrsAddress wrs.length)
    (hLaunch : launchPostBatchAndWait timeout wrsAddress wrs qp = (.ok result, after)) :
    result.posted = visible qp after ↔ prefixValid wrs ∨ sendQueueFull qp := by
  unfold launchPostBatchAndWait at hLaunch
  by_cases hRefused : batchRefused wrs.length
  · rw [if_pos hRefused] at hLaunch
    cases hLaunch
  · rw [if_neg hRefused] at hLaunch
    obtain ⟨hResult, hAfter⟩ := Prod.mk.inj hLaunch
    rw [← hAfter]
    exact (aivPostSendBatch_accounts (not_refused_ne_nil hRefused)).result_iff hArray hResult

theorem sendBatchKernel_accounts (transport : TransportDescriptor) (hSome : wrs ≠ [])
    (hReturned : (aivRdmaSendBatchKernel transport wrs first polls qp).1.status ≠ none) :
    Accounts wrs wrs.length qp (aivRdmaSendBatchKernel transport wrs first polls qp)
      (transport.qpStatesAddress ≠ 0 ∧ TransportBatchSound wrs first polls qp) := by
  unfold aivRdmaSendBatchKernel at hReturned ⊢
  by_cases hStates : transport.qpStatesAddress = 0
  · rw [if_pos hStates]
    apply Accounts.none (by simp) (fun index hIndex => by cases hIndex) rfl
    exact iff_of_false (mt List.length_eq_zero_iff.mp hSome) fun hSound => hSound.1 hStates
  · rw [if_neg hStates] at hReturned ⊢
    obtain ⟨hBad, hReports⟩ := aivRdmaSendBatch_accounts hSome hReturned
    exact ⟨hBad, hReports.trans (and_iff_right hStates).symm⟩

/-- The launch of the transport reports what its kernel does. -/
theorem launchTransportBatch_iff (hArray : DeviceArray wrsAddress wrs.length)
    {transport : TransportDescriptor} {queueIndex : UInt32}
    (hLaunch : launchTransportBatchAndWait timeout transport queueIndex wrsAddress wrs first polls
      qp = (.ok result, after)) :
    result.posted = visible qp after ↔
      transport.qpStatesAddress ≠ 0 ∧ TransportBatchSound wrs first polls qp := by
  unfold launchTransportBatchAndWait at hLaunch
  by_cases hSelected : transport.qpDescriptorsAddress = 0 ∨ queueIndex ≥ transport.qpCount
  · rw [if_pos hSelected] at hLaunch
    cases hLaunch
  · rw [if_neg hSelected] at hLaunch
    by_cases hRefused : batchRefused wrs.length
    · rw [if_pos hRefused] at hLaunch
      cases hLaunch
    · rw [if_neg hRefused] at hLaunch
      obtain ⟨hResult, hAfter⟩ := Prod.mk.inj hLaunch
      have hAccounts := sendBatchKernel_accounts transport (not_refused_ne_nil hRefused)
        (batchResult_returned hResult)
      rw [← hAfter]
      exact hAccounts.result_iff hArray hResult

/-- When the host reports the requests that the hardware has been handed. The
verbs report an invalid request by its place, although no request before it has
been posted. The transport does the same, and reports the whole batch if it
fails before it looks at the requests, or at a failed completion. -/
theorem reported_prefix_iff (timeout : Int32) (wrs : List SendWr) (qp : TransportQp)
    (hArray : DeviceArray wrsAddress wrs.length) :
    (∀ result after, launchPostBatchAndWait timeout wrsAddress wrs qp = (.ok result, after) →
      (result.posted = visible qp after ↔ prefixValid wrs ∨ sendQueueFull qp)) ∧
    ∀ transport queueIndex first polls result after,
      launchTransportBatchAndWait timeout transport queueIndex wrsAddress wrs first polls qp =
        (.ok result, after) →
      (result.posted = visible qp after ↔
        transport.qpStatesAddress ≠ 0 ∧ TransportBatchSound wrs first polls qp) := by
  constructor
  · intro result after hLaunch
    exact launchPostBatch_iff hArray hLaunch
  · intro transport queueIndex first polls result after hLaunch
    exact launchTransportBatch_iff hArray hLaunch

def invalidSend : SendWr := { deviceSend with opcode := 255 }

def launchTransport : TransportDescriptor where
  qpDescriptorsAddress := 4096
  qpStatesAddress := 8192
  qpCount := 1
  reserved := 0

def failedArrival : Arrivals := { send := [1], receive := [] }

/-- One request more than the queue has room for. -/
def oneTooMany : List SendWr := List.replicate 64 deviceSend

/-- The completion of the first signaled request. -/
def firstArrival : Arrivals := { send := [0], receive := [] }

/-- Both launches say which request of the long batch was not posted. Of a valid
and an invalid request neither is posted, and both launches count the first. -/
theorem reported_prefix_partial :
    ((launchPostBatchAndWait 0 4096 oneTooMany deviceQp).1 = .ok { posted := 63, status := -4 } ∧
      (prefixValid oneTooMany ∨ sendQueueFull deviceQp)) ∧
    ((launchPostBatchAndWait 0 4096 [deviceSend, invalidSend] deviceQp).1 =
        .ok { posted := 1, status := -1 } ∧
      ¬(prefixValid [deviceSend, invalidSend] ∨ sendQueueFull deviceQp)) ∧
    ((launchTransportBatchAndWait 0 launchTransport 0 4096 oneTooMany noArrivals [firstArrival]
        deviceQp).1 = .ok { posted := 63, status := -4 } ∧
      TransportBatchSound oneTooMany noArrivals [firstArrival] deviceQp) ∧
    (launchTransportBatchAndWait 0 launchTransport 0 4096 [deviceSend, invalidSend] noArrivals []
        deviceQp).1 = .ok { posted := 1, status := -1 } ∧
      ¬TransportBatchSound [deviceSend, invalidSend] noArrivals [] deviceQp := by
  have hMany : DeviceArray 4096 oneTooMany.length := ⟨by decide, by decide⟩
  have hMixed : DeviceArray 4096 [deviceSend, invalidSend].length := ⟨by decide, by decide⟩
  have hVerbs : (launchPostBatchAndWait 0 4096 oneTooMany deviceQp).1 =
      .ok { posted := 63, status := -4 } := by decide +kernel
  have hInvalid : (launchPostBatchAndWait 0 4096 [deviceSend, invalidSend] deviceQp).1 =
      .ok { posted := 1, status := -1 } := by decide +kernel
  have hTransport : (launchTransportBatchAndWait 0 launchTransport 0 4096 oneTooMany noArrivals
      [firstArrival] deviceQp).1 = .ok { posted := 63, status := -4 } := by decide +kernel
  have hRefused : (launchTransportBatchAndWait 0 launchTransport 0 4096 [deviceSend, invalidSend]
      noArrivals [] deviceQp).1 = .ok { posted := 1, status := -1 } := by decide +kernel
  obtain ⟨hPosted, hSent⟩ := reported_prefix_iff 0 oneTooMany deviceQp hMany
  obtain ⟨hMixedPosted, hMixedSent⟩ :=
    reported_prefix_iff 0 [deviceSend, invalidSend] deviceQp hMixed
  refine ⟨⟨hVerbs, ?_⟩, ⟨hInvalid, ?_⟩, ⟨hTransport, ?_⟩, hRefused, fun hSound => ?_⟩
  · exact (hPosted _ _ (Prod.fst_eq_iff.mp hVerbs)).mp (by decide +kernel)
  · exact mt (hMixedPosted _ _ (Prod.fst_eq_iff.mp hInvalid)).mpr (by decide +kernel)
  · exact ((hSent _ _ _ _ _ _ (Prod.fst_eq_iff.mp hTransport)).mp (by decide +kernel)).2
  · have hVisible := (hMixedSent _ _ _ _ _ _ (Prod.fst_eq_iff.mp hRefused)).mpr
      ⟨by decide, hSound⟩
    revert hVisible
    decide +kernel

/-- A queue that a batch of the verbs has filled. -/
def filledQp : TransportQp :=
  (launchPostBatchAndWait 0 4096 (List.replicate 63 deviceSend) deviceQp).2

/-- An invalid request stands behind one that is not posted, a completion fails
before a batch is posted, and another one while a batch is waited for that does
not fit. -/
theorem reported_prefix_differs :
    ((launchPostBatchAndWait 0 4096 [deviceSend, invalidSend] deviceQp).1 =
        .ok { posted := 1, status := -1 } ∧
      visible deviceQp (launchPostBatchAndWait 0 4096 [deviceSend, invalidSend] deviceQp).2 = 0) ∧
    ((launchTransportBatchAndWait 0 launchTransport 0 4096 [deviceSend, invalidSend] noArrivals []
        deviceQp).1 = .ok { posted := 1, status := -1 } ∧
      visible deviceQp (launchTransportBatchAndWait 0 launchTransport 0 4096
        [deviceSend, invalidSend] noArrivals [] deviceQp).2 = 0) ∧
    ((launchTransportBatchAndWait 0 launchTransport 0 4096 [deviceSend] failedArrival []
        filledQp).1 = .ok { posted := 1, status := -3 } ∧
      visible filledQp (launchTransportBatchAndWait 0 launchTransport 0 4096 [deviceSend]
        failedArrival [] filledQp).2 = 0) ∧
    (launchTransportBatchAndWait 0 launchTransport 0 4096 (List.replicate 64 deviceSend)
        noArrivals [failedArrival] deviceQp).1 = .ok { posted := 64, status := -3 } ∧
      visible deviceQp (launchTransportBatchAndWait 0 launchTransport 0 4096
        (List.replicate 64 deviceSend) noArrivals [failedArrival] deviceQp).2 = 63 := by
  decide +kernel

end Launches

end NdsStorage.Client
