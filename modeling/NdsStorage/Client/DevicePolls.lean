import Mathlib.Data.List.Forall2
import NdsStorage.Client.DevicePosts

/-! The polling verb of the vector core on device memory. The hardware writes its
reports into the completion queue while the loop runs, and the loop hands out
the identifiers that it reads next to them. -/
namespace NdsStorage.Client

open Bytes FlatMemory PhaseRing

section Reports

variable {device device' device'' : Device} {sendCq : Bool} {side : QueueSide}
  {done : List HnsHwCqe}

/-- The index of a report is not disturbed by its owner bit. -/
theorem stampOwner_index (owner : Bool) {index : UInt32} (h : index.toNat < 2 ^ 16)
    (cqe : HnsHwCqe) : (CqRing.stampOwner owner (indexed index cqe)).byte4 >>> 16 = index := by
  have hShifted : (index <<< (16 : UInt32)).toNat = index.toNat * 2 ^ 16 := by
    rw [UInt32.toNat_shiftLeft]
    change index.toNat <<< 16 % 2 ^ 32 = _
    rw [Nat.shiftLeft_eq]
    omega
  have hLow : (cqe.byte4.toNat &&& 0xffff) >>> 16 = 0 := by
    rw [show (0xffff : Nat) = 2 ^ 16 - 1 from rfl, Nat.and_two_pow_sub_one_eq_mod,
      Nat.shiftRight_eq_div_pow]
    omega
  have hMask : (0xffffff7f : UInt32).toNat >>> 16 = 2 ^ 16 - 1 := by decide
  have hOwner : (if owner then CqRing.ownerMask else 0).toNat >>> 16 = 0 := by
    cases owner <;> decide
  apply UInt32.toNat_inj.mp
  rw [UInt32.toNat_shiftRight]
  change ((CqRing.stampOwner owner (indexed index cqe)).byte4.toNat) >>> 16 = _
  rw [CqRing.stampOwner, indexed]
  dsimp only
  rw [UInt32.toNat_or, UInt32.toNat_and, UInt32.toNat_or, UInt32.toNat_and, hShifted,
    Nat.shiftRight_or_distrib, Nat.shiftRight_and_distrib, Nat.shiftRight_or_distrib, hMask, hOwner]
  change ((cqe.byte4.toNat &&& 0xffff) >>> 16 ||| (index.toNat * 2 ^ 16) >>> 16) &&& (2 ^ 16 - 1) |||
    0 = _
  rw [hLow, Nat.shiftRight_eq_div_pow, Nat.mul_div_cancel _ (by decide), Nat.zero_or, Nat.or_zero,
    Nat.and_two_pow_sub_one_eq_mod, Nat.mod_eq_of_lt h]

/-- What reports on one side leave alone. -/
structure Reporting (sendCq : Bool) (device device' : Device) : Prop where
  qp_eq : device'.qp = device.qp
  other_eq : device'.engine (!sendCq) = device.engine (!sendCq)
  producer_eq : (device'.engine sendCq).producer = (device.engine sendCq).producer
  posted_eq : (device'.engine sendCq).posted = (device.engine sendCq).posted
  published_eq : (device'.engine sendCq).published = (device.engine sendCq).published
  keeps : device.qp.Keeps [(sendCq, .cqes)] device.memory device'.memory

theorem Reporting.refl (sendCq : Bool) (device : Device) : Reporting sendCq device device :=
  ⟨rfl, rfl, rfl, rfl, rfl, .refl _ _ _⟩

theorem Reporting.trans (h : Reporting sendCq device device')
    (hNext : Reporting sendCq device' device'') : Reporting sendCq device device'' where
  qp_eq := hNext.qp_eq.trans h.qp_eq
  other_eq := hNext.other_eq.trans h.other_eq
  producer_eq := hNext.producer_eq.trans h.producer_eq
  posted_eq := hNext.posted_eq.trans h.posted_eq
  published_eq := hNext.published_eq.trans h.published_eq
  keeps := by
    have hKeeps := hNext.keeps
    rw [h.qp_eq] at hKeeps
    exact h.keeps.trans hKeeps

/-- One side of the device during a poll, when `done` has been consumed. -/
structure Walking (sendCq : Bool) (device : Device) (side : QueueSide) (done : List HnsHwCqe) :
    Prop where
  reported : Reported device.qp device.memory sendCq (device.engine sendCq) done side.ready
  awaiting_eq : (device.engine sendCq).awaiting = side.awaiting
  index_lt : ∀ cqe ∈ side.awaiting, cqe.wqeIndex.toNat < 2 ^ 16
  ids : ∀ slot < (device.queue sendCq).depth.toNat,
    load64 device.memory (device.qp.start sendCq .ids + 8 * slot) = side.wrIds slot

/-- On a ring with room the hardware writes an arriving entry. -/
theorem arrive_room {ring : CqRing} (cqe : HnsHwCqe)
    (h : ring.written.length < ring.published + ring.cq.depth.toNat) :
    ring.arrive cqe =
      { ring with
        entries := Function.update ring.entries (ring.written.length % ring.cq.depth.toNat)
          (CqRing.stampOwner (passPhase ring.cq.depth.toNat ring.written.length) cqe)
        written := ring.written ++
          [CqRing.stampOwner (passPhase ring.cq.depth.toNat ring.written.length) cqe] } := by
  unfold CqRing.arrive
  dsimp only
  rw [if_pos h]

/-- The next report of the hardware, in its slot. -/
theorem Reported.store {qp : DeviceQp} {memory : Memory} {engine : Engine} {ready : List Cqe}
    (h : Reported qp memory sendCq engine done ready) (hLaid : qp.Laid) (cqe : HnsHwCqe)
    {next : Cqe} (hNext : next.wqeIndex.toNat < 2 ^ 16) (rest : List Cqe)
    (hRoom : engine.written < engine.published + (qp.descriptor.cq sendCq).depth.toNat) :
    let entry := CqRing.stampOwner
      (passPhase (qp.descriptor.cq sendCq).depth.toNat engine.written) (indexed next.wqeIndex cqe)
    let memory' := storeFields memory (qp.start sendCq .cqes +
      (qp.descriptor.cq sendCq).entrySize.toNat *
        (engine.written % (qp.descriptor.cq sendCq).depth.toNat)) (cqeFields entry)
    qp.Keeps [(sendCq, .cqes)] memory memory' ∧
      Reported qp memory' sendCq
        { engine with
          awaiting := rest
          written := engine.written + 1 } done
        (ready ++ [{ next with status := cqeStatus entry }]) := by
  intro entry memory'
  obtain ⟨bits, written, hBits, hLength, hNames, hOrdered⟩ := h
  have hPositive : 0 < (qp.descriptor.cq sendCq).depth.toNat := by
    have hDepth : (qp.descriptor.cq sendCq).depth.toNat = 2 ^ bits := hOrdered.depth_eq
    rw [hDepth]
    exact Nat.two_pow_pos bits
  have hSlot : engine.written % (qp.descriptor.cq sendCq).depth.toNat <
      (qp.descriptor.cq sendCq).depth.toNat := Nat.mod_lt _ hPositive
  refine ⟨.storeFields sendCq .cqes memory (by simp) ?_, bits, written ++ [entry], hBits, ?_, ?_, ?_⟩
  · rw [cqeFields_length]
    exact slot_inside hSlot (hLaid.reports sendCq)
  · simp [hLength, Nat.add_assoc]
  · exact List.rel_append hNames (.cons ⟨stampOwner_index _ hNext cqe, rfl⟩ .nil)
  · have hArrived := hOrdered.arrive (indexed next.wqeIndex cqe)
    rw [arrive_room _ (by
      change (done ++ written).length < _
      rw [← hLength]
      exact hRoom)] at hArrived
    unfold DeviceQp.ringAt
    rw [hLaid.cqeSlots_stored memory entry hSlot, ← List.append_assoc]
    change CqRing.Ordered bits done { qp.ringAt memory sendCq (done ++ written) engine.published with
      entries := Function.update (qp.cqeSlots memory sendCq)
        ((done ++ written).length % (qp.descriptor.cq sendCq).depth.toNat)
        (CqRing.stampOwner (passPhase (qp.descriptor.cq sendCq).depth.toNat
          (done ++ written).length) (indexed next.wqeIndex cqe))
      written := done ++ written ++ [CqRing.stampOwner
        (passPhase (qp.descriptor.cq sendCq).depth.toNat (done ++ written).length)
        (indexed next.wqeIndex cqe)] } at hArrived
    rw [← hLength] at hArrived
    exact hArrived

/-- A report that finds room completes the oldest request that awaits one. -/
theorem Walking.report (h : Walking sendCq device side done) (hLaid : device.qp.Laid)
    (cqe : HnsHwCqe) :
    Reporting sendCq device (device.report sendCq cqe) ∧
      ∃ statuses : List UInt8,
        Walking sendCq (device.report sendCq cqe) (statuses.foldl QueueSide.complete side) done := by
  unfold Device.report
  dsimp only
  cases hAwaiting : (device.engine sendCq).awaiting with
  | nil => exact ⟨.refl _ _, [], h⟩
  | cons next rest =>
      dsimp only
      split
      · rename_i hRoom
        have hSide : side.awaiting = next :: rest := h.awaiting_eq.symm.trans hAwaiting
        have hNext := h.index_lt next (by simp [hSide])
        obtain ⟨hKeeps, hReported⟩ := h.reported.store hLaid cqe hNext rest hRoom
        refine ⟨{
          qp_eq := by simp
          other_eq := by
            rw [Device.engine_setEngine_other]
            cases sendCq <;> rfl
          producer_eq := by rw [Device.engine_setEngine]
          posted_eq := by rw [Device.engine_setEngine]
          published_eq := by rw [Device.engine_setEngine]
          keeps := by
            rw [Device.setEngine_memory]
            exact hKeeps }, [cqeStatus (CqRing.stampOwner (passPhase (device.cq sendCq).depth.toNat
              (device.engine sendCq).written) (indexed next.wqeIndex cqe))], ?_⟩
        have hCompleted := fun status => (show side.complete status = { side with
            awaiting := rest
            ready := side.ready ++ [{ next with status := status }] } by
          rw [QueueSide.complete, hSide])
        rw [List.foldl_cons, List.foldl_nil, hCompleted]
        exact {
          reported := by
            rw [Device.engine_setEngine, Device.setEngine_qp, Device.setEngine_memory]
            exact hReported
          awaiting_eq := by rw [Device.engine_setEngine]
          index_lt := fun other hOther => h.index_lt other (by
            rw [hSide]
            exact List.mem_cons_of_mem _ hOther)
          ids := by
            intro slot hSlot
            rw [Device.setEngine_qp, Device.setEngine_memory]
            rw [Device.queue, Device.setEngine_qp] at hSlot
            exact ((hKeeps.other hLaid (by simp)).load64_eq
              (slot_inside hSlot (Nat.le_refl _))).trans (h.ids slot hSlot) }
      · exact ⟨.refl _ _, [], h⟩

/-- What arrives during a poll arrives on both sides. -/
theorem Walking.reports (cqes : List HnsHwCqe) (h : Walking sendCq device side done)
    (hLaid : device.qp.Laid) :
    Reporting sendCq device (cqes.foldl (Device.report sendCq) device) ∧
      ∃ statuses : List UInt8,
        Walking sendCq (cqes.foldl (Device.report sendCq) device)
          (statuses.foldl QueueSide.complete side) done := by
  induction cqes generalizing device side with
  | nil => exact ⟨.refl _ _, [], h⟩
  | cons cqe rest ih =>
      obtain ⟨hFirst, statuses, hNext⟩ := h.report hLaid cqe
      obtain ⟨hRest, later, hLast⟩ := ih hNext (hFirst.qp_eq ▸ hLaid)
      refine ⟨hFirst.trans hRest, statuses ++ later, ?_⟩
      rw [List.foldl_append]
      exact hLast

end Reports

section Polls

variable {device : Device} {state : TransportQp} {sendCq : Bool} {side : QueueSide}
  {done : List HnsHwCqe} {bits : Nat}

/-- What is handed to the caller names the request and its outcome. -/
def Agrees (wc : Wc) (completion : Completion) : Prop :=
  wc.wrId = completion.wrId ∧ wc.status = completion.cqe.status.toUInt32.toInt32

/-- The fields of a side that neither a report nor a poll moves. -/
def SamePosts (side side' : QueueSide) : Prop :=
  side'.wrIds = side.wrIds ∧ side'.counters.head = side.counters.head ∧ side'.posted = side.posted

/-- An arriving completion leaves the posts of a side alone. -/
theorem complete_samePosts (statuses : List UInt8) (side : QueueSide) :
    SamePosts side (statuses.foldl QueueSide.complete side) := by
  induction statuses generalizing side with
  | nil => exact ⟨rfl, rfl, rfl⟩
  | cons status rest ih =>
      have hFirst : SamePosts side (side.complete status) := by
        unfold QueueSide.complete
        split
        · exact ⟨rfl, rfl, rfl⟩
        · exact ⟨rfl, rfl, rfl⟩
      have hRest := ih (side.complete status)
      exact ⟨hRest.1.trans hFirst.1, hRest.2.1.trans hFirst.2.1, hRest.2.2.trans hFirst.2.2⟩

/-- A look at the next slot finds the oldest report that is ready, if there is one. -/
theorem Walking.look (h : Walking sendCq device side done) (hLaid : device.qp.Laid) :
    let consumer := UInt32.ofNat done.length
    let cqe := loadCqe device.memory ((device.cq sendCq).entryAddress consumer).toNat
    (ownerTurned cqe consumer (device.cq sendCq).depth = true ∧
      ∃ next rest, side.ready = next :: rest ∧ Names cqe next ∧
        Reported device.qp device.memory sendCq (device.engine sendCq) (done ++ [cqe]) rest) ∨
    (ownerTurned cqe consumer (device.cq sendCq).depth = false ∧ side.ready = []) := by
  intro consumer cqe
  obtain ⟨bits, written, hBits, hLength, hNames, hOrdered⟩ := h.reported
  have hDepth : (device.qp.descriptor.cq sendCq).depth.toNat = 2 ^ bits := hOrdered.depth_eq
  have hPositive : 0 < (device.qp.descriptor.cq sendCq).depth.toNat := by
    rw [hDepth]
    exact Nat.two_pow_pos bits
  have hEntry : device.qp.cqeSlots device.memory sendCq
      (ringIndex consumer (device.qp.descriptor.cq sendCq).depth) = cqe := by
    rw [DeviceQp.cqeSlots, if_pos (ringIndex_lt consumer hPositive),
      ← hLaid.cqeAddress_eq consumer hPositive]
    rfl
  have hLook := hOrdered.look hBits
  change (ownerTurned (device.qp.cqeSlots device.memory sendCq (ringIndex consumer
      (device.qp.descriptor.cq sendCq).depth)) consumer (device.cq sendCq).depth = true ∧
    done ++ [device.qp.cqeSlots device.memory sendCq (ringIndex consumer
      (device.qp.descriptor.cq sendCq).depth)] <+: done ++ written) ∨
    (ownerTurned (device.qp.cqeSlots device.memory sendCq (ringIndex consumer
      (device.qp.descriptor.cq sendCq).depth)) consumer (device.cq sendCq).depth = false ∧
      done = done ++ written) at hLook
  rw [hEntry] at hLook
  rcases hLook with ⟨hTurned, later, hPrefix⟩ | ⟨hKept, hAll⟩
  · left
    rw [List.append_assoc] at hPrefix
    have hWritten : written = cqe :: later := (List.append_cancel_left hPrefix).symm
    subst hWritten
    cases hReady : side.ready with
    | nil =>
        rw [hReady] at hNames
        cases hNames
    | cons next rest =>
        rw [hReady] at hNames
        cases hNames with
        | cons hFirst hRest =>
            refine ⟨hTurned, next, rest, rfl, hFirst, bits, later, hBits, ?_, hRest, ?_⟩
            · simpa using hLength
            · have hPublished := hOrdered.published_le
              exact {
                depth_eq := hOrdered.depth_eq
                done_prefix := List.prefix_append _ _
                published_le := by
                  rw [List.length_append]
                  exact Nat.le_trans hPublished (Nat.le_add_right _ _)
                ahead_le := by simpa [DeviceQp.ringAt] using hOrdered.ahead_le
                phased := by simpa [DeviceQp.ringAt] using hOrdered.phased }
  · right
    have hNone : written = [] := by simpa using hAll
    subst hNone
    cases hNames' : side.ready with
    | nil => exact ⟨hKept, rfl⟩
    | cons next rest =>
        rw [hNames'] at hNames
        cases hNames

/-- What the loop over device memory has done when it ends, next to the loop
over the record. -/
structure PolledAlike (sendCq : Bool) (limit : Nat) (done taken : List HnsHwCqe)
    (cursor : Device.Cursor) (side : QueueSide) (walked : List Wc × Device.Cursor)
    (polled : List Completion × QueueSide) : Prop where
  agrees : List.Forall₂ Agrees walked.1 polled.1
  taken_length : taken.length = walked.1.length
  within : walked.1.length ≤ limit
  consumer_eq : walked.2.consumer = polled.2.counters.consumer
  counted : walked.2.consumer = UInt32.ofNat (done ++ taken).length
  tail_eq : walked.2.tail = polled.2.counters.tail
  walking : Walking sendCq walked.2.device polled.2 (done ++ taken)
  reporting : Reporting sendCq cursor.device walked.2.device
  posts : SamePosts side polled.2
  idle : walked.1 = [] → walked.2.consumer = cursor.consumer ∧ walked.2.tail = cursor.tail

/-- The status byte is the low byte of its word. -/
theorem byte_toUInt32 (value : UInt32) : value.toUInt8.toUInt32 = value &&& 0xff := by
  apply UInt32.toNat_inj.mp
  rw [UInt8.toNat_toUInt32, UInt32.toNat_toUInt8, UInt32.toNat_and]
  exact (Nat.and_two_pow_sub_one_eq_mod _ 8).symm

/-- An entry that names a completion decodes to it. -/
theorem agrees_of_names {cqe : HnsHwCqe} {next : Cqe} (h : Names cqe next) (id : UInt64) :
    Agrees (hnsHwDecodeCqe cqe id) { wrId := id, cqe := next } := by
  refine ⟨rfl, ?_⟩
  change ((cqe.byte4 >>> 8) &&& 0xff).toInt32 = _
  rw [← h.2, cqeStatus, byte_toUInt32]

/-- A poll of the memory takes what a poll of the queue takes. -/
theorem Walking.pollWalk (limit : Nat) (arrivals : List (List HnsHwCqe)) {cursor : Device.Cursor}
    (h : Walking sendCq cursor.device side done) (hLaid : cursor.device.qp.Laid)
    (hPositive : 0 < (cursor.device.queue sendCq).depth.toNat)
    (hConsumer : cursor.consumer = side.counters.consumer)
    (hCounted : cursor.consumer = UInt32.ofNat done.length)
    (hTail : cursor.tail = side.counters.tail) :
    ∃ statuses taken, PolledAlike sendCq limit done taken cursor side
      (Device.pollWalk sendCq limit arrivals cursor)
      (pollLoop sendCq (cursor.device.queue sendCq).depth limit statuses side) := by
  induction limit generalizing arrivals cursor side done with
  | zero =>
      exact ⟨[], [], {
        agrees := .nil
        taken_length := rfl
        within := Nat.le_refl _
        consumer_eq := hConsumer
        counted := by simpa [Device.pollWalk] using hCounted
        tail_eq := hTail
        walking := by simpa [Device.pollWalk, pollLoop] using h
        reporting := .refl _ _
        posts := ⟨rfl, rfl, rfl⟩
        idle := fun _ => ⟨rfl, rfl⟩ }⟩
  | succ limit ih =>
      obtain ⟨hReporting, statuses, hArrived⟩ := h.reports (arrivals.headD []) hLaid
      have hPosts := complete_samePosts statuses side
      have hUnmoved := QueueSide.Tracks.arrive_unmoved side statuses
      have hQueue : ((arrivals.headD []).foldl (Device.report sendCq) cursor.device).queue sendCq =
          cursor.device.queue sendCq := by
        rw [Device.queue, hReporting.qp_eq, Device.queue]
      unfold Device.pollWalk
      dsimp only
      generalize (arrivals.headD []).foldl (Device.report sendCq) cursor.device = arrived
        at hReporting hArrived hQueue ⊢
      generalize hAfter : statuses.foldl QueueSide.complete side = after at hArrived hPosts hUnmoved
      have hLaid' : arrived.qp.Laid := hReporting.qp_eq ▸ hLaid
      have hLook := hArrived.look hLaid'
      dsimp only at hLook
      rw [← hCounted] at hLook
      rcases hLook with ⟨hTurned, next, rest, hReady, hNames, hReported⟩ | ⟨hKept, hReady⟩
      · rw [if_pos hTurned, hQueue]
        generalize loadCqe arrived.memory
          ((arrived.cq sendCq).entryAddress cursor.consumer).toNat = cqe at hNames hReported ⊢
        have hCovered : (if sendCq then hnsHwSendTailForCqe cursor.tail
              (cursor.device.queue sendCq).depth cqe else cursor.tail) =
            coveredTail sendCq (cursor.device.queue sendCq).depth after.counters.tail next := by
          rw [coveredTail, hUnmoved.1, hTail, hnsHwSendTailForCqe, sendTailForCqe, hNames.1]
        rw [hCovered]
        generalize hTailOf : coveredTail sendCq (cursor.device.queue sendCq).depth
          after.counters.tail next = tail
        have hNext : Walking sendCq arrived { after with
            counters.consumer := after.counters.consumer + 1
            counters.tail := tail + 1
            ready := rest
            reclaimed := next.position + 1 } (done ++ [cqe]) := {
          reported := hReported
          awaiting_eq := hArrived.awaiting_eq
          index_lt := hArrived.index_lt
          ids := hArrived.ids }
        have hCount : cursor.consumer + 1 = UInt32.ofNat (done ++ [cqe]).length := by
          rw [List.length_append, UInt32.ofNat_add, ← hCounted]
          rfl
        obtain ⟨later, taken, hRest⟩ := @ih _ _ arrivals.tail
          { consumer := cursor.consumer + 1, tail := tail + 1, device := arrived } hNext hLaid'
          (by rw [hQueue]; exact hPositive) (by rw [hUnmoved.1, hConsumer]) hCount rfl
        rw [hQueue] at hRest
        have hId : load64 arrived.memory ((cursor.device.queue sendCq).idAddress tail).toNat =
            after.wrIds (ringIndex tail (cursor.device.queue sendCq).depth) := by
          have hAddress : ((cursor.device.queue sendCq).idAddress tail).toNat =
              cursor.device.qp.start sendCq .ids +
                8 * ringIndex tail (cursor.device.queue sendCq).depth :=
            hLaid.idAddress_eq tail hPositive
          have hSlot := ringIndex_lt tail hPositive
          rw [← hQueue] at hSlot
          have hShown := hArrived.ids _ hSlot
          rw [hQueue, hReporting.qp_eq, ← hAddress] at hShown
          exact hShown
        have hLoop : pollLoop sendCq (cursor.device.queue sendCq).depth (limit + 1)
            (statuses :: later) side =
            ({ wrId := after.wrIds (ringIndex tail (cursor.device.queue sendCq).depth), cqe := next } ::
              (pollLoop sendCq (cursor.device.queue sendCq).depth limit later { after with
                counters.consumer := after.counters.consumer + 1
                counters.tail := tail + 1
                ready := rest
                reclaimed := next.position + 1 }).1,
              (pollLoop sendCq (cursor.device.queue sendCq).depth limit later { after with
                counters.consumer := after.counters.consumer + 1
                counters.tail := tail + 1
                ready := rest
                reclaimed := next.position + 1 }).2) := by
          rw [pollLoop]
          dsimp only [List.headD, List.tail]
          rw [hAfter, hReady]
          dsimp only
          rw [hTailOf]
        refine ⟨statuses :: later, cqe :: taken, ?_⟩
        rw [hLoop, hId]
        exact {
          agrees := .cons (agrees_of_names hNames _) hRest.agrees
          taken_length := congrArg (· + 1) hRest.taken_length
          within := Nat.succ_le_succ hRest.within
          consumer_eq := hRest.consumer_eq
          counted := by simpa using hRest.counted
          tail_eq := hRest.tail_eq
          walking := by simpa using hRest.walking
          reporting := hReporting.trans hRest.reporting
          posts := ⟨hRest.posts.1.trans hPosts.1, hRest.posts.2.1.trans hPosts.2.1,
            hRest.posts.2.2.trans hPosts.2.2⟩
          idle := fun hNone => by cases hNone }
      · rw [if_neg (by simp [hKept])]
        refine ⟨[statuses], [], ?_⟩
        have hNone : pollLoop sendCq (cursor.device.queue sendCq).depth (limit + 1) [statuses] side =
            ([], after) := by
          rw [pollLoop]
          dsimp only [List.headD]
          rw [hAfter, hReady]
        rw [hNone]
        exact {
          agrees := .nil
          taken_length := rfl
          within := Nat.zero_le _
          consumer_eq := by
            rw [hUnmoved.1]
            exact hConsumer
          counted := by simpa using hCounted
          tail_eq := by
            rw [hUnmoved.1]
            exact hTail
          walking := by simpa using hArrived
          reporting := hReporting
          posts := hPosts
          idle := fun _ => ⟨rfl, rfl⟩ }

/-- The doorbell of the completion queue tells how far it has been read. -/
theorem Engine.learn_eq {engine : Engine} {count : Nat} (hFew : count < 2 ^ 24) :
    (engine.learn (UInt32.ofNat (engine.published + count) &&& 0x00ffffff)).published =
      engine.published + count := by
  have hMask : (UInt32.ofNat (engine.published + count) &&& 0x00ffffff).toNat =
      (engine.published + count) % 2 ^ 32 % 2 ^ 24 := by
    rw [UInt32.toNat_and, UInt32.toNat_ofNat']
    exact Nat.and_two_pow_sub_one_eq_mod _ 24
  rw [learn]
  dsimp only
  rw [hMask]
  omega

/-- The answer of a poll over memory against that over the record. -/
def PollAgrees : Except OperationStatus (List Wc) → Except OperationStatus (List Completion) → Prop
  | .error status, .error expected => status = expected
  | .ok completions, .ok expected => List.Forall₂ Agrees completions expected
  | _, _ => False

/-- Between calls, everything published has been consumed. -/
theorem Device.Mirrors.walking (h : device.Mirrors state) (sendCq : Bool) :
    ∃ done, Walking sendCq device (state.side sendCq) done ∧
      (device.engine sendCq).published = done.length ∧
      (state.side sendCq).counters.consumer = UInt32.ofNat done.length := by
  obtain ⟨done, hReported, hPublished, hConsumer⟩ := h.reports sendCq
  have hFollows := h.follows sendCq
  exact ⟨done, {
    reported := hReported
    awaiting_eq := hFollows.awaiting_eq
    index_lt := by
      rw [← hFollows.awaiting_eq]
      exact hFollows.index_lt
    ids := h.shows sendCq .ids }, hPublished, hConsumer⟩

/-- Storing the consumer word publishes what was consumed. -/
theorem Reported.publish {qp : DeviceQp} {memory : Memory} {engine engine' : Engine}
    {ready : List Cqe} (h : Reported qp memory sendCq engine done ready)
    (hWritten : engine'.written = engine.written) (hPublished : engine'.published = done.length) :
    Reported qp memory sendCq engine' done ready := by
  obtain ⟨bits, rest, hBits, hLength, hNames, hOrdered⟩ := h
  have hTold := hOrdered.published_le
  have hAhead := hOrdered.ahead_le
  refine ⟨bits, rest, hBits, hWritten.trans hLength, hNames, ?_⟩
  exact {
    depth_eq := hOrdered.depth_eq
    done_prefix := hOrdered.done_prefix
    published_le := Nat.le_of_eq hPublished
    ahead_le := by
      change (done ++ rest).length ≤ engine'.published + _
      change (done ++ rest).length ≤ engine.published + _ at hAhead
      change engine.published ≤ _ at hTold
      omega
    phased := hOrdered.phased }

theorem side_setSide (state : TransportQp) (sendCq : Bool) (side : QueueSide) :
    (state.setSide sendCq side).side sendCq = side ∧
      (state.setSide sendCq side).side (!sendCq) = state.side (!sendCq) ∧
      (state.setSide sendCq side).descriptor = state.descriptor ∧
      (state.setSide sendCq side).sendRing = state.sendRing ∧
      (state.setSide sendCq side).receiveRing = state.receiveRing := by
  cases sendCq with
  | true => exact ⟨rfl, rfl, rfl, rfl, rfl⟩
  | false => exact ⟨rfl, rfl, rfl, rfl, rfl⟩

/-- After a poll, with its counters stored, the device mirrors the record again. -/
theorem Device.Mirrors.of_poll {device' polled : Device} {side' : QueueSide}
    (h : device.Mirrors state) (hLaid : device.qp.Laid)
    (hReporting : Reporting sendCq device device')
    (hWalking : Walking sendCq device' side' done) (hPosts : SamePosts (state.side sendCq) side')
    (hQp : polled.qp = device'.qp)
    (hKeeps : device.qp.Keeps [(sendCq, .consumer), (sendCq, .tail), (sendCq, .cqDoorbell)]
      device'.memory polled.memory)
    (hOther : polled.engine (!sendCq) = device'.engine (!sendCq))
    (hEngine : polled.engine sendCq =
      { device'.engine sendCq with published := done.length })
    (hConsumed : side'.counters.consumer = UInt32.ofNat done.length)
    (hConsumer : load32 polled.memory (device.qp.start sendCq .consumer) =
      side'.counters.consumer)
    (hTail : load32 polled.memory (device.qp.start sendCq .tail) = side'.counters.tail) :
    polled.Mirrors (state.setSide sendCq side') := by
  obtain ⟨hSame, hElse, hDescriptor, hSends, hReceives⟩ := side_setSide state sendCq side'
  have hQp' : polled.qp = device.qp := hQp.trans hReporting.qp_eq
  have hBoth : ∀ which, which ≠ sendCq → which = !sendCq := by
    intro which hNe
    cases which <;> cases sendCq <;> simp_all
  have hKept : ∀ which part, (which, part) ≠ (sendCq, .cqes) →
      (which, part) ∉ [(sendCq, .consumer), (sendCq, .tail), (sendCq, QueuePart.cqDoorbell)] →
      device.qp.Shows polled.memory state which part := by
    intro which part hFirst hSecond
    exact ((h.shows which part).same hLaid
      (hReporting.keeps.other hLaid (by simpa using hFirst))).same hLaid
      (hKeeps.other hLaid hSecond)
  exact {
    descriptor_eq := by
      rw [hQp', hDescriptor]
      exact h.descriptor_eq
    shows := by
      intro which part
      rw [hQp']
      by_cases hWhich : which = sendCq
      · subst hWhich
        cases part with
        | ring =>
            intro slot hSlot
            have hShown := hKept which .ring (by simp) (by simp) slot hSlot
            rw [hSends, hReceives]
            exact hShown
        | ids =>
            intro slot hSlot
            rw [hSame, hPosts.1]
            exact hKept which .ids (by simp) (by simp) slot hSlot
        | head =>
            refine (hKept which .head (by simp) (by simp)).trans ?_
            rw [hSame]
            exact hPosts.2.1.symm
        | tail =>
            refine hTail.trans ?_
            rw [hSame]
        | consumer =>
            refine hConsumer.trans ?_
            rw [hSame]
        | doorbell => trivial
        | cqes => trivial
        | cqDoorbell => trivial
      · have hNot := hBoth which hWhich
        exact (hKept which part (by simp [hWhich]) (by simp [hWhich])).of_side
          (by rw [hNot, hElse]) (fun _ => hSends) (fun _ => hReceives)
    follows := by
      intro which
      by_cases hWhich : which = sendCq
      · subst hWhich
        have hFollows := h.follows which
        rw [hEngine, hSame]
        exact {
          producer_eq := hReporting.producer_eq.trans (hFollows.producer_eq.trans hPosts.2.1.symm)
          posted_eq := hReporting.posted_eq.trans (hFollows.posted_eq.trans hPosts.2.2.symm)
          awaiting_eq := hWalking.awaiting_eq
          index_lt := by
            dsimp only
            rw [hWalking.awaiting_eq]
            exact hWalking.index_lt }
      · rw [hBoth which hWhich, hOther, hReporting.other_eq, hElse]
        exact h.follows _
    reports := by
      intro which
      rw [hQp']
      by_cases hWhich : which = sendCq
      · subst hWhich
        have hReported := hWalking.reported
        rw [hReporting.qp_eq] at hReported
        rw [hEngine, hSame]
        exact ⟨done, (hReported.same hLaid (hKeeps.other hLaid (by simp)) rfl rfl).publish rfl rfl,
          rfl, hConsumed⟩
      · obtain ⟨earlier, hReported, hPublished, hCount⟩ := h.reports which
        have hCqes := (hReporting.keeps.other hLaid (by simp [hWhich])).trans
          (@DeviceQp.Keeps.other _ _ _ _ which .cqes hKeeps hLaid (by simp))
        rw [hBoth which hWhich] at hReported hPublished hCount hCqes ⊢
        rw [hOther, hReporting.other_eq, hElse]
        exact ⟨earlier, hReported.same hLaid hCqes rfl rfl, hPublished, hCount⟩ }

/-- A poll that finds nothing stores nothing, but reports may have arrived. -/
theorem Device.Mirrors.of_reports {device' : Device} {side' : QueueSide} (h : device.Mirrors state)
    (hLaid : device.qp.Laid) (hReporting : Reporting sendCq device device')
    (hWalking : Walking sendCq device' side' done) (hPosts : SamePosts (state.side sendCq) side')
    (hPublished : (device.engine sendCq).published = done.length)
    (hConsumed : (state.side sendCq).counters.consumer = UInt32.ofNat done.length)
    (hCounters : side'.counters.consumer = (state.side sendCq).counters.consumer ∧
      side'.counters.tail = (state.side sendCq).counters.tail) :
    device'.Mirrors (state.setSide sendCq side') := by
  have hWord := fun part (hPart : part ≠ QueuePart.cqes) =>
    @DeviceQp.Keeps.other _ _ _ _ sendCq part hReporting.keeps hLaid (by simpa using hPart)
  refine h.of_poll hLaid hReporting hWalking hPosts rfl (.refl _ _ _) rfl ?_
    (hCounters.1.trans hConsumed) ?_ ?_
  · rw [← hPublished, ← hReporting.published_eq]
  · rw [(hWord .consumer (by simp)).load32_eq ⟨Nat.le_refl _, Nat.le_refl _⟩, hCounters.1]
    exact h.shows sendCq .consumer
  · rw [(hWord .tail (by simp)).load32_eq ⟨Nat.le_refl _, Nat.le_refl _⟩, hCounters.2]
    exact h.shows sendCq .tail

/-- A report of the hardware is the arrival of a completion, or of none. -/
theorem Device.Mirrors.report (h : device.Mirrors state) (hLaid : device.qp.Laid) (sendCq : Bool)
    (cqe : HnsHwCqe) :
    ∃ arrivals, device.Simulates Eq ((), device.report sendCq cqe) ((), state.arrive arrivals) := by
  obtain ⟨done, hWalking, hPublished, hConsumed⟩ := h.walking sendCq
  obtain ⟨hReporting, statuses, hNext⟩ := hWalking.report hLaid cqe
  have hCounters := (QueueSide.Tracks.arrive_unmoved (state.side sendCq) statuses).1
  have hMirrors := h.of_reports hLaid hReporting hNext (complete_samePosts statuses _) hPublished
    hConsumed ⟨by rw [hCounters], by rw [hCounters]⟩
  have hKeeps := hReporting.keeps.widen (fun _ _ => mem_queueParts _ _)
  cases sendCq with
  | true => exact ⟨⟨statuses, []⟩, rfl, hMirrors, hReporting.qp_eq, hKeeps⟩
  | false => exact ⟨⟨[], statuses⟩, rfl, hMirrors, hReporting.qp_eq, hKeeps⟩

/-- The counters that a poll stores, and its doorbell. -/
def storeCounters (qp : DeviceQp) (sendCq : Bool) (memory : Memory)
    (consumer tail doorbell : UInt32) : Memory :=
  store32 (store32 (store32 memory (qp.start sendCq .consumer) consumer) (qp.start sendCq .tail) tail)
    (qp.start sendCq .cqDoorbell) doorbell

/-- A poll writes back three words and leaves the rest. -/
theorem storeCounters_keeps (qp : DeviceQp) (sendCq : Bool) (memory : Memory)
    (consumer tail doorbell : UInt32) :
    qp.Keeps [(sendCq, .consumer), (sendCq, .tail), (sendCq, .cqDoorbell)] memory
      (storeCounters qp sendCq memory consumer tail doorbell) :=
  ((DeviceQp.Keeps.store32 sendCq .consumer _ _ (by simp) ⟨Nat.le_refl _, Nat.le_refl _⟩).trans
    (.store32 sendCq .tail _ _ (by simp) ⟨Nat.le_refl _, Nat.le_refl _⟩)).trans
    (.store32 sendCq .cqDoorbell _ _ (by simp) ⟨Nat.le_refl _, Nat.le_refl _⟩)

/-- The two counters that a poll writes back can be read again. -/
theorem storeCounters_words {qp : DeviceQp} (hLaid : qp.Laid) (sendCq : Bool) (memory : Memory)
    (consumer tail doorbell : UInt32) :
    load32 (storeCounters qp sendCq memory consumer tail doorbell) (qp.start sendCq .consumer) =
        consumer ∧
      load32 (storeCounters qp sendCq memory consumer tail doorbell) (qp.start sendCq .tail) =
        tail := by
  have hBell := fun part memory (hPart : part ≠ QueuePart.cqDoorbell) =>
    store32_sameOn memory doorbell (hLaid.apart sendCq .cqDoorbell sendCq part
      (by simpa using Ne.symm hPart))
  have hTail := fun memory => store32_sameOn memory tail (hLaid.apart sendCq .tail sendCq .consumer
    (by simp))
  unfold storeCounters
  constructor
  · rw [(hBell .consumer _ (by simp)).load32_eq ⟨Nat.le_refl _, Nat.le_refl _⟩,
      (hTail _).load32_eq ⟨Nat.le_refl _, Nat.le_refl _⟩, load32_store32]
  · rw [(hBell .tail _ (by simp)).load32_eq ⟨Nat.le_refl _, Nat.le_refl _⟩, load32_store32]

/-- A poll of the memory is a poll of the mirrored queue. -/
theorem Device.Mirrors.pollCq (h : device.Mirrors state) (hLaid : device.qp.Laid) (sendCq : Bool)
    (hPositive : 0 < (state.descriptor.queue sendCq).depth.toNat) (maxCompletions : Nat)
    (arrivals : List (List HnsHwCqe)) :
    ∃ statuses, device.Simulates PollAgrees (device.aivPollCq sendCq maxCompletions arrivals)
      (Client.aivPollCq sendCq maxCompletions statuses state) := by
  obtain ⟨-, hTail, hConsumer, hQueue⟩ := h.words sendCq
  obtain ⟨done, hWalking, hPublished, hConsumed⟩ := h.walking sendCq
  unfold Device.aivPollCq Client.aivPollCq
  dsimp only
  split
  · exact ⟨[], rfl, h, rfl, .refl _ _ _⟩
  rw [hTail, hConsumer, ← hQueue]
  rw [← hQueue] at hPositive
  obtain ⟨statuses, taken, hPolled⟩ := @Walking.pollWalk sendCq (state.side sendCq) done
    (min maxCompletions kMaxCompletions) arrivals {
      consumer := (state.side sendCq).counters.consumer
      tail := (state.side sendCq).counters.tail
      device := device } hWalking hLaid hPositive rfl hConsumed rfl
  refine ⟨statuses, ?_⟩
  dsimp only at hPolled
  generalize Device.pollWalk sendCq (min maxCompletions kMaxCompletions) arrivals {
      consumer := (state.side sendCq).counters.consumer
      tail := (state.side sendCq).counters.tail
      device := device } = walked at hPolled ⊢
  generalize pollLoop sendCq (device.queue sendCq).depth (min maxCompletions kMaxCompletions) statuses
    (state.side sendCq) = polled at hPolled ⊢
  obtain ⟨completions, consumer, tail, after⟩ := walked
  have hReporting := hPolled.reporting
  have hAgrees := hPolled.agrees
  have hReports := hReporting.keeps.widen (fun _ _ => mem_queueParts _ _)
  dsimp only at hReporting hAgrees hReports ⊢
  split
  · rename_i hNone
    have hTaken : taken = [] := List.length_eq_zero_iff.mp (by
      rw [hPolled.taken_length]
      exact congrArg List.length hNone)
    have hWalked := hPolled.walking
    rw [hTaken, List.append_nil] at hWalked
    obtain ⟨hSameConsumer, hSameTail⟩ := hPolled.idle hNone
    rw [hNone] at hAgrees
    exact {
      answer := hAgrees
      mirrors := h.of_reports hLaid hReporting hWalked hPolled.posts hPublished hConsumed
        ⟨hPolled.consumer_eq.symm.trans hSameConsumer, hPolled.tail_eq.symm.trans hSameTail⟩
      qp_eq := hReporting.qp_eq
      keeps := hReports }
  · have hLearned := @Engine.learn_eq (after.engine sendCq) taken.length (by
      have hWithin := hPolled.within
      rw [← hPolled.taken_length] at hWithin
      have hLimit := Nat.le_trans hWithin (Nat.min_le_right _ _)
      change taken.length ≤ 16 at hLimit
      omega)
    rw [hReporting.published_eq, hPublished, ← List.length_append, ← hPolled.counted] at hLearned
    have hStores := storeCounters_keeps device.qp sendCq after.memory consumer tail
      (consumer &&& 0x00ffffff)
    have hWords := storeCounters_words hLaid sendCq after.memory consumer tail
      (consumer &&& 0x00ffffff)
    exact {
      answer := hAgrees
      mirrors := h.of_poll hLaid hReporting hPolled.walking hPolled.posts (by simp) (by
          rw [Device.setEngine_memory]
          exact hStores) (by
          rw [Device.engine_setEngine_other]
          cases sendCq <;> rfl) (by
          rw [Device.engine_setEngine, ← hLearned]
          rfl) (hPolled.consumer_eq.symm.trans hPolled.counted) (by
          rw [Device.setEngine_memory]
          exact hWords.1.trans hPolled.consumer_eq) (by
          rw [Device.setEngine_memory]
          exact hWords.2.trans hPolled.tail_eq)
      qp_eq := by
        rw [Device.setEngine_qp]
        exact hReporting.qp_eq
      keeps := by
        rw [Device.setEngine_memory]
        exact hReports.trans (hStores.widen fun _ _ => mem_queueParts _ _) }

end Polls

end NdsStorage.Client
