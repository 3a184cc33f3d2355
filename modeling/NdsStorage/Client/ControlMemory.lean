import NdsStorage.Client.DevicePolls
import NdsStorage.Client.ProviderPosts

/-! The verbs of the control processor on device memory. It polls and posts
receives as the vector core does, once it has checked the addresses of the
queue. For a send it stores the identifier and leaves the entry to its provider. -/
namespace NdsStorage.Client

open Bytes FlatMemory

namespace Device

/-- The part of a send that comes before the call of the provider. -/
def aicpuStoreId (id : UInt64) (device : Device) : Device :=
  let queue := device.queue true
  let head := load32 device.memory queue.headAddress.toNat
  { device with memory := store64 device.memory (queue.idAddress head).toNat id }

def aicpuPostRecv (wr : RecvWr) (device : Device) : OperationStatus × Device :=
  let queue := device.queue false
  if queue.bufferAddress = 0 ∨ queue.headAddress = 0 ∨ queue.tailAddress = 0 ∨
      queue.doorbellAddress = 0 ∨ queue.wrIdAddress = 0 ∨ queue.depth = 0 ∨
      queue.entrySize < kHnsHwWqeDataSegBytes then
    (.invalidArgument, device)
  else
    let head := load32 device.memory queue.headAddress.toNat
    if head - load32 device.memory queue.tailAddress.toNat ≥ queue.depth then (.queueFull, device)
    else
      let memory := storeFields device.memory (queue.entryAddress head).toNat
        (sgeFields wr.localBuffer)
      let memory := store64 memory (queue.idAddress head).toNat wr.wrId
      let doorbell := (head + 1) &&& 0xffff
      let memory := store32 memory queue.doorbellAddress.toNat doorbell
      (.success, { device with
        memory := store32 memory queue.headAddress.toNat (head + 1)
        receive := device.receive.takeReceives (device.receive.rungFor doorbell) })

/-- The doorbell of the completion queue is optional. The depth is not zero in
the loop, so an entry is ready here when it is for the vector core. -/
def aicpuPollCq (sendCq : Bool) (maxCompletions : Nat) (arrivals : List (List HnsHwCqe))
    (device : Device) : Except OperationStatus (List Wc) × Device :=
  let cq := device.cq sendCq
  let wq := device.queue sendCq
  if maxCompletions = 0 then (.error .invalidArgument, device)
  else if cq.bufferAddress = 0 ∨ cq.consumerAddress = 0 ∨ cq.depth = 0 ∨
      cq.entrySize < kHnsHwCqeBytes ∨ wq.tailAddress = 0 ∨ wq.wrIdAddress = 0 then
    (.error .invalidArgument, device)
  else
    let polled := pollWalk sendCq (min maxCompletions kMaxCompletions) arrivals {
      consumer := load32 device.memory cq.consumerAddress.toNat
      tail := load32 device.memory wq.tailAddress.toNat
      device := device }
    let device := polled.2.device
    if polled.1 = [] then (.ok [], device)
    else
      let memory := store32 device.memory cq.consumerAddress.toNat polled.2.consumer
      let memory := store32 memory wq.tailAddress.toNat polled.2.tail
      if cq.doorbellAddress = 0 then (.ok polled.1, { device with memory := memory })
      else
        let doorbell := polled.2.consumer &&& 0x00ffffff
        (.ok polled.1, { device with
          memory := store32 memory cq.doorbellAddress.toNat doorbell }.setEngine sendCq
            ((device.engine sendCq).learn doorbell))

variable {device : Device} {state : TransportQp}

/-- The identifier goes to the slot at the head, and nothing else moves. -/
theorem Mirrors.aicpuStoreId (h : device.Mirrors state) (hLaid : device.qp.Laid)
    (hPositive : 0 < state.descriptor.sendQueue.depth.toNat) (id : UInt64) :
    device.Simulates Eq ((), device.aicpuStoreId id)
      ((), { state with send := state.send.storeId state.descriptor.sendQueue.depth id }) := by
  obtain ⟨hHead, -, -, hQueue⟩ := h.words true
  change _ = state.send.counters.head at hHead
  change _ = state.descriptor.sendQueue.depth at hQueue
  have hDeep : 0 < (device.qp.descriptor.queue true).depth.toNat := by
    change 0 < (device.queue true).depth.toNat
    rw [hQueue]
    exact hPositive
  have hIndex := ringIndex_lt state.send.counters.head hDeep
  have hKeeps : device.qp.Keeps [(true, .ids)] device.memory
      (device.aicpuStoreId id).memory := by
    unfold Device.aicpuStoreId
    dsimp only
    rw [hHead, queue, hLaid.idAddress_eq _ hDeep]
    exact .store64 true .ids _ _ (by simp) (slot_inside hIndex (Nat.le_refl _))
  have hIds : device.qp.Shows (device.aicpuStoreId id).memory
      { state with send := state.send.storeId state.descriptor.sendQueue.depth id } true .ids := by
    unfold Device.aicpuStoreId
    dsimp only
    rw [hHead, ← hQueue, queue, hLaid.idAddress_eq _ hDeep]
    exact DeviceQp.ids_stored id (h.shows true .ids)
  exact {
    answer := rfl
    qp_eq := rfl
    keeps := hKeeps.widen fun _ _ => mem_queueParts _ _
    mirrors := {
      descriptor_eq := h.descriptor_eq
      shows := by
        intro sendCq part
        by_cases hHere : (sendCq, part) = (true, QueuePart.ids)
        · cases hHere
          exact hIds
        · have hKept := (h.shows sendCq part).same hLaid (hKeeps.other hLaid (by simpa using hHere))
          cases sendCq with
          | false => exact hKept.of_side rfl (fun _ => rfl) fun _ => rfl
          | true => cases part <;> first | exact hKept | exact absurd rfl hHere
      follows := by
        intro sendCq
        cases sendCq with
        | true =>
            have hFollows := h.follows true
            exact {
              producer_eq := hFollows.producer_eq
              posted_eq := hFollows.posted_eq
              awaiting_eq := hFollows.awaiting_eq
              index_lt := hFollows.index_lt }
        | false => exact h.follows false
      reports := by
        intro sendCq
        obtain ⟨done, hReported, hTold, hConsumed⟩ := h.reports sendCq
        have hCqes := @DeviceQp.Keeps.other _ _ _ _ sendCq .cqes hKeeps hLaid (by simp)
        cases sendCq with
        | true => exact ⟨done, hReported.same hLaid hCqes rfl rfl, hTold, hConsumed⟩
        | false => exact ⟨done, hReported.same hLaid hCqes rfl rfl, hTold, hConsumed⟩ } }

/-- A receive that passes the checks is posted as the vector core posts it. -/
theorem Mirrors.aicpuPostRecv (h : device.Mirrors state) (hLaid : device.qp.Laid) (wr : RecvWr) :
    device.Simulates Eq (device.aicpuPostRecv wr) (Client.aicpuPostRecv wr state) := by
  have hSame : device.queue false = state.descriptor.receiveQueue :=
    congrArg (fun descriptor => QpDescriptor.queue descriptor false) h.descriptor_eq
  unfold Device.aicpuPostRecv Client.aicpuPostRecv
  rw [hSame]
  dsimp only
  split
  · exact h.unmoved _
  · rename_i hChecked
    simp only [not_or] at hChecked
    have hPosted := h.postRecv hLaid (UInt32.pos_iff_ne_zero.mpr hChecked.2.2.2.2.2.1) wr
    unfold Device.aivPostRecv Client.aivPostRecv at hPosted
    rw [hSame] at hPosted
    exact hPosted

/-- A poll that passes the checks is the poll of the vector core, as long as the
completion queue has a doorbell. -/
theorem Mirrors.aicpuPollCq (h : device.Mirrors state) (hLaid : device.qp.Laid) (sendCq : Bool)
    (hDoorbell : (state.descriptor.cq sendCq).doorbellAddress ≠ 0)
    (hPositive : 0 < (state.descriptor.queue sendCq).depth.toNat) (maxCompletions : Nat)
    (arrivals : List (List HnsHwCqe)) :
    ∃ statuses, device.Simulates PollAgrees (device.aicpuPollCq sendCq maxCompletions arrivals)
      (aicpuPollCompletions sendCq maxCompletions statuses state) := by
  have hQueue : device.queue sendCq = state.descriptor.queue sendCq :=
    congrArg (fun descriptor => QpDescriptor.queue descriptor sendCq) h.descriptor_eq
  have hCq : device.cq sendCq = state.descriptor.cq sendCq :=
    congrArg (fun descriptor => QpDescriptor.cq descriptor sendCq) h.descriptor_eq
  obtain ⟨statuses, hPolled⟩ := h.pollCq hLaid sendCq hPositive maxCompletions arrivals
  refine ⟨statuses, ?_⟩
  unfold Device.aivPollCq Client.aivPollCq at hPolled
  unfold Device.aicpuPollCq aicpuPollCompletions
  rw [hQueue, hCq] at hPolled ⊢
  dsimp only at hPolled ⊢
  by_cases hNone : maxCompletions = 0
  · rw [if_pos hNone, if_pos hNone] at hPolled ⊢
    exact hPolled
  · rw [if_neg hNone, if_neg hNone] at hPolled ⊢
    rw [if_neg hDoorbell]
    split
    · exact ⟨rfl, h, rfl, .refl _ _ _⟩
    · exact hPolled

end Device

end NdsStorage.Client
