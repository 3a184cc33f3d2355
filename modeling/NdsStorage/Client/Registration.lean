import Mathlib.Algebra.Ring.Nat
import NdsStorage.Client.FailedOpens

/-! The buffers of a client and their registration. The allocators and the
provider are outside; what they answer is checked here before a client gets to
see it. -/
namespace NdsStorage.Client

open Bytes Interaction

def kHostPageSize : Nat := 4096

/-- The answers of the allocators to one request: a result code and an address
for each call that can be made for it. -/
structure Allocators where
  aclrtMalloc : Nat → Int × UInt64
  posixMemalign : Nat → Int × UInt64
  aclrtHostRegister : UInt64 → Nat → Int × UInt64
  newBytes : Nat → UInt64

structure HostPinnedAllocation where
  hostAddress : UInt64
  deviceAddress : UInt64
deriving DecidableEq, Repr

namespace Allocators

variable (allocators : Allocators)

def pageRoundedSize (size : Nat) : Except Error Nat :=
  if size > kSizeMax - (kHostPageSize - 1) then
    .error { code := .invalidArgument, message := "host-pinned allocation size is too large" }
  else .ok ((size + kHostPageSize - 1) / kHostPageSize * kHostPageSize)

def allocateDeviceMemory (initialized : Bool) (size : Nat) : Except Error UInt64 :=
  if !initialized || size = 0 then
    .error (invalidOpen "device allocation requires an initialized runtime and nonzero size")
  else
    let answer := allocators.aclrtMalloc size
    if answer.1 ≠ 0 ∨ answer.2 = 0 then
      .error { code := .runtime, message := "aclrtMalloc failed: " ++ toString answer.1 }
    else .ok answer.2

def allocateHostPinnedMemory (initialized : Bool) (size : Nat) :
    Except Error HostPinnedAllocation :=
  if !initialized || size = 0 then
    .error (invalidOpen "host-pinned allocation requires an initialized runtime and nonzero size")
  else
    match pageRoundedSize size with
    | .error error => .error error
    | .ok rounded =>
        let host := allocators.posixMemalign rounded
        if host.1 ≠ 0 ∨ host.2 = 0 then
          .error { code := .runtime, message := "host memory allocation failed" }
        else
          let mapped := allocators.aclrtHostRegister host.2 rounded
          if mapped.1 ≠ 0 ∨ mapped.2 = 0 then
            .error { code := .runtime, message := "aclrtHostRegister failed: " ++ toString mapped.1 }
          else .ok { hostAddress := host.2, deviceAddress := mapped.2 }

/-- `Runtime::allocate`. -/
def allocate (initialized : Bool) (size : Nat) (location : MemoryLocation) :
    Except Error MemoryBuffer :=
  if !initialized || size = 0 then
    .error (invalidOpen "memory allocation requires an open runtime and nonzero size")
  else
    match location with
    | .device =>
        match allocators.allocateDeviceMemory initialized size with
        | .error error => .error error
        | .ok address =>
            .ok { data := address, rdmaData := address, size := size, location := location }
    | .hostPinned =>
        match allocators.allocateHostPinnedMemory initialized size with
        | .error error => .error error
        | .ok pinned =>
            .ok {
              data := pinned.hostAddress
              rdmaData := pinned.deviceAddress
              size := size
              location := location }
    | .host =>
        let address := allocators.newBytes size
        if address = 0 then
          .error { code := .runtime, message := "host memory allocation failed" }
        else .ok { data := address, rdmaData := address, size := size, location := location }

/-- What is allocated does not reach past the end of the addresses. -/
structure Fits (allocators : Allocators) : Prop where
  aclrtMalloc : ∀ size, (allocators.aclrtMalloc size).1 = 0 →
    (allocators.aclrtMalloc size).2.toNat + size ≤ 2 ^ 64
  aclrtHostRegister : ∀ address size, (allocators.aclrtHostRegister address size).1 = 0 →
    (allocators.aclrtHostRegister address size).2.toNat + size ≤ 2 ^ 64
  newBytes : ∀ size, allocators.newBytes size ≠ 0 → (allocators.newBytes size).toNat + size ≤ 2 ^ 64

end Allocators

/-- The answer of the provider to a registration. -/
structure RegisteredMr where
  result : Int
  handle : UInt64
  localKey : UInt32
  remoteKey : UInt32
deriving DecidableEq, Repr

/-- `Endpoint::reg_mr`. A registration is reported only with both its keys. -/
def regMr (opened : Bool) (buffer : MemoryBuffer) (answer : RegisteredMr) :
    Except Error MemoryRegion :=
  if !opened || buffer.rdmaData = 0 || buffer.size = 0 then
    .error (invalidOpen "MR registration requires an open endpoint and buffer")
  else if answer.result ≠ 0 ∨ answer.handle = 0 ∨ answer.localKey = 0 ∨ answer.remoteKey = 0 then
    .error {
      code := .ra
      message := "RaRegisterMr failed or returned invalid keys: " ++ toString answer.result }
  else
    .ok {
      address := buffer.rdmaData
      length := UInt64.ofNat buffer.size
      localKey := answer.localKey
      remoteKey := answer.remoteKey }

/-- What lies below one attempt to open a client. -/
structure Host where
  initialized : Bool
  endpointOpened : Bool
  allocators : BufferMember → Allocators
  registerMr : RegionMember → MemoryBuffer → MemoryAccess → RegisteredMr
  copyTo : BufferMember → MemoryBuffer → Except Error Unit
  ready : Except Error Unit

namespace Host

/-- `Transport::register_memory` asks for an open transport itself. -/
def registerMemory (host : Host) (member : RegionMember) (buffer : MemoryBuffer)
    (access : MemoryAccess) : Except Error MemoryRegion :=
  if !host.initialized || !host.endpointOpened then
    .error (invalidOpen "memory registration requires an open transport")
  else regMr host.endpointOpened buffer (host.registerMr member buffer access)

def answers (host : Host) : OpenAnswers where
  allocate := fun member => (host.allocators member).allocate host.initialized
  registerMemory := host.registerMemory
  copyTo := host.copyTo
  ready := host.ready

end Host

section Checked

variable {allocators : Allocators} {initialized : Bool} {size : Nat} {location : MemoryLocation}
  {buffer : MemoryBuffer}

/-- An allocation that succeeds has an address. -/
theorem allocateDeviceMemory_ok {address : UInt64}
    (h : allocators.allocateDeviceMemory initialized size = .ok address) :
    allocators.aclrtMalloc size = (0, address) ∧ address ≠ 0 := by
  unfold Allocators.allocateDeviceMemory at h
  split at h
  · cases h
  · dsimp only at h
    split at h
    · cases h
    next hAnswer =>
      cases h
      simp only [not_or, not_not] at hAnswer
      exact ⟨Prod.ext hAnswer.1 rfl, hAnswer.2⟩

theorem pageRoundedSize_ge {rounded : Nat} (h : Allocators.pageRoundedSize size = .ok rounded) :
    size ≤ rounded := by
  unfold Allocators.pageRoundedSize at h
  split at h
  · cases h
  · cases h
    simp only [kHostPageSize]
    omega

/-- Pinned memory is mapped with whole pages. -/
theorem allocateHostPinnedMemory_ok {pinned : HostPinnedAllocation}
    (h : allocators.allocateHostPinnedMemory initialized size = .ok pinned) :
    ∃ host rounded, size ≤ rounded ∧
      allocators.aclrtHostRegister host rounded = (0, pinned.deviceAddress) ∧
      pinned.deviceAddress ≠ 0 := by
  unfold Allocators.allocateHostPinnedMemory at h
  split at h
  · cases h
  · cases hRounded : Allocators.pageRoundedSize size with
    | error error =>
        rw [hRounded] at h
        cases h
    | ok rounded =>
        rw [hRounded] at h
        dsimp only at h
        split at h
        · cases h
        · split at h
          · cases h
          next hMapped =>
            cases h
            simp only [not_or, not_not] at hMapped
            exact ⟨_, rounded, pageRoundedSize_ge hRounded, Prod.ext hMapped.1 rfl, hMapped.2⟩

/-- A buffer has the size that was asked for, at an address that the network
can use. -/
theorem allocate_ok (h : allocators.allocate initialized size location = .ok buffer) :
    size ≠ 0 ∧ buffer.size = size ∧ buffer.rdmaData ≠ 0 ∧
      (allocators.Fits → buffer.rdmaData.toNat + size ≤ 2 ^ 64) := by
  unfold Allocators.allocate at h
  split at h
  · cases h
  next hAsked =>
    have hSize : size ≠ 0 := by
      rintro rfl
      simp at hAsked
    cases location with
    | device =>
        dsimp only at h
        split at h
        · cases h
        next address hAddress =>
          cases h
          obtain ⟨hAnswer, hSome⟩ := allocateDeviceMemory_ok hAddress
          refine ⟨hSize, rfl, hSome, fun hFits => ?_⟩
          have hInside := hFits.aclrtMalloc size
          rw [hAnswer] at hInside
          exact hInside rfl
    | hostPinned =>
        dsimp only at h
        split at h
        · cases h
        next pinned hPinned =>
          cases h
          obtain ⟨host, rounded, hMore, hDevice, hSome⟩ := allocateHostPinnedMemory_ok hPinned
          refine ⟨hSize, rfl, hSome, fun hFits => ?_⟩
          have hInside := hFits.aclrtHostRegister host rounded
          rw [hDevice] at hInside
          exact Nat.le_trans (Nat.add_le_add_left hMore _) (hInside rfl)
    | host =>
        dsimp only at h
        split at h
        · cases h
        next hAddress =>
          cases h
          exact ⟨hSize, rfl, hAddress, fun hFits => hFits.newBytes size hAddress⟩

/-- A region describes its buffer, with keys that are not zero. -/
theorem regMr_checked {opened : Bool} {answer : RegisteredMr} {region : MemoryRegion}
    (h : regMr opened buffer answer = .ok region) :
    region.address = buffer.rdmaData ∧ region.length = UInt64.ofNat buffer.size ∧
      region.remoteKey ≠ 0 := by
  unfold regMr at h
  split at h
  · cases h
  · split at h
    · cases h
    next hKeys =>
      cases h
      exact ⟨rfl, rfl, fun hZero => hKeys (Or.inr (Or.inr (Or.inr hZero)))⟩

end Checked

section Opened

variable {host : Host} {transport : Transport}

/-- What a client knows of a region: the buffer behind it, and its size. -/
theorem Granted.region_checked (granted : Granted transport host.answers) (member : RegionMember) :
    (granted.regions member).address ≠ 0 ∧ (granted.regions member).remoteKey ≠ 0 ∧
      (granted.regions member).length =
        UInt64.ofNat (member.buffer.bytes (transport.qpCount * kStorageSlotsPerQp)) ∧
      ((host.allocators member.buffer).Fits → (granted.regions member).address.toNat +
        member.buffer.bytes (transport.qpCount * kStorageSlotsPerQp) ≤ 2 ^ 64) := by
  obtain ⟨-, hSize, hAddress, hFits⟩ := allocate_ok (granted.allocated member.buffer)
  have hRegistered : host.registerMemory member (granted.buffers member.buffer) member.access =
      .ok (granted.regions member) := granted.registered member
  unfold Host.registerMemory at hRegistered
  split at hRegistered
  · cases hRegistered
  · obtain ⟨hSame, hLength, hKey⟩ := regMr_checked hRegistered
    rw [hSame, hLength, hSize]
    exact ⟨hAddress, hKey, rfl, hFits⟩

/-- The address of a part of a buffer is not zero either. -/
theorem part_address {base : UInt64} {offset size : Nat} (hBase : base ≠ 0)
    (hFits : base.toNat + size ≤ 2 ^ 64) (hInside : offset < size) :
    base + UInt64.ofNat offset ≠ 0 := by
  have hPositive : base.toNat ≠ 0 := fun hZero => hBase (UInt64.toNat_inj.mp hZero)
  intro hZero
  have hSum := congrArg UInt64.toNat hZero
  rw [UInt64.toNat_add, UInt64.toNat_ofNat', UInt64.toNat_zero, Nat.add_mod_mod,
    Nat.mod_eq_of_lt (by omega)] at hSum
  omega

end Opened

end NdsStorage.Client
