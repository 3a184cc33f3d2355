import Mathlib.Algebra.Ring.Nat
import NdsStorage.Bytes.ByteOrder
import NdsStorage.Negotiation.TransportInfo

/-! The transport codec as the host computes it. Wire records are packed
structures of host words; on a little-endian host the byte order functions swap
them, so that the record in memory is what the layout says. Encoders and
decoders write through their output argument. -/
namespace NdsStorage.Negotiation

open Bytes

def kRemoteMemoryMagic : UInt32 := 0x4e445332
def kRemoteMemoryVersion : UInt16 := 1

inductive CodecResult where
  | ok | invalidArgument | invalidRecord
deriving DecidableEq, Repr

def htons (value : UInt16) : UInt16 := swap16 value

def ntohs (value : UInt16) : UInt16 := swap16 value

def htonl (value : UInt32) : UInt32 := swap32 value

def ntohl (value : UInt32) : UInt32 := swap32 value

def hostToNetworkU64 (value : UInt64) : UInt64 :=
  ((htonl value.toUInt32).toUInt64 <<< 32) ||| (htonl (value >>> 32).toUInt32).toUInt64

def networkToHostU64 (value : UInt64) : UInt64 :=
  ((ntohl value.toUInt32).toUInt64 <<< 32) ||| (ntohl (value >>> 32).toUInt32).toUInt64

structure WireQpInfo where
  magic : UInt32 := 0
  version : UInt16 := 0
  reserved0 : UInt16 := 0
  qpNum : UInt32 := 0
  psn : UInt32 := 0
  portNum : UInt16 := 0
  gidIndex : UInt16 := 0
  pathMtu : UInt32 := 0
  trafficClass : UInt32 := 0
  serviceLevel : UInt32 := 0
  retryCount : UInt32 := 0
  retryTimeout : UInt32 := 0
  gid : Vector UInt8 16 := Vector.replicate 16 0
  reserved : Vector UInt8 24 := Vector.replicate 24 0
deriving DecidableEq, Repr

structure WireRemoteMemory where
  magic : UInt32 := 0
  version : UInt16 := 0
  reserved0 : UInt16 := 0
  address : UInt64 := 0
  length : UInt32 := 0
  remoteKey : UInt32 := 0
  reserved : Vector UInt8 8 := Vector.replicate 8 0
deriving DecidableEq, Repr

structure WireTransportInfo where
  magic : UInt32 := 0
  version : UInt16 := 0
  kind : UInt16 := 0
  qpCount : UInt32 := 0
  qps : Vector WireQpInfo 16 := Vector.replicate 16 {}
deriving DecidableEq, Repr

/-- Peer memory announced after the queue pairs are set up. -/
structure RemoteMemory where
  address : UInt64
  length : UInt32
  remoteKey : UInt32
deriving DecidableEq, Repr

/-- A control record as the host holds it. Its kind may be any 16-bit value. -/
structure HostTransportInfo where
  kind : UInt16 := 0
  qpCount : UInt32 := 0
  qps : Vector QpInfo 16 := Vector.replicate 16 .zero
deriving DecidableEq, Repr

/-- The packed record in memory. -/
def WireQpInfo.bytes (record : WireQpInfo) : Buffer :=
  memory32 record.magic ++ (memory16 record.version ++ (memory16 record.reserved0 ++
    (memory32 record.qpNum ++ (memory32 record.psn ++ (memory16 record.portNum ++
      (memory16 record.gidIndex ++ (memory32 record.pathMtu ++ (memory32 record.trafficClass ++
        (memory32 record.serviceLevel ++ (memory32 record.retryCount ++
          (memory32 record.retryTimeout ++ (record.gid.toList ++ record.reserved.toList))))))))))))

def WireRemoteMemory.bytes (record : WireRemoteMemory) : Buffer :=
  memory32 record.magic ++ (memory16 record.version ++ (memory16 record.reserved0 ++
    (memory64 record.address ++ (memory32 record.length ++ (memory32 record.remoteKey ++
      record.reserved.toList)))))

def WireTransportInfo.bytes (record : WireTransportInfo) : Buffer :=
  memory32 record.magic ++ (memory16 record.version ++ (memory16 record.kind ++
    (memory32 record.qpCount ++ (record.qps.toList.map WireQpInfo.bytes).flatten)))

def validateRemoteMemory (memory : RemoteMemory) : Bool :=
  !(memory.address = 0 || memory.length = 0 || memory.remoteKey = 0 ||
    memory.address > 0xffffffffffffffff - memory.length.toUInt64)

def validTransportInfoKind (kind : UInt16) : Bool := kind = 1 || kind = 2 || kind = 3

/-- The places a loop up to a count visits. -/
def placesBelow (count : UInt32) : List (Fin 16) :=
  (List.finRange 16).filter fun place => place.val < count.toNat

def validateHostInfo (info : HostTransportInfo) : Bool :=
  if !validTransportInfoKind info.kind || info.qpCount = 0 || info.qpCount > 16 then false
  else if info.kind ≠ 3 then true
  else (placesBelow info.qpCount).all fun place => validateQpInfo info.qps[place]

/-- The record that is filled in for an identity, from a zeroed one. -/
def wireQp (info : QpInfo) : WireQpInfo where
  magic := htonl kQpInfoMagic
  version := htons kQpInfoVersion
  qpNum := htonl info.qpNum
  psn := htonl info.psn
  portNum := htons info.portNum
  gidIndex := htons info.gidIndex
  pathMtu := htonl info.pathMtu
  trafficClass := htonl info.trafficClass
  serviceLevel := htonl info.serviceLevel
  retryCount := htonl info.retryCount
  retryTimeout := htonl info.retryTimeout
  gid := info.gid

def encodeQp (info : QpInfo) (encoded : WireQpInfo) : CodecResult × WireQpInfo :=
  if !validateQpInfo info then (.invalidRecord, encoded) else (.ok, wireQp info)

def wireMemory (memory : RemoteMemory) : WireRemoteMemory where
  magic := htonl kRemoteMemoryMagic
  version := htons kRemoteMemoryVersion
  address := hostToNetworkU64 memory.address
  length := htonl memory.length
  remoteKey := htonl memory.remoteKey

def encodeMemory (memory : RemoteMemory) (encoded : WireRemoteMemory) :
    CodecResult × WireRemoteMemory :=
  if !validateRemoteMemory memory then (.invalidRecord, encoded) else (.ok, wireMemory memory)

/-- Encode the entries of some places one after another; the first refusal
ends the loop. -/
def encodeQpsAt (info : HostTransportInfo) :
    List (Fin 16) → WireTransportInfo → CodecResult × WireTransportInfo
  | [], encoded => (.ok, encoded)
  | place :: places, encoded =>
      let entry := encodeQp info.qps[place] encoded.qps[place]
      let encoded := { encoded with qps := encoded.qps.set place entry.2 }
      if entry.1 ≠ .ok then (.invalidRecord, encoded) else encodeQpsAt info places encoded

/-- The record of a message without entries. -/
def wireHeader (info : HostTransportInfo) : WireTransportInfo where
  magic := htonl kTransportInfoMagic
  version := htons kTransportInfoVersion
  kind := htons info.kind
  qpCount := htonl info.qpCount

def encodeInfo (info : HostTransportInfo) (encoded : WireTransportInfo) :
    CodecResult × WireTransportInfo :=
  if !validateHostInfo info then (.invalidRecord, encoded)
  else if info.kind ≠ 3 then (.ok, wireHeader info)
  else encodeQpsAt info (placesBelow info.qpCount) (wireHeader info)

def hostQp (encoded : WireQpInfo) : QpInfo where
  qpNum := ntohl encoded.qpNum
  psn := ntohl encoded.psn
  portNum := ntohs encoded.portNum
  gidIndex := ntohs encoded.gidIndex
  pathMtu := ntohl encoded.pathMtu
  trafficClass := ntohl encoded.trafficClass
  serviceLevel := ntohl encoded.serviceLevel
  retryCount := ntohl encoded.retryCount
  retryTimeout := ntohl encoded.retryTimeout
  gid := encoded.gid

def decodeQp (encoded : WireQpInfo) (info : QpInfo) : CodecResult × QpInfo :=
  if ntohl encoded.magic ≠ kQpInfoMagic then (.invalidRecord, info)
  else if ntohs encoded.version ≠ kQpInfoVersion then (.invalidRecord, info)
  else if !validateQpInfo (hostQp encoded) then (.invalidRecord, info)
  else (.ok, hostQp encoded)

def hostMemory (encoded : WireRemoteMemory) : RemoteMemory where
  address := networkToHostU64 encoded.address
  length := ntohl encoded.length
  remoteKey := ntohl encoded.remoteKey

def decodeMemory (encoded : WireRemoteMemory) (memory : RemoteMemory) :
    CodecResult × RemoteMemory :=
  if ntohl encoded.magic ≠ kRemoteMemoryMagic ∨ ntohs encoded.version ≠ kRemoteMemoryVersion then
    (.invalidRecord, memory)
  else if !validateRemoteMemory (hostMemory encoded) then (.invalidRecord, memory)
  else (.ok, hostMemory encoded)

/-- Decode the entries of some places into a record under construction. -/
def decodeQpsAt (encoded : WireTransportInfo) :
    List (Fin 16) → HostTransportInfo → CodecResult × HostTransportInfo
  | [], decoded => (.ok, decoded)
  | place :: places, decoded =>
      let entry := decodeQp encoded.qps[place] decoded.qps[place]
      let decoded := { decoded with qps := decoded.qps.set place entry.2 }
      if entry.1 ≠ .ok then (.invalidRecord, decoded) else decodeQpsAt encoded places decoded

/-- The fixed part of a record, without entries. -/
def hostHeader (encoded : WireTransportInfo) : HostTransportInfo where
  kind := ntohs encoded.kind
  qpCount := ntohl encoded.qpCount

def decodeInfo (encoded : WireTransportInfo) (info : HostTransportInfo) :
    CodecResult × HostTransportInfo :=
  if ntohl encoded.magic ≠ kTransportInfoMagic ∨
      ntohs encoded.version ≠ kTransportInfoVersion then (.invalidRecord, info)
  else
    let decoded := hostHeader encoded
    if !validTransportInfoKind decoded.kind || decoded.qpCount = 0 || decoded.qpCount > 16 then
      (.invalidRecord, info)
    else if decoded.kind = 3 then
      let entries := decodeQpsAt encoded (placesBelow decoded.qpCount) decoded
      if entries.1 ≠ .ok then (.invalidRecord, info) else (.ok, entries.2)
    else (.ok, decoded)

section ByteOrder

@[simp] theorem ntohs_htons (value : UInt16) : ntohs (htons value) = value :=
  swap16_swap16 value

@[simp] theorem ntohl_htonl (value : UInt32) : ntohl (htonl value) = value :=
  swap32_swap32 value

@[simp] theorem memory16_htons (value : UInt16) : memory16 (htons value) = encode16 value :=
  memory16_swap16 value

@[simp] theorem memory32_htonl (value : UInt32) : memory32 (htonl value) = encode32 value :=
  memory32_swap32 value

/-- The two halves change places and are swapped each. -/
theorem hostToNetworkU64_eq (value : UInt64) : hostToNetworkU64 value =
    join64 (htonl value.toUInt32) (htonl (value >>> 32).toUInt32) := rfl

theorem networkToHostU64_eq (value : UInt64) : networkToHostU64 value =
    join64 (ntohl value.toUInt32) (ntohl (value >>> 32).toUInt32) := rfl

@[simp] theorem networkToHostU64_hostToNetworkU64 (value : UInt64) :
    networkToHostU64 (hostToNetworkU64 value) = value := by
  rw [networkToHostU64_eq, hostToNetworkU64_eq, join64_low, join64_high, ntohl_htonl, ntohl_htonl,
    join64_halves]

@[simp] theorem memory64_hostToNetworkU64 (value : UInt64) :
    memory64 (hostToNetworkU64 value) = encode64 value := by
  rw [memory64, hostToNetworkU64_eq, join64_low, join64_high, memory32_htonl, memory32_htonl,
    encode64]

end ByteOrder

/-- What it takes for the values of a format to survive the wire. `carried` is
the part of a value that a message carries, and `layout` the bytes it should
have. -/
structure SurvivesWire {Value Wire : Type} (encode : Value → Wire → CodecResult × Wire)
    (decode : Wire → Value → CodecResult × Value) (valid : Value → Prop)
    (carried : Value → Value) (bytes : Wire → Buffer) (layout : Value → Buffer) : Prop where
  encode_ok : ∀ value encoded, (encode value encoded).1 = .ok ↔ valid value
  layout_eq : ∀ value encoded, (encode value encoded).1 = .ok →
    bytes (encode value encoded).2 = layout value
  decode_encode : ∀ value encoded output, (encode value encoded).1 = .ok →
    decode (encode value encoded).2 output = (.ok, carried value)
  accepted : ∀ wire output value, decode wire output = (.ok, value) →
    ∀ encoded, (encode value encoded).1 = .ok ∧
      ∀ output', decode (encode value encoded).2 output' = (.ok, value)
  decode_failed : ∀ wire output, (decode wire output).1 ≠ .ok →
    (decode wire output).2 = output

/-- A format whose codec is a conversion of words behind a check. -/
theorem survives_of_checked {Value Wire : Type} {encode : Value → Wire → CodecResult × Wire}
    {decode : Wire → Value → CodecResult × Value} {valid : Value → Bool}
    {carried : Value → Value} {bytes : Wire → Buffer} {layout : Value → Buffer}
    {wire : Value → Wire} {accepted : Wire → Bool} {host : Wire → Value}
    (hEncode : ∀ value encoded, encode value encoded =
      if valid value then (.ok, wire value) else (.invalidRecord, encoded))
    (hDecode : ∀ encoded output, decode encoded output =
      if accepted encoded then (.ok, host encoded) else (.invalidRecord, output))
    (hWire : ∀ value, valid value = true →
      accepted (wire value) = true ∧ host (wire value) = carried value)
    (hHost : ∀ encoded, accepted encoded = true →
      valid (host encoded) = true ∧ carried (host encoded) = host encoded)
    (hLayout : ∀ value, valid value = true → bytes (wire value) = layout value) :
    SurvivesWire encode decode (fun value => valid value = true) carried bytes layout where
  encode_ok := by
    intro value encoded
    rw [hEncode]
    split
    · rename_i hValid
      exact iff_of_true rfl hValid
    · rename_i hValid
      exact iff_of_false (fun hOk => nomatch hOk) hValid
  layout_eq := by
    intro value encoded hOk
    rw [hEncode] at hOk ⊢
    split at hOk
    · rename_i hValid
      rw [if_pos hValid]
      exact hLayout value hValid
    · cases hOk
  decode_encode := by
    intro value encoded output hOk
    rw [hEncode] at hOk ⊢
    split at hOk
    · rename_i hValid
      obtain ⟨hAccepted, hCarried⟩ := hWire value hValid
      rw [if_pos hValid, hDecode, if_pos hAccepted, hCarried]
    · cases hOk
  accepted := by
    intro encoded output value hOk other
    rw [hDecode] at hOk
    split at hOk
    · rename_i hAccepted
      cases hOk
      obtain ⟨hValid, hCarried⟩ := hHost encoded hAccepted
      obtain ⟨hAccepted', hSame⟩ := hWire (host encoded) hValid
      rw [hEncode, if_pos hValid]
      refine ⟨rfl, fun output' => ?_⟩
      rw [hDecode, if_pos hAccepted', hSame, hCarried]
    · cases hOk
  decode_failed := by
    intro encoded output hFailed
    rw [hDecode] at hFailed ⊢
    split at hFailed
    · exact absurd rfl hFailed
    · rename_i hRefused
      rw [if_neg hRefused]

section QpWords

variable {info : QpInfo} {wire : WireQpInfo}

theorem wireQp_bytes (info : QpInfo) : (wireQp info).bytes = qpInfoLayout info := by
  have hReserved : (Vector.replicate 24 (0 : UInt8)).toList = List.replicate 24 0 := by
    simp
  have hZero : memory16 0 = encode16 0 := rfl
  simp only [WireQpInfo.bytes, wireQp, qpInfoLayout, memory16_htons, memory32_htonl, hZero,
    hReserved]

/-- The host reads back the words it has written. -/
theorem hostQp_wireQp (info : QpInfo) : hostQp (wireQp info) = info := by
  simp [hostQp, wireQp]

/-- The check of a decoder. -/
def acceptedQp (wire : WireQpInfo) : Bool :=
  ntohl wire.magic = kQpInfoMagic && ntohs wire.version = kQpInfoVersion &&
    validateQpInfo (hostQp wire)

theorem acceptedQp_wireQp (h : validateQpInfo info = true) : acceptedQp (wireQp info) = true := by
  rw [acceptedQp, hostQp_wireQp, h]
  simp [wireQp]

/-- Encoding succeeds exactly on valid descriptors. -/
theorem encodeQp_eq (info : QpInfo) (encoded : WireQpInfo) : encodeQp info encoded =
    if validateQpInfo info then (.ok, wireQp info) else (.invalidRecord, encoded) := by
  unfold encodeQp
  cases validateQpInfo info with
  | false => rfl
  | true => rfl

/-- Decoding succeeds exactly on accepted ones. -/
theorem decodeQp_eq (wire : WireQpInfo) (output : QpInfo) : decodeQp wire output =
    if acceptedQp wire then (.ok, hostQp wire) else (.invalidRecord, output) := by
  by_cases hMagic : ntohl wire.magic = kQpInfoMagic
  · by_cases hVersion : ntohs wire.version = kQpInfoVersion
    · cases hValid : validateQpInfo (hostQp wire) <;>
        simp [decodeQp, acceptedQp, hMagic, hVersion, hValid]
    · simp [decodeQp, acceptedQp, hMagic, hVersion]
  · simp [decodeQp, acceptedQp, hMagic]

theorem valid_of_acceptedQp (h : acceptedQp wire = true) : validateQpInfo (hostQp wire) = true := by
  simp only [acceptedQp, Bool.and_eq_true] at h
  exact h.2

theorem qpInfo_survives : SurvivesWire encodeQp decodeQp (fun info => validateQpInfo info = true)
    id WireQpInfo.bytes qpInfoLayout :=
  survives_of_checked encodeQp_eq decodeQp_eq
    (fun info hValid => ⟨acceptedQp_wireQp hValid, hostQp_wireQp info⟩)
    (fun _ hAccepted => ⟨valid_of_acceptedQp hAccepted, rfl⟩) (fun info _ => wireQp_bytes info)

end QpWords

section MemoryWords

/-- The bytes of the record, fields in network order. -/
def remoteMemoryLayout (memory : RemoteMemory) : Buffer :=
  encode32 kRemoteMemoryMagic ++ (encode16 kRemoteMemoryVersion ++ (encode16 0 ++
    (encode64 memory.address ++ (encode32 memory.length ++ (encode32 memory.remoteKey ++
      List.replicate 8 0)))))

/-- A memory descriptor on the wire, byte by byte. -/
theorem wireMemory_bytes (memory : RemoteMemory) :
    (wireMemory memory).bytes = remoteMemoryLayout memory := by
  have hReserved : (Vector.replicate 8 (0 : UInt8)).toList = List.replicate 8 0 := by
    simp
  have hZero : memory16 0 = encode16 0 := rfl
  simp only [WireRemoteMemory.bytes, wireMemory, remoteMemoryLayout, memory16_htons,
    memory32_htonl, memory64_hostToNetworkU64, hZero, hReserved]

/-- The host reads back the words it has written. -/
theorem hostMemory_wireMemory (memory : RemoteMemory) :
    hostMemory (wireMemory memory) = memory := by
  simp [hostMemory, wireMemory]

def acceptedMemory (wire : WireRemoteMemory) : Bool :=
  ntohl wire.magic = kRemoteMemoryMagic && ntohs wire.version = kRemoteMemoryVersion &&
    validateRemoteMemory (hostMemory wire)

/-- Encoding succeeds exactly on valid descriptors. -/
theorem encodeMemory_eq (memory : RemoteMemory) (encoded : WireRemoteMemory) :
    encodeMemory memory encoded = if validateRemoteMemory memory then (.ok, wireMemory memory)
      else (.invalidRecord, encoded) := by
  unfold encodeMemory
  cases validateRemoteMemory memory with
  | false => rfl
  | true => rfl

/-- Decoding succeeds exactly on accepted ones. -/
theorem decodeMemory_eq (wire : WireRemoteMemory) (output : RemoteMemory) :
    decodeMemory wire output = if acceptedMemory wire then (.ok, hostMemory wire)
      else (.invalidRecord, output) := by
  by_cases hMagic : ntohl wire.magic = kRemoteMemoryMagic
  · by_cases hVersion : ntohs wire.version = kRemoteMemoryVersion
    · cases hValid : validateRemoteMemory (hostMemory wire) <;>
        simp [decodeMemory, acceptedMemory, hMagic, hVersion, hValid]
    · simp [decodeMemory, acceptedMemory, hMagic, hVersion]
  · simp [decodeMemory, acceptedMemory, hMagic]

theorem remoteMemory_survives : SurvivesWire encodeMemory decodeMemory
    (fun memory => validateRemoteMemory memory = true) id WireRemoteMemory.bytes
    remoteMemoryLayout := by
  apply survives_of_checked encodeMemory_eq decodeMemory_eq
  · intro memory hValid
    refine ⟨?_, hostMemory_wireMemory memory⟩
    rw [acceptedMemory, hostMemory_wireMemory, hValid]
    simp [wireMemory]
  · intro wire hAccepted
    simp only [acceptedMemory, Bool.and_eq_true] at hAccepted
    exact ⟨hAccepted.2, rfl⟩
  · exact fun memory _ => wireMemory_bytes memory

end MemoryWords

section InfoWords

variable {info : HostTransportInfo} {wire : WireTransportInfo}

/-- Entries set at some places of an array. -/
def setPlaces {Entry : Type} (places : List (Fin 16)) (entry : Fin 16 → Entry)
    (entries : Vector Entry 16) : Vector Entry 16 :=
  Vector.ofFn fun place => if place ∈ places then entry place else entries[place]

theorem setPlaces_nil {Entry : Type} (entry : Fin 16 → Entry) (entries : Vector Entry 16) :
    setPlaces [] entry entries = entries := by
  apply Vector.ext
  intro index hIndex
  simp [setPlaces]

theorem setPlaces_set {Entry : Type} (place : Fin 16) (places : List (Fin 16))
    (entry : Fin 16 → Entry) (entries : Vector Entry 16) :
    setPlaces places entry (entries.set place (entry place)) =
      setPlaces (place :: places) entry entries := by
  apply Vector.ext
  intro index hIndex
  simp only [setPlaces, Vector.getElem_ofFn, List.mem_cons, Fin.getElem_fin]
  by_cases hHere : (⟨index, hIndex⟩ : Fin 16) = place
  · subst hHere
    simp
  · have hOther : place.val ≠ index := fun hSame => hHere (Fin.ext hSame.symm)
    simp [hHere, Vector.getElem_set_ne _ _ hOther]

/-- Valid descriptors are all written to their places. -/
theorem encodeQpsAt_valid {places : List (Fin 16)}
    (h : ∀ place ∈ places, validateQpInfo info.qps[place] = true) (encoded : WireTransportInfo) :
    encodeQpsAt info places encoded = (.ok, { encoded with
      qps := setPlaces places (fun place => wireQp info.qps[place]) encoded.qps }) := by
  induction places generalizing encoded with
  | nil => rw [encodeQpsAt, setPlaces_nil]
  | cons place places ih =>
      rw [List.forall_mem_cons] at h
      rw [encodeQpsAt, encodeQp_eq, if_pos h.1]
      dsimp only
      rw [if_neg (not_not_intro rfl), ih h.2]
      dsimp only
      rw [← setPlaces_set]

/-- Accepted descriptors are all read into their places. -/
theorem decodeQpsAt_accepted {places : List (Fin 16)}
    (h : ∀ place ∈ places, acceptedQp wire.qps[place] = true) (decoded : HostTransportInfo) :
    decodeQpsAt wire places decoded = (.ok, { decoded with
      qps := setPlaces places (fun place => hostQp wire.qps[place]) decoded.qps }) := by
  induction places generalizing decoded with
  | nil => rw [decodeQpsAt, setPlaces_nil]
  | cons place places ih =>
      rw [List.forall_mem_cons] at h
      rw [decodeQpsAt, decodeQp_eq, if_pos h.1]
      dsimp only
      rw [if_neg (not_not_intro rfl), ih h.2]
      dsimp only
      rw [← setPlaces_set]

/-- One refused entry is enough, whichever it is. -/
theorem decodeQpsAt_refused {places : List (Fin 16)}
    (h : ¬∀ place ∈ places, acceptedQp wire.qps[place] = true) (decoded : HostTransportInfo) :
    (decodeQpsAt wire places decoded).1 = .invalidRecord := by
  induction places generalizing decoded with
  | nil => exact absurd (fun place hPlace => nomatch hPlace) h
  | cons place places ih =>
      rw [List.forall_mem_cons, not_and_or] at h
      rw [decodeQpsAt, decodeQp_eq]
      cases hAccepted : acceptedQp wire.qps[place] with
      | false => rfl
      | true => exact ih (h.resolve_left (fun hRefused => hRefused hAccepted)) _

/-- The places whose entries a message carries. -/
def carriedPlaces (kind : UInt16) (qpCount : UInt32) : List (Fin 16) :=
  if kind = 3 then placesBelow qpCount else []

/-- The part of a record that its message carries; other entries are zeroed. -/
def carriedInfo (info : HostTransportInfo) : HostTransportInfo :=
  { info with
    qps := setPlaces (carriedPlaces info.kind info.qpCount) (fun place => info.qps[place])
      (Vector.replicate 16 .zero) }

def wireInfo (info : HostTransportInfo) : WireTransportInfo :=
  { wireHeader info with
    qps := setPlaces (carriedPlaces info.kind info.qpCount) (fun place => wireQp info.qps[place])
      (Vector.replicate 16 {}) }

def hostInfo (wire : WireTransportInfo) : HostTransportInfo :=
  { hostHeader wire with
    qps := setPlaces (carriedPlaces (hostHeader wire).kind (hostHeader wire).qpCount)
      (fun place => hostQp wire.qps[place]) (Vector.replicate 16 .zero) }

/-- The count and the kind of a record are in range. -/
def validHeader (kind : UInt16) (qpCount : UInt32) : Bool :=
  !(!validTransportInfoKind kind || qpCount = 0 || qpCount > 16)

def acceptedInfo (wire : WireTransportInfo) : Bool :=
  ntohl wire.magic = kTransportInfoMagic && ntohs wire.version = kTransportInfoVersion &&
    validHeader (hostHeader wire).kind (hostHeader wire).qpCount &&
    (carriedPlaces (hostHeader wire).kind (hostHeader wire).qpCount).all fun place =>
      acceptedQp wire.qps[place]

/-- The check of a message is the check of what it carries. -/
theorem validateHostInfo_eq (info : HostTransportInfo) : validateHostInfo info =
    (validHeader info.kind info.qpCount &&
      (carriedPlaces info.kind info.qpCount).all fun place => validateQpInfo info.qps[place]) := by
  unfold validateHostInfo validHeader
  generalize (!validTransportInfoKind info.kind || info.qpCount = 0 || info.qpCount > 16 : Bool) =
    refused
  cases refused with
  | true => rfl
  | false =>
      by_cases hKind : info.kind = 3
      · simp [carriedPlaces, hKind]
      · simp [carriedPlaces, hKind]

/-- Encoding succeeds exactly on valid messages. -/
theorem encodeInfo_eq (info : HostTransportInfo) (encoded : WireTransportInfo) :
    encodeInfo info encoded = if validateHostInfo info then (.ok, wireInfo info)
      else (.invalidRecord, encoded) := by
  unfold encodeInfo
  cases hValid : validateHostInfo info with
  | false => rfl
  | true =>
      simp only [Bool.not_true, Bool.false_eq_true, if_false, if_true]
      rw [validateHostInfo_eq, Bool.and_eq_true, List.all_eq_true] at hValid
      by_cases hKind : info.kind = 3
      · have hPlaces : carriedPlaces info.kind info.qpCount = placesBelow info.qpCount :=
          if_pos hKind
        rw [if_neg (not_not_intro hKind), wireInfo, hPlaces]
        exact encodeQpsAt_valid (hPlaces ▸ hValid.2) (wireHeader info)
      · have hPlaces : carriedPlaces info.kind info.qpCount = [] := if_neg hKind
        rw [if_pos hKind, wireInfo, hPlaces, setPlaces_nil]
        rfl

/-- Decoding succeeds exactly on accepted ones. -/
theorem decodeInfo_eq (wire : WireTransportInfo) (output : HostTransportInfo) :
    decodeInfo wire output = if acceptedInfo wire then (.ok, hostInfo wire)
      else (.invalidRecord, output) := by
  unfold decodeInfo
  split
  · rename_i hTag
    have hRefused : acceptedInfo wire = false := by
      rcases hTag with hMagic | hVersion
      · simp [acceptedInfo, hMagic]
      · simp [acceptedInfo, hVersion]
    rw [hRefused]
    rfl
  · rename_i hTag
    rw [not_or, not_not, not_not] at hTag
    have hAccepted : acceptedInfo wire =
        (validHeader (hostHeader wire).kind (hostHeader wire).qpCount &&
          (carriedPlaces (hostHeader wire).kind (hostHeader wire).qpCount).all fun place =>
            acceptedQp wire.qps[place]) := by
      simp [acceptedInfo, hTag]
    dsimp only
    split
    · rename_i hHeader
      rw [hAccepted, validHeader, hHeader]
      rfl
    · rename_i hHeader
      rw [Bool.not_eq_true] at hHeader
      rw [hAccepted, validHeader, hHeader, Bool.not_false, Bool.true_and]
      by_cases hKind : (hostHeader wire).kind = 3
      · have hPlaces : carriedPlaces (hostHeader wire).kind (hostHeader wire).qpCount =
            placesBelow (hostHeader wire).qpCount := if_pos hKind
        rw [if_pos hKind, hostInfo, hPlaces]
        cases hEntries : (placesBelow (hostHeader wire).qpCount).all fun place =>
            acceptedQp wire.qps[place] with
        | true =>
            rw [List.all_eq_true] at hEntries
            rw [decodeQpsAt_accepted hEntries]
            rfl
        | false =>
            rw [← Bool.not_eq_true, List.all_eq_true] at hEntries
            rw [decodeQpsAt_refused hEntries]
            rfl
      · have hPlaces : carriedPlaces (hostHeader wire).kind (hostHeader wire).qpCount = [] :=
          if_neg hKind
        rw [if_neg hKind, hostInfo, hPlaces, setPlaces_nil]
        rfl

theorem setPlaces_get {Entry : Type} {places : List (Fin 16)} {entry : Fin 16 → Entry}
    {entries : Vector Entry 16} {place : Fin 16} (h : place ∈ places) :
    (setPlaces places entry entries)[place] = entry place := by
  simp [setPlaces, h]

/-- Setting entries looks only at the places that are set. -/
theorem setPlaces_congr {Entry : Type} {places : List (Fin 16)} {entry entry' : Fin 16 → Entry}
    {entries : Vector Entry 16} (h : ∀ place ∈ places, entry place = entry' place) :
    setPlaces places entry entries = setPlaces places entry' entries := by
  unfold setPlaces
  congr 1
  funext place
  split
  · rename_i hPlace
    exact h place hPlace
  · rfl

/-- The bytes of the record, fields in network order; entries that are not
carried stay zero. -/
def hostInfoLayout (info : HostTransportInfo) : Buffer :=
  encode32 kTransportInfoMagic ++ (encode16 kTransportInfoVersion ++ (encode16 info.kind ++
    (encode32 info.qpCount ++ ((List.finRange 16).map fun place =>
      if place ∈ carriedPlaces info.kind info.qpCount then qpInfoLayout info.qps[place]
      else List.replicate kQpInfoBytes 0).flatten)))

theorem hostHeader_wireInfo (info : HostTransportInfo) :
    (hostHeader (wireInfo info)).kind = info.kind ∧
      (hostHeader (wireInfo info)).qpCount = info.qpCount := by
  constructor
  · exact ntohs_htons info.kind
  · exact ntohl_htonl info.qpCount

theorem acceptedInfo_wireInfo (h : validateHostInfo info = true) :
    acceptedInfo (wireInfo info) = true := by
  obtain ⟨hKind, hCount⟩ := hostHeader_wireInfo info
  rw [validateHostInfo_eq, Bool.and_eq_true, List.all_eq_true] at h
  rw [acceptedInfo, hKind, hCount, h.1, Bool.and_eq_true, List.all_eq_true]
  refine ⟨by simp [wireInfo, wireHeader], ?_⟩
  intro place hPlace
  rw [wireInfo, setPlaces_get hPlace]
  exact acceptedQp_wireQp (h.2 place hPlace)

theorem hostInfo_wireInfo (info : HostTransportInfo) :
    hostInfo (wireInfo info) = carriedInfo info := by
  obtain ⟨hKind, hCount⟩ := hostHeader_wireInfo info
  have hEntries : setPlaces (carriedPlaces info.kind info.qpCount)
      (fun place => hostQp (wireInfo info).qps[place]) (Vector.replicate 16 .zero) =
      setPlaces (carriedPlaces info.kind info.qpCount) (fun place => info.qps[place])
        (Vector.replicate 16 .zero) := by
    apply setPlaces_congr
    intro place hPlace
    rw [wireInfo, setPlaces_get hPlace, hostQp_wireQp]
  rw [hostInfo, carriedInfo, hKind, hCount, hEntries]

/-- An accepted message is valid and holds nothing but what it carries. -/
theorem hostInfo_valid (h : acceptedInfo wire = true) :
    validateHostInfo (hostInfo wire) = true ∧ carriedInfo (hostInfo wire) = hostInfo wire := by
  simp only [acceptedInfo, Bool.and_eq_true, List.all_eq_true] at h
  have hEntry : ∀ place ∈ carriedPlaces (hostHeader wire).kind (hostHeader wire).qpCount,
      (hostInfo wire).qps[place] = hostQp wire.qps[place] := fun _ hPlace => setPlaces_get hPlace
  constructor
  · rw [validateHostInfo_eq, Bool.and_eq_true, List.all_eq_true]
    refine ⟨h.1.2, ?_⟩
    intro place hPlace
    rw [hEntry place hPlace]
    exact valid_of_acceptedQp (h.2 place hPlace)
  · have hEntries : (carriedInfo (hostInfo wire)).qps = (hostInfo wire).qps :=
      setPlaces_congr hEntry
    dsimp only [carriedInfo] at hEntries ⊢
    rw [hEntries]

theorem wireInfo_bytes (info : HostTransportInfo) :
    (wireInfo info).bytes = hostInfoLayout info := by
  have hZero : ({} : WireQpInfo).bytes = List.replicate kQpInfoBytes 0 := by decide
  have hEntries : (wireInfo info).qps.toList.map WireQpInfo.bytes =
      (List.finRange 16).map fun place =>
        if place ∈ carriedPlaces info.kind info.qpCount then qpInfoLayout info.qps[place]
        else List.replicate kQpInfoBytes 0 := by
    rw [wireInfo, setPlaces, Vector.toList_ofFn, List.finRange, List.map_ofFn, List.map_ofFn]
    congr 1
    funext place
    rw [Function.comp_apply, Function.comp_apply]
    split
    · exact wireQp_bytes _
    · simp [hZero]
  rw [WireTransportInfo.bytes, hEntries, hostInfoLayout]
  simp only [wireInfo, wireHeader, memory16_htons, memory32_htonl]

theorem transportInfo_survives : SurvivesWire encodeInfo decodeInfo
    (fun info => validateHostInfo info = true) carriedInfo WireTransportInfo.bytes
    hostInfoLayout :=
  survives_of_checked encodeInfo_eq decodeInfo_eq
    (fun info hValid => ⟨acceptedInfo_wireInfo hValid, hostInfo_wireInfo info⟩)
    (fun _ hAccepted => hostInfo_valid hAccepted) (fun info _ => wireInfo_bytes info)

end InfoWords

/-- Every record of the transport protocol survives the wire. -/
theorem transport_records_survive :
    SurvivesWire encodeQp decodeQp (fun info => validateQpInfo info = true) id
        WireQpInfo.bytes qpInfoLayout ∧
      SurvivesWire encodeMemory decodeMemory (fun memory => validateRemoteMemory memory = true) id
        WireRemoteMemory.bytes remoteMemoryLayout ∧
      SurvivesWire encodeInfo decodeInfo (fun info => validateHostInfo info = true) carriedInfo
        WireTransportInfo.bytes hostInfoLayout :=
  ⟨qpInfo_survives, remoteMemory_survives, transportInfo_survives⟩

end NdsStorage.Negotiation
