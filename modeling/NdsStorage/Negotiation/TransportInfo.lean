import NdsStorage.Protocol.Serde
import NdsStorage.Interaction.Traversal
import Mathlib.Data.List.GetD

/-! The control record of the transport. One packed record of fixed size serves
all messages of the exchange; its kind says whether the count or also the
identities of queue pairs are meaningful. -/
namespace NdsStorage.Negotiation

open Bytes Interaction

def kQpInfoMagic : UInt32 := 0x4e445331
def kQpInfoVersion : UInt16 := 3
def kMaxQpInfoBatch : Nat := 16
def kTransportInfoMagic : UInt32 := 0x4e445354
def kTransportInfoVersion : UInt16 := 2
def kQpInfoBytes : Nat := 80
def kTransportInfoBytes : Nat := 1292

/-- The identity of a queue pair. -/
structure QpInfo where
  qpNum : UInt32
  psn : UInt32
  portNum : UInt16
  gidIndex : UInt16
  pathMtu : UInt32
  trafficClass : UInt32
  serviceLevel : UInt32
  retryCount : UInt32
  retryTimeout : UInt32
  gid : Vector UInt8 16
deriving DecidableEq, Repr

def QpInfo.zero : QpInfo where
  qpNum := 0
  psn := 0
  portNum := 0
  gidIndex := 0
  pathMtu := 0
  trafficClass := 0
  serviceLevel := 0
  retryCount := 0
  retryTimeout := 0
  gid := Vector.replicate 16 0

inductive TransportInfoKind where
  | qpCountRequest | qpCountResponse | qpEndpoints
deriving DecidableEq, Repr

namespace TransportInfoKind

def code : TransportInfoKind → UInt16
  | qpCountRequest => 1
  | qpCountResponse => 2
  | qpEndpoints => 3

/-- The kinds that are valid on the wire. -/
def ofCode (code : UInt16) : Option TransportInfoKind :=
  if code = 1 then some qpCountRequest
  else if code = 2 then some qpCountResponse
  else if code = 3 then some qpEndpoints
  else none

theorem ofCode_code (kind : TransportInfoKind) : ofCode kind.code = some kind := by
  cases kind with
  | qpCountRequest => rfl
  | qpCountResponse => rfl
  | qpEndpoints => rfl

end TransportInfoKind

inductive CodecError where
  | invalidArgument | invalidRecord
deriving DecidableEq, Repr

structure TransportInfo where
  kind : TransportInfoKind
  qpCount : UInt32
  qps : Vector QpInfo 16
deriving DecidableEq, Repr

/-- The array of identities when its first elements are set. -/
def fillQps (items : List QpInfo) : Vector QpInfo 16 :=
  Vector.ofFn fun index => items.getD index .zero

def noQps : Vector QpInfo 16 := fillQps []

def validateQpInfo (info : QpInfo) : Bool :=
  !(info.qpNum = 0 || info.qpNum > 0x00ffffff) &&
    !(info.psn > 0x00ffffff) &&
    !(info.portNum = 0) &&
    !(info.pathMtu = 0) &&
    !(info.trafficClass > 0xff) &&
    !(info.serviceLevel > 15) &&
    !(info.retryCount > 7 || info.retryTimeout > 31)

/-- The elements of the array that a loop up to the count visits. -/
def TransportInfo.visited (info : TransportInfo) : List QpInfo :=
  info.qps.toList.take info.qpCount.toNat

def validateTransportInfo (info : TransportInfo) : Bool :=
  !(info.qpCount = 0 || info.qpCount > 16) &&
    (info.kind ≠ .qpEndpoints || info.visited.all validateQpInfo)

/-- The bytes of the packed record, fields in network order. -/
def qpInfoLayout (info : QpInfo) : Buffer :=
  encode32 kQpInfoMagic ++ (encode16 kQpInfoVersion ++ (encode16 0 ++ (encode32 info.qpNum ++
    (encode32 info.psn ++ (encode16 info.portNum ++ (encode16 info.gidIndex ++
      (encode32 info.pathMtu ++ (encode32 info.trafficClass ++ (encode32 info.serviceLevel ++
        (encode32 info.retryCount ++ (encode32 info.retryTimeout ++
          (info.gid.toList ++ List.replicate 24 0))))))))))))

def encodeQpInfo (info : QpInfo) : Except CodecError Buffer :=
  if !validateQpInfo info then .error .invalidRecord else .ok (qpInfoLayout info)

def decodeQpInfo (encoded : Buffer) : Except CodecError QpInfo :=
  if readU32 encoded 0 ≠ kQpInfoMagic then .error .invalidRecord
  else if readU16 encoded 4 ≠ kQpInfoVersion then .error .invalidRecord
  else
    let decoded : QpInfo := {
      qpNum := readU32 encoded 8
      psn := readU32 encoded 12
      portNum := readU16 encoded 16
      gidIndex := readU16 encoded 18
      pathMtu := readU32 encoded 20
      trafficClass := readU32 encoded 24
      serviceLevel := readU32 encoded 28
      retryCount := readU32 encoded 32
      retryTimeout := readU32 encoded 36
      gid := Vector.ofFn fun index => encoded.getD (40 + index) 0 }
    if !validateQpInfo decoded then .error .invalidRecord else .ok decoded

def transportInfoHeader (info : TransportInfo) : Buffer :=
  encode32 kTransportInfoMagic ++ (encode16 kTransportInfoVersion ++
    (encode16 info.kind.code ++ encode32 info.qpCount))

/-- The record starts out zeroed, so descriptors that are not set stay zero. -/
def encodeTransportInfo (info : TransportInfo) : Except CodecError Buffer :=
  if !validateTransportInfo info then .error .invalidRecord
  else
    let qps := if info.kind ≠ .qpEndpoints then .ok [] else info.visited.mapM encodeQpInfo
    qps.map fun encoded => transportInfoHeader info ++
      (encoded.flatten ++ List.replicate (kMaxQpInfoBatch * kQpInfoBytes - encoded.flatten.length) 0)

def decodeTransportInfo (encoded : Buffer) : Except CodecError TransportInfo :=
  if readU32 encoded 0 ≠ kTransportInfoMagic ∨ readU16 encoded 4 ≠ kTransportInfoVersion then
    .error .invalidRecord
  else
    match TransportInfoKind.ofCode (readU16 encoded 6) with
    | none => .error .invalidRecord
    | some kind =>
        let qpCount := readU32 encoded 8
        if qpCount = 0 ∨ qpCount > 16 then .error .invalidRecord
        else
          let qps :=
            if kind = .qpEndpoints then
              (List.range qpCount.toNat).mapM fun index =>
                decodeQpInfo (slice encoded (12 + index * kQpInfoBytes) kQpInfoBytes)
            else .ok []
          qps.map fun decoded => {
            kind := kind
            qpCount := qpCount
            qps := fillQps decoded }

section QpInfo

variable {info : QpInfo} {encoded : Buffer}

@[simp] theorem qpInfoLayout_length (info : QpInfo) : (qpInfoLayout info).length = 80 := by
  simp [qpInfoLayout]

/-- The identity of the port lies behind forty bytes of numbers. -/
theorem qpInfoLayout_gid (info : QpInfo) {index : Nat} (hIndex : index < 16) :
    (qpInfoLayout info).getD (40 + index) 0 = info.gid[index] := by
  have hTail : (qpInfoLayout info).getD (40 + index) 0 =
      (info.gid.toList ++ List.replicate 24 0).getD index 0 := by
    rw [qpInfoLayout]
    iterate 12 rw [List.getD_append_right _ _ _ _ (by simp; omega)]
    congr 1
    simp
    omega
  rw [hTail, List.getD_append _ _ _ _ (by simpa using hIndex), List.getD_eq_getElem?_getD,
    List.getElem?_eq_getElem (by simpa using hIndex)]
  simp

theorem decodeQpInfo_layout (h : validateQpInfo info = true) :
    decodeQpInfo (qpInfoLayout info) = .ok info := by
  have hGid : Vector.ofFn (fun index : Fin 16 => (qpInfoLayout info).getD (40 + index) 0) =
      info.gid := by
    apply Vector.ext
    intro index hIndex
    rw [Vector.getElem_ofFn]
    exact qpInfoLayout_gid info hIndex
  have hRead32 : ∀ position value, slice (qpInfoLayout info) position 4 = encode32 value →
      readU32 (qpInfoLayout info) position = value := by
    intro position value hSlice
    rw [readU32, hSlice, decode32_encode32]
  have hRead16 : ∀ position value, slice (qpInfoLayout info) position 2 = encode16 value →
      readU16 (qpInfoLayout info) position = value := by
    intro position value hSlice
    rw [readU16, hSlice, decode16_encode16]
  rw [decodeQpInfo, hRead32 0 kQpInfoMagic rfl, hRead16 4 kQpInfoVersion rfl,
    hRead32 8 info.qpNum rfl, hRead32 12 info.psn rfl, hRead16 16 info.portNum rfl,
    hRead16 18 info.gidIndex rfl, hRead32 20 info.pathMtu rfl, hRead32 24 info.trafficClass rfl,
    hRead32 28 info.serviceLevel rfl, hRead32 32 info.retryCount rfl,
    hRead32 36 info.retryTimeout rfl, hGid]
  simp [h]

theorem validateQpInfo_of_decode (h : decodeQpInfo encoded = .ok info) :
    validateQpInfo info = true := by
  unfold decodeQpInfo at h
  split at h
  · cases h
  split at h
  · cases h
  dsimp only at h
  split at h
  · cases h
  · rename_i hValid
    cases h
    simpa using hValid

end QpInfo

section TransportInfo

variable {info : TransportInfo} {encoded : Buffer} {items : List QpInfo}

/-- The array starts with the copied descriptors. -/
theorem fillQps_take (h : items.length ≤ 16) : (fillQps items).toList.take items.length = items := by
  apply List.ext_getElem
  · simp [Nat.min_eq_left h]
  · intro index hLeft hRight
    simp [fillQps, hRight]

/-- As many descriptors are visited as the count says. -/
theorem visited_length (h : info.qpCount ≤ 16) : info.visited.length = info.qpCount.toNat := by
  have hCount := UInt32.le_iff_toNat_le.mp h
  change info.qpCount.toNat ≤ 16 at hCount
  simp [TransportInfo.visited, Nat.min_eq_left hCount]

/-- The descriptors a record carries on the wire. -/
def TransportInfo.carried (info : TransportInfo) : List QpInfo :=
  if info.kind = .qpEndpoints then info.visited else []

/-- A valid message has a count in range and valid descriptors. -/
theorem validateTransportInfo_iff (info : TransportInfo) : validateTransportInfo info = true ↔
    info.qpCount ≠ 0 ∧ info.qpCount ≤ 16 ∧ ∀ qp ∈ info.carried, validateQpInfo qp = true := by
  by_cases hKind : info.kind = .qpEndpoints
  · simp [validateTransportInfo, TransportInfo.carried, hKind, and_assoc]
  · simp [validateTransportInfo, TransportInfo.carried, hKind]

/-- What an encoder has accepted and written. -/
theorem encodeTransportInfo_ok (h : encodeTransportInfo info = .ok encoded) :
    info.qpCount ≠ 0 ∧ info.qpCount ≤ 16 ∧ (∀ qp ∈ info.carried, validateQpInfo qp = true) ∧
      encoded = transportInfoHeader info ++ ((info.carried.map qpInfoLayout).flatten ++
        List.replicate (1280 - (info.carried.map qpInfoLayout).flatten.length) 0) := by
  unfold encodeTransportInfo at h
  split at h
  · cases h
  · rename_i hValid
    rw [Bool.not_eq_true, Bool.not_eq_false'] at hValid
    obtain ⟨hCount, hBatch, hQps⟩ := (validateTransportInfo_iff info).mp hValid
    refine ⟨hCount, hBatch, hQps, ?_⟩
    unfold TransportInfo.carried at hQps ⊢
    split at hQps
    · rename_i hKind
      have hMap : info.visited.mapM encodeQpInfo = .ok (info.visited.map qpInfoLayout) :=
        mapM_eq_ok fun qp hQp => by simp [encodeQpInfo, hQps qp hQp]
      rw [if_neg (not_not_intro hKind), hMap] at h
      rw [if_pos hKind]
      cases h
      rfl
    · rename_i hKind
      rw [if_pos hKind] at h
      rw [if_neg hKind]
      cases h
      rfl

theorem layouts_length (qps : List QpInfo) :
    (qps.map qpInfoLayout).flatten.length = 80 * qps.length := by
  induction qps with
  | nil => rfl
  | cons qp rest ih =>
      rw [List.map_cons, List.flatten_cons, List.length_append, ih, qpInfoLayout_length,
        List.length_cons]
      omega

/-- A message carries at most sixteen descriptors. -/
theorem carried_length (h : info.qpCount ≤ 16) : info.carried.length ≤ 16 := by
  have hCount := UInt32.le_iff_toNat_le.mp h
  change info.qpCount.toNat ≤ 16 at hCount
  unfold TransportInfo.carried
  split
  · rw [visited_length h]
    exact hCount
  · exact Nat.zero_le _

/-- Every message has the fixed size. -/
theorem encodeTransportInfo_length (h : encodeTransportInfo info = .ok encoded) :
    encoded.length = kTransportInfoBytes := by
  obtain ⟨-, hBatch, -, rfl⟩ := encodeTransportInfo_ok h
  have hCarried := carried_length hBatch
  rw [List.length_append, List.length_append, List.length_replicate, layouts_length]
  change 12 + (80 * _ + (1280 - 80 * _)) = 1292
  omega

/-- What one side encodes, the other side decodes. -/
theorem decodeTransportInfo_encoded (h : encodeTransportInfo info = .ok encoded) :
    decodeTransportInfo encoded = .ok { info with qps := fillQps info.carried } := by
  obtain ⟨hCount, hBatch, hQps, rfl⟩ := encodeTransportInfo_ok h
  generalize hRest : (info.carried.map qpInfoLayout).flatten ++ List.replicate _ 0 = rest
  have hRead32 : ∀ position value, slice (transportInfoHeader info ++ rest) position 4 =
      encode32 value → readU32 (transportInfoHeader info ++ rest) position = value := by
    intro position value hSlice
    rw [readU32, hSlice, decode32_encode32]
  have hRead16 : ∀ position value, slice (transportInfoHeader info ++ rest) position 2 =
      encode16 value → readU16 (transportInfoHeader info ++ rest) position = value := by
    intro position value hSlice
    rw [readU16, hSlice, decode16_encode16]
  rw [decodeTransportInfo, hRead32 0 kTransportInfoMagic rfl, hRead16 4 kTransportInfoVersion rfl,
    hRead16 6 info.kind.code rfl, hRead32 8 info.qpCount rfl, TransportInfoKind.ofCode_code,
    if_neg (by simp)]
  dsimp only
  rw [if_neg (not_or.mpr ⟨hCount, UInt32.not_lt.mpr hBatch⟩)]
  by_cases hKind : info.kind = .qpEndpoints
  · have hCarried : info.carried = info.visited := if_pos hKind
    have hLoop : ((List.range info.qpCount.toNat).mapM fun index =>
        decodeQpInfo (slice (transportInfoHeader info ++ rest) (12 + index * kQpInfoBytes)
          kQpInfoBytes)) = .ok info.carried := by
      have hEach : ∀ index ∈ List.range info.qpCount.toNat,
          decodeQpInfo (slice (transportInfoHeader info ++ rest) (12 + index * kQpInfoBytes)
            kQpInfoBytes) = .ok (info.carried.getD index .zero) := by
        intro index hIndex
        have hInside : index < info.carried.length := by
          rw [hCarried, visited_length hBatch]
          exact List.mem_range.mp hIndex
        have hValid := hQps _ (List.getElem_mem hInside)
        have hHeader : (transportInfoHeader info).length = 12 := rfl
        rw [← hHeader, slice_append_right, ← hRest]
        rw [slice_flatten (by simp [kQpInfoBytes]) (by
          rw [List.getElem?_map, List.getElem?_eq_getElem hInside]
          rfl), List.getD_eq_getElem _ _ hInside]
        exact decodeQpInfo_layout hValid
      rw [mapM_eq_ok hEach]
      congr 1
      apply List.ext_getElem
      · simp [hCarried, visited_length hBatch]
      · intro index hLeft hRight
        rw [List.getElem_map, List.getElem_range, List.getD_eq_getElem _ _ hRight]
    rw [if_pos hKind, hLoop]
    rfl
  · have hCarried : info.carried = [] := if_neg hKind
    rw [if_neg hKind, hCarried]
    rfl

/-- What is accepted from any peer is well formed. -/
theorem decodeTransportInfo_valid (h : decodeTransportInfo encoded = .ok info) :
    info.qpCount ≠ 0 ∧ info.qpCount ≤ 16 ∧ ∀ qp ∈ info.carried, validateQpInfo qp = true := by
  unfold decodeTransportInfo at h
  split at h
  · cases h
  split at h
  · cases h
  rename_i kind hKind
  dsimp only at h
  split at h
  · cases h
  rename_i hCount
  rw [not_or, gt_iff_lt, UInt32.not_lt] at hCount
  have hBatch := UInt32.le_iff_toNat_le.mp hCount.2
  change _ ≤ 16 at hBatch
  generalize hLoop : (if kind = .qpEndpoints then _ else _ : Except CodecError (List QpInfo)) = loop
    at h
  cases loop with
  | error failure => cases h
  | ok decoded =>
      cases h
      refine ⟨hCount.1, hCount.2, ?_⟩
      unfold TransportInfo.carried
      split
      · rename_i hEndpoints
        rw [if_pos hEndpoints] at hLoop
        have hEach := forall₂_of_mapM hLoop
        have hLength := hEach.length_eq
        rw [List.length_range] at hLength
        rw [TransportInfo.visited, hLength, fillQps_take (by omega)]
        intro qp hQp
        obtain ⟨index, hIndex, rfl⟩ := List.getElem_of_mem hQp
        exact validateQpInfo_of_decode (hEach.get (by simp; omega) hIndex)
      · simp

end TransportInfo

end NdsStorage.Negotiation
