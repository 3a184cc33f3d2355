import NdsStorage.Negotiation.WireWords

/-! The two accounts of the transport codec. The exchange works on the bytes of
a record, as the layout says; the host works on packed words in memory and
writes through its output argument. Encoding and decoding agree on every
record, accepted or not. -/
namespace NdsStorage.Negotiation

open Bytes Interaction

/-- The record as the host holds it. -/
def TransportInfo.host (info : TransportInfo) : HostTransportInfo where
  kind := info.kind.code
  qpCount := info.qpCount
  qps := info.qps

/-- The result of a codec call and what it wrote. -/
def codecOutcome {Output : Type} (written : CodecResult × Output) : Except CodecError Output :=
  match written.1 with
  | .ok => .ok written.2
  | .invalidArgument => .error .invalidArgument
  | .invalidRecord => .error .invalidRecord

section Entries

variable {info : QpInfo} {wire : WireQpInfo}

/-- Encoding a descriptor, over words and over bytes. -/
theorem encodeQpInfo_eq (info : QpInfo) (encoded : WireQpInfo) :
    encodeQpInfo info = (codecOutcome (encodeQp info encoded)).map WireQpInfo.bytes := by
  rw [encodeQpInfo, encodeQp_eq]
  cases validateQpInfo info with
  | false => rfl
  | true => exact congrArg Except.ok (wireQp_bytes info).symm

/-- The identity of the port lies behind forty bytes of numbers. -/
theorem WireQpInfo.bytes_gid (wire : WireQpInfo) {index : Nat} (hIndex : index < 16) :
    wire.bytes.getD (40 + index) 0 = wire.gid[index] := by
  have hTail : wire.bytes.getD (40 + index) 0 =
      (wire.gid.toList ++ wire.reserved.toList).getD index 0 := by
    rw [WireQpInfo.bytes]
    iterate 12 rw [List.getD_append_right _ _ _ _ (by simp; omega)]
    congr 1
    simp
    omega
  rw [hTail, List.getD_append _ _ _ _ (by simpa using hIndex), List.getD_eq_getElem?_getD,
    List.getElem?_eq_getElem (by simpa using hIndex)]
  simp

@[simp] theorem WireQpInfo.bytes_length (wire : WireQpInfo) : wire.bytes.length = kQpInfoBytes := by
  simp [WireQpInfo.bytes, kQpInfoBytes]

/-- Any record in memory is decoded alike. -/
theorem decodeQpInfo_bytes (wire : WireQpInfo) (output : QpInfo) :
    decodeQpInfo wire.bytes = codecOutcome (decodeQp wire output) := by
  have hGid : Vector.ofFn (fun index : Fin 16 => wire.bytes.getD (40 + index) 0) = wire.gid := by
    apply Vector.ext
    intro index hIndex
    rw [Vector.getElem_ofFn]
    exact wire.bytes_gid hIndex
  have hDecoded : ({
      qpNum := readU32 wire.bytes 8
      psn := readU32 wire.bytes 12
      portNum := readU16 wire.bytes 16
      gidIndex := readU16 wire.bytes 18
      pathMtu := readU32 wire.bytes 20
      trafficClass := readU32 wire.bytes 24
      serviceLevel := readU32 wire.bytes 28
      retryCount := readU32 wire.bytes 32
      retryTimeout := readU32 wire.bytes 36
      gid := Vector.ofFn fun index => wire.bytes.getD (40 + index) 0 } : QpInfo) = hostQp wire := by
    rw [hGid]
    rfl
  rw [decodeQpInfo, decodeQp]
  dsimp only
  rw [hDecoded, show readU32 wire.bytes 0 = ntohl wire.magic from rfl,
    show readU16 wire.bytes 4 = ntohs wire.version from rfl]
  split
  · rfl
  · split
    · rfl
    · split
      · rfl
      · rfl

end Entries

section Records

variable {info : TransportInfo} {wire : WireTransportInfo}

theorem placesBelow_range {count : UInt32} (h : count ≤ 16) :
    (placesBelow count).map Fin.val = List.range count.toNat := by
  have hAll : ∀ bound : Fin 17, ((List.finRange 16).filter fun place =>
      place.val < bound.val).map Fin.val = List.range bound.val := by
    decide
  exact hAll ⟨count.toNat, Nat.lt_succ_of_le (UInt32.le_iff_toNat_le.mp h)⟩

/-- The entries that the places of a count visit. -/
theorem placesBelow_entries {Entry : Type} (entries : Vector Entry 16) {count : UInt32}
    (h : count ≤ 16) :
    (placesBelow count).map entries.get = entries.toList.take count.toNat := by
  have hCount : count.toNat ≤ 16 := UInt32.le_iff_toNat_le.mp h
  have hPlaces := placesBelow_range h
  have hLength : (placesBelow count).length = count.toNat := by
    rw [← List.length_map Fin.val, hPlaces, List.length_range]
  apply List.ext_getElem
  · simp [hLength, Nat.min_eq_left hCount]
  · intro index hLeft hRight
    rw [List.length_map, hLength] at hLeft
    have hPlace : (placesBelow count)[index].val = index := by
      have hSame := List.getElem_map Fin.val (l := placesBelow count) (i := index)
        (h := by rw [hPlaces, List.length_range]; exact hLeft)
      rw [← hSame]
      simp only [hPlaces, List.getElem_range]
    rw [List.getElem_map]
    change entries[(placesBelow count)[index].val] = _
    simp [hPlace]

theorem TransportInfoKind.code_eq_three (kind : TransportInfoKind) :
    kind.code = 3 ↔ kind = .qpEndpoints := by
  cases kind <;> decide

/-- The carried places hold the carried descriptors. -/
theorem carriedPlaces_host (h : info.qpCount ≤ 16) :
    (carriedPlaces info.host.kind info.host.qpCount).map info.qps.get = info.carried := by
  by_cases hKind : info.kind = .qpEndpoints
  · have hPlaces : carriedPlaces info.host.kind info.host.qpCount = placesBelow info.qpCount :=
      if_pos (info.kind.code_eq_three.mpr hKind)
    rw [hPlaces, TransportInfo.carried, if_pos hKind]
    exact placesBelow_entries info.qps h
  · have hPlaces : carriedPlaces info.host.kind info.host.qpCount = [] :=
      if_neg (mt info.kind.code_eq_three.mp hKind)
    rw [hPlaces, TransportInfo.carried, if_neg hKind]
    rfl

theorem validTransportInfoKind_code (kind : TransportInfoKind) :
    validTransportInfoKind kind.code = true := by
  cases kind <;> decide

/-- Both accounts accept the same records. -/
theorem validateHostInfo_host (info : TransportInfo) :
    validateHostInfo info.host = validateTransportInfo info := by
  rw [Bool.eq_iff_iff, validateTransportInfo_iff, validateHostInfo_eq, Bool.and_eq_true,
    List.all_eq_true]
  have hHeader : validHeader info.kind.code info.qpCount = true ↔
      info.qpCount ≠ 0 ∧ info.qpCount ≤ 16 := by
    simp [validHeader, validTransportInfoKind_code]
  change validHeader info.kind.code info.qpCount = true ∧ _ ↔ _
  rw [hHeader, and_assoc]
  apply and_congr_right
  intro _
  apply and_congr_right
  intro hCount
  rw [← carriedPlaces_host hCount, List.forall_mem_map]
  rfl

/-- The entries of a message: those that it carries, and zeros up to the last place. -/
theorem hostInfo_entries (h : info.qpCount ≤ 16) {entry : Fin 16 → Buffer}
    (hEntry : ∀ place ∈ carriedPlaces info.host.kind info.host.qpCount,
      entry place = qpInfoLayout (info.qps.get place))
    (hOther : ∀ place, place ∉ carriedPlaces info.host.kind info.host.qpCount →
      entry place = List.replicate kQpInfoBytes 0) :
    (List.finRange 16).map entry =
      info.carried.map qpInfoLayout ++
        List.replicate (16 - info.carried.length) (List.replicate kQpInfoBytes 0) := by
  have hCount : info.qpCount.toNat ≤ 16 := UInt32.le_iff_toNat_le.mp h
  by_cases hKind : info.kind = .qpEndpoints
  · have hCarried : info.carried = info.qps.toList.take info.qpCount.toNat := if_pos hKind
    have hPlaces : carriedPlaces info.host.kind info.host.qpCount = placesBelow info.qpCount :=
      if_pos (info.kind.code_eq_three.mpr hKind)
    rw [hPlaces] at hEntry hOther
    have hInPlaces : ∀ place, place ∈ placesBelow info.qpCount ↔ place.val < info.qpCount.toNat := by
      intro place
      simp only [placesBelow, List.mem_filter, List.mem_finRange, true_and, decide_eq_true_iff]
    rw [hCarried]
    apply List.ext_getElem
    · simp only [List.length_map, List.length_finRange, List.length_append, List.length_take,
        Vector.length_toList, List.length_replicate]
      omega
    · intro index hLeft hRight
      have hIndex : index < 16 := by simpa using hLeft
      by_cases hInside : index < info.qpCount.toNat
      · rw [List.getElem_append_left (by simp; omega)]
        simp only [List.getElem_map, List.getElem_finRange, Fin.cast_mk, List.getElem_take,
          Vector.getElem_toList]
        exact hEntry ⟨index, hIndex⟩ ((hInPlaces _).mpr hInside)
      · rw [List.getElem_append_right (by simp; omega)]
        simp only [List.getElem_map, List.getElem_finRange, Fin.cast_mk, List.getElem_replicate]
        exact hOther ⟨index, hIndex⟩ (mt (hInPlaces _).mp hInside)
  · have hCarried : info.carried = [] := if_neg hKind
    have hPlaces : carriedPlaces info.host.kind info.host.qpCount = [] :=
      if_neg (mt info.kind.code_eq_three.mp hKind)
    have hZeros : ∀ place ∈ List.finRange 16, entry place = List.replicate kQpInfoBytes 0 :=
      fun place _ => hOther place (hPlaces ▸ List.not_mem_nil)
    rw [hCarried, List.map_congr_left hZeros]
    rfl

/-- The layout of the whole message, in one list. -/
theorem hostInfoLayout_eq (h : info.qpCount ≤ 16) :
    hostInfoLayout info.host = transportInfoHeader info ++
      ((info.carried.map qpInfoLayout).flatten ++
        List.replicate (1280 - (info.carried.map qpInfoLayout).flatten.length) 0) := by
  have hCarried := carried_length h
  have hZeros : (List.replicate (16 - info.carried.length)
      (List.replicate kQpInfoBytes (0 : UInt8))).flatten =
        List.replicate (1280 - (info.carried.map qpInfoLayout).flatten.length) 0 := by
    rw [List.flatten_replicate_replicate, layouts_length, kQpInfoBytes]
    congr 1
    omega
  rw [hostInfoLayout]
  change _ ++ (_ ++ (_ ++ (_ ++ (List.map (fun place =>
    if place ∈ carriedPlaces info.host.kind info.host.qpCount
    then qpInfoLayout (info.qps.get place)
    else List.replicate kQpInfoBytes 0) (List.finRange 16)).flatten))) = _
  rw [hostInfo_entries h, List.flatten_append, hZeros, transportInfoHeader]
  · simp only [List.append_assoc]
    rfl
  · intro place hPlace
    exact if_pos hPlace
  · intro place hPlace
    exact if_neg hPlace

/-- Encoding a record into bytes writes what the host writes into its packed record. -/
theorem encodeTransportInfo_eq (info : TransportInfo) (encoded : WireTransportInfo) :
    encodeTransportInfo info =
      (codecOutcome (encodeInfo info.host encoded)).map WireTransportInfo.bytes := by
  rw [encodeInfo_eq, validateHostInfo_host]
  cases hValid : validateTransportInfo info with
  | false =>
      rw [encodeTransportInfo, hValid]
      rfl
  | true =>
      obtain ⟨-, hCount, hQps⟩ := (validateTransportInfo_iff info).mp hValid
      have hLoop : (if info.kind ≠ .qpEndpoints then .ok [] else info.visited.mapM encodeQpInfo) =
          (.ok (info.carried.map qpInfoLayout) : Except CodecError (List Buffer)) := by
        by_cases hKind : info.kind = .qpEndpoints
        · have hCarried : info.carried = info.visited := if_pos hKind
          rw [if_neg (not_not.mpr hKind), ← hCarried]
          exact mapM_eq_ok fun qp hQp => by simp [encodeQpInfo, hQps qp hQp]
        · have hCarried : info.carried = [] := if_neg hKind
          rw [if_pos hKind, hCarried]
          rfl
      rw [encodeTransportInfo, hValid]
      dsimp only
      rw [if_neg (by simp), hLoop, if_pos rfl]
      exact congrArg Except.ok ((hostInfoLayout_eq hCount).symm.trans
        (wireInfo_bytes info.host).symm)

/-- An entry of a record in memory. -/
theorem WireTransportInfo.bytes_entry (wire : WireTransportInfo) (place : Fin 16) :
    slice wire.bytes (12 + place * kQpInfoBytes) kQpInfoBytes = (wire.qps.get place).bytes := by
  have hBytes : wire.bytes = (memory32 wire.magic ++ (memory16 wire.version ++
      (memory16 wire.kind ++ memory32 wire.qpCount))) ++
        ((wire.qps.toList.map WireQpInfo.bytes).flatten ++ []) := by
    simp [WireTransportInfo.bytes]
  have hEntry : (wire.qps.toList.map WireQpInfo.bytes)[place.val]? =
      some (wire.qps.get place).bytes := by
    change _ = some wire.qps[place.val].bytes
    simp
  rw [hBytes]
  refine (slice_append_right _ _ _ _).trans (slice_flatten ?_ hEntry [])
  simp

/-- A code without a kind is an invalid one. -/
theorem ofCode_eq_none_iff (code : UInt16) :
    TransportInfoKind.ofCode code = none ↔ validTransportInfoKind code = false := by
  unfold TransportInfoKind.ofCode validTransportInfoKind
  repeat' split
  all_goals simp [*]

/-- A code with a kind is the code of that kind. -/
theorem ofCode_eq_some {code : UInt16} {kind : TransportInfoKind}
    (h : TransportInfoKind.ofCode code = some kind) :
    kind.code = code ∧ validTransportInfoKind code = true := by
  unfold TransportInfoKind.ofCode at h
  split at h
  · rename_i hCode
    cases h
    exact ⟨hCode.symm, by rw [hCode]; rfl⟩
  · split at h
    · rename_i hCode
      cases h
      exact ⟨hCode.symm, by rw [hCode]; rfl⟩
    · split at h
      · rename_i hCode
        cases h
        exact ⟨hCode.symm, by rw [hCode]; rfl⟩
      · cases h

/-- The array that the exchange fills holds the entries of the host. -/
theorem fillQps_places (entry : Fin 16 → QpInfo) {count : UInt32} (h : count ≤ 16) :
    fillQps ((placesBelow count).map entry) =
      setPlaces (placesBelow count) entry (Vector.replicate 16 .zero) := by
  have hEntries := placesBelow_entries (Vector.ofFn entry) h
  have hMap : (placesBelow count).map (Vector.ofFn entry).get = (placesBelow count).map entry := by
    apply List.map_congr_left
    intro place _
    change (Vector.ofFn entry)[place.val] = entry place
    rw [Vector.getElem_ofFn]
  rw [← hMap, hEntries]
  apply Vector.ext
  intro index hIndex
  simp only [fillQps, setPlaces, Vector.getElem_ofFn, placesBelow, List.mem_filter,
    List.mem_finRange, true_and, decide_eq_true_iff]
  by_cases hInside : index < count.toNat
  · simp [hInside, List.getD_eq_getElem?_getD, hIndex]
  · simp [hInside, List.getD_eq_getElem?_getD,
      List.getElem?_take_eq_none (Nat.not_lt.mp hInside)]

/-- Decoding the entries one after the other reads the places of the count. -/
theorem decodeQps_bytes (wire : WireTransportInfo) {count : UInt32} (h : count ≤ 16) :
    ((List.range count.toNat).mapM fun index =>
        decodeQpInfo (slice wire.bytes (12 + index * kQpInfoBytes) kQpInfoBytes)) =
      if (placesBelow count).all fun place => acceptedQp (wire.qps.get place)
      then .ok ((placesBelow count).map fun place => hostQp (wire.qps.get place))
      else .error .invalidRecord := by
  rw [← placesBelow_range h, List.mapM_map]
  apply mapM_checked
  intro place _
  rw [Function.comp_apply, wire.bytes_entry, decodeQpInfo_bytes _ .zero, decodeQp_eq]
  cases acceptedQp (wire.qps.get place) <;> rfl

/-- A record with the right tag is accepted if its header and its entries are. -/
theorem acceptedInfo_tagged {wire : WireTransportInfo}
    (hMagic : ntohl wire.magic = kTransportInfoMagic)
    (hVersion : ntohs wire.version = kTransportInfoVersion) :
    acceptedInfo wire =
      (validHeader (hostHeader wire).kind (hostHeader wire).qpCount &&
        (carriedPlaces (hostHeader wire).kind (hostHeader wire).qpCount).all fun place =>
          acceptedQp (wire.qps.get place)) := by
  rw [acceptedInfo, decide_eq_true hMagic, decide_eq_true hVersion]
  rfl

/-- Decoding the bytes of any record returns what the host reads from it. -/
theorem decodeTransportInfo_bytes (wire : WireTransportInfo) (output : HostTransportInfo) :
    (decodeTransportInfo wire.bytes).map TransportInfo.host =
      codecOutcome (decodeInfo wire output) := by
  have hHost : codecOutcome (decodeInfo wire output) =
      if acceptedInfo wire then .ok (hostInfo wire) else .error .invalidRecord := by
    rw [decodeInfo_eq]
    cases acceptedInfo wire <;> rfl
  rw [hHost, decodeTransportInfo, show readU32 wire.bytes 0 = ntohl wire.magic from rfl,
    show readU16 wire.bytes 4 = ntohs wire.version from rfl,
    show readU16 wire.bytes 6 = (hostHeader wire).kind from rfl,
    show readU32 wire.bytes 8 = (hostHeader wire).qpCount from rfl]
  split
  · rename_i hTag
    have hRefused : acceptedInfo wire = false := by
      rcases hTag with hMagic | hVersion
      · simp [acceptedInfo, hMagic]
      · simp [acceptedInfo, hVersion]
    rw [hRefused]
    rfl
  rename_i hTag
  rw [not_or, not_not, not_not] at hTag
  have hAccepted := acceptedInfo_tagged hTag.1 hTag.2
  cases hCode : TransportInfoKind.ofCode (hostHeader wire).kind with
  | none =>
      rw [hAccepted, validHeader, (ofCode_eq_none_iff _).mp hCode]
      rfl
  | some kind =>
      obtain ⟨hKind, hValid⟩ := ofCode_eq_some hCode
      dsimp only
      split
      · rename_i hCount
        have hRefused : validHeader (hostHeader wire).kind (hostHeader wire).qpCount = false := by
          rcases hCount with hZero | hMany
          · simp [validHeader, hZero]
          · have hLong : decide ((hostHeader wire).qpCount > 16) = true := decide_eq_true hMany
            rw [validHeader, hLong, Bool.or_true, Bool.not_true]
        rw [hAccepted, hRefused]
        rfl
      rename_i hCount
      rw [not_or, gt_iff_lt, UInt32.not_lt] at hCount
      have hHeader : validHeader (hostHeader wire).kind (hostHeader wire).qpCount = true := by
        simp [validHeader, hValid, hCount.1, hCount.2]
      rw [hAccepted, hHeader, Bool.true_and]
      by_cases hEndpoints : kind = .qpEndpoints
      · have hPlaces : carriedPlaces (hostHeader wire).kind (hostHeader wire).qpCount =
            placesBelow (hostHeader wire).qpCount :=
          if_pos (hKind.symm.trans (kind.code_eq_three.mpr hEndpoints))
        rw [if_pos hEndpoints, decodeQps_bytes wire hCount.2, hPlaces]
        split
        · have hFilled := fillQps_places (fun place => hostQp wire.qps[place]) hCount.2
          rw [hostInfo, hPlaces, ← hFilled, ← hKind]
          rfl
        · rfl
      · have hPlaces : carriedPlaces (hostHeader wire).kind (hostHeader wire).qpCount = [] :=
          if_neg (mt (fun hCode => kind.code_eq_three.mp (hKind.trans hCode)) hEndpoints)
        have hNone : fillQps [] = Vector.replicate 16 .zero := by
          apply Vector.ext
          intro index hIndex
          simp [fillQps]
        rw [if_neg hEndpoints, hPlaces, hostInfo, hPlaces, setPlaces_nil, ← hNone, ← hKind]
        rfl

end Records

end NdsStorage.Negotiation
