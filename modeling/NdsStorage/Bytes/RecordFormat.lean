import NdsStorage.Bytes.BigEndian

/-! Records of a fixed size in a caller's buffer. A format survives the wire
when it serializes exactly the valid records, what it writes is read back, and
nothing but the record's own bytes changes. -/
namespace Bytes

structure RecordFormat (Record Failure : Type) where
  size : Nat
  serialize : Record → Buffer → Except Failure Unit × Buffer
  deserialize : Buffer → Except Failure Record

namespace RecordFormat

variable {Record Failure : Type} {format : RecordFormat Record Failure} {valid : Record → Prop}

/-- What a buffer of sufficient size goes through. -/
structure Survives (format : RecordFormat Record Failure) (valid : Record → Prop)
    (record : Record) (bytes : Buffer) : Prop where
  accepted_iff : (format.serialize record bytes).1 = .ok () ↔ valid record
  recovered : (format.serialize record bytes).1 = .ok () →
    format.deserialize (format.serialize record bytes).2 = .ok record
  rest : (format.serialize record bytes).2.drop format.size = bytes.drop format.size
  length_eq : (format.serialize record bytes).2.length = bytes.length
  unchanged : (format.serialize record bytes).1 ≠ .ok () →
    (format.serialize record bytes).2 = bytes

/-- A serializer that either lays out the record or refuses it. -/
structure LaidOut (format : RecordFormat Record Failure) (valid : Record → Prop)
    (layout : Record → Buffer → Buffer) (failure : Failure) : Prop where
  serialize_ok : ∀ record bytes, format.size ≤ bytes.length → valid record →
    format.serialize record bytes = (.ok (), layout record bytes)
  serialize_error : ∀ record bytes, format.size ≤ bytes.length → ¬ valid record →
    format.serialize record bytes = (.error failure, bytes)
  recovered : ∀ record bytes, format.size ≤ bytes.length → valid record →
    format.deserialize (layout record bytes) = .ok record
  rest : ∀ record bytes, (layout record bytes).drop format.size = bytes.drop format.size
  length_eq : ∀ record bytes, (layout record bytes).length = bytes.length

variable {layout : Record → Buffer → Buffer} {failure : Failure}

/-- A record that is laid out comes back as it was. -/
theorem LaidOut.survives (h : format.LaidOut valid layout failure) (record : Record)
    {bytes : Buffer} (hSize : format.size ≤ bytes.length) : format.Survives valid record bytes := by
  by_cases hValid : valid record
  · have hOk := h.serialize_ok record bytes hSize hValid
    exact {
      accepted_iff := by simp [hOk, hValid]
      recovered := fun _ => by
        rw [hOk]
        exact h.recovered record bytes hSize hValid
      rest := by
        rw [hOk]
        exact h.rest record bytes
      length_eq := by
        rw [hOk]
        exact h.length_eq record bytes
      unchanged := fun hRefused => absurd (congrArg Prod.fst hOk) hRefused }
  · have hError := h.serialize_error record bytes hSize hValid
    exact {
      accepted_iff := by simp [hError, hValid]
      recovered := fun hAccepted => by simp [hError] at hAccepted
      rest := by rw [hError]
      length_eq := by rw [hError]
      unchanged := fun _ => by rw [hError] }

/-- Whatever a serializer has written is valid and read back. -/
theorem LaidOut.of_written (h : format.LaidOut valid layout failure) {record : Record}
    {bytes message : Buffer} (hSize : format.size ≤ bytes.length)
    (hWritten : format.serialize record bytes = (.ok (), message)) :
    valid record ∧ format.deserialize message = .ok record := by
  have hSurvives := h.survives record hSize
  have hRecovered := hSurvives.recovered
  rw [hWritten] at hRecovered
  exact ⟨hSurvives.accepted_iff.mp (congrArg Prod.fst hWritten), hRecovered rfl⟩

/-- The record can be sent on: its serializer takes it, and the bytes written
stand for the same record. -/
def Resends (format : RecordFormat Record Failure) (record : Record) : Prop :=
  ∀ bytes, format.size ≤ bytes.length → (format.serialize record bytes).1 = .ok () ∧
    format.deserialize (format.serialize record bytes).2 = .ok record

/-- What is read can be written again exactly if it is valid. -/
theorem LaidOut.resends_iff (h : format.LaidOut valid layout failure) (record : Record) :
    format.Resends record ↔ valid record := by
  constructor
  · intro hResends
    have hSize : format.size ≤ (List.replicate format.size (0 : UInt8)).length :=
      Nat.le_of_eq List.length_replicate.symm
    exact (h.survives record hSize).accepted_iff.mp (hResends _ hSize).1
  · intro hValid bytes hSize
    have hSurvives := h.survives record hSize
    have hAccepted := hSurvives.accepted_iff.mpr hValid
    exact ⟨hAccepted, hSurvives.recovered hAccepted⟩

end RecordFormat

end Bytes
