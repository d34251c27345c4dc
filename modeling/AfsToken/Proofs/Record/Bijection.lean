import AfsToken.Proofs.Record.Layout
import Mathlib.Data.Set.Function

/-!
# Records and octet strings, one to one

Writing gives each record that is not refused an octet string of its own.  The octet strings that
come about are those with room for a header whose length field counts the octets behind it, and each
of them writes a single record.  The records that are refused are those with a ticket too long for
the length field.
-/

namespace AfsToken.Record

/-- An octet string has room for a header, and the length field counts the octets behind it. -/
def IsWellFormed (octets : Octets) : Prop :=
  24 ≤ octets.length ∧ Octets.toNatLE (slice 6 8 octets) = octets.length - 24

/-! ## Parts of an octet string -/

section Slice

variable {octets : Octets} {start middle stop width : Nat}

theorem length_slice (hstop : stop ≤ octets.length) :
    (slice start stop octets).length = stop - start := by
  rw [slice, List.length_drop, List.length_take, Nat.min_eq_left hstop]

/-- Two parts that meet are one part. -/
theorem slice_append_slice (hstart : start ≤ middle) (hmiddle : middle ≤ stop) :
    slice start middle octets ++ slice middle stop octets = slice start stop octets := by
  have hfront : slice start middle octets = (slice start stop octets).take (middle - start) := by
    rw [slice, slice, ← List.drop_take, List.take_take, Nat.min_eq_left hmiddle]
  have hback : slice middle stop octets = (slice start stop octets).drop (middle - start) := by
    rw [slice, slice, List.drop_drop, Nat.add_sub_cancel' hstart]
  rw [hfront, hback, List.take_append_drop]

/-- A part is written again as the number that it writes. -/
theorem ofNatLE_toNatLE_slice (hstop : stop ≤ octets.length) (hwidth : start + width = stop) :
    Octets.ofNatLE width (Octets.toNatLE (slice start stop octets)) = slice start stop octets := by
  have hlength : (slice start stop octets).length = width := by
    rw [length_slice hstop]
    omega
  rw [← hlength]
  exact Octets.ofNatLE_toNatLE _

theorem toNatLE_slice_lt (hstop : stop ≤ octets.length) (hwidth : start + width = stop) :
    Octets.toNatLE (slice start stop octets) < Octets.span width := by
  have hlt := Octets.toNatLE_lt (slice start stop octets)
  rwa [length_slice hstop, show stop - start = width by omega] at hlt

end Slice

/-! ## Writing -/

variable {record other : Record} {octets : Octets}

/-- A record has as many octets as its size tells. -/
theorem length_of_encode (h : record.encode = .ok octets) : octets.length = record.size := by
  obtain ⟨-, rfl⟩ := encode_eq_ok_iff.mp h
  rw [List.length_append, length_flatten_header, size]

/-- What is written is well formed. -/
theorem isWellFormed_of_encode (h : record.encode = .ok octets) : IsWellFormed octets := by
  have hlength := length_of_encode h
  have hfield := toNatLE_lengthField_of_encode h
  have hheader : headerSize = 24 := rfl
  rw [List.length_drop] at hfield
  rw [size] at hlength
  exact ⟨by omega, hfield⟩

/-- Two records with the same fields in their places are one. -/
theorem StandsIn.unique (h : record.StandsIn octets) (hother : other.StandsIn octets) :
    record = other := by
  cases record
  cases other
  simp only [mk.injEq]
  refine ⟨?_, ?_, ?_, ?_, ?_, ?_⟩
  · exact UInt32.toNat_inj.mp (h.interfaceVersion.symm.trans hother.interfaceVersion)
  · exact UInt16.toNat_inj.mp (h.securityIndex.symm.trans hother.securityIndex)
  · exact UInt32.toNat_inj.mp (h.expiry.symm.trans hother.expiry)
  · exact UInt32.toNat_inj.mp (h.keyVersion.symm.trans hother.keyVersion)
  · exact SessionKey.octets_inj.mp (h.sessionKey.symm.trans hother.sessionKey)
  · exact h.ticket.symm.trans hother.ticket

/-- In a well-formed octet string the fields of some record stand. -/
theorem exists_standsIn (hwell : IsWellFormed octets) :
    ∃ record : Record, record.StandsIn octets := by
  obtain ⟨hroom, hfield⟩ := hwell
  have hkey : (slice 16 24 octets).length = Des.keySize := length_slice hroom
  have hticket : (octets.drop 24).length = octets.length - 24 := List.length_drop
  refine ⟨{
    interfaceVersion := UInt32.ofNat (Octets.toNatLE (slice 0 4 octets))
    securityIndex := UInt16.ofNat (Octets.toNatLE (slice 4 6 octets))
    expiry := UInt32.ofNat (Octets.toNatLE (slice 8 12 octets))
    keyVersion := UInt32.ofNat (Octets.toNatLE (slice 12 16 octets))
    sessionKey := ⟨slice 16 24 octets, hkey⟩
    ticket := octets.drop 24 }, ?_⟩
  have hword {start stop : Nat} (hstop : stop ≤ 24) (hwidth : start + 4 = stop) :
      Octets.toNatLE (slice start stop octets) =
        (UInt32.ofNat (Octets.toNatLE (slice start stop octets))).toNat :=
    (UInt32.toNat_ofNat_of_lt' (toNatLE_slice_lt (hstop.trans hroom) hwidth)).symm
  have hindex : Octets.toNatLE (slice 4 6 octets) < Octets.span 2 :=
    toNatLE_slice_lt (by omega) rfl
  constructor
  case interfaceVersion => exact hword (by decide) rfl
  case securityIndex => exact (UInt16.toNat_ofNat_of_lt' hindex).symm
  case ticketLength => exact hfield.trans hticket.symm
  case expiry => exact hword (by decide) rfl
  case keyVersion => exact hword (by decide) rfl
  case sessionKey => rfl
  case ticket => rfl

/-- A record whose fields stand in a well-formed octet string is written as that string. -/
theorem encode_of_standsIn (hwell : IsWellFormed octets) (h : record.StandsIn octets) :
    record.encode = .ok octets := by
  obtain ⟨hroom, -⟩ := hwell
  have hheader : record.header =
      [slice 0 4 octets, slice 4 6 octets, slice 6 8 octets, slice 8 12 octets,
       slice 12 16 octets, slice 16 24 octets] := by
    rw [header, ← h.interfaceVersion, ← h.securityIndex, ← h.ticketLength, ← h.expiry,
      ← h.keyVersion, ← h.sessionKey, ofNatLE_toNatLE_slice (by omega) rfl,
      ofNatLE_toNatLE_slice (by omega) rfl, ofNatLE_toNatLE_slice (by omega) rfl,
      ofNatLE_toNatLE_slice (by omega) rfl, ofNatLE_toNatLE_slice (by omega) rfl]
  have hlimit : record.ticket.length ≤ ticketLimit := by
    have hlt : Octets.toNatLE (slice 6 8 octets) < Octets.span 2 := toNatLE_slice_lt (by omega) rfl
    rw [h.ticketLength] at hlt
    exact Nat.le_of_lt_succ hlt
  refine encode_eq_ok_iff.mpr ⟨hlimit, ?_⟩
  -- The fields meet, so in front of the ticket they are all there is.
  calc octets = slice 0 24 octets ++ octets.drop 24 := (List.take_append_drop 24 octets).symm
    _ = record.header.flatten ++ record.ticket := by
        rw [hheader, h.ticket]
        simp only [List.flatten_cons, List.flatten_nil, List.append_nil]
        rw [slice_append_slice (by decide) (by decide), slice_append_slice (by decide) (by decide),
          slice_append_slice (by decide) (by decide), slice_append_slice (by decide) (by decide),
          slice_append_slice (by decide) (by decide)]

/-- The octet strings that records are written as are the well-formed ones. -/
theorem isWellFormed_iff_exists_encode :
    IsWellFormed octets ↔ ∃ record : Record, record.encode = .ok octets := by
  constructor
  · intro hwell
    obtain ⟨record, hfields⟩ := exists_standsIn hwell
    exact ⟨record, encode_of_standsIn hwell hfields⟩
  · rintro ⟨record, h⟩
    exact isWellFormed_of_encode h

/-- No two records are written as one octet string. -/
theorem eq_of_encode (h : record.encode = .ok octets) (hother : other.encode = .ok octets) :
    record = other :=
  (standsIn_of_encode h).unique (standsIn_of_encode hother)

theorem encode_eq_error_iff {fault : DataFault} :
    record.encode = .error fault ↔
      ticketLimit < record.ticket.length ∧
        fault = .ticketTooLong record.ticket.length ticketLimit := by
  unfold encode
  by_cases hlimit : record.ticket.length ≤ ticketLimit
  · simp [hlimit]
  · rw [if_neg hlimit, Except.error.injEq, and_iff_right (Nat.lt_of_not_le hlimit), eq_comm]

theorem bijOn_encode :
    Set.BijOn encode {record | record.ticket.length ≤ ticketLimit}
      (Except.ok '' {octets | IsWellFormed octets}) := by
  refine ⟨fun record hlimit ↦ ?_, fun record hlimit other _ hsame ↦ ?_, ?_⟩
  · have h := encode_eq_ok_iff.mpr ⟨hlimit, rfl⟩
    exact ⟨_, isWellFormed_of_encode h, h.symm⟩
  · have h := encode_eq_ok_iff.mpr ⟨hlimit, rfl⟩
    exact eq_of_encode h (hsame.symm.trans h)
  · rintro _ ⟨octets, hwell, rfl⟩
    obtain ⟨record, h⟩ := isWellFormed_iff_exists_encode.mp hwell
    exact ⟨record, (encode_eq_ok_iff.mp h).1, h⟩

/-- A record is written if the length field can count its ticket, with each field in its place, and
refused as data otherwise.  Writing is one to one between the records that are not refused and the
well-formed octet strings. -/
theorem encode_oneToOne :
    (∀ record : Record,
      match record.encode with
      | .ok octets =>
          record.ticket.length ≤ 65535 ∧ octets.length = record.size ∧
            Octets.toNatLE (slice 6 8 octets) = (octets.drop 24).length ∧ record.StandsIn octets
      | .error fault =>
          65535 < record.ticket.length ∧ fault = .ticketTooLong record.ticket.length 65535) ∧
    Set.BijOn encode {record | record.ticket.length ≤ 65535}
      (Except.ok '' {octets | IsWellFormed octets}) ∧
    ∀ octets, IsWellFormed octets ↔ ∃! record : Record, record.encode = .ok octets := by
  refine ⟨fun record ↦ ?_, bijOn_encode, fun octets ↦ ?_⟩
  · split
    next octets h =>
      exact ⟨(encode_eq_ok_iff.mp h).1, length_of_encode h, toNatLE_lengthField_of_encode h,
        standsIn_of_encode h⟩
    next fault h => exact encode_eq_error_iff.mp h
  · rw [isWellFormed_iff_exists_encode]
    constructor
    · rintro ⟨record, h⟩
      exact ⟨record, h, fun other hother ↦ eq_of_encode hother h⟩
    · rintro ⟨record, h, -⟩
      exact ⟨record, h⟩

end AfsToken.Record
