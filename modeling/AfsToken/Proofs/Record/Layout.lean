import AfsToken.Record
import Mathlib.Data.Option.Basic

/-!
# The layout of a record

A record that is written is read back by the positions of its fields.  Nothing is lost on the way:
each integer has as many octets as its type asks for, and the length field holds the number of the
octets behind the header, for a ticket that the field cannot count is refused.
-/

namespace AfsToken.Record

/-- What stands between two positions is what stands there after the octets before it. -/
theorem slice_append (before middle after : Octets) {start stop : Nat}
    (hbefore : before.length = start) (hmiddle : start + middle.length = stop) :
    slice start stop (before ++ middle ++ after) = middle := by
  subst hbefore hmiddle
  rw [slice, ← List.length_append, List.take_left, List.drop_left]

/-- The fields of the header in their order. -/
def header (record : Record) : List Octets :=
  [Octets.ofNatLE 4 record.interfaceVersion.toNat, Octets.ofNatLE 2 record.securityIndex.toNat,
   Octets.ofNatLE 2 record.ticket.length, Octets.ofNatLE 4 record.expiry.toNat,
   Octets.ofNatLE 4 record.keyVersion.toNat, record.sessionKey.octets]

/-- A record is written as its header and its ticket, if the ticket is not too long. -/
theorem encode_eq_ok_iff {record : Record} {octets : Octets} :
    record.encode = .ok octets ↔
      record.ticket.length ≤ ticketLimit ∧ octets = record.header.flatten ++ record.ticket := by
  unfold encode
  by_cases hlimit : record.ticket.length ≤ ticketLimit
  · rw [if_pos hlimit, Except.ok.injEq, and_iff_right hlimit, eq_comm]
    simp [header]
  · simp [hlimit]

section Fields

variable (record : Record)

theorem length_flatten_header : record.header.flatten.length = headerSize := by
  simp [header, record.sessionKey.length_octets, headerSize, Des.keySize]

/-- A field stands between the end of those before it and its own end. -/
theorem slice_header (index start stop : Nat) {field : Octets}
    (hfield : record.header[index]? = some field)
    (hstart : ((record.header.take index).flatten).length = start)
    (hstop : start + field.length = stop) :
    slice start stop (record.header.flatten ++ record.ticket) = field := by
  rw [Octets.flatten_eq_append_part hfield, List.append_assoc]
  exact slice_append _ _ _ hstart hstop

/-- An integer of the header is read back, for its field is wide enough. -/
theorem toNatLE_slice_header (index start stop : Nat) {width value : Nat}
    (hfield : record.header[index]? = some (Octets.ofNatLE width value))
    (hstart : ((record.header.take index).flatten).length = start) (hstop : start + width = stop)
    (hvalue : value < Octets.span width) :
    Octets.toNatLE (slice start stop (record.header.flatten ++ record.ticket)) = value := by
  have hlength : start + (Octets.ofNatLE width value).length = stop := by
    rw [Octets.length_ofNatLE, hstop]
  rw [record.slice_header index start stop hfield hstart hlength, Octets.toNatLE_ofNatLE,
    Nat.mod_eq_of_lt hvalue]

end Fields

variable {record : Record} {octets : Octets}

/-- The ticket is all that stands behind the header. -/
theorem drop_headerSize_of_encode (h : record.encode = .ok octets) :
    octets.drop headerSize = record.ticket := by
  obtain ⟨-, rfl⟩ := encode_eq_ok_iff.mp h
  rw [← record.length_flatten_header, List.drop_left]

/-- The fields of a record stand in an octet string, each at its own position. -/
structure StandsIn (record : Record) (octets : Octets) : Prop where
  interfaceVersion : Octets.toNatLE (slice 0 4 octets) = record.interfaceVersion.toNat
  securityIndex : Octets.toNatLE (slice 4 6 octets) = record.securityIndex.toNat
  ticketLength : Octets.toNatLE (slice 6 8 octets) = record.ticket.length
  expiry : Octets.toNatLE (slice 8 12 octets) = record.expiry.toNat
  keyVersion : Octets.toNatLE (slice 12 16 octets) = record.keyVersion.toNat
  sessionKey : slice 16 24 octets = record.sessionKey.octets
  ticket : octets.drop 24 = record.ticket

/-- The fields of a record that was written stand at their positions. -/
theorem standsIn_of_encode (h : record.encode = .ok octets) : record.StandsIn octets := by
  have hticket := drop_headerSize_of_encode h
  obtain ⟨hlimit, rfl⟩ := encode_eq_ok_iff.mp h
  constructor
  case interfaceVersion =>
    exact record.toNatLE_slice_header 0 0 4 rfl rfl rfl record.interfaceVersion.toNat_lt
  case securityIndex =>
    exact record.toNatLE_slice_header 1 4 6 rfl rfl rfl record.securityIndex.toNat_lt
  case ticketLength =>
    exact record.toNatLE_slice_header 2 6 8 rfl rfl rfl (Nat.lt_succ_of_le hlimit)
  case expiry => exact record.toNatLE_slice_header 3 8 12 rfl rfl rfl record.expiry.toNat_lt
  case keyVersion =>
    exact record.toNatLE_slice_header 4 12 16 rfl rfl rfl record.keyVersion.toNat_lt
  case sessionKey =>
    apply record.slice_header 5 16 24 rfl rfl
    rw [record.sessionKey.length_octets, Des.keySize]
  case ticket => exact hticket

/-- The length field holds the number of the octets behind the header. -/
theorem toNatLE_lengthField_of_encode (h : record.encode = .ok octets) :
    Octets.toNatLE (slice 6 8 octets) = (octets.drop headerSize).length := by
  rw [drop_headerSize_of_encode h]
  exact (standsIn_of_encode h).ticketLength

/-- A record that was written is read back. -/
theorem decode?_of_encode (h : record.encode = .ok octets) : decode? octets = some record := by
  have hlengthField := toNatLE_lengthField_of_encode h
  have hticket := drop_headerSize_of_encode h
  have hfields := standsIn_of_encode h
  have hkey : slice 16 headerSize octets = record.sessionKey.octets := hfields.sessionKey
  rw [decode?, hkey, SessionKey.ofOctets?_octets]
  dsimp only
  rw [(Option.guard_eq_some' ()).mpr hlengthField, hticket, hfields.interfaceVersion,
    hfields.securityIndex, hfields.expiry, hfields.keyVersion]
  simp

end AfsToken.Record
