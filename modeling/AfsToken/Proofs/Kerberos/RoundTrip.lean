import AfsToken.Kerberos
import AfsToken.Proofs.Asn1.Times

/-!
# Messages that are read back

Each message type is read back from what is written of it.  The fields are taken one by one in their
order.  Only the times ask for something, so the messages without times are read back whatever they
hold.
-/

namespace AfsToken.Kerberos

open AfsToken.Asn1 AfsToken.Time

theorem element_ne_nil (tag : Tag) (content : Octets) : element tag content ≠ [] :=
  List.cons_ne_nil _ _

theorem PrincipalName.reads (name : PrincipalName) : Reads read name.encode name := by
  have hcomponents : Reads (readMany readText) (encodeMany encodeText name.components)
      name.components :=
    reads_many fun text _ ↦ ⟨element_ne_nil _ _, reads_text text⟩
  apply reads_sequence
  apply ReadsFields.field (Nat.le_refl 0) (by decide) (reads_int32 name.nameType)
  apply ReadsFields.field (Nat.le_refl 1) (by decide) hcomponents
  exact .done _ name

theorem EncryptedData.reads (data : EncryptedData) : Reads read data.encode data := by
  apply reads_sequence
  apply ReadsFields.field (Nat.le_refl 0) (by decide) (reads_int32 data.etype)
  apply ReadsFields.optional (Nat.le_refl 1) (by decide) fun version _ ↦ reads_uint32 version
  apply ReadsFields.field (Nat.le_refl 2) (by decide) (reads_octets data.cipher)
  exact .done _ data

theorem Ticket.reads (ticket : Ticket) : Reads read ticket.encode ticket := by
  apply reads_message (by decide)
  apply reads_sequence
  apply ReadsFields.field (Nat.le_refl 0) (by decide) (reads_int32 ticket.version)
  apply ReadsFields.field (Nat.le_refl 1) (by decide) (reads_text ticket.realm)
  apply ReadsFields.field (Nat.le_refl 2) (by decide) ticket.service.reads
  apply ReadsFields.field (Nat.le_refl 3) (by decide) ticket.encrypted.reads
  exact .done _ ticket

theorem EncryptionKey.reads (key : EncryptionKey) : Reads read key.encode key := by
  apply reads_sequence
  apply ReadsFields.field (Nat.le_refl 0) (by decide) (reads_int32 key.etype)
  apply ReadsFields.field (Nat.le_refl 1) (by decide) (reads_octets key.octets)
  exact .done _ key

theorem HostAddress.reads (address : HostAddress) : Reads read address.encode address := by
  apply reads_sequence
  apply ReadsFields.field (Nat.le_refl 0) (by decide) (reads_int32 address.addressType)
  apply ReadsFields.field (Nat.le_refl 1) (by decide) (reads_octets address.octets)
  exact .done _ address

/-- A time is written in a form that is read back. -/
def ReadsBack (time : Civil) : Prop := readTime.run (encodeTime time) = .ok (time, [])

/-- The times that the information of a ticket has. -/
def CredInfo.times (info : CredInfo) : List Civil :=
  [info.authTime, info.startTime, info.endTime, info.renewTill].flatMap Option.toList

theorem CredInfo.reads {info : CredInfo} (htimes : ∀ time ∈ info.times, ReadsBack time) :
    Reads read info.encode info := by
  have htime {field : Option Civil}
      (hfield : field ∈ [info.authTime, info.startTime, info.endTime, info.renewTill]) :
      ∀ time ∈ field, Reads readTime (encodeTime time) time := by
    intro time hmem
    exact reads_time (htimes time (List.mem_flatMap.mpr ⟨field, hfield, by simpa using hmem⟩))
  have haddresses (addresses : List HostAddress) :
      Reads (readMany HostAddress.read) (encodeMany HostAddress.encode addresses) addresses :=
    reads_many fun address _ ↦ ⟨element_ne_nil _ _, address.reads⟩
  apply reads_sequence
  apply ReadsFields.field (Nat.le_refl 0) (by decide) info.key.reads
  apply ReadsFields.optional (Nat.le_refl 1) (by decide) fun realm _ ↦ reads_text realm
  apply ReadsFields.optional (Nat.le_refl 2) (by decide) fun client _ ↦ client.reads
  apply ReadsFields.optional (Nat.le_refl 3) (by decide) fun flags _ ↦ reads_flags flags
  apply ReadsFields.optional (Nat.le_refl 4) (by decide) (htime (by simp))
  apply ReadsFields.optional (Nat.le_refl 5) (by decide) (htime (by simp))
  apply ReadsFields.optional (Nat.le_refl 6) (by decide) (htime (by simp))
  apply ReadsFields.optional (Nat.le_refl 7) (by decide) (htime (by simp))
  apply ReadsFields.optional (Nat.le_refl 8) (by decide) fun realm _ ↦ reads_text realm
  apply ReadsFields.optional (Nat.le_refl 9) (by decide) fun service _ ↦ service.reads
  apply ReadsFields.optional (Nat.le_refl 10) (by decide) fun addresses _ ↦ haddresses addresses
  exact .done _ info

/-- The part of a message is read back if its times are, those of its tickets and its own. -/
theorem CredPart.reads {part : CredPart}
    (htimes : ∀ info ∈ part.infos, ∀ time ∈ info.times, ReadsBack time)
    (htimestamp : ∀ time ∈ part.timestamp, ReadsBack time) : Reads read part.encode part := by
  have hinfos : Reads (readMany CredInfo.read) (encodeMany CredInfo.encode part.infos)
      part.infos :=
    reads_many fun info hinfo ↦ ⟨element_ne_nil _ _, CredInfo.reads (htimes info hinfo)⟩
  apply reads_message (by decide)
  apply reads_sequence
  apply ReadsFields.field (Nat.le_refl 0) (by decide) hinfos
  apply ReadsFields.optional (Nat.le_refl 1) (by decide) fun nonce _ ↦ reads_uint32 nonce
  apply ReadsFields.optional (Nat.le_refl 2) (by decide) fun time hmem ↦
    reads_time (htimestamp time hmem)
  apply ReadsFields.optional (Nat.le_refl 3) (by decide) fun count _ ↦ reads_int32 count
  apply ReadsFields.optional (Nat.le_refl 4) (by decide) fun address _ ↦ address.reads
  apply ReadsFields.optional (Nat.le_refl 5) (by decide) fun address _ ↦ address.reads
  exact .done _ part

theorem CredMessage.reads (message : CredMessage) : Reads read message.encode message := by
  have htickets : Reads (readMany Ticket.read) (encodeMany Ticket.encode message.tickets)
      message.tickets :=
    reads_many fun ticket _ ↦ ⟨element_ne_nil _ _, ticket.reads⟩
  apply reads_message (by decide)
  apply reads_sequence
  apply ReadsFields.field (Nat.le_refl 0) (by decide) (reads_int32 message.version)
  apply ReadsFields.field (Nat.le_refl 1) (by decide) (reads_int32 message.messageType)
  apply ReadsFields.field (Nat.le_refl 2) (by decide) htickets
  apply ReadsFields.field (Nat.le_refl 3) (by decide) message.encrypted.reads
  exact .done _ message

end AfsToken.Kerberos
