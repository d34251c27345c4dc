import AfsToken.Kerberos
import AfsToken.Proofs.Asn1.Faults

/-!
# Faults of Kerberos messages

Where a message is not read, its octets show the fault.  Times are met only in the part of a
credential message that describes its tickets, so neither a ticket nor the message around that part
fails for an impossible one.
-/

namespace AfsToken.Kerberos

open AfsToken.Asn1 AfsToken.Octets

section Traced

variable (times : Prop)

theorem PrincipalName.traced : Traced times PrincipalName.read := by
  apply traced_sequence
  refine (traced_field 0 (traced_int32 times)).bind fun nameType ↦ ?_
  refine (traced_field 1 (traced_many (traced_text times))).bind fun components ↦ ?_
  exact .pure _

theorem EncryptedData.traced : Traced times EncryptedData.read := by
  apply traced_sequence
  refine (traced_field 0 (traced_int32 times)).bind fun etype ↦ ?_
  refine (traced_optional 1 (traced_uint32 times)).bind fun keyVersion ↦ ?_
  refine (traced_field 2 (traced_octets times)).bind fun cipher ↦ ?_
  exact .pure _

/-- A ticket has no times in the clear. -/
theorem Ticket.traced : Traced times Ticket.read := by
  apply traced_message
  apply traced_sequence
  refine (traced_field 0 (traced_int32 times)).bind fun version ↦ ?_
  refine (traced_field 1 (traced_text times)).bind fun realm ↦ ?_
  refine (traced_field 2 (PrincipalName.traced times)).bind fun service ↦ ?_
  refine (traced_field 3 (EncryptedData.traced times)).bind fun encrypted ↦ ?_
  exact .pure _

theorem EncryptionKey.traced : Traced times EncryptionKey.read := by
  apply traced_sequence
  refine (traced_field 0 (traced_int32 times)).bind fun etype ↦ ?_
  refine (traced_field 1 (traced_octets times)).bind fun octets ↦ ?_
  exact .pure _

theorem HostAddress.traced : Traced times HostAddress.read := by
  apply traced_sequence
  refine (traced_field 0 (traced_int32 times)).bind fun addressType ↦ ?_
  refine (traced_field 1 (traced_octets times)).bind fun octets ↦ ?_
  exact .pure _

theorem CredInfo.traced : Traced True CredInfo.read := by
  apply traced_sequence
  refine (traced_field 0 (EncryptionKey.traced True)).bind fun key ↦ ?_
  refine (traced_optional 1 (traced_text True)).bind fun clientRealm ↦ ?_
  refine (traced_optional 2 (PrincipalName.traced True)).bind fun client ↦ ?_
  refine (traced_optional 3 (traced_flags True)).bind fun flags ↦ ?_
  refine (traced_optional 4 traced_time).bind fun authTime ↦ ?_
  refine (traced_optional 5 traced_time).bind fun startTime ↦ ?_
  refine (traced_optional 6 traced_time).bind fun endTime ↦ ?_
  refine (traced_optional 7 traced_time).bind fun renewTill ↦ ?_
  refine (traced_optional 8 (traced_text True)).bind fun serviceRealm ↦ ?_
  refine (traced_optional 9 (PrincipalName.traced True)).bind fun service ↦ ?_
  refine (traced_optional 10 (traced_many (HostAddress.traced True))).bind fun addresses ↦ ?_
  exact .pure _

theorem CredPart.traced : Traced True CredPart.read := by
  apply traced_message
  apply traced_sequence
  refine (traced_field 0 (traced_many CredInfo.traced)).bind fun infos ↦ ?_
  refine (traced_optional 1 (traced_uint32 True)).bind fun nonce ↦ ?_
  refine (traced_optional 2 traced_time).bind fun timestamp ↦ ?_
  refine (traced_optional 3 (traced_int32 True)).bind fun microseconds ↦ ?_
  refine (traced_optional 4 (HostAddress.traced True)).bind fun sender ↦ ?_
  refine (traced_optional 5 (HostAddress.traced True)).bind fun recipient ↦ ?_
  exact .pure _

/-- A credential message has its times in its part, which is read on its own. -/
theorem CredMessage.traced : Traced times CredMessage.read := by
  apply traced_message
  apply traced_sequence
  refine (traced_field 0 (traced_int32 times)).bind fun version ↦ ?_
  refine (traced_field 1 (traced_int32 times)).bind fun messageType ↦ ?_
  refine (traced_field 2 (traced_many (Ticket.traced times))).bind fun tickets ↦ ?_
  refine (traced_field 3 (EncryptedData.traced times)).bind fun encrypted ↦ ?_
  exact .pure _

end Traced

/-! ## The part of a credential message -/

theorem EncryptedData.finds_cipher : Finds (·.cipher) EncryptedData.read := by
  apply finds_sequence
  refine .bind (traced_field 0 (traced_int32 True)).consumes fun etype ↦ ?_
  refine .bind (traced_optional 1 (traced_uint32 True)).consumes fun keyVersion ↦ ?_
  refine .bind_of_kept (finds_field 2 (finds_element Tag.octetString)) ?_
  intro cipher octets data rest h
  cases h
  rfl

/-- The part of a message stands among the octets of the message. -/
theorem CredMessage.finds_cipher : Finds (·.encrypted.cipher) CredMessage.read := by
  apply finds_message
  apply finds_sequence
  refine .bind (traced_field 0 (traced_int32 True)).consumes fun version ↦ ?_
  refine .bind (traced_field 1 (traced_int32 True)).consumes fun messageType ↦ ?_
  refine .bind (traced_field 2 (traced_many (Ticket.traced True))).consumes
    fun tickets ↦ ?_
  refine .bind_of_kept (finds_field 3 EncryptedData.finds_cipher) ?_
  intro encrypted octets message rest h
  cases h
  rfl

end AfsToken.Kerberos
