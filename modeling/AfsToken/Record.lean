import AfsToken.Failure
import AfsToken.Octets.Integer
import AfsToken.SessionKey.Basic

/-!
# Token records

The record that the kernel takes as a key for rxkad.  Its header of 24 octets holds five integers,
least significant octet first, and the session key; the ticket follows.  The third integer is the
length of the ticket in 16 bits, so a longer ticket has no record.  A record is read back by the
same layout.
-/

namespace AfsToken

/-- The fields of a token record. -/
structure Record where
  interfaceVersion : UInt32
  securityIndex : UInt16
  expiry : UInt32
  keyVersion : UInt32
  sessionKey : SessionKey
  ticket : Octets
  deriving DecidableEq

namespace Record

/-- The octets in front of the ticket. -/
def headerSize : Nat := 16 + Des.keySize

/-- The longest ticket that a record can hold. -/
def ticketLimit : Nat := 65535

/-- The record of a Kerberos 5 ticket: the first version of the interface, the security index of
rxkad, and the key version that marks such a ticket. -/
def ofTicket (sessionKey : SessionKey) (ticket : Octets) (expiry : UInt32) : Record where
  interfaceVersion := 1
  securityIndex := 2
  expiry := expiry
  keyVersion := 256
  sessionKey := sessionKey
  ticket := ticket

/-- The number of octets of a record. -/
def size (record : Record) : Nat := headerSize + record.ticket.length

/-- The octets of a record. -/
def encode (record : Record) : Except DataFault Octets :=
  if record.ticket.length ≤ ticketLimit then
    .ok <| Octets.ofNatLE 4 record.interfaceVersion.toNat ++
      Octets.ofNatLE 2 record.securityIndex.toNat ++ Octets.ofNatLE 2 record.ticket.length ++
      Octets.ofNatLE 4 record.expiry.toNat ++ Octets.ofNatLE 4 record.keyVersion.toNat ++
      record.sessionKey.octets ++ record.ticket
  else .error (.ticketTooLong record.ticket.length ticketLimit)

/-- The octets of a string from one position up to another. -/
def slice (start stop : Nat) (octets : Octets) : Octets := (octets.take stop).drop start

/-- The record that an octet string writes, if the length field tells the number of octets behind
the header. -/
def decode? (octets : Octets) : Option Record := do
  let sessionKey ← SessionKey.ofOctets? (slice 16 headerSize octets)
  let ticket := octets.drop headerSize
  guard (Octets.toNatLE (slice 6 8 octets) = ticket.length)
  return {
    interfaceVersion := UInt32.ofNat (Octets.toNatLE (slice 0 4 octets))
    securityIndex := UInt16.ofNat (Octets.toNatLE (slice 4 6 octets))
    expiry := UInt32.ofNat (Octets.toNatLE (slice 8 12 octets))
    keyVersion := UInt32.ofNat (Octets.toNatLE (slice 12 16 octets))
    sessionKey, ticket }

end Record

end AfsToken
