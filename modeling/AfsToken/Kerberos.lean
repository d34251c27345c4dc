import AfsToken.Asn1.Element
import AfsToken.Asn1.Value
import AfsToken.Enctype
import AfsToken.Octets.Basic
import AfsToken.Time.Civil

/-!
# Kerberos messages

The messages that carry credentials from one place to another.  A credential message holds tickets
in the clear, and an encrypted part that describes each of them.  Fields that a message may leave
out are optional here.  There is one reader and one writer for each message type, which names its
fields in their order.
-/

namespace AfsToken.Kerberos

open AfsToken.Asn1 AfsToken.Time

/-! ## Messages -/

/-- The name of a client or a service. -/
structure PrincipalName where
  nameType : Int32
  components : List String
  deriving DecidableEq, Repr

/-- Octets under a key of some encryption type. -/
structure EncryptedData where
  etype : Enctype
  keyVersion : Option UInt32
  cipher : Octets
  deriving DecidableEq, Repr

structure Ticket where
  version : Int32
  realm : String
  service : PrincipalName
  encrypted : EncryptedData
  deriving DecidableEq, Repr

structure EncryptionKey where
  etype : Enctype
  octets : Octets
  deriving DecidableEq, Repr

structure HostAddress where
  addressType : Int32
  octets : Octets
  deriving DecidableEq, Repr

/-- What describes a ticket: its session key, and what the client may know of its content. -/
structure CredInfo where
  key : EncryptionKey
  clientRealm : Option String
  client : Option PrincipalName
  flags : Option UInt32
  authTime : Option Civil
  startTime : Option Civil
  endTime : Option Civil
  renewTill : Option Civil
  serviceRealm : Option String
  service : Option PrincipalName
  addresses : Option (List HostAddress)
  deriving DecidableEq, Repr

/-- The encrypted part of a credential message. -/
structure CredPart where
  infos : List CredInfo
  nonce : Option UInt32
  timestamp : Option Civil
  microseconds : Option Int32
  sender : Option HostAddress
  recipient : Option HostAddress
  deriving DecidableEq, Repr

/-- A credential message. -/
structure CredMessage where
  version : Int32
  messageType : Int32
  tickets : List Ticket
  encrypted : EncryptedData
  deriving DecidableEq, Repr

/-! ## Reading -/

def PrincipalName.read : Reader PrincipalName := readSequence do
  return {
    nameType := ← readField 0 readInt32
    components := ← readField 1 (readMany readText) }

def EncryptedData.read : Reader EncryptedData := readSequence do
  return {
    etype := ← readField 0 readInt32
    keyVersion := ← readOptional 1 readUInt32
    cipher := ← readField 2 readOctets }

def Ticket.read : Reader Ticket := readMessage 1 <| readSequence do
  return {
    version := ← readField 0 readInt32
    realm := ← readField 1 readText
    service := ← readField 2 PrincipalName.read
    encrypted := ← readField 3 EncryptedData.read }

def EncryptionKey.read : Reader EncryptionKey := readSequence do
  return {
    etype := ← readField 0 readInt32
    octets := ← readField 1 readOctets }

def HostAddress.read : Reader HostAddress := readSequence do
  return {
    addressType := ← readField 0 readInt32
    octets := ← readField 1 readOctets }

def CredInfo.read : Reader CredInfo := readSequence do
  return {
    key := ← readField 0 EncryptionKey.read
    clientRealm := ← readOptional 1 readText
    client := ← readOptional 2 PrincipalName.read
    flags := ← readOptional 3 readFlags
    authTime := ← readOptional 4 readTime
    startTime := ← readOptional 5 readTime
    endTime := ← readOptional 6 readTime
    renewTill := ← readOptional 7 readTime
    serviceRealm := ← readOptional 8 readText
    service := ← readOptional 9 PrincipalName.read
    addresses := ← readOptional 10 (readMany HostAddress.read) }

def CredPart.read : Reader CredPart := readMessage 29 <| readSequence do
  return {
    infos := ← readField 0 (readMany CredInfo.read)
    nonce := ← readOptional 1 readUInt32
    timestamp := ← readOptional 2 readTime
    microseconds := ← readOptional 3 readInt32
    sender := ← readOptional 4 HostAddress.read
    recipient := ← readOptional 5 HostAddress.read }

def CredMessage.read : Reader CredMessage := readMessage 22 <| readSequence do
  return {
    version := ← readField 0 readInt32
    messageType := ← readField 1 readInt32
    tickets := ← readField 2 (readMany Ticket.read)
    encrypted := ← readField 3 EncryptedData.read }

/-! ## Writing

Fields that are absent are left out; an empty list is kept. -/

def PrincipalName.encode (name : PrincipalName) : Octets := encodeSequence
  [encodeField 0 (encodeInt32 name.nameType), encodeField 1 (encodeMany encodeText name.components)]

def EncryptedData.encode (data : EncryptedData) : Octets := encodeSequence
  [encodeField 0 (encodeInt32 data.etype), encodeOptional 1 encodeUInt32 data.keyVersion,
   encodeField 2 (encodeOctets data.cipher)]

def Ticket.encode (ticket : Ticket) : Octets := encodeMessage 1 <| encodeSequence
  [encodeField 0 (encodeInt32 ticket.version), encodeField 1 (encodeText ticket.realm),
   encodeField 2 ticket.service.encode, encodeField 3 ticket.encrypted.encode]

def EncryptionKey.encode (key : EncryptionKey) : Octets := encodeSequence
  [encodeField 0 (encodeInt32 key.etype), encodeField 1 (encodeOctets key.octets)]

def HostAddress.encode (address : HostAddress) : Octets := encodeSequence
  [encodeField 0 (encodeInt32 address.addressType), encodeField 1 (encodeOctets address.octets)]

def CredInfo.encode (info : CredInfo) : Octets := encodeSequence
  [encodeField 0 info.key.encode,
   encodeOptional 1 encodeText info.clientRealm,
   encodeOptional 2 PrincipalName.encode info.client,
   encodeOptional 3 encodeFlags info.flags,
   encodeOptional 4 encodeTime info.authTime,
   encodeOptional 5 encodeTime info.startTime,
   encodeOptional 6 encodeTime info.endTime,
   encodeOptional 7 encodeTime info.renewTill,
   encodeOptional 8 encodeText info.serviceRealm,
   encodeOptional 9 PrincipalName.encode info.service,
   encodeOptional 10 (encodeMany HostAddress.encode) info.addresses]

def CredPart.encode (part : CredPart) : Octets := encodeMessage 29 <| encodeSequence
  [encodeField 0 (encodeMany CredInfo.encode part.infos),
   encodeOptional 1 encodeUInt32 part.nonce,
   encodeOptional 2 encodeTime part.timestamp,
   encodeOptional 3 encodeInt32 part.microseconds,
   encodeOptional 4 HostAddress.encode part.sender,
   encodeOptional 5 HostAddress.encode part.recipient]

def CredMessage.encode (message : CredMessage) : Octets := encodeMessage 22 <| encodeSequence
  [encodeField 0 (encodeInt32 message.version), encodeField 1 (encodeInt32 message.messageType),
   encodeField 2 (encodeMany Ticket.encode message.tickets),
   encodeField 3 message.encrypted.encode]

end AfsToken.Kerberos
