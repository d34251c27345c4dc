import AfsToken.Ccache
import AfsToken.Cell
import AfsToken.Failure
import AfsToken.Kerberos
import AfsToken.Report
import AfsToken.SessionKey.Basic

/-!
# Credentials and their selection

A credential is what a run takes out of a credential file for a cell: a key block, the encoded
ticket, and the end of its validity.  In either format of files, the tickets that serve the cell are
chosen first.  The one that ends last is taken, and of several that end last the last one.
-/

namespace AfsToken

open AfsToken.Asn1 AfsToken.Kerberos AfsToken.Text

/-! ## Credentials -/

/-- The credential of a cell. -/
structure Credential where
  key : KeyMaterial
  ticket : Octets
  /-- The end of the validity in seconds since the start of 1970. -/
  expiry : UInt32
  deriving DecidableEq

/-- The later of two elements by their keys, and the second of two with equal keys. -/
def laterBy {α κ : Type} (key : α → κ) (le : κ → κ → Bool) (first second : α) : α :=
  if le (key first) (key second) then second else first

/-- Among the elements whose key no other exceeds, the last one. -/
def lastMaximum {α κ : Type} (key : α → κ) (le : κ → κ → Bool) : List α → Option α
  | [] => none
  | first :: rest => some (rest.foldl (laterBy key le) first)

/-! ## Entries of a cache

An entry serves a cell if its service is that of the cell, compared without regard to the case of
ASCII letters, and if its ticket can be read.  The entries in which the cache keeps its own
configuration never do.  The ticket is passed on as it is stored.  A ticket with a fault other than
malformed octets breaks the selection off. -/

namespace Ccache

/-- The realm of the entries that hold configuration: the octets of `X-CACHECONF:`. -/
def configurationRealm : Octets :=
  [0x58, 0x2D, 0x43, 0x41, 0x43, 0x48, 0x45, 0x43, 0x4F, 0x4E, 0x46, 0x3A]

namespace Entry

/-- Whether an entry holds configuration. -/
def isConfiguration (entry : Entry) : Bool := entry.service.realm == configurationRealm

/-- Whether octets write a text, up to the case of ASCII letters. -/
def names (octets : Octets) (text : String) : Bool :=
  Casing.sameAscii (Utf8.decodeLossy octets) text

/-- Whether the service of an entry is that of a cell. -/
def isFor (cell : Cell) (entry : Entry) : Bool :=
  names entry.service.realm cell.realm &&
    entry.service.components.length == cell.service.length &&
    (entry.service.components.zip cell.service).all fun (component, part) ↦ names component part

/-- The ticket at the front of the stored octets. -/
def readTicket (entry : Entry) : Except Asn1.Fault Kerberos.Ticket :=
  Asn1.Reader.front Kerberos.Ticket.read entry.ticket

/-- Whether a ticket can be read at the front of the stored octets. -/
def hasTicket (entry : Entry) : Bool := entry.readTicket.isOk

/-- Whether an entry can be selected for a cell. -/
def IsEligible (cell : Cell) (entry : Entry) : Prop :=
  entry.isConfiguration = false ∧ entry.isFor cell = true ∧ entry.hasTicket = true

instance (cell : Cell) (entry : Entry) : Decidable (entry.IsEligible cell) := by
  unfold IsEligible
  infer_instance

/-- The credential of an entry.  The 16 bits of its key type are a signed number. -/
def credential (entry : Entry) : Credential where
  key := ⟨entry.keyType.toInt16.toInt32, entry.key⟩
  ticket := entry.ticket
  expiry := entry.endTime

end Entry

/-- The entries that can be selected for a cell.  An entry for the cell whose ticket is malformed is
mentioned in the log. -/
def eligible (cell : Cell) : List Entry → Report Stop (List Entry)
  | [] => return []
  | entry :: rest =>
      if entry.isConfiguration || !entry.isFor cell then eligible cell rest
      else match entry.readTicket with
        | .ok _ => do return entry :: (← eligible cell rest)
        | .error .malformed => do
            Report.note .debug ("Skip entry of " ++ cell.principal ++ " with invalid ticket")
            eligible cell rest
        | .error _ => Report.fail .breakdown

/-- The message that tells how many tickets were found for a cell. -/
def foundText (count : Nat) (cell : Cell) : String :=
  "Found " ++ Decimal.ofNat count ++ " tickets for " ++ cell.principal

/-- The credential that a cache has for a cell. -/
def Cache.select (cache : Cache) (cell : Cell) : Report Stop (Option Credential) := do
  let entries ← eligible cell cache.entries
  Report.note .debug (foundText entries.length cell)
  return (lastMaximum Entry.endTime (fun left right ↦ left ≤ right) entries).map Entry.credential

end Ccache

/-! ## Tickets of a message

Each ticket of a credential message goes with the information at the same place of its encrypted
part.  Services are compared in lower case.  A list of tickets is written as a message again, whose
part is not encrypted. -/

/-- A ticket with the information that describes it. -/
structure DescribedTicket where
  ticket : Ticket
  info : CredInfo
  deriving DecidableEq, Repr

namespace DescribedTicket

/-- Whether a list of components is another one, component by component in lower case. -/
def sameComponents (left right : List String) : Bool :=
  left.length == right.length && (left.zip right).all fun (l, r) ↦ Casing.sameLower l r

/-- Whether the service of a ticket is in a realm. -/
def isInRealm (realm : String) (entry : DescribedTicket) : Bool :=
  entry.info.serviceRealm.any (Casing.sameLower · realm)

/-- Whether the service of a ticket has a name. -/
def isForService (components : List String) (entry : DescribedTicket) : Bool :=
  entry.info.service.any (sameComponents ·.components components)

/-- The end of the validity in seconds since the start of 1970, if it is known. -/
def endSeconds (entry : DescribedTicket) : Option Int := entry.info.endTime.map (·.toSeconds)

/-- Whether one end is not later than another.  An unknown end comes before every known one. -/
def endsBy : Option Int → Option Int → Bool
  | none, _ => true
  | some _, none => false
  | some left, some right => left ≤ right

/-- The credential of a ticket.  Its end must be known and fit 32 bits. -/
def credential (entry : DescribedTicket) : Except DataFault Credential :=
  match entry.endSeconds with
  | none => .error .noEndTime
  | some seconds =>
      if 0 ≤ seconds ∧ seconds < UInt32.size then
        .ok {
          key := ⟨entry.info.key.etype, entry.info.key.octets⟩
          ticket := entry.ticket.encode
          expiry := UInt32.ofNat seconds.toNat }
      else .error (.endTimeOutOfRange seconds)

end DescribedTicket

/-- The tickets of a credential message with their information. -/
abbrev DescribedTickets := List DescribedTicket

namespace DescribedTickets

/-- The encryption type of a part that is not encrypted. -/
def plain : Enctype := Enctype.null

/-- The version of the protocol in a message. -/
def protocolVersion : Int32 := 5

/-- The number of the type of a credential message. -/
def messageType : Int32 := 22

/-- Tickets with their information, place by place. -/
def pair (tickets : List Ticket) (infos : List CredInfo) : DescribedTickets :=
  (tickets.zip infos).map fun (ticket, info) ↦ ⟨ticket, info⟩

/-- The tickets of a message.  Its part must not be encrypted. -/
def ofMessage (message : CredMessage) : Except Stop DescribedTickets :=
  if message.encrypted.etype ≠ plain then .error (.failure (.data .encrypted))
  else
    match Reader.front CredPart.read message.encrypted.cipher with
    | .error fault => .error (Stop.ofFault (.data .credentialPart) fault)
    | .ok part => .ok (pair message.tickets part.infos)

/-- The part that describes the tickets. -/
def toPart (entries : DescribedTickets) : CredPart where
  infos := entries.map (·.info)
  nonce := none
  timestamp := none
  microseconds := none
  sender := none
  recipient := none

/-- The message of some tickets. -/
def toMessage (entries : DescribedTickets) : CredMessage where
  version := protocolVersion
  messageType := messageType
  tickets := entries.map (·.ticket)
  encrypted := { etype := plain, keyVersion := none, cipher := entries.toPart.encode }

/-- The tickets whose service is in a realm. -/
def inRealm (realm : String) (entries : DescribedTickets) : DescribedTickets :=
  entries.filter (·.isInRealm realm)

/-- The tickets whose service has a name. -/
def forService (components : List String) (entries : DescribedTickets) : DescribedTickets :=
  entries.filter (·.isForService components)

/-- The tickets of the service of a cell. -/
def forCell (cell : Cell) (entries : DescribedTickets) : DescribedTickets :=
  (entries.inRealm cell.realm).forService cell.service

/-- The ticket that ends last. -/
def latest (entries : DescribedTickets) : Option DescribedTicket :=
  lastMaximum DescribedTicket.endSeconds DescribedTicket.endsBy entries

end DescribedTickets

end AfsToken
