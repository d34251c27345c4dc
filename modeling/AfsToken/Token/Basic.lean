import AfsToken.Credential.CredentialFile
import AfsToken.Record
import AfsToken.SessionKey.Derivation

/-!
# Tokens

A token is a record with the description of the key it is.  It is made from the content of a
credential file for a cell: the file is read, the credential of the cell is selected, a session key
is derived from its key block, and the record of ticket and session key is encoded.  The first step
that fails ends the making, so a token that is made has passed every step.
-/

namespace AfsToken

open AfsToken.Text AfsToken.Time

/-- A record under the description of its key. -/
structure Token where
  description : String
  record : Octets
  deriving DecidableEq

namespace Token

/-- The message that tells what ticket was found.  Its end is shown in universal time, as on a host
whose local zone that is; in any other zone the message has the local time in its place. -/
def foundTicketText (path : String) (credential : Credential) : String :=
  "Found ticket in " ++ path ++ " with etype " ++ credential.key.etype.describe ++ ", expires " ++
    (Civil.ofSeconds credential.expiry.toNat).displayText

/-- The message that tells the sizes of an encoded record. -/
def sizeText (record ticket : Octets) : String :=
  "plen=" ++ Decimal.ofNat record.length ++ " tklen=" ++ Decimal.ofNat ticket.length ++ " rk=" ++
    Decimal.ofNat Record.headerSize

/-- The token that a credential from the file at a path makes for a cell. -/
def ofCredential (cell : Cell) (path : String) (credential : Credential) : Report Stop Token := do
  Report.note .info (foundTicketText path credential)
  let sessionKey ← credential.key.sessionKey.mapFault fun fault ↦ .failure (.derivation fault)
  let record ← Report.ofExcept <|
    (Record.ofTicket sessionKey credential.ticket credential.expiry).encode.mapError
      fun fault ↦ .failure (.data fault)
  Report.note .debug (sizeText record credential.ticket)
  return ⟨cell.keyDescription, record⟩

/-- The token that is made for a cell after the file at a path was read with some outcome. -/
def ofContent (cell : Cell) (path : String) (content : Except OsFault Octets) :
    Report Stop Token := do
  Report.note .info ("CELL " ++ cell.name)
  Report.note .info ("PRINC " ++ cell.principal)
  ofCredential cell path (← CredentialFile.credentialOf path content cell)

/-! ## What a token is made of -/

theorem ofCredential_eq_ok_iff {cell : Cell} {path : String} {credential : Credential}
    {token : Token} :
    (ofCredential cell path credential).outcome = .ok token ↔
      ∃ session record, credential.key.sessionKey.outcome = .ok session ∧
        (Record.ofTicket session credential.ticket credential.expiry).encode = .ok record ∧
        token = ⟨cell.keyDescription, record⟩ := by
  simp only [ofCredential, Report.outcome_note_bind, Report.bind_outcome_eq_ok_iff,
    Report.outcome_mapFault, Report.outcome_ofExcept, Report.outcome_pure,
    Report.mapError_eq_ok_iff, Except.ok.injEq]
  constructor
  · rintro ⟨session, hsession, record, hrecord, rfl⟩
    exact ⟨session, record, hsession, hrecord, rfl⟩
  · rintro ⟨session, record, hsession, hrecord, rfl⟩
    exact ⟨session, hsession, record, hrecord, rfl⟩

theorem ofContent_eq_ok_iff {cell : Cell} {path : String} {content : Except OsFault Octets}
    {token : Token} :
    (ofContent cell path content).outcome = .ok token ↔
      ∃ credential, (CredentialFile.credentialOf path content cell).outcome = .ok credential ∧
        (ofCredential cell path credential).outcome = .ok token := by
  simp only [ofContent, Report.outcome_note_bind, Report.bind_outcome_eq_ok_iff]

theorem description_of_ofContent {cell : Cell} {path : String}
    {content : Except OsFault Octets} {token : Token}
    (h : (ofContent cell path content).outcome = .ok token) :
    token.description = cell.keyDescription := by
  obtain ⟨credential, -, hcredential⟩ := ofContent_eq_ok_iff.mp h
  obtain ⟨session, record, -, -, rfl⟩ := ofCredential_eq_ok_iff.mp hcredential
  rfl

end Token

end AfsToken
