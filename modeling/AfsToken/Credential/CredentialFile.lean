import AfsToken.Ccache
import AfsToken.Credential.Basic

/-!
# Credential files

A credential file is a cache or a credential message.  Whatever can be read as a cache is one; all
other files are read as a message.  Either kind finds the credential of a cell by its own rule of
selection.  That a cell has no credential is a failure which names the file.
-/

namespace AfsToken

open AfsToken.Asn1 AfsToken.Ccache AfsToken.Kerberos AfsToken.Text

/-- The formats of credential files. -/
inductive CredentialFormat
  | message
  | cache
  deriving DecidableEq, Repr

/-- The name of a format in messages. -/
def CredentialFormat.text : CredentialFormat → String
  | .message => "krb"
  | .cache => "ccache"

/-- What a diagnostic shows of a format. -/
def CredentialFormat.diagnostic : CredentialFormat → String
  | .message => "Krb"
  | .cache => "Ccache"

/-- What a credential file holds. -/
inductive CredentialFile
  | ofCache (cache : Cache)
  | ofMessage (tickets : DescribedTickets)
  deriving DecidableEq

namespace CredentialFile

/-- The format of a file. -/
def format : CredentialFile → CredentialFormat
  | .ofCache _ => .cache
  | .ofMessage _ => .message

/-- The number of credentials of a file. -/
def count : CredentialFile → Nat
  | .ofCache cache => cache.entries.length
  | .ofMessage tickets => tickets.length

/-- The tickets of the message at the front of an octet string.  The path is for the failure. -/
def readMessage (path : String) (content : Octets) : Except Stop DescribedTickets :=
  match Reader.front CredMessage.read content with
  | .error fault => .error (Stop.ofFault (.data (.credentialFile path)) fault)
  | .ok message => DescribedTickets.ofMessage message

/-- What the content of a file at a path holds. -/
def read (path : String) (content : Octets) : Except Stop CredentialFile :=
  match Cache.ofOctets? content with
  | some cache => .ok (.ofCache cache)
  | none => ofMessage <$> readMessage path content

/-- The message that tells how many credentials a file holds. -/
def readText (path : String) (file : CredentialFile) : String :=
  "Read " ++ Decimal.ofNat file.count ++ " credentials from " ++ path ++ " with " ++
    file.format.text ++ " format"

/-- The credential that tickets have for a cell. -/
def selectTicket (tickets : DescribedTickets) (cell : Cell) : Report Stop (Option Credential) := do
  let found := tickets.forCell cell
  Report.note .debug (foundText found.length cell)
  match found.latest with
  | none => return none
  | some entry =>
      some <$> Report.ofExcept (entry.credential.mapError fun fault ↦ .failure (.data fault))

/-- The credential that a file has for a cell. -/
def select (file : CredentialFile) (cell : Cell) : Report Stop (Option Credential) :=
  match file with
  | .ofCache cache => cache.select cell
  | .ofMessage tickets => selectTicket tickets cell

/-- The credential that a file at a path has for a cell.  There must be one. -/
def credential (path : String) (file : CredentialFile) (cell : Cell) : Report Stop Credential := do
  Report.note .info (file.readText path)
  match ← file.select cell with
  | some credential => return credential
  | none => Report.fail (.failure (.request (.noTicket cell.principal path)))

/-- The credential for a cell after the file at a path was read with some outcome. -/
def credentialOf (path : String) (content : Except OsFault Octets) (cell : Cell) :
    Report Stop Credential := do
  let octets ← Report.ofExcept (content.mapError fun fault ↦ .failure (.os (.read path) fault))
  let file ← Report.ofExcept (read path octets)
  file.credential path cell

end CredentialFile

end AfsToken
