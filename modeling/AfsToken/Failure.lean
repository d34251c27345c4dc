import AfsToken.Asn1.Reader
import AfsToken.Enctype
import AfsToken.Octets.Hex

/-!
# Failures

A failure is one of four kinds: what was asked for cannot be done, the operating system refused,
data cannot be read or written in its format, or no session key can be derived.  Each cause is a
constructor that holds what its message shows.  The messages are written here and nowhere else.
-/

namespace AfsToken

open AfsToken.Text AfsToken.Octets

/-- What was asked for cannot be done. -/
inductive RequestFault
  | cell (value : String)
  | realm (value : String)
  | etype (value : String)
  | key (value : String) (fault : Hex.Fault)
  /-- A cache name has a type that is not a file. -/
  | cacheType (residence name : String)
  /-- A credential file has no ticket for a principal. -/
  | noTicket (principal source : String)
  /-- Anything else, in its own words. -/
  | other (text : String)
  deriving DecidableEq, Repr

def RequestFault.message : RequestFault → String
  | .cell value => "Invalid cell '" ++ value ++ "', it must be a name like example.com"
  | .realm value => "Invalid realm '" ++ value ++ "', it must be a name like EXAMPLE.COM"
  | .etype value =>
      "Incorrect value '" ++ value ++ "' must be a signed integer of 32 bits (i32)"
  | .key value fault =>
      "Invalid key '" ++ value ++ "', must be a string of hexadecimals: " ++ fault.message
  | .cacheType residence name =>
      "Unsupported credentials cache type '" ++ residence ++ "' of '" ++ name ++
        "', only FILE caches can be read"
  | .noTicket principal source =>
      "No ticket for " ++ principal ++ " found in " ++ source ++
        ", request one with kinit/kvno"
  | .other text => text

/-- Why the operating system refused. -/
inductive OsFault
  /-- The number of an error of the system. -/
  | code (number : Nat)
  /-- A file name contains a zero character. -/
  | zeroInName
  /-- The host has no keyrings. -/
  | noKeyrings
  deriving DecidableEq, Repr

namespace OsFault

def noEntry : OsFault := .code 2

def notDirectory : OsFault := .code 20

def isDirectory : OsFault := .code 21

def nameTooLong : OsFault := .code 36

/-- The texts of the errors of the system. -/
def codeTexts : List (Nat × String) :=
  [(1, "Operation not permitted"), (2, "No such file or directory"), (13, "Permission denied"),
   (17, "File exists"), (20, "Not a directory"), (21, "Is a directory"),
   (28, "No space left on device"), (36, "File name too long")]

def message : OsFault → String
  | .code number =>
      (codeTexts.lookup number).getD ("Unknown error " ++ Decimal.ofNat number) ++
        " (os error " ++ Decimal.ofNat number ++ ")"
  | .zeroInName => "file name contained an unexpected NUL byte"
  | .noKeyrings => "kernel keyrings are only available on Linux"

end OsFault

/-- What the operating system was asked to do. -/
inductive OsAction
  | read (path : String)
  | write (path : String)
  | addKey (description : String)
  /-- Anything else, in its own words. -/
  | other (text : String)
  deriving DecidableEq, Repr

def OsAction.message : OsAction → String
  | .read path => "Unable to read the file '" ++ path ++ "'"
  | .write path => "Unable to write key payload in file " ++ path
  | .addKey description => "Unable to add key '" ++ description ++ "'"
  | .other text => text

/-- Data that cannot be read or written in its format. -/
inductive DataFault
  /-- A file is in neither of the two formats of credentials. -/
  | credentialFile (path : String)
  /-- The credentials of a message are encrypted. -/
  | encrypted
  /-- The part of a message that describes its tickets is malformed. -/
  | credentialPart
  | noEndTime
  | endTimeOutOfRange (seconds : Int)
  /-- A ticket has more octets than a record can hold. -/
  | ticketTooLong (length limit : Nat)
  | keyDescription (description : String)
  /-- Anything else, in its own words. -/
  | other (text : String)
  deriving DecidableEq, Repr

def DataFault.message : DataFault → String
  | .credentialFile path => "Error parsing content of ccache/krb file '" ++ path ++ "'"
  | .encrypted => "Unable to decrypt the credentials"
  | .credentialPart => "Error parsing credentials: EncKrbCredPart"
  | .noEndTime => "Ticket without end time"
  | .endTimeOutOfRange seconds =>
      "Ticket end time " ++ Decimal.ofInt seconds ++ " out of range"
  | .ticketTooLong length limit =>
      "Ticket too long for rxkad (" ++ Decimal.ofNat length ++ " octets, " ++
        Decimal.ofNat limit ++ " allowed)"
  | .keyDescription description => "Invalid key description '" ++ description ++ "'"
  | .other text => text

/-- Why a key block gives no session key. -/
inductive DerivationFault
  /-- A single DES key must have eight octets, a Triple-DES key a multiple of eight. -/
  | invalidKeyLength (etype : Enctype) (length : Nat)
  /-- The encryption type has no symmetric key, or is a private assignment. -/
  | unsupported (etype : Enctype)
  /-- The encryption type is excluded for its weakness. -/
  | deprecated (etype : Enctype)
  /-- The key block has fewer octets than the derivation asks for. -/
  | keyTooShort (length : Nat)
  /-- The pseudorandom function failed. -/
  | primitive (detail : String)
  /-- Every counter gave a weak key. -/
  | exhausted
  deriving DecidableEq, Repr

def DerivationFault.message : DerivationFault → String
  | .invalidKeyLength etype length =>
      "Session key of enc type (" ++ Decimal.ofInt etype.toInt ++ ") has invalid length (" ++
        Decimal.ofNat length ++ " octets)"
  | .unsupported etype =>
      "Ticket contains unsupported enc type (" ++ Decimal.ofInt etype.toInt ++ ")"
  | .deprecated etype =>
      "Ticket contains deprecated enc type (" ++ Decimal.ofInt etype.toInt ++ ")"
  | .keyTooShort length => "Ticket contains short key block (" ++ Decimal.ofNat length ++ ")"
  | .primitive detail => "HMAC: " ++ detail
  | .exhausted => "Unable to derive strong DES key"

/-- Why something failed. -/
inductive Failure
  | request (fault : RequestFault)
  | os (action : OsAction) (fault : OsFault)
  | data (fault : DataFault)
  | derivation (fault : DerivationFault)
  deriving DecidableEq, Repr

namespace Failure

def message : Failure → String
  | .request fault => fault.message
  | .os action fault => action.message ++ ": " ++ fault.message
  | .data fault => fault.message
  | .derivation fault => fault.message

/-- Whether a file was not found. -/
def isNotFound : Failure → Bool
  | .os _ fault => fault == OsFault.noEntry
  | _ => false

/-- Whether data was at fault. -/
def isData : Failure → Bool
  | .data _ => true
  | _ => false

end Failure

/-- Why a run stops before its end. -/
inductive Stop
  | failure (failure : Failure)
  /-- A credential names a date or a time of day that does not exist, or a field of it overruns its
  sequence.  The run breaks off at once and reports nothing more. -/
  | breakdown
  deriving DecidableEq, Repr

/-- Why a run stops if octets are not read.  Malformed octets are a failure, and any other fault of
them breaks the run off. -/
def Stop.ofFault (failure : Failure) : Asn1.Fault → Stop
  | .malformed => .failure failure
  | .noSuchTime => .breakdown
  | .overrun => .breakdown

end AfsToken
