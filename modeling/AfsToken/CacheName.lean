import AfsToken.Failure
import AfsToken.Text.Casing.Basic

/-!
# Names of credential caches

A cache name may start with the type of the cache and a colon.  Only files can be read, so the type
must be `FILE`, in any case of its letters.  What stands before a colon is no type if it contains a
slash: then the whole name is a path.  The name is taken from the command line, or from the
environment, or it is the default path of the user.

A host describes the environment of a process in two blocks of octets: its variables, each ended by
a zero octet, and a list of lines that state its properties.
-/

namespace AfsToken

open AfsToken.Text

/-- What the environment tells: the octets of the variable that names the cache, if it is set, and
the number of the user. -/
structure Environment where
  cacheName : Option Octets
  user : Nat
  deriving DecidableEq, Repr

namespace Environment

/-- The pieces of an octet string that are ended by a separator, and what follows the last one. -/
def pieces (separator : UInt8) : Octets → List Octets
  | [] => [[]]
  | octet :: rest =>
      if octet = separator then [] :: pieces separator rest
      else
        match pieces separator rest with
        | [] => [[octet]]
        | piece :: more => (octet :: piece) :: more

/-- What follows a key at the front of the first piece that starts with it. -/
def valueOf (key : String) (pieces : List Octets) : Option Octets :=
  pieces.findSome? fun piece ↦
    if (Utf8.encode key).isPrefixOf piece then some (piece.drop (Utf8.encode key).length) else none

/-- The name of the variable that names the cache, with the sign behind it. -/
def cacheVariable : String := "KRB5CCNAME="

/-- The start of the line that states the user. -/
def userLine : String := "Uid:"

/-- The first number in a line, or zero if there is none. -/
def firstNumber (line : Octets) : Nat :=
  let digits := (line.map fun octet ↦ Decimal.digitValue? (Char.ofNat octet.toNat)).dropWhile
    (·.isNone)
  (digits.takeWhile (·.isSome)).foldl (fun value digit ↦ 10 * value + digit.getD 0) 0

/-- The environment that the variables and the properties of a process describe. -/
def ofProcess (settings status : Octets) : Environment where
  cacheName := valueOf cacheVariable (pieces 0 settings)
  user := firstNumber ((valueOf userLine (pieces 10 status)).getD [])

end Environment

namespace CacheName

/-- The type of the caches that are files. -/
def fileType : String := "FILE"

/-- A name as the part before its first colon and the part behind it. -/
def splitColon (name : String) : Option (String × String) :=
  match name.toList.span (· != ':') with
  | (_, []) => none
  | (residence, _ :: path) => some (String.ofList residence, String.ofList path)

/-- Whether a text is the type of a file cache. -/
def isFileType (residence : String) : Bool := Casing.sameAscii residence fileType

/-- The path of the cache of a name. -/
def path (name : String) : Except RequestFault String :=
  match splitColon name with
  | none => .ok name
  | some (residence, path) =>
      if residence.toList.contains '/' then .ok name
      else if isFileType residence then .ok path
      else .error (.cacheType residence name)

/-- The path of the cache of a user who names none. -/
def defaultPath (user : Nat) : String := "/tmp/krb5cc_" ++ Decimal.ofNat user

/-- The name that the environment gives.  Octets that write no text are no name. -/
def ofEnvironment (environment : Environment) : Option String :=
  environment.cacheName.bind Utf8.decode?

/-- The path of the cache to read. -/
def resolve (argument : Option String) (environment : Environment) :
    Except RequestFault String :=
  match argument.or (ofEnvironment environment) with
  | some name => path name
  | none => .ok (defaultPath environment.user)

end CacheName

end AfsToken
