import AfsToken.Octets.Integer

/-!
# Credential caches

A cache file names its owner and holds entries.  An entry is a ticket with its session key, the
client and the service it is for, and its times.  All names are octet strings here; how they are
compared is not a matter of the format.
-/

namespace AfsToken.Ccache

/-- The name of a client or a service in a realm. -/
structure Principal where
  nameType : UInt32
  realm : Octets
  components : List Octets
  deriving DecidableEq, Repr

/-- Octets of some type: an address, or a part of the authorization data. -/
structure TypedData where
  dataType : UInt16
  octets : Octets
  deriving DecidableEq, Repr

/-- A credential of a cache. -/
structure Entry where
  client : Principal
  service : Principal
  keyType : UInt16
  key : Octets
  authTime : UInt32
  startTime : UInt32
  endTime : UInt32
  renewTill : UInt32
  isSessionKey : UInt8
  flags : UInt32
  addresses : List TypedData
  authorization : List TypedData
  ticket : Octets
  secondTicket : Octets
  deriving DecidableEq, Repr

/-- The content of a cache file. -/
structure Cache where
  header : TypedData
  owner : Principal
  entries : List Entry
  deriving DecidableEq, Repr

/-! ## Reading a cache file

Integers have their most significant octet first.  A file starts with the version of the format and
one header field; the owner follows, and then entries up to the end.  There are two ways to fail: an
integer is cut short by the end of the file, or a string is shorter than its announced length.  An
integer that is cut short ends the list of entries, which is how a file ends, and the entry it
belongs to is left out.  Any other failure makes the file unreadable. -/

/-- Why a part of a file is not read. -/
inductive Fault
  /-- The file ends within an integer. -/
  | endOfFile
  /-- The file ends within a string, or it has another version. -/
  | unreadable
  deriving DecidableEq, Repr

/-- Takes a value off the front of a file. -/
abbrev Reader := StateT Octets (Except Fault)

/-- Takes so many octets, and fails in a given way if there are fewer. -/
def take (count : Nat) (fault : Fault) : Reader Octets := do
  let octets ← get
  let front := octets.take count
  if front.length < count then throw fault
  set (octets.drop count)
  return front

/-- An integer of so many octets. -/
def readInteger (width : Nat) : Reader Nat := Octets.toNatBE <$> take width .endOfFile

def readUInt8 : Reader UInt8 := UInt8.ofNat <$> readInteger 1

def readUInt16 : Reader UInt16 := UInt16.ofNat <$> readInteger 2

def readUInt32 : Reader UInt32 := UInt32.ofNat <$> readInteger 4

/-- A string behind its length in 32 bits. -/
def readData : Reader Octets := do take (← readInteger 4) .unreadable

/-- A string behind its length in 16 bits. -/
def readShortData : Reader Octets := do take (← readInteger 2) .unreadable

/-- So many values, one behind the other. -/
def readCount {α : Type} (reader : Reader α) : Nat → Reader (List α)
  | 0 => return []
  | count + 1 => do
      let value ← reader
      return value :: (← readCount reader count)

/-- Values behind their number. -/
def readCounted {α : Type} (reader : Reader α) : Reader (List α) := do
  readCount reader (← readInteger 4)

def Principal.read : Reader Principal := do
  let nameType ← readUInt32
  let count ← readInteger 4
  let realm ← readData
  return { nameType, realm, components := ← readCount readData count }

def TypedData.read : Reader TypedData := do
  return { dataType := ← readUInt16, octets := ← readData }

def Entry.read : Reader Entry := do
  let client ← Principal.read
  let service ← Principal.read
  let keyType ← readUInt16
  let _ ← readUInt16
  return {
    client, service, keyType
    key := ← readShortData
    authTime := ← readUInt32
    startTime := ← readUInt32
    endTime := ← readUInt32
    renewTill := ← readUInt32
    isSessionKey := ← readUInt8
    flags := ← readUInt32
    addresses := ← readCounted TypedData.read
    authorization := ← readCounted TypedData.read
    ticket := ← readData
    secondTicket := ← readData }

/-- The entries up to the end of the file.  An entry takes at least one octet. -/
def readEntries (octets : Octets) : Except Fault (List Entry) :=
  match Entry.read.run octets with
  | .error .endOfFile => .ok []
  | .error .unreadable => .error .unreadable
  | .ok (entry, rest) =>
      if _ : rest.length < octets.length then (entry :: ·) <$> readEntries rest
      else .error .unreadable
termination_by octets.length

/-- The version of the format. -/
def formatVersion : Octets := [5, 4]

/-- The header: the version, its length, which is not looked at, and one field. -/
def readHeader : Reader TypedData := do
  if (← take 2 .unreadable) ≠ formatVersion then throw .unreadable
  let _ ← readUInt16
  return { dataType := ← readUInt16, octets := ← readShortData }

/-- Everything in front of the entries. -/
def readStart : Reader (TypedData × Principal) := do
  let header ← readHeader
  return (header, ← Principal.read)

/-- The cache that a file holds, if the file can be read. -/
def Cache.ofOctets? (octets : Octets) : Option Cache :=
  match readStart.run octets with
  | .error _ => none
  | .ok ((header, owner), rest) =>
      match readEntries rest with
      | .error _ => none
      | .ok entries => some { header, owner, entries }

end AfsToken.Ccache
