import AfsToken.Failure
import AfsToken.Text.Utf8

/-!
# Paths

A path is followed segment by segment, from the root or from the directory that a process works in.
A tree says which directories there are; what else a name may be is a file.  So a path leads to a
directory, to a file, or to something below a file, and each file has one name, however many paths
lead to it.  The name is plain in the working directory, and the whole path from the root elsewhere.
Names and paths have a greatest length.
-/

namespace AfsToken

open AfsToken.Text

namespace Path

/-- Where a path leads. -/
inductive Place
  | directory
  /-- The file of a name, whether there is one or not. -/
  | entry (name : String)
  /-- A file that is to be a directory, for a slash follows its name.  If there is no such file, the
  name is at fault. -/
  | slashed (name : String) (missing : OsFault)
  /-- Something inside a file.  If there is no such file, the name is at fault. -/
  | below (name : String) (missing : OsFault)
  deriving DecidableEq, Repr

/-- The greatest number of octets of a path. -/
def pathLimit : Nat := 4095

/-- The greatest number of octets of a name. -/
def nameLimit : Nat := 255

/-- The number of octets of a text. -/
def octetCount (text : String) : Nat := (Utf8.encode text).length

/-- The segments between the slashes of a path. -/
def segments : List Char → List (List Char)
  | [] => [[]]
  | c :: rest =>
      if c = '/' then [] :: segments rest
      else
        match segments rest with
        | [] => [[c]]
        | segment :: more => (c :: segment) :: more

/-- Whether a segment stays where it is: it is empty or a single dot. -/
def stays (segment : List Char) : Bool := segment == [] || segment == ['.']

/-- Whether a segment leads to the directory above. -/
def ascends (segment : List Char) : Bool := segment == ['.', '.']

/-- Where the name of a file leads with the segments behind it.  A name that is too long for a file
is found out only when something is looked up or made under it. -/
def ofFile (file : String) (isLong : Bool) (rest : List (List Char)) : Except OsFault Place :=
  let missing : OsFault := if isLong then .nameTooLong else .noEntry
  if rest.isEmpty then if isLong then .error .nameTooLong else .ok (.entry file)
  else if rest.all (·.isEmpty) then .ok (.slashed file missing)
  else .ok (.below file missing)

end Path

/-- The directories of a host, each by the names on the way to it from the root, and the one that a
process works in. -/
structure Tree where
  directories : List (List String)
  working : List String
  deriving DecidableEq, Repr

namespace Tree

/-- The name of the file that an entry of a directory is. -/
def fileName (tree : Tree) (directory : List String) (entry : String) : String :=
  if directory = tree.working then entry
  else String.join ((directory ++ [entry]).map ("/" ++ ·))

/-- Follows segments from a directory.  Above the root there is nothing but the root. -/
def follow (tree : Tree) (directory : List String) : List (List Char) → Except OsFault Path.Place
  | [] => .ok .directory
  | segment :: rest =>
      if Path.stays segment then follow tree directory rest
      else if Path.ascends segment then follow tree directory.dropLast rest
      else
        let entry := String.ofList segment
        if directory ++ [entry] ∈ tree.directories then follow tree (directory ++ [entry]) rest
        else
          Path.ofFile (tree.fileName directory entry) (Path.nameLimit < Path.octetCount entry) rest

/-- Where a path leads.  A path that starts with a slash starts at the root. -/
def locate (tree : Tree) (path : String) : Except OsFault Path.Place :=
  if path.toList.contains '\x00' then .error .zeroInName
  else if path = "" then .error .noEntry
  else if Path.pathLimit < Path.octetCount path then .error .nameTooLong
  else
    let start := if path.toList.head? = some '/' then [] else tree.working
    tree.follow start (Path.segments path.toList)

end Tree

end AfsToken
