import AfsToken.Store.Path
import AfsToken.Store.Table

/-!
# The system below a process

A process reads and writes files through its system, and adds keys to a keyring.  A run changes
files, but neither the directories and links on the way to them, nor what the system permits; these
are a parameter of all runs.  A file is read whole and written whole: writing either replaces the
content, creating the file if there is none, or changes nothing.
-/

namespace AfsToken

/-- The files that there are, by their names. -/
abbrev Directory := Table Octets

/-- What runs find on a host and do not change.  It may refuse to read or to write a file, and to
take a key, for any reason but the content. -/
structure System where
  /-- Where a path leads. -/
  locate : (path : String) → Except OsFault Path.Place
  /-- Why the file of a name is not read, if it is refused. -/
  readFault? : (name : String) → Option OsFault
  /-- Why a file of a name and of so many octets is not written among the files that there are, if
  it is refused. -/
  writeFault? : (files : Directory) → (name : String) → (size : Nat) → Option OsFault
  /-- The serial number of the key that the session keyring makes of so many octets under a
  description. -/
  addKey : (description : String) → (size : Nat) → Except OsFault Nat

/-- A system whose directories are those of a tree, which refuses no file and has no keyrings. -/
def Tree.system (tree : Tree) : System where
  locate := tree.locate
  readFault? _ := none
  writeFault? _ _ _ := none
  addKey _ _ := .error .noKeyrings

namespace System

/-- The system of a process that works in the only directory below the root. -/
def plain : System := Tree.system ⟨[["work"]], ["work"]⟩

/-- Why nothing is found below a file: a file has no entries, or there is no such file. -/
def belowFault (files : Directory) (name : String) (missing : OsFault) : OsFault :=
  if (files.get? name).isSome then .notDirectory else missing

/-- The content of the file at a path. -/
def read (system : System) (files : Directory) (path : String) : Except OsFault Octets :=
  match system.locate path with
  | .error fault => .error fault
  | .ok .directory => .error .isDirectory
  | .ok (.slashed name missing) => .error (belowFault files name missing)
  | .ok (.below name missing) => .error (belowFault files name missing)
  | .ok (.entry name) =>
      match files.get? name, system.readFault? name with
      | none, _ => .error .noEntry
      | some _, some fault => .error fault
      | some content, none => .ok content

/-- The files after a content is written to a path. -/
def write (system : System) (files : Directory) (path : String) (content : Octets) :
    Except OsFault Directory :=
  match system.locate path with
  | .error fault => .error fault
  | .ok .directory => .error .isDirectory
  | .ok (.slashed _ _) => .error .isDirectory
  | .ok (.below name missing) => .error (belowFault files name missing)
  | .ok (.entry name) =>
      match system.writeFault? files name content.length with
      | some fault => .error fault
      | none => .ok (files.put name content)

variable {system : System} {files next : Directory} {path : String} {content : Octets}

theorem read_eq_ok_iff :
    system.read files path = .ok content ↔
      ∃ name, system.locate path = .ok (.entry name) ∧ system.readFault? name = none ∧
        files.get? name = some content := by
  unfold read
  split
  case h_5 name hlocate =>
    simp only [hlocate, Except.ok.injEq, Path.Place.entry.injEq, exists_eq_left']
    cases files.get? name <;> cases system.readFault? name <;> simp
  all_goals simp [*]

/-- A write succeeds exactly at a file that the system does not refuse, and puts the content
there. -/
theorem write_eq_ok_iff :
    system.write files path content = .ok next ↔
      ∃ name, system.locate path = .ok (.entry name) ∧
        system.writeFault? files name content.length = none ∧ next = files.put name content := by
  unfold write
  split
  case h_5 name hlocate =>
    simp only [hlocate, Except.ok.injEq, Path.Place.entry.injEq, exists_eq_left']
    cases system.writeFault? files name content.length <;> simp [eq_comm]
  all_goals simp [*]

end System

/-- The content of the file at a path of the plain system. -/
def Directory.read (files : Directory) (path : String) : Except OsFault Octets :=
  System.plain.read files path

end AfsToken
