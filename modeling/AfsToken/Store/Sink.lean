import AfsToken.Action
import AfsToken.Store.System

/-!
# Where records go

A key store takes records under descriptions, and changes some state by that.  A record is stored in
a file, in a table of keys, or in the session keyring of the host.  What is in that keyring is no
part of a store: only its answer is seen.  No host takes a description with a zero character.
-/

namespace AfsToken

open AfsToken.Text

/-- What takes records, over some state. -/
structure KeyStore (σ : Type) where
  name : String
  add : (description : String) → (record : Octets) → Action σ Failure Unit

/-- A place for records. -/
inductive Sink
  | file (path : String)
  | memory
  | sessionKeyring
  deriving DecidableEq, Repr

/-- The name of a sink in messages. -/
def Sink.name : Sink → String
  | .file path => path
  | .memory => "memory"
  | .sessionKeyring => "session keyring"

/-- The files and the keys that runs read and change. -/
structure Store where
  files : Directory
  keys : Table Octets
  deriving DecidableEq, Repr

namespace Store

/-- The message that tells what was written to a file. -/
def writtenText (path description : String) (size : Nat) : String :=
  "Wrote " ++ Decimal.ofNat size ++ " octets of " ++ description ++ " key in " ++ path

/-- What is reported of writing a record to a file, which had some outcome. -/
def reportWrite (path description : String) (size : Nat) (outcome : Except OsFault Unit) :
    Report Failure Unit := do
  Report.ofExcept (outcome.mapError (.os (.write path)))
  Report.note .debug (writtenText path description size)

/-- The type of the keys that the session keyring takes. -/
def keyType : String := "rxrpc"

/-- The message that tells what key was added. -/
def addedText (description : String) (serial : Nat) : String :=
  "Added " ++ keyType ++ " key " ++ description ++ " with serial " ++ Decimal.ofNat serial

/-- What is reported of adding a key to the session keyring, which has some outcome if it is
tried. -/
def reportKey (description : String) (outcome : Except OsFault Nat) : Report Failure Unit :=
  if description.toList.contains '\x00' then Report.fail (.data (.keyDescription description))
  else do
    let serial ← Report.ofExcept (outcome.mapError (.os (.addKey description)))
    Report.note .debug (addedText description serial)

/-- What is reported of a write tells its outcome. -/
theorem outcome_reportWrite (path description : String) (size : Nat)
    (outcome : Except OsFault Unit) :
    (reportWrite path description size outcome).outcome = outcome.mapError (.os (.write path)) := by
  cases outcome <;> rfl

theorem outcome_reportKey_eq_ok_iff {description : String} {outcome : Except OsFault Nat} :
    (reportKey description outcome).outcome = .ok () ↔
      '\x00' ∉ description.toList ∧ ∃ serial, outcome = .ok serial := by
  unfold reportKey
  split
  next hzero =>
    refine iff_of_false (fun h ↦ by cases h) fun h ↦ h.1 (List.contains_iff_mem.mp hzero)
  next hzero =>
    rw [List.contains_iff_mem] at hzero
    cases outcome with
    | error fault => exact iff_of_false (fun h ↦ by cases h) fun ⟨_, _, h⟩ ↦ by cases h
    | ok serial => exact iff_of_true rfl ⟨hzero, serial, rfl⟩

end Store

namespace System

/-- Writes a content to a file. -/
def writeFile (system : System) (path : String) (content : Octets) (store : Store) :
    Except OsFault Unit × Store :=
  match system.write store.files path content with
  | .ok files => (.ok (), { store with files })
  | .error fault => (.error fault, store)

/-- Adds a record to a sink. -/
def add (system : System) (sink : Sink) (description : String) (record : Octets) :
    Action Store Failure Unit := fun store ↦
  match sink with
  | .file path =>
      let (outcome, store) := system.writeFile path record store
      (Store.reportWrite path description record.length outcome, store)
  | .memory => (pure (), { store with keys := store.keys.put description record })
  | .sessionKeyring =>
      (Store.reportKey description (system.addKey description record.length), store)

/-- A sink as a key store. -/
def keyStore (system : System) (sink : Sink) : KeyStore Store := ⟨sink.name, system.add sink⟩

/-- Whether a sink takes so many octets under a description. -/
def Takes (system : System) (store : Store) (description : String) (size : Nat) : Sink → Prop
  | .file path => ∃ name, system.locate path = .ok (.entry name) ∧
      system.writeFault? store.files name size = none
  | .memory => True
  | .sessionKeyring => '\x00' ∉ description.toList ∧
      ∃ serial, system.addKey description size = .ok serial

variable {system : System} {sink : Sink} {description path : String} {record : Octets}
  {store next : Store}

theorem writeFile_eq_ok_iff :
    system.writeFile path record store = (.ok (), next) ↔
      ∃ files, system.write store.files path record = .ok files ∧ next = { store with files } := by
  unfold writeFile
  cases system.write store.files path record with
  | ok files => simp [eq_comm]
  | error fault => simp

theorem left_writeFile_of_error {fault : OsFault}
    (h : system.writeFile path record store = (.error fault, next)) : next = store := by
  unfold writeFile at h
  cases hwrite : system.write store.files path record <;> simp_all

/-- Whether a file can be written depends on what is written by its length alone. -/
theorem fst_writeFile_eq {other : Octets} (h : record.length = other.length) :
    (system.writeFile path record store).1 = (system.writeFile path other store).1 := by
  unfold writeFile write
  rw [h]
  cases system.locate path with
  | error fault => rfl
  | ok place =>
      cases place with
      | entry name =>
          cases hfault : system.writeFault? store.files name other.length <;> simp [hfault]
      | directory | slashed name missing | below name missing => rfl

/-- A record is added exactly if the sink takes it. -/
theorem add_eq_ok_iff :
    ((system.add sink description record).report store).outcome = .ok () ↔
      system.Takes store description record.length sink := by
  cases sink with
  | memory => exact iff_of_true rfl trivial
  | sessionKeyring => exact Store.outcome_reportKey_eq_ok_iff
  | file path =>
      change (Store.reportWrite path description record.length
        (system.writeFile path record store).1).outcome = .ok () ↔ _
      rw [Store.outcome_reportWrite, Report.mapError_eq_ok_iff, writeFile]
      cases hwrite : system.write store.files path record with
      | ok files =>
          obtain ⟨name, hlocate, hfree, -⟩ := write_eq_ok_iff.mp hwrite
          exact iff_of_true rfl ⟨name, hlocate, hfree⟩
      | error fault =>
          refine iff_of_false (fun h ↦ by cases h) ?_
          rintro ⟨name, hlocate, hfree⟩
          cases hwrite.symm.trans (write_eq_ok_iff.mpr ⟨name, hlocate, hfree, rfl⟩)

end System

namespace Store

/-- Writes a content to a file of the plain system. -/
def writeFile (path : String) (content : Octets) (store : Store) : Except OsFault Unit × Store :=
  System.plain.writeFile path content store

/-- Adds a record to a sink of the plain system. -/
def add (sink : Sink) (description : String) (record : Octets) : Action Store Failure Unit :=
  System.plain.add sink description record

end Store

end AfsToken
