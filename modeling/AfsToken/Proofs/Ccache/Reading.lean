import AfsToken.Ccache
import AfsToken.Proofs.Octets.Reading

/-!
# What a cache file holds

Every reader of a cache consumes its octets.  So the ticket of an entry stands in one piece among
the octets of the entry, and the tickets of all entries stand in the file.
-/

namespace AfsToken.Ccache

open AfsToken.Octets

theorem run_take (count : Nat) (fault : Fault) (octets : Octets) :
    (take count fault).run octets =
      if (octets.take count).length < count then .error fault
      else .ok (octets.take count, octets.drop count) := by
  change StateT.run (do
    if (octets.take count).length < count then throw fault
    set (octets.drop count)
    return octets.take count) octets = _
  split <;> rfl

/-! ## What is left -/

theorem consumes_take (count : Nat) (fault : Fault) : Consumes (take count fault) := by
  intro octets value rest h
  rw [run_take] at h
  split at h
  · cases h
  · cases h
    exact List.drop_suffix count octets

theorem consumes_readInteger (width : Nat) : Consumes (readInteger width) :=
  (consumes_take width _).map _

theorem consumes_readUInt8 : Consumes readUInt8 := (consumes_readInteger 1).map _

theorem consumes_readUInt16 : Consumes readUInt16 := (consumes_readInteger 2).map _

theorem consumes_readUInt32 : Consumes readUInt32 := (consumes_readInteger 4).map _

theorem consumes_readData : Consumes readData :=
  (consumes_readInteger 4).bind fun count ↦ consumes_take count _

theorem consumes_readShortData : Consumes readShortData :=
  (consumes_readInteger 2).bind fun count ↦ consumes_take count _

section Lists

variable {α : Type} {reader : Reader α} (h : Consumes reader)

include h

theorem consumes_readCount (count : Nat) : Consumes (readCount reader count) := by
  induction count with
  | zero => exact .pure []
  | succ count ih => exact h.bind fun value ↦ ih.bind fun values ↦ .pure (value :: values)

theorem consumes_readCounted : Consumes (readCounted reader) :=
  (consumes_readInteger 4).bind fun count ↦ consumes_readCount h count

end Lists

theorem Principal.consumes : Consumes Principal.read := by
  refine consumes_readUInt32.bind fun nameType ↦ ?_
  refine (consumes_readInteger 4).bind fun count ↦ ?_
  refine consumes_readData.bind fun realm ↦ ?_
  refine (consumes_readCount consumes_readData count).bind fun components ↦ ?_
  exact .pure _

theorem TypedData.consumes : Consumes TypedData.read := by
  refine consumes_readUInt16.bind fun dataType ↦ ?_
  refine consumes_readData.bind fun octets ↦ ?_
  exact .pure _

theorem consumes_readHeader : Consumes readHeader := by
  have hfield (_ : PUnit) : Consumes (do
      let _ ← readUInt16
      return { dataType := ← readUInt16, octets := ← readShortData } : Reader TypedData) :=
    consumes_readUInt16.bind fun _ ↦ consumes_readUInt16.bind fun _ ↦
      consumes_readShortData.bind fun _ ↦ .pure _
  refine (consumes_take 2 _).bind fun version ↦ ?_
  dsimp only
  split
  · exact .bind (.throw _) hfield
  · exact hfield ⟨⟩

theorem consumes_readStart : Consumes readStart :=
  consumes_readHeader.bind fun _ ↦ Principal.consumes.bind fun _ ↦ .pure _

/-! ## Tickets -/

theorem finds_take (count : Nat) (fault : Fault) : Finds id (take count fault) := by
  intro octets value rest h
  rw [run_take] at h
  split at h
  · cases h
  · cases h
    exact (List.take_prefix count octets).isInfix

theorem finds_readData : Finds id readData :=
  .bind (consumes_readInteger 4) fun count ↦ finds_take count _

/-- A property holds of the reader of entries, if it holds of the reader of their two tickets and is
kept by readers in front that consume. -/
theorem Entry.read_of_tickets {P : Reader Entry → Prop}
    (hfront : ∀ {α : Type} {first : Reader α} {next : α → Reader Entry}, Consumes first →
      (∀ value, P (next value)) → P (first >>= next))
    (htickets : ∀ entry : Octets → Octets → Entry, (∀ ticket second, (entry ticket second).ticket =
      ticket) → P (do
        let ticket ← readData
        let second ← readData
        return entry ticket second)) :
    P Entry.read := by
  refine hfront Principal.consumes fun client ↦ ?_
  refine hfront Principal.consumes fun service ↦ ?_
  refine hfront consumes_readUInt16 fun keyType ↦ ?_
  refine hfront consumes_readUInt16 fun _ ↦ ?_
  refine hfront consumes_readShortData fun key ↦ ?_
  refine hfront consumes_readUInt32 fun authTime ↦ ?_
  refine hfront consumes_readUInt32 fun startTime ↦ ?_
  refine hfront consumes_readUInt32 fun endTime ↦ ?_
  refine hfront consumes_readUInt32 fun renewTill ↦ ?_
  refine hfront consumes_readUInt8 fun isSessionKey ↦ ?_
  refine hfront consumes_readUInt32 fun flags ↦ ?_
  refine hfront (consumes_readCounted TypedData.consumes) fun addresses ↦ ?_
  refine hfront (consumes_readCounted TypedData.consumes) fun authorization ↦ ?_
  exact htickets (fun ticket second ↦ ⟨client, service, keyType, key, authTime, startTime, endTime,
    renewTill, isSessionKey, flags, addresses, authorization, ticket, second⟩) fun _ _ ↦ rfl

theorem Entry.consumes : Consumes Entry.read := by
  apply read_of_tickets Consumes.bind
  intro entry _
  exact consumes_readData.bind fun ticket ↦ consumes_readData.bind fun second ↦ .pure _

/-- The ticket of an entry stands among the octets that the entry is read from. -/
theorem Entry.finds_ticket : Finds (·.ticket) Entry.read := by
  apply read_of_tickets Finds.bind
  intro entry hticket
  refine .bind_of_kept finds_readData ?_
  intro ticket octets result rest h
  obtain ⟨second, _, -, hresult⟩ := run_bind_eq_ok_iff.mp h
  cases hresult
  exact hticket ticket second

theorem infix_of_mem_readEntries {octets : Octets} {entries : List Entry}
    (h : readEntries octets = .ok entries) {entry : Entry} (hentry : entry ∈ entries) :
    entry.ticket <:+: octets := by
  fun_induction readEntries octets generalizing entries with
  | case1 octets hend =>
      cases h
      cases hentry
  | case2 octets hunreadable => cases h
  | case3 octets first rest hrun hshorter ih =>
      cases hrest : readEntries rest with
      | error fault => rw [hrest] at h; cases h
      | ok later =>
          rw [hrest] at h
          cases h
          rcases List.mem_cons.mp hentry with rfl | hlater
          · exact Entry.finds_ticket hrun
          · exact (ih hrest hlater).trans (Entry.consumes hrun).isInfix
  | case4 octets first rest hrun hlonger => cases h

/-- The tickets of a cache stand in its file. -/
theorem Cache.infix_of_mem_entries {octets : Octets} {cache : Cache}
    (h : ofOctets? octets = some cache) {entry : Entry} (hentry : entry ∈ cache.entries) :
    entry.ticket <:+: octets := by
  unfold ofOctets? at h
  split at h
  next => cases h
  next header owner rest hstart =>
    split at h
    next => cases h
    next entries hentries =>
      cases h
      exact (infix_of_mem_readEntries hentries hentry).trans (consumes_readStart hstart).isInfix

end AfsToken.Ccache
