import AfsToken.Proofs.Credential.MessageFile
import AfsToken.Proofs.Credential.Selection
import AfsToken.Proofs.Record.Layout
import AfsToken.Token.Basic
import AfsToken.Token.Run

/-!
# Where a record comes from

A run that succeeds has added one record, and all that varies in the record comes from one entry of
the file: the ticket, the end of its validity, and the key block from which the session key is
derived.  The entry is a credential of a cache, or a ticket of a message with the information at its
place, and it names the service of the cell.
-/

namespace AfsToken

open AfsToken.Asn1 AfsToken.Ccache AfsToken.Kerberos

/-- A file holds, in one entry for a cell, a key block, a ticket, and the seconds at which the
ticket ends. -/
inductive CredentialFile.Holds (cell : Cell) (octets : Octets) : KeyMaterial → Octets → Int → Prop
  | ofCache {cache : Cache} {entry : Entry} {ticket : Ticket}
      (hcache : Cache.ofOctets? octets = some cache) (hentry : entry ∈ cache.entries)
      (hserves : entry.Serves cell) (hticket : Reader.front Ticket.read entry.ticket = .ok ticket) :
      Holds cell octets ⟨entry.keyType.toInt16.toInt32, entry.key⟩ entry.ticket entry.endTime.toNat
  | ofMessage {message : CredMessage} {part : CredPart} {index : Nat} {ticket : Ticket}
      {info : CredInfo} {time : Time.Civil} (hcache : Cache.ofOctets? octets = none)
      (hmessage : Reader.front CredMessage.read octets = .ok message)
      (hplain : message.encrypted.etype = DescribedTickets.plain)
      (hpart : Reader.front CredPart.read message.encrypted.cipher = .ok part)
      (hticket : message.tickets[index]? = some ticket) (hinfo : part.infos[index]? = some info)
      (hserves : info.Serves cell) (htime : info.endTime = some time) :
      Holds cell octets ⟨info.key.etype, info.key.octets⟩ ticket.encode time.toSeconds

namespace CredentialFile

variable {cell : Cell} {path : String} {octets : Octets} {credential : Credential}

/-- A message that is read is not encrypted, and its tickets go with the information of its part. -/
theorem readMessage_eq_ok {tickets : DescribedTickets}
    (h : readMessage path octets = .ok tickets) :
    ∃ message part, Reader.front CredMessage.read octets = .ok message ∧
      message.encrypted.etype = DescribedTickets.plain ∧
      Reader.front CredPart.read message.encrypted.cipher = .ok part ∧
      tickets = DescribedTickets.pair message.tickets part.infos := by
  unfold readMessage at h
  split at h
  next => cases h
  next message hmessage =>
    unfold DescribedTickets.ofMessage at h
    split at h
    next => cases h
    next hplain =>
      split at h
      next => cases h
      next part hpart =>
        cases h
        exact ⟨message, part, hmessage, not_not.mp hplain, hpart, rfl⟩

/-- The credential for a cell is what the file holds in one entry. -/
theorem holds_of_credentialOf {content : Except OsFault Octets}
    (h : (credentialOf path content cell).outcome = .ok credential) :
    ∃ octets, content = .ok octets ∧
      Holds cell octets credential.key credential.ticket credential.expiry.toNat := by
  simp only [credentialOf, Report.bind_outcome_eq_ok_iff, Report.outcome_ofExcept,
    Report.mapError_eq_ok_iff, CredentialFile.credential, Report.outcome_note_bind] at h
  obtain ⟨octets, hcontent, file, hfile, selected, hselect, hsome⟩ := h
  refine ⟨octets, hcontent, ?_⟩
  cases selected with
  | none => cases hsome
  | some value =>
      cases hsome
      unfold read at hfile
      split at hfile
      next cache hcache =>
        cases hfile
        obtain ⟨entry, hentry, hserves, ⟨ticket, hticket⟩, rfl⟩ := Cache.select_eq_ok hselect
        exact .ofCache hcache hentry hserves hticket
      next hcache =>
        cases hread : readMessage path octets with
        | error stop => rw [hread] at hfile; cases hfile
        | ok tickets =>
            rw [hread] at hfile
            cases hfile
            obtain ⟨message, part, hmessage, hplain, hpart, rfl⟩ := readMessage_eq_ok hread
            obtain ⟨entry, hentry, hserves, hcredential⟩ := selectTicket_eq_ok hselect
            obtain ⟨index, hticket, hinfo⟩ := DescribedTickets.mem_pair_iff.mp hentry
            obtain ⟨time, htime, hexpiry, hkey, hoctets⟩ :=
              DescribedTicket.credential_eq_ok hcredential
            rw [hkey, hoctets, hexpiry]
            exact .ofMessage hcache hmessage hplain hpart hticket hinfo hserves htime

end CredentialFile

/-- A key store that also notes, in their order, the records that it is asked to add. -/
def KeyStore.noting {σ : Type} (keyStore : KeyStore σ) : KeyStore (σ × List (String × Octets)) where
  name := keyStore.name
  add description record := (keyStore.add description record).noting (description, record)

namespace Token

/-- If a run has loaded a token, the key store was asked once to add a record.  The record reads as
a record for rxkad whose ticket, end and session key are those of one entry of the file. -/
theorem load_provenance {σ : Type} (keyStore : KeyStore σ) (cell : Cell) (path : String)
    (content : Except OsFault Octets) (state : σ)
    (hok : ((load keyStore cell path content).report state).outcome = .ok ()) :
    ∃ octets key ticket seconds session expiry record,
      content = .ok octets ∧
      CredentialFile.Holds cell octets key ticket seconds ∧
      key.sessionKey.outcome = .ok session ∧
      (expiry.toNat : Int) = seconds ∧
      Record.decode? record = some ⟨1, 2, expiry, 256, session, ticket⟩ ∧
      Octets.toNatLE (Record.slice 6 8 record) = (record.drop Record.headerSize).length ∧
      (load keyStore.noting cell path content).left (state, []) =
        ((keyStore.add ("afs@" ++ cell.name) record).left state,
          [("afs@" ++ cell.name, record)]) := by
  rw [report_load, Report.bind_outcome_eq_ok_iff] at hok
  obtain ⟨token, hmade, -⟩ := hok
  obtain ⟨credential, hcredential, hmaking⟩ := ofContent_eq_ok_iff.mp hmade
  obtain ⟨octets, hcontent, hholds⟩ := CredentialFile.holds_of_credentialOf hcredential
  obtain ⟨session, record, hsession, hrecord, rfl⟩ := ofCredential_eq_ok_iff.mp hmaking
  have hdecode := Record.decode?_of_encode hrecord
  have hlength := Record.toNatLE_lengthField_of_encode hrecord
  have hadd := left_load_of_ok keyStore.noting cell path content (state, []) hmade
  exact ⟨octets, credential.key, credential.ticket, credential.expiry.toNat, session,
    credential.expiry, record, hcontent, hholds, hsession, rfl, hdecode, hlength, hadd⟩

/-! ## Files with several tickets -/

/-- A ticket for a service in the realm `A`, by what sets it apart from other tickets of a file. -/
structure Sample where
  components : List String
  key : KeyMaterial
  endTime : Nat
  cipher : Octets

namespace Sample

/-- Two tickets for one cell, the second of which ends later, among tickets for other services. -/
def all : List Sample :=
  [⟨["krbtgt", "A"], ⟨18, List.replicate 32 3⟩, 1700010000, [1]⟩,
    ⟨["AFS", "a"], ⟨1, [1, 2, 4, 7, 8, 11, 13, 14]⟩, 1700000000, [2]⟩,
    ⟨["afs", "a"], ⟨17, List.replicate 16 5⟩, 1700003600, [3]⟩,
    ⟨["afs", "b"], ⟨17, List.replicate 16 4⟩, 1700020000, [4]⟩]

/-- The ticket with its information. -/
def describedTicket (sample : Sample) : DescribedTicket :=
  let entry := DescribedTickets.ticketFor sample.components
  { ticket := { entry.ticket with encrypted := ⟨1, none, sample.cipher⟩ }
    info := { entry.info with
      key := ⟨sample.key.etype, sample.key.octets⟩
      endTime := some (Time.Civil.ofSeconds sample.endTime) } }

/-- An octet string behind its length. -/
def counted (octets : Octets) : Octets := Octets.ofNatBE 4 octets.length ++ octets

/-- The octets of an entry for the ticket, whose client has no name. -/
def entryOctets (sample : Sample) : Octets :=
  [0, 0, 0, 1, 0, 0, 0, 0] ++ counted [] ++
  [0, 0, 0, 2] ++ Octets.ofNatBE 4 sample.components.length ++ counted (Text.Utf8.encode "A") ++
  sample.components.flatMap (fun component ↦ counted (Text.Utf8.encode component)) ++
  -- the low 16 bits of the encryption type, a field that is not looked at, and the key
  Octets.ofNatBE 2 sample.key.etype.toInt16.toUInt16.toNat ++ [0, 0] ++
  Octets.ofNatBE 2 sample.key.length ++ sample.key.octets ++
  -- of the four times only the end, and nothing in the fields up to the ticket
  List.replicate 8 0 ++ Octets.ofNatBE 4 sample.endTime ++ List.replicate 17 0 ++
  counted sample.describedTicket.ticket.encode ++ counted []

/-- A cache of the tickets, whose owner has no name. -/
def cacheOctets (samples : List Sample) : Octets :=
  formatVersion ++ [0, 4, 0, 1, 0, 0] ++ [0, 0, 0, 1, 0, 0, 0, 0] ++ counted [] ++
    samples.flatMap entryOctets

/-- A message of the tickets. -/
def messageOctets (samples : List Sample) : Octets :=
  (DescribedTickets.toMessage (samples.map describedTicket)).encode

end Sample

/-- From a cache and from a message with the same tickets, the record has the end and the ticket of
the third one. -/
theorem load_provenance_of_samples :
    [Sample.cacheOctets Sample.all, Sample.messageOctets Sample.all].Forall fun octets ↦
      ∃ key ticket session record,
        CredentialFile.Holds ⟨"a", "A"⟩ octets key ticket 1700003600 ∧
        key.sessionKey.outcome = .ok session ∧
        Record.decode? record = some ⟨1, 2, 1700003600, 256, session, ticket⟩ ∧
        ticket = (⟨5, "A", ⟨2, ["afs", "a"]⟩, ⟨1, none, [3]⟩⟩ : Ticket).encode ∧
        (load (System.plain.keyStore .memory).noting ⟨"a", "A"⟩ "cache" (.ok octets)).left
            (⟨[], []⟩, []) =
          (⟨[], [("afs@a", record)]⟩, [("afs@a", record)]) := by
  have hloads : ∀ octets ∈ [Sample.cacheOctets Sample.all, Sample.messageOctets Sample.all],
      ((load (System.plain.keyStore .memory) ⟨"a", "A"⟩ "cache" (.ok octets)).report
        ⟨[], []⟩).outcome = .ok () ∧
      ((load (System.plain.keyStore .memory).noting ⟨"a", "A"⟩ "cache" (.ok octets)).left
        (⟨[], []⟩, [])).2.map (fun added ↦ (Record.decode? added.2).map fun record ↦
          (record.expiry, record.ticket)) =
        [some (1700003600, (⟨5, "A", ⟨2, ["afs", "a"]⟩, ⟨1, none, [3]⟩⟩ : Ticket).encode)] := by
    decide +kernel
  rw [List.forall_iff_forall_mem]
  intro octets hoctets
  obtain ⟨hok, hadded⟩ := hloads octets hoctets
  obtain ⟨_, key, ticket, seconds, session, expiry, record, hcontent, hholds, hsession, hexpiry,
    hdecode, -, hadd⟩ :=
    load_provenance (System.plain.keyStore .memory) ⟨"a", "A"⟩ "cache" (.ok octets) ⟨[], []⟩ hok
  cases hcontent
  rw [hadd, List.map_singleton, hdecode, List.singleton_inj, Option.map_some, Option.some.injEq,
    Prod.mk.injEq] at hadded
  obtain ⟨rfl, hticket⟩ := hadded
  rw [← hexpiry] at hholds
  exact ⟨key, ticket, session, record, hholds, hsession, hdecode, hticket, hadd⟩

end Token

end AfsToken
