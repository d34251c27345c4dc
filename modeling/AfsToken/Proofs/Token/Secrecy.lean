import AfsToken.Proofs.Credential.MessageFile
import AfsToken.Proofs.Credential.Secrecy
import AfsToken.Proofs.Store.History

/-!
# What a run shows of keys

Two runs on files that differ in the octets of their keys alone cannot be told apart by what they
report.  They write the same records of the log and stop for the same reason, and where they succeed
they put records under one description that differ in the octets of the session key alone.
-/

namespace AfsToken

variable {cell : Cell} {path : String}

/-! ## Records -/

/-- Two octet strings have one length, and the same octets outside the place of the session key. -/
structure Record.SameButSessionKey (left right : Octets) : Prop where
  length : left.length = right.length
  others : ∀ index, index < 16 ∨ 24 ≤ index → left[index]? = right[index]?

namespace Record

/-- What stands at the place of the session key has its length. -/
theorem sameButSessionKey_of_append {front left right back : Octets} (hfront : front.length = 16)
    (hleft : left.length = 8) (hright : right.length = 8) :
    SameButSessionKey (front ++ left ++ back) (front ++ right ++ back) where
  length := by simp [hleft, hright]
  others index hindex := by
    rcases hindex with hbefore | hbehind
    · rw [List.append_assoc, List.append_assoc, List.getElem?_append_left (by omega),
        List.getElem?_append_left (by omega)]
    · have hleftLength : (front ++ left).length = 24 := by simp [hfront, hleft]
      have hrightLength : (front ++ right).length = 24 := by simp [hfront, hright]
      rw [List.getElem?_append_right (by omega), List.getElem?_append_right (by omega),
        hleftLength, hrightLength]

/-- Records for one ticket that ends at one time are too long both, or differ in the session key. -/
theorem sameOutcome_encode (left right : SessionKey) (ticket : Octets) (expiry : UInt32) :
    Report.SameOutcome SameButSessionKey (ofTicket left ticket expiry).encode
      (ofTicket right ticket expiry).encode := by
  by_cases hlimit : ticket.length ≤ ticketLimit
  · have hleft : (ofTicket left ticket expiry).ticket.length ≤ ticketLimit := hlimit
    have hright : (ofTicket right ticket expiry).ticket.length ≤ ticketLimit := hlimit
    rw [encode, encode, if_pos hleft, if_pos hright]
    refine .ok (sameButSessionKey_of_append ?_ left.length_octets right.length_octets)
    simp
  · have hleft : ¬(ofTicket left ticket expiry).ticket.length ≤ ticketLimit := hlimit
    have hright : ¬(ofTicket right ticket expiry).ticket.length ≤ ticketLimit := hlimit
    rw [encode, encode, if_neg hleft, if_neg hright]
    exact .error _

end Record

namespace Token

/-- Two tokens have one description, and records that differ in the session key alone. -/
structure SameButSessionKey (left right : Token) : Prop where
  description : left.description = right.description
  record : Record.SameButSessionKey left.record right.record

/-- The fault that no counter is left. -/
def exhausted : Stop := .failure (.derivation .exhausted)

/-- Credentials that differ in the octets of their keys make tokens that differ in their session
keys, unless a derivation is exhausted. -/
theorem agree_ofCredential {left right : Credential} (h : left.SameButKey right) :
    Report.Agree exhausted SameButSessionKey (ofCredential cell path left)
      (ofCredential cell path right) := by
  have htext : foundTicketText path left = foundTicketText path right := by
    unfold foundTicketText
    rw [h.key.etype, h.expiry]
  unfold ofCredential
  rw [htext, h.ticket, h.expiry]
  refine .bind (.note _ _) fun _ ↦ ?_
  refine (h.key.agree_sessionKey.mapFault _).bind fun {leftSession rightSession} _ ↦ ?_
  refine .bind (.ofExcept ((Record.sameOutcome_encode _ _ _ _).mapError _)) fun hrecord ↦ ?_
  rw [sizeText, sizeText, hrecord.length]
  exact .bind (.note _ _) fun _ ↦ .pure ⟨rfl, hrecord⟩

/-- The token that a file at a path makes for a cell, after it was read. -/
def ofFile (cell : Cell) (path : String) (file : CredentialFile) : Report Stop Token := do
  Report.note .info ("CELL " ++ cell.name)
  Report.note .info ("PRINC " ++ cell.principal)
  ofCredential cell path (← file.credential path cell)

variable {left right : CredentialFile}

theorem agree_ofFile (h : left.SameButKeys right) (cell : Cell) (path : String) :
    Report.Agree exhausted SameButSessionKey (ofFile cell path left) (ofFile cell path right) :=
  .bind (.note _ _) fun _ ↦ .bind (.note _ _) fun _ ↦
    (h.agree_credential _ cell path).bind fun hcredential ↦ agree_ofCredential hcredential

/-! ## Runs -/

/-- A run on a file that was read. -/
def loadFile (system : System) (sink : Sink) (cell : Cell) (path : String)
    (file : CredentialFile) : Action Store Stop Unit :=
  system.storing sink (ofFile cell path file)

/-- A run on octets is a run on the file that they are read as. -/
theorem load_eq_loadFile (system : System) (sink : Sink) {octets : Octets} {file : CredentialFile}
    (h : CredentialFile.read path octets = .ok file) :
    load (system.keyStore sink) cell path (.ok octets) = loadFile system sink cell path file := by
  rw [System.load_eq_storing, ofContent, CredentialFile.credentialOf_eq h]
  rfl

variable {system : System} {sink : Sink} {store : Store}

/-- What a sink reports of adding a record depends on its length alone. -/
theorem report_add_eq {description : String} {leftRecord rightRecord : Octets}
    (h : leftRecord.length = rightRecord.length) (store : Store) :
    (system.add sink description leftRecord).report store =
      (system.add sink description rightRecord).report store := by
  cases sink with
  | file path =>
      change Store.reportWrite path description leftRecord.length
          (system.writeFile path leftRecord store).1 =
        Store.reportWrite path description rightRecord.length
          (system.writeFile path rightRecord store).1
      rw [System.fst_writeFile_eq h, h]
  | memory => rfl
  | sessionKeyring =>
      change Store.reportKey description (system.addKey description leftRecord.length) =
        Store.reportKey description (system.addKey description rightRecord.length)
      rw [h]

/-- Two runs on files that differ in the octets of their keys report the same, unless one of them is
exhausted. -/
theorem report_loadFile_eq (h : left.SameButKeys right)
    (hleft : ((loadFile system sink cell path left).report store).outcome ≠ .error exhausted)
    (hright : ((loadFile system sink cell path right).report store).outcome ≠ .error exhausted) :
    (loadFile system sink cell path left).report store =
      (loadFile system sink cell path right).report store := by
  rw [loadFile, System.report_storing] at hleft hright ⊢
  rw [loadFile, System.report_storing]
  rcases agree_ofFile h cell path with hstop | hstop | ⟨hlog, houtcome⟩
  · rw [Report.bind_of_error hstop] at hleft
    exact absurd rfl hleft
  · rw [Report.bind_of_error hstop] at hright
    exact absurd rfl hright
  rcases hmadeLeft : ofFile cell path left with ⟨log, leftOutcome⟩
  rcases hmadeRight : ofFile cell path right with ⟨rightLog, rightOutcome⟩
  rw [hmadeLeft, hmadeRight] at hlog houtcome
  cases hlog
  cases houtcome with
  | error stop => rfl
  | @ok leftToken rightToken htoken =>
      have hfinish (added : Report Failure Unit) :
          leftToken.finish sink.name added = rightToken.finish sink.name added := by
        unfold finish
        rw [htoken.description]
      rw [Report.bind_of_ok rfl, Report.bind_of_ok rfl, report_add_eq htoken.record.length,
        htoken.description, hfinish]

/-- A token is made under the description of its cell. -/
theorem description_of_ofFile {file : CredentialFile} {token : Token}
    (h : (ofFile cell path file).outcome = .ok token) :
    token.description = cell.keyDescription := by
  rw [ofFile, Report.outcome_note_bind, Report.outcome_note_bind] at h
  obtain ⟨credential, -, hmade⟩ := Report.bind_outcome_eq_ok_iff.mp h
  obtain ⟨session, record, -, -, rfl⟩ := ofCredential_eq_ok_iff.mp hmade
  rfl

/-- Where two such runs report the same, both leave the store as it was, or both put records under
the description of the cell that differ in the session key alone. -/
theorem left_loadFile_cases (h : left.SameButKeys right)
    (hreport : (loadFile system sink cell path left).report store =
      (loadFile system sink cell path right).report store) :
    (∃ stop, ((loadFile system sink cell path left).report store).outcome = .error stop ∧
      (loadFile system sink cell path left).left store = store ∧
      (loadFile system sink cell path right).left store = store) ∨
    ∃ leftRecord rightRecord,
      ((loadFile system sink cell path left).report store).outcome = .ok () ∧
      system.Puts cell.keyDescription leftRecord store
        ((loadFile system sink cell path left).left store) sink ∧
      system.Puts cell.keyDescription rightRecord store
        ((loadFile system sink cell path right).left store) sink ∧
      Record.SameButSessionKey leftRecord rightRecord := by
  rcases System.storing_cases sink (ofFile cell path left) store with
    ⟨stop, hstop, hleftStore⟩ | ⟨leftToken, hleftMade, hleftOk, hleftPuts⟩
  · refine .inl ⟨stop, hstop, hleftStore, ?_⟩
    rcases System.storing_cases sink (ofFile cell path right) store with
      ⟨-, -, hrightStore⟩ | ⟨-, -, hrightOk, -⟩
    · exact hrightStore
    · cases (hreport ▸ hstop).symm.trans hrightOk
  · rcases System.storing_cases sink (ofFile cell path right) store with
      ⟨stop, hrightStop, -⟩ | ⟨rightToken, hrightMade, -, hrightPuts⟩
    · cases (hreport ▸ hleftOk).symm.trans hrightStop
    · have htoken := (agree_ofFile h cell path).of_ok hleftMade hrightMade
      rw [description_of_ofFile hleftMade] at hleftPuts
      rw [description_of_ofFile hrightMade] at hrightPuts
      exact .inr ⟨leftToken.record, rightToken.record, hleftOk, hleftPuts, hrightPuts,
        htoken.record⟩

/-- The key blocks that two such files give are shown alike. -/
theorem diagnostic_eq_of_credential (h : left.SameButKeys right)
    {leftCredential rightCredential : Credential}
    (hleft : (left.credential path cell).outcome = .ok leftCredential)
    (hright : (right.credential path cell).outcome = .ok rightCredential) :
    leftCredential.key.diagnostic = rightCredential.key.diagnostic :=
  ((h.agree_credential .breakdown cell path).of_ok hleft hright).key.diagnostic_eq

/-- Two runs for a cell, on files of one format that differ in the octets of keys alone, report the
same, unless a derivation is exhausted: the same records of the log, and the same fault or none.
Either both leave the store as it was, or both put a record under the description of the cell, and
the two records differ in the eight octets of the session key at most.  The key blocks that are
taken and the session keys that are made from them are shown alike. -/
theorem loadFile_secrecy (system : System) (sink : Sink) (cell : Cell) (path : String)
    {left right : CredentialFile} (h : left.SameButKeys right) (store : Store)
    (hleft : ((loadFile system sink cell path left).report store).outcome ≠
      .error (.failure (.derivation .exhausted)))
    (hright : ((loadFile system sink cell path right).report store).outcome ≠
      .error (.failure (.derivation .exhausted))) :
    (∀ octets file, CredentialFile.read path octets = .ok file →
      load (system.keyStore sink) cell path (.ok octets) = loadFile system sink cell path file) ∧
    (loadFile system sink cell path left).report store =
      (loadFile system sink cell path right).report store ∧
    ((∃ stop, ((loadFile system sink cell path left).report store).outcome = .error stop ∧
        (loadFile system sink cell path left).left store = store ∧
        (loadFile system sink cell path right).left store = store) ∨
      ∃ leftRecord rightRecord,
        ((loadFile system sink cell path left).report store).outcome = .ok () ∧
        system.Puts cell.keyDescription leftRecord store
          ((loadFile system sink cell path left).left store) sink ∧
        system.Puts cell.keyDescription rightRecord store
          ((loadFile system sink cell path right).left store) sink ∧
        leftRecord.length = rightRecord.length ∧
        ∀ index, index < 16 ∨ 24 ≤ index → leftRecord[index]? = rightRecord[index]?) ∧
    (∀ leftCredential rightCredential,
      (left.credential path cell).outcome = .ok leftCredential →
      (right.credential path cell).outcome = .ok rightCredential →
      leftCredential.key.diagnostic = rightCredential.key.diagnostic ∧
      ∀ leftSession rightSession, leftCredential.key.sessionKey.outcome = .ok leftSession →
        rightCredential.key.sessionKey.outcome = .ok rightSession →
        leftSession.diagnostic = rightSession.diagnostic) := by
  have hreport := report_loadFile_eq h hleft hright
  refine ⟨fun octets file hread ↦ load_eq_loadFile system sink hread, hreport, ?stored, ?shown⟩
  case stored =>
    rcases left_loadFile_cases h hreport with
      hstop | ⟨leftRecord, rightRecord, hsuccess, hleftPuts, hrightPuts, hrecord⟩
    · exact .inl hstop
    · exact .inr ⟨leftRecord, rightRecord, hsuccess, hleftPuts, hrightPuts, hrecord.length,
        hrecord.others⟩
  case shown =>
    intro leftCredential rightCredential hleftFound hrightFound
    exact ⟨diagnostic_eq_of_credential h hleftFound hrightFound, fun _ _ _ _ ↦ rfl⟩

/-- A message with one ticket for the cell `a` and a key block. -/
def messageWithKey (key : KeyMaterial) : CredentialFile :=
  let entry := DescribedTickets.ticketFor ["afs", "a"]
  .ofMessage [{ entry with info := { entry.info with key := ⟨key.etype, key.octets⟩ } }]

theorem sameButKeys_messageWithKey {left right : KeyMaterial} (hetype : left.etype = right.etype)
    (hlength : left.length = right.length) :
    (messageWithKey left).SameButKeys (messageWithKey right) := by
  obtain ⟨etype, leftOctets⟩ := left
  obtain ⟨_, rightOctets⟩ := right
  cases hetype
  exact .ofMessage (.cons ⟨rfl, rfl, hlength⟩ .nil)

/-- Pairs of keys of one type and one length: DES keys, which are copied, Triple-DES keys, which are
contracted and derived from, and AES keys, which are derived from as they are. -/
def keyPairs : List (KeyMaterial × KeyMaterial) :=
  [(⟨1, [1, 2, 4, 7, 8, 11, 13, 14]⟩, ⟨1, [16, 19, 21, 22, 25, 26, 28, 31]⟩),
    (⟨16, List.replicate 24 1⟩, ⟨16, List.range' 1 24 |>.map UInt8.ofNat⟩),
    (⟨17, List.replicate 16 1⟩, ⟨17, List.range' 1 16 |>.map UInt8.ofNat⟩)]

/-- On whatever path the session keys are made, the runs with two keys succeed and report the same,
and the files that they write are of one length and differ. -/
theorem loadFile_secrecy_of_keyPairs :
    keyPairs.Forall fun keys ↦
      let left := loadFile .plain (.file "out") ⟨"a", "A"⟩ "cache" (messageWithKey keys.1)
      let right := loadFile .plain (.file "out") ⟨"a", "A"⟩ "cache" (messageWithKey keys.2)
      (left.report ⟨[], []⟩).outcome = .ok () ∧
      left.report ⟨[], []⟩ = right.report ⟨[], []⟩ ∧
      (left.left ⟨[], []⟩).files ≠ (right.left ⟨[], []⟩).files := by
  have hrun : ∀ keys ∈ keyPairs, keys.1.etype = keys.2.etype ∧ keys.1.length = keys.2.length ∧
      ((loadFile .plain (.file "out") ⟨"a", "A"⟩ "cache" (messageWithKey keys.1)).report
        ⟨[], []⟩).outcome = .ok () ∧
      ((loadFile .plain (.file "out") ⟨"a", "A"⟩ "cache" (messageWithKey keys.2)).report
        ⟨[], []⟩).outcome = .ok () ∧
      ((loadFile .plain (.file "out") ⟨"a", "A"⟩ "cache" (messageWithKey keys.1)).left
        ⟨[], []⟩).files ≠
        ((loadFile .plain (.file "out") ⟨"a", "A"⟩ "cache" (messageWithKey keys.2)).left
          ⟨[], []⟩).files := by
    decide +kernel
  rw [List.forall_iff_forall_mem]
  intro keys hkeys left right
  obtain ⟨hetype, hlength, hleft, hright, hdiffer⟩ := hrun keys hkeys
  have hsecrecy := loadFile_secrecy .plain (.file "out") ⟨"a", "A"⟩ "cache"
    (sameButKeys_messageWithKey hetype hlength) ⟨[], []⟩
    (by rw [hleft]; exact nofun) (by rw [hright]; exact nofun)
  exact ⟨hleft, hsecrecy.2.1, hdiffer⟩

end Token

end AfsToken
