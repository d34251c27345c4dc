import AfsToken.Credential.CredentialFile
import AfsToken.Proofs.Credential.LastMaximum
import AfsToken.Proofs.SessionKey.Secrecy

/-!
# What a selection shows of keys

Two credential files that differ in the octets of their keys alone are selected from alike: the same
entries are looked at, the same records are written, and the entries that are taken stand at one
place.  The keys themselves are only passed on.
-/

namespace AfsToken

open AfsToken.Asn1 AfsToken.Kerberos AfsToken.Text

variable {aside : Stop} {cell : Cell}

/-- Two credentials have all in common but the octets of their keys. -/
structure Credential.SameButKey (left right : Credential) : Prop where
  key : left.key.SameButOctets right.key
  ticket : left.ticket = right.ticket
  expiry : left.expiry = right.expiry

theorem rel_map {α β γ δ : Type} {R : α → β → Prop} {S : γ → δ → Prop} {f : α → γ} {g : β → δ}
    (hmap : ∀ {left right}, R left right → S (f left) (g right)) {left : Option α}
    {right : Option β} (h : Option.Rel R left right) :
    Option.Rel S (left.map f) (right.map g) := by
  cases h with
  | none => exact .none
  | some hvalue => exact .some (hmap hvalue)

/-! ## Entries of a cache -/

namespace Ccache

/-- Two entries have all in common but the octets of their keys. -/
structure Entry.SameButKey (left right : Entry) : Prop where
  others : { left with key := right.key } = right
  length : left.key.length = right.key.length

namespace Entry.SameButKey

variable {left right : Entry} (h : left.SameButKey right)

include h

theorem endTime_eq : left.endTime = right.endTime := by
  rw [← h.others]

theorem isConfiguration_eq : left.isConfiguration = right.isConfiguration := by
  rw [← h.others]
  rfl

theorem isFor_eq (cell : Cell) : left.isFor cell = right.isFor cell := by
  rw [← h.others]
  rfl

theorem readTicket_eq : left.readTicket = right.readTicket := by
  rw [← h.others]
  rfl

theorem credential : left.credential.SameButKey right.credential := by
  have hothers := h.others
  have hlength := h.length
  generalize right.key = key at hothers hlength
  subst hothers
  exact ⟨⟨rfl, hlength⟩, rfl, rfl⟩

end Entry.SameButKey

/-- Eligible entries stand at the same places. -/
theorem agree_eligible {left right : List Entry} (h : List.Forall₂ Entry.SameButKey left right) :
    Report.Agree aside (List.Forall₂ Entry.SameButKey) (eligible cell left)
      (eligible cell right) := by
  induction h with
  | nil => exact .pure .nil
  | @cons leftEntry rightEntry leftRest rightRest hentry _ ih =>
      rw [eligible, eligible, hentry.isConfiguration_eq, hentry.isFor_eq, hentry.readTicket_eq]
      split
      · exact ih
      split
      · exact ih.bind fun hrest ↦ .pure (.cons hentry hrest)
      · exact .bind (.note _ _) fun _ ↦ ih
      · exact .of_same rfl (.error Stop.breakdown)

theorem Cache.agree_select {left right : Cache}
    (h : List.Forall₂ Entry.SameButKey left.entries right.entries) :
    Report.Agree aside (Option.Rel Credential.SameButKey) (left.select cell)
      (right.select cell) := by
  refine (agree_eligible h).bind fun {leftFound rightFound} hfound ↦ ?_
  rw [hfound.length_eq]
  refine .bind (.note _ _) fun _ ↦ .pure ?_
  have hlatest : Option.Rel Entry.SameButKey
      (lastMaximum Entry.endTime (fun left right ↦ left ≤ right) leftFound)
      (lastMaximum Entry.endTime (fun left right ↦ left ≤ right) rightFound) :=
    rel_lastMaximum (fun hleft hright ↦ by rw [hleft.endTime_eq, hright.endTime_eq]) hfound
  exact rel_map (fun hentry ↦ hentry.credential) hlatest

end Ccache

/-! ## Tickets of a message -/

/-- Two described tickets have all in common but the octets of their keys. -/
structure DescribedTicket.SameButKey (left right : DescribedTicket) : Prop where
  ticket : left.ticket = right.ticket
  others : { left.info with key := ⟨left.info.key.etype, right.info.key.octets⟩ } = right.info
  length : left.info.key.octets.length = right.info.key.octets.length

namespace DescribedTicket.SameButKey

variable {left right : DescribedTicket} (h : left.SameButKey right)

include h

theorem endSeconds_eq : left.endSeconds = right.endSeconds := by
  rw [endSeconds, endSeconds, ← h.others]

theorem isInRealm_eq (realm : String) : left.isInRealm realm = right.isInRealm realm := by
  rw [isInRealm, isInRealm, ← h.others]

theorem isForService_eq (components : List String) :
    left.isForService components = right.isForService components := by
  rw [isForService, isForService, ← h.others]

/-- The credentials of two such tickets are two such credentials, or have the same fault. -/
theorem credential :
    Report.SameOutcome Credential.SameButKey left.credential right.credential := by
  have hetype : left.info.key.etype = right.info.key.etype := by rw [← h.others]
  rw [DescribedTicket.credential, DescribedTicket.credential, h.endSeconds_eq, h.ticket]
  split
  · exact .error _
  split
  · exact .ok ⟨⟨hetype, h.length⟩, rfl, rfl⟩
  · exact .error _

end DescribedTicket.SameButKey

namespace CredentialFile

theorem rel_forCell {left right : DescribedTickets}
    (h : List.Forall₂ DescribedTicket.SameButKey left right) (cell : Cell) :
    List.Forall₂ DescribedTicket.SameButKey (left.forCell cell) (right.forCell cell) := by
  apply List.rel_filter
  · intro leftEntry rightEntry hentry
    exact iff_of_eq (congrArg (· = true) (hentry.isForService_eq _))
  · apply List.rel_filter _ h
    intro leftEntry rightEntry hentry
    exact iff_of_eq (congrArg (· = true) (hentry.isInRealm_eq _))

theorem agree_selectTicket {left right : DescribedTickets}
    (h : List.Forall₂ DescribedTicket.SameButKey left right) :
    Report.Agree aside (Option.Rel Credential.SameButKey) (selectTicket left cell)
      (selectTicket right cell) := by
  have hfound := rel_forCell h cell
  have hlatest : Option.Rel DescribedTicket.SameButKey (left.forCell cell).latest
      (right.forCell cell).latest :=
    rel_lastMaximum (fun hleft hright ↦ by rw [hleft.endSeconds_eq, hright.endSeconds_eq]) hfound
  rw [selectTicket, selectTicket, hfound.length_eq]
  refine .bind (.note _ _) fun _ ↦ ?_
  generalize (left.forCell cell).latest = leftLatest at hlatest ⊢
  generalize (right.forCell cell).latest = rightLatest at hlatest ⊢
  cases hlatest with
  | none => exact .pure .none
  | some hentry =>
      dsimp only
      rw [← bind_pure_comp, ← bind_pure_comp]
      exact .bind (.ofExcept (hentry.credential.mapError _)) fun h ↦ .pure (.some h)

/-- Two files of one format have all in common but the octets of the keys of their entries. -/
inductive SameButKeys : CredentialFile → CredentialFile → Prop
  | ofCache {left right : Ccache.Cache} (hheader : left.header = right.header)
      (howner : left.owner = right.owner)
      (hentries : List.Forall₂ Ccache.Entry.SameButKey left.entries right.entries) :
      SameButKeys (.ofCache left) (.ofCache right)
  | ofMessage {left right : DescribedTickets}
      (h : List.Forall₂ DescribedTicket.SameButKey left right) :
      SameButKeys (.ofMessage left) (.ofMessage right)

variable {left right : CredentialFile}

theorem SameButKeys.readText_eq (h : left.SameButKeys right) (path : String) :
    left.readText path = right.readText path := by
  cases h with
  | ofCache _ _ hentries =>
      rw [readText, readText, count, count, hentries.length_eq]
      rfl
  | ofMessage h =>
      rw [readText, readText, count, count, h.length_eq]
      rfl

theorem SameButKeys.agree_select (h : left.SameButKeys right) :
    Report.Agree aside (Option.Rel Credential.SameButKey) (left.select cell)
      (right.select cell) := by
  cases h with
  | ofCache _ _ hentries => exact Ccache.Cache.agree_select hentries
  | ofMessage h => exact agree_selectTicket h

/-- Two such files give two such credentials, or fail alike. -/
theorem SameButKeys.agree_credential (h : left.SameButKeys right) (aside : Stop) (cell : Cell)
    (path : String) :
    Report.Agree aside Credential.SameButKey (left.credential path cell)
      (right.credential path cell) := by
  rw [credential, credential, h.readText_eq]
  refine .bind (.note _ _) fun _ ↦ h.agree_select.bind fun hselected ↦ ?_
  cases hselected with
  | none => exact .of_same rfl (.error _)
  | some hcredential => exact .pure hcredential

end CredentialFile

end AfsToken
