import AfsToken.Asn1.Element
import AfsToken.Asn1.Value
import AfsToken.Proofs.Octets.Reading

/-!
# Where faults come from

A reader that fails for another reason than malformed octets has met its cause: the content of a
time whose digits name no date or no time of day, or a field that may be left out and whose length
fits from its tag on but not behind its header.  Either stands in one piece among the octets.  This
composes, from a single element to a sequence of fields, and a reader that meets no times never
fails for one.
-/

namespace AfsToken.Asn1

open AfsToken.Octets AfsToken.Time

variable {α β : Type}

/-- Some octets are digits of a time that the calendar or the clock does not have. -/
def IsImpossibleTime (content : Octets) : Prop :=
  ∃ time, civilOfContent? content = some time ∧ ¬time.IsValid

/-- Some octets start with a field whose length fits from its tag on but not behind its header. -/
def IsOverrun (part : Octets) : Prop :=
  ∃ number, nextIsField number part = true ∧ nextOverruns part = true

/-- Some octets show the cause of a fault in one piece.  Times are among the causes only where they
are read. -/
def Shows (times : Prop) (octets : Octets) : Fault → Prop
  | .malformed => True
  | .noSuchTime => times ∧ ∃ content, content <:+: octets ∧ IsImpossibleTime content
  | .overrun => ∃ part, part <:+: octets ∧ IsOverrun part

theorem Shows.mono {times : Prop} {inner octets : Octets} {fault : Fault}
    (h : Shows times inner fault) (hinner : inner <:+: octets) : Shows times octets fault := by
  cases fault with
  | malformed => trivial
  | noSuchTime =>
      obtain ⟨htimes, content, hcontent, himpossible⟩ := h
      exact ⟨htimes, content, hcontent.trans hinner, himpossible⟩
  | overrun =>
      obtain ⟨part, hpart, hoverrun⟩ := h
      exact ⟨part, hpart.trans hinner, hoverrun⟩

/-- A reader leaves an end of its octets, or fails with a fault whose cause they show. -/
structure Traced (times : Prop) (reader : Reader α) : Prop where
  consumes : Consumes reader
  shows : ∀ ⦃octets fault⦄, reader.run octets = .error fault → Shows times octets fault

namespace Traced

variable {times : Prop}

theorem pure (value : α) : Traced times (pure value : Reader α) where
  consumes := .pure value
  shows octets fault h := by cases h

theorem malformed : Traced times (Reader.malformed : Reader α) where
  consumes := .throw _
  shows octets fault h := by
    cases h
    trivial

theorem bind {first : Reader α} {next : α → Reader β} (hfirst : Traced times first)
    (hnext : ∀ value, Traced times (next value)) : Traced times (first >>= next) where
  consumes := hfirst.consumes.bind fun value ↦ (hnext value).consumes
  shows octets fault h := by
    rcases run_bind_eq_error_iff.mp h with hfault | ⟨value, middle, hvalue, hfault⟩
    · exact hfirst.shows hfault
    · exact ((hnext value).shows hfault).mono (hfirst.consumes hvalue).isInfix

theorem map {reader : Reader α} (f : α → β) (h : Traced times reader) :
    Traced times (f <$> reader) := by
  rw [← bind_pure_comp]
  exact h.bind fun value ↦ .pure (f value)

variable (times) in
theorem require (condition : Prop) [Decidable condition] :
    Traced times (Reader.require condition) := by
  unfold Reader.require
  split
  · exact .pure ()
  · exact .malformed

end Traced

/-! ## Elements -/

section Elements

variable (times : Prop)

theorem traced_octet : Traced times Reader.octet where
  consumes octets value rest h := by
    cases octets with
    | nil => cases h
    | cons first others =>
        cases h
        exact List.suffix_cons _ _
  shows octets fault h := by
    cases octets with
    | nil =>
        cases h
        trivial
    | cons first others => cases h

theorem run_take (count : Nat) (octets : Octets) :
    (Reader.take count).run octets =
      if (octets.take count).length = count then .ok (octets.take count, octets.drop count)
      else .error .malformed := by
  change StateT.run (Reader.require ((octets.take count).length = count) >>= fun _ ↦ _) octets = _
  unfold Reader.require
  split <;> rfl

theorem traced_take (count : Nat) : Traced times (Reader.take count) where
  consumes octets value rest h := by
    rw [run_take] at h
    split at h
    · cases h
      exact List.drop_suffix count octets
    · cases h
  shows octets fault h := by
    rw [run_take] at h
    split at h
    · cases h
    · cases h
      trivial

theorem suffix_of_readGroups {weight value : Nat} {octets rest : Octets}
    (h : Tag.readGroups weight octets = .ok (value, rest)) : rest <:+ octets := by
  induction octets generalizing weight value with
  | nil => cases h
  | cons group others ih =>
      rw [Tag.readGroups] at h
      split at h
      · cases h
        exact List.suffix_cons _ _
      · obtain ⟨_, hothers, hfound⟩ := bind_eq_ok_iff.mp h
        cases hfound
        exact (ih hothers).trans (List.suffix_cons group others)

theorem readGroups_eq_error {weight : Nat} {octets : Octets} {fault : Fault}
    (h : Tag.readGroups weight octets = .error fault) : fault = .malformed := by
  induction octets generalizing weight with
  | nil =>
      cases h
      rfl
  | cons group others ih =>
      rw [Tag.readGroups] at h
      split at h
      · cases h
      · rcases bind_eq_error_iff.mp h with hothers | ⟨_, -, hfound⟩
        · exact ih hothers
        · cases hfound

theorem run_through_eq_ok {inner : Octets → Except Fault α} {content octets rest : Octets}
    {value : α} (h : (Reader.through inner content).run octets = .ok (value, rest)) :
    inner content = .ok value ∧ rest = octets := by
  change StateT.run (liftM (inner content)) octets = _ at h
  cases hinner : inner content with
  | error fault => rw [hinner] at h; cases h
  | ok found =>
      rw [hinner] at h
      cases h
      exact ⟨rfl, rfl⟩

theorem run_through_eq_error {inner : Octets → Except Fault α} {content octets : Octets}
    {fault : Fault} (h : (Reader.through inner content).run octets = .error fault) :
    inner content = .error fault := by
  change StateT.run (liftM (inner content)) octets = _ at h
  cases hinner : inner content with
  | error other =>
      rw [hinner] at h
      cases h
      rfl
  | ok found => rw [hinner] at h; cases h

/-- The groups of a long tag are read from the octets, and what is behind them is left. -/
theorem traced_groups (tag : Nat → Tag) :
    Traced times (do
      let (value, rest) ← Reader.through (Tag.readGroups 1) (← get)
      set rest
      return tag value : Reader Tag) where
  consumes octets value rest hrun := by
    obtain ⟨_, _, hget, hnext⟩ := run_bind_eq_ok_iff.mp hrun
    cases hget
    obtain ⟨_, _, hgroups, hlast⟩ := run_bind_eq_ok_iff.mp hnext
    cases hlast
    exact suffix_of_readGroups (run_through_eq_ok hgroups).1
  shows octets fault hrun := by
    rcases run_bind_eq_error_iff.mp hrun with hget | ⟨_, _, hget, hnext⟩
    · cases hget
    cases hget
    rcases run_bind_eq_error_iff.mp hnext with hgroups | ⟨_, _, -, hlast⟩
    · rw [readGroups_eq_error (run_through_eq_error hgroups)]
      trivial
    · cases hlast

theorem traced_tag : Traced times Tag.read := by
  apply (traced_octet times).bind
  intro first
  dsimp only
  split
  · exact traced_groups times fun value ↦ ⟨_, _, value % 256⟩
  · exact .pure _

theorem traced_length : Traced times Length.read := by
  apply (traced_octet times).bind
  intro first
  split
  · exact .pure _
  · exact (traced_take times _).bind fun octets ↦ .pure _

theorem traced_element (tag : Tag) : Traced times (readElement tag) :=
  (traced_tag times).bind fun _ ↦ (Traced.require times _).bind fun _ ↦
    (traced_length times).bind (traced_take times)

theorem finds_take (count : Nat) : Finds id (Reader.take count) := by
  intro octets value rest h
  rw [run_take] at h
  split at h
  · cases h
    exact (List.take_prefix count octets).isInfix
  · cases h

/-- The content of an element stands among the octets. -/
theorem finds_element (tag : Tag) : Finds id (readElement tag) :=
  .bind (traced_tag True).consumes fun _ ↦
    .bind (Traced.require True _).consumes fun _ ↦
      .bind (traced_length True).consumes finds_take

variable {times} in
/-- A function of the content that fails by what the content shows. -/
theorem traced_through {tag : Tag} {inner : Octets → Except Fault α}
    (h : ∀ ⦃content fault⦄, inner content = .error fault → Shows times content fault) :
    Traced times (readElement tag >>= Reader.through inner) where
  consumes := by
    apply (traced_element times tag).consumes.bind
    intro content octets value rest hrun
    obtain ⟨-, rfl⟩ := run_through_eq_ok hrun
    exact List.suffix_rfl
  shows octets fault hrun := by
    rcases run_bind_eq_error_iff.mp hrun with hfault | ⟨content, middle, hcontent, hfault⟩
    · exact (traced_element times tag).shows hfault
    · exact (h (run_through_eq_error hfault)).mono (finds_element tag hcontent)

/-- What the function finds in the content is found. -/
theorem finds_through {tag : Tag} {inner : Octets → Except Fault α} {part : α → Octets}
    (h : ∀ ⦃content value⦄, inner content = .ok value → part value <:+: content) :
    Finds part (readElement tag >>= Reader.through inner) := by
  intro octets value rest hrun
  obtain ⟨content, middle, hcontent, hvalue⟩ := run_bind_eq_ok_iff.mp hrun
  exact (h (run_through_eq_ok hvalue).1).trans (finds_element tag hcontent)

end Elements

/-! ## Values -/

section Values

variable (times : Prop)

theorem traced_int32 : Traced times readInt32 := by
  apply traced_through
  intro content fault h
  unfold int32OfContent at h
  split at h
  · cases h
  · cases h
    trivial

theorem traced_uint32 : Traced times readUInt32 := (traced_int32 times).map Int32.toUInt32

theorem traced_text : Traced times readText := by
  apply (traced_element times Tag.generalString).bind
  intro content
  split
  · exact .pure _
  · exact .malformed

theorem traced_octets : Traced times readOctets :=
  traced_element times Tag.octetString

theorem traced_flags : Traced times readFlags := by
  apply traced_through
  intro content fault h
  cases content with
  | nil =>
      cases h
      trivial
  | cons unused octets => cases h

/-- Only the content of a time can be impossible. -/
theorem traced_time : Traced True readTime := by
  apply traced_through
  intro content fault h
  unfold timeOfContent at h
  split at h
  next =>
    cases h
    trivial
  next time htime =>
    split at h
    next => cases h
    next himpossible =>
      cases h
      exact ⟨trivial, content, List.infix_rfl, time, htime, himpossible⟩

end Values

/-! ## Fields and sequences -/

section Sequences

variable {times : Prop} {reader : Reader α}

theorem run_eq_error_of_front {octets : Octets} {fault : Fault}
    (h : reader.front octets = .error fault) : reader.run octets = .error fault := by
  unfold Reader.front at h
  cases hrun : reader.run octets with
  | error other =>
      rw [hrun] at h
      cases h
      rfl
  | ok found => rw [hrun] at h; cases h

theorem exists_run_of_front {octets : Octets} {value : α} (h : reader.front octets = .ok value) :
    ∃ rest, reader.run octets = .ok (value, rest) := by
  unfold Reader.front at h
  cases hrun : reader.run octets with
  | error fault => rw [hrun] at h; cases h
  | ok found =>
      rw [hrun] at h
      cases h
      exact ⟨found.2, rfl⟩

/-- A reader of whole octets fails as it does at their front, or because it leaves some. -/
theorem run_eq_error_of_whole {octets : Octets} {fault : Fault}
    (h : reader.whole octets = .error fault) :
    reader.run octets = .error fault ∨ fault = .malformed := by
  unfold Reader.whole at h
  cases hrun : reader.run octets with
  | error other =>
      rw [hrun] at h
      cases h
      exact .inl rfl
  | ok found =>
      rw [hrun] at h
      change (if found.2 = [] then .ok found.1 else .error Fault.malformed) =
        Except.error fault at h
      split at h
      · cases h
      · cases h
        exact .inr rfl

theorem exists_run_of_whole {octets : Octets} {value : α} (h : reader.whole octets = .ok value) :
    ∃ rest, reader.run octets = .ok (value, rest) := by
  unfold Reader.whole at h
  cases hrun : reader.run octets with
  | error fault => rw [hrun] at h; cases h
  | ok found =>
      rw [hrun] at h
      change (if found.2 = [] then .ok found.1 else .error Fault.malformed) = Except.ok value at h
      split at h
      · cases h
        exact ⟨found.2, rfl⟩
      · cases h

theorem traced_field (number : Nat) (h : Traced times reader) :
    Traced times (readField number reader) :=
  traced_through fun _ _ hfront ↦ h.shows (run_eq_error_of_front hfront)

theorem finds_field (number : Nat) {part : α → Octets} (h : Finds part reader) :
    Finds part (readField number reader) := by
  apply finds_through
  intro content value hfront
  obtain ⟨rest, hrun⟩ := exists_run_of_front hfront
  exact h hrun

theorem run_readOptional (number : Nat) (reader : Reader α) (octets : Octets) :
    (readOptional number reader).run octets =
      if nextIsField number octets then
        if nextOverruns octets then .error .overrun
        else (some <$> readField number reader).run octets
      else .ok (none, octets) := by
  change StateT.run (if nextIsField number octets then
    (do if nextOverruns octets then throw .overrun
        some <$> readField number reader)
    else return none) octets = _
  split
  · split <;> rfl
  · rfl

theorem traced_optional (number : Nat) (h : Traced times reader) :
    Traced times (readOptional number reader) := by
  have hfield := (traced_field number h).map some
  constructor
  · intro octets value rest hrun
    rw [run_readOptional] at hrun
    split at hrun
    · split at hrun
      · cases hrun
      · exact hfield.consumes hrun
    · cases hrun
      exact List.suffix_rfl
  · intro octets fault hrun
    rw [run_readOptional] at hrun
    split at hrun
    next hnext =>
      split at hrun
      next hover =>
        cases hrun
        exact ⟨octets, List.infix_rfl, number, hnext, hover⟩
      next => exact hfield.shows hrun
    next => cases hrun

theorem traced_sequence (h : Traced times reader) : Traced times (readSequence reader) := by
  apply traced_through
  intro content fault hwhole
  rcases run_eq_error_of_whole hwhole with hrun | rfl
  · exact h.shows hrun
  · trivial

theorem finds_sequence {part : α → Octets} (h : Finds part reader) :
    Finds part (readSequence reader) := by
  apply finds_through
  intro content value hwhole
  obtain ⟨rest, hrun⟩ := exists_run_of_whole hwhole
  exact h hrun

/-- Values behind one another: the fault of the first that fails is shown behind those that were
read. -/
theorem shows_of_many (h : Traced times reader) {octets : Octets} {fault : Fault}
    (hmany : reader.many octets = .error fault) : Shows times octets fault := by
  fun_induction Reader.many reader octets with
  | case1 => cases hmany
  | case2 first others other hrun =>
      cases hmany
      exact h.shows hrun
  | case3 first others value rest hrun hshorter ih =>
      cases hrest : reader.many rest with
      | error other =>
          rw [hrest] at hmany
          cases hmany
          exact (ih hrest).mono (h.consumes hrun).isInfix
      | ok values => rw [hrest] at hmany; cases hmany
  | case4 first others value rest hrun hlonger =>
      cases hmany
      trivial

theorem traced_many (h : Traced times reader) : Traced times (readMany reader) :=
  traced_through fun _ _ hmany ↦ shows_of_many h hmany

variable (times) in
theorem traced_get : Traced times (get : Reader Octets) where
  consumes octets value rest h := by
    cases h
    exact List.suffix_rfl
  shows octets fault h := by cases h

theorem traced_message (number : Nat) (h : Traced times reader) :
    Traced times (readMessage number reader) :=
  (traced_tag times).bind fun _ ↦ (Traced.require times _).bind fun _ ↦
    (traced_length times).bind fun _ ↦ (traced_get times).bind fun _ ↦
      (Traced.require times _).bind fun _ ↦ h

theorem finds_message (number : Nat) {part : α → Octets} (h : Finds part reader) :
    Finds part (readMessage number reader) :=
  .bind (traced_tag True).consumes fun _ ↦
    .bind (Traced.require True _).consumes fun _ ↦
      .bind (traced_length True).consumes fun _ ↦
        .bind (traced_get True).consumes fun _ ↦
          .bind (Traced.require True _).consumes fun _ ↦ h

end Sequences

end AfsToken.Asn1
