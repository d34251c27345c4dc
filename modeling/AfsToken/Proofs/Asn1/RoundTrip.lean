import AfsToken.Asn1.Element

/-!
# What is written is read back

A reader reads octets back if it takes a value off them and leaves whatever follows.  This composes:
a sequence is read back if its fields are.  Fields that may be left out need one thing more, for an
absent field is told from the tag of the next one.  The numbers of the fields increase, so that tag
is always another one.

The length of an element is kept in 64 bits, so all this is said of octets that 64 bits can count.
-/

namespace AfsToken.Asn1

variable {α β : Type}

/-- Whatever follows some octets, a reader takes a value off them and nothing else. -/
def Reads (reader : Reader α) (octets : Octets) (value : α) : Prop :=
  octets.length < UInt64.size → ∀ rest, reader.run (octets ++ rest) = .ok (value, rest)

namespace Reads

theorem pure (value : α) : Reads (pure value) [] value := by
  intro _ rest
  rfl

theorem bind {first : Reader α} {next : α → Reader β} {before after : Octets} {value : α}
    {result : β} (hfirst : Reads first before value) (hnext : Reads (next value) after result) :
    Reads (first >>= next) (before ++ after) result := by
  intro hlength rest
  rw [List.length_append] at hlength
  rw [StateT.run_bind, List.append_assoc, hfirst (by omega)]
  exact hnext (by omega) rest

theorem map {reader : Reader α} {octets : Octets} {value : α} (f : α → β)
    (h : Reads reader octets value) : Reads (f <$> reader) octets (f value) := by
  intro hlength rest
  rw [StateT.run_map, h hlength]
  rfl

end Reads

/-! ## Elements -/

theorem reads_octet (octet : UInt8) : Reads Reader.octet [octet] octet := by
  intro _ rest
  rfl

theorem reads_take (octets : Octets) : Reads (Reader.take octets.length) octets octets := by
  intro _ rest
  simp [Reader.take, Reader.require]
  rfl

/-- A condition that holds reads no octets. -/
theorem reads_require {condition : Prop} [Decidable condition] (h : condition) :
    Reads (Reader.require condition) [] () := by
  rw [Reader.require, if_pos h]
  exact .pure ()

theorem TagClass.ofCode_code (tagClass : TagClass) : ofCode tagClass.code = tagClass := by
  cases tagClass <;> rfl

theorem TagClass.code_lt (tagClass : TagClass) : tagClass.code < 4 := by
  cases tagClass <;> decide

theorem Tag.toNat_encode {tag : Tag} (h : tag.number < 31) :
    tag.encode.toNat =
      64 * tag.tagClass.code + (if tag.constructed then 32 else 0) + tag.number := by
  have hcode := tag.tagClass.code_lt
  rw [encode, UInt8.toNat_ofNat', Nat.mod_eq_of_lt]
  split <;> omega

theorem reads_tag {tag : Tag} (h : tag.number < 31) : Reads Tag.read [tag.encode] tag := by
  intro _ rest
  have hoctet := Tag.toNat_encode h
  have hcode := tag.tagClass.code_lt
  have hclass : tag.encode.toNat / 64 = tag.tagClass.code := by split at hoctet <;> omega
  have hnumber : tag.encode.toNat % 32 = tag.number := by split at hoctet <;> omega
  have hconstructed : (tag.encode.toNat / 32 % 2 == 1) = tag.constructed := by
    cases hc : tag.constructed <;> rw [hc] at hoctet <;> simp at hoctet ⊢ <;> omega
  rw [Tag.read, StateT.run_bind, reads_octet tag.encode (show 1 < UInt64.size by decide)]
  change StateT.run (if tag.encode.toNat % 32 = 31 then _ else _) rest = _
  rw [hnumber, if_neg (by omega), hclass, TagClass.ofCode_code, hconstructed]
  rfl

/-- The digits of a number are read back. -/
theorem toNatBE_digits (value : Nat) : Octets.toNatBE (Length.digits value) = value := by
  fun_induction Length.digits value with
  | case1 => rfl
  | case2 value h ih =>
      rw [Octets.toNatBE] at ih ⊢
      rw [List.reverse_append, List.reverse_singleton, List.singleton_append, Octets.toNatLE, ih]
      have hdigit : (UInt8.ofNat value).toNat = value % 256 := UInt8.toNat_ofNat'
      omega

theorem length_digits_le {value : Nat} (count : Nat) (h : value < Octets.span count) :
    (Length.digits value).length ≤ count := by
  induction count generalizing value with
  | zero =>
      have hzero : value = 0 := by simpa [Octets.span] using h
      rw [hzero, Length.digits]
      exact Nat.le_refl 0
  | succ count ih =>
      rw [Octets.span] at h
      rw [Length.digits]
      split
      · exact Nat.zero_le _
      · have hdigits := ih (show value / 256 < Octets.span count by omega)
        rw [List.length_append, List.length_singleton]
        omega

theorem length_encode_le {length : Nat} (h : length < UInt64.size) :
    (Length.encode length).length ≤ 9 := by
  rw [Length.encode]
  split
  · exact Nat.succ_le_succ (Nat.zero_le 8)
  · exact Nat.succ_le_succ (length_digits_le 8 h)

theorem reads_length {length : Nat} (h : length < UInt64.size) :
    Reads Length.read (Length.encode length) length := by
  rw [Length.encode]
  split
  next hshort =>
    intro _ rest
    have hoctet : (UInt8.ofNat length).toNat = length := by
      rw [UInt8.toNat_ofNat', Nat.mod_eq_of_lt (by omega)]
    rw [Length.read, StateT.run_bind, reads_octet _ (show 1 < UInt64.size by decide)]
    change StateT.run (if (UInt8.ofNat length).toNat < 128 then _ else _) rest = _
    rw [hoctet, if_pos hshort]
    rfl
  next hlong =>
    have hcount := length_digits_le 8 h
    have hoctet : (UInt8.ofNat (128 + (Length.digits length).length)).toNat =
        128 + (Length.digits length).length := by
      rw [UInt8.toNat_ofNat', Nat.mod_eq_of_lt (by omega)]
    rw [Length.read, ← List.singleton_append]
    apply Reads.bind (reads_octet _)
    rw [hoctet, if_neg (by omega), Nat.add_sub_cancel_left]
    have hvalue : Octets.toNatBE (Length.digits length) % UInt64.size = length := by
      rw [toNatBE_digits, Nat.mod_eq_of_lt h]
    have hread : Reads (Reader.take (Length.digits length).length >>= fun octets ↦
        pure (Octets.toNatBE octets % UInt64.size)) (Length.digits length ++ []) _ :=
      (reads_take _).bind (.pure _)
    rwa [List.append_nil, hvalue] at hread

theorem length_element (tag : Tag) (content : Octets) :
    (element tag content).length =
      1 + (Length.encode content.length).length + content.length := by
  simp [element]
  omega

/-- The content of an element is read back. -/
theorem reads_element {tag : Tag} (h : tag.number < 31) (content : Octets) :
    Reads (readElement tag) (element tag content) content := by
  intro hlength
  have hcontent : content.length < UInt64.size := by
    rw [length_element] at hlength
    omega
  have hread : Reads (readElement tag)
      ([tag.encode] ++ ([] ++ (Length.encode content.length ++ content))) content :=
    (reads_tag h).bind <| (reads_require rfl).bind <| (reads_length hcontent).bind <|
      reads_take content
  exact hread hlength

/-- What stands inside an element is shorter than the element. -/
theorem length_lt_element (tag : Tag) (content : Octets) :
    content.length < (element tag content).length := by
  rw [length_element]
  omega

/-- An element is handed on to a function of octets, and what follows the element is left. -/
theorem run_through_eq_ok_iff {tag : Tag} (h : tag.number < 31)
    {inner : Octets → Except Fault α} {content rest : Octets} {value : α}
    (hlength : (element tag content).length < UInt64.size) :
    (readElement tag >>= Reader.through inner).run (element tag content ++ rest) =
      .ok (value, rest) ↔ inner content = .ok value := by
  rw [StateT.run_bind, reads_element h content hlength]
  change (Reader.through inner content).run rest = _ ↔ _
  unfold Reader.through
  cases inner content with
  | error fault => constructor <;> intro h <;> cases h
  | ok found =>
      constructor
      · intro h
        exact congrArg Except.ok (Prod.mk.inj (Except.ok.inj h)).1
      · intro h
        rw [Except.ok.inj h]
        rfl

/-- A content that a function of octets takes is read back inside an element. -/
theorem reads_through {tag : Tag} (h : tag.number < 31) {inner : Octets → Except Fault α}
    {content : Octets} {value : α}
    (hinner : content.length < UInt64.size → inner content = .ok value) :
    Reads (readElement tag >>= Reader.through inner) (element tag content) value := by
  intro hlength rest
  have hcontent := hinner (Nat.lt_trans (length_lt_element tag content) hlength)
  exact (run_through_eq_ok_iff h hlength).mpr hcontent

/-! ## Sequences -/

/-- A field is read back. -/
theorem reads_field {number : Nat} (h : number < 31) {reader : Reader α} {octets : Octets}
    {value : α} (hvalue : Reads reader octets value) :
    Reads (readField number reader) (encodeField number octets) value := by
  apply reads_through h
  intro hlength
  have hread := hvalue hlength []
  rw [List.append_nil] at hread
  rw [Reader.front, hread]
  rfl

theorem many_flatMap {reader : Reader α} {encode : α → Octets} {values : List α}
    (hvalues : ∀ value ∈ values, encode value ≠ [] ∧ Reads reader (encode value) value)
    (hlength : (values.flatMap encode).length < UInt64.size) :
    reader.many (values.flatMap encode) = .ok values := by
  induction values with
  | nil => simp [Reader.many]
  | cons value values ih =>
      obtain ⟨hne, hread⟩ := hvalues value List.mem_cons_self
      rw [List.flatMap_cons, List.length_append] at hlength
      have hlater := ih (fun other hmem ↦ hvalues other (List.mem_cons_of_mem _ hmem)) (by omega)
      have hfirst := hread (by omega) (values.flatMap encode)
      obtain ⟨octet, others, hencode⟩ := List.exists_cons_of_ne_nil hne
      rw [hencode, List.cons_append] at hfirst
      rw [List.flatMap_cons, hencode, List.cons_append, Reader.many, hfirst]
      -- The value has taken the first octet at least.
      have hshorter : (values.flatMap encode).length ≤
          (others ++ values.flatMap encode).length := by simp
      simp only [hshorter, dite_true, hlater]
      rfl

/-- Values are read back from an element. -/
theorem reads_many {reader : Reader α} {encode : α → Octets} {values : List α}
    (hvalues : ∀ value ∈ values, encode value ≠ [] ∧ Reads reader (encode value) value) :
    Reads (readMany reader) (encodeMany encode values) values :=
  reads_through (by decide) fun hlength ↦ many_flatMap hvalues hlength

/-- A message type is read back: its length is that of its body, and so fits. -/
theorem reads_message {number : Nat} (h : number < 31) {body : Reader α} {octets : Octets}
    {value : α} (hvalue : Reads body octets value) :
    Reads (readMessage number body) (encodeMessage number octets) value := by
  intro hlength
  have hcontent := Nat.lt_trans (length_lt_element _ _) hlength
  have hbody : Reads (do Reader.require (octets.length ≤ (← get).length); body) octets value := by
    intro hlength rest
    have hfits : octets.length ≤ (octets ++ rest).length := by simp
    change StateT.run (Reader.require (octets.length ≤ (octets ++ rest).length) >>= fun _ ↦ body)
      (octets ++ rest) = _
    rw [Reader.require, if_pos hfits]
    exact hvalue hlength rest
  have hread : Reads (readMessage number body)
      ([(Tag.message number).encode] ++ ([] ++ (Length.encode octets.length ++ octets))) value :=
    (reads_tag h).bind <| (reads_require rfl).bind <| (reads_length hcontent).bind hbody
  exact hread hlength

/-! ## Fields of a sequence -/

/-- Octets are used up, or start with a field of at least some number. -/
def StartsFrom (number : Nat) (octets : Octets) : Prop :=
  octets = [] ∨ ∃ next content rest, number ≤ next ∧ next < 31 ∧
    octets = encodeField next content ++ rest

theorem StartsFrom.mono {least number : Nat} {octets : Octets} (hle : least ≤ number)
    (h : StartsFrom number octets) : StartsFrom least octets := by
  rcases h with rfl | ⟨next, content, rest, hnext, hlt, rfl⟩
  · exact .inl rfl
  · exact .inr ⟨next, content, rest, Nat.le_trans hle hnext, hlt, rfl⟩

theorem run_tag_encodeField {number : Nat} (h : number < 31) (content rest : Octets) :
    Tag.read.run (encodeField number content ++ rest) =
      .ok (Tag.field number, Length.encode content.length ++ content ++ rest) := by
  have hread : Reads Tag.read [(Tag.field number).encode] (Tag.field number) := reads_tag h
  exact hread (show 1 < UInt64.size by decide) _

theorem nextIsField_encodeField {number next : Nat} (h : next < 31) (content rest : Octets) :
    nextIsField number (encodeField next content ++ rest) = decide (next = number) := by
  rw [nextIsField, run_tag_encodeField h]
  simp [Tag.field]

/-- Behind the field of a number there is no other field of that number. -/
theorem nextIsField_of_startsFrom {number : Nat} {octets : Octets}
    (h : StartsFrom (number + 1) octets) : nextIsField number octets = false := by
  rcases h with rfl | ⟨next, content, rest, hnext, hlt, rfl⟩
  · rfl
  · rw [nextIsField_encodeField hlt]
    exact decide_eq_false (by omega)

/-- A field that was written fits the octets behind its header. -/
theorem nextOverruns_encodeField {number : Nat} (h : number < 31) {content : Octets}
    (hlength : content.length < UInt64.size) (rest : Octets) :
    nextOverruns (encodeField number content ++ rest) = false := by
  have hread : (Tag.read *> Length.read).run (encodeField number content ++ rest) =
      .ok (content.length, content ++ rest) := by
    have hcount := Nat.lt_of_le_of_lt (length_encode_le hlength) (show 9 < UInt64.size by decide)
    rw [seqRight_eq_bind, StateT.run_bind, run_tag_encodeField h, List.append_assoc]
    exact reads_length hlength hcount (content ++ rest)
  have hfits : ¬(content ++ rest).length < content.length := by simp
  rw [nextOverruns, hread]
  exact decide_eq_false fun hover ↦ hfits hover.1

/-- From some number on, a reader of fields takes octets up and has a value of them. -/
structure ReadsFields (number : Nat) (fields : Reader α) (octets : Octets) (value : α) : Prop where
  starts : StartsFrom number octets
  run : octets.length < UInt64.size → fields.run octets = .ok (value, [])

namespace ReadsFields

variable {number next : Nat} {reader : Reader α} {rest : Octets} {result : β}

theorem done (number : Nat) (value : α) : ReadsFields number (pure value) [] value where
  starts := .inl rfl
  run _ := rfl

/-- A field that must be present. -/
theorem field {fields : α → Reader β} {octets : Octets} {value : α} (hle : number ≤ next)
    (hlt : next < 31) (hvalue : Reads reader octets value)
    (hrest : ReadsFields (next + 1) (fields value) rest result) :
    ReadsFields number (readField next reader >>= fields) (encodeField next octets ++ rest)
      result where
  starts := .inr ⟨next, octets, rest, hle, hlt, rfl⟩
  run hlength := by
    rw [List.length_append] at hlength
    rw [StateT.run_bind, reads_field hlt hvalue (by omega)]
    exact hrest.run (by omega)

/-- A field that may be left out. -/
theorem optional {encode : α → Octets} {fields : Option α → Reader β} {value : Option α}
    (hle : number ≤ next) (hlt : next < 31)
    (hvalue : ∀ present ∈ value, Reads reader (encode present) present)
    (hrest : ReadsFields (next + 1) (fields value) rest result) :
    ReadsFields number (readOptional next reader >>= fields)
      (encodeOptional next encode value ++ rest) result := by
  cases value with
  | none =>
      refine ⟨hrest.starts.mono (Nat.le_succ_of_le hle), fun hlength ↦ ?_⟩
      have habsent := nextIsField_of_startsFrom hrest.starts
      change StateT.run (readOptional next reader >>= fields) rest = _
      have hread : (readOptional next reader).run rest = .ok (none, rest) := by
        change StateT.run (if nextIsField next rest then _ else _) rest = _
        rw [habsent]
        rfl
      rw [StateT.run_bind, hread]
      exact hrest.run hlength
  | some present =>
      refine ⟨.inr ⟨next, encode present, rest, hle, hlt, rfl⟩, fun hlength ↦ ?_⟩
      change (encodeField next (encode present) ++ rest).length < _ at hlength
      change StateT.run (readOptional next reader >>= fields)
        (encodeField next (encode present) ++ rest) = _
      rw [List.length_append] at hlength
      have hcontent := length_lt_element (Tag.field next) (encode present)
      rw [← encodeField] at hcontent
      have hpresent : nextIsField next (encodeField next (encode present) ++ rest) = true := by
        rw [nextIsField_encodeField hlt, decide_eq_true rfl]
      have hfits := nextOverruns_encodeField hlt (show (encode present).length < _ by omega) rest
      have hfield := reads_field hlt (hvalue present rfl) (by omega) rest
      have hread : (readOptional next reader).run (encodeField next (encode present) ++ rest) =
          .ok (some present, rest) := by
        change StateT.run (if nextIsField next (encodeField next (encode present) ++ rest) then
          (do if nextOverruns (encodeField next (encode present) ++ rest) then throw .overrun
              some <$> readField next reader)
          else return none) _ = _
        rw [hpresent, hfits, if_pos rfl, if_neg Bool.false_ne_true]
        change StateT.run (some <$> readField next reader) _ = _
        rw [StateT.run_map, hfield]
        rfl
      rw [StateT.run_bind, hread]
      exact hrest.run (by omega)

end ReadsFields

/-- A sequence is read back if its fields are. -/
theorem reads_sequence {fields : Reader α} {encoded : List Octets} {value : α}
    (h : ReadsFields 0 fields encoded.flatten value) :
    Reads (readSequence fields) (encodeSequence encoded) value := by
  apply reads_through (by decide)
  intro hlength
  rw [Reader.whole, h.run hlength]
  rfl

/-- A field is shorter than its sequence. -/
theorem length_lt_encodeSequence {encoded : List Octets} {field : Octets} (h : field ∈ encoded) :
    field.length < (encodeSequence encoded).length :=
  Nat.lt_of_le_of_lt (List.sublist_flatten_of_mem h).length_le (length_lt_element _ _)

end AfsToken.Asn1
