import AfsToken.Octets.Hex
import AfsToken.Proofs.Octets.Reading
import AfsToken.Text.Casing.Basic

/-!
# The grammar of hexadecimal notation

A text writes octets if it is their notation up to the case of its letters.  The reading accepts
what is written so and nothing else, although it looks at the octets of the text and not at its
characters: a character outside ASCII has an octet that is no digit.
-/

namespace AfsToken.Octets.Hex

open AfsToken.Text

/-- In lower case, a text is the notation of octets. -/
def Writes (text : String) (octets : Octets) : Prop :=
  text.toList.map Char.toLower = (encode octets).toList

/-- The digits in ASCII, in either case. -/
def IsDigit (c : Char) : Prop := c.isDigit = true ∨ ('a' ≤ c ∧ c ≤ 'f') ∨ ('A' ≤ c ∧ c ≤ 'F')

instance (c : Char) : Decidable (IsDigit c) := by
  unfold IsDigit
  infer_instance

/-! ## Digits -/

/-- The values of the two digits of an octet. -/
def halves (octet : UInt8) : List UInt8 := [octet / 16, octet % 16]

theorem halves_combine {high low : UInt8} (hhigh : high < 16) (hlow : low < 16) :
    halves (16 * high + low) = [high, low] := by
  have hall : ∀ high low : Fin 16,
      halves (16 * UInt8.ofNat high.val + UInt8.ofNat low.val) =
        [UInt8.ofNat high.val, UInt8.ofNat low.val] := by decide
  simpa using hall ⟨high.toNat, hhigh⟩ ⟨low.toNat, hlow⟩

theorem combine_halves (octet : UInt8) : 16 * (octet / 16) + octet % 16 = octet :=
  forall_octet (p := fun octet ↦ 16 * (octet / 16) + octet % 16 = octet) (by decide +kernel) octet

theorem digitValue?_lt {octet value : UInt8} (h : digitValue? octet = some value) :
    octet < 128 ∧ value < 16 := by
  have hall : ∀ octet : UInt8, (digitValue? octet).all fun value ↦ octet < 128 ∧ value < 16 :=
    forall_octet (by decide +kernel)
  simpa [h] using hall octet

theorem encodeOctet_eq (octet : UInt8) :
    encodeOctet octet = (halves octet).map fun value ↦ Quoted.hexDigit value.toNat := by
  simp [encodeOctet, halves]

theorem digitAt_eq_ok_iff {octet value : UInt8} {position : Nat} :
    digitAt octet position = .ok value ↔ digitValue? octet = some value := by
  rw [digitAt]
  cases digitValue? octet <;> simp

/-- Pairs are read if both digits of the first are and the others are. -/
theorem decodeFrom_cons_eq_ok_iff {position : Nat} {high low : UInt8} {rest octets : Octets} :
    decodeFrom position (high :: low :: rest) = .ok octets ↔
      ∃ h l others, digitValue? high = some h ∧ digitValue? low = some l ∧
        decodeFrom (position + 2) rest = .ok others ∧ octets = (16 * h + l) :: others := by
  rw [decodeFrom]
  simp only [bind_eq_ok_iff, digitAt_eq_ok_iff]
  constructor
  · rintro ⟨h, hhigh, l, hlow, others, hrest, hoctets⟩
    cases hoctets
    exact ⟨h, l, others, hhigh, hlow, hrest, rfl⟩
  · rintro ⟨h, l, others, hhigh, hlow, hrest, rfl⟩
    exact ⟨h, hhigh, l, hlow, others, hrest, rfl⟩

/-- The reading of pairs gives octets exactly if their halves are the values of the digits. -/
theorem decodeFrom_eq_ok_iff {position : Nat} {digits octets : Octets} :
    decodeFrom position digits = .ok octets ↔
      digits.map digitValue? = (octets.flatMap halves).map some := by
  fun_induction decodeFrom position digits generalizing octets with
  | case1 position =>
      cases octets with
      | nil => simp
      | cons octet others => simp [halves]
  | case2 position digit =>
      cases octets with
      | nil => simp
      | cons octet others => simp [halves]
  | case3 position high low rest ih =>
      change decodeFrom position (high :: low :: rest) = .ok octets ↔ _
      rw [decodeFrom_cons_eq_ok_iff]
      constructor
      · rintro ⟨h, l, others, hhigh, hlow, hrest, rfl⟩
        rw [List.map_cons, List.map_cons, hhigh, hlow, ih.mp hrest, List.flatMap_cons,
          halves_combine (digitValue?_lt hhigh).2 (digitValue?_lt hlow).2]
        rfl
      · intro hvalues
        cases octets with
        | nil => cases hvalues
        | cons octet others =>
            simp only [List.map_cons, List.flatMap_cons, halves, List.cons_append,
              List.nil_append, List.cons.injEq] at hvalues
            obtain ⟨hhigh, hlow, hrest⟩ := hvalues
            exact ⟨_, _, others, hhigh, hlow, ih.mpr hrest, by rw [combine_halves]⟩

/-! ## Characters -/

/-- A character outside ASCII has an octet that is no digit. -/
theorem none_mem_of_not_ascii {c : Char} (h : 128 ≤ c.toNat) :
    none ∈ (String.utf8EncodeChar c).map digitValue? := by
  have hlast : digitValue? (UInt8.ofNat (c.val.toNat % 64 + 128)) = none := by
    apply Option.eq_none_iff_forall_ne_some.mpr
    intro value hvalue
    have hlt := UInt8.lt_iff_toNat_lt.mp (digitValue?_lt hvalue).1
    simp only [UInt8.toNat_ofNat', UInt8.reduceToNat] at hlt
    omega
  have hmem : UInt8.ofNat (c.val.toNat % 64 + 128) ∈ String.utf8EncodeChar c := by
    have hlarge : ¬c.val.toNat ≤ 127 := Nat.not_le.mpr h
    simp only [String.utf8EncodeChar, if_neg hlarge]
    split
    · simp
    split <;> simp
  exact List.mem_map.mpr ⟨_, hmem, hlast⟩

theorem toNat_hexDigit_lt {value : UInt8} (h : value < 16) :
    (Quoted.hexDigit value.toNat).toNat < 128 := by
  have hall : ∀ value : Fin 16, (Quoted.hexDigit value.val).toNat < 128 := by decide
  exact hall ⟨value.toNat, h⟩

theorem digitValue?_ascii_iff {c : Char} (hc : c.toNat < 128) {value : UInt8}
    (hvalue : value < 16) :
    digitValue? (UInt8.ofNat c.toNat) = some value ↔
      c.toLower = Quoted.hexDigit value.toNat := by
  have hall : ∀ value : Fin 16, ∀ c : Fin 128,
      digitValue? (UInt8.ofNat (Char.ofNat c.val).toNat) = some (UInt8.ofNat value.val) ↔
        (Char.ofNat c.val).toLower = Quoted.hexDigit value.val := by decide +kernel
  have hc := Casing.forall_ascii (p := fun c ↦ digitValue? (UInt8.ofNat c.toNat) =
    some (UInt8.ofNat value.toNat) ↔ c.toLower = Quoted.hexDigit value.toNat)
    (hall ⟨value.toNat, hvalue⟩) hc
  rwa [UInt8.ofNat_toNat] at hc

/-- The octets of characters are digits with some values exactly if in lower case the characters are
the digits of these values. -/
theorem map_digitValue?_iff {characters : List Char} {values : List UInt8}
    (hvalues : ∀ value ∈ values, value < 16) :
    (characters.flatMap String.utf8EncodeChar).map digitValue? = values.map some ↔
      characters.map Char.toLower = values.map fun value ↦ Quoted.hexDigit value.toNat := by
  induction characters generalizing values with
  | nil => cases values <;> simp
  | cons c rest ih =>
      by_cases hc : c.toNat < 128
      case pos =>
        have hfirst : String.utf8EncodeChar c = [UInt8.ofNat c.toNat] :=
          if_pos (Nat.le_of_lt_succ hc)
        rw [List.flatMap_cons, hfirst]
        cases values with
        | nil => simp
        | cons value values =>
            have hall := List.forall_mem_cons.mp hvalues
            simp only [List.cons_append, List.nil_append, List.map_cons, List.cons.injEq,
              digitValue?_ascii_iff hc hall.1, ih hall.2]
      case neg =>
        have hlarge : 128 ≤ c.toNat := Nat.not_lt.mp hc
        constructor
        · intro hdigits
          have hnone := List.mem_append_left
            ((rest.flatMap String.utf8EncodeChar).map digitValue?) (none_mem_of_not_ascii hlarge)
          rw [← List.map_append, ← List.flatMap_cons, hdigits] at hnone
          simp at hnone
        · intro hlower
          cases values with
          | nil => cases hlower
          | cons value values =>
              have hfirst : c.toLower = Quoted.hexDigit value.toNat := (List.cons.inj hlower).1
              rw [Casing.toLower_of_not_ascii hlarge] at hfirst
              have hsmall := toNat_hexDigit_lt (hvalues value List.mem_cons_self)
              rw [← hfirst] at hsmall
              exact absurd hsmall hc

theorem halves_lt {octet value : UInt8} (h : value ∈ halves octet) : value < 16 := by
  have hbounds : octet / 16 < 16 ∧ octet % 16 < 16 :=
    forall_octet (p := fun octet ↦ octet / 16 < 16 ∧ octet % 16 < 16) (by decide +kernel) octet
  simp only [halves, List.mem_cons, List.not_mem_nil, or_false] at h
  rcases h with rfl | rfl
  · exact hbounds.1
  · exact hbounds.2

theorem isDigit_iff {c : Char} :
    IsDigit c ↔ ∃ value : UInt8, value < 16 ∧ c.toLower = Quoted.hexDigit value.toNat := by
  by_cases hc : c.toNat < 128
  case pos =>
    have hsome : IsDigit c ↔ (digitValue? (UInt8.ofNat c.toNat)).isSome :=
      Casing.forall_ascii (p := fun c ↦ IsDigit c ↔ (digitValue? (UInt8.ofNat c.toNat)).isSome)
        (by decide) hc
    rw [hsome, Option.isSome_iff_exists]
    constructor
    · rintro ⟨value, hvalue⟩
      have hlt := (digitValue?_lt hvalue).2
      exact ⟨value, hlt, (digitValue?_ascii_iff hc hlt).mp hvalue⟩
    · rintro ⟨value, hlt, hvalue⟩
      exact ⟨value, (digitValue?_ascii_iff hc hlt).mpr hvalue⟩
  case neg =>
    have hlarge : 128 ≤ c.toNat := Nat.not_lt.mp hc
    constructor
    · have hascii (last : Char) (hlast : last.toNat < 128) : ¬c ≤ last :=
        fun hle ↦ hc (Nat.lt_of_le_of_lt hle hlast)
      rintro (hdigit | ⟨-, hle⟩ | ⟨-, hle⟩)
      · rw [Char.isDigit, Bool.and_eq_true, decide_eq_true_eq, decide_eq_true_eq] at hdigit
        exact absurd hdigit.2 (hascii '9' (by decide))
      · exact absurd hle (hascii 'f' (by decide))
      · exact absurd hle (hascii 'F' (by decide))
    · rintro ⟨value, hlt, hvalue⟩
      rw [Casing.toLower_of_not_ascii hlarge] at hvalue
      exact absurd (hvalue ▸ toNat_hexDigit_lt hlt) hc

/-! ## Texts -/

theorem toList_encode (octets : Octets) :
    (encode octets).toList =
      (octets.flatMap halves).map fun value ↦ Quoted.hexDigit value.toNat := by
  rw [encode, String.toList_ofList, List.map_flatMap]
  exact congrArg (fun write ↦ octets.flatMap write) (funext encodeOctet_eq)

theorem length_halves (octets : Octets) : (octets.flatMap halves).length = 2 * octets.length := by
  induction octets with
  | nil => rfl
  | cons octet rest ih =>
      rw [List.flatMap_cons, List.length_append, ih, List.length_cons]
      simp only [halves, List.length_cons, List.length_nil]
      omega

/-- The reading accepts the grammar. -/
theorem decode_eq_ok_iff {text : String} {octets : Octets} :
    decode text = .ok octets ↔ Writes text octets := by
  have hhalves : ∀ value ∈ octets.flatMap halves, value < 16 := by
    intro value hvalue
    obtain ⟨octet, -, hhalf⟩ := List.mem_flatMap.mp hvalue
    exact halves_lt hhalf
  have hpairs : decodeFrom 0 (Utf8.encode text) = .ok octets ↔ Writes text octets := by
    rw [decodeFrom_eq_ok_iff, Utf8.encode, map_digitValue?_iff hhalves, Writes, toList_encode]
  rw [← hpairs, decode]
  split
  next hodd =>
    refine iff_of_false (fun h ↦ by cases h) fun hdecode ↦ ?_
    have hlength := congrArg List.length (decodeFrom_eq_ok_iff.mp hdecode)
    rw [List.length_map, List.length_map, length_halves] at hlength
    omega
  next => rfl

/-- Two digits are the notation of an octet, in either case. -/
theorem exists_octet_of_isDigit {high low : Char} (hhigh : IsDigit high) (hlow : IsDigit low) :
    ∃ octet, [high, low].map Char.toLower = encodeOctet octet := by
  obtain ⟨h, hh, hhigh⟩ := isDigit_iff.mp hhigh
  obtain ⟨l, hl, hlow⟩ := isDigit_iff.mp hlow
  refine ⟨16 * h + l, ?_⟩
  rw [encodeOctet_eq, halves_combine hh hl, List.map_cons, List.map_cons, hhigh, hlow]
  rfl

theorem exists_octets_of_isDigit : ∀ {characters : List Char}, characters.length % 2 = 0 →
    (∀ c ∈ characters, IsDigit c) →
    ∃ octets : Octets, characters.map Char.toLower = octets.flatMap encodeOctet
  | [], _, _ => ⟨[], rfl⟩
  | [_], hlength, _ => by simp at hlength
  | high :: low :: rest, hlength, hdigits => by
      have hlength : rest.length % 2 = 0 := by
        rw [List.length_cons, List.length_cons] at hlength
        omega
      simp only [List.forall_mem_cons] at hdigits
      obtain ⟨octet, hoctet⟩ := exists_octet_of_isDigit hdigits.1 hdigits.2.1
      obtain ⟨octets, hrest⟩ := exists_octets_of_isDigit hlength hdigits.2.2
      refine ⟨octet :: octets, ?_⟩
      rw [List.flatMap_cons, ← hoctet, ← hrest]
      rfl

/-- A text writes some octets exactly if its characters are digits and their number is even. -/
theorem exists_writes_iff {text : String} :
    (∃ octets, Writes text octets) ↔ text.length % 2 = 0 ∧ ∀ c ∈ text.toList, IsDigit c := by
  rw [← String.length_toList]
  constructor
  · rintro ⟨octets, hwrites⟩
    rw [Writes, toList_encode] at hwrites
    constructor
    · have hlength := congrArg List.length hwrites
      rw [List.length_map, List.length_map, length_halves] at hlength
      omega
    · intro c hc
      have hlower := List.mem_map_of_mem (f := Char.toLower) hc
      rw [hwrites] at hlower
      obtain ⟨value, hvalue, hdigit⟩ := List.mem_map.mp hlower
      obtain ⟨octet, -, hhalf⟩ := List.mem_flatMap.mp hvalue
      exact isDigit_iff.mpr ⟨value, halves_lt hhalf, hdigit.symm⟩
  · rintro ⟨hlength, hdigits⟩
    obtain ⟨octets, hoctets⟩ := exists_octets_of_isDigit hlength hdigits
    refine ⟨octets, ?_⟩
    rw [Writes, encode, String.toList_ofList]
    exact hoctets

end AfsToken.Octets.Hex
