import AfsToken.Text.Utf8

/-!
# Texts that octets write

The strict reading accepts nothing but what a text is written as: each well-formed piece is the
octets of its character, in the one form that the first octet and the ranges leave.  So octets write
a text exactly if they are read as it.
-/

namespace AfsToken.Text.Utf8

/-- What a first octet promises: the octets of a character of up to four, without overlong forms,
surrogates and values past the last code point. -/
theorem lead_cases {octet bits : Nat} {ranges : List (Nat × Nat)}
    (h : lead octet = some (bits, ranges)) :
    (octet < 0x80 ∧ bits = octet ∧ ranges = []) ∨
    (2 ≤ bits ∧ bits < 32 ∧ octet = bits + 192 ∧ ranges = [tailRange]) ∨
    (bits < 16 ∧ octet = bits + 224 ∧
      ranges = [if bits = 0 then (0xA0, 0xBF) else if bits = 13 then (0x80, 0x9F) else tailRange,
        tailRange]) ∨
    (bits < 5 ∧ octet = bits + 240 ∧
      ranges = [if bits = 0 then (0x90, 0xBF) else if bits = 4 then (0x80, 0x8F) else tailRange,
        tailRange, tailRange]) := by
  by_cases hone : octet < 0x80
  · rw [lead, if_pos hone] at h
    cases h
    exact .inl ⟨hone, rfl, rfl⟩
  by_cases htwo : octet < 0xE0
  · rw [lead, if_neg hone] at h
    split at h
    next => cases h
    next =>
      simp only [Option.some.injEq, Prod.mk.injEq] at h
      obtain ⟨rfl, rfl⟩ := h
      exact .inr (.inl ⟨by omega, by omega, by omega, rfl⟩)
  by_cases hthree : octet < 0xF0
  · obtain ⟨high, rfl⟩ : ∃ high : Fin 16, octet = high.val + 224 :=
      ⟨⟨octet - 224, by omega⟩, by dsimp only; omega⟩
    rw [lead_of_three] at h
    cases h
    exact .inr (.inr (.inl ⟨high.isLt, rfl, rfl⟩))
  by_cases hfour : octet < 0xF5
  · obtain ⟨high, rfl⟩ : ∃ high : Fin 5, octet = high.val + 240 :=
      ⟨⟨octet - 240, by omega⟩, by dsimp only; omega⟩
    rw [lead_of_four] at h
    cases h
    exact .inr (.inr (.inr ⟨high.isLt, rfl, rfl⟩))
  · have hnone : lead octet = none := by grind [lead]
    rw [hnone] at h
    cases h

/-- Each octet that must follow is there, and its six bits are collected. -/
theorem follow_cons_eq_some {bits value : Nat} {range : Nat × Nat} {ranges : List (Nat × Nat)}
    {octets left : Octets} (h : follow bits (range :: ranges) octets = (some value, left)) :
    ∃ octet rest, octets = octet :: rest ∧ range.1 ≤ octet.toNat ∧ octet.toNat ≤ range.2 ∧
      follow (64 * bits + octet.toNat % 64) ranges rest = (some value, left) := by
  cases octets with
  | nil => cases h
  | cons octet rest =>
      unfold follow at h
      split at h
      next hrange => exact ⟨octet, rest, rfl, hrange.1, hrange.2, h⟩
      next => cases h

theorem toNat_val_ofNat (value : Nat) (h : value.isValidChar) :
    (Char.ofNat value).val.toNat = value := by
  rw [Char.ofNat, dif_pos h]
  rfl

theorem eq_ofNat (octet : UInt8) {value : Nat} (h : octet.toNat = value) :
    octet = UInt8.ofNat value := by
  rw [← h, UInt8.ofNat_toNat]

section Pieces

variable {first : UInt8} {rest left : Octets} {bits value : Nat}

/-- The octets of a character of two. -/
theorem eq_utf8EncodeChar_of_two (hbits : 2 ≤ bits ∧ bits < 32) (hfirst : first.toNat = bits + 192)
    (h : follow bits [tailRange] rest = (some value, left)) :
    first :: rest = String.utf8EncodeChar (Char.ofNat value) ++ left := by
  obtain ⟨second, rest, rfl, hlow, hhigh, h⟩ := follow_cons_eq_some h
  cases h
  simp only [tailRange] at hlow hhigh
  have hvalue := toNat_val_ofNat (64 * bits + second.toNat % 64)
    (by unfold Nat.isValidChar; omega)
  rw [String.utf8EncodeChar]
  simp only [hvalue]
  rw [if_neg (by omega), if_pos (by omega),
    ← eq_ofNat first (by omega), ← eq_ofNat second (by omega)]
  rfl

/-- The octets of a character of three. -/
theorem eq_utf8EncodeChar_of_three (hbits : bits < 16) (hfirst : first.toNat = bits + 224)
    (h : follow bits [if bits = 0 then (0xA0, 0xBF) else
      if bits = 13 then (0x80, 0x9F) else tailRange, tailRange] rest = (some value, left)) :
    first :: rest = String.utf8EncodeChar (Char.ofNat value) ++ left := by
  obtain ⟨second, rest, rfl, hlow, hhigh, h⟩ := follow_cons_eq_some h
  obtain ⟨third, rest, rfl, hlow', hhigh', h⟩ := follow_cons_eq_some h
  cases h
  -- The narrower ranges keep the value out of the shorter forms and out of the surrogates.
  have hsecond : 0x80 ≤ second.toNat ∧ second.toNat ≤ 0xBF ∧ (bits = 0 → 0xA0 ≤ second.toNat) ∧
      (bits = 13 → second.toNat ≤ 0x9F) := by
    grind [tailRange]
  simp only [tailRange] at hlow' hhigh'
  have hvalue := toNat_val_ofNat
    (64 * (64 * bits + second.toNat % 64) + third.toNat % 64)
    (by unfold Nat.isValidChar; omega)
  rw [String.utf8EncodeChar]
  simp only [hvalue]
  rw [if_neg (by omega), if_neg (by omega), if_pos (by omega),
    ← eq_ofNat first (by omega), ← eq_ofNat second (by omega), ← eq_ofNat third (by omega)]
  rfl

/-- The octets of a character of four. -/
theorem eq_utf8EncodeChar_of_four (hbits : bits < 5) (hfirst : first.toNat = bits + 240)
    (h : follow bits [if bits = 0 then (0x90, 0xBF) else
      if bits = 4 then (0x80, 0x8F) else tailRange, tailRange, tailRange] rest =
        (some value, left)) :
    first :: rest = String.utf8EncodeChar (Char.ofNat value) ++ left := by
  obtain ⟨second, rest, rfl, hlow, hhigh, h⟩ := follow_cons_eq_some h
  obtain ⟨third, rest, rfl, hlow', hhigh', h⟩ := follow_cons_eq_some h
  obtain ⟨fourth, rest, rfl, hlow'', hhigh'', h⟩ := follow_cons_eq_some h
  cases h
  -- The narrower ranges keep the value out of the shorter forms and below the end of Unicode.
  have hsecond : 0x80 ≤ second.toNat ∧ second.toNat ≤ 0xBF ∧ (bits = 0 → 0x90 ≤ second.toNat) ∧
      (bits = 4 → second.toNat ≤ 0x8F) := by
    grind [tailRange]
  simp only [tailRange] at hlow' hhigh' hlow'' hhigh''
  have hvalue := toNat_val_ofNat
    (64 * (64 * (64 * bits + second.toNat % 64) + third.toNat % 64) + fourth.toNat % 64)
    (by unfold Nat.isValidChar; omega)
  rw [String.utf8EncodeChar]
  simp only [hvalue]
  rw [if_neg (by omega), if_neg (by omega), if_neg (by omega),
    ← eq_ofNat first (by omega), ← eq_ofNat second (by omega),
    ← eq_ofNat third (by omega), ← eq_ofNat fourth (by omega)]
  rfl

/-- A well-formed piece is the octets of its character. -/
theorem eq_utf8EncodeChar_of_piece {c : Char} (h : piece first rest = (some c, left)) :
    first :: rest = String.utf8EncodeChar c ++ left := by
  unfold piece at h
  split at h
  · cases h
  next bits ranges hlead =>
    obtain ⟨hc, hleft⟩ := Prod.mk.inj h
    obtain ⟨value, hvalue, rfl⟩ := Option.map_eq_some_iff.mp hc
    have hfollow : follow bits ranges rest = (some value, left) := Prod.ext hvalue hleft
    rcases lead_cases hlead with
      ⟨hone, rfl, rfl⟩ | ⟨hlow, hhigh, hfirst, rfl⟩ | ⟨hbits, hfirst, rfl⟩ | ⟨hbits, hfirst, rfl⟩
    · cases hfollow
      have hvalue := toNat_val_ofNat first.toNat (.inl (by omega))
      rw [String.utf8EncodeChar]
      simp only [hvalue]
      rw [if_pos (by omega), UInt8.ofNat_toNat]
      rfl
    · exact eq_utf8EncodeChar_of_two ⟨hlow, hhigh⟩ hfirst hfollow
    · exact eq_utf8EncodeChar_of_three hbits hfirst hfollow
    · exact eq_utf8EncodeChar_of_four hbits hfirst hfollow

end Pieces

theorem eq_flatMap_of_pieces {octets : Octets} {characters : List Char}
    (h : pieces octets = characters.map some) :
    octets = characters.flatMap String.utf8EncodeChar := by
  induction characters generalizing octets with
  | nil =>
      cases octets with
      | nil => rfl
      | cons first rest =>
          rw [pieces] at h
          cases h
  | cons c characters ih =>
      cases octets with
      | nil =>
          rw [pieces] at h
          cases h
      | cons first rest =>
          rw [pieces, List.map_cons, List.cons.injEq] at h
          have hpiece : piece first rest = (some c, (piece first rest).2) := Prod.ext h.1 rfl
          rw [eq_utf8EncodeChar_of_piece hpiece, ih h.2, List.flatMap_cons]

/-- Pieces are all characters if they are collected as characters. -/
theorem eq_map_some_of_mapM {found : List (Option Char)} {characters : List Char}
    (h : found.mapM id = some characters) : found = characters.map some := by
  induction found generalizing characters with
  | nil =>
      cases h
      rfl
  | cons first rest ih =>
      rw [List.mapM_cons] at h
      obtain ⟨c, hfirst, h⟩ := Option.bind_eq_some_iff.mp h
      obtain ⟨others, hrest, h⟩ := Option.bind_eq_some_iff.mp h
      cases h
      rw [List.map_cons, ← ih hrest, ← hfirst, id]

/-- Octets are read as a text exactly if they are what the text is written as. -/
theorem decode?_eq_some_iff {octets : Octets} {text : String} :
    decode? octets = some text ↔ octets = encode text := by
  constructor
  · intro h
    obtain ⟨characters, hmap, rfl⟩ := Option.map_eq_some_iff.mp h
    rw [encode, String.toList_ofList]
    exact eq_flatMap_of_pieces (eq_map_some_of_mapM hmap)
  · rintro rfl
    exact decode?_encode text

/-- Octets are read as no text exactly if no text is written as them. -/
theorem decode?_eq_none_iff {octets : Octets} :
    decode? octets = none ↔ ∀ text, octets ≠ encode text := by
  rw [Option.eq_none_iff_forall_ne_some]
  exact forall_congr' fun text ↦ not_congr decode?_eq_some_iff

end AfsToken.Text.Utf8
