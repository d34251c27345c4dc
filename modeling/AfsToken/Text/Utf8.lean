import AfsToken.Octets.Basic

/-!
# UTF-8

A text is written as the octets of its characters.  Reading cuts an octet string into pieces: a
well-formed character, or a maximal part that starts none or breaks off too early.  The strict
reading accepts a string whose pieces are all characters; the lossy reading puts one replacement
character for each other piece.  Both give back a text that was written.
-/

namespace AfsToken.Text.Utf8

/-- The octets of a text. -/
def encode (text : String) : Octets := text.toList.flatMap String.utf8EncodeChar

/-- The range of an octet inside a character, where its first octet asks for no narrower one. -/
def tailRange : Nat × Nat := (0x80, 0xBF)

/-- What the first octet of a character promises: the bits it contributes and the range of each
octet that must follow.  The narrower ranges exclude overlong forms, surrogates and values past the
last code point.  An octet that starts no character promises nothing. -/
def lead (octet : Nat) : Option (Nat × List (Nat × Nat)) :=
  if octet < 0x80 then some (octet, [])
  else if octet < 0xC2 then none
  else if octet < 0xE0 then some (octet - 0xC0, [tailRange])
  else if octet = 0xE0 then some (0, [(0xA0, 0xBF), tailRange])
  else if octet = 0xED then some (0xD, [(0x80, 0x9F), tailRange])
  else if octet < 0xF0 then some (octet - 0xE0, [tailRange, tailRange])
  else if octet = 0xF0 then some (0, [(0x90, 0xBF), tailRange, tailRange])
  else if octet < 0xF4 then some (octet - 0xF0, [tailRange, tailRange, tailRange])
  else if octet = 0xF4 then some (4, [(0x80, 0x8F), tailRange, tailRange])
  else none

/-- Collects six bits from each octet that must follow.  The first one out of its range stays in
front of the rest, and so ends an ill-formed part. -/
def follow (bits : Nat) : List (Nat × Nat) → Octets → Option Nat × Octets
  | [], rest => (some bits, rest)
  | _ :: _, [] => (none, [])
  | (low, high) :: ranges, octet :: rest =>
      if low ≤ octet.toNat ∧ octet.toNat ≤ high then
        follow (64 * bits + octet.toNat % 64) ranges rest
      else (none, octet :: rest)

theorem length_follow_le (bits : Nat) (ranges : List (Nat × Nat)) (octets : Octets) :
    (follow bits ranges octets).2.length ≤ octets.length := by
  fun_induction follow bits ranges octets <;> grind

/-- The piece that starts with an octet, and what is left after it. -/
def piece (first : UInt8) (rest : Octets) : Option Char × Octets :=
  match lead first.toNat with
  | none => (none, rest)
  | some (bits, ranges) =>
      let (value, rest) := follow bits ranges rest
      (value.map Char.ofNat, rest)

theorem length_piece_le (first : UInt8) (rest : Octets) :
    (piece first rest).2.length ≤ rest.length := by
  unfold piece
  split
  · exact Nat.le_refl _
  · exact length_follow_le _ _ _

/-- The pieces of an octet string: its characters, and `none` for each maximal ill-formed part. -/
def pieces : Octets → List (Option Char)
  | [] => []
  | first :: rest => (piece first rest).1 :: pieces (piece first rest).2
termination_by octets => octets.length
decreasing_by exact Nat.lt_succ_of_le (length_piece_le first rest)

/-- The text that an octet string writes, if it is well formed throughout. -/
def decode? (octets : Octets) : Option String := ((pieces octets).mapM id).map String.ofList

/-- The text of an octet string, with U+FFFD for each maximal ill-formed part. -/
def decodeLossy (octets : Octets) : String :=
  String.ofList ((pieces octets).map fun piece ↦ piece.getD '\uFFFD')

/-- An octet that writes six bits of a value passes them on, if the range admits it. -/
theorem follow_tail {range : Nat × Nat} {value : Nat} (bits : Nat) (ranges : List (Nat × Nat))
    (rest : Octets) (hlow : range.1 ≤ value % 64 + 128) (hhigh : value % 64 + 128 ≤ range.2) :
    follow bits (range :: ranges) (UInt8.ofNat (value % 64 + 128) :: rest) =
      follow (64 * bits + value % 64) ranges rest := by
  have hsmall : (value % 64 + 128) % 256 = value % 64 + 128 := by omega
  have hbits : (value % 64 + 128) % 64 = value % 64 := by omega
  simp [follow, hsmall, hbits, hlow, hhigh]

theorem lead_of_three (high : Fin 16) : lead (high.val + 224) =
    some (high.val, [if high.val = 0 then (0xA0, 0xBF) else
      if high.val = 13 then (0x80, 0x9F) else tailRange, tailRange]) := by
  revert high
  decide

theorem lead_of_four (high : Fin 5) : lead (high.val + 240) =
    some (high.val, [if high.val = 0 then (0x90, 0xBF) else
      if high.val = 4 then (0x80, 0x8F) else tailRange, tailRange, tailRange]) := by
  revert high
  decide

/-- The octets of a character are one piece, whatever follows them. -/
theorem pieces_utf8EncodeChar_append (c : Char) (rest : Octets) :
    pieces (String.utf8EncodeChar c ++ rest) = some c :: pieces rest := by
  have hvalid := c.valid
  have hofNat : Char.ofNat c.val.toNat = c := Char.ofNat_toNat c
  simp only [UInt32.isValidChar, Nat.isValidChar] at hvalid
  suffices hpiece : ∃ first tail, String.utf8EncodeChar c = first :: tail ∧
      piece first (tail ++ rest) = (some c, rest) by
    obtain ⟨first, tail, hencode, hpiece⟩ := hpiece
    rw [hencode, List.cons_append, pieces, hpiece]
  generalize hv : c.val.toNat = v at hvalid hofNat
  unfold String.utf8EncodeChar
  simp only [hv]
  split
  · next h =>
      refine ⟨_, _, rfl, ?_⟩
      have hlead : lead (v % 256) = some (v, []) := by grind [lead]
      simp [piece, hlead, follow, hofNat]
  split
  · next h h' =>
      refine ⟨_, _, rfl, ?_⟩
      have hlead : lead ((v / 64 % 32 + 192) % 256) = some (v / 64, [tailRange]) := by grind [lead]
      have hvalue : 64 * (v / 64) + v % 64 = v := by omega
      simp only [piece, UInt8.toNat_ofNat', Nat.reducePow, hlead, List.cons_append, List.nil_append]
      rw [follow_tail _ _ _ (by simp [tailRange]) (by simp [tailRange]; omega)]
      simp [follow, hvalue, hofNat]
  split
  · next h h' h'' =>
      refine ⟨_, _, rfl, ?_⟩
      have hfirst : (v / 4096 % 16 + 224) % 256 = v / 4096 + 224 := by omega
      have hlead := lead_of_three ⟨v / 4096, by omega⟩
      have hvalue : 64 * (64 * (v / 4096) + v / 64 % 64) + v % 64 = v := by omega
      simp only [piece, UInt8.toNat_ofNat', Nat.reducePow, hfirst, hlead, List.cons_append,
        List.nil_append]
      rw [follow_tail _ _ _ (by grind [tailRange]) (by grind [tailRange]),
        follow_tail _ _ _ (by simp [tailRange]) (by simp [tailRange]; omega)]
      simp [follow, hvalue, hofNat]
  · next h h' h'' =>
      refine ⟨_, _, rfl, ?_⟩
      have hfirst : (v / 262144 % 8 + 240) % 256 = v / 262144 + 240 := by omega
      have hlead := lead_of_four ⟨v / 262144, by omega⟩
      have hvalue : 64 * (64 * (64 * (v / 262144) + v / 4096 % 64) + v / 64 % 64) + v % 64 = v := by
        omega
      simp only [piece, UInt8.toNat_ofNat', Nat.reducePow, hfirst, hlead, List.cons_append,
        List.nil_append]
      rw [follow_tail _ _ _ (by grind [tailRange]) (by grind [tailRange]),
        follow_tail _ _ _ (by simp [tailRange]) (by simp [tailRange]; omega),
        follow_tail _ _ _ (by simp [tailRange]) (by simp [tailRange]; omega)]
      simp [follow, hvalue, hofNat]

theorem pieces_encode (text : String) : pieces (encode text) = text.toList.map some := by
  unfold encode
  induction text.toList with
  | nil => simp [pieces]
  | cons c rest ih => simp [List.flatMap_cons, pieces_utf8EncodeChar_append, ih]

/-- A text that was written is read back. -/
@[simp]
theorem decode?_encode (text : String) : decode? (encode text) = some text := by
  have hall (characters : List Char) : (characters.map some).mapM id = some characters := by
    induction characters with
    | nil => rfl
    | cons c rest ih => simp [ih]
  simp [decode?, pieces_encode, hall]

/-- The lossy reading loses nothing of a text that was written. -/
@[simp]
theorem decodeLossy_encode (text : String) : decodeLossy (encode text) = text := by
  simp [decodeLossy, pieces_encode, Function.comp_def]

/-- Each character of ASCII is one octet. -/
theorem encode_ofList_of_ascii {characters : List Char} (h : ∀ c ∈ characters, c.toNat < 128) :
    encode (String.ofList characters) = characters.map fun c ↦ UInt8.ofNat c.toNat := by
  rw [encode, String.toList_ofList]
  induction characters with
  | nil => rfl
  | cons c rest ih =>
      have hfirst : String.utf8EncodeChar c = [UInt8.ofNat c.toNat] := by
        have hle : c.val.toNat ≤ 127 := Nat.le_of_lt_succ (h c List.mem_cons_self)
        rw [String.utf8EncodeChar]
        exact if_pos hle
      rw [List.flatMap_cons, hfirst, ih fun d hd ↦ h d (List.mem_cons_of_mem _ hd)]
      rfl

end AfsToken.Text.Utf8
