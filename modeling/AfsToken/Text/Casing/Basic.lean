import AfsToken.Text.Casing.Mapping
import AfsToken.Text.Casing.Property

/-!
# Lower and upper case of a text

A text changes its case character by character, by mappings that are independent of the language.
The only mapping that looks at its context is that of the capital sigma: at the end of a word it
becomes the final form.  The comparisons without regard to case are two: by the lower-case mapping
of both texts, and by the letters of ASCII alone.  For two texts of ASCII characters they are one.
-/

namespace AfsToken.Text

namespace Casing

/-- Whether the first character that is not looked through has a case. -/
def startsCased (characters : List Char) : Bool :=
  match characters.dropWhile isCaseIgnorable with
  | [] => false
  | c :: _ => isCased c

/-- Whether a sigma ends a word: a letter with a case precedes it, and none follows.  The characters
before it are given from the nearest on. -/
def isFinal (before after : List Char) : Bool := startsCased before && !startsCased after

/-- The lower case of characters that follow others.  The characters before them are given from the
nearest on. -/
def lowerAfter (before : List Char) : List Char → List Char
  | [] => []
  | c :: rest =>
      (if c = 'Σ' then [if isFinal before rest then 'ς' else 'σ'] else lowercase.map c) ++
        lowerAfter (c :: before) rest

/-- A text in lower case. -/
def lower (text : String) : String := String.ofList (lowerAfter [] text.toList)

/-- A text in upper case. -/
def upper (text : String) : String := String.ofList (text.toList.flatMap uppercase.map)

/-- Whether two texts have the same lower case. -/
def sameLower (left right : String) : Bool := lower left == lower right

/-- Whether two texts are equal up to the case of ASCII letters. -/
def sameAscii (left right : String) : Bool :=
  left.toList.map Char.toLower == right.toList.map Char.toLower

end Casing

/-! ## Case in ASCII

In a text of ASCII characters the lower-case mapping changes the 26 capital letters and nothing
else. -/

/-- A text has no other characters than those of ASCII. -/
def IsAscii (text : String) : Prop := ∀ c ∈ text.toList, c.toNat < 128

instance (text : String) : Decidable (IsAscii text) :=
  List.decidableBAll (fun c : Char ↦ c.toNat < 128) text.toList

namespace Casing

/-- A property of all ASCII characters is checked on the 128 of them. -/
theorem forall_ascii {p : Char → Prop} (h : ∀ value : Fin 128, p (Char.ofNat value.val)) {c : Char}
    (hc : c.toNat < 128) : p c := by
  simpa using h ⟨c.toNat, hc⟩

/-- Only ASCII has letters that change their case in ASCII. -/
theorem toLower_of_not_ascii {c : Char} (h : 128 ≤ c.toNat) : c.toLower = c := by
  apply dif_neg
  rintro ⟨-, hle⟩
  have hle : c.toNat ≤ 90 := hle
  omega

/-- The run of the capital letters of ASCII. -/
def asciiRun : CaseRun := ⟨0x41, 0x5A, 1, 32⟩

theorem elim_map?_asciiRun {c : Char} (hc : c.toNat < 128) :
    ((asciiRun.map? c.toNat).elim [c] fun point ↦ [Char.ofNat point]) = [c.toLower] :=
  forall_ascii
    (p := fun c ↦ ((asciiRun.map? c.toNat).elim [c] fun point ↦ [Char.ofNat point]) = [c.toLower])
    (by decide +kernel) hc

/-- No other run of the lower-case mapping starts in ASCII. -/
theorem lowercase_runs_tail : ∀ run ∈ lowercase.runs.tail, 128 ≤ run.first := by
  decide +kernel

theorem lowercase_expansions_first : ∀ expansion ∈ lowercase.expansions, 128 ≤ expansion.1 := by
  decide +kernel

theorem map_lowercase_of_ascii {c : Char} (hc : c.toNat < 128) : lowercase.map c = [c.toLower] := by
  have hruns : lowercase.runs = asciiRun :: lowercase.runs.tail := rfl
  have hrest : lowercase.runs.tail.findSome? (fun run ↦ run.map? c.toNat) = none := by
    rw [List.findSome?_eq_none_iff]
    intro run hrun
    have hfirst := lowercase_runs_tail run hrun
    exact if_neg (by omega)
  have hexpansion : lowercase.expansions.lookup c.toNat = none := by
    rw [List.lookup_eq_none_iff]
    intro expansion hmem
    have hfirst := lowercase_expansions_first expansion hmem
    simpa using (show c.toNat ≠ expansion.1 by omega)
  rw [← elim_map?_asciiRun hc, CaseTable.map, hruns, List.findSome?_cons, hrest, hexpansion]
  cases asciiRun.map? c.toNat <;> rfl

theorem lowerAfter_of_ascii {characters : List Char} (h : ∀ c ∈ characters, c.toNat < 128)
    (before : List Char) : lowerAfter before characters = characters.map Char.toLower := by
  induction characters generalizing before with
  | nil => rfl
  | cons c rest ih =>
      have hc := h c List.mem_cons_self
      have hsigma : c ≠ 'Σ' := by
        rintro rfl
        exact absurd hc (by decide)
      rw [lowerAfter, if_neg hsigma, map_lowercase_of_ascii hc,
        ih fun other hother ↦ h other (List.mem_cons_of_mem c hother)]
      rfl

/-- For ASCII texts the two comparisons without regard to case are one. -/
theorem lower_eq_lower_iff_of_isAscii {left right : String} (hleft : IsAscii left)
    (hright : IsAscii right) : lower left = lower right ↔ sameAscii left right = true := by
  rw [lower, lower, lowerAfter_of_ascii hleft, lowerAfter_of_ascii hright, sameAscii, beq_iff_eq,
    String.ofList_inj]

end Casing

end AfsToken.Text
