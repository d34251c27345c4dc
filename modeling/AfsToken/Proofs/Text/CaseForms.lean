import AfsToken.Proofs.Text.Folding
import AfsToken.Text.Casing.Basic
import Mathlib.Data.List.Forall2

/-!
# Forms of a text

Texts that are equal up to the case of ASCII letters have the same lower case, for the case of an
ASCII letter changes neither what the letter maps to nor where a word ends.  The converse fails for
a text with another form: one that has the same lower case and differs in more than ASCII letters.
Of the ASCII letters only `k` has such a form, the Kelvin sign.
-/

namespace AfsToken.Text.Casing

/-! ## Letters in one place -/

/-- Two characters that the lower case of a text does not tell apart: they map to the same
characters, and they count alike in the search for the end of a word. -/
structure SameLetter (left right : Char) : Prop where
  map : lowercase.map left = lowercase.map right
  cased : isCased left = isCased right
  ignorable : isCaseIgnorable left = isCaseIgnorable right
  sigma : left = 'Σ' ↔ right = 'Σ'

namespace SameLetter

theorem refl (c : Char) : SameLetter c c := ⟨rfl, rfl, rfl, Iff.rfl⟩

theorem symm {c d : Char} (h : SameLetter c d) : SameLetter d c :=
  ⟨h.map.symm, h.cased.symm, h.ignorable.symm, h.sigma.symm⟩

theorem trans {c d e : Char} (hfirst : SameLetter c d) (hsecond : SameLetter d e) :
    SameLetter c e :=
  ⟨hfirst.map.trans hsecond.map, hfirst.cased.trans hsecond.cased,
    hfirst.ignorable.trans hsecond.ignorable, hfirst.sigma.trans hsecond.sigma⟩

end SameLetter

theorem startsCased_cons (c : Char) (rest : List Char) :
    startsCased (c :: rest) = if isCaseIgnorable c then startsCased rest else isCased c := by
  rw [startsCased, List.dropWhile_cons]
  cases isCaseIgnorable c <;> rfl

variable {left right before before' : List Char}

theorem startsCased_eq_of_forall₂ (h : List.Forall₂ SameLetter left right) :
    startsCased left = startsCased right := by
  induction h with
  | nil => rfl
  | cons hletter _ ih =>
      rw [startsCased_cons, startsCased_cons, hletter.ignorable, hletter.cased, ih]

/-- The lower case is the same where the letters in all places are, also in the places before. -/
theorem lowerAfter_eq_of_forall₂ (hbefore : List.Forall₂ SameLetter before before')
    (h : List.Forall₂ SameLetter left right) :
    lowerAfter before left = lowerAfter before' right := by
  induction h generalizing before before' with
  | nil => rfl
  | cons hletter hrest ih =>
      have hfinal := congrArg₂ (fun starts ends ↦ starts && !ends)
        (startsCased_eq_of_forall₂ hbefore) (startsCased_eq_of_forall₂ hrest)
      rw [lowerAfter, lowerAfter, ih (.cons hletter hbefore), hletter.map]
      unfold isFinal
      rw [hfinal]
      simp only [hletter.sigma]

/-! ## Letters of ASCII -/

/-- That a function of characters disregards the case of ASCII letters is checked on the 26 capital
letters. -/
theorem apply_toLower {α : Type} {f : Char → α}
    (h : ∀ offset : Fin 26,
      f (Char.ofNat (offset.val + 65)).toLower = f (Char.ofNat (offset.val + 65)))
    (c : Char) : f c.toLower = f c := by
  by_cases hcapital : 65 ≤ c.toNat ∧ c.toNat ≤ 90
  · simpa [Nat.sub_add_cancel hcapital.1] using h ⟨c.toNat - 65, by omega⟩
  · rw [show c.toLower = c from dif_neg hcapital]

theorem caseIgnorableRanges_miss : ∀ range ∈ caseIgnorableRanges,
    range.2 < 65 ∨ (90 < range.1 ∧ range.2 < 97) ∨ 122 < range.1 := by
  decide +kernel

/-- No letter of ASCII is looked through. -/
theorem isCaseIgnorable_of_letter {c : Char}
    (h : (65 ≤ c.toNat ∧ c.toNat ≤ 90) ∨ (97 ≤ c.toNat ∧ c.toNat ≤ 122)) :
    isCaseIgnorable c = false := by
  rw [isCaseIgnorable, inRanges, List.any_eq_false]
  intro range hrange
  have hmiss := caseIgnorableRanges_miss range hrange
  simpa using fun hfirst ↦ (show range.2 < c.toNat by omega)

theorem isCaseIgnorable_toLower (c : Char) : isCaseIgnorable c.toLower = isCaseIgnorable c := by
  refine apply_toLower (fun offset ↦ ?_) c
  have hcapital : ∀ offset : Fin 26, 65 ≤ (Char.ofNat (offset.val + 65)).toNat ∧
      (Char.ofNat (offset.val + 65)).toNat ≤ 90 := by decide
  have hsmall : ∀ offset : Fin 26, 97 ≤ (Char.ofNat (offset.val + 65)).toLower.toNat ∧
      (Char.ofNat (offset.val + 65)).toLower.toNat ≤ 122 := by decide
  rw [isCaseIgnorable_of_letter (.inr (hsmall offset)),
    isCaseIgnorable_of_letter (.inl (hcapital offset))]

theorem sameLetter_toLower (c : Char) : SameLetter c.toLower c where
  map := apply_toLower (by decide) c
  cased := apply_toLower (by decide) c
  ignorable := isCaseIgnorable_toLower c
  sigma := decide_eq_decide.mp
    (apply_toLower (f := fun c : Char ↦ decide (c = 'Σ')) (by decide) c)

theorem sameLetter_of_toLower_eq {c d : Char} (h : c.toLower = d.toLower) : SameLetter c d :=
  (sameLetter_toLower c).symm.trans (h ▸ sameLetter_toLower d)

variable {text other : String}

/-- Texts that are equal up to the case of ASCII letters have the same lower case. -/
theorem lower_eq_of_sameAscii (h : sameAscii other text = true) : lower other = lower text := by
  have hmap : List.Forall₂ (fun c d : Char ↦ c.toLower = d.toLower) other.toList text.toList := by
    have hsame : other.toList.map Char.toLower = text.toList.map Char.toLower := beq_iff_eq.mp h
    rwa [← List.forall₂_eq_eq_eq, List.forall₂_map_left_iff, List.forall₂_map_right_iff] at hsame
  exact congrArg String.ofList
    (lowerAfter_eq_of_forall₂ .nil (hmap.imp fun _ _ ↦ sameLetter_of_toLower_eq))

/-! ## Other forms -/

/-- A text has another form: one with the same lower case that differs in more than the case of
ASCII letters. -/
def HasOtherForm (text : String) : Prop :=
  ∃ other, lower other = lower text ∧ sameAscii other text = false

theorem sameAscii_of_not_hasOtherForm (h : ¬HasOtherForm text) (hlower : lower other = lower text) :
    sameAscii other text = true := by
  by_contra hother
  exact h ⟨other, hlower, Bool.not_eq_true _ ▸ hother⟩

/-! ## The letter `k` -/

/-- The Kelvin sign, whose lower case is the letter `k`. -/
def kelvin : Char := '\u212A'

theorem toLower_eq_k_iff {c : Char} : c.toLower = 'k' ↔ c = 'k' ∨ c = 'K' := by
  by_cases hascii : c.toNat < 128
  · exact forall_ascii (p := fun c ↦ c.toLower = 'k' ↔ c = 'k' ∨ c = 'K') (by decide) hascii
  · rw [toLower_of_not_ascii (Nat.le_of_not_lt hascii)]
    have hcapital : c ≠ 'K' := by
      rintro rfl
      exact hascii (by decide)
    exact ⟨.inl, fun h ↦ h.resolve_right hcapital⟩

theorem sameLetter_kelvin : SameLetter kelvin 'k' where
  map := by decide
  cased := by decide
  ignorable := by decide +kernel
  sigma := by decide

/-- A character, or the Kelvin sign in the place of the letter `k`. -/
def withKelvin (c : Char) : Char := if c.toLower = 'k' then kelvin else c

theorem sameLetter_withKelvin (c : Char) : SameLetter (withKelvin c) c := by
  unfold withKelvin
  split
  next hk => exact sameLetter_kelvin.trans (hk ▸ sameLetter_toLower c)
  next => exact SameLetter.refl c

/-- A text with the letter `k` has another form, with the Kelvin sign in its place. -/
theorem hasOtherForm_of_mem (h : 'k' ∈ text.toList ∨ 'K' ∈ text.toList) : HasOtherForm text := by
  refine ⟨String.ofList (text.toList.map withKelvin), congrArg String.ofList ?_, ?_⟩
  · rw [String.toList_ofList]
    exact lowerAfter_eq_of_forall₂ .nil
      (List.forall₂_map_left_iff.mpr (List.forall₂_same.mpr fun c _ ↦ sameLetter_withKelvin c))
  · rw [sameAscii, beq_eq_false_iff_ne, String.toList_ofList, List.map_map, Ne, List.map_inj_left]
    intro hall
    rcases h with hsmall | hcapital
    · exact absurd (hall 'k' hsmall) (by decide)
    · exact absurd (hall 'K' hcapital) (by decide)

/-- A run of the lower-case mapping lies in ASCII, is the Kelvin sign, or leads to characters beyond
ASCII. -/
theorem lowercase_runs : ∀ run ∈ lowercase.runs, run.last < 128 ∨
    (run.first = kelvin.toNat ∧ run.last = kelvin.toNat) ∨ 128 ≤ run.target run.first := by
  decide +kernel

theorem lowercase_expansions : ∀ expansion ∈ lowercase.expansions,
    ∃ point ∈ expansion.2, 128 ≤ (Char.ofNat point).toNat := by
  decide

/-- Of the characters beyond ASCII only the Kelvin sign maps into ASCII throughout. -/
theorem exists_not_ascii_mem_map {c : Char} (hc : 128 ≤ c.toNat) (hkelvin : c ≠ kelvin) :
    ∃ d ∈ lowercase.map c, 128 ≤ d.toNat := by
  rcases lowercase.map_cases c with
    ⟨run, hrun, hfirst, hlast, -, hmap⟩ | ⟨points, hpoints, hmap⟩ | hmap
  · have hletters := lowercase_leadsToLetters.runs run hrun
    refine ⟨Char.ofNat (run.target c.toNat), by rw [hmap]; exact List.mem_singleton_self _, ?_⟩
    rw [CaseRun.toNat_ofNat_target hletters hfirst hlast]
    -- The character is not in a run of ASCII, and it is not the Kelvin sign.
    rcases lowercase_runs run hrun with hascii | ⟨hleast, hgreatest⟩ | hbeyond
    · omega
    · have hpoint : c.toNat = kelvin.toNat := by omega
      exact absurd (Char.toNat_inj.mp hpoint) hkelvin
    · exact Nat.le_trans hbeyond (CaseRun.target_bounds hletters hfirst hlast).1
  · obtain ⟨point, hpoint, hbeyond⟩ := lowercase_expansions _ hpoints
    rw [hmap]
    exact ⟨Char.ofNat point, List.mem_map_of_mem hpoint, hbeyond⟩
  · rw [hmap]
    exact ⟨c, List.mem_singleton_self c, hc⟩

/-- What is beyond ASCII shows in the lower case of a text, be it as the letter `k`. -/
theorem exists_mem_lowerAfter {c : Char} {characters : List Char} (hc : 128 ≤ c.toNat)
    (hmem : c ∈ characters) (before : List Char) :
    ∃ d ∈ lowerAfter before characters, 128 ≤ d.toNat ∨ d = 'k' := by
  induction characters generalizing before with
  | nil => cases hmem
  | cons first rest ih =>
      rw [lowerAfter]
      rcases List.mem_cons.mp hmem with rfl | hrest
      · have hfirst : ∃ d ∈ (if c = 'Σ' then [if isFinal before rest then 'ς' else 'σ']
            else lowercase.map c), 128 ≤ d.toNat ∨ d = 'k' := by
          split
          next =>
            refine ⟨_, List.mem_singleton_self _, .inl ?_⟩
            split <;> decide
          next =>
            by_cases hkelvin : c = kelvin
            · rw [hkelvin, sameLetter_kelvin.map, map_lowercase_of_ascii (by decide)]
              exact ⟨_, List.mem_singleton_self _, .inr (by decide)⟩
            · obtain ⟨d, hd, hbeyond⟩ := exists_not_ascii_mem_map hc hkelvin
              exact ⟨d, hd, .inl hbeyond⟩
        obtain ⟨d, hd, hshows⟩ := hfirst
        exact ⟨d, List.mem_append_left _ hd, hshows⟩
      · obtain ⟨d, hd, hshows⟩ := ih hrest (first :: before)
        exact ⟨d, List.mem_append_right _ hd, hshows⟩

theorem isAscii_of_lower_eq (hascii : IsAscii text) (hk : 'k' ∉ text.toList)
    (hcapital : 'K' ∉ text.toList) (hlower : lower other = lower text) : IsAscii other := by
  intro c hc
  -- What shows of a character beyond ASCII would be in the lower case of the text.
  by_contra hbeyond
  obtain ⟨d, hd, hshows⟩ := exists_mem_lowerAfter (Nat.le_of_not_lt hbeyond) hc []
  rw [String.ofList_inj.mp hlower, lowerAfter_of_ascii hascii] at hd
  obtain ⟨letter, hletter, rfl⟩ := List.mem_map.mp hd
  have hsmall : letter.toLower.toNat < 128 :=
    forall_ascii (p := fun c ↦ c.toLower.toNat < 128) (by decide) (hascii letter hletter)
  rcases toLower_eq_k_iff.mp (hshows.resolve_left (Nat.not_le_of_lt hsmall)) with rfl | rfl
  · exact hk hletter
  · exact hcapital hletter

/-- Of the texts of ASCII those with the letter `k` have another form, and no others. -/
theorem hasOtherForm_iff_of_isAscii (hascii : IsAscii text) :
    HasOtherForm text ↔ 'k' ∈ text.toList ∨ 'K' ∈ text.toList := by
  refine ⟨?_, hasOtherForm_of_mem⟩
  rintro ⟨other, hlower, hother⟩
  by_contra hnone
  obtain ⟨hk, hcapital⟩ := not_or.mp hnone
  have hsame := (lower_eq_lower_iff_of_isAscii
    (isAscii_of_lower_eq hascii hk hcapital hlower) hascii).mp hlower
  exact Bool.false_ne_true (hother.symm.trans hsame)

end AfsToken.Text.Casing
