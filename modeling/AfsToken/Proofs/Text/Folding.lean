import AfsToken.Text.Casing.Basic
import Mathlib.Logic.Basic

/-!
# What a change of case keeps

A character maps to at least one character, and both mappings lead to letters and marks only: of the
characters in front of the capital `A`, among them the separators of a principal, none is mapped to
but by itself.  No run of the lower-case mapping leads into a run, so a text in lower case does not
change any more.
-/

namespace AfsToken.Text.Casing

/-! ## Runs -/

namespace CaseRun

/-- What a code point of a run maps to. -/
def target (run : CaseRun) (point : Nat) : Nat := (point + run.shift).toNat

/-- A run leads to code points of characters, none of which is in front of the capital `A`. -/
def LeadsToLetters (run : CaseRun) : Prop :=
  65 ≤ run.target run.first ∧ (run.target run.last < 0xD800 ∨
    (0xDFFF < run.target run.first ∧ run.target run.last < 0x110000))

instance (run : CaseRun) : Decidable run.LeadsToLetters := by
  unfold LeadsToLetters
  infer_instance

/-- Whether a run leads between the ends of another, and does not alternate with it there. -/
def leadsInto (run other : CaseRun) : Bool :=
  Nat.ble other.first (run.target run.last) && Nat.ble (run.target run.first) other.last &&
    !(other.stride == 2 && (run.stride == 2 || run.first == run.last) &&
      (run.target run.first + other.first) % 2 == 1)

variable {run other : CaseRun} {point : Nat}

/-- What a run leads to keeps the order and the distances of the run. -/
theorem target_bounds (h : run.LeadsToLetters) (hfirst : run.first ≤ point)
    (hlast : point ≤ run.last) :
    run.target run.first ≤ run.target point ∧ run.target point ≤ run.target run.last ∧
      run.target point = run.target run.first + (point - run.first) := by
  obtain ⟨hletters, -⟩ := h
  unfold target at *
  omega

theorem toNat_ofNat_target (h : run.LeadsToLetters) (hfirst : run.first ≤ point)
    (hlast : point ≤ run.last) : (Char.ofNat (run.target point)).toNat = run.target point := by
  obtain ⟨hleast, hgreatest, -⟩ := target_bounds h hfirst hlast
  have hvalid : (run.target point).isValidChar := by
    obtain ⟨-, hvalid⟩ := h
    unfold Nat.isValidChar
    omega
  rw [Char.ofNat, dif_pos hvalid]
  rfl

/-- What a run leads to belongs to no run that it does not lead into. -/
theorem map?_target (h : run.LeadsToLetters) (hmiss : run.leadsInto other = false)
    (hfirst : run.first ≤ point) (hlast : point ≤ run.last)
    (hstride : (point - run.first) % run.stride = 0) : other.map? (run.target point) = none := by
  obtain ⟨hleast, hgreatest, hplace⟩ := target_bounds h hfirst hlast
  apply if_neg
  rintro ⟨hfrom, hto, hmod⟩
  -- Between the ends of the other run, only the steps of two can keep them apart.
  have halternate : other.stride = 2 ∧ (run.stride = 2 ∨ run.first = run.last) ∧
      (run.target run.first + other.first) % 2 = 1 := by
    have hinto : Nat.ble other.first (run.target run.last) = true ∧
        Nat.ble (run.target run.first) other.last = true :=
      ⟨Nat.ble_eq.mpr (by omega), Nat.ble_eq.mpr (by omega)⟩
    simpa [leadsInto, hinto.1, hinto.2, and_assoc, or_iff_not_imp_left] using hmiss
  obtain ⟨htwo, hshape, hodd⟩ := halternate
  rw [htwo] at hmod
  rcases hshape with hrun | hsingle
  · rw [hrun] at hstride
    omega
  · omega

end CaseRun

/-! ## Tables -/

namespace CaseTable

/-- Both the runs and the expansions of a table lead to letters, or to the marks on them. -/
structure LeadsToLetters (table : CaseTable) : Prop where
  runs : ∀ run ∈ table.runs, run.LeadsToLetters
  expansions : ∀ expansion ∈ table.expansions,
    expansion.2 ≠ [] ∧ ∀ point ∈ expansion.2, 65 ≤ (Char.ofNat point).toNat

variable {table : CaseTable} {c d : Char}

/-- A character belongs to a run, or it has an expansion, or it maps to itself. -/
theorem map_cases (table : CaseTable) (c : Char) :
    (∃ run ∈ table.runs, run.first ≤ c.toNat ∧ c.toNat ≤ run.last ∧
      (c.toNat - run.first) % run.stride = 0 ∧
      table.map c = [Char.ofNat (run.target c.toNat)]) ∨
    (∃ points, (c.toNat, points) ∈ table.expansions ∧ table.map c = points.map Char.ofNat) ∨
    table.map c = [c] := by
  unfold CaseTable.map
  split
  next value hvalue =>
    obtain ⟨run, hrun, hmap⟩ := List.exists_of_findSome?_eq_some hvalue
    unfold CaseRun.map? at hmap
    split at hmap
    next hpoint =>
      cases hmap
      exact .inl ⟨run, hrun, hpoint.1, hpoint.2.1, hpoint.2.2, rfl⟩
    next => cases hmap
  next =>
    split
    next points hpoints =>
      obtain ⟨front, back, hsplit, -⟩ := List.lookup_eq_some_iff.mp hpoints
      exact .inr (.inl ⟨points, by simp [hsplit], rfl⟩)
    next => exact .inr (.inr rfl)

theorem map_ne_nil (h : table.LeadsToLetters) (c : Char) : table.map c ≠ [] := by
  rcases table.map_cases c with ⟨run, -, -, -, -, hmap⟩ | ⟨points, hpoints, hmap⟩ | hmap
  · simp [hmap]
  · simpa [hmap] using (h.expansions _ hpoints).1
  · simp [hmap]

/-- A character in front of the capital `A` is mapped to by itself only. -/
theorem eq_of_mem_map (h : table.LeadsToLetters) (hd : d ∈ table.map c) (hsmall : d.toNat < 65) :
    d = c := by
  rcases table.map_cases c with ⟨run, hrun, hfirst, hlast, -, hmap⟩ | ⟨points, hpoints, hmap⟩ | hmap
  · rw [hmap, List.mem_singleton] at hd
    have hletters := h.runs run hrun
    have hleast := (CaseRun.target_bounds hletters hfirst hlast).1
    rw [hd, CaseRun.toNat_ofNat_target hletters hfirst hlast] at hsmall
    exact absurd (Nat.le_trans hletters.1 hleast) (Nat.not_le_of_lt hsmall)
  · rw [hmap] at hd
    obtain ⟨point, hpoint, rfl⟩ := List.mem_map.mp hd
    exact absurd ((h.expansions _ hpoints).2 point hpoint) (Nat.not_le_of_lt hsmall)
  · rw [hmap] at hd
    exact List.mem_singleton.mp hd

end CaseTable

theorem lowercase_leadsToLetters : lowercase.LeadsToLetters where
  runs := by decide +kernel
  expansions := by decide

theorem uppercase_leadsToLetters : uppercase.LeadsToLetters where
  runs := by decide +kernel
  expansions := by decide

theorem lowercase_runs_miss :
    ∀ run ∈ lowercase.runs, ∀ other ∈ lowercase.runs, run.leadsInto other = false := by
  have hnone : (lowercase.runs.any fun run ↦ lowercase.runs.any run.leadsInto) = false := by
    decide +kernel
  intro run hrun other hother
  have hrun := List.any_eq_false.mp hnone run hrun
  exact Bool.eq_false_iff.mpr (List.any_eq_false.mp (Bool.eq_false_iff.mpr hrun) other hother)

/-- No run leads to a character that has an expansion. -/
theorem lowercase_runs_miss_expansions : ∀ run ∈ lowercase.runs,
    ∀ expansion ∈ lowercase.expansions, run.leadsInto ⟨expansion.1, expansion.1, 1, 0⟩ = false := by
  decide +kernel

theorem lowercase_expansions_lower : ∀ expansion ∈ lowercase.expansions, ∀ point ∈ expansion.2,
    lowercase.map (Char.ofNat point) = [Char.ofNat point] := by
  decide

/-- What a character maps to in lower case maps to itself. -/
theorem map_of_mem_map {c d : Char} (hd : d ∈ lowercase.map c) : lowercase.map d = [d] := by
  rcases lowercase.map_cases c with
    ⟨run, hrun, hfirst, hlast, hstride, hmap⟩ | ⟨points, hpoints, hmap⟩ | hmap
  · -- The character that a run leads to is in neither list.
    rw [hmap, List.mem_singleton] at hd
    have hletters := lowercase_leadsToLetters.runs run hrun
    have hpoint : d.toNat = run.target c.toNat := by
      rw [hd, CaseRun.toNat_ofNat_target hletters hfirst hlast]
    have hruns : lowercase.runs.findSome? (fun other ↦ other.map? d.toNat) = none := by
      rw [List.findSome?_eq_none_iff]
      intro other hother
      rw [hpoint]
      exact CaseRun.map?_target hletters (lowercase_runs_miss run hrun other hother) hfirst hlast
        hstride
    have hexpansions : lowercase.expansions.lookup d.toNat = none := by
      rw [List.lookup_eq_none_iff]
      intro expansion hexpansion
      rw [hpoint, bne_iff_ne]
      intro hsame
      have hnone := CaseRun.map?_target hletters
        (lowercase_runs_miss_expansions run hrun expansion hexpansion) hfirst hlast hstride
      simp [CaseRun.map?, hsame] at hnone
    unfold CaseTable.map
    rw [hruns, hexpansions]
  · rw [hmap] at hd
    obtain ⟨point, hpoint, rfl⟩ := List.mem_map.mp hd
    exact lowercase_expansions_lower _ hpoints point hpoint
  · rw [hmap, List.mem_singleton] at hd
    rw [hd, hmap]

/-! ## Texts -/

variable {c d : Char} {before characters : List Char} {text : String}

/-- A character of a text in lower case is one that a character of the text maps to, or it is the
final form of the small sigma. -/
theorem exists_of_mem_lowerAfter (hd : d ∈ lowerAfter before characters) :
    ∃ c ∈ characters, d ∈ lowercase.map c ∨ d = 'ς' := by
  induction characters generalizing before with
  | nil => cases hd
  | cons first rest ih =>
      rw [lowerAfter, List.mem_append] at hd
      rcases hd with hfirst | hrest
      · refine ⟨first, List.mem_cons_self, ?_⟩
        split at hfirst
        next hsigma =>
          have hforms : lowercase.map 'Σ' = ['σ'] := by decide
          rw [hsigma, hforms]
          split at hfirst
          · exact .inr (List.mem_singleton.mp hfirst)
          · exact .inl hfirst
        next => exact .inl hfirst
      · obtain ⟨c, hc, hmap⟩ := ih hrest
        exact ⟨c, List.mem_cons_of_mem first hc, hmap⟩

/-- Characters that map to themselves are left alone, for the capital sigma is none of them. -/
theorem lowerAfter_eq_self (h : ∀ c ∈ characters, lowercase.map c = [c]) (before : List Char) :
    lowerAfter before characters = characters := by
  induction characters generalizing before with
  | nil => rfl
  | cons c rest ih =>
      have hc := h c List.mem_cons_self
      have hsigma : c ≠ 'Σ' := by
        rintro rfl
        exact absurd hc (by decide)
      rw [lowerAfter, if_neg hsigma, hc, ih fun d hd ↦ h d (List.mem_cons_of_mem c hd)]
      rfl

/-- A text in lower case does not change any more. -/
theorem lower_lower (text : String) : lower (lower text) = lower text := by
  have hall : ∀ d ∈ (lower text).toList, lowercase.map d = [d] := by
    intro d hd
    rw [lower, String.toList_ofList] at hd
    obtain ⟨c, -, hmap | rfl⟩ := exists_of_mem_lowerAfter hd
    · exact map_of_mem_map hmap
    · decide
  calc
    lower (lower text) = String.ofList (lowerAfter [] (lower text).toList) := rfl
    _ = String.ofList (lower text).toList := by rw [lowerAfter_eq_self hall]
    _ = lower text := String.ofList_toList

/-- A change to lower case makes no character in front of the capital `A`. -/
theorem mem_of_mem_lower (hd : d ∈ (lower text).toList) (hsmall : d.toNat < 65) :
    d ∈ text.toList := by
  rw [lower, String.toList_ofList] at hd
  obtain ⟨c, hc, hmap | rfl⟩ := exists_of_mem_lowerAfter hd
  · rw [CaseTable.eq_of_mem_map lowercase_leadsToLetters hmap hsmall]
    exact hc
  · exact absurd hsmall (by decide)

/-- A change to upper case makes no character in front of the capital `A`. -/
theorem mem_of_mem_upper (hd : d ∈ (upper text).toList) (hsmall : d.toNat < 65) :
    d ∈ text.toList := by
  rw [upper, String.toList_ofList] at hd
  obtain ⟨c, hc, hmap⟩ := List.mem_flatMap.mp hd
  rw [CaseTable.eq_of_mem_map uppercase_leadsToLetters hmap hsmall]
  exact hc

theorem lower_ne_empty (h : text ≠ "") : lower text ≠ "" := by
  rw [Ne, ← String.toList_eq_nil_iff] at h ⊢
  rw [lower, String.toList_ofList]
  obtain ⟨c, rest, htext⟩ := List.exists_cons_of_ne_nil h
  have hfirst := CaseTable.map_ne_nil lowercase_leadsToLetters c
  rw [htext, lowerAfter, List.append_eq_nil_iff]
  rintro ⟨hnil, -⟩
  split at hnil
  · cases hnil
  · exact hfirst hnil

theorem upper_ne_empty (h : text ≠ "") : upper text ≠ "" := by
  rw [Ne, ← String.toList_eq_nil_iff] at h ⊢
  rw [upper, String.toList_ofList, List.flatMap_eq_nil_iff]
  obtain ⟨c, rest, htext⟩ := List.exists_cons_of_ne_nil h
  intro hall
  exact CaseTable.map_ne_nil uppercase_leadsToLetters c (hall c (by simp [htext]))

end AfsToken.Text.Casing
