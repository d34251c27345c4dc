import AfsToken.Credential.Basic
import Mathlib.Data.List.Forall2
import Mathlib.Data.List.Induction

/-!
# The last maximum of a list

The element that is selected divides a list in two: no element before it has a greater key, and
every element behind it has a smaller one.  Where only the elements that a predicate admits are
looked at, this is still said of the whole list, and so tells the place of the element there.  Lists
that are related element by element, with keys in the same order, have related last maxima.
-/

namespace AfsToken

variable {α κ : Type} {key : α → κ} {le : κ → κ → Bool}

theorem lastMaximum_eq_none_iff {items : List α} :
    lastMaximum key le items = none ↔ items = [] := by
  cases items <;> simp [lastMaximum]

/-- An element at the end is compared with the last maximum of those before it. -/
theorem lastMaximum_concat (items : List α) (item : α) :
    lastMaximum key le (items ++ [item]) =
      some (match lastMaximum key le items with
        | some kept => laterBy key le kept item
        | none => item) := by
  cases items with
  | nil => rfl
  | cons first rest =>
      rw [List.cons_append, lastMaximum, List.foldl_concat]
      rfl

/-- An element stands in a list behind others whose keys are not greater and in front of others
whose keys are smaller, as far as a predicate admits the others. -/
structure IsLastMaximum (key : α → κ) (le : κ → κ → Bool) (admits : α → Bool) (front : List α)
    (item : α) (back : List α) : Prop where
  admitted : admits item = true
  notGreater : ∀ other ∈ front, admits other = true → le (key other) (key item) = true
  smaller : ∀ other ∈ back, admits other = true → le (key item) (key other) = false

section Place

variable {admits : α → Bool} {front back : List α} {item last : α}

/-- An element at the end that is not admitted, or has a smaller key, changes nothing. -/
theorem IsLastMaximum.concat_of_smaller (h : IsLastMaximum key le admits front item back)
    (hlast : admits last = true → le (key item) (key last) = false) :
    IsLastMaximum key le admits front item (back ++ [last]) where
  admitted := h.admitted
  notGreater := h.notGreater
  smaller other hother hadmits := by
    rcases List.mem_append.mp hother with hback | hend
    · exact h.smaller other hback hadmits
    · rw [List.mem_singleton.mp hend] at hadmits ⊢
      exact hlast hadmits

variable (htotal : ∀ left right, le left right = true ∨ le right left = true)
  (htrans : ∀ {first second third}, le first second = true → le second third = true →
    le first third = true)

include htotal htrans

/-- An element at the end whose key is not smaller takes the place of the last maximum. -/
theorem IsLastMaximum.concat_of_notSmaller (h : IsLastMaximum key le admits front item back)
    (hadmits : admits last = true) (hle : le (key item) (key last) = true) :
    IsLastMaximum key le admits (front ++ item :: back) last [] where
  admitted := hadmits
  notGreater other hother hadmitted := by
    rcases List.mem_append.mp hother with hfront | hrest
    · exact htrans (h.notGreater other hfront hadmitted) hle
    rcases List.mem_cons.mp hrest with rfl | hback
    · exact hle
    · have hsmaller := h.smaller other hback hadmitted
      exact htrans ((htotal _ _).resolve_left (by simp [hsmaller])) hle
  smaller other hother := by cases hother

/-- The last maximum of the admitted elements has its place in the whole list. -/
theorem exists_split_of_lastMaximum_filter {items : List α}
    (h : lastMaximum key le (items.filter admits) = some item) :
    ∃ front back, items = front ++ item :: back ∧ IsLastMaximum key le admits front item back := by
  -- The element that is read last decides, so the induction takes elements off the end.
  induction items using List.reverseRecOn generalizing item with
  | nil => cases h
  | append_singleton items last ih =>
      rw [List.filter_append] at h
      by_cases hadmits : admits last = true
      case neg =>
        rw [List.filter_cons_of_neg hadmits, List.filter_nil, List.append_nil] at h
        obtain ⟨front, back, rfl, hplace⟩ := ih h
        exact ⟨front, back ++ [last], by simp, hplace.concat_of_smaller fun h ↦ absurd h hadmits⟩
      case pos =>
        rw [List.filter_cons_of_pos hadmits, List.filter_nil, lastMaximum_concat] at h
        cases hkept : lastMaximum key le (items.filter admits) with
        | none =>
            have hnone : ∀ other ∈ items, ¬admits other = true :=
              List.filter_eq_nil_iff.mp (lastMaximum_eq_none_iff.mp hkept)
            rw [hkept] at h
            cases h
            refine ⟨items, [], rfl, hadmits, fun other hother hadmitted ↦ ?_, by simp⟩
            exact absurd hadmitted (hnone other hother)
        | some kept =>
            obtain ⟨front, back, rfl, hplace⟩ := ih hkept
            rw [hkept] at h
            cases hle : le (key kept) (key last) with
            | true =>
                cases (Option.some.inj h).symm.trans (if_pos hle)
                exact ⟨_, [], rfl, hplace.concat_of_notSmaller htotal htrans hadmits hle⟩
            | false =>
                cases (Option.some.inj h).symm.trans (if_neg (by simp [hle]))
                exact ⟨front, back ++ [last], by simp, hplace.concat_of_smaller fun _ ↦ hle⟩

end Place

/-- Unsigned keys are in order. -/
theorem exists_split_of_lastMaximum_unsigned {ends : α → UInt32} {admits : α → Bool}
    {items : List α} {item : α}
    (h : lastMaximum ends (fun left right ↦ left ≤ right) (items.filter admits) = some item) :
    ∃ front back, items = front ++ item :: back ∧
      IsLastMaximum ends (fun left right ↦ left ≤ right) admits front item back := by
  refine exists_split_of_lastMaximum_filter ?total ?trans h
  case total =>
    intro left right
    simpa only [decide_eq_true_eq] using UInt32.le_total left right
  case trans =>
    intro first second third
    simpa only [decide_eq_true_eq] using UInt32.le_trans

section Related

variable {β μ : Type} {key' : β → μ} {le' : μ → μ → Bool} {R : α → β → Prop}

/-- Related lists have related last maxima. -/
theorem rel_lastMaximum
    (hle : ∀ {left left' right right'}, R left left' → R right right' →
      le (key left) (key right) = le' (key' left') (key' right'))
    {items : List α} {items' : List β} (h : List.Forall₂ R items items') :
    Option.Rel R (lastMaximum key le items) (lastMaximum key' le' items') := by
  have hlater : Relator.LiftFun R (Relator.LiftFun R R) (laterBy key le) (laterBy key' le') := by
    intro first first' hfirst second second' hsecond
    unfold laterBy
    rw [hle hfirst hsecond]
    split
    · exact hsecond
    · exact hfirst
  cases h with
  | nil => exact .none
  | cons hfirst hrest => exact .some (List.rel_foldl hlater hfirst hrest)

/-- At the place of an element the other list has one that is related to it. -/
theorem exists_getElem?_of_forall₂ {front back : List α} {item : α} {items : List β}
    (h : List.Forall₂ R (front ++ item :: back) items) :
    ∃ related, items[front.length]? = some related ∧ R item related := by
  have hlength := h.length_eq
  rw [List.length_append, List.length_cons] at hlength
  have hfront : front.length < items.length := by omega
  have hrelated := h.get (by simp) hfront
  refine ⟨items[front.length], List.getElem?_eq_getElem hfront, ?_⟩
  simpa using hrelated

end Related

end AfsToken
