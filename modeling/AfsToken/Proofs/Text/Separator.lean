import Mathlib.Data.List.TakeDrop
import Mathlib.Data.List.TakeWhile

/-!
# The first separator of a text

A text that contains a separator splits at the first one into the part in front of it and the part
behind it.  There is one way to do so, whatever separators the part behind it contains.
-/

namespace AfsToken.Text

/-- A text consists of a part without a separator, the separator, and any other part. -/
structure SplitsAt (separator : Char) (text front back : String) : Prop where
  text_eq : text = front ++ String.singleton separator ++ back
  notMem_front : separator ∉ front.toList

variable {separator : Char} {text front back front' back' : String}

theorem toList_append_singleton_append :
    (front ++ String.singleton separator ++ back).toList =
      front.toList ++ separator :: back.toList := by
  simp

theorem forall_ne_of_notMem (h : separator ∉ text.toList) :
    ∀ c ∈ text.toList, (c != separator) = true :=
  fun c hc ↦ bne_iff_ne.mpr (List.forall_mem_ne'.mpr h c hc)

/-- A search for a separator that a text does not contain ends behind the text. -/
theorem span_of_notMem (h : separator ∉ text.toList) :
    text.toList.span (· != separator) = (text.toList, []) := by
  rw [List.span_eq_takeWhile_dropWhile, List.takeWhile_eq_self_iff.mpr (forall_ne_of_notMem h),
    List.dropWhile_eq_nil_iff.mpr (forall_ne_of_notMem h)]

/-- A text splits where a search for the separator ends. -/
theorem splitsAt_iff_span :
    SplitsAt separator text front back ↔
      text.toList.span (· != separator) = (front.toList, separator :: back.toList) := by
  rw [List.span_eq_takeWhile_dropWhile, Prod.mk.injEq]
  constructor
  · rintro ⟨rfl, hfront⟩
    rw [toList_append_singleton_append,
      List.takeWhile_append_of_pos (forall_ne_of_notMem hfront),
      List.dropWhile_append_of_pos (forall_ne_of_notMem hfront)]
    simp
  · rintro ⟨htake, hdrop⟩
    refine ⟨?_, fun hmem ↦ ?_⟩
    · rw [← String.toList_inj, toList_append_singleton_append, ← htake, ← hdrop,
        List.takeWhile_append_dropWhile]
    · rw [← htake] at hmem
      simpa using List.mem_takeWhile_imp hmem

/-- There is one way to split a text at its first separator. -/
theorem SplitsAt.unique (h : SplitsAt separator text front back)
    (h' : SplitsAt separator text front' back') : front = front' ∧ back = back' := by
  have hspan := (splitsAt_iff_span.mp h).symm.trans (splitsAt_iff_span.mp h')
  simpa [String.toList_inj] using hspan

/-- A text splits at a separator exactly if it contains one. -/
theorem exists_splitsAt_iff :
    (∃ front back, SplitsAt separator text front back) ↔ separator ∈ text.toList := by
  constructor
  · rintro ⟨front, back, rfl, -⟩
    simp
  · intro hmem
    obtain ⟨front, back, htext, hfront⟩ := List.eq_append_cons_of_mem hmem
    refine ⟨String.ofList front, String.ofList back, ?_, by rwa [String.toList_ofList]⟩
    rw [← String.toList_inj, toList_append_singleton_append, htext, String.toList_ofList,
      String.toList_ofList]

end AfsToken.Text
