import AfsToken.Octets.Basic

/-!
# What readers leave and what they find

A reader takes a value off the front of an octet string.  It consumes its octets if what it leaves
is an end of them.  It finds a part of its value if that part stands in one piece among the octets.
Both are said of readers with faults of any kind, and compose: readers in sequence consume if each
does, and a part that is found by one of them is found by all.
-/

namespace AfsToken.Octets

variable {ε α β : Type}

/-! ## What is left -/

/-- What a reader leaves is an end of its octets. -/
def Consumes (reader : StateT Octets (Except ε) α) : Prop :=
  ∀ ⦃octets value rest⦄, reader.run octets = .ok (value, rest) → rest <:+ octets

namespace Consumes

theorem pure (value : α) : Consumes (pure value : StateT Octets (Except ε) α) := by
  intro octets _ rest h
  cases h
  exact List.suffix_rfl

theorem throw (fault : ε) : Consumes (throw fault : StateT Octets (Except ε) α) := by
  intro octets _ rest h
  cases h

theorem bind {first : StateT Octets (Except ε) α} {next : α → StateT Octets (Except ε) β}
    (hfirst : Consumes first) (hnext : ∀ value, Consumes (next value)) :
    Consumes (first >>= next) := by
  intro octets result rest h
  obtain ⟨value, middle, hvalue, hresult⟩ := run_bind_eq_ok_iff.mp h
  exact (hnext value hresult).trans (hfirst hvalue)

theorem map {reader : StateT Octets (Except ε) α} (f : α → β) (h : Consumes reader) :
    Consumes (f <$> reader) := by
  rw [← bind_pure_comp]
  exact h.bind fun value ↦ Consumes.pure (f value)

end Consumes

/-! ## What is found -/

/-- A part of the value that a reader gives stands in one piece among its octets. -/
def Finds (part : α → Octets) (reader : StateT Octets (Except ε) α) : Prop :=
  ∀ ⦃octets value rest⦄, reader.run octets = .ok (value, rest) → part value <:+: octets

namespace Finds

variable {part : β → Octets}

/-- What is found behind the first reader is found. -/
theorem bind {first : StateT Octets (Except ε) α} {next : α → StateT Octets (Except ε) β}
    (hfirst : Consumes first) (hnext : ∀ value, Finds part (next value)) :
    Finds part (first >>= next) := by
  intro octets result rest h
  obtain ⟨value, middle, hvalue, hresult⟩ := run_bind_eq_ok_iff.mp h
  exact (hnext value hresult).trans (hfirst hvalue).isInfix

/-- What the first reader finds is found, if the readers behind it keep it. -/
theorem bind_of_kept {first : StateT Octets (Except ε) α}
    {next : α → StateT Octets (Except ε) β} {found : α → Octets} (hfirst : Finds found first)
    (hkept : ∀ ⦃value octets result rest⦄, (next value).run octets = .ok (result, rest) →
      part result = found value) :
    Finds part (first >>= next) := by
  intro octets result rest h
  obtain ⟨value, middle, hvalue, hresult⟩ := run_bind_eq_ok_iff.mp h
  rw [hkept hresult]
  exact hfirst hvalue

end Finds

end AfsToken.Octets
