import AfsToken.CommandLine.Invocation
import AfsToken.Proofs.Text.Folding
import AfsToken.Proofs.Text.Separator

/-!
# Principals of checked names

The name of a cell and its realm are checked first, and then the name changes its case.  The change
makes no separators, and nothing is left of no text.  So the cell of a checked name has a name and
a realm that would pass the same checks, and its principal falls into these at its first
separators.
-/

namespace AfsToken.Cell

open AfsToken.Text

variable {cell other : Cell} {text name name' service service' principal : String}
  {realm realm' : Option String}

/-! ## Checks -/

theorem isName_iff : isName text = true ↔ text ≠ "" ∧ '/' ∉ text.toList ∧ '@' ∉ text.toList := by
  simp only [isName, Bool.and_eq_true, bne_iff_ne, List.all_eq_true, forall_and, ne_eq,
    List.forall_mem_ne']

theorem isRealm_iff : isRealm text = true ↔ text ≠ "" ∧ '@' ∉ text.toList := by
  simp only [isRealm, Bool.and_eq_true, bne_iff_ne, List.all_eq_true, ne_eq, List.forall_mem_ne']

/-- A checked name passes the check in lower case. -/
theorem isName_lower (h : isName text = true) : isName (Casing.lower text) = true := by
  obtain ⟨hne, hslash, hat⟩ := isName_iff.mp h
  exact isName_iff.mpr ⟨Casing.lower_ne_empty hne,
    fun hmem ↦ hslash (Casing.mem_of_mem_lower hmem (by decide)),
    fun hmem ↦ hat (Casing.mem_of_mem_lower hmem (by decide))⟩

/-- A checked name is a realm in upper case. -/
theorem isRealm_upper (h : isName text = true) : isRealm (Casing.upper text) = true := by
  obtain ⟨hne, -, hat⟩ := isName_iff.mp h
  exact isRealm_iff.mpr ⟨Casing.upper_ne_empty hne,
    fun hmem ↦ hat (Casing.mem_of_mem_upper hmem (by decide))⟩

/-- A cell with a name and a realm that would pass the checks. -/
structure IsValid (cell : Cell) : Prop where
  name : isName cell.name = true
  realm : isRealm cell.realm = true

/-- A cell that a checked name makes, with a checked realm or without one. -/
structure IsMadeOf (cell : Cell) (name : String) (realm : Option String) : Prop where
  isName : isName name = true
  isRealm : ∀ text ∈ realm, isRealm text = true
  eq_make : cell = make name realm

theorem IsMadeOf.name_eq (h : IsMadeOf cell name realm) : cell.name = Casing.lower name := by
  rw [h.eq_make, make]

/-- The name of a cell is in lower case already. -/
theorem IsMadeOf.lower_name (h : IsMadeOf cell name realm) :
    Casing.lower cell.name = cell.name := by
  rw [h.name_eq, Casing.lower_lower]

/-- The checks outlast the change of case. -/
theorem IsMadeOf.isValid (h : IsMadeOf cell name realm) : cell.IsValid := by
  have hname : Cell.isName cell.name = true := h.name_eq ▸ isName_lower h.isName
  refine ⟨hname, ?_⟩
  rw [h.eq_make, make]
  cases realm with
  | none => exact isRealm_upper (isName_lower h.isName)
  | some text => exact h.isRealm text rfl

/-- The name of a cell is a name again, of the cell without its realm. -/
theorem IsMadeOf.cell_name (h : IsMadeOf cell name realm) :
    CommandLine.Value.cell cell.name = .ok (make name none) := by
  have hmake : make cell.name none = make name none := by
    rw [make, make, h.lower_name, h.name_eq]
  rw [CommandLine.Value.cell, if_pos h.isValid.name, hmake]

/-- A cell is made of its own name and realm. -/
theorem IsMadeOf.make_name_realm (h : IsMadeOf cell name realm) :
    make cell.name (some cell.realm) = cell := by
  rw [make, h.lower_name]
  rfl

/-! ## Principals -/

/-- A principal falls into a service in front of its first slash, a name that ends at its first at
sign, and a realm behind this. -/
structure SplitsInto (principal service name realm : String) : Prop where
  slash : SplitsAt '/' principal service (name ++ "@" ++ realm)
  atSign : SplitsAt '@' principal (service ++ "/" ++ name) realm

theorem SplitsInto.unique {realm realm' : String} (h : SplitsInto principal service name realm)
    (h' : SplitsInto principal service' name' realm') :
    service = service' ∧ name = name' ∧ realm = realm' := by
  obtain ⟨rfl, -⟩ := h.slash.unique h'.slash
  obtain ⟨hname, hrealm⟩ := h.atSign.unique h'.atSign
  exact ⟨rfl, String.append_right_inj _ |>.mp hname, hrealm⟩

/-- The principal of a valid cell falls into the service, the name and the realm. -/
theorem IsValid.splitsInto (h : cell.IsValid) :
    SplitsInto cell.principal serviceName cell.name cell.realm := by
  obtain ⟨-, hslash, hat⟩ := isName_iff.mp h.name
  have hslashText : String.singleton '/' = "/" := rfl
  have hatText : String.singleton '@' = "@" := rfl
  refine ⟨⟨?_, by decide⟩, ⟨?_, ?_⟩⟩
  · rw [principal, hslashText]
    simp only [String.append_assoc]
  · rw [principal, hatText]
  · simp [serviceName, hat]

theorem IsValid.splitsInto_iff {realm : String} (h : cell.IsValid) :
    SplitsInto cell.principal service name realm ↔
      service = serviceName ∧ name = cell.name ∧ realm = cell.realm := by
  constructor
  · intro hsplit
    exact hsplit.unique h.splitsInto
  · rintro ⟨rfl, rfl, rfl⟩
    exact h.splitsInto

/-- Valid cells are known by their principals. -/
theorem IsValid.eq_of_principal_eq (h : cell.IsValid) (hother : other.IsValid)
    (hprincipal : cell.principal = other.principal) : cell = other := by
  have hsplit := h.splitsInto
  rw [hprincipal] at hsplit
  obtain ⟨-, hname, hrealm⟩ := hother.splitsInto_iff.mp hsplit
  cases cell
  cases other
  cases hname
  cases hrealm
  rfl

/-- The key of a cell is described by the name alone, and by all of it. -/
theorem keyDescription_eq_iff :
    cell.keyDescription = other.keyDescription ↔ cell.name = other.name := by
  rw [keyDescription, keyDescription]
  exact String.append_right_inj _

end AfsToken.Cell
