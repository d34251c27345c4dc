/-!
# Octet strings

Keys, tickets, digests and files are all strings of octets.  An octet string is a list, so that a
reader takes it apart at its front and a writer appends.  This module also holds the cutting of a
list into consecutive blocks of one size, which the Triple-DES keys and the message digest share,
and what steps that may fail give in sequence, which every reader is made of.
-/

namespace AfsToken

/-- A string of octets. -/
abbrev Octets := List UInt8

namespace Octets

variable {α : Type}

/-- A property of all octets is checked on the 256 of them. -/
theorem forall_octet {p : UInt8 → Prop} (h : ∀ value : Fin 256, p (UInt8.ofNat value.val))
    (octet : UInt8) : p octet := by
  simpa using h ⟨octet.toNat, octet.toNat_lt⟩

/-- A list that consists of parts has each of them behind those before it. -/
theorem flatten_eq_append_part {parts : List (List α)} {index : Nat} {part : List α}
    (h : parts[index]? = some part) :
    parts.flatten = (parts.take index).flatten ++ part ++ (parts.drop (index + 1)).flatten := by
  obtain ⟨hindex, rfl⟩ := List.getElem?_eq_some_iff.mp h
  rw [List.append_assoc, ← List.flatten_cons, ← List.drop_eq_getElem_cons hindex,
    ← List.flatten_append, List.take_append_drop]

/-- The consecutive blocks of `size` elements at the front of a list.  An incomplete last block is
left out. -/
def blocks (size : Nat) (items : List α) : List (List α) :=
  if _ : 0 < size ∧ (items.take size).length = size then
    items.take size :: blocks size (items.drop size)
  else []
termination_by items.length
decreasing_by
  simp only [List.length_take, List.length_drop] at *
  omega

theorem length_take_eq_iff {size : Nat} {items : List α} :
    (items.take size).length = size ↔ size ≤ items.length := by
  rw [List.length_take]
  omega

theorem blocks_of_length_lt {size : Nat} {items : List α} (h : items.length < size) :
    blocks size items = [] := by
  rw [blocks, dif_neg (by rw [List.length_take]; omega)]

theorem blocks_append {size : Nat} {block : List α} (hpos : 0 < size)
    (hblock : block.length = size) (rest : List α) :
    blocks size (block ++ rest) = block :: blocks size rest := by
  rw [blocks, dif_pos ⟨hpos, by simp [hblock]⟩]
  simp [← hblock]

/-- Every block has the size asked for. -/
theorem length_of_mem_blocks {size : Nat} {items block : List α} (h : block ∈ blocks size items) :
    block.length = size := by
  fun_induction blocks size items with
  | case1 items hsize ih =>
      rcases List.mem_cons.mp h with rfl | hmem
      · simp [hsize.2]
      · exact ih hmem
  | case2 => simp at h

/-- There are as many blocks as the size divides the length. -/
theorem length_blocks {size : Nat} (hpos : 0 < size) (items : List α) :
    (blocks size items).length = items.length / size := by
  fun_induction blocks size items with
  | case1 items hsize ih =>
      rw [List.length_cons, ih, List.length_drop,
        ← Nat.div_eq_sub_div hpos (length_take_eq_iff.mp hsize.2)]
  | case2 items hsize =>
      rw [length_take_eq_iff] at hsize
      rw [Nat.div_eq_of_lt (by omega)]
      rfl

/-- Parts of one size are the blocks of what they make up, and fewer elements behind them are left
out. -/
theorem blocks_flatten_append {size : Nat} {parts : List (List α)}
    (h : ∀ part ∈ parts, part.length = size) {rest : List α} (hrest : rest.length < size) :
    blocks size (parts.flatten ++ rest) = parts := by
  induction parts with
  | nil => exact blocks_of_length_lt hrest
  | cons part parts ih =>
      rw [List.flatten_cons, List.append_assoc,
        blocks_append (Nat.zero_lt_of_lt hrest) (h part List.mem_cons_self),
        ih fun other hother ↦ h other (List.mem_cons_of_mem part hother)]

theorem blocks_flatten {size : Nat} (hpos : 0 < size) {parts : List (List α)}
    (h : ∀ part ∈ parts, part.length = size) : blocks size parts.flatten = parts := by
  have hnil : ([] : List α).length < size := hpos
  simpa using blocks_flatten_append h hnil

/-- A list whose length the size divides consists of its blocks. -/
theorem flatten_blocks {size : Nat} {items : List α} (hpos : 0 < size)
    (h : items.length % size = 0) : (blocks size items).flatten = items := by
  fun_induction blocks size items with
  | case1 items hsize ih =>
      have hdrop : (items.drop size).length % size = 0 := by
        rw [List.length_drop, ← Nat.mod_eq_sub_mod (length_take_eq_iff.mp hsize.2)]
        exact h
      rw [List.flatten_cons, ih hdrop, List.take_append_drop]
  | case2 items hsize =>
      rw [length_take_eq_iff] at hsize
      rw [Nat.mod_eq_of_lt (by omega)] at h
      exact (List.eq_nil_of_length_eq_zero h).symm

/-! ## Steps in sequence -/

section Steps

variable {ε α β : Type}

/-- Steps in sequence give a value if each of them does. -/
theorem bind_eq_ok_iff {first : Except ε α} {next : α → Except ε β} {result : β} :
    (first >>= next) = .ok result ↔ ∃ value, first = .ok value ∧ next value = .ok result := by
  cases first with
  | error fault =>
      refine iff_of_false (fun h ↦ by cases h) ?_
      rintro ⟨_, h, -⟩
      cases h
  | ok value =>
      constructor
      · intro h
        exact ⟨value, rfl, h⟩
      · rintro ⟨_, h, hnext⟩
        cases h
        exact hnext

theorem map_eq_ok_iff {first : Except ε α} {f : α → β} {result : β} :
    f <$> first = .ok result ↔ ∃ value, first = .ok value ∧ f value = result := by
  rw [map_eq_pure_bind, bind_eq_ok_iff]
  exact exists_congr fun value ↦ and_congr_right fun _ ↦ ⟨Except.ok.inj, congrArg Except.ok⟩

/-- Steps in sequence fail with the fault of the first of them that fails. -/
theorem bind_eq_error_iff {first : Except ε α} {next : α → Except ε β} {fault : ε} :
    (first >>= next) = .error fault ↔
      first = .error fault ∨ ∃ value, first = .ok value ∧ next value = .error fault := by
  cases first with
  | error other =>
      constructor
      · intro h
        cases h
        exact .inl rfl
      · rintro (h | ⟨_, h, -⟩)
        · cases h
          rfl
        · cases h
  | ok value =>
      constructor
      · intro h
        exact .inr ⟨value, rfl, h⟩
      · rintro (h | ⟨_, h, hnext⟩)
        · cases h
        · cases h
          exact hnext

section Run

variable {first : StateT Octets (Except ε) α} {next : α → StateT Octets (Except ε) β}
  {octets rest : Octets} {result : β} {fault : ε}

theorem run_bind_eq_ok_iff :
    (first >>= next).run octets = .ok (result, rest) ↔
      ∃ value middle, first.run octets = .ok (value, middle) ∧
        (next value).run middle = .ok (result, rest) := by
  rw [StateT.run_bind, bind_eq_ok_iff, Prod.exists]

theorem run_bind_eq_error_iff :
    (first >>= next).run octets = .error fault ↔
      first.run octets = .error fault ∨
        ∃ value middle, first.run octets = .ok (value, middle) ∧
          (next value).run middle = .error fault := by
  rw [StateT.run_bind, bind_eq_error_iff, Prod.exists]

end Run

end Steps

end Octets

end AfsToken
