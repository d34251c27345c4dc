/-!
# Tables

A table has values under names.  Putting a value under a name replaces the one that is there, in its
place, and otherwise appends it.  Looking a name up is the view of a table: each operation is
described by what it does to the look-ups.
-/

namespace AfsToken

/-- Values under names. -/
abbrev Table (α : Type) := List (String × α)

namespace Table

variable {α : Type}

/-- The value under a name. -/
def get? : Table α → String → Option α
  | [], _ => none
  | (other, value) :: rest, name => if other = name then some value else get? rest name

/-- The table with a value under a name. -/
def put (name : String) (value : α) : Table α → Table α
  | [] => [(name, value)]
  | (other, old) :: rest =>
      if other = name then (name, value) :: rest else (other, old) :: put name value rest

/-- The table without the values under a name. -/
def erase (table : Table α) (name : String) : Table α := table.filter (·.1 ≠ name)

@[simp]
theorem get?_nil (name : String) : get? ([] : Table α) name = none := rfl

theorem get?_cons (entry : String × α) (rest : Table α) (name : String) :
    get? (entry :: rest) name = if entry.1 = name then some entry.2 else get? rest name := rfl

/-- A value that was put under a name is found there, and nothing else changes. -/
theorem get?_put (table : Table α) (name other : String) (value : α) :
    get? (table.put name value) other = if name = other then some value else get? table other := by
  induction table with
  | nil => simp [put, get?_cons]
  | cons entry rest ih =>
      obtain ⟨first, old⟩ := entry
      by_cases h : first = name
      · by_cases hother : name = other <;> simp [put, get?_cons, h, hother]
      · by_cases hother : name = other
        · subst hother
          simp [put, get?_cons, h, ih]
        · simp [put, get?_cons, h, ih, hother]

theorem get?_put_self (table : Table α) (name : String) (value : α) :
    get? (table.put name value) name = some value := by
  simp [get?_put]

theorem get?_put_of_ne (table : Table α) {name other : String} (h : name ≠ other) (value : α) :
    get? (table.put name value) other = get? table other := by
  simp [get?_put, h]

/-- Putting again under the same name leaves nothing of the first value. -/
theorem put_put (table : Table α) (name : String) (first second : α) :
    (table.put name first).put name second = table.put name second := by
  induction table with
  | nil => simp [put]
  | cons entry rest ih =>
      by_cases h : entry.1 = name <;> simp [put, h, ih]

end Table

end AfsToken
