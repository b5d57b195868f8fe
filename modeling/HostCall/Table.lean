/-!
# Tables of names

A table keeps at most one entry under a name, in the order in which the names were
first set.  The lemmas say what is found after an entry was set or erased: that
entry under its name, and under every other name what was found before.
-/

set_option autoImplicit false

namespace HostCall

/-- Entries under names. -/
structure Table (α : Type) where
  entries : List (String × α) := []

namespace Table

variable {α : Type}

/-- The entry under a name. -/
def get? (table : Table α) (name : String) : Option α :=
  (table.entries.find? (·.1 == name)).map Prod.snd

/-- The table with an entry under a name, in the place of the one that was there. -/
def set (table : Table α) (name : String) (entry : α) : Table α :=
  if table.entries.any (·.1 == name) then
    ⟨table.entries.map fun stored => if stored.1 == name then (name, entry) else stored⟩
  else ⟨table.entries ++ [(name, entry)]⟩

/-- The table with no entry under a name. -/
def erase (table : Table α) (name : String) : Table α :=
  ⟨table.entries.filter (·.1 != name)⟩

/-- The number of names. -/
def size (table : Table α) : Nat := table.entries.length

private theorem find?_map_replace (name key : String) (entry : α)
    (entries : List (String × α)) :
    (entries.map fun stored => if stored.1 == name then (name, entry) else stored).find?
        (·.1 == key) =
      if key = name then (entries.find? (·.1 == name)).map fun _ => (name, entry)
      else entries.find? (·.1 == key) := by
  induction entries with
  | nil => simp
  | cons stored entries inductionHypothesis =>
      by_cases sameKey : key = name
      · subst sameKey
        by_cases hit : stored.1 = key <;> simp_all
      · by_cases hit : stored.1 = name
        · have other : ¬ name = key := fun equal => sameKey equal.symm
          simp_all
        · by_cases found : stored.1 = key <;> simp_all

/-- An entry that was set is found under its name. -/
@[simp] theorem get?_set_self (table : Table α) (name : String) (entry : α) :
    (table.set name entry).get? name = some entry := by
  unfold set get?
  split
  · rename_i present
    simp only [find?_map_replace, if_true]
    obtain ⟨stored, member, hit⟩ := List.any_eq_true.mp present
    cases found : table.entries.find? (·.1 == name) with
    | none => exact absurd hit (by simpa using List.find?_eq_none.mp found stored member)
    | some _ => rfl
  · rename_i absent
    have missing : table.entries.find? (·.1 == name) = none := by
      rw [List.find?_eq_none]
      intro stored member hit
      exact absent (List.any_eq_true.mpr ⟨stored, member, hit⟩)
    simp [List.find?_append, missing]

/-- Setting one name changes no other. -/
theorem get?_set_of_ne {table : Table α} {name other : String} {entry : α}
    (different : other ≠ name) : (table.set name entry).get? other = table.get? other := by
  unfold set get?
  split
  · simp only [find?_map_replace, different, if_false]
  · simp [List.find?_append, different.symm]

/-- A name that was erased has no entry. -/
@[simp] theorem get?_erase_self (table : Table α) (name : String) :
    (table.erase name).get? name = none := by
  unfold erase get?
  rw [Option.map_eq_none_iff, List.find?_eq_none]
  intro stored member
  simp_all

/-- Erasing one name changes no other. -/
theorem get?_erase_of_ne {table : Table α} {name other : String}
    (different : other ≠ name) : (table.erase name).get? other = table.get? other := by
  unfold erase get?
  rw [List.find?_filter]
  congr 2
  funext stored
  by_cases hit : stored.1 = other
  · have : ¬ stored.1 = name := fun equal => different (hit ▸ equal)
    simp_all
  · simp [hit]

end Table

end HostCall
