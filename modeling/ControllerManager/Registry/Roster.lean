/-!
# Rosters

Entries under distinct names, kept in the order in which they came. The first entry under a name
stays: a later one is refused.

## Main definitions

* `Roster` — entries in order of arrival.
* `Roster.add?` — the roster with one more entry, unless the name is taken.
-/

namespace ControllerManager

/-- Entries under distinct names in order of arrival. -/
structure Roster (α : Type) where
  entries : List (String × α)
  nodup : (entries.map (·.1)).Nodup

namespace Roster

variable {α : Type}

/-- The roster without entries. -/
def empty : Roster α := ⟨[], List.nodup_nil⟩

instance : Inhabited (Roster α) := ⟨empty⟩

/-- The names in order of arrival. -/
def names (r : Roster α) : List String := r.entries.map (·.1)

/-- Whether the name is taken. -/
def contains (r : Roster α) (name : String) : Bool := r.names.contains name

/-- The roster with one more entry, unless the name is taken. -/
def add? (r : Roster α) (name : String) (value : α) : Option (Roster α) :=
  if h : r.contains name = true then none
  else
    some ⟨r.entries ++ [(name, value)], by
      rw [List.map_append, List.nodup_append]
      refine ⟨r.nodup, by simp, fun a ha b hb hab => h ?_⟩
      simp only [List.map_cons, List.map_nil, List.mem_singleton] at hb
      subst hab hb
      exact List.contains_iff_mem.mpr ha⟩

theorem names_empty : (empty : Roster α).names = [] := rfl

end Roster

end ControllerManager
