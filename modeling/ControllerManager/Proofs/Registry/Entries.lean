import ControllerManager.Registry.Catalog
import ControllerManager.Registry.Roster
import Mathlib.Data.List.Basic
import Mathlib.Data.List.Nodup
import Mathlib.Tactic.SplitIfs

/-!
# Entries of registries

A roster and a catalog take an entry exactly when its name is free, and keep all entries that they
had.

## Main results

* `Roster.exists_add?`, `Catalog.exists_insert?` — a free name is taken.
* `Roster.add?_cases`, `Catalog.insert?_cases` — what comes of one more entry.
* `Catalog.perm_of_insert?`, `Catalog.mem_entries_of_insert?` — the entries after one more was
  taken.
* `Catalog.get?_eq_some_iff` — what is found are the entries.
-/

namespace ControllerManager

variable {α : Type} {name : String} {value : α}

namespace Roster

variable {r : Roster α}

theorem contains_iff : r.contains name = true ↔ name ∈ r.names := List.contains_iff_mem

/-- A name that is free is taken, by an entry behind all others. -/
theorem exists_add? (h : r.contains name = false) (value : α) :
    ∃ r', r.add? name value = some r' ∧ r'.entries = r.entries ++ [(name, value)] := by
  unfold add?
  rw [dif_neg (by rw [h]; exact Bool.false_ne_true)]
  exact ⟨_, rfl, rfl⟩

/-- A roster takes an entry behind all others, or refuses it because the name is taken. -/
theorem add?_cases (r : Roster α) (name : String) (value : α) :
    (name ∉ r.names ∧
      ∃ r', r.add? name value = some r' ∧ r'.entries = r.entries ++ [(name, value)]) ∨
    (name ∈ r.names ∧ r.add? name value = none) := by
  by_cases h : name ∈ r.names
  · exact .inr ⟨h, dif_pos (contains_iff.2 h)⟩
  · exact .inl ⟨h, exists_add? (Bool.eq_false_iff.2 (mt contains_iff.1 h)) value⟩

end Roster

namespace Catalog

variable {c c' : Catalog α}

theorem contains_iff : c.contains name = true ↔ name ∈ c.names := by
  simp [contains, names]

/-- A name that is free is taken. -/
theorem exists_insert? (h : name ∉ c.names) (value : α) : ∃ c', c.insert? name value = some c' := by
  unfold insert?
  rw [dif_neg (by rwa [contains_iff])]
  exact ⟨_, rfl⟩

/-- What was inserted is an entry beside those that were there. -/
theorem mem_entries_of_insert? (h : c.insert? name value = some c') {e : String × α} :
    e ∈ c'.entries ↔ e = (name, value) ∨ e ∈ c.entries := by
  unfold insert? at h
  split_ifs at h
  cases h
  exact mem_place

theorem perm_place (name : String) (value : α) (entries : List (String × α)) :
    (place name value entries).Perm ((name, value) :: entries) := by
  induction entries with
  | nil => exact .refl _
  | cons e entries ih =>
    unfold place
    split_ifs
    · exact .refl _
    · exact (ih.cons e).trans (.swap _ e entries)

/-- An insertion adds one entry. -/
theorem perm_of_insert? (h : c.insert? name value = some c') :
    c'.entries.Perm ((name, value) :: c.entries) := by
  unfold insert? at h
  split_ifs at h
  cases h
  exact perm_place name value c.entries

/-- A catalog takes an entry beside the others, or refuses it because the name is taken. -/
theorem insert?_cases (c : Catalog α) (name : String) (value : α) :
    (name ∉ c.names ∧ ∃ c', c.insert? name value = some c' ∧
      c'.entries.Perm (c.entries ++ [(name, value)])) ∨
    (name ∈ c.names ∧ c.insert? name value = none) := by
  by_cases h : name ∈ c.names
  · exact .inr ⟨h, dif_pos (contains_iff.2 h)⟩
  · obtain ⟨c', hc'⟩ := exists_insert? h value
    exact .inl ⟨h, c', hc', (perm_of_insert? hc').trans (List.perm_append_singleton _ _).symm⟩

/-- One entry beside those that were there, under a name that was free. -/
theorem beside_of_perm (h : c'.entries.Perm (c.entries ++ [(name, value)]))
    (hfree : name ∉ c.names) : c'.beside c = [(name, value)] := by
  have hbefore : c.entries.filter (fun e => !c.contains e.1) = [] :=
    List.filter_eq_nil_iff.2 fun e he => by
      have htaken : c.contains e.1 = true := contains_iff.2 (List.mem_map_of_mem he)
      simp [htaken]
  have hafter : c.contains name = false := Bool.eq_false_iff.2 (mt contains_iff.1 hfree)
  have hfilter := h.filter fun e => !c.contains e.1
  rw [List.filter_append, hbefore, List.filter_singleton, hafter] at hfilter
  exact List.perm_singleton.1 hfilter

/-- Names stand once. -/
theorem nodup_names (c : Catalog α) : c.names.Nodup := by
  have hsorted : c.names.Pairwise (· < ·) := List.pairwise_map.2 c.sorted
  apply hsorted.imp
  intro a b hlt heq
  subst heq
  exact String.lt_irrefl a hlt

/-- What is found under a name is its only entry. -/
theorem get?_of_mem (h : (name, value) ∈ c.entries) : c.get? name = some value := by
  obtain ⟨e, he⟩ : ∃ e, c.entries.find? (·.1 == name) = some e :=
    Option.isSome_iff_exists.1 (List.find?_isSome.2 ⟨_, h, beq_self_eq_true name⟩)
  have hname : e.1 = name := by simpa using List.find?_some he
  have hentry : e = (name, value) :=
    List.inj_on_of_nodup_map c.nodup_names (List.mem_of_find?_eq_some he) h hname
  rw [get?, he, hentry]
  rfl

theorem get?_eq_some_iff : c.get? name = some value ↔ (name, value) ∈ c.entries := by
  refine ⟨fun h => ?_, get?_of_mem⟩
  obtain ⟨⟨name', value'⟩, he, rfl⟩ := Option.map_eq_some_iff.1 h
  obtain rfl : name' = name := by simpa using List.find?_some he
  exact List.mem_of_find?_eq_some he

end Catalog

end ControllerManager
