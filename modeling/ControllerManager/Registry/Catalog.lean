/-!
# Catalogs

Entries under distinct names, kept in ascending order of the names. The first entry under a name
stays: a later one is refused.

## Main definitions

* `Catalog` — entries in ascending order of their names.
* `Catalog.insert?` — the catalog with one more entry, unless the name is taken.
* `Catalog.beside` — the entries that another catalog does not have.
-/

namespace ControllerManager

/-- Entries in strictly ascending order of their names. -/
structure Catalog (α : Type) where
  entries : List (String × α)
  sorted : entries.Pairwise fun a b => a.1 < b.1

namespace Catalog

variable {α : Type}

/-- The catalog without entries. -/
def empty : Catalog α := ⟨[], List.Pairwise.nil⟩

instance : Inhabited (Catalog α) := ⟨empty⟩

/-- The names in ascending order. -/
def names (c : Catalog α) : List String := c.entries.map (·.1)

/-- Whether the name is taken. -/
def contains (c : Catalog α) (name : String) : Bool := c.entries.any (·.1 == name)

/-- The entry under a name. -/
def get? (c : Catalog α) (name : String) : Option α :=
  (c.entries.find? (·.1 == name)).map (·.2)

/-- The entries with a new one in its place, in front of the entries with greater names. -/
def place (name : String) (value : α) : List (String × α) → List (String × α)
  | [] => [(name, value)]
  | (n, v) :: rest =>
    if name < n then (name, value) :: (n, v) :: rest else (n, v) :: place name value rest

theorem mem_place {name : String} {value : α} {entries : List (String × α)} {e : String × α} :
    e ∈ place name value entries ↔ e = (name, value) ∨ e ∈ entries := by
  induction entries with
  | nil => simp [place]
  | cons head rest ih =>
    obtain ⟨n, v⟩ := head
    by_cases h : name < n
    · simp [place, h]
    · simp only [place, h, if_false, List.mem_cons, ih]
      constructor
      · rintro (h | h | h) <;> simp [h]
      · rintro (h | h | h) <;> simp [h]

theorem sorted_place {name : String} {value : α} {entries : List (String × α)}
    (hs : entries.Pairwise fun a b => a.1 < b.1) (hn : ∀ e ∈ entries, e.1 ≠ name) :
    (place name value entries).Pairwise fun a b => a.1 < b.1 := by
  induction entries with
  | nil => simp [place]
  | cons head rest ih =>
    obtain ⟨n, v⟩ := head
    obtain ⟨hhead, hrest⟩ := List.pairwise_cons.mp hs
    by_cases h : name < n
    · simp only [place, h, if_true, List.pairwise_cons]
      refine ⟨fun e he => ?_, hhead, hrest⟩
      rcases List.mem_cons.mp he with rfl | he
      · exact h
      · exact String.lt_trans h (hhead e he)
    · simp only [place, h, if_false, List.pairwise_cons]
      refine ⟨fun e he => ?_, ih hrest fun e he => hn e (List.mem_cons_of_mem _ he)⟩
      rcases mem_place.mp he with rfl | he
      · have hne : n ≠ name := hn (n, v) List.mem_cons_self
        have hle : n ≤ name := String.not_lt.mp h
        exact Decidable.byContradiction fun hlt =>
          hne (String.le_antisymm hle (String.not_lt.mp hlt))
      · exact hhead e he

/-- The catalog with one more entry, unless the name is taken. -/
def insert? (c : Catalog α) (name : String) (value : α) : Option (Catalog α) :=
  if h : c.contains name = true then none
  else
    some ⟨place name value c.entries, sorted_place c.sorted fun e he hn =>
      h (List.any_eq_true.mpr ⟨e, he, by simp [hn]⟩)⟩

/-- The catalog after entries in order, and which of them were taken. -/
def insertAll (c : Catalog α) : List (String × α) → Catalog α × List Bool
  | [] => (c, [])
  | (name, value) :: rest =>
    let added := c.insert? name value
    let (c, taken) := insertAll (added.getD c) rest
    (c, added.isSome :: taken)

/-- The entries of a catalog under names that are not taken in another one. -/
def beside (c other : Catalog α) : List (String × α) :=
  c.entries.filter fun entry => !other.contains entry.1

end Catalog

end ControllerManager
