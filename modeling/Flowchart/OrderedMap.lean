-- SUMMARY: Finite maps from names that keep the order in which names were added.

/-!
# Ordered maps

A map from names to values, kept as the list of its entries in the order they were added. No name
has two entries, and an entry is never moved, replaced or removed, so that the first value given to a
name stays.
-/

namespace Flowchart

/-- A map whose entries stand in the order they were added. -/
structure OrderedMap (α : Type) where
  entries : List (String × α)
  nodup_names : (entries.map Prod.fst).Nodup
  deriving DecidableEq, Repr

namespace OrderedMap

variable {α : Type}

def empty : OrderedMap α := ⟨[], List.nodup_nil⟩

instance : EmptyCollection (OrderedMap α) := ⟨empty⟩

/-- The names, in the order they were added. -/
def names (map : OrderedMap α) : List String :=
  map.entries.map Prod.fst

/-- The values, in the order they were added. -/
def values (map : OrderedMap α) : List α :=
  map.entries.map Prod.snd

def size (map : OrderedMap α) : Nat :=
  map.entries.length

/-- The value of a name. -/
def get? (map : OrderedMap α) (name : String) : Option α :=
  (map.entries.find? (·.1 == name)).map Prod.snd

/-- Adding a new name behind others keeps them apart. -/
theorem nodup_append_name {entries : List (String × α)} {name : String} (value : α)
    (nodup : (entries.map Prod.fst).Nodup) (new : name ∉ entries.map Prod.fst) :
    ((entries ++ [(name, value)]).map Prod.fst).Nodup := by
  rw [List.map_append, List.nodup_append]
  refine ⟨nodup, by simp, ?_⟩
  rintro other old _ added rfl
  simp only [List.map_cons, List.map_nil, List.mem_singleton] at added
  exact new (added ▸ old)

/-- Add an entry at the end, unless the name has one already. -/
def insertNew (map : OrderedMap α) (name : String) (value : α) : OrderedMap α :=
  if new : name ∈ map.names then map
  else ⟨map.entries ++ [(name, value)], nodup_append_name value map.nodup_names new⟩

/-- Adding an entry changes nothing for a name that has one, and else puts it last. -/
theorem entries_insertNew (map : OrderedMap α) (name : String) (value : α) :
    (map.insertNew name value).entries =
      if name ∈ map.names then map.entries else map.entries ++ [(name, value)] := by
  unfold insertNew
  split <;> rfl

end OrderedMap

end Flowchart
