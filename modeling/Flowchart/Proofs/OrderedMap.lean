-- SUMMARY: Filling an ordered map: the first value given to each name stays, in the order the names come up.
import Mathlib.Data.List.Nodup
import Flowchart.OrderedMap

/-!
# Filling ordered maps

A map that is filled from a list holds what it held before, and then, for every further name, the
first element of the list that has it. `List.eraseDupsBy` says which elements those are.
-/

namespace Flowchart

/-! ## First occurrences -/

section Firsts

variable {β : Type} (name : β → String)

/-- The elements that come first among those of the same name. -/
def firsts (l : List β) : List β :=
  l.eraseDupsBy fun a b => name a == name b

@[simp] theorem firsts_nil : firsts name [] = [] := rfl

theorem firsts_cons (a : β) (l : List β) :
    firsts name (a :: l) = a :: firsts name (l.filter (name · != name a)) := by
  rw [firsts, List.eraseDupsBy_cons, firsts]
  simp only [bne, Bool.decide_eq_false]

/-- To prove something of every list, go on from its head to the elements of other names. -/
@[elab_as_elim]
theorem firstsInduction {motive : List β → Prop} (nil : motive [])
    (cons : ∀ a l, motive (l.filter (name · != name a)) → motive (a :: l)) (l : List β) :
    motive l := by
  induction hn : l.length using Nat.strongRecOn generalizing l with
  | ind n ih =>
    cases l with
    | nil => exact nil
    | cons a l =>
      refine cons a l (ih _ ?_ _ rfl)
      rw [← hn]
      exact Nat.lt_succ_of_le (List.length_filter_le _ _)

/-- The first elements of a list have the names of the whole list. -/
theorem mem_map_firsts {l : List β} {x : String} :
    x ∈ (firsts name l).map name ↔ x ∈ l.map name := by
  induction l using firstsInduction name with
  | nil => simp
  | cons a l ih =>
    rw [firsts_cons, List.map_cons, List.mem_cons, ih, List.map_cons, List.mem_cons]
    by_cases hx : x = name a
    · simp [hx]
    · simp only [hx, false_or, List.mem_map, List.mem_filter, bne_iff_ne]
      constructor
      · rintro ⟨b, ⟨hb, -⟩, rfl⟩
        exact ⟨b, hb, rfl⟩
      · rintro ⟨b, hb, rfl⟩
        exact ⟨b, ⟨hb, hx⟩, rfl⟩

/-- No two first elements have the same name. -/
theorem nodup_map_firsts (l : List β) : ((firsts name l).map name).Nodup := by
  induction l using firstsInduction name with
  | nil => simp
  | cons a l ih =>
    rw [firsts_cons, List.map_cons, List.nodup_cons, mem_map_firsts]
    exact ⟨by simp, ih⟩

theorem firsts_sublist (l : List β) : (firsts name l).Sublist l := by
  induction l using firstsInduction name with
  | nil => exact List.Sublist.slnil
  | cons a l ih =>
    rw [firsts_cons]
    exact (ih.trans List.filter_sublist).cons_cons a

/-- If no name is repeated, every element comes first. -/
theorem firsts_eq_self {l : List β} (h : (l.map name).Nodup) : firsts name l = l := by
  induction l with
  | nil => rfl
  | cons a l ih =>
    rw [List.map_cons, List.nodup_cons] at h
    rw [firsts_cons, List.filter_eq_self.2, ih h.2]
    intro b hb
    rw [bne_iff_ne]
    rintro heq
    exact h.1 (heq ▸ List.mem_map_of_mem hb)

theorem firsts_append (l l' : List β) :
    firsts name (l ++ l') = firsts name l ++ firsts name (l'.filter (name · ∉ l.map name)) := by
  induction l using firstsInduction name generalizing l' with
  | nil => simp
  | cons a l ih =>
    rw [List.cons_append, firsts_cons, List.filter_append, ih, firsts_cons, List.cons_append,
      List.filter_filter]
    congr 3
    apply List.filter_congr
    intro b _
    have hmem : name b ∈ (l.filter (name · != name a)).map name ↔
        name b ∈ l.map name ∧ name b ≠ name a := by
      simp only [List.mem_map, List.mem_filter, bne_iff_ne]
      constructor
      · rintro ⟨c, ⟨hc, hne⟩, heq⟩
        exact ⟨⟨c, hc, heq⟩, heq ▸ hne⟩
      · rintro ⟨⟨c, hc, heq⟩, hne⟩
        exact ⟨c, ⟨hc, heq ▸ hne⟩, heq⟩
    rw [Bool.eq_iff_iff]
    simp only [Bool.and_eq_true, decide_eq_true_eq, bne_iff_ne, List.map_cons, List.mem_cons, hmem]
    tauto

theorem firsts_map {α : Type} (f : α → β) (l : List α) :
    firsts name (l.map f) = (firsts (name ∘ f) l).map f := by
  induction l using firstsInduction (name ∘ f) with
  | nil => rfl
  | cons a l ih =>
    rw [List.map_cons, firsts_cons, firsts_cons, List.map_cons, ← ih, List.filter_map]
    rfl

/-- The first new elements: the head if it is new, and then those that are new beside it. -/
theorem firsts_filter_cons {known : List String} {a : β} (h : name a ∉ known) (l : List β) :
    firsts name ((a :: l).filter (name · ∉ known)) =
      a :: firsts name (l.filter (name · ∉ known ++ [name a])) := by
  rw [List.filter_cons_of_pos (by simpa using h), firsts_cons, List.filter_filter]
  congr 2
  apply List.filter_congr
  intro b _
  rw [Bool.eq_iff_iff]
  simp [and_comm]

/-- The first element found with a name is among the first elements. -/
theorem mem_firsts_of_find? {l : List β} {x : String} {a : β}
    (h : l.find? (name · == x) = some a) : a ∈ firsts name l := by
  induction l using firstsInduction name with
  | nil => cases h
  | cons b l ih =>
    rw [firsts_cons, List.mem_cons]
    by_cases hb : name b = x
    · rw [List.find?_cons_of_pos (by simpa using hb)] at h
      exact .inl (Option.some.inj h).symm
    · rw [List.find?_cons_of_neg (by simpa using hb)] at h
      refine .inr (ih ?_)
      rw [List.find?_filter, ← h]
      congr 1
      funext c
      by_cases hc : name c = x <;> simp [hc, Ne.symm hb]

/-- Nothing is found with a name that no element has. -/
theorem find?_name_eq_none_iff {l : List β} {x : String} :
    l.find? (name · == x) = none ↔ x ∉ l.map name := by
  simp [List.find?_eq_none]

/-- The first elements are those that are found with their names. -/
theorem mem_firsts_iff_find? {l : List β} {a : β} :
    a ∈ firsts name l ↔ l.find? (name · == name a) = some a := by
  refine ⟨fun ha => ?_, mem_firsts_of_find? name⟩
  obtain ⟨b, hb⟩ := Option.isSome_iff_exists.1
    (List.find?_isSome (p := (name · == name a)).2
      ⟨a, (firsts_sublist name l).subset ha, by simp⟩)
  have hname : name b = name a := by simpa using List.find?_some hb
  have hsame := List.inj_on_of_nodup_map (nodup_map_firsts name l) (mem_firsts_of_find? name hb) ha hname
  rwa [hsame] at hb

end Firsts

namespace OrderedMap

variable {α β : Type}

/-- A map is its entries. -/
theorem eq_of_entries {map other : OrderedMap α} (h : map.entries = other.entries) : map = other := by
  cases map
  cases other
  simpa using h

/-! ## Adding one entry -/

theorem insertNew_of_mem {map : OrderedMap α} {name : String} (value : α) (h : name ∈ map.names) :
    map.insertNew name value = map :=
  dif_pos h

theorem entries_insertNew_of_notMem {map : OrderedMap α} {name : String} (value : α)
    (h : name ∉ map.names) :
    (map.insertNew name value).entries = map.entries ++ [(name, value)] := by
  rw [entries_insertNew, if_neg h]

theorem names_insertNew_of_notMem {map : OrderedMap α} {name : String} (value : α)
    (h : name ∉ map.names) : (map.insertNew name value).names = map.names ++ [name] := by
  simp [names, entries_insertNew_of_notMem value h]

/-- A name has one entry or none. -/
theorem count_names (map : OrderedMap α) {name : String} (h : name ∈ map.names) :
    map.names.count name = 1 :=
  List.count_eq_one_of_mem map.nodup_names h

/-! ## Filling -/

/-- Filling a map adds the first elements with names that are new to it, in order. -/
theorem entries_foldl_insertNew (name : β → String) (value : β → α) (l : List β)
    (map : OrderedMap α) :
    (l.foldl (fun map b => map.insertNew (name b) (value b)) map).entries =
      map.entries ++
        (firsts name (l.filter (name · ∉ map.names))).map fun b => (name b, value b) := by
  induction l generalizing map with
  | nil => simp
  | cons b l ih =>
    rw [List.foldl_cons, ih]
    by_cases hb : name b ∈ map.names
    · rw [insertNew_of_mem _ hb, List.filter_cons_of_neg (by simpa using hb)]
    · rw [entries_insertNew_of_notMem _ hb, names_insertNew_of_notMem _ hb,
        firsts_filter_cons name hb]
      simp

/-! ## Looking up -/

/-- An entry is what its name is looked up to, no other entry having that name. -/
theorem get?_of_mem {map : OrderedMap α} {name : String} {value : α}
    (h : (name, value) ∈ map.entries) : map.get? name = some value := by
  obtain ⟨entry, hfind⟩ := Option.isSome_iff_exists.1
    (List.find?_isSome (p := (·.1 == name)).2 ⟨_, h, by simp⟩)
  have hname : entry.1 = name := by simpa using List.find?_some hfind
  have hentry : entry = (name, value) :=
    List.inj_on_of_nodup_map map.nodup_names (List.mem_of_find?_eq_some hfind) h hname
  rw [get?, hfind, hentry]
  rfl

/-- A name without an entry is looked up to nothing. -/
theorem get?_of_notMem {map : OrderedMap α} {name : String} (h : name ∉ map.names) :
    map.get? name = none := by
  rw [get?, (find?_name_eq_none_iff Prod.fst).2 h]
  rfl

/-- In a map that is filled from a list, a name is looked up to the value of the first element that
    has it. -/
theorem get?_foldl_insertNew (name : β → String) (value : β → α) (l : List β) (x : String) :
    (l.foldl (fun map b => map.insertNew (name b) (value b)) (∅ : OrderedMap α)).get? x =
      (l.find? (name · == x)).map value := by
  have hentries :
      (l.foldl (fun map b => map.insertNew (name b) (value b)) (∅ : OrderedMap α)).entries =
        (firsts name l).map fun b => (name b, value b) := by
    rw [entries_foldl_insertNew]
    simp [names, EmptyCollection.emptyCollection, empty]
  cases hfind : l.find? (name · == x) with
  | none =>
    apply get?_of_notMem
    rw [names, hentries, List.map_map]
    exact fun hmem => (find?_name_eq_none_iff name).1 hfind ((mem_map_firsts name).1 hmem)
  | some b =>
    have hname : name b = x := by simpa using List.find?_some hfind
    apply get?_of_mem
    rw [hentries, ← hname]
    exact List.mem_map_of_mem (mem_firsts_of_find? name hfind)

end OrderedMap

end Flowchart
