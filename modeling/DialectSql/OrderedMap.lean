import DialectSql.Text.CodePoint

/-!
# Ordered Maps

Finite maps from names that remember the order in which the names first appeared.  Setting a name
that is present keeps its place and replaces its value, so of several settings of one name the
first fixes the place and the last fixes the value.
-/

namespace DialectSql

/-- Sets a name in a list of entries. -/
def setEntry {α : Type} (entries : List (Text × α)) (name : Text) (value : α) :
    List (Text × α) :=
  if name ∈ entries.map Prod.fst then
    entries.map fun entry ↦ if entry.1 = name then (name, value) else entry
  else entries ++ [(name, value)]

theorem mem_setEntry {α : Type} {entries : List (Text × α)} {name : Text} {value : α}
    {entry : Text × α} (mem : entry ∈ setEntry entries name value) :
    entry = (name, value) ∨ entry ∈ entries := by
  unfold setEntry at mem
  split at mem
  · obtain ⟨former, isFormer, same⟩ := List.mem_map.mp mem
    split at same
    · exact .inl same.symm
    · exact .inr (same ▸ isFormer)
  · rcases List.mem_append.mp mem with former | new
    · exact .inr former
    · exact .inl (List.mem_singleton.mp new)

theorem map_fst_setEntry {α : Type} (entries : List (Text × α)) (name : Text) (value : α) :
    (setEntry entries name value).map Prod.fst =
      if name ∈ entries.map Prod.fst then entries.map Prod.fst
      else entries.map Prod.fst ++ [name] := by
  unfold setEntry
  split
  · rw [List.map_map]
    apply List.map_congr_left
    intro entry _
    by_cases h : entry.1 = name <;> simp [h]
  · simp

theorem nodup_setEntry {α : Type} {entries : List (Text × α)} (name : Text) (value : α)
    (nodup : (entries.map Prod.fst).Nodup) :
    ((setEntry entries name value).map Prod.fst).Nodup := by
  rw [map_fst_setEntry]
  split
  · exact nodup
  · rename_i absent
    rw [List.nodup_append]
    refine ⟨nodup, by simp, ?_⟩
    intro left leftMem right rightMem same
    simp only [List.mem_singleton] at rightMem
    exact absent (rightMem ▸ same ▸ leftMem)

/-- Setting a name passes over an entry of another name. -/
theorem setEntry_cons_of_ne {α : Type} {entry : Text × α} {entries : List (Text × α)} {name : Text}
    {value : α} (apart : entry.1 ≠ name) :
    setEntry (entry :: entries) name value = entry :: setEntry entries name value := by
  have sameNames : name ∈ (entry :: entries).map Prod.fst ↔ name ∈ entries.map Prod.fst := by
    rw [List.map_cons, List.mem_cons, or_iff_right (Ne.symm apart)]
  unfold setEntry
  by_cases present : name ∈ entries.map Prod.fst
  · rw [if_pos present, if_pos (sameNames.mpr present), List.map_cons, if_neg apart]
  · rw [if_neg present, if_neg (mt sameNames.mp present), List.cons_append]

/-- Setting the name of the first entry replaces its value. -/
theorem setEntry_cons_self {α : Type} {entries : List (Text × α)} {name : Text} {former value : α}
    (absent : name ∉ entries.map Prod.fst) :
    setEntry ((name, former) :: entries) name value = (name, value) :: entries := by
  have others : entries.map (fun entry ↦ if entry.1 = name then (name, value) else entry) =
      entries := by
    refine (List.map_congr_left fun entry mem ↦ if_neg ?_).trans (List.map_id entries)
    exact fun same ↦ absent (List.mem_map.mpr ⟨entry, mem, same⟩)
  have present : name ∈ ((name, former) :: entries).map Prod.fst := List.mem_cons_self
  rw [setEntry, if_pos present, List.map_cons, if_pos rfl, others]

/-- The value that is set is found. -/
theorem lookup_setEntry {α : Type} (entries : List (Text × α)) (name : Text) (value : α) :
    (setEntry entries name value).lookup name = some value := by
  induction entries with
  | nil => simp [setEntry]
  | cons entry entries ih =>
    by_cases here : entry.1 = name
    · simp [setEntry, here]
    · rw [setEntry_cons_of_ne here, List.lookup_cons, beq_eq_false_iff_ne.mpr (Ne.symm here)]
      exact ih

/-- The values of other names stay. -/
theorem lookup_setEntry_of_ne {α : Type} (entries : List (Text × α)) {name other : Text}
    (value : α) (apart : other ≠ name) :
    (setEntry entries name value).lookup other = entries.lookup other := by
  unfold setEntry
  split
  · rename_i present
    clear present
    induction entries with
    | nil => rfl
    | cons entry entries ih =>
      by_cases here : entry.1 = name
      · rw [List.map_cons, if_pos here, List.lookup_cons, List.lookup_cons, here,
          beq_eq_false_iff_ne.mpr apart]
        exact ih
      · rw [List.map_cons, if_neg here, List.lookup_cons, List.lookup_cons, ih]
  · simp [List.lookup_append, List.lookup_cons, beq_eq_false_iff_ne.mpr apart]

/-- A finite map from names, in order of first appearance. -/
structure OrderedMap (α : Type) where
  entries : List (Text × α)
  nodup : (entries.map Prod.fst).Nodup

namespace OrderedMap

variable {α : Type}

/-- The map without entries. -/
def empty : OrderedMap α :=
  ⟨[], by simp⟩

instance : Inhabited (OrderedMap α) :=
  ⟨empty⟩

instance [DecidableEq α] : DecidableEq (OrderedMap α) := fun left right ↦
  decidable_of_iff (left.entries = right.entries) (by cases left; cases right; simp)

/-- Sets a name. -/
def insert (map : OrderedMap α) (name : Text) (value : α) : OrderedMap α :=
  ⟨setEntry map.entries name value, nodup_setEntry name value map.nodup⟩

/-- The map that arises by setting the given names one after another. -/
def ofList (entries : List (Text × α)) : OrderedMap α :=
  entries.foldl (fun map entry ↦ map.insert entry.1 entry.2) empty

/-- The value of a name. -/
def get? (map : OrderedMap α) (name : Text) : Option α :=
  map.entries.lookup name

/-- Setting a name changes its value and no other one. -/
theorem get?_insert (map : OrderedMap α) (name : Text) (value : α) (other : Text) :
    (map.insert name value).get? other = if other = name then some value else map.get? other := by
  by_cases here : other = name
  · rw [if_pos here, here]
    exact lookup_setEntry map.entries name value
  · rw [if_neg here]
    exact lookup_setEntry_of_ne map.entries value here

/-- The names, in order. -/
def names (map : OrderedMap α) : List Text :=
  map.entries.map Prod.fst

/-- The values, in the order of their names. -/
def values (map : OrderedMap α) : List α :=
  map.entries.map Prod.snd

/-- Whether the map has no entries. -/
def isEmpty (map : OrderedMap α) : Bool :=
  map.entries.isEmpty

/-- The names in code-point order. -/
def sortedNames (map : OrderedMap α) : List Text :=
  map.names.mergeSort Text.atMost

/-- Changes the value of a name that is present. -/
def modify (map : OrderedMap α) (name : Text) (change : α → α) : OrderedMap α :=
  match map.get? name with
  | some value => map.insert name (change value)
  | none => map

/-- The map with a function applied to every value. -/
def mapValues {β : Type} (f : α → β) (map : OrderedMap α) : OrderedMap β :=
  ⟨map.entries.map fun entry ↦ (entry.1, f entry.2), by
    have same : (map.entries.map fun entry ↦ (entry.1, f entry.2)).map Prod.fst =
        map.entries.map Prod.fst := by
      rw [List.map_map]
      rfl
    rw [same]
    exact map.nodup⟩

/-- Whether two maps have the same entries, in whatever order. -/
def sameEntries [DecidableEq α] (left right : OrderedMap α) : Bool :=
  left.entries.length == right.entries.length &&
    left.entries.all fun entry ↦ right.get? entry.1 == some entry.2

end OrderedMap

end DialectSql
