/-!
# Tables

A table is a list of named entries in the order in which the names first came.
Records of the data format, interface descriptors, environments, file trees and
caches are all tables.

* `find?` gives the entry of a name.
* `set` replaces the entry of a name where it stands, or adds it at the end.
* `ofList` enters a list one by one, so the last entry of a name wins and the
  name keeps its first place.
* `names` lists the names in order.

Names are of any type whose members can be compared.

A list with a name twice is a table too.  `find?` then sees the first of the
two.  `ofList` never builds such a table (`nodup_names_ofList`).
-/

namespace GatewayNat

/-- Named entries in order. -/
abbrev Table (κ α : Type) := List (κ × α)

namespace Table

variable {κ α β : Type} [DecidableEq κ]

/-- The entry of a name. -/
def find? : Table κ α → κ → Option α
  | [], _ => none
  | (key, value) :: rest, name => if key = name then some value else find? rest name

/-- Puts an entry in the place of the name, or at the end if the name is new. -/
def set : Table κ α → κ → α → Table κ α
  | [], name, value => [(name, value)]
  | (key, old) :: rest, name, value =>
    if key = name then (key, value) :: rest else (key, old) :: set rest name value

/-- Removes the entry of a name. -/
def erase : Table κ α → κ → Table κ α
  | [], _ => []
  | (key, value) :: rest, name => if key = name then rest else (key, value) :: erase rest name

/-- Whether the table has an entry of the name. -/
def has (table : Table κ α) (name : κ) : Bool := (table.find? name).isSome

/-- The names in order. -/
def names (table : Table κ α) : List κ := table.map (·.1)

/-- The entries entered one by one. -/
def ofList (entries : List (κ × α)) : Table κ α :=
  entries.foldl (fun table entry => table.set entry.1 entry.2) []

/-- The table with a function applied to every entry. -/
def mapEntries (f : α → β) (table : Table κ α) : Table κ β :=
  table.map fun entry => (entry.1, f entry.2)

/-! ## What each operation does to `find?` and `names` -/

@[simp] theorem find?_nil (name : κ) : find? ([] : Table κ α) name = none := rfl

theorem find?_set (table : Table κ α) (name other : κ) (value : α) :
    (table.set name value).find? other =
      if name = other then some value else table.find? other := by
  induction table with
  | nil => simp [set, find?]
  | cons entry rest ih =>
    obtain ⟨key, old⟩ := entry
    by_cases hk : key = name
    · subst hk
      by_cases ho : key = other <;> simp [set, find?, ho]
    · by_cases ho : key = other
      · subst ho
        simp [set, find?, hk, Ne.symm hk]
      · simp [set, find?, hk, ho, ih]

/-- A new name comes last. -/
theorem names_set (table : Table κ α) (name : κ) (value : α) : (table.set name value).names =
    if name ∈ table.names then table.names else table.names ++ [name] := by
  induction table with
  | nil => simp [set, names]
  | cons entry rest ih =>
    obtain ⟨key, old⟩ := entry
    by_cases hk : key = name
    · simp [set, names, hk]
    · simp only [names] at ih
      simp only [set, if_neg hk, names, List.map_cons, ih, List.mem_cons, Ne.symm hk, false_or]
      exact apply_ite (key :: ·) _ _ _

theorem mem_names_set (table : Table κ α) (name other : κ) (value : α) :
    other ∈ (table.set name value).names ↔ other = name ∨ other ∈ table.names := by
  induction table with
  | nil => simp [set, names]
  | cons entry rest ih =>
    obtain ⟨key, old⟩ := entry
    by_cases hk : key = name
    · subst hk
      simp [set, names]
    · simp only [names] at ih
      simp only [set, hk, if_false, names, List.map_cons, List.mem_cons, ih]
      grind

theorem nodup_names_set (table : Table κ α) (name : κ) (value : α)
    (h : table.names.Nodup) : (table.set name value).names.Nodup := by
  induction table with
  | nil => simp [set, names]
  | cons entry rest ih =>
    obtain ⟨key, old⟩ := entry
    simp only [names, List.map_cons, List.nodup_cons] at h
    by_cases hk : key = name
    · subst hk
      simpa [set, names] using h
    · have hrest := ih h.2
      have hmem := mem_names_set rest name key value
      simp only [names] at hrest hmem
      simp [set, hk, names, hrest, hmem, h.1]

/-- A table built from a list has every name once. -/
theorem nodup_names_ofList (entries : List (κ × α)) : (ofList entries).names.Nodup := by
  suffices h : ∀ (table : Table κ α), table.names.Nodup →
      (entries.foldl (fun t entry => t.set entry.1 entry.2) table).names.Nodup from
    h [] (by simp [names])
  induction entries with
  | nil => exact fun _ h => h
  | cons entry rest ih => exact fun table h => ih _ (nodup_names_set table entry.1 entry.2 h)

theorem find?_isSome_iff (table : Table κ α) (name : κ) :
    (table.find? name).isSome ↔ name ∈ table.names := by
  induction table with
  | nil => simp [names]
  | cons entry rest ih =>
    obtain ⟨key, value⟩ := entry
    by_cases hk : key = name
    · simp [find?, names, hk]
    · simp only [names] at ih
      simp only [find?, hk, if_false, ih, names, List.map_cons, List.mem_cons]
      grind

theorem mem_of_find? {table : Table κ α} {name : κ} {value : α}
    (found : table.find? name = some value) : (name, value) ∈ table := by
  induction table with
  | nil => cases found
  | cons entry rest ih =>
    obtain ⟨key, first⟩ := entry
    rw [find?] at found
    split at found
    · next same =>
      cases found
      rw [same]
      exact .head _
    · exact .tail _ (ih found)

end Table

end GatewayNat
