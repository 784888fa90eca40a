/-! Maps keyed by name that keep the order in which names were first added. Replacing a value
keeps its place; a name that is removed and added again goes to the end. -/

namespace DomainAtlas

structure NameMap (α : Type) where
  entries : List (String × α)
  nodup : (entries.map Prod.fst).Nodup
  deriving DecidableEq

namespace NameMap

variable {α : Type}

def empty : NameMap α := ⟨[], by simp⟩

instance : Inhabited (NameMap α) := ⟨empty⟩

def names (map : NameMap α) : List String := map.entries.map Prod.fst

def values (map : NameMap α) : List α := map.entries.map Prod.snd

def size (map : NameMap α) : Nat := map.entries.length

def isEmpty (map : NameMap α) : Bool := map.entries.isEmpty

def get? (map : NameMap α) (name : String) : Option α := map.entries.lookup name

def contains (map : NameMap α) (name : String) : Bool := map.names.contains name

/-- The entries with a name's value replaced, or with the name added at the end. -/
def put (name : String) (value : α) : List (String × α) → List (String × α)
  | [] => [(name, value)]
  | (key, old) :: rest =>
    if key = name then (key, value) :: rest else (key, old) :: put name value rest

theorem names_put (name : String) (value : α) (entries : List (String × α)) :
    (put name value entries).map Prod.fst =
      if name ∈ entries.map Prod.fst then entries.map Prod.fst
      else entries.map Prod.fst ++ [name] := by
  induction entries with
  | nil => simp [put]
  | cons entry rest ih =>
    obtain ⟨key, old⟩ := entry
    by_cases same : key = name
    · simp [put, same]
    · have other : ¬ name = key := fun h => same h.symm
      simp only [put, same, if_false, List.map_cons, ih, List.mem_cons, other, false_or]
      split <;> rfl

def insert (map : NameMap α) (name : String) (value : α) : NameMap α where
  entries := put name value map.entries
  nodup := by
    rw [names_put]
    split
    · exact map.nodup
    · next fresh =>
      exact List.nodup_append.mpr ⟨map.nodup, by simp, by
        intro a mem b isName same
        rw [List.mem_singleton.mp isName] at same
        exact fresh (same ▸ mem)⟩

def erase (map : NameMap α) (name : String) : NameMap α where
  entries := map.entries.filter (·.1 != name)
  nodup := map.nodup.sublist (List.filter_sublist.map Prod.fst)

def ofList (entries : List (String × α)) : NameMap α :=
  entries.foldl (fun map entry => map.insert entry.1 entry.2) empty

@[ext] theorem ext {a b : NameMap α} (same : a.entries = b.entries) : a = b := by
  cases a
  cases b
  simp_all

theorem names_nodup (map : NameMap α) : map.names.Nodup := map.nodup

@[simp] theorem get?_empty (name : String) : (empty : NameMap α).get? name = none := rfl

@[simp] theorem contains_iff {map : NameMap α} {name : String} :
    map.contains name = true ↔ name ∈ map.names := by simp [contains]

theorem names_insert (map : NameMap α) (name : String) (value : α) :
    (map.insert name value).names =
      if name ∈ map.names then map.names else map.names ++ [name] :=
  names_put name value map.entries

private theorem lookup_cons (name key : String) (value : α) (rest : List (String × α)) :
    ((key, value) :: rest).lookup name = if name = key then some value else rest.lookup name := by
  rw [List.lookup_cons]
  by_cases same : name = key
  · simp [same]
  · simp [same, beq_false_of_ne same]

private theorem lookup_put (name other : String) (value : α) (entries : List (String × α)) :
    (put name value entries).lookup other =
      if other = name then some value else entries.lookup other := by
  induction entries with
  | nil => rw [put, lookup_cons]
  | cons entry rest ih =>
    obtain ⟨key, old⟩ := entry
    rw [put]
    split <;> simp only [lookup_cons] <;> grind

theorem get?_insert (map : NameMap α) (name other : String) (value : α) :
    (map.insert name value).get? other = if other = name then some value else map.get? other :=
  lookup_put name other value map.entries

theorem names_erase (map : NameMap α) (name : String) :
    (map.erase name).names = map.names.filter (· != name) := by
  simp [names, erase, List.filter_map, Function.comp_def]

private theorem lookup_filter (name other : String) (entries : List (String × α)) :
    (entries.filter (·.1 != name)).lookup other =
      if other = name then none else entries.lookup other := by
  induction entries with
  | nil => simp
  | cons entry rest ih =>
    obtain ⟨key, value⟩ := entry
    rw [List.filter_cons, lookup_cons]
    split
    · rw [lookup_cons]
      grind
    · grind

theorem get?_erase (map : NameMap α) (name other : String) :
    (map.erase name).get? other = if other = name then none else map.get? other :=
  lookup_filter name other map.entries

private theorem lookup_eq_some_iff {entries : List (String × α)} {name : String} {value : α}
    (nodup : (entries.map Prod.fst).Nodup) :
    entries.lookup name = some value ↔ (name, value) ∈ entries := by
  induction entries with
  | nil => simp
  | cons entry rest ih =>
    obtain ⟨key, old⟩ := entry
    simp only [List.map_cons, List.nodup_cons] at nodup
    have absent : ∀ v, (key, v) ∉ rest := fun v mem => nodup.1 (List.mem_map_of_mem mem)
    rw [lookup_cons]
    split <;> grind

theorem get?_eq_some_iff {map : NameMap α} {name : String} {value : α} :
    map.get? name = some value ↔ (name, value) ∈ map.entries :=
  lookup_eq_some_iff map.nodup

theorem get?_isSome_iff {map : NameMap α} {name : String} :
    (map.get? name).isSome = true ↔ name ∈ map.names := by
  rw [Option.isSome_iff_exists]
  simp only [get?_eq_some_iff, names, List.mem_map, Prod.exists]
  constructor
  · rintro ⟨value, h⟩
    exact ⟨name, value, h, rfl⟩
  · rintro ⟨key, value, h, rfl⟩
    exact ⟨value, h⟩

private theorem put_absent {name : String} {entries : List (String × α)}
    (absent : name ∉ entries.map Prod.fst) (value : α) :
    put name value entries = entries ++ [(name, value)] := by
  induction entries with
  | nil => rfl
  | cons entry rest ih =>
    obtain ⟨key, old⟩ := entry
    simp only [List.map_cons, List.mem_cons, not_or] at absent
    rw [put, if_neg (Ne.symm absent.1), ih absent.2, List.cons_append]

theorem entries_insert_of_absent {map : NameMap α} {name : String} (absent : name ∉ map.names)
    (value : α) : (map.insert name value).entries = map.entries ++ [(name, value)] :=
  put_absent absent value

theorem erase_insert_of_absent {map : NameMap α} {name : String} (absent : name ∉ map.names)
    (value : α) : (map.insert name value).erase name = map := by
  apply ext
  have others : ∀ entry ∈ map.entries, (entry.1 != name) = true := by
    intro entry member
    have named : entry.1 ∈ map.names := List.mem_map_of_mem member
    exact bne_iff_ne.mpr fun same => absent (same ▸ named)
  change (map.insert name value).entries.filter (·.1 != name) = map.entries
  rw [entries_insert_of_absent absent, List.filter_append, List.filter_eq_self.mpr others]
  simp

/-- Entries with new names go to the end as they come. -/
theorem entries_foldl_insert (entries : List (String × α)) (map : NameMap α)
    (fresh : (map.names ++ entries.map Prod.fst).Nodup) :
    (entries.foldl (fun map entry => map.insert entry.1 entry.2) map).entries =
      map.entries ++ entries := by
  induction entries generalizing map with
  | nil => simp
  | cons entry rest ih =>
    have absent : entry.1 ∉ map.names := fun member =>
      (List.nodup_append.mp fresh).2.2 _ member _ List.mem_cons_self rfl
    rw [List.foldl_cons, ih, entries_insert_of_absent absent, List.append_assoc,
      List.singleton_append]
    simpa [names_insert, absent] using fresh

/-- Where every value is stored under its own key, the values say what the entries are. -/
theorem entries_of_values {map : NameMap α} {key : α → String}
    (keyed : ∀ entry ∈ map.entries, entry.1 = key entry.2) :
    map.values.map (fun value => (key value, value)) = map.entries := by
  rw [values, List.map_map]
  conv => rhs; rw [← List.map_id map.entries]
  apply List.map_congr_left
  intro entry member
  exact Prod.ext (keyed entry member).symm rfl

theorem ofList_entries (map : NameMap α) : ofList map.entries = map := by
  apply ext
  exact entries_foldl_insert map.entries empty (by simpa [names, empty] using map.nodup)

end NameMap

end DomainAtlas
