import DomainAtlas.NameMap

/-! The part of a map that a search has not seen yet, weighed. A search that marks a name before it
follows the name's own references lets this weight fall, so it comes to an end. -/

namespace DomainAtlas.NameMap

variable {α : Type}

/-- The weight of the entries whose names are not in `seen`. -/
def unseenWeight (weight : α → Nat) (seen : List String) : List (String × α) → Nat
  | [] => 0
  | (name, value) :: rest =>
    if name ∈ seen then unseenWeight weight seen rest
    else weight value + unseenWeight weight seen rest

def remaining (map : NameMap α) (weight : α → Nat) (seen : List String) : Nat :=
  unseenWeight weight seen map.entries

private theorem unseenWeight_absent (weight : α → Nat) (seen : List String) (name : String)
    (entries : List (String × α)) (absent : name ∉ entries.map Prod.fst) :
    unseenWeight weight (name :: seen) entries = unseenWeight weight seen entries := by
  induction entries with
  | nil => rfl
  | cons entry rest ih =>
    obtain ⟨key, value⟩ := entry
    simp only [List.map_cons, List.mem_cons, not_or] at absent
    have other : key ≠ name := fun same => absent.1 same.symm
    simp only [unseenWeight, List.mem_cons, other, false_or, ih absent.2]

private theorem unseenWeight_fresh (weight : α → Nat) (seen : List String) (name : String)
    (value : α) (fresh : name ∉ seen) (entries : List (String × α))
    (nodup : (entries.map Prod.fst).Nodup) (mem : (name, value) ∈ entries) :
    unseenWeight weight (name :: seen) entries + weight value =
      unseenWeight weight seen entries := by
  induction entries with
  | nil => simp at mem
  | cons entry rest ih =>
    obtain ⟨key, old⟩ := entry
    rw [List.map_cons, List.nodup_cons] at nodup
    rcases List.mem_cons.mp mem with first | inside
    · obtain ⟨rfl, rfl⟩ := Prod.mk.inj first
      have absent := unseenWeight_absent weight seen name rest nodup.1
      simp only [unseenWeight, List.mem_cons_self, if_true, fresh, if_false, absent]
      omega
    · have listed : name ∈ rest.map Prod.fst := List.mem_map_of_mem inside
      have other : key ≠ name := fun same => nodup.1 (same ▸ listed)
      have rest := ih nodup.2 inside
      simp only [unseenWeight, List.mem_cons, other, false_or]
      split <;> omega

theorem remaining_cons_of_get? {map : NameMap α} {name : String} {value : α}
    (found : map.get? name = some value) (weight : α → Nat) {seen : List String}
    (fresh : name ∉ seen) :
    map.remaining weight (name :: seen) + weight value = map.remaining weight seen :=
  unseenWeight_fresh weight seen name value fresh map.entries map.nodup
    (get?_eq_some_iff.mp found)

theorem remaining_cons_of_absent {map : NameMap α} {name : String} (absent : map.get? name = none)
    (weight : α → Nat) (seen : List String) :
    map.remaining weight (name :: seen) = map.remaining weight seen := by
  refine unseenWeight_absent weight seen name map.entries fun mem => ?_
  have found := get?_isSome_iff.mpr mem
  simp [absent] at found

/-- Marking several names at once takes away as many entries as the map has under them. -/
theorem remaining_append (map : NameMap α) {fresh seen : List String} (nodup : fresh.Nodup)
    (unseen : ∀ name ∈ fresh, name ∉ seen) :
    map.remaining (fun _ => 1) (fresh ++ seen) + (fresh.filterMap map.get?).length =
      map.remaining (fun _ => 1) seen := by
  induction fresh with
  | nil => rfl
  | cons name fresh ih =>
    rw [List.nodup_cons] at nodup
    have rest := ih nodup.2 fun other mem => unseen other (List.mem_cons_of_mem _ mem)
    have new : name ∉ fresh ++ seen := by
      simpa using ⟨nodup.1, unseen name (List.mem_cons_self ..)⟩
    rw [List.cons_append]
    cases found : map.get? name with
    | none =>
      rw [remaining_cons_of_absent found, List.filterMap_cons_none found]
      exact rest
    | some value =>
      have step := remaining_cons_of_get? found (fun _ => 1) new
      rw [List.filterMap_cons_some found, List.length_cons]
      omega

end DomainAtlas.NameMap
