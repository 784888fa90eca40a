import DomainAtlas.Firsts
import DomainAtlas.Proofs.Supertypes

/-! The interfaces that a type has from its superclass. The search that finds the interfaces of a type
first goes through its own and then, without forgetting them, through those of the superclasses. What
the own interfaces lead to is closed under supertypes, and a search that has met closed names before
finds the other names in the order in which it would have found them anyway. -/

namespace DomainAtlas.Proofs.InheritedInterfaces
open Relation (ReflTransGen)
open Supertypes

variable {catalog : Catalog} {visited marked queue taken first names : List String}

def Closed (catalog : Catalog) (taken : List String) : Prop :=
  ∀ name ∈ taken, ∀ upper ∈ catalog.supertypes name, upper ∈ taken

theorem Closed.holds (closed : Closed catalog taken) {start name : String} (inside : start ∈ taken)
    (path : ReflTransGen (Above catalog) start name) : name ∈ taken := by
  induction path with
  | refl => exact inside
  | tail _ above ih => exact closed _ ih _ (mem_supertypes_iff.mpr above)

theorem closed_breadthFirst (catalog : Catalog) (first : List String) :
    Closed catalog (catalog.breadthFirst [] first) := by
  intro name member upper above
  exact (breadthFirst_closed member (mem_supertypes_iff.mp above)).resolve_left List.not_mem_nil

/-- The names that can be reached from some first names, in the order in which they are met when the
first names are gone through, and then the supertypes of each name that was met, one after another. -/
structure BreadthFirst (catalog : Catalog) (first names : List String) : Prop where
  reached : ∀ name, name ∈ names ↔ ∃ start ∈ first, ReflTransGen (Above catalog) start name
  inOrder : names = distinct (first ++ names.flatMap catalog.supertypes)

/-- A search finds what stands in its queue and above what it finds, each name where it comes first. -/
theorem breadthFirst_eq_distinct (catalog : Catalog) (visited queue : List String) :
    catalog.breadthFirst visited queue =
      (distinct (queue ++ (catalog.breadthFirst visited queue).flatMap catalog.supertypes)).filter
        (· ∉ visited) := by
  fun_induction Catalog.breadthFirst catalog visited queue with
  | case1 => rfl
  | case2 visited name rest seen ih =>
    rw [List.cons_append, distinct_cons, List.filter_cons_of_neg (by simpa using seen),
      List.filter_filter]
    conv => lhs; rw [ih]
    apply List.filter_congr
    intro other _
    have differs : other ∉ visited → other ≠ name := fun fresh same => fresh (same ▸ seen)
    simpa using differs
  | case3 visited name rest fresh ih =>
    rw [List.flatMap_cons, List.cons_append, distinct_cons, ← List.append_assoc,
      List.filter_cons_of_pos (by simpa using fresh), List.filter_filter]
    congr 1
    conv => lhs; rw [ih]
    apply List.filter_congr
    intro other _
    simp [Bool.and_comm]

theorem breadthFirst_reached_iff (catalog : Catalog) (first : List String) (name : String) :
    name ∈ catalog.breadthFirst [] first ↔
      ∃ start ∈ first, ReflTransGen (Above catalog) start name := by
  constructor
  · exact breadthFirst_reached
  · intro reached
    obtain ⟨start, inside, path⟩ := reached
    have found : start ∈ catalog.breadthFirst [] first :=
      (mem_breadthFirst_of_mem_queue inside).resolve_left List.not_mem_nil
    exact (closed_breadthFirst catalog first).holds found path

theorem breadthFirst_search (catalog : Catalog) (first : List String) :
    BreadthFirst catalog first (catalog.breadthFirst [] first) where
  reached := breadthFirst_reached_iff catalog first
  inOrder := by
    have whole := breadthFirst_eq_distinct catalog [] first
    simpa using whole

theorem BreadthFirst.nodup (search : BreadthFirst catalog first names) : names.Nodup :=
  search.inOrder ▸ nodup_distinct _

theorem BreadthFirst.subset_of_closed (search : BreadthFirst catalog first names)
    (starts : first ⊆ taken) (closed : Closed catalog taken) : names ⊆ taken := by
  intro name member
  obtain ⟨start, inside, path⟩ := (search.reached name).mp member
  exact closed.holds (starts inside) path

/-- What was met so far says which name comes next. -/
theorem BreadthFirst.head?_rest {front rest : List String}
    (search : BreadthFirst catalog first (front ++ rest)) :
    rest.head? = (distinct (first ++ front.flatMap catalog.supertypes))[front.length]? := by
  have known : distinct (first ++ front.flatMap catalog.supertypes) <+: front ++ rest := by
    have whole := search.inOrder
    rw [List.flatMap_append, ← List.append_assoc, distinct, firstsBy_append] at whole
    exact ⟨_, whole.symm⟩
  cases rest with
  | nil =>
    rw [List.append_nil] at known
    exact (List.getElem?_eq_none known.length_le).symm
  | cons name rest =>
    rcases Nat.lt_or_ge front.length (distinct (first ++ front.flatMap catalog.supertypes)).length
      with beyond | within
    · have place := List.prefix_iff_getElem?.mp known front.length beyond
      rw [List.getElem?_eq_getElem beyond, ← place]
      simp
    · -- all that is known was met, so nothing new can be reached
      have met := (List.prefix_of_prefix_length_le known (List.prefix_append ..) within).subset
      have starts : first ⊆ front := fun start inside =>
        met (mem_distinct.mpr (List.mem_append_left _ inside))
      have closed : Closed catalog front := fun lower inside upper above =>
        met (mem_distinct.mpr (List.mem_append_right _ (List.mem_flatMap.mpr ⟨lower, inside, above⟩)))
      have again : name ∈ front :=
        search.subset_of_closed starts closed (List.mem_append_right _ List.mem_cons_self)
      exact absurd rfl ((List.nodup_append.mp search.nodup).2.2 name again name List.mem_cons_self)

private theorem rest_unique {front rest other : List String}
    (search : BreadthFirst catalog first (front ++ rest))
    (again : BreadthFirst catalog first (front ++ other)) : rest = other := by
  have next : rest.head? = other.head? := search.head?_rest.trans again.head?_rest.symm
  induction rest generalizing front other with
  | nil => exact (List.head?_eq_none_iff.mp next.symm).symm
  | cons name rest ih =>
    obtain ⟨other, rfl⟩ := List.head?_eq_some_iff.mp next.symm
    rw [List.append_cons] at search again
    rw [ih search again (search.head?_rest.trans again.head?_rest.symm)]

theorem BreadthFirst.unique {others : List String} (search : BreadthFirst catalog first names)
    (other : BreadthFirst catalog first others) : names = others :=
  rest_unique (show BreadthFirst catalog first ([] ++ names) from search) other

def Marks (visited taken marked : List String) : Prop :=
  ∀ name, name ∈ marked ↔ name ∈ visited ∨ name ∈ taken

theorem breadthFirst_skip {known : List String} (seen : ∀ name ∈ known, name ∈ visited)
    (rest : List String) :
    catalog.breadthFirst visited (known ++ rest) = catalog.breadthFirst visited rest := by
  induction known with
  | nil => rfl
  | cons name known ih =>
    have old := seen name List.mem_cons_self
    rw [List.cons_append, Catalog.breadthFirst, dif_pos old]
    exact ih fun other member => seen other (List.mem_cons_of_mem _ member)

theorem breadthFirst_of_known {known : List String} (seen : ∀ name ∈ known, name ∈ visited) :
    catalog.breadthFirst visited known = [] := by
  have skipped : catalog.breadthFirst visited (known ++ []) = catalog.breadthFirst visited [] :=
    breadthFirst_skip seen []
  rwa [List.append_nil, Catalog.breadthFirst] at skipped

theorem Marks.mem_of_left {known : List String} (marks : Marks visited taken marked)
    (left : ∀ name ∈ known, ¬ decide (name ∉ taken) = true) : ∀ name ∈ known, name ∈ marked := by
  intro name member
  have inside : name ∈ taken := by simpa using left name member
  exact (marks name).mpr (.inr inside)

/-- A search that has met closed names before finds the others in the same order. The two queues
need to agree on those others only: the names above a taken name are all taken. -/
theorem breadthFirst_marked (closed : Closed catalog taken) (marks : Marks visited taken marked)
    {queue other : List String} (agree : other.filter (· ∉ taken) = queue.filter (· ∉ taken)) :
    catalog.breadthFirst marked other =
      (catalog.breadthFirst visited queue).filter (· ∉ taken) := by
  fun_induction Catalog.breadthFirst catalog visited queue generalizing marked other with
  | case1 =>
    exact breadthFirst_of_known (marks.mem_of_left (List.filter_eq_nil_iff.mp agree))
  | case2 visited name rest old ih =>
    by_cases inside : name ∈ taken
    · rw [List.filter_cons_of_neg (by simpa using inside)] at agree
      exact ih marks agree
    · rw [List.filter_cons_of_pos (by simpa using inside)] at agree
      obtain ⟨skipped, later, rfl, left, _, same⟩ := List.filter_eq_cons_iff.mp agree
      have known : name ∈ marked := (marks name).mpr (.inl old)
      rw [breadthFirst_skip (marks.mem_of_left left), Catalog.breadthFirst, dif_pos known]
      exact ih marks same
  | case3 visited name rest fresh ih =>
    by_cases inside : name ∈ taken
    · -- only the search that has not met the taken names makes a step here
      have above : (catalog.supertypes name).filter (· ∉ taken) = [] :=
        List.filter_eq_nil_iff.mpr fun upper member => by simpa using closed name inside upper member
      rw [List.filter_cons_of_neg (by simpa using inside)] at agree ⊢
      apply ih
      · intro other
        rw [marks, List.mem_cons]
        grind
      · rw [List.filter_append, above, List.append_nil, agree]
    · rw [List.filter_cons_of_pos (by simpa using inside)] at agree ⊢
      obtain ⟨skipped, later, rfl, left, _, same⟩ := List.filter_eq_cons_iff.mp agree
      have new : name ∉ marked := fun known => ((marks name).mp known).elim fresh inside
      rw [breadthFirst_skip (marks.mem_of_left left), Catalog.breadthFirst, dif_neg new]
      congr 1
      apply ih
      · intro other
        simp only [List.mem_cons, marks other, or_assoc]
      · rw [List.filter_append, List.filter_append, same]

theorem interfacesOfAll_marked (closed : Closed catalog taken) (marks : Marks visited taken marked)
    (owners : List String) :
    catalog.interfacesOfAll marked owners =
      (catalog.interfacesOfAll visited owners).filter (· ∉ taken) := by
  induction owners generalizing visited marked with
  | nil => rfl
  | cons owner owners ih =>
    have found : catalog.breadthFirst marked (catalog.declaredInterfaces owner) =
        (catalog.breadthFirst visited (catalog.declaredInterfaces owner)).filter (· ∉ taken) :=
      breadthFirst_marked closed marks rfl
    rw [Catalog.interfacesOfAll, Catalog.interfacesOfAll, List.filter_append, found]
    congr 1
    apply ih
    intro name
    have met := marks name
    simp only [List.mem_append, List.mem_filter, decide_eq_true_eq]
    tauto

/-- The line of a type that does not come back in the line of its superclass goes on with that. -/
theorem superclasses_eq_cons {name upper : String} (extend : Extends catalog name upper)
    (other : name ≠ upper) (apart : name ∉ catalog.superclasses upper) :
    catalog.superclasses name = upper :: catalog.superclasses upper := by
  have above := line_superclasses catalog upper
  have line : Line catalog [upper, name] upper (catalog.superclasses upper) := by
    apply above.widened (List.cons_subset_cons _ (List.nil_subset _))
    intro met member known
    cases List.mem_cons.mp known with
    | inl start => exact above.fresh.2 met member (start ▸ List.mem_cons_self)
    | inr below => exact apart (List.mem_singleton.mp below ▸ member)
  have fresh : upper ∉ [name] := fun same => other (List.mem_singleton.mp same).symm
  exact (line_superclasses catalog name).unique (.next extend fresh line)

theorem interfaces_eq_append {name upper : String} (extend : Extends catalog name upper)
    (other : name ≠ upper) (apart : name ∉ catalog.superclasses upper) :
    catalog.interfaces name =
      catalog.breadthFirst [] (catalog.declaredInterfaces name) ++
        (catalog.interfaces upper).filter
          (· ∉ catalog.breadthFirst [] (catalog.declaredInterfaces name)) := by
  rw [Catalog.interfaces, superclasses_eq_cons extend other apart, Catalog.interfacesOfAll]
  congr 1
  apply interfacesOfAll_marked (closed_breadthFirst catalog _)
  simp [Marks]

/-- How interfaces go on from those of a superclass: a type's own come first, and behind them stand
the inherited ones that are not among its own. None of these is lost or changes its place among the
others, and where none is met again as an own one, the inherited list stays whole. -/
structure Prepends (own inherited interfaces : List String) : Prop where
  parts : interfaces = own ++ inherited.filter (· ∉ own)
  kept : inherited ⊆ interfaces
  inOrder : interfaces.filter (· ∉ own) = inherited.filter (· ∉ own)
  whole : (∀ interface ∈ inherited, interface ∉ own) → interfaces = own ++ inherited

theorem prepends_append (own inherited : List String) :
    Prepends own inherited (own ++ inherited.filter (· ∉ own)) where
  parts := rfl
  kept := by
    intro interface member
    by_cases among : interface ∈ own
    · exact List.mem_append_left _ among
    · exact List.mem_append_right _ (List.mem_filter.mpr ⟨member, decide_eq_true among⟩)
  inOrder := by
    have none : own.filter (· ∉ own) = [] :=
      List.filter_eq_nil_iff.mpr fun interface member => by simpa using member
    rw [List.filter_append, none, List.nil_append, List.filter_filter]
    simp only [Bool.and_self]
  whole := by
    intro apart
    rw [List.filter_eq_self.mpr fun interface member => decide_eq_true (apart interface member)]

/-- Extending a class puts the interfaces that are met breadth first from the declared ones before
those of the class. This needs only that the class does not extend the type in its turn. -/
theorem interfaces_prepended (catalog : Catalog) {name upper : String}
    (extend : Extends catalog name upper) (other : name ≠ upper)
    (apart : name ∉ catalog.superclasses upper) :
    ∃ own, (∀ names, BreadthFirst catalog (catalog.declaredInterfaces name) names ↔ names = own) ∧
      Prepends own (catalog.interfaces upper) (catalog.interfaces name) := by
  have search := breadthFirst_search catalog (catalog.declaredInterfaces name)
  refine ⟨_, fun names => ⟨fun found => found.unique search, fun same => same ▸ search⟩, ?_⟩
  rw [interfaces_eq_append extend other apart]
  exact prepends_append ..

/-- A base class that is in a circle of superclasses, and an order that declares one of the
interfaces of the base again. -/
def warehouse : Catalog := .collect [
  { name := "Order", superclass := some "Base", interfaces := ["Root"] },
  { name := "Base", superclass := some "Loop", interfaces := ["Audited", "Root"] },
  { name := "Loop", superclass := some "Base", interfaces := ["Kept"] },
  { name := "Audited", interfaces := ["Timed", "Entity"] },
  { name := "Root", interfaces := ["Entity"], superclass := some "Kept" }]

theorem interfaces_prepended_warehouse :
    Extends warehouse "Order" "Base" ∧ "Order" ≠ "Base" ∧
    "Order" ∉ warehouse.superclasses "Base" ∧
    warehouse.interfaces "Base" = ["Audited", "Root", "Timed", "Entity", "Kept"] ∧
    warehouse.interfaces "Order" = ["Root", "Entity", "Kept", "Audited", "Timed"] ∧
    ∃ own, (∀ names, BreadthFirst warehouse (warehouse.declaredInterfaces "Order") names ↔
        names = own) ∧
      Prepends own (warehouse.interfaces "Base") (warehouse.interfaces "Order") := by
  have extend : Extends warehouse "Order" "Base" := ⟨_, rfl, rfl⟩
  have other : "Order" ≠ "Base" := by decide
  have apart : "Order" ∉ warehouse.superclasses "Base" := by decide +kernel
  refine ⟨extend, other, apart, ?_, ?_, interfaces_prepended warehouse extend other apart⟩
  · decide +kernel
  · decide +kernel

end DomainAtlas.Proofs.InheritedInterfaces
