import Mathlib.Data.List.Nodup
import DomainAtlas.Proofs.Supertypes

/-! The classification of a type and its hierarchy. The search for roles is a depth-first one of its
own, yet it meets just the types that a type is assignable to. So a type has the roles that are
declared at or above it, and it never ranks behind a type that it is assignable to. -/

open Relation (ReflTransGen)

namespace DomainAtlas.Proofs.Classification
open Supertypes

variable {catalog : Catalog}

def declaredRoles (catalog : Catalog) (name : String) : List Role :=
  ((catalog.get? name).map (·.roles)).getD []

/-- What a search from a stack of names meets, given the names visited before: each name once, only
names that can be reached, and every name that the stack or a name met leads to. -/
structure Met (catalog : Catalog) (visited stack met : List String) : Prop where
  once : met.Nodup
  fresh : ∀ name ∈ met, name ∉ visited
  reached : ∀ upper ∈ met, ∃ name ∈ stack, ReflTransGen (Above catalog) name upper
  started : ∀ name ∈ stack, name ∈ visited ∨ name ∈ met
  closed : ∀ name ∈ met, ∀ upper, Above catalog name upper → upper ∈ visited ∨ upper ∈ met

theorem Met.empty (catalog : Catalog) (visited : List String) : Met catalog visited [] [] := by
  refine ⟨.nil, ?_, ?_, ?_, ?_⟩ <;> simp

theorem Met.skip {visited rest met : List String} {name : String} (seen : name ∈ visited)
    (later : Met catalog visited rest met) : Met catalog visited (name :: rest) met where
  once := later.once
  fresh := later.fresh
  reached upper member := by
    obtain ⟨first, inside, path⟩ := later.reached upper member
    exact ⟨first, List.mem_cons_of_mem _ inside, path⟩
  started first member := by
    rcases List.mem_cons.mp member with rfl | inside
    · exact .inl seen
    · exact later.started first inside
  closed := later.closed

/-- A name that is met first leaves its supertypes on the stack, before or after what was there. -/
theorem Met.visit {visited rest met : List String} {name : String} (unseen : name ∉ visited)
    (later : Met catalog (name :: visited) (catalog.supertypes name ++ rest) met) :
    Met catalog visited (name :: rest) (name :: met) := by
  have known : ∀ other, other ∈ name :: visited ∨ other ∈ met →
      other ∈ visited ∨ other ∈ name :: met := by
    intro other
    simp only [List.mem_cons]
    tauto
  refine ⟨?_, ?_, ?_, ?_, ?_⟩
  · exact List.nodup_cons.mpr ⟨fun again => later.fresh name again List.mem_cons_self, later.once⟩
  · intro other member
    rcases List.mem_cons.mp member with rfl | inside
    · exact unseen
    · exact fun old => later.fresh other inside (List.mem_cons_of_mem _ old)
  · intro upper member
    rcases List.mem_cons.mp member with rfl | inside
    · exact ⟨upper, List.mem_cons_self, .refl⟩
    · obtain ⟨first, onStack, path⟩ := later.reached upper inside
      rcases List.mem_append.mp onStack with above | below
      · exact ⟨name, List.mem_cons_self, .head (mem_supertypes_iff.mp above) path⟩
      · exact ⟨first, List.mem_cons_of_mem _ below, path⟩
  · intro other member
    rcases List.mem_cons.mp member with rfl | inside
    · exact .inr List.mem_cons_self
    · exact known other (later.started other (List.mem_append_right _ inside))
  · intro other member upper above
    rcases List.mem_cons.mp member with rfl | inside
    · exact known upper
        (later.started upper (List.mem_append_left _ (mem_supertypes_iff.mpr above)))
    · exact known upper (later.closed other inside upper above)

/-- The search collects the roles of the names that it meets, in the order in which it meets them. -/
theorem claimedAbove_eq (catalog : Catalog) (visited stack : List String) :
    ∃ met, Met catalog visited stack met ∧
      catalog.claimedAbove visited stack = met.flatMap (declaredRoles catalog) := by
  fun_induction Catalog.claimedAbove catalog visited stack with
  | case1 visited => exact ⟨[], .empty catalog visited, rfl⟩
  | case2 visited name rest seen ih =>
    obtain ⟨met, later, claimed⟩ := ih
    exact ⟨met, later.skip seen, claimed⟩
  | case3 visited name rest fresh absent ih =>
    obtain ⟨met, later, claimed⟩ := ih
    have none_above : catalog.supertypes name = [] := by simp [Catalog.supertypes, absent]
    refine ⟨name :: met, .visit fresh (by rwa [none_above]), ?_⟩
    rw [claimed, List.flatMap_cons]
    simp [declaredRoles, absent]
  | case4 visited name rest fresh decl found ih =>
    obtain ⟨met, later, claimed⟩ := ih
    have above : catalog.supertypes name = decl.supertypes := by simp [Catalog.supertypes, found]
    refine ⟨name :: met, .visit fresh (by rwa [above]), ?_⟩
    rw [claimed, List.flatMap_cons]
    simp [declaredRoles, found]

/-- From one name and with nothing visited, the search meets what the name is assignable to. -/
theorem Met.mem_iff {name : String} {met : List String} (all : Met catalog [] [name] met)
    (upper : String) : upper ∈ met ↔ catalog.isAssignable name upper = true := by
  rw [isAssignable_iff]
  constructor
  · intro member
    obtain ⟨first, start, path⟩ := all.reached upper member
    obtain rfl := List.mem_singleton.mp start
    exact path
  · intro path
    induction path with
    | refl => exact (all.started name List.mem_cons_self).resolve_left List.not_mem_nil
    | tail _ above inside => exact (all.closed _ inside _ above).resolve_left List.not_mem_nil

theorem Met.length_le {name : String} {met : List String} (all : Met catalog [] [name] met) :
    met.length ≤ (mentioned catalog).length + 1 := by
  have listed : met ⊆ name :: mentioned catalog := by
    intro upper member
    have path := (isAssignable_iff catalog name upper).mp ((all.mem_iff upper).mp member)
    rcases path.cases_tail with rfl | ⟨_, _, above⟩
    · exact List.mem_cons_self
    · exact List.mem_cons_of_mem _ above.mentioned
  exact all.once.length_le_of_subset listed

def Claims (catalog : Catalog) (name : String) (role : Role) : Prop :=
  ∃ ancestor decl, catalog.isAssignable name ancestor = true ∧
    catalog.get? ancestor = some decl ∧ role ∈ decl.roles

theorem mem_declaredRoles_iff {name : String} {role : Role} :
    role ∈ declaredRoles catalog name ↔
      ∃ decl, catalog.get? name = some decl ∧ role ∈ decl.roles := by
  unfold declaredRoles
  cases catalog.get? name <;> simp

theorem mem_rolesOf_iff (catalog : Catalog) (name : String) (role : Role) :
    role ∈ catalog.rolesOf name ↔ Claims catalog name role := by
  obtain ⟨met, all, claimed⟩ := claimedAbove_eq catalog [] [name]
  unfold Catalog.rolesOf Claims
  simp only [List.mem_filter, Role.mem_all, true_and, List.contains_iff_mem, claimed,
    List.mem_flatMap, all.mem_iff, mem_declaredRoles_iff]
  constructor
  · rintro ⟨ancestor, assignable, decl, found, declared⟩
    exact ⟨ancestor, decl, assignable, found, declared⟩
  · rintro ⟨ancestor, decl, assignable, found, declared⟩
    exact ⟨ancestor, assignable, decl, found, declared⟩

/-- What stands above a type stands above every type that is assignable to it. -/
theorem Claims.inherited {lower upper : String} {role : Role} (claims : Claims catalog upper role)
    (assignable : catalog.isAssignable lower upper = true) : Claims catalog lower role := by
  obtain ⟨ancestor, decl, above, found, declared⟩ := claims
  refine ⟨ancestor, decl, ?_, found, declared⟩
  rw [isAssignable_iff] at assignable above ⊢
  exact assignable.trans above

/-- A name without a declaration leads nowhere, so no role is declared above it. -/
theorem Claims.contained {name : String} {role : Role} (claims : Claims catalog name role) :
    catalog.contains name = true := by
  obtain ⟨ancestor, decl, assignable, found, _⟩ := claims
  apply Catalog.contains_iff.mpr
  rcases ((isAssignable_iff catalog name ancestor).mp assignable).cases_head with
    rfl | ⟨next, above, _⟩
  · rw [found]
    rfl
  · rcases above with ⟨other, described, _⟩ | ⟨other, described, _⟩ <;> simp [described]

theorem classify_eq_some_iff {claimed : List Role} {role : Role} :
    classify claimed = some role ↔
      role ∈ claimed ∧ ∀ other ∈ claimed, role.rank ≤ other.rank := by
  have rank_getElem : ∀ (place : Nat) (inside : place < Role.all.length),
      Role.all[place].rank = place := Role.nodup_all.idxOf_getElem
  have getElem_rank : ∀ (other : Role) (inside : other.rank < Role.all.length),
      Role.all[other.rank] = other := fun other inside =>
    Option.some.inj ((List.getElem?_eq_getElem inside).symm.trans other.getElem?_rank)
  unfold classify
  rw [List.find?_eq_some_iff_getElem]
  simp only [List.contains_eq_mem, decide_eq_true_eq, Bool.not_eq_true', decide_eq_false_iff_not]
  constructor
  · rintro ⟨claims, place, inside, rfl, unclaimed⟩
    refine ⟨claims, ?_⟩
    intro other member
    rw [rank_getElem]
    by_contra earlier
    have absent := unclaimed other.rank (Nat.lt_of_not_le earlier)
    rw [getElem_rank] at absent
    exact absent member
  · rintro ⟨claims, least⟩
    refine ⟨claims, role.rank, role.rank_lt, getElem_rank role role.rank_lt, ?_⟩
    intro place earlier member
    have later := least _ member
    rw [rank_getElem] at later
    exact Nat.not_lt_of_le later earlier

theorem classify_eq_none_iff {claimed : List Role} :
    classify claimed = none ↔ ∀ role, role ∉ claimed := by
  simp [classify, Role.mem_all]

/-- A type has the first of its roles in precedence order. -/
theorem tagOf_eq_some_iff (catalog : Catalog) (name : String) (role : Role) :
    catalog.tagOf name = some role ↔
      Claims catalog name role ∧ ∀ other, Claims catalog name other → role.rank ≤ other.rank := by
  have searched : catalog.tagOf name = some role ↔
      catalog.contains name = true ∧ classify (catalog.rolesOf name) = some role := by
    simp [Catalog.tagOf]
  simp only [searched, classify_eq_some_iff, mem_rolesOf_iff]
  exact ⟨And.right, fun first => ⟨first.1.contained, first⟩⟩

theorem tagOf_eq_none_iff (catalog : Catalog) (name : String) :
    catalog.tagOf name = none ↔ ∀ role, ¬ Claims catalog name role := by
  have searched : catalog.tagOf name = none ↔
      (catalog.contains name = true → classify (catalog.rolesOf name) = none) := by
    simp [Catalog.tagOf]
  simp only [searched, classify_eq_none_iff, mem_rolesOf_iff]
  exact ⟨fun outside role claims => outside claims.contained role claims, fun outside _ => outside⟩

theorem rank_tagOf_le {lower upper : String}
    (assignable : catalog.isAssignable lower upper = true) :
    Tag.rank (catalog.tagOf lower) ≤ Tag.rank (catalog.tagOf upper) := by
  cases above : catalog.tagOf upper with
  | none => exact Tag.rank_le_length _
  | some role =>
    have claims := (((tagOf_eq_some_iff catalog upper role).mp above).1).inherited assignable
    cases below : catalog.tagOf lower with
    | none => exact absurd claims ((tagOf_eq_none_iff catalog lower).mp below role)
    | some first => exact ((tagOf_eq_some_iff catalog lower first).mp below).2 role claims

/-- What the search for the roles of a type finds, and what the type is for it. -/
structure Inherits (catalog : Catalog) (name : String) : Prop where
  searched : ∃ met : List String, met.Nodup ∧ met.length ≤ (mentioned catalog).length + 1 ∧
    (∀ ancestor, ancestor ∈ met ↔ catalog.isAssignable name ancestor = true) ∧
    catalog.claimedAbove [] [name] = met.flatMap (declaredRoles catalog)
  roles : ∀ role, role ∈ catalog.rolesOf name ↔ Claims catalog name role
  ordered : (catalog.rolesOf name).Sublist Role.all
  first : ∀ role, catalog.tagOf name = some role ↔
    Claims catalog name role ∧ ∀ other, Claims catalog name other → role.rank ≤ other.rank
  outside : catalog.tagOf name = none ↔ ∀ role, ¬ Claims catalog name role

theorem inherits (catalog : Catalog) (name : String) : Inherits catalog name where
  searched := by
    obtain ⟨met, all, claimed⟩ := claimedAbove_eq catalog [] [name]
    exact ⟨met, all.once, all.length_le, all.mem_iff, claimed⟩
  roles := mem_rolesOf_iff catalog name
  ordered := List.filter_sublist
  first := tagOf_eq_some_iff catalog name
  outside := tagOf_eq_none_iff catalog name

/-- Whatever the hierarchy looks like, a type has the first of the roles declared at or above it, and
it comes no later in the order of classifications than a type that it is assignable to. -/
theorem classification_inherited (catalog : Catalog) :
    (∀ name, Inherits catalog name) ∧
    ∀ lower upper, catalog.isAssignable lower upper = true →
      Tag.all.idxOf (catalog.tagOf lower) ≤ Tag.all.idxOf (catalog.tagOf upper) := by
  refine ⟨inherits catalog, ?_⟩
  intro lower upper assignable
  rw [Tag.idxOf_all, Tag.idxOf_all]
  exact rank_tagOf_le assignable

/-- Two classes that extend each other. The upper one implements an interface of values, and the
lower one declares that it is an entity. -/
def coil : Catalog := .collect
  [{ name := "Upper", superclass := some "Lower", interfaces := ["Value"] },
    { name := "Lower", superclass := some "Upper", roles := [.entity] },
    { name := "Value", roles := [.valueObject] }]

theorem classification_inherited_coil :
    coil.isAssignable "Upper" "Value" = true ∧ coil.tagOf "Upper" = some .entity ∧
      coil.tagOf "Value" = some .valueObject ∧
      Tag.all.idxOf (coil.tagOf "Upper") ≤ Tag.all.idxOf (coil.tagOf "Value") := by
  have assignable : coil.isAssignable "Upper" "Value" = true := by decide +kernel
  exact ⟨assignable, by decide +kernel, by decide +kernel,
    (classification_inherited coil).2 "Upper" "Value" assignable⟩

end DomainAtlas.Proofs.Classification
