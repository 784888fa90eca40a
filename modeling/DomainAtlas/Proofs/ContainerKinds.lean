import DomainAtlas.Proofs.ElementTypes
import DomainAtlas.Proofs.Supertypes

/-! Which names are taken for containers. The lists of the settings name some of them, and whatever
is assignable to a listed name belongs to them too, however the supertypes are connected. The lists
are asked in turn, so a type that comes under several of them is the container asked for first. -/

open Relation (TransGen)

namespace DomainAtlas.Proofs.ContainerKinds
open Supertypes ElementTypes

variable {catalog : Catalog} {names : ContainerNames} {listed : List String} {name : String}

def ComesUnder (catalog : Catalog) (listed : List String) (name : String) : Prop :=
  ∃ upper ∈ listed, catalog.isAssignable name upper = true

theorem ComesUnder.inherited {lower upper : String} (under : ComesUnder catalog listed upper)
    (assignable : catalog.isAssignable lower upper = true) : ComesUnder catalog listed lower := by
  obtain ⟨top, member, above⟩ := under
  rw [isAssignable_iff] at assignable above
  exact ⟨top, member, (isAssignable_iff ..).mpr (assignable.trans above)⟩

theorem contains_of_reached {upper : String} (path : TransGen (Above catalog) name upper) :
    catalog.contains name = true := by
  obtain ⟨next, above, _⟩ := TransGen.head'_iff.mp path
  rw [Catalog.contains_iff]
  rcases above with ⟨_, found, _⟩ | ⟨_, found, _⟩
  all_goals rw [found]; rfl

theorem comesUnder_iff (catalog : Catalog) (listed : List String) (name : String) :
    ComesUnder catalog listed name ↔ name ∈ listed ∨
      (catalog.superclasses name ++ catalog.interfaces name).any listed.contains = true := by
  simp only [ComesUnder, Catalog.isAssignable, Bool.or_eq_true, beq_iff_eq, List.contains_iff_mem,
    List.any_eq_true, List.mem_append]
  constructor
  · rintro ⟨upper, member, (rfl | superclass) | interface⟩
    · exact .inl member
    · exact .inr ⟨upper, .inl superclass, member⟩
    · exact .inr ⟨upper, .inr interface, member⟩
  · rintro (member | ⟨upper, superclass | interface, member⟩)
    · exact ⟨name, member, .inl (.inl rfl)⟩
    · exact ⟨upper, member, .inl (.inr superclass)⟩
    · exact ⟨upper, member, .inr interface⟩

theorem supertypes_of_undescribed (undescribed : ¬ catalog.contains name = true) :
    catalog.superclasses name ++ catalog.interfaces name = [] := by
  apply List.eq_nil_iff_forall_not_mem.mpr
  intro upper member
  rcases List.mem_append.mp member with superclass | interface
  · exact undescribed (contains_of_reached (superclasses_reached superclass))
  · exact undescribed (contains_of_reached (interfaces_reached interface))

/-- Leaving early at a name without a declaration misses nothing. -/
theorem isListed_iff (catalog : Catalog) (listed : List String) (name : String) :
    catalog.isListed listed name = true ↔ ComesUnder catalog listed name := by
  rw [comesUnder_iff, Catalog.isListed]
  by_cases own : name ∈ listed
  · simp [own]
  · by_cases described : catalog.contains name = true
    · simp [own, described]
    · simp [own, described, supertypes_of_undescribed described]

def listedFor (names : ContainerNames) : Container → List String
  | .list => names.lists
  | .set => names.sets
  | .stream => names.streams
  | .collection => names.collections
  | .none | .array => []

/-- The first container whose names a type comes under, lists before sets, then streams, then other
collections. -/
def first? (catalog : Catalog) (names : ContainerNames) (name : String) : Option Container :=
  namedContainers.find? fun container => catalog.isListed (listedFor names container) name

theorem containerOf_eq (catalog : Catalog) (names : ContainerNames) (name : String) :
    catalog.containerOf names name = (first? catalog names name).getD .none := by
  simp only [Catalog.containerOf, first?, namedContainers, List.find?_cons, listedFor,
    List.find?_nil]
  repeat' split
  all_goals simp_all

/-- A type comes under the names of a container and not under those of any container before it. -/
def ComesFirst (catalog : Catalog) (names : ContainerNames) (name : String)
    (container : Container) : Prop :=
  ∃ before after, namedContainers = before ++ container :: after ∧
    ComesUnder catalog (listedFor names container) name ∧
    ∀ earlier ∈ before, ¬ ComesUnder catalog (listedFor names earlier) name

theorem first?_eq_some_iff {container : Container} :
    first? catalog names name = some container ↔ ComesFirst catalog names name container := by
  simp only [first?, List.find?_eq_some_iff_append, Bool.not_eq_true', ← Bool.not_eq_true,
    isListed_iff]
  constructor
  · rintro ⟨under, before, after, split, unlisted⟩
    exact ⟨before, after, split, under, unlisted⟩
  · rintro ⟨before, after, split, under, unlisted⟩
    exact ⟨under, before, after, split, unlisted⟩

theorem first?_eq_none_iff : first? catalog names name = none ↔
    ∀ container ∈ namedContainers, ¬ ComesUnder catalog (listedFor names container) name := by
  simp only [first?, List.find?_eq_none, isListed_iff]

theorem ne_none_of_first? {container : Container}
    (found : first? catalog names name = some container) : container ≠ .none := by
  have named : container ∈ namedContainers := List.mem_of_find?_eq_some found
  rintro rfl
  simp [namedContainers] at named

/-- What a name is taken for: the first container that it comes under, or none. -/
structure Recognized (catalog : Catalog) (names : ContainerNames) (name : String) : Prop where
  first : ∀ container, container ≠ .none →
    (catalog.containerOf names name = container ↔ ComesFirst catalog names name container)
  bare : catalog.containerOf names name = .none ↔
    ∀ container ∈ namedContainers, ¬ ComesUnder catalog (listedFor names container) name

theorem recognized (catalog : Catalog) (names : ContainerNames) (name : String) :
    Recognized catalog names name := by
  constructor
  · intro container contained
    rw [containerOf_eq, ← first?_eq_some_iff]
    cases first? catalog names name with
    | none => simp [Ne.symm contained]
    | some found => simp
  · rw [containerOf_eq, ← first?_eq_none_iff]
    cases found : first? catalog names name with
    | none => simp
    | some container => simp [ne_none_of_first? found]

/-- The place of the container that a name is taken for. What is none comes last. -/
def place (catalog : Catalog) (names : ContainerNames) (name : String) : Nat :=
  namedContainers.idxOf (catalog.containerOf names name)

theorem place_eq (catalog : Catalog) (names : ContainerNames) (name : String) :
    place catalog names name = namedContainers.findIdx fun container =>
      catalog.isListed (listedFor names container) name := by
  simp only [place, Catalog.containerOf, namedContainers, List.findIdx_cons, listedFor,
    List.findIdx_nil]
  repeat' split
  all_goals simp_all

theorem place_inherited {lower upper : String}
    (assignable : catalog.isAssignable lower upper = true) :
    place catalog names lower ≤ place catalog names upper := by
  rw [place_eq, place_eq]
  apply List.findIdx_le_findIdx
  intro container _ under
  rw [isListed_iff] at under ⊢
  exact under.inherited assignable

theorem optionalElement?_eq_some_iff {type inner : TypeExpr} :
    catalog.optionalElement? names type = some inner ↔
      ∃ name others, type = .named name (inner :: others) ∧
        ComesUnder catalog names.optionals name := by
  cases type with
  | named name arguments =>
    rw [Catalog.optionalElement?]
    cases arguments <;> simp [isListed_iff, and_comm]
  | array _ => simp [Catalog.optionalElement?]
  | wildcard _ _ => simp [Catalog.optionalElement?]
  | typeVar _ _ => simp [Catalog.optionalElement?]

theorem isOptional_useOf_iff (names : ContainerNames) (type : TypeExpr)
    (assertions containerAssertions : List Assertion) :
    (catalog.useOf names type assertions containerAssertions).isOptional = true ↔
      ∃ name first others, type = .named name (first :: others) ∧
        ComesUnder catalog names.optionals name := by
  have taken : (catalog.useOf names type assertions containerAssertions).isOptional =
      (catalog.optionalElement? names type).isSome := rfl
  rw [taken, Option.isSome_iff_exists]
  simp only [optionalElement?_eq_some_iff]
  exact exists_comm

/-- Whatever the hierarchy looks like, a name is taken for the first container that it is assignable
to, and a type with an argument for an optional when its name is assignable to one. No name is taken
for a later container than a type above it. -/
theorem containers_recognized (catalog : Catalog) (names : ContainerNames) :
    (∀ name, Recognized catalog names name) ∧
    (∀ type inner, catalog.optionalElement? names type = some inner ↔
      ∃ name others, type = .named name (inner :: others) ∧
        ComesUnder catalog names.optionals name) ∧
    (∀ type assertions containerAssertions,
      (catalog.useOf names type assertions containerAssertions).isOptional = true ↔
        ∃ name first others, type = .named name (first :: others) ∧
          ComesUnder catalog names.optionals name) ∧
    ∀ lower upper, catalog.isAssignable lower upper = true →
      place catalog names lower ≤ place catalog names upper := by
  refine ⟨recognized catalog names, ?_, isOptional_useOf_iff names, ?_⟩
  · exact fun _ _ => optionalElement?_eq_some_iff
  · exact fun _ _ => place_inherited

/-- Lines are a set by themselves. They are a list as well, by an interface of a class that extends
them again. -/
def shelf : Catalog := .collect
  [{ name := "Lines", superclass := some "Sorted", interfaces := ["java.util.Set"] },
    { name := "Sorted", superclass := some "Lines", interfaces := ["Ordered"] },
    { name := "Ordered", superclass := some "java.util.List" }]

theorem containers_recognized_shelf :
    shelf.isAssignable "Lines" "java.util.Set" = true ∧
      shelf.containerOf .default "java.util.Set" = .set ∧
      shelf.containerOf .default "Lines" = .list ∧
      ComesFirst shelf .default "Lines" .list ∧
      place shelf .default "Lines" ≤ place shelf .default "java.util.Set" := by
  have assignable : shelf.isAssignable "Lines" "java.util.Set" = true := by decide +kernel
  have listed : shelf.containerOf .default "Lines" = .list := by decide +kernel
  obtain ⟨recognized, _, _, inherited⟩ := containers_recognized shelf .default
  exact ⟨assignable, by decide +kernel, listed,
    ((recognized "Lines").first .list (by decide)).mp listed, inherited _ _ assignable⟩

end DomainAtlas.Proofs.ContainerKinds
