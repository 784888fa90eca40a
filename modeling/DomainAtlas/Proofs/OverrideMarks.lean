import Mathlib.Data.List.Count
import DomainAtlas.Proofs.Overriding
import DomainAtlas.Proofs.Supertypes

/-! The mark of a method that overrides another. It says that the signature was met again behind the
method, so it is right as long as each type is met once. A type that stands in the line of
superclasses and among the interfaces is met twice, and then its own methods are marked. -/

namespace DomainAtlas.Proofs.OverrideMarks
open Profiling Overriding

variable {catalog : Catalog} {settings : Settings}

def Declares (owner : TypeDecl) (signature : String × List String) : Prop :=
  signature ∈ owner.methods.map signatureOf

instance (owner : TypeDecl) (signature : String × List String) :
    Decidable (Declares owner signature) :=
  inferInstanceAs (Decidable (signature ∈ owner.methods.map signatureOf))

def DistinctMethods (catalog : Catalog) : Prop :=
  ∀ decl ∈ catalog.decls, (decl.methods.map signatureOf).Nodup

instance (catalog : Catalog) : Decidable (DistinctMethods catalog) :=
  inferInstanceAs (Decidable (∀ decl ∈ catalog.decls, (decl.methods.map signatureOf).Nodup))

theorem overridden_marked (declared : List Declared) (first : Declared) :
    (marked (declared.map (Declared.build catalog settings)) (first.build catalog settings)).overridden =
      decide (1 < declared.countP fun other => other.signature == first.signature) := by
  have unmarked : (first.build catalog settings).overridden = false := rfl
  simp [marked, unmarked, List.countP_map, Function.comp_def, Declared.signature_build]

theorem countP_own {owner : TypeDecl} (distinct : (owner.methods.map signatureOf).Nodup)
    (signature : String × List String) :
    (owner.methods.map (Declared.mk owner)).countP (·.signature == signature) =
      if Declares owner signature then 1 else 0 := by
  have counted : (owner.methods.map (Declared.mk owner)).countP (·.signature == signature) =
      (owner.methods.map signatureOf).count signature := by
    rw [List.countP_map, List.count, List.countP_map]
    rfl
  rw [counted, distinct.count]
  rfl

/-- Where types declare a signature at most once, its declarations are counted by their types. -/
theorem countP_declared {owners : List TypeDecl}
    (distinct : ∀ owner ∈ owners, (owner.methods.map signatureOf).Nodup)
    (signature : String × List String) :
    (owners.flatMap fun owner => owner.methods.map (Declared.mk owner)).countP
        (·.signature == signature) =
      owners.countP fun owner => decide (Declares owner signature) := by
  induction owners with
  | nil => rfl
  | cons owner owners ih =>
    obtain ⟨own, others⟩ := List.forall_mem_cons.mp distinct
    rw [List.flatMap_cons, List.countP_append, countP_own own, ih others, List.countP_cons]
    simp [Nat.add_comm]

theorem one_lt_countP_iff {α : Type} [DecidableEq α] {xs : List α} {x : α} {p : α → Bool}
    (member : x ∈ xs) (holds : p x = true) :
    1 < xs.countP p ↔ (∃ other ∈ xs, other ≠ x ∧ p other = true) ∨ 1 < xs.count x := by
  have here : (xs.filter (· == x)).countP p = xs.count x := by
    rw [List.countP_filter, List.count]
    apply List.countP_congr
    intro other _
    by_cases same : other = x <;> simp [same, holds]
  have there : 0 < (xs.filter (!· == x)).countP p ↔ ∃ other ∈ xs, other ≠ x ∧ p other = true := by
    simp [List.countP_pos_iff, and_assoc]
  have once : 0 < xs.count x := List.count_pos_iff.mpr member
  rw [List.countP_eq_countP_filter_add xs p (· == x), here, ← there]
  omega

theorem mem_ownersOf_iff {name : String} {owner : TypeDecl} :
    owner ∈ ownersOf catalog name ↔ ∃ upper,
      (upper = name ∨ upper ∈ catalog.superclasses name ∨ upper ∈ catalog.interfaces name) ∧
        catalog.get? upper = some owner := by
  simp only [ownersOf, List.mem_filterMap, List.mem_cons, List.mem_append]

theorem get?_of_mem_ownersOf (keyed : catalog.WellKeyed) {name : String} {owner : TypeDecl}
    (member : owner ∈ ownersOf catalog name) : catalog.get? owner.name = some owner := by
  obtain ⟨upper, _, found⟩ := mem_ownersOf_iff.mp member
  rw [← wellKeyed_iff.mp keyed upper owner found]
  exact found

theorem get?_eq_some_iff (keyed : catalog.WellKeyed) {owner : TypeDecl}
    (described : catalog.get? owner.name = some owner) (upper : String) :
    catalog.get? upper = some owner ↔ upper = owner.name := by
  constructor
  · exact fun found => wellKeyed_iff.mp keyed upper owner found
  · rintro rfl
    exact described

/-- A type is met twice when it is both in the line of superclasses, or its beginning, and among
the interfaces. -/
def MetTwice (catalog : Catalog) (name owner : String) : Prop :=
  owner ∈ name :: catalog.superclasses name ∧ owner ∈ catalog.interfaces name

instance (catalog : Catalog) (name owner : String) : Decidable (MetTwice catalog name owner) :=
  inferInstanceAs (Decidable (_ ∧ _))

theorem one_lt_count_ownersOf_iff (keyed : catalog.WellKeyed) {name : String} {owner : TypeDecl}
    (described : catalog.get? owner.name = some owner) :
    1 < (ownersOf catalog name).count owner ↔ MetTwice catalog name owner.name := by
  have interfaces := (Supertypes.supertypes_complete catalog name).interfacesOnce
  have counted : (ownersOf catalog name).count owner =
      (name :: catalog.superclasses name).count owner.name +
        (catalog.interfaces name).count owner.name := by
    rw [← List.count_append, ownersOf, List.count, List.countP_filterMap, List.cons_append,
      List.count]
    apply List.countP_congr
    intro upper _
    rw [beq_iff_eq, ← get?_eq_some_iff keyed described upper]
    cases catalog.get? upper <;> simp
  rw [counted, (Supertypes.nodup_line catalog name).count, interfaces.count, MetTwice]
  by_cases inLine : owner.name ∈ name :: catalog.superclasses name <;>
    by_cases interface : owner.name ∈ catalog.interfaces name <;> simp [inLine, interface]

theorem mem_declarations_iff {name : String} {declared : Declared} :
    declared ∈ declarations catalog name ↔
      declared.owner ∈ ownersOf catalog name ∧ declared.method ∈ declared.owner.methods := by
  obtain ⟨owner, method⟩ := declared
  simp only [declarations, List.mem_flatMap, List.mem_map, Declared.mk.injEq]
  constructor
  · rintro ⟨_, member, _, inside, rfl, rfl⟩
    exact ⟨member, inside⟩
  · rintro ⟨member, inside⟩
    exact ⟨owner, member, method, inside, rfl, rfl⟩

/-- A type comes before those above it, so what it declares is declared first by it. -/
theorem owner_of_declares {name : String} {decl : TypeDecl}
    (described : catalog.get? name = some decl) {first : Declared}
    (isFirst : first ∈ firstsBy Declared.signature (declarations catalog name))
    (declares : Declares decl first.signature) : first.owner = decl := by
  have split : declarations catalog name = decl.methods.map (Declared.mk decl) ++
      ((catalog.superclasses name ++ catalog.interfaces name).filterMap catalog.get?).flatMap
        fun owner => owner.methods.map (Declared.mk owner) := by
    rw [declarations, ownersOf, List.filterMap_cons_some described, List.flatMap_cons]
  rw [split] at isFirst
  rcases mem_or_new_of_mem_firstsBy isFirst with own | new
  · obtain ⟨_, _, rfl⟩ := List.mem_map.mp own
    rfl
  · rw [List.map_map] at new
    exact absurd declares new

/-- A type above a type, other than one owner of the signature, declares the signature too. -/
def RedeclaredAbove (catalog : Catalog) (name owner : String) (signature : String × List String) :
    Prop :=
  ∃ upper ∈ catalog.superclasses name ++ catalog.interfaces name, upper ≠ owner ∧
    ∃ decl ∈ catalog.get? upper, Declares decl signature

instance (catalog : Catalog) (name owner : String) (signature : String × List String) :
    Decidable (RedeclaredAbove catalog name owner signature) :=
  inferInstanceAs (Decidable (∃ upper ∈ catalog.superclasses name ++ catalog.interfaces name,
    upper ≠ owner ∧ ∃ decl ∈ catalog.get? upper, Declares decl signature))

theorem redeclaredAbove_iff (keyed : catalog.WellKeyed) {name : String} {decl : TypeDecl}
    (described : catalog.get? name = some decl) {first : Declared}
    (isFirst : first ∈ firstsBy Declared.signature (declarations catalog name)) :
    RedeclaredAbove catalog name first.owner.name first.signature ↔
      ∃ owner ∈ ownersOf catalog name, owner ≠ first.owner ∧ Declares owner first.signature := by
  have stored := get?_of_mem_ownersOf keyed
    (mem_declarations_iff.mp (mem_of_mem_firstsBy isFirst)).1
  constructor
  · rintro ⟨upper, above, other, owner, found, declares⟩
    refine ⟨owner, mem_ownersOf_iff.mpr ⟨upper, .inr (List.mem_append.mp above), found⟩, ?_, declares⟩
    rintro rfl
    exact other (wellKeyed_iff.mp keyed upper _ found)
  · rintro ⟨owner, member, other, declares⟩
    obtain ⟨upper, place, found⟩ := mem_ownersOf_iff.mp member
    rcases place with rfl | above
    · cases described.symm.trans found
      exact absurd (owner_of_declares described isFirst declares).symm other
    · refine ⟨upper, List.mem_append.mpr above, ?_, owner, found, declares⟩
      rintro rfl
      exact other (Option.some.inj (found.symm.trans stored))

theorem overridden_iff (keyed : catalog.WellKeyed) (distinct : DistinctMethods catalog)
    {name : String} {decl : TypeDecl} (described : catalog.get? name = some decl) {method : Method}
    (member : method ∈ catalog.methodsOf settings decl) :
    method.overridden = true ↔ RedeclaredAbove catalog name method.declaredBy method.signature ∨
      MetTwice catalog name method.declaredBy := by
  rw [methodsOf_eq, declaredMethods_eq keyed described, firstsBy_build, List.map_map] at member
  obtain ⟨first, isFirst, rfl⟩ := List.mem_map.mp member
  obtain ⟨above, inside⟩ := mem_declarations_iff.mp (mem_of_mem_firstsBy isFirst)
  have declares : Declares first.owner first.signature := List.mem_map_of_mem inside
  have once : ∀ owner ∈ ownersOf catalog name, (owner.methods.map signatureOf).Nodup :=
    fun owner member => distinct owner ((mem_decls_iff keyed).mpr (get?_of_mem_ownersOf keyed member))
  have counted := one_lt_countP_iff above (p := fun owner => decide (Declares owner first.signature))
    (decide_eq_true declares)
  simp only [decide_eq_true_eq] at counted
  rw [Function.comp_apply, overridden_marked, declarations, countP_declared once, decide_eq_true_eq,
    counted, one_lt_count_ownersOf_iff keyed (get?_of_mem_ownersOf keyed above),
    ← redeclaredAbove_iff keyed described isFirst, signature_marked, first.signature_build]
  rfl

/-- The mark of a method says that a type above declares it again, unless the type that declares the
method is met twice. So where no type is both in the line of superclasses and among the interfaces,
the mark says just that. -/
theorem mark_exact (catalog : Catalog) (settings : Settings) (keyed : catalog.WellKeyed)
    (distinct : DistinctMethods catalog) (name : String) (decl : TypeDecl)
    (described : catalog.get? name = some decl) :
    (∀ method ∈ catalog.methodsOf settings decl, method.overridden = true ↔
      RedeclaredAbove catalog name method.declaredBy method.signature ∨
        MetTwice catalog name method.declaredBy) ∧
    ((∀ interface ∈ catalog.interfaces name, interface ∉ name :: catalog.superclasses name) →
      ∀ method ∈ catalog.methodsOf settings decl, method.overridden = true ↔
        RedeclaredAbove catalog name method.declaredBy method.signature) := by
  refine ⟨fun method member => overridden_iff keyed distinct described member, ?_⟩
  intro apart method member
  rw [overridden_iff keyed distinct described member]
  apply or_iff_left
  rintro ⟨inLine, interface⟩
  exact apart _ interface inLine

theorem mark_exact_orders : orders.WellKeyed ∧ DistinctMethods orders ∧
    orders.get? "OrderService" = some orderService ∧
    (∃ method ∈ orders.methodsOf .default orderService, method.overridden = true ∧
      (RedeclaredAbove orders "OrderService" method.declaredBy method.signature ∨
        MetTwice orders "OrderService" method.declaredBy)) ∧
    ∃ decl, orders.get? "BaseService" = some decl ∧
      (∀ interface ∈ orders.interfaces "BaseService",
        interface ∉ "BaseService" :: orders.superclasses "BaseService") ∧
      ∃ method ∈ orders.methodsOf .default decl, method.overridden = true ∧
        RedeclaredAbove orders "BaseService" method.declaredBy method.signature := by
  have keyed : orders.WellKeyed := wellKeyed_collect _
  have distinct : DistinctMethods orders := by decide +kernel
  have described : orders.get? "OrderService" = some orderService := by decide +kernel
  have marks : (orders.methodsOf .default orderService).any (·.overridden) = true := by
    decide +kernel
  obtain ⟨method, member, overridden⟩ := List.any_eq_true.mp marks
  have base : (orders.get? "BaseService").any
      (fun decl => (orders.methodsOf .default decl).any (·.overridden)) = true := by
    decide +kernel
  obtain ⟨decl, found, marked⟩ := (Option.any_eq_true ..).mp base
  obtain ⟨handle, inside, handled⟩ := List.any_eq_true.mp marked
  have apart : ∀ interface ∈ orders.interfaces "BaseService",
      interface ∉ "BaseService" :: orders.superclasses "BaseService" := by
    decide +kernel
  have met := (mark_exact orders .default keyed distinct "OrderService" orderService described).1
  have exact := (mark_exact orders .default keyed distinct "BaseService" decl found).2 apart
  exact ⟨keyed, distinct, described, ⟨method, member, overridden, (met method member).mp overridden⟩,
    decl, found, apart, handle, inside, handled, (exact handle inside).mp handled⟩

/-- A service and its interface have the same superclass. -/
def audits : Catalog := .collect [
  { name := "Base", methods := [{ name := "audit" }] },
  { name := "Audited", superclass := some "Base" },
  { name := "Service", superclass := some "Base", interfaces := ["Audited"] }]

/-- The superclass is met twice, so its method counts as one that overrides another, though nothing
else declares it. -/
theorem audit_overrides_itself : audits.WellKeyed ∧ DistinctMethods audits ∧
    ∃ decl, audits.get? "Service" = some decl ∧
      ∃ method ∈ audits.methodsOf .default decl, method.overridden = true ∧
        ¬ RedeclaredAbove audits "Service" method.declaredBy method.signature := by
  have shown : (audits.get? "Service").any (fun decl => (audits.methodsOf .default decl).any
      fun method => decide (method.overridden = true ∧
        ¬ RedeclaredAbove audits "Service" method.declaredBy method.signature)) = true := by
    decide +kernel
  obtain ⟨decl, found, listed⟩ := (Option.any_eq_true ..).mp shown
  obtain ⟨method, member, holds⟩ := List.any_eq_true.mp listed
  exact ⟨wellKeyed_collect _, by decide +kernel, decl, found, method, member, of_decide_eq_true holds⟩

end DomainAtlas.Proofs.OverrideMarks
