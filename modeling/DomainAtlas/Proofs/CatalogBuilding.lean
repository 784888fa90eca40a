import Mathlib.Data.List.Induction
import DomainAtlas.Proofs.Changes
import DomainAtlas.Proofs.Profiling

/-! Two ways to build a catalog. One takes declarations one by one and refuses blank names and names
that are taken, the other takes them all and lets a later one replace an earlier one. A list that
the first way accepts makes the same catalog either way. -/

namespace DomainAtlas.Proofs.CatalogBuilding
open Changes (EachOnce eachOnce_distinct)
open Histories Profiling

variable {catalog : Catalog} {decl : TypeDecl} {decls : List TypeDecl} {name : String}

structure Fresh (catalog : Catalog) (name : String) : Prop where
  named : Text.isBlank name = false
  absent : name ∉ catalog.types.names

def put (catalog : Catalog) (decl : TypeDecl) : Catalog := ⟨catalog.types.insert decl.name decl⟩

theorem contains_iff_mem : catalog.contains name = true ↔ name ∈ catalog.types.names :=
  NameMap.contains_iff

/-- Why a declaration cannot be added: blank names are refused before it is asked whether they are
new. -/
def refusal (decl : TypeDecl) : Fault :=
  .invalid (if Text.isBlank decl.name then .blankName else .duplicate decl.name)

theorem insert_cases (catalog : Catalog) (decl : TypeDecl) :
    (Fresh catalog decl.name ∧ catalog.insert decl = .ok (put catalog decl)) ∨
      (¬ Fresh catalog decl.name ∧ catalog.insert decl = .error (refusal decl)) := by
  unfold Catalog.insert refusal
  split
  next blank => exact .inr ⟨fun fresh => by simp [fresh.named] at blank, rfl⟩
  next named =>
    split
    next known => exact .inr ⟨fun fresh => fresh.absent (contains_iff_mem.mp known), rfl⟩
    next new =>
      have absent : decl.name ∉ catalog.types.names := fun member =>
        new (contains_iff_mem.mpr member)
      exact .inl ⟨⟨Bool.eq_false_iff.mpr named, absent⟩, rfl⟩

/-- Offering is inserting, and a catalog that refuses a declaration stays as it is. -/
theorem offer_eq (catalog : Catalog) (decl : TypeDecl) :
    catalog.offer decl = match catalog.insert decl with
      | .ok next => (.ok (), next)
      | .error fault => (.error fault, catalog) := by
  unfold Catalog.offer Catalog.add Catalog.insert
  split
  next => rfl
  next =>
    -- The catalog is read once, so what is left of the run is one more check.
    change ((if catalog.contains decl.name then throw _ else modify _ :
      ExceptT Fault (StateM Catalog) Unit).run.run catalog) = _
    split <;> rfl

theorem entries_put (fresh : Fresh catalog decl.name) :
    (put catalog decl).types.entries = catalog.types.entries ++ [(decl.name, decl)] :=
  NameMap.entries_insert_of_absent fresh.absent decl

theorem names_put_fresh (fresh : Fresh catalog decl.name) :
    (put catalog decl).types.names = catalog.types.names ++ [decl.name] := by
  rw [NameMap.names, entries_put fresh, List.map_append]
  rfl

/-- What becomes of a declaration that is offered to a catalog. -/
structure Offered (catalog : Catalog) (decl : TypeDecl) : Prop where
  refused : (∃ fault, (catalog.offer decl).1 = .error fault) ↔
    Text.isBlank decl.name = true ∨ decl.name ∈ catalog.types.names
  kept : ∀ fault, (catalog.offer decl).1 = .error fault →
    fault = refusal decl ∧ (catalog.offer decl).2 = catalog
  appended : (catalog.offer decl).1 = .ok () →
    (catalog.offer decl).2.types.entries = catalog.types.entries ++ [(decl.name, decl)]

theorem not_fresh_iff :
    ¬ Fresh catalog name ↔ Text.isBlank name = true ∨ name ∈ catalog.types.names := by
  constructor
  · intro stale
    by_cases blank : Text.isBlank name = true
    · exact .inl blank
    · exact .inr (by_contra fun absent => stale ⟨Bool.eq_false_iff.mpr blank, absent⟩)
  · rintro (blank | member) fresh
    · simp [fresh.named] at blank
    · exact fresh.absent member

theorem offered (catalog : Catalog) (decl : TypeDecl) : Offered catalog decl := by
  rcases insert_cases catalog decl with ⟨fresh, inserted⟩ | ⟨stale, refused⟩
  · have answer : catalog.offer decl = (.ok (), put catalog decl) := by rw [offer_eq, inserted]
    refine ⟨?_, ?_, ?_⟩
    · rw [answer, ← not_fresh_iff]
      simp [fresh]
    · intro fault failed
      rw [answer] at failed
      cases failed
    · intro
      rw [answer, entries_put fresh]
  · have answer : catalog.offer decl = (.error (refusal decl), catalog) := by rw [offer_eq, refused]
    refine ⟨?_, ?_, ?_⟩
    · rw [answer, ← not_fresh_iff]
      simp [stale]
    · intro fault failed
      rw [answer] at failed ⊢
      cases failed
      exact ⟨rfl, rfl⟩
    · intro accepted
      rw [answer] at accepted
      cases accepted

/-- Insertion goes through when no name is blank and none comes twice. -/
theorem insertAll_eq_ok_iff {start : Catalog} :
    decls.foldlM Catalog.insert start = .ok catalog ↔
      (∀ decl ∈ decls, Text.isBlank decl.name = false) ∧
      (start.types.names ++ decls.map (·.name)).Nodup ∧ catalog = decls.foldl put start := by
  induction decls generalizing start with
  | nil =>
    have done : ([] : List TypeDecl).foldlM Catalog.insert start = .ok start := rfl
    rw [done, Except.ok.injEq, List.foldl_nil, @eq_comm _ catalog]
    simp [start.types.names_nodup]
  | cons decl decls ih =>
    rw [List.foldlM_cons]
    rcases insert_cases start decl with ⟨fresh, inserted⟩ | ⟨stale, refused⟩
    · rw [inserted]
      change decls.foldlM Catalog.insert (put start decl) = _ ↔ _
      rw [ih, names_put_fresh fresh, List.forall_mem_cons, List.append_assoc]
      simp [fresh.named]
    · rw [refused]
      constructor
      · intro accepted
        cases accepted
      · rintro ⟨named, nodup, _⟩
        refine absurd ⟨named decl List.mem_cons_self, fun member => ?_⟩ stale
        exact (List.nodup_append.mp nodup).2.2 _ member _ List.mem_cons_self rfl

theorem foldl_put (start : Catalog) (decls : List TypeDecl) :
    decls.foldl put start =
      ⟨decls.foldl (fun types decl => types.insert decl.name decl) start.types⟩ :=
  List.foldl_hom Catalog.mk fun _ _ => rfl

theorem collect_eq (decls : List TypeDecl) : Catalog.collect decls = decls.foldl put .empty := by
  rw [foldl_put, Catalog.collect, NameMap.ofList, List.foldl_map]
  rfl

theorem ofDecls_eq_ok_iff :
    Catalog.ofDecls decls = .ok catalog ↔
      (∀ decl ∈ decls, Text.isBlank decl.name = false) ∧ (decls.map (·.name)).Nodup ∧
        catalog = .collect decls := by
  rw [collect_eq]
  exact insertAll_eq_ok_iff

theorem collect_concat (decls : List TypeDecl) (decl : TypeDecl) :
    Catalog.collect (decls ++ [decl]) = put (.collect decls) decl := by
  rw [collect_eq, collect_eq, List.foldl_concat]

theorem names_collect (decls : List TypeDecl) :
    (Catalog.collect decls).types.names = distinct (decls.map (·.name)) := by
  induction decls using List.reverseRecOn with
  | nil => rfl
  | append_singleton decls decl ih =>
    have names : (put (.collect decls) decl).types.names = _ := NameMap.names_insert ..
    rw [collect_concat, names, ih, List.map_append, List.map_singleton, distinct_concat]
    simp only [mem_distinct]

theorem get?_collect :
    (Catalog.collect decls).get? name = some decl ↔ IsLast TypeDecl.name decls name decl := by
  induction decls using List.reverseRecOn with
  | nil => simp [not_isLast_nil, Catalog.collect, Catalog.get?, NameMap.ofList]
  | append_singleton decls last ih =>
    have found : (put (.collect decls) last).get? name = _ := NameMap.get?_insert ..
    rw [collect_concat, found, isLast_concat, ← ih]
    split
    · rw [Option.some.injEq]
    · rfl

theorem collect_decls (keyed : catalog.WellKeyed) : Catalog.collect catalog.decls = catalog := by
  have entries : catalog.decls.map (fun decl => (decl.name, decl)) = catalog.types.entries :=
    NameMap.entries_of_values keyed
  rw [Catalog.collect, entries, NameMap.ofList_entries]

theorem wellKeyed_ofDecls (accepted : Catalog.ofDecls decls = .ok catalog) : catalog.WellKeyed := by
  obtain ⟨_, _, rfl⟩ := ofDecls_eq_ok_iff.mp accepted
  exact wellKeyed_collect decls

inductive Built : Catalog → Prop
  | empty : Built .empty
  | ofDecls {decls : List TypeDecl} {catalog : Catalog}
      (accepted : Catalog.ofDecls decls = .ok catalog) : Built catalog
  | collect (decls : List TypeDecl) : Built (.collect decls)
  | offer {catalog : Catalog} (built : Built catalog) (decl : TypeDecl) :
      Built (catalog.offer decl).2

theorem Built.wellKeyed (built : Built catalog) : catalog.WellKeyed := by
  induction built with
  | empty => exact wellKeyed_empty
  | ofDecls accepted => exact wellKeyed_ofDecls accepted
  | collect decls => exact wellKeyed_collect decls
  | @offer catalog _ decl ih =>
    rw [offer_eq]
    cases inserted : catalog.insert decl with
    | ok next => exact wellKeyed_insert ih inserted
    | error fault => exact ih

/-- What the two ways make of a list of declarations. -/
structure FromList (decls : List TypeDecl) : Prop where
  accepted : (∃ catalog, Catalog.ofDecls decls = .ok catalog) ↔
    (∀ decl ∈ decls, Text.isBlank decl.name = false) ∧ (decls.map (·.name)).Nodup
  same : ∀ catalog, Catalog.ofDecls decls = .ok catalog → catalog = .collect decls
  names : EachOnce (decls.map (·.name)) (Catalog.collect decls).types.names
  last : ∀ name decl, (Catalog.collect decls).get? name = some decl ↔
    IsLast TypeDecl.name decls name decl

theorem fromList (decls : List TypeDecl) : FromList decls where
  accepted := by simp [ofDecls_eq_ok_iff]
  same _ accepted := (ofDecls_eq_ok_iff.mp accepted).2.2
  names := by
    rw [names_collect]
    exact eachOnce_distinct _
  last _ _ := get?_collect

/-- Whatever a catalog holds, it takes new names at its end and refuses the others without a trace.
Inserting a list makes no other catalog than collecting it, and fails when a name is blank or comes
twice. A catalog that was built is collected from its own declarations. -/
theorem catalogs_built (catalog : Catalog) (decl : TypeDecl) (decls : List TypeDecl) :
    Offered catalog decl ∧ FromList decls ∧
      (Built catalog → Catalog.collect catalog.decls = catalog) :=
  ⟨offered catalog decl, fromList decls, fun built => collect_decls built.wellKeyed⟩

def orders : List TypeDecl :=
  [{ name := "Order", roles := [.entity] }, { name := "Invoice", roles := [.valueObject] },
    { name := "Order", roles := [.aggregateRoot] }]

/-- The later draft stands in the place of the earlier one, and no third one can be added. -/
theorem catalogs_built_orders :
    (∀ catalog, Catalog.ofDecls orders ≠ .ok catalog) ∧
    (Catalog.collect orders).types.names = ["Order", "Invoice"] ∧
    (Catalog.collect orders).offer { name := "Order" } =
      (.error (.invalid (.duplicate "Order")), .collect orders) ∧
    Catalog.collect (Catalog.collect orders).decls = .collect orders := by
  obtain ⟨offered, list, again⟩ := catalogs_built (.collect orders) { name := "Order" } orders
  have names : (Catalog.collect orders).types.names = ["Order", "Invoice"] := by decide
  refine ⟨?_, names, ?_, again (.collect orders)⟩
  · intro catalog accepted
    exact absurd (list.accepted.mp ⟨catalog, accepted⟩).2 (by decide)
  · obtain ⟨fault, failed⟩ := offered.refused.mpr (.inr (by simp [names]))
    obtain ⟨rfl, left⟩ := offered.kept fault failed
    exact Prod.ext failed left

end DomainAtlas.Proofs.CatalogBuilding
