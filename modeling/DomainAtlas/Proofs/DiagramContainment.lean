import DomainAtlas.Proofs.DiagramRelations
import DomainAtlas.Proofs.VisibleParts

/-! Two readings of containment. A walk follows fields by name, one field of each name, and asks the
model for what they hold. A diagram draws an arrow for every field that says it holds a part. In a
model that is built from a catalog fields say what is stored, so the two differ only where an object
has several parts under one name. -/

open Relation (ReflTransGen)

namespace DomainAtlas.Proofs.DiagramContainment
open Profiling Coherence Containment DiagramRelations VisibleParts

variable {catalog : Catalog} {settings : Settings} {model : Model} {owner start : Profile}
  {part : String}

def DistinctParts (profile : Profile) : Prop :=
  profile.fields.Pairwise fun first second =>
    HoldsPart first → HoldsPart second → first.name ≠ second.name

instance (profile : Profile) : Decidable (DistinctParts profile) :=
  inferInstanceAs (Decidable (List.Pairwise _ _))

def Arrow (model : Model) (whole part : String) : Prop :=
  ⟨whole, .contains, part⟩ ∈ model.edges model.profiles

def crossings (visits : List Visit) : List (String × String) :=
  (edges visits).map fun (owner, _, target) => (owner.typeName, target.typeName)

theorem relates_contains_iff {source target : Profile} :
    Relates model source target .contains ↔
      source.role.isDomainObject = true ∧
        ∃ field ∈ source.fields, HoldsPart field ∧ field.typeName = target.typeName := by
  constructor
  · intro relates
    cases relates with
    | contains object inside part typed => exact ⟨object, _, inside, part, typed⟩
  · intro holds
    obtain ⟨object, field, inside, part, typed⟩ := holds
    exact .contains object inside part typed

theorem arrow_iff (member : owner ∈ model.profiles) :
    Arrow model owner.typeName part ↔
      owner.role.isDomainObject = true ∧
        ∃ field ∈ owner.fields, HoldsPart field ∧ field.typeName = part ∧
          ∃ target, model.get? part = some target := by
  rw [Arrow, DiagramRelations.mem_edges_iff]
  constructor
  · intro drawn
    obtain ⟨source, inside, target, also, starts, ends, relates⟩ := drawn
    obtain rfl : owner = source := Model.eq_of_typeName member inside starts
    obtain rfl : part = target.typeName := ends
    obtain ⟨object, field, listed, holds, typed⟩ := relates_contains_iff.mp relates
    exact ⟨object, field, listed, holds, typed, target, Model.mem_profiles_iff.mp also⟩
  · intro holds
    obtain ⟨object, field, listed, part, rfl, target, stored⟩ := holds
    have named := Model.typeName_of_get? stored
    exact ⟨owner, member, target, Model.mem_profiles_of_get? stored, rfl, named.symm,
      relates_contains_iff.mpr ⟨object, field, listed, part, named.symm⟩⟩

theorem DistinctParts.comesFirst {field : Field} (distinct : DistinctParts owner)
    (inside : field ∈ owner.fields) (part : HoldsPart field) : ComesFirst owner field := by
  obtain ⟨before, after, split⟩ := List.append_of_mem inside
  refine ⟨before, after, split, ?_⟩
  intro other earlier also
  rw [DistinctParts, split] at distinct
  exact (List.pairwise_append.mp distinct).2.2 other earlier field List.mem_cons_self also part

theorem arrow_of_leads {field : Field} {target : Profile} (member : owner ∈ model.profiles)
    (object : owner.role.isDomainObject = true) (leads : Leads model owner field target) :
    Arrow model owner.typeName target.typeName := by
  obtain ⟨part, ⟨before, after, split, _⟩, stored, _⟩ := leads
  have inside : field ∈ owner.fields := split ▸ List.mem_append_right _ List.mem_cons_self
  have named := Model.typeName_of_get? stored
  exact (arrow_iff member).mpr ⟨object, field, inside, part, named.symm, target, named.symm ▸ stored⟩

/-- Where parts have different names, a walk follows whatever is drawn. -/
theorem leads_of_arrow (built : Built catalog settings model) (member : owner ∈ model.profiles)
    (distinct : DistinctParts owner) (drawn : Arrow model owner.typeName part) :
    ∃ field target, Leads model owner field target ∧ target.typeName = part := by
  obtain ⟨_, field, inside, holds, rfl, _⟩ := (arrow_iff member).mp drawn
  obtain ⟨target, stored, isObject⟩ := part_stored built member inside holds
  exact ⟨field, target, ⟨holds, distinct.comesFirst inside holds, stored, isObject⟩,
    Model.typeName_of_get? stored⟩

theorem object_of_contained (stored : start ∈ model.profiles)
    (object : start.role.isDomainObject = true) (reported : owner ∈ model.contained start) :
    owner.role.isDomainObject = true := by
  rcases ((mem_contained_iff stored owner).mp reported).cases_tail with same | ⟨_, _, _, leads⟩
  · exact same ▸ object
  · exact leads.object

theorem contained_of_leads {field : Field} {target : Profile} (stored : start ∈ model.profiles)
    (reported : owner ∈ model.contained start) (leads : Leads model owner field target) :
    target ∈ model.contained start := by
  have path := (mem_contained_iff stored owner).mp reported
  exact (mem_contained_iff stored target).mpr (path.tail ⟨field, leads⟩)

/-- The arrows of the diagram that start at what an object contains are those that the walk from it
follows, and they reach all of it and nothing else. -/
structure Agrees (model : Model) (start : Profile) : Prop where
  crossed : ∀ whole part, (whole, part) ∈ crossings (model.walk start) ↔
    Arrow model whole part ∧ whole ∈ (model.contained start).map Profile.typeName
  reached : ∀ name, name ∈ (model.contained start).map Profile.typeName ↔
    ReflTransGen (Arrow model) start.typeName name

theorem crossed_iff (built : Built catalog settings model)
    (distinct : ∀ profile ∈ model.profiles, DistinctParts profile) (stored : start ∈ model.profiles)
    (object : start.role.isDomainObject = true) (whole part : String) :
    (whole, part) ∈ crossings (model.walk start) ↔
      Arrow model whole part ∧ whole ∈ (model.contained start).map Profile.typeName := by
  simp only [crossings, List.mem_map, Prod.exists, Containment.mem_edges_iff, Prod.mk.injEq]
  constructor
  · intro crossed
    obtain ⟨owner, field, target, ⟨reported, leads⟩, rfl, rfl⟩ := crossed
    have member := contained_stored stored reported
    have isObject := object_of_contained stored object reported
    exact ⟨arrow_of_leads member isObject leads, owner, reported, rfl⟩
  · intro drawn
    obtain ⟨arrow, owner, reported, rfl⟩ := drawn
    have member := contained_stored stored reported
    obtain ⟨field, target, leads, named⟩ :=
      leads_of_arrow built member (distinct owner member) arrow
    exact ⟨owner, field, target, ⟨reported, leads⟩, rfl, named⟩

theorem reached_iff (built : Built catalog settings model)
    (distinct : ∀ profile ∈ model.profiles, DistinctParts profile) (stored : start ∈ model.profiles)
    (object : start.role.isDomainObject = true) (name : String) :
    name ∈ (model.contained start).map Profile.typeName ↔
      ReflTransGen (Arrow model) start.typeName name := by
  constructor
  · intro named
    obtain ⟨profile, reported, rfl⟩ := List.mem_map.mp named
    have path := (mem_contained_iff stored profile).mp reported
    clear reported named
    -- The objects on the way are contained too, so each of their fields is drawn.
    induction path with
    | refl => exact .refl
    | tail before follows reached =>
      have reported := (mem_contained_iff stored _).mpr before
      obtain ⟨field, leads⟩ := follows
      exact reached.tail (arrow_of_leads (contained_stored stored reported)
        (object_of_contained stored object reported) leads)
  · intro path
    induction path with
    | refl => exact List.mem_map_of_mem ((mem_contained_iff stored start).mpr .refl)
    | tail _ arrow reached =>
      obtain ⟨owner, reported, rfl⟩ := List.mem_map.mp reached
      have member := contained_stored stored reported
      obtain ⟨field, target, leads, rfl⟩ :=
        leads_of_arrow built member (distinct owner member) arrow
      exact List.mem_map_of_mem (contained_of_leads stored reported leads)

/-- In a model that is built from a catalog the diagram shows what objects contain just as walks do,
as long as no object has two parts of one name. -/
theorem containment_drawn (catalog : Catalog) (settings other : Settings) (packages : List String)
    (keyed : catalog.WellKeyed) :
    ∃ model, (Factory.ofCatalog catalog settings packages).model other = .ok model ∧
      ((∀ profile ∈ model.profiles, DistinctParts profile) →
        ∀ start ∈ model.profiles, start.role.isDomainObject = true → Agrees model start) := by
  obtain ⟨model, made, built⟩ := model_ok keyed settings other packages
  refine ⟨model, made, ?_⟩
  intro distinct start stored object
  exact ⟨crossed_iff built distinct stored object, reached_iff built distinct stored object⟩

def archive : Catalog := .collect [
  { name := "Archive", roles := [.aggregateRoot]
    fields := [{ name := "top", type := .plain "Folder" }] },
  { name := "Folder", roles := [.entity]
    fields := [{ name := "inner", type := .plain "Folder" },
      { name := "label", type := .plain "Label" }] },
  { name := "Label", roles := [.valueObject] }]

theorem containment_drawn_archive : archive.WellKeyed ∧
    ∃ model, (Factory.ofCatalog archive .default []).model .default = .ok model ∧
      (∀ profile ∈ model.profiles, DistinctParts profile) ∧
      ∃ start ∈ model.profiles, start.role.isDomainObject = true ∧ Agrees model start ∧
        crossings (model.walk start) =
          [("Archive", "Folder"), ("Folder", "Folder"), ("Folder", "Label")] := by
  have keyed : archive.WellKeyed := wellKeyed_collect _
  obtain ⟨model, made, agrees⟩ := containment_drawn archive .default .default [] keyed
  obtain ⟨same, again, shown⟩ := exists_ok_of_any
    ((Factory.ofCatalog archive .default []).model .default)
    (fun model => decide ((∀ profile ∈ model.profiles, DistinctParts profile) ∧
      ∃ start ∈ model.profiles, start.role.isDomainObject = true ∧
        crossings (model.walk start) =
          [("Archive", "Folder"), ("Folder", "Folder"), ("Folder", "Label")]))
    (by decide +kernel)
  obtain rfl := Except.ok.inj (made.symm.trans again)
  obtain ⟨distinct, start, stored, object, crossed⟩ := of_decide_eq_true shown
  exact ⟨keyed, model, made, distinct, start, stored, object, agrees distinct start stored object,
    crossed⟩

end DomainAtlas.Proofs.DiagramContainment
