import DomainAtlas.Proofs.Coherence
import DomainAtlas.Proofs.Containment

/-! The fields in sight of an object and the parts that a walk from it meets. Of the fields of one
name a walk takes the first that holds a part, and the fields of superclasses come first, hidden or
not. So a field in sight is followed unless a field of its name that holds a part stands before it. -/

open Relation (ReflTransGen)

namespace DomainAtlas.Proofs.VisibleParts
open Profiling Coherence Containment

variable {catalog : Catalog} {settings : Settings} {model : Model}

def ComesFirst (owner : Profile) (field : Field) : Prop :=
  ∃ before after, owner.fields = before ++ field :: after ∧
    ∀ other ∈ before, HoldsPart other → other.name ≠ field.name

theorem exists_first {owner : Profile} {field : Field} (inside : field ∈ owner.fields)
    (part : HoldsPart field) :
    ∃ first ∈ owner.fields, HoldsPart first ∧ first.name = field.name ∧ ComesFirst owner first := by
  have listed : field ∈ owner.containments :=
    List.mem_filter.mpr ⟨inside, (isContainment_iff field).mpr part⟩
  have named : field.name ∈ (firstsBy Field.name owner.containments).map Field.name :=
    (mem_map_firstsBy _).mpr (List.mem_map_of_mem listed)
  obtain ⟨first, kept, same⟩ := List.mem_map.mp named
  obtain ⟨member, holds⟩ := List.mem_filter.mp (mem_of_mem_firstsBy kept)
  refine ⟨first, member, (isContainment_iff first).mp holds, same, ?_⟩
  exact (mem_firstParts_iff.mp kept).2

/-- In a built model the type of a part is there, and it is a domain object. -/
theorem part_stored (built : Built catalog settings model) {owner : Profile}
    (member : owner ∈ model.profiles) {field : Field} (inside : field ∈ owner.fields)
    (part : HoldsPart field) :
    ∃ target, model.get? field.typeName = some target ∧ target.role.isDomainObject = true := by
  obtain ⟨role, tag, object⟩ := part.exists_role
  rw [field_tag_eq built member inside] at tag
  obtain ⟨target, stored, rfl⟩ := Option.map_eq_some_iff.mp tag
  exact ⟨target, stored, object⟩

/-- What a walk makes of a field that holds a part: it follows the field just when the field comes
first with its name, and it meets the part at least when all parts of that name are of one type. -/
structure Walked (model : Model) (owner : Profile) (field : Field) (target : Profile) : Prop where
  stored : model.get? field.typeName = some target
  followed : (owner, field, target) ∈ edges (model.walk owner) ↔ ComesFirst owner field
  contained : (∀ other ∈ owner.fields, HoldsPart other → other.name = field.name →
    other.typeName = field.typeName) → target ∈ model.contained owner

theorem part_walked (built : Built catalog settings model) {owner : Profile}
    (member : owner ∈ model.profiles) {field : Field} (inside : field ∈ owner.fields)
    (part : HoldsPart field) : ∃ target, Walked model owner field target := by
  obtain ⟨target, stored, object⟩ := part_stored built member inside part
  refine ⟨target, stored, ?_, ?_⟩
  · rw [mem_edges_iff]
    constructor
    · exact fun crossed => crossed.2.first
    · intro first
      have leads : Leads model owner field target := ⟨part, first, stored, object⟩
      exact ⟨(mem_contained_iff member owner).mpr .refl, leads⟩
  · intro alike
    obtain ⟨first, inFields, firstPart, named, comes⟩ := exists_first inside part
    have same := alike first inFields firstPart named
    have leads : Leads model owner first target := ⟨firstPart, comes, same ▸ stored, object⟩
    exact (mem_contained_iff member target).mpr (.single ⟨first, leads⟩)

/-- Where names in sight differ and nothing hidden holds a part, a field in sight comes first. -/
theorem comesFirst_of_visible {owner : Profile} {field : Field}
    (distinct : ((owner.fields.filter (!·.isHidden)).map Field.name).Nodup)
    (unshadowed : ∀ hidden ∈ owner.fields, hidden.isHidden = true → ¬ HoldsPart hidden)
    (inside : field ∈ owner.fields) (visible : field.isHidden = false) : ComesFirst owner field := by
  obtain ⟨before, after, split⟩ := List.append_of_mem inside
  refine ⟨before, after, split, ?_⟩
  intro other earlier part same
  have inFields : other ∈ owner.fields := split ▸ List.mem_append_left _ earlier
  have inSight : other.isHidden = false := by
    by_contra hidden
    exact unshadowed other inFields (by simpa using hidden) part
  rw [split, List.filter_append, List.filter_cons_of_pos (by simp [visible]), List.map_append,
    List.nodup_append] at distinct
  have listed : other.name ∈ (before.filter (!·.isHidden)).map Field.name :=
    List.mem_map_of_mem (List.mem_filter.mpr ⟨earlier, by simp [inSight]⟩)
  exact distinct.2.2 other.name listed field.name List.mem_cons_self same

/-- Every object of a model that is built from a catalog contains the parts that its fields hold, as
long as no two fields of one name hold parts of different types. -/
theorem parts_walked (catalog : Catalog) (settings other : Settings) (packages : List String)
    (keyed : catalog.WellKeyed) :
    ∃ model, (Factory.ofCatalog catalog settings packages).model other = .ok model ∧
      (∀ owner ∈ model.profiles, ∀ field ∈ owner.fields, HoldsPart field →
        ∃ target, Walked model owner field target) ∧
      (DistinctFields catalog → ∀ owner ∈ model.profiles,
        (∀ hidden ∈ owner.fields, hidden.isHidden = true → ¬ HoldsPart hidden) →
        ∀ field ∈ owner.fields, field.isHidden = false → ComesFirst owner field) := by
  obtain ⟨model, made, built⟩ := model_ok keyed settings other packages
  refine ⟨model, made, ?_, ?_⟩
  · exact fun owner member field inside part => part_walked built member inside part
  · intro distinct owner member unshadowed field inside visible
    refine comesFirst_of_visible ?_ unshadowed inside visible
    obtain ⟨decl, role, described, _, same⟩ := built.exists_decl member
    rw [same]
    exact nodup_visible_profileOf distinct described role

theorem parts_walked_shop : shop.WellKeyed ∧
    ∃ model, (Factory.ofCatalog shop .default []).model .default = .ok model ∧
      ∃ owner ∈ model.profiles, ∃ field ∈ owner.fields, HoldsPart field ∧
        ∃ target, Walked model owner field target := by
  have keyed : shop.WellKeyed := wellKeyed_collect _
  obtain ⟨model, made, walked, _⟩ := parts_walked shop .default .default [] keyed
  obtain ⟨same, again, shown⟩ := exists_ok_of_any
    ((Factory.ofCatalog shop .default []).model .default)
    (fun model => model.profiles.any fun owner => owner.fields.any Field.isContainment)
    (by decide +kernel)
  obtain rfl := Except.ok.inj (made.symm.trans again)
  obtain ⟨owner, member, fields⟩ := List.any_eq_true.mp shown
  obtain ⟨field, inside, holds⟩ := List.any_eq_true.mp fields
  have part := (isContainment_iff field).mp holds
  exact ⟨keyed, model, made, owner, member, field, inside, part, walked owner member field inside part⟩

/-- A section is an item. Items hold sections as their content, but a section holds paragraphs. -/
def outline : Catalog := .collect [
  { name := "Item", fields := [{ name := "content", type := .plain "Section" }] },
  { name := "Section", roles := [.entity], superclass := some "Item"
    fields := [{ name := "content", type := .plain "Paragraph" }] },
  { name := "Paragraph", roles := [.entity] }]

/-- The walk from a section takes the content of the item, which is hidden, and never meets the
paragraph that the section holds. -/
theorem paragraph_of_section_lost : outline.WellKeyed ∧
    ∃ model, (Factory.ofCatalog outline .default []).model .default = .ok model ∧
      ∃ owner ∈ model.profiles, owner.role.isDomainObject = true ∧
        ∃ field ∈ owner.fields, field.isHidden = false ∧ HoldsPart field ∧
          ∃ target, model.get? field.typeName = some target ∧ target ∉ model.contained owner := by
  obtain ⟨model, made, shown⟩ := exists_ok_of_any
    ((Factory.ofCatalog outline .default []).model .default)
    (fun model => model.profiles.any fun owner => owner.role.isDomainObject &&
      owner.fields.any fun field => !field.isHidden && field.isContainment &&
        (model.get? field.typeName).any fun target => decide (target ∉ model.contained owner))
    (by decide +kernel)
  obtain ⟨owner, member, holds⟩ := List.any_eq_true.mp shown
  obtain ⟨object, fields⟩ := Bool.and_eq_true_iff.mp holds
  obtain ⟨field, inside, lost⟩ := List.any_eq_true.mp fields
  simp only [Bool.and_eq_true, Bool.not_eq_true', isContainment_iff] at lost
  obtain ⟨⟨visible, part⟩, missed⟩ := lost
  refine ⟨wellKeyed_collect _, model, made, owner, member, object, field, inside, visible, part, ?_⟩
  cases stored : model.get? field.typeName with
  | none => simp [stored] at missed
  | some target =>
    rw [stored] at missed
    exact ⟨target, rfl, of_decide_eq_true missed⟩

end DomainAtlas.Proofs.VisibleParts
