import DomainAtlas.Proofs.IdentityFields

/-! The version field of an entity is found by its mark, whichever type above declares it. What is
kept of it is its name, and a name means the nearest field that has it. So the field that is shown
has the mark just when no type nearer than the one that sets the mark declares the name again. -/

namespace DomainAtlas.Proofs.VersionFields
open Profiling Coherence FieldShadowing IdentityFields

variable {catalog : Catalog} {settings : Settings} {types : List TypeDecl}

/-- The fields of a line of types that are marked as counting changes, each with its type. -/
def marks (types : List TypeDecl) : List (TypeDecl × FieldDecl) :=
  types.flatMap fun owner => (owner.fields.filter (·.isVersion)).map (Prod.mk owner)

theorem mem_marks_iff {owner : TypeDecl} {declared : FieldDecl} :
    (owner, declared) ∈ marks types ↔
      owner ∈ types ∧ declared ∈ owner.fields ∧ declared.isVersion = true := by
  simp only [marks, List.mem_flatMap, List.mem_map, List.mem_filter, Prod.mk.injEq]
  constructor
  · rintro ⟨_, inside, _, ⟨member, marked⟩, rfl, rfl⟩
    exact ⟨inside, member, marked⟩
  · rintro ⟨inside, member, marked⟩
    exact ⟨owner, inside, declared, ⟨member, marked⟩, rfl, rfl⟩

theorem map_snd_marks (types : List TypeDecl) :
    (marks types).map Prod.snd = (types.flatMap (·.fields)).filter (·.isVersion) := by
  rw [marks, List.map_flatMap, List.filter_flatMap]
  simp [Function.comp_def]

variable {name : String} {decl : TypeDecl} {role : Role}

theorem versionFieldName?_eq (keyed : catalog.WellKeyed)
    (described : catalog.get? name = some decl) :
    catalog.versionFieldName? decl =
      (only? (marks (hierarchy catalog name))).map (·.2.name) := by
  have reversed : (marks (hierarchy catalog name).reverse).Perm (marks (hierarchy catalog name)) :=
    (List.reverse_perm _).flatMap_right _
  rw [Catalog.versionFieldName?, fieldOwners_eq keyed described, ← map_snd_marks, only?_map,
    only?_perm reversed, Option.map_map]
  rfl

theorem field?_profileOf (keyed : catalog.WellKeyed) (described : catalog.get? name = some decl)
    (sought : String) :
    ((catalog.profileOf settings name decl role).field? sought).map unmarked =
      (nearest? (hierarchy catalog name) sought).map
        (seen catalog settings (catalog.accessors decl)) := by
  rw [unmarked_field?, ← List.reverse_reverse (hierarchy catalog name),
    ← fieldOwners_eq keyed described]
  apply field?_fieldsFrom
  simp only [Catalog.profileOf, unmarked_roleFields]
  exact unmarked_fieldsFrom _

theorem nearest?_of_declares {owner : TypeDecl} {declared : FieldDecl}
    (member : declared ∈ owner.fields) (further : List TypeDecl) :
    ∃ field, nearest? (owner :: further) declared.name = some (owner, field) := by
  have found : (owner.fields.find? (·.name == declared.name)).isSome = true :=
    List.find?_isSome.mpr ⟨declared, member, beq_self_eq_true _⟩
  obtain ⟨field, first⟩ := Option.isSome_iff_exists.mp found
  exact ⟨field, by rw [nearest?, List.findSome?_cons, first]; rfl⟩

/-- What is found under the name of a field comes from the type that declares the field when no
nearer type declares that name, and from a nearer one otherwise. -/
theorem nearest?_cases {nearer further : List TypeDecl} {owner : TypeDecl} {declared : FieldDecl}
    (member : declared ∈ owner.fields) {first : TypeDecl × FieldDecl}
    (found : nearest? (nearer ++ owner :: further) declared.name = some first) :
    (¬ Named nearer declared.name ∧ first.1 = owner) ∨
      (Named nearer declared.name ∧ first.1 ∈ nearer) := by
  rw [nearest?_append] at found
  cases before : nearest? nearer declared.name with
  | none =>
    obtain ⟨field, own⟩ := nearest?_of_declares member further
    rw [before, own] at found
    cases found
    exact .inl ⟨nearest?_eq_none_iff.mp before, rfl⟩
  | some other =>
    rw [before] at found
    cases found
    have named : Named nearer declared.name := by
      by_contra unnamed
      rw [nearest?_eq_none_iff.mpr unnamed] at before
      cases before
    obtain ⟨type, inside, fields⟩ := List.exists_of_findSome?_eq_some before
    obtain ⟨_, _, rfl⟩ := Option.map_eq_some_iff.mp fields
    exact .inr ⟨named, inside⟩

/-- The type that declares a field marks a field of its name as counting changes. -/
def Carries (catalog : Catalog) (field : Field) : Prop :=
  ∃ decl, catalog.get? field.declaredBy = some decl ∧
    ∃ declared ∈ decl.fields, declared.name = field.name ∧ declared.isVersion = true

theorem carries_iff_any {field : Field} :
    Carries catalog field ↔ ((catalog.get? field.declaredBy).any fun decl =>
      decl.fields.any fun other => other.name == field.name && other.isVersion) = true := by
  simp [Carries, Option.any_eq_true]

instance (catalog : Catalog) (field : Field) : Decidable (Carries catalog field) :=
  decidable_of_iff _ carries_iff_any.symm

/-- Where one field of a hierarchy is marked, what is found under its name has the mark unless a
nearer type redeclares the name. -/
theorem carries_iff (keyed : catalog.WellKeyed) {nearer further : List TypeDecl} {owner : TypeDecl}
    {declared : FieldDecl} (line : hierarchy catalog name = nearer ++ owner :: further)
    (single : marks (hierarchy catalog name) = [(owner, declared)]) {first : TypeDecl × FieldDecl}
    (found : nearest? (hierarchy catalog name) declared.name = some first) {field : Field}
    (owned : field.declaredBy = first.1.name) (named : field.name = declared.name) :
    Carries catalog field ↔ ¬ Named nearer field.name := by
  obtain ⟨member, inside, marked⟩ :=
    mem_marks_iff.mp (single ▸ List.mem_singleton_self (owner, declared))
  rw [line] at found
  rw [named]
  rcases nearest?_cases inside found with ⟨unnamed, own⟩ | ⟨redeclared, before⟩
  · have stored : catalog.get? field.declaredBy = some owner := by
      rw [owned, own]
      exact get?_of_mem_hierarchy keyed member
    exact ⟨fun _ => unnamed, fun _ => ⟨owner, stored, declared, inside, named.symm, marked⟩⟩
  · refine ⟨?_, fun unnamed => absurd redeclared unnamed⟩
    rintro ⟨decl, stored, other, also, _, again⟩
    have upper : first.1 ∈ hierarchy catalog name := line ▸ List.mem_append_left _ before
    rw [owned, get?_of_mem_hierarchy keyed upper] at stored
    obtain rfl := Option.some.inj stored
    have second : (first.1, other) ∈ marks (hierarchy catalog name) :=
      mem_marks_iff.mpr ⟨upper, also, again⟩
    rw [single, List.mem_singleton] at second
    -- The one mark is that of the owner, and the owner is no nearer than itself.
    have apart := (nodup_names_hierarchy keyed name).of_map
    rw [line, List.nodup_append] at apart
    exact absurd (congrArg Prod.fst second) (apart.2.2 first.1 before owner List.mem_cons_self)

/-- An entity has a version field when one field of its hierarchy is marked. The field that it shows
is the nearest of that name, which has the mark unless it stands in front of the marked field. -/
structure VersionShown (catalog : Catalog) (types : List TypeDecl) (profile : Profile) : Prop where
  present : profile.versionField?.isSome = true ↔ ∃ mark, marks types = [mark]
  shown : ∀ field, profile.versionField? = some field →
    ∃ nearer owner further declared, types = nearer ++ owner :: further ∧
      marks types = [(owner, declared)] ∧ field.name = declared.name ∧
      (Carries catalog field ↔ ¬ Named nearer field.name)

theorem versionField?_profileOf (keyed : catalog.WellKeyed)
    (described : catalog.get? name = some decl) (entity : role.isEntityLike = true) :
    (catalog.profileOf settings name decl role).versionField? =
      (only? (marks (hierarchy catalog name))).bind fun mark =>
        (catalog.profileOf settings name decl role).field? mark.2.name := by
  have kept : (catalog.entityTraits decl (catalog.fieldsOf settings decl)).versionField =
      (only? (marks (hierarchy catalog name))).map (·.2.name) :=
    versionFieldName?_eq keyed described
  rw [Profile.versionField?, entityTraits?_profileOf entity]
  simp only [bind, Option.bind_some, kept, Option.bind_map]
  rfl

theorem field?_of_mark (keyed : catalog.WellKeyed) (described : catalog.get? name = some decl)
    {mark : TypeDecl × FieldDecl} (marked : mark ∈ marks (hierarchy catalog name)) :
    ∃ field first, (catalog.profileOf settings name decl role).field? mark.2.name = some field ∧
      nearest? (hierarchy catalog name) mark.2.name = some first ∧
      field.declaredBy = first.1.name ∧ field.name = mark.2.name := by
  obtain ⟨member, inside, _⟩ := mem_marks_iff.mp marked
  have found : ((catalog.profileOf settings name decl role).field? mark.2.name).map unmarked = _ :=
    field?_profileOf keyed described mark.2.name
  cases nearest : nearest? (hierarchy catalog name) mark.2.name with
  | none => exact absurd ⟨mark.1, member, mark.2, inside, rfl⟩ (nearest?_eq_none_iff.mp nearest)
  | some first =>
    rw [nearest] at found
    obtain ⟨field, shown, same⟩ := Option.map_eq_some_iff.mp found
    refine ⟨field, first, shown, rfl, ?_, ?_⟩
    · exact congrArg Field.declaredBy same
    · exact (congrArg Field.name same).trans (name_of_nearest? nearest)

theorem versionShown_profileOf (keyed : catalog.WellKeyed)
    (described : catalog.get? name = some decl) (entity : role.isEntityLike = true) :
    VersionShown catalog (hierarchy catalog name)
      (catalog.profileOf settings name decl role) := by
  have looked : (catalog.profileOf settings name decl role).versionField? = _ :=
    versionField?_profileOf keyed described entity
  constructor
  · rw [looked]
    constructor
    · intro present
      obtain ⟨field, found⟩ := Option.isSome_iff_exists.mp present
      obtain ⟨mark, single, _⟩ := Option.bind_eq_some_iff.mp found
      exact ⟨mark, only?_eq_some_iff.mp single⟩
    · rintro ⟨mark, single⟩
      obtain ⟨field, _, shown, _⟩ :=
        field?_of_mark keyed described (single ▸ List.mem_singleton_self mark)
      rw [only?_eq_some_iff.mpr single, Option.bind_some, shown]
      rfl
  · intro field found
    rw [looked] at found
    obtain ⟨⟨owner, declared⟩, only, shown⟩ := Option.bind_eq_some_iff.mp found
    have single := only?_eq_some_iff.mp only
    have marked := single ▸ List.mem_singleton_self (owner, declared)
    obtain ⟨nearer, further, line⟩ := List.append_of_mem (mem_marks_iff.mp marked).1
    obtain ⟨same, first, again, nearest, owned, named⟩ := field?_of_mark keyed described marked
    obtain rfl := Option.some.inj (shown.symm.trans again)
    exact ⟨nearer, owner, further, declared, line, single, named,
      carries_iff keyed line single nearest owned named⟩

/-- The profile of an entity or aggregate root shows the version field that its hierarchy marks, or
the one that stands in front of it. -/
theorem version_shown (catalog : Catalog) (settings : Settings) (keyed : catalog.WellKeyed)
    (name : String) (role : Role) (classified : catalog.tagOf name = some role)
    (entity : role.isEntityLike = true) :
    ∃ profile, catalog.profile? settings name = .ok (some profile) ∧ profile.role = role ∧
      VersionShown catalog (hierarchy catalog name) profile := by
  obtain ⟨decl, described, made⟩ := exists_profile settings classified
  exact ⟨_, made, role_profileOf .., versionShown_profileOf keyed described entity⟩

def receipt : TypeDecl :=
  { name := "Receipt", roles := [.entity], superclass := some "Document"
    fields := [{ name := "total", type := .plain "long" }] }

def contract : TypeDecl :=
  { name := "Contract", roles := [.entity], superclass := some "Document"
    fields := [{ name := "revision", type := .plain "String" }] }

def documents : Catalog := .collect [
  { name := "Record", fields := [{ name := "revision", type := .plain "long" }] },
  { name := "Document", superclass := some "Record"
    fields := [{ name := "revision", type := .plain "long", isVersion := true }] },
  receipt, contract]

theorem version_shown_documents : documents.WellKeyed ∧
    documents.tagOf "Receipt" = some .entity ∧ Role.entity.isEntityLike = true ∧
    ∃ profile field, documents.profile? .default "Receipt" = .ok (some profile) ∧
      VersionShown documents (hierarchy documents "Receipt") profile ∧
      profile.versionField? = some field ∧ key field = ("Document", "revision") ∧
      Carries documents field := by
  have keyed : documents.WellKeyed := wellKeyed_collect _
  have classified : documents.tagOf "Receipt" = some .entity := by decide +kernel
  obtain ⟨profile, made, _, shows⟩ :=
    version_shown documents .default keyed "Receipt" .entity classified rfl
  have again : documents.profile? .default "Receipt" =
      .ok (some (documents.profileOf .default "Receipt" receipt .entity)) := by decide +kernel
  obtain rfl := Option.some.inj (Except.ok.inj (made.symm.trans again))
  have found : ((documents.profileOf .default "Receipt" receipt .entity).versionField?.any
      fun field => decide (key field = ("Document", "revision") ∧ Carries documents field)) =
        true := by decide +kernel
  obtain ⟨field, shown, holds⟩ := (Option.any_eq_true _ _).mp found
  exact ⟨keyed, classified, rfl, _, field, made, shows, shown, of_decide_eq_true holds⟩

/-- The revision of a contract is shown for that of its document, though nothing marks it. -/
theorem revision_of_contract_unmarked : documents.WellKeyed ∧ DistinctFields documents ∧
    documents.tagOf "Contract" = some .entity ∧
    ∃ profile field, documents.profile? .default "Contract" = .ok (some profile) ∧
      profile.versionField? = some field ∧ key field = ("Contract", "revision") ∧
      ¬ Carries documents field := by
  have made : documents.profile? .default "Contract" =
      .ok (some (documents.profileOf .default "Contract" contract .entity)) := by decide +kernel
  have found : ((documents.profileOf .default "Contract" contract .entity).versionField?.any
      fun field => decide (key field = ("Contract", "revision") ∧ ¬ Carries documents field)) =
        true := by decide +kernel
  obtain ⟨field, shown, holds⟩ := (Option.any_eq_true _ _).mp found
  exact ⟨wellKeyed_collect _, by decide +kernel, by decide +kernel, _, field, made, shown,
    of_decide_eq_true holds⟩

end DomainAtlas.Proofs.VersionFields
