import Mathlib.Data.List.Nodup
import DomainAtlas.Proofs.FieldShadowing

/-! The identity of an entity is chosen among its fields, kept by its name and found again by that
name. Fields in sight have different names when no declaration repeats one, so what is found is what
was chosen, and it alone is left out when the fields are sorted by what they hold. -/

namespace DomainAtlas.Proofs.IdentityFields
open Profiling Coherence FieldShadowing

variable {catalog : Catalog} {settings : Settings}

/-- The identity type that a line of types asks for: the nearest of them to name one decides. -/
def Declares (types : List TypeDecl) (identity : String) : Prop :=
  ∃ nearer type further, types = nearer ++ type :: further ∧ type.identityType = some identity ∧
    ∀ other ∈ nearer, other.identityType = none

theorem declares_iff {types : List TypeDecl} {identity : String} :
    Declares types identity ↔ types.findSome? (·.identityType) = some identity :=
  List.findSome?_eq_some_iff.symm

/-- A field that may identify the objects of a line of types. -/
structure Candidate (types : List TypeDecl) (field : Field) : Prop where
  ofInstance : field.isStatic = false
  readable : field.publicReadable = true
  visible : field.isHidden = false
  identity : field.tag = some .identity
  single : field.type.container.isMultiValued = false
  declared : ∀ identity, Declares types identity → field.typeName = identity

theorem candidate_iff {types : List TypeDecl} {field : Field} :
    Candidate types field ↔
      Catalog.isIdentityCandidate (types.findSome? (·.identityType)) field = true := by
  have asked : (∀ identity, Declares types identity → field.typeName = identity) ↔
      (types.findSome? (·.identityType)).all (· == field.typeName) = true := by
    simp only [declares_iff]
    cases types.findSome? (·.identityType) with
    | none => simp
    | some identity =>
      rw [Option.all_some, beq_iff_eq]
      exact ⟨fun holds => (holds identity rfl).symm, by rintro rfl _ ⟨⟩; rfl⟩
  simp only [Catalog.isIdentityCandidate, Field.isExposed, Bool.and_eq_true, Bool.not_eq_true',
    beq_iff_eq, ← asked]
  constructor
  · rintro ⟨ofInstance, readable, visible, identity, single, declared⟩
    exact ⟨⟨⟨⟨⟨readable, ofInstance⟩, visible⟩, identity⟩, single⟩, declared⟩
  · rintro ⟨⟨⟨⟨⟨readable, ofInstance⟩, visible⟩, identity⟩, single⟩, declared⟩
    exact ⟨ofInstance, readable, visible, identity, single, declared⟩

instance (types : List TypeDecl) (field : Field) : Decidable (Candidate types field) :=
  decidable_of_iff _ candidate_iff.symm

theorem inherited_eq (keyed : catalog.WellKeyed) {name : String} {decl : TypeDecl}
    (described : catalog.get? name = some decl) (select : TypeDecl → Option String) :
    catalog.inherited select decl = (hierarchy catalog name).findSome? select := by
  have named : name = decl.name := wellKeyed_iff.mp keyed name decl described
  rw [hierarchy, List.filterMap_cons_some described, named]
  rfl

structure SoleCandidate (types : List TypeDecl) (fields : List Field) (field : Field) : Prop where
  member : field ∈ fields
  candidate : Candidate types field
  sole : ∀ other ∈ fields, Candidate types other → other = field

theorem soleCandidate_iff {types : List TypeDecl} {fields : List Field} {field : Field} :
    SoleCandidate types fields field ↔ field ∈ fields ∧ Candidate types field ∧
      ∀ other ∈ fields, Candidate types other → other = field :=
  ⟨fun ⟨member, candidate, sole⟩ => ⟨member, candidate, sole⟩,
    fun ⟨member, candidate, sole⟩ => ⟨member, candidate, sole⟩⟩

instance (types : List TypeDecl) (fields : List Field) (field : Field) :
    Decidable (SoleCandidate types fields field) := decidable_of_iff _ soleCandidate_iff.symm

def chosen? (declared : Option String) (fields : List Field) : Option Field :=
  only? (fields.filter (Catalog.isIdentityCandidate declared))

theorem mem_of_chosen? {declared : Option String} {fields : List Field} {field : Field}
    (chosen : chosen? declared fields = some field) :
    field ∈ fields ∧ Catalog.isIdentityCandidate declared field = true := by
  rw [← List.mem_filter, only?_eq_some_iff.mp chosen, List.mem_singleton]

theorem chosen?_eq_some_iff {types : List TypeDecl} {fields : List Field} (distinct : fields.Nodup)
    {field : Field} :
    chosen? (types.findSome? (·.identityType)) fields = some field ↔
      SoleCandidate types fields field := by
  rw [chosen?, only?_eq_some_iff]
  constructor
  · intro single
    have listed (other : Field) : other ∈ fields ∧ Candidate types other ↔ other = field := by
      rw [candidate_iff, ← List.mem_filter, single, List.mem_singleton]
    obtain ⟨member, candidate⟩ := (listed field).mpr rfl
    exact ⟨member, candidate, fun other inside also => (listed other).mp ⟨inside, also⟩⟩
  · rintro ⟨member, candidate, sole⟩
    -- A list that repeats nothing and has one member is the list of that member.
    apply List.perm_singleton.mp
    apply (List.perm_ext_iff_of_nodup (distinct.filter _) (List.nodup_singleton field)).mpr
    intro other
    rw [List.mem_filter, List.mem_singleton, ← candidate_iff]
    constructor
    · exact fun ⟨inside, also⟩ => sole other inside also
    · rintro rfl
      exact ⟨member, candidate⟩

def marked (declared : Option String) (field : Field) : Field :=
  if Catalog.isIdentityCandidate declared field then { field with isIdentity := true } else field

theorem name_marked (declared : Option String) (field : Field) :
    (marked declared field).name = field.name := by
  unfold marked
  split <;> rfl

theorem candidate_marked (declared : Option String) (field : Field) :
    Catalog.isIdentityCandidate declared (marked declared field) =
      Catalog.isIdentityCandidate declared field := by
  unfold marked
  split <;> rfl

theorem isIdentity_marked {declared : Option String} {field : Field}
    (unmarked : field.isIdentity = false) :
    (marked declared field).isIdentity = Catalog.isIdentityCandidate declared field := by
  unfold marked
  split
  next candidate => exact candidate.symm
  next other => rw [unmarked, Bool.eq_false_iff.mpr other]

theorem chosen?_map_marked (declared : Option String) (fields : List Field) :
    chosen? declared (fields.map (marked declared)) =
      (chosen? declared fields).map (marked declared) := by
  have same : Catalog.isIdentityCandidate declared ∘ marked declared =
      Catalog.isIdentityCandidate declared := funext (candidate_marked declared)
  rw [chosen?, List.filter_map, same, only?_map, chosen?]

theorem markIdentity_eq (declared : Option String) (fields : List Field) :
    Catalog.markIdentity declared fields =
      if (chosen? declared fields).isSome then fields.map (marked declared) else fields := by
  unfold Catalog.markIdentity
  rw [← chosen?]
  cases chosen? declared fields <;> rfl

theorem chosen?_markIdentity (declared : Option String) (fields : List Field) :
    chosen? declared (Catalog.markIdentity declared fields) =
      (chosen? declared fields).map (marked declared) := by
  rw [markIdentity_eq]
  cases chosen : chosen? declared fields with
  | none => exact chosen
  | some one => rw [Option.isSome_some, if_pos rfl, chosen?_map_marked, chosen]

theorem isIdentity_markIdentity {declared : Option String} {fields : List Field}
    (unmarked : ∀ field ∈ fields, field.isIdentity = false) {field : Field}
    (member : field ∈ Catalog.markIdentity declared fields) :
    field.isIdentity = true ↔
      chosen? declared (Catalog.markIdentity declared fields) = some field := by
  rw [chosen?_markIdentity]
  rw [markIdentity_eq] at member
  cases chosen : chosen? declared fields with
  | none =>
    rw [chosen] at member
    simp [unmarked field member]
  | some one =>
    rw [chosen] at member
    obtain ⟨origin, inside, rfl⟩ := List.mem_map.mp member
    rw [isIdentity_marked (unmarked origin inside), Option.map_some, Option.some_inj]
    constructor
    · -- A candidate was one before it was marked, and then there was no other.
      intro candidate
      have listed := List.mem_filter.mpr ⟨inside, candidate⟩
      rw [only?_eq_some_iff.mp chosen, List.mem_singleton] at listed
      rw [listed]
    · intro same
      rw [← candidate_marked, ← same, candidate_marked]
      exact (mem_of_chosen? chosen).2

variable {name : String} {decl : TypeDecl} {role : Role}

def key (field : Field) : String × String := (field.declaredBy, field.name)

theorem nodup_keys_fieldsOf (keyed : catalog.WellKeyed) (distinct : DistinctFields catalog)
    (described : catalog.get? name = some decl) (settings : Settings) :
    ((catalog.fieldsOf settings decl).map key).Nodup := by
  have names := nodup_names_hierarchy keyed name
  have attributed : (catalog.fieldsOf settings decl).map key =
      (hierarchy catalog name).reverse.flatMap fun owner =>
        owner.fields.map fun declared => (owner.name, declared.name) := by
    rw [Catalog.fieldsOf, fieldOwners_eq keyed described]
    exact (layered_fieldsFrom names).attributed
  rw [attributed, List.nodup_flatMap]
  constructor
  · intro owner member
    rw [← fieldOwners_eq keyed described] at member
    apply List.Nodup.of_map Prod.snd
    simpa [Function.comp_def] using distinct owner (mem_fieldOwners described member)
  · rw [← List.nodup_reverse, ← List.map_reverse] at names
    refine (List.pairwise_map.mp names).imp ?_
    intro owner other different first left right
    obtain ⟨_, _, rfl⟩ := List.mem_map.mp left
    obtain ⟨_, _, same⟩ := List.mem_map.mp right
    exact different (congrArg Prod.fst same).symm

theorem nodup_keys_profileOf (keyed : catalog.WellKeyed) (distinct : DistinctFields catalog)
    (described : catalog.get? name = some decl) (settings : Settings) (role : Role) :
    ((catalog.profileOf settings name decl role).fields.map key).Nodup := by
  have same : (catalog.profileOf settings name decl role).fields.map unmarked =
      (catalog.fieldsOf settings decl).map unmarked := unmarked_roleFields ..
  have keys := congrArg (List.map key) same
  rw [List.map_map, List.map_map] at keys
  exact keys ▸ nodup_keys_fieldsOf keyed distinct described settings

theorem entityTraits?_profileOf (entity : role.isEntityLike = true) :
    (catalog.profileOf settings name decl role).kind.entityTraits? =
      some (catalog.entityTraits decl (catalog.fieldsOf settings decl)) := by
  have present : (catalog.profileOf settings name decl role).kind.entityTraits?.isSome = true := by
    rw [Kind.isSome_entityTraits?]
    exact (congrArg Role.isEntityLike (role_profileOf ..)).trans entity
  obtain ⟨traits, found⟩ := Option.isSome_iff_exists.mp present
  rw [found, entityTraits?_kindOf found]

theorem fields_profileOf (entity : role.isEntityLike = true) :
    (catalog.profileOf settings name decl role).fields =
      Catalog.markIdentity (catalog.inherited (·.identityType) decl)
        (catalog.fieldsOf settings decl) := by
  rw [Catalog.profileOf, Catalog.roleFields, if_pos entity]

/-- What is looked for under the name of the choice is the field that was chosen. -/
theorem identityField?_eq {profile : Profile} {traits : EntityTraits} {declared : Option String}
    (entity : profile.kind.entityTraits? = some traits)
    (kept : traits.identityField = (chosen? declared profile.fields).map (·.name))
    (apart : ((profile.fields.filter (!·.isHidden)).map Field.name).Nodup) :
    profile.identityField? = chosen? declared profile.fields := by
  rw [Profile.identityField?, entity]
  simp only [bind, Option.bind_some, kept]
  cases chosen : chosen? declared profile.fields with
  | none => rfl
  | some field =>
    obtain ⟨member, candidate⟩ := mem_of_chosen? chosen
    have visible : field.isHidden = false := by
      simp only [Catalog.isIdentityCandidate, Bool.and_eq_true, Bool.not_eq_true'] at candidate
      exact candidate.1.1.1.2
    exact field?_eq_some apart member visible

theorem identityField?_profileOf (distinct : DistinctFields catalog)
    (described : catalog.get? name = some decl) (entity : role.isEntityLike = true) :
    (catalog.profileOf settings name decl role).identityField? =
      chosen? (catalog.inherited (·.identityType) decl)
        (catalog.profileOf settings name decl role).fields := by
  apply identityField?_eq (entityTraits?_profileOf entity) _
    (nodup_visible_profileOf distinct described role)
  rw [fields_profileOf entity, chosen?_markIdentity, Option.map_map]
  exact congrArg (Option.map · _) (funext fun field => (name_marked _ field).symm)

theorem isIdentity_iff {profile : Profile} {identity : Option Field}
    (found : profile.identityField? = identity) (keys : (profile.fields.map key).Nodup)
    (listed : ∀ field, identity = some field → field ∈ profile.fields) {field : Field}
    (member : field ∈ profile.fields) :
    profile.isIdentity field = true ↔ identity = some field := by
  rw [Profile.isIdentity, found]
  cases identity with
  | none => simp
  | some one =>
    simp only [Option.any_some, Bool.and_eq_true, beq_iff_eq, Option.some_inj]
    constructor
    · rintro ⟨sameName, sameOwner⟩
      exact List.inj_on_of_nodup_map keys (listed one rfl) member (Prod.ext sameOwner sameName)
    · rintro rfl
      exact ⟨rfl, rfl⟩

theorem count_filter_eq (keep : Field → Bool) (field : Field) (fields : List Field) :
    (fields.filter keep).count field = if keep field then fields.count field else 0 := by
  split
  next kept => exact List.count_filter kept
  next dropped =>
    apply List.count_eq_zero.mpr
    exact fun member => dropped (List.mem_filter.mp member).2

theorem sorts_perm (fields : List Field) :
    (fields.filter (·.holding == .basic) ++ fields.filter (·.holding == .value) ++
      fields.filter (·.holding == .entity) ++
      fields.filter (·.holding == .aggregateRoot)).Perm fields := by
  apply List.perm_iff_count.mpr
  intro field
  simp only [List.count_append, count_filter_eq]
  cases field.holding <;> simp

theorem holding_eq {profile : Profile} {identity : Option Field}
    (identifies : ∀ field ∈ profile.fields,
      profile.isIdentity field = true ↔ identity = some field) (sort : Holding) :
    profile.holding sort =
      (profile.fields.filter (identity ≠ some ·)).filter (·.holding == sort) := by
  rw [Profile.holding, List.filter_filter]
  apply List.filter_congr
  intro field member
  have leftOut : (!profile.isIdentity field) = decide (identity ≠ some field) := by
    rw [Bool.eq_iff_iff, Bool.not_eq_true', ← Bool.not_eq_true, identifies field member,
      decide_eq_true_iff]
  rw [leftOut, Bool.and_comm]

/-- A profile has a field for its identity, or none: it finds that field, marks it and no other, and
sorts all the others by what they hold. -/
structure Selected (profile : Profile) (identity : Option Field) : Prop where
  found : profile.identityField? = identity
  flagged : ∀ field ∈ profile.fields, field.isIdentity = true ↔ identity = some field
  distinct : profile.fields.Nodup
  ordered : ∀ sort, (profile.holding sort).Sublist profile.fields
  divided : (profile.holding .basic ++ profile.holding .value ++ profile.holding .entity ++
    profile.holding .aggregateRoot).Perm (profile.fields.filter (identity ≠ some ·))

theorem selected {profile : Profile} {identity : Option Field}
    (found : profile.identityField? = identity) (keys : (profile.fields.map key).Nodup)
    (listed : ∀ field, identity = some field → field ∈ profile.fields)
    (flagged : ∀ field ∈ profile.fields, field.isIdentity = true ↔ identity = some field) :
    Selected profile identity where
  found := found
  flagged := flagged
  distinct := keys.of_map key
  ordered := fun _ => List.filter_sublist
  divided := by
    have sorted := holding_eq fun field member => isIdentity_iff found keys listed member
    simp only [sorted]
    exact sorts_perm _

theorem selected_profileOf (keyed : catalog.WellKeyed) (distinct : DistinctFields catalog)
    (described : catalog.get? name = some decl) (entity : role.isEntityLike = true) :
    Selected (catalog.profileOf settings name decl role)
      (chosen? ((hierarchy catalog name).findSome? (·.identityType))
        (catalog.profileOf settings name decl role).fields) := by
  rw [← inherited_eq keyed described]
  apply selected (identityField?_profileOf distinct described entity)
    (nodup_keys_profileOf keyed distinct described settings role)
  · exact fun field chosen => (mem_of_chosen? chosen).1
  · rw [fields_profileOf entity]
    intro field member
    apply isIdentity_markIdentity _ member
    intro declared inside
    obtain ⟨_, _, _, _, _, rfl⟩ := mem_fieldsFrom inside
    rfl

/-- The profile of an entity or aggregate root has its one candidate as its identity, and none when
there is no candidate or more than one. -/
theorem identity_selected (catalog : Catalog) (settings : Settings) (keyed : catalog.WellKeyed)
    (distinct : DistinctFields catalog) (name : String) (role : Role)
    (classified : catalog.tagOf name = some role) (entity : role.isEntityLike = true) :
    ∃ profile, catalog.profile? settings name = .ok (some profile) ∧ profile.role = role ∧
      (∀ field, SoleCandidate (hierarchy catalog name) profile.fields field →
        Selected profile (some field)) ∧
      ((∀ field, ¬ SoleCandidate (hierarchy catalog name) profile.fields field) →
        Selected profile none) := by
  obtain ⟨decl, described, made⟩ := exists_profile settings classified
  have selected : Selected (catalog.profileOf settings name decl role) _ :=
    selected_profileOf keyed distinct described entity
  generalize chosen : chosen? _ _ = identity at selected
  refine ⟨_, made, role_profileOf .., ?_, ?_⟩
  · intro field sole
    rw [(chosen?_eq_some_iff selected.distinct).mpr sole] at chosen
    exact chosen ▸ selected
  · intro missing
    cases identity with
    | none => exact selected
    | some field =>
      exact absurd ((chosen?_eq_some_iff selected.distinct).mp chosen) (missing field)

def person : TypeDecl :=
  { name := "Person", roles := [.entity], superclass := some "Party"
    fields := [
      { name := "number", type := .plain "PartyNumber" },
      { name := "home", type := .plain "Address" }]
    methods := [{ name := "getNumber", result := some (.plain "PartyNumber") }] }

/-- A person hides the number of a party behind its own. Of what else anyone can read, the number
for taxes is not what a party is identified by, and the numbers of the members are many. -/
def people : Catalog := .collect [
  { name := "PartyNumber", roles := [.identity] },
  { name := "TaxNumber", roles := [.identity] },
  { name := "Address", roles := [.valueObject] },
  { name := "Party", identityType := some "PartyNumber"
    fields := [
      { name := "number", type := .plain "PartyNumber", access := .anyone },
      { name := "taxNumber", type := .plain "TaxNumber", access := .anyone },
      { name := "members", type := .list (.plain "PartyNumber"), access := .anyone }] },
  person]

theorem identity_selected_people : people.WellKeyed ∧ DistinctFields people ∧
    people.tagOf "Person" = some .entity ∧ Role.entity.isEntityLike = true ∧
    ∃ profile field, people.profile? .default "Person" = .ok (some profile) ∧
      key field = ("Person", "number") ∧
      SoleCandidate (hierarchy people "Person") profile.fields field ∧
      Selected profile (some field) ∧
      (profile.holding .value).map key = [("Party", "number"), ("Party", "taxNumber"),
        ("Party", "members"), ("Person", "home")] := by
  have keyed : people.WellKeyed := wellKeyed_collect _
  have distinct : DistinctFields people := by decide +kernel
  have classified : people.tagOf "Person" = some .entity := by decide +kernel
  obtain ⟨profile, made, _, selects, _⟩ :=
    identity_selected people .default keyed distinct "Person" .entity classified rfl
  have again : people.profile? .default "Person" =
      .ok (some (people.profileOf .default "Person" person .entity)) := by decide +kernel
  obtain rfl := Option.some.inj (Except.ok.inj (made.symm.trans again))
  have found : ∃ field ∈ (people.profileOf .default "Person" person .entity).fields,
      key field = ("Person", "number") ∧ SoleCandidate (hierarchy people "Person")
        (people.profileOf .default "Person" person .entity).fields field := by decide +kernel
  obtain ⟨field, _, named, sole⟩ := found
  exact ⟨keyed, distinct, classified, rfl, _, field, made, named, sole, selects field sole,
    by decide +kernel⟩

end DomainAtlas.Proofs.IdentityFields
