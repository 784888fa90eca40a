import Mathlib.Data.List.Nodup
import DomainAtlas.Model.Objects
import DomainAtlas.Model.Services
import DomainAtlas.Proofs.Overriding

/-! A model that is built from a catalog agrees with itself. Whatever a field, a parameter or a
result says of its element type is what the model says of the profile with that name, so the names
that a service or an entity refers to are there and have the roles they were recorded with. -/

namespace DomainAtlas.Proofs.Coherence
open Profiling Overriding

variable {catalog : Catalog} {settings : Settings} {model : Model}

def methodUses (method : Method) : List TypeUse :=
  method.params.map Param.type ++ method.result.toList

def uses (profile : Profile) : List TypeUse :=
  profile.fields.map Field.type ++ profile.methods.flatMap methodUses

def Classified (catalog : Catalog) (use : TypeUse) : Prop := use.tag = catalog.tagOf use.typeName

theorem classified_useOf (catalog : Catalog) (names : ContainerNames) (type : TypeExpr)
    (assertions containerAssertions : List Assertion) :
    Classified catalog (catalog.useOf names type assertions containerAssertions) := rfl

theorem mem_fieldsFrom {accessors : List MethodDecl} {owners : List TypeDecl} {field : Field}
    (member : field ∈ catalog.fieldsFrom settings accessors owners) :
    ∃ owner ∈ owners, ∃ declared ∈ owner.fields, ∃ isHidden,
      field = catalog.fieldOf settings owner accessors isHidden declared := by
  induction owners with
  | nil => cases member
  | cons owner nearer ih =>
    rcases List.mem_append.mp member with own | other
    · obtain ⟨declared, inside, rfl⟩ := List.mem_map.mp own
      exact ⟨owner, List.mem_cons_self, declared, inside, _, rfl⟩
    · obtain ⟨later, inside, rest⟩ := ih other
      exact ⟨later, List.mem_cons_of_mem _ inside, rest⟩

/-- Marking the identity changes nothing else about a field. -/
theorem roleFields_eq_map (catalog : Catalog) (decl : TypeDecl) (fields : List Field)
    (role : Role) :
    ∃ mark : Field → Field, catalog.roleFields decl fields role = fields.map mark ∧
      ∀ field, (mark field).name = field.name ∧ (mark field).type = field.type ∧
        (mark field).isHidden = field.isHidden := by
  unfold Catalog.roleFields Catalog.markIdentity
  split
  · split
    · refine ⟨_, rfl, ?_⟩
      intro field
      split <;> exact ⟨rfl, rfl, rfl⟩
    · exact ⟨id, (List.map_id fields).symm, fun _ => ⟨rfl, rfl, rfl⟩⟩
  · exact ⟨id, (List.map_id fields).symm, fun _ => ⟨rfl, rfl, rfl⟩⟩

theorem classified_methodOf {owner : TypeDecl} {method : MethodDecl} {use : TypeUse}
    (member : use ∈ methodUses (catalog.methodOf settings owner method)) :
    Classified catalog use := by
  rcases List.mem_append.mp member with param | result
  · simp only [Catalog.methodOf, List.map_map, List.mem_map] at param
    obtain ⟨_, _, rfl⟩ := param
    exact classified_useOf ..
  · simp only [Catalog.methodOf, Option.mem_toList, Option.map_eq_some_iff] at result
    obtain ⟨_, _, rfl⟩ := result
    exact classified_useOf ..

theorem classified_profileOf {name : String} {decl : TypeDecl} {role : Role} {use : TypeUse}
    (member : use ∈ uses (catalog.profileOf settings name decl role)) : Classified catalog use := by
  rcases List.mem_append.mp member with ofField | ofMethod
  · obtain ⟨field, inside, rfl⟩ := List.mem_map.mp ofField
    obtain ⟨mark, marked, same⟩ :=
      roleFields_eq_map catalog decl (catalog.fieldsOf settings decl) role
    rw [Catalog.profileOf, marked] at inside
    obtain ⟨unmarked, listed, rfl⟩ := List.mem_map.mp inside
    obtain ⟨_, _, _, _, _, rfl⟩ := mem_fieldsFrom listed
    rw [(same _).2.1]
    exact classified_useOf ..
  · obtain ⟨method, inside, used⟩ := List.mem_flatMap.mp ofMethod
    obtain ⟨declared, listed, _, same⟩ := mem_methodsOf inside
    have unchanged : methodUses method = methodUses declared := by
      rw [same]
      rfl
    rw [unchanged] at used
    obtain ⟨owner, _, owned⟩ := List.mem_flatMap.mp listed
    obtain ⟨_, _, rfl⟩ := List.mem_map.mp owned
    exact classified_methodOf used

/-- In a built model a member says of its element type what the model has stored under its name:
the role of the profile, or that there is none. -/
theorem use_tag_eq (built : Built catalog settings model) {profile : Profile}
    (member : profile ∈ model.profiles) {use : TypeUse} (used : use ∈ uses profile) :
    use.tag = (model.get? use.typeName).map Profile.role := by
  obtain ⟨decl, role, _, _, same⟩ := built.exists_decl member
  rw [same] at used
  rw [built.role_eq]
  exact classified_profileOf used

theorem field_tag_eq (built : Built catalog settings model) {profile : Profile}
    (member : profile ∈ model.profiles) {field : Field} (inside : field ∈ profile.fields) :
    field.tag = (model.get? field.typeName).map Profile.role :=
  use_tag_eq built member (List.mem_append_left _ (List.mem_map_of_mem inside))

def heldTypes (profile : Profile) (role : Role) : List String :=
  distinct ((profile.fields.filter fun field => !field.isStatic && field.tag == some role).map
    Field.typeName)

theorem of_foldl_record {role : Role} (service : role.isService = true) (fields : List Field)
    (links : ServiceLinks) :
    (fields.foldl (fun links field => links.record field.tag field.typeName) links).of (some role) =
      links.of (some role) ++
        (distinct ((fields.filter (·.tag == some role)).map Field.typeName)).filter
          (· ∉ links.of (some role)) := by
  induction fields generalizing links with
  | nil => simp [distinct, firstsBy]
  | cons field fields ih =>
    rw [List.foldl_cons, ih, ServiceLinks.of_record links _ _ service, List.filter_cons]
    by_cases holds : field.tag = some role
    · simp only [holds, true_and, beq_self_eq_true, if_true, List.map_cons, distinct_cons,
        List.filter_cons, List.filter_filter]
      by_cases known : field.typeName ∈ links.of (some role)
      · simp only [known, not_true_eq_false, if_false, decide_false, Bool.false_eq_true]
        congr 1
        apply List.filter_congr
        intro name _
        by_cases same : name = field.typeName <;> simp [same, known]
      · simp only [known, not_false_eq_true, if_true, decide_true, List.append_assoc,
          List.singleton_append]
        congr 2
        apply List.filter_congr
        intro name _
        simp [Bool.and_comm, not_or]
    · simp [holds]

theorem of_linksOf {role : Role} (service : role.isService = true) (profile : Profile) :
    (Catalog.linksOf profile.fields).of (some role) = heldTypes profile role := by
  rw [Catalog.linksOf, of_foldl_record service, heldTypes, List.filter_filter]
  have none : ({} : ServiceLinks).of (some role) = [] := by cases role <;> rfl
  simp [none, Bool.and_comm]

theorem serviceLinks_kindOf {decl : TypeDecl} {fields : List Field} {role : Role}
    (service : role.isService = true) :
    (catalog.kindOf decl fields role).serviceLinks? = some (Catalog.linksOf fields) := by
  cases role <;> first | rfl | simp [Role.isService] at service

theorem links_profileOf {name : String} {decl : TypeDecl} {own role : Role}
    (isService : own.isService = true) (service : role.isService = true) :
    ((catalog.profileOf settings name decl own).kind.serviceLinks?.map (·.of (some role))).getD [] =
      heldTypes (catalog.profileOf settings name decl own) role := by
  have plain : own.isEntityLike = false := by
    cases own <;> first | rfl | simp [Role.isService] at isService
  rw [← of_linksOf service]
  simp only [Catalog.profileOf, serviceLinks_kindOf isService, Catalog.roleFields, plain,
    Bool.false_eq_true, if_false, Option.map_some, Option.getD_some]

theorem held_stored (built : Built catalog settings model) {profile : Profile}
    (member : profile ∈ model.profiles) {role : Role} {name : String}
    (held : name ∈ heldTypes profile role) :
    ∃ target, model.get? name = some target ∧ target.role = role := by
  rw [heldTypes, mem_distinct] at held
  obtain ⟨field, kept, rfl⟩ := List.mem_map.mp held
  obtain ⟨inside, holds⟩ := List.mem_filter.mp kept
  simp only [Bool.and_eq_true, beq_iff_eq] at holds
  have tag := field_tag_eq built member inside
  rw [holds.2] at tag
  exact Option.map_eq_some_iff.mp tag.symm

theorem linked_ok (built : Built catalog settings model) {profile : Profile}
    (member : profile ∈ model.profiles) (isService : profile.role.isService = true) {role : Role}
    (service : role.isService = true) :
    ∃ views, model.linked role profile = .ok views ∧
      views.map View.typeName = heldTypes profile role ∧
      ∀ view ∈ views, view.profile ∈ model.profiles := by
  have links : (profile.kind.serviceLinks?.map (·.of (some role))).getD [] =
      heldTypes profile role := by
    obtain ⟨decl, own, _, _, same⟩ := built.exists_decl member
    rw [same] at isService ⊢
    rw [role_profileOf] at isService
    exact links_profileOf isService service
  rw [Model.linked, links]
  exact Model.resolveAll_ok (fun _ held => held_stored built member held) profile.typeName

theorem identityField?_eq_some_iff {profile : Profile} {field : Field} :
    profile.identityField? = some field ↔
      ∃ traits name, profile.kind.entityTraits? = some traits ∧
        traits.identityField = some name ∧ profile.field? name = some field := by
  simp [Profile.identityField?, Option.bind_eq_some_iff]

theorem mem_of_field? {profile : Profile} {name : String} {field : Field}
    (found : profile.field? name = some field) : field ∈ profile.fields := by
  unfold Profile.field? at found
  cases inSight : profile.fields.find? fun field => field.name == name && !field.isHidden with
  | some visible =>
    rw [inSight] at found
    exact List.mem_of_find?_eq_some (inSight.trans found)
  | none =>
    rw [inSight] at found
    exact List.mem_of_find?_eq_some found

/-- The identity type is there when the field that is found by name holds an identity. -/
theorem isSome_identityType?_iff (built : Built catalog settings model) {profile : Profile}
    (member : profile ∈ model.profiles) {field : Field}
    (identified : profile.identityField? = some field) :
    (model.identityType? profile).isSome = true ↔ field.tag = some .identity := by
  obtain ⟨_, _, _, _, found⟩ := identityField?_eq_some_iff.mp identified
  rw [field_tag_eq built member (mem_of_field? found)]
  simp only [Model.identityType?, identified, bind, Option.bind_some]
  cases model.get? field.typeName with
  | none => simp
  | some target =>
    by_cases same : target.role = .identity
    · obtain ⟨view, viewed, _⟩ := Model.exists_view same
      simp [viewed, same]
    · simp [Profile.as?, same]

/-- Fields in sight have different names when no declaration repeats one. -/
theorem nodup_visible_names {accessors : List MethodDecl} {owners : List TypeDecl}
    (distinct : ∀ owner ∈ owners, (owner.fields.map (·.name)).Nodup) :
    (((catalog.fieldsFrom settings accessors owners).filter (!·.isHidden)).map
      Field.name).Nodup := by
  induction owners with
  | nil => simp [Catalog.fieldsFrom]
  | cons owner nearer ih =>
    rw [Catalog.fieldsFrom, List.filter_append, List.map_append, List.nodup_append]
    refine ⟨?_, ih fun other member => distinct other (List.mem_cons_of_mem _ member), ?_⟩
    · refine List.Nodup.sublist (List.filter_sublist.map Field.name) ?_
      simpa [Catalog.fieldOf, Function.comp_def] using distinct owner List.mem_cons_self
    · intro name own other later same
      obtain ⟨first, visible, rfl⟩ := List.mem_map.mp own
      obtain ⟨second, inside, rfl⟩ := List.mem_map.mp later
      obtain ⟨listed, inSight⟩ := List.mem_filter.mp visible
      obtain ⟨declared, _, rfl⟩ := List.mem_map.mp listed
      obtain ⟨type, typeMember, field, fieldMember, _, rfl⟩ :=
        mem_fieldsFrom (List.mem_filter.mp inside).1
      simp only [Catalog.fieldOf, Bool.not_eq_true', List.any_eq_false] at inSight
      apply inSight type typeMember
      exact List.any_eq_true.mpr ⟨field, fieldMember, beq_iff_eq.mpr same.symm⟩

def DistinctFields (catalog : Catalog) : Prop :=
  ∀ decl ∈ catalog.decls, (decl.fields.map (·.name)).Nodup

instance (catalog : Catalog) : Decidable (DistinctFields catalog) :=
  inferInstanceAs (Decidable (∀ decl ∈ catalog.decls, (decl.fields.map (·.name)).Nodup))

theorem mem_fieldOwners {name : String} {decl owner : TypeDecl}
    (described : catalog.get? name = some decl) (member : owner ∈ catalog.fieldOwners decl) :
    owner ∈ catalog.decls := by
  rcases List.mem_append.mp member with superclass | own
  · obtain ⟨upper, _, found⟩ := List.mem_filterMap.mp (List.mem_reverse.mp superclass)
    exact NameMap.mem_values_iff.mpr ⟨upper, found⟩
  · rw [List.mem_singleton.mp own]
    exact NameMap.mem_values_iff.mpr ⟨name, described⟩

theorem nodup_visible_profileOf (distinct : DistinctFields catalog) {name : String}
    {decl : TypeDecl} (described : catalog.get? name = some decl) (role : Role) :
    (((catalog.profileOf settings name decl role).fields.filter (!·.isHidden)).map
      Field.name).Nodup := by
  obtain ⟨mark, marked, same⟩ :=
    roleFields_eq_map catalog decl (catalog.fieldsOf settings decl) role
  rw [Catalog.profileOf, marked, List.filter_map, List.map_map]
  simp only [Function.comp_def, (same _).1, (same _).2.2]
  exact nodup_visible_names fun owner member => distinct owner (mem_fieldOwners described member)

/-- Where names in sight differ, a field in sight is found by its name. -/
theorem field?_eq_some {profile : Profile} {field : Field}
    (distinct : ((profile.fields.filter (!·.isHidden)).map Field.name).Nodup)
    (member : field ∈ profile.fields) (visible : field.isHidden = false) :
    profile.field? field.name = some field := by
  unfold Profile.field?
  cases found : profile.fields.find? fun other => other.name == field.name && !other.isHidden with
  | none =>
    have absent := List.find?_eq_none.mp found field member
    simp [visible] at absent
  | some other =>
    have holds := List.find?_some found
    simp only [Bool.and_eq_true, beq_iff_eq, Bool.not_eq_true'] at holds
    have first : other ∈ profile.fields.filter (!·.isHidden) :=
      List.mem_filter.mpr ⟨List.mem_of_find?_eq_some found, by simp [holds.2]⟩
    have second : field ∈ profile.fields.filter (!·.isHidden) :=
      List.mem_filter.mpr ⟨member, by simp [visible]⟩
    exact congrArg some (List.inj_on_of_nodup_map distinct first second holds.1)

theorem entityTraits?_kindOf {decl : TypeDecl} {fields : List Field} {role : Role}
    {traits : EntityTraits} (entity : (catalog.kindOf decl fields role).entityTraits? = some traits) :
    traits = catalog.entityTraits decl fields := by
  cases role <;> cases entity <;> rfl

/-- The identity that a profile names is one of its fields: the only candidate there is. -/
theorem identityField_entityTraits {decl : TypeDecl} {fields : List Field} {name : String}
    (named : (catalog.entityTraits decl fields).identityField = some name) :
    ∃ field ∈ fields, field.name = name ∧ field.isHidden = false ∧ field.tag = some .identity := by
  obtain ⟨field, only, rfl⟩ := Option.map_eq_some_iff.mp named
  have listed : field ∈ fields.filter
      (Catalog.isIdentityCandidate (catalog.inherited (·.identityType) decl)) := by
    rw [only?_eq_some_iff.mp only]
    exact List.mem_singleton.mpr rfl
  obtain ⟨member, candidate⟩ := List.mem_filter.mp listed
  simp only [Catalog.isIdentityCandidate, Bool.and_eq_true, Bool.not_eq_true', beq_iff_eq] at candidate
  exact ⟨field, member, rfl, candidate.1.1.1.2, candidate.1.1.2⟩

theorem tag_identityField (built : Built catalog settings model) (distinct : DistinctFields catalog)
    {profile : Profile} (member : profile ∈ model.profiles) {field : Field}
    (identified : profile.identityField? = some field) : field.tag = some .identity := by
  obtain ⟨decl, role, described, _, same⟩ := built.exists_decl member
  generalize profile.typeName = typeName at described same
  subst same
  obtain ⟨traits, name, entity, named, found⟩ := identityField?_eq_some_iff.mp identified
  obtain rfl := entityTraits?_kindOf entity
  obtain ⟨candidate, inside, rfl, visible, identity⟩ := identityField_entityTraits named
  obtain ⟨mark, marked, kept⟩ :=
    roleFields_eq_map catalog decl (catalog.fieldsOf settings decl) role
  have listed : mark candidate ∈ (catalog.profileOf settings typeName decl role).fields := by
    rw [Catalog.profileOf, marked]
    exact List.mem_map_of_mem inside
  have found' := field?_eq_some (nodup_visible_profileOf distinct described role) listed
    ((kept candidate).2.2.trans visible)
  rw [(kept candidate).1, found] at found'
  obtain rfl := Option.some.inj found'
  rw [Field.tag, (kept candidate).2.1]
  exact identity

/-- What the profiles of a model say of each other is so. An identity is looked for under the name
of its field, and a declaration that repeats the name can have put another field there. -/
structure Coherent (model : Model) : Prop where
  classified : ∀ profile ∈ model.profiles, ∀ use ∈ uses profile,
    use.tag = (model.get? use.typeName).map Profile.role
  linked : ∀ profile ∈ model.profiles, profile.role.isService = true →
    ∀ role : Role, role.isService = true →
      ∃ views, model.linked role profile = .ok views ∧
        views.map View.typeName = heldTypes profile role ∧
        ∀ view ∈ views, view.profile ∈ model.profiles
  identified : ∀ profile ∈ model.profiles, ∀ field, profile.identityField? = some field →
    ((model.identityType? profile).isSome = true ↔ field.tag = some .identity)

theorem coherent (built : Built catalog settings model) : Coherent model where
  classified := fun _ member _ used => use_tag_eq built member used
  linked := fun _ member isService _ service => linked_ok built member isService service
  identified := fun _ member _ identified => isSome_identityType?_iff built member identified

theorem isSome_identityType? (built : Built catalog settings model)
    (distinct : DistinctFields catalog) {profile : Profile} (member : profile ∈ model.profiles)
    (identified : profile.identityField?.isSome = true) :
    (model.identityType? profile).isSome = true := by
  obtain ⟨field, found⟩ := Option.isSome_iff_exists.mp identified
  exact (isSome_identityType?_iff built member found).mpr
    (tag_identityField built distinct member found)

/-- A catalog that stores its declarations under their own names makes a model of just its own
profiles, and they agree with each other. -/
theorem model_coherent (catalog : Catalog) (settings other : Settings) (packages : List String)
    (keyed : catalog.WellKeyed) :
    ∃ model, (Factory.ofCatalog catalog settings packages).model other = .ok model ∧
      Built catalog settings model ∧ Coherent model ∧
      (DistinctFields catalog → ∀ profile ∈ model.profiles,
        profile.identityField?.isSome = true → (model.identityType? profile).isSome = true) := by
  obtain ⟨model, made, built⟩ := model_ok keyed settings other packages
  refine ⟨model, made, built, coherent built, ?_⟩
  intro distinct profile member identified
  exact isSome_identityType? built distinct member identified

theorem exists_ok_of_any (made : Except Fault Model) (shows : Model → Bool)
    (found : made.toOption.any shows = true) : ∃ model, made = .ok model ∧ shows model = true := by
  cases made with
  | error fault => cases found
  | ok model => exact ⟨model, rfl, found⟩

def shop : Catalog := .collect [
  { name := "OrderId", roles := [.identity] },
  { name := "Order", roles := [.aggregateRoot]
    fields := [{ name := "id", type := .plain "OrderId", access := .anyone }] },
  { name := "Orders", roles := [.repository] },
  { name := "Checkout", roles := [.domainService]
    fields := [{ name := "orders", type := .plain "Orders" }] }]

theorem model_coherent_shop : shop.WellKeyed ∧ DistinctFields shop ∧
    ∃ model, (Factory.ofCatalog shop .default []).model .default = .ok model ∧ Coherent model ∧
      ∃ profile ∈ model.profiles,
        profile.identityField?.isSome = true ∧ (model.identityType? profile).isSome = true := by
  have keyed : shop.WellKeyed := wellKeyed_collect _
  have distinct : DistinctFields shop := by decide +kernel
  obtain ⟨model, made, _, agrees, typed⟩ := model_coherent shop .default .default [] keyed
  obtain ⟨same, again, shows⟩ := exists_ok_of_any
    ((Factory.ofCatalog shop .default []).model .default)
    (fun model => model.profiles.any (·.identityField?.isSome)) (by decide +kernel)
  obtain rfl := Except.ok.inj (made.symm.trans again)
  obtain ⟨profile, member, identified⟩ := List.any_eq_true.mp shows
  exact ⟨keyed, distinct, model, made, agrees, profile, member, identified,
    typed distinct profile member identified⟩

/-- An entity that declares a text and an identity under one name. -/
def twins : Catalog := .collect [
  { name := "Number", roles := [.identity] },
  { name := "Account", roles := [.entity]
    fields := [
      { name := "id", type := .plain "String" },
      { name := "id", type := .plain "Number", access := .anyone }] }]

/-- The text stands where the identity is looked for, so the identity of the account is lost. -/
theorem identity_of_twins_lost : twins.WellKeyed ∧
    ∃ model, (Factory.ofCatalog twins .default []).model .default = .ok model ∧
      ∃ profile ∈ model.profiles, profile.role = .entity ∧
        profile.identityField?.isSome = true ∧ model.identityType? profile = none := by
  obtain ⟨model, made, shows⟩ := exists_ok_of_any
    ((Factory.ofCatalog twins .default []).model .default)
    (fun model => model.profiles.any fun profile => decide (profile.role = .entity ∧
      profile.identityField?.isSome = true ∧ (model.identityType? profile).isNone = true))
    (by decide +kernel)
  obtain ⟨profile, member, holds⟩ := List.any_eq_true.mp shows
  obtain ⟨entity, identified, lost⟩ := of_decide_eq_true holds
  exact ⟨wellKeyed_collect _, model, made, profile, member, entity, identified,
    Option.isNone_iff_eq_none.mp lost⟩

end DomainAtlas.Proofs.Coherence
