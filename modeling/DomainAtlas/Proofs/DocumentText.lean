import DomainAtlas.Document
import DomainAtlas.Proofs.Assembly
import DomainAtlas.Proofs.CatalogText

/-! Documents are read back. What a writer leaves out is what a reader takes for a default, at every
level of a document, so a model that is written down and assembled again is the same model. -/

namespace DomainAtlas.Proofs.DocumentText
open Json JsonText JsonMembers CatalogText

private theorem itemsToJson_eq (types : List ResolvedType) :
    ResolvedType.itemsToJson types = types.map ResolvedType.toJson := by
  induction types with
  | nil => rfl
  | cons type types ih => rw [ResolvedType.itemsToJson, List.map_cons, ih]

private theorem argumentsToJson_eq (types : List ResolvedType) :
    ResolvedType.argumentsToJson types = unlessEmpty "genericTypes" ResolvedType.toJson types := by
  cases types with
  | nil => rfl
  | cons type types => simp [ResolvedType.argumentsToJson, unlessEmpty, itemsToJson_eq]

mutual
theorem resolvedType_readWithin : (type : ResolvedType) → {level : Nat} →
    type.toJson.depth ≤ level → ResolvedType.ofJsonWithin? level type.toJson = some type
  | ⟨name, arguments, wildcard, isArray⟩, 0, fits => by
    rw [ResolvedType.toJson, depth] at fits
    omega
  | ⟨name, arguments, wildcard, isArray⟩, level + 1, fits => by
    rw [ResolvedType.toJson, argumentsToJson_eq] at fits ⊢
    have shallow : ∀ argument ∈ arguments, argument.toJson.depth ≤ level := by
      intro argument member
      have held : ("genericTypes", Json.arr (arguments.map ResolvedType.toJson)) ∈
          unlessEmpty "genericTypes" ResolvedType.toJson arguments := mem_unlessEmpty member
      exact depth_le_of_listed member
        (List.mem_append_left _ (List.mem_append_left _ (List.mem_cons_of_mem _ held))) fits
    have read := resolvedTypes_readWithin arguments shallow
    have bound : readNullable ResolvedType.wildcardOfJson?
        (wildcard.map fun direction => .obj [("boundType", direction.toJson)]) = some wildcard :=
      readNullable_map rfl fun direction _ => by simp [ResolvedType.wildcardOfJson?]
    simp [ResolvedType.ofJsonWithin?, bound, readOrElse_listed read]

theorem resolvedTypes_readWithin : (types : List ResolvedType) → {level : Nat} →
    (∀ type ∈ types, type.toJson.depth ≤ level) →
    ∀ type ∈ types, ResolvedType.ofJsonWithin? level type.toJson = some type
  | [], _, _ => nofun
  | type :: types, level, fits => by
    obtain ⟨first, rest⟩ := List.forall_mem_cons.mp fits
    exact List.forall_mem_cons.mpr
      ⟨resolvedType_readWithin type first, resolvedTypes_readWithin types rest⟩
end

@[simp] theorem resolvedType_read (type : ResolvedType) :
    ResolvedType.ofJson? type.toJson = some type := resolvedType_readWithin type (Nat.le_refl _)

mutual
@[simp] theorem resolvedType_plain : (type : ResolvedType) → Plain type.toJson
  | ⟨name, arguments, wildcard, isArray⟩ => by
    have plain := resolvedTypes_plain arguments
    simp [ResolvedType.toJson, argumentsToJson_eq, Direction.toJson, plainMembers_unlessEmpty plain]

theorem resolvedTypes_plain : (types : List ResolvedType) → ∀ type ∈ types, Plain type.toJson
  | [] => nofun
  | type :: types =>
    List.forall_mem_cons.mpr ⟨resolvedType_plain type, resolvedTypes_plain types⟩
end

@[simp] theorem typeUse_read (use : TypeUse) : TypeUse.ofJson? use.toJson = some use := by
  simp [TypeUse.ofJson?, TypeUse.toJson]

@[simp] theorem typeUse_plain (use : TypeUse) : Plain use.toJson := by
  simp [TypeUse.toJson, Tag.toJson, Container.toJson]

@[simp] theorem field_read (field : Field) : Field.ofJson? field.toJson = some field := by
  simp [Field.ofJson?, Field.toJson]

@[simp] theorem field_plain (field : Field) : Plain field.toJson := by
  simp [Field.toJson, Access.toJson]

@[simp] theorem param_read (param : Param) : Param.ofJson? param.toJson = some param := by
  simp [Param.ofJson?, Param.toJson]

@[simp] theorem param_plain (param : Param) : Plain param.toJson := by
  simp [Param.toJson]

@[simp] theorem method_read (method : Method) : Method.ofJson? method.toJson = some method := by
  have result : readNullable TypeUse.ofJson? (method.result.map TypeUse.toJson) =
      some method.result := readNullable_map rfl fun use _ => typeUse_read use
  simp [Method.ofJson?, Method.toJson, result]

@[simp] theorem method_plain (method : Method) : Plain method.toJson := by
  simp [Method.toJson, Access.toJson]

def kindKeys : List String :=
  ["identityFieldName", "concurrencyVersionFieldName", "identityTypeName", "enumValues",
    "aggregateTargetIdentityTypeName", "domainServiceTargetTypeName",
    "referencedRepositoryTypeNames", "referencedDomainServiceTypeNames",
    "referencedOutboundServiceTypeNames", "referencedQueryHandlerTypeNames",
    "referencedApplicationServiceTypeNames", "referencedServiceKindTypeNames",
    "managedAggregateTypeName", "providedReadModelTypeName", "references"]

@[simp] theorem links_read (links : ServiceLinks) :
    ServiceLinks.ofJson? links.toJson = some links := by
  simp [ServiceLinks.ofJson?, ServiceLinks.toJson, ServiceLinks.members, ServiceLinks.ofMembers?]

@[simp] theorem links_plain (links : ServiceLinks) : PlainMembers links.members := by
  simp [ServiceLinks.members]

theorem kind_plain (kind : Kind) : PlainMembers kind.members := by
  cases kind <;>
    simp [Kind.members, EntityTraits.members, CommandTraits.members, RepositoryTraits.members,
      QueryHandlerTraits.members, ServiceLinks.toJson]

/-- The members of a kind say which kind it is, together with the role. -/
theorem kind_read (kind : Kind) : Kind.ofMembers? kind.members kind.role = some kind := by
  cases kind <;>
    simp [Kind.members, Kind.role, Kind.ofMembers?, EntityTraits.members, EntityTraits.ofMembers?,
      CommandTraits.members, CommandTraits.ofMembers?, ServiceLinks.members,
      ServiceLinks.ofMembers?, RepositoryTraits.members, RepositoryTraits.ofMembers?,
      QueryHandlerTraits.members, QueryHandlerTraits.ofMembers?]

theorem find?_kind_members (kind : Kind) {key : String} (foreign : key ∉ kindKeys) :
    find? kind.members key = some none := by
  have different : ∀ own ∈ kindKeys, own ≠ key := by
    rintro own member rfl
    exact foreign member
  simp only [kindKeys, List.forall_mem_cons] at different
  cases kind <;>
    simp [Kind.members, EntityTraits.members, CommandTraits.members, ServiceLinks.members,
      RepositoryTraits.members, QueryHandlerTraits.members, different]

theorem kind_ofMembers?_congr {members others : List (String × Json)}
    (same : ∀ key ∈ kindKeys, find? members key = find? others key) (role : Role) :
    Kind.ofMembers? members role = Kind.ofMembers? others role := by
  simp only [kindKeys, List.forall_mem_cons] at same
  cases role <;>
    simp [Kind.ofMembers?, EntityTraits.ofMembers?, CommandTraits.ofMembers?,
      ServiceLinks.ofMembers?, RepositoryTraits.ofMembers?, QueryHandlerTraits.ofMembers?, same]

/-- The members that every profile has stand apart from those of its kind. -/
theorem kind_readAfter {shared : List (String × Json)}
    (apart : ∀ key ∈ kindKeys, find? shared key = some none) (kind : Kind) :
    Kind.ofMembers? (shared ++ kind.members) kind.role = some kind := by
  rw [← kind_read kind]
  apply kind_ofMembers?_congr
  intro key own
  simp [apart key own]

def sharedMembers (profile : Profile) : List (String × Json) :=
  [("typeName", .str profile.typeName), ("isAbstract", .bool profile.isAbstract),
    ("allFields", .arr (profile.fields.map Field.toJson)),
    ("methods", .arr (profile.methods.map Method.toJson)),
    ("inheritanceHierarchyTypeNames", .ofStrings profile.superclasses),
    ("allInterfaceTypeNames", .ofStrings profile.interfaces),
    ("mirrorType", .str profile.role.profileName)]

theorem toJson_profile (profile : Profile) :
    profile.toJson = .obj (sharedMembers profile ++ profile.kind.members) := rfl

@[simp] theorem profile_plain (profile : Profile) : Plain profile.toJson := by
  simp [toJson_profile, sharedMembers, kind_plain]

@[simp] theorem profile_read (profile : Profile) :
    Profile.ofJson? profile.toJson = some profile := by
  have usable : (sharedMembers profile ++ profile.kind.members).all (fun member =>
      Profile.sharedKeys.contains member.1 || member.2.isWhole) = true := by
    apply List.all_eq_true.mpr
    intro member inside
    have plain := plain_obj_iff.mp (profile_plain profile) member inside
    simp [isWhole_of_plain plain]
  have apart : ∀ key ∈ kindKeys, find? (sharedMembers profile) key = some none := by
    simp [kindKeys, sharedMembers]
  have kind := kind_readAfter apart profile.kind
  have role : Kind.roleOfJson? (.str profile.kind.role.profileName) = some profile.kind.role :=
    Role.ofProfileName?_profileName profile.kind.role
  -- The keys of a kind are none of the shared ones, so these are found where they were put down.
  have found : ∀ key ∈ "mirrorType" :: Profile.sharedKeys,
      find? (sharedMembers profile ++ profile.kind.members) key =
        find? (sharedMembers profile) key := by
    intro key shared
    have foreign : key ∉ kindKeys := by
      revert key
      decide
    simp [find?_kind_members profile.kind foreign]
  simp only [Profile.sharedKeys, List.forall_mem_cons] at found
  rw [toJson_profile, Profile.ofJson?]
  generalize sharedMembers profile ++ profile.kind.members = members at *
  simp only [members?_obj, bind, Option.bind_some, guard]
  rw [if_pos usable]
  simp [found, sharedMembers, Profile.role, role, kind]

@[simp] theorem containerNames_read (names : ContainerNames) :
    ContainerNames.ofJson? names.toJson = some names := by
  simp [ContainerNames.ofJson?, ContainerNames.toJson]

@[simp] theorem containerNames_plain (names : ContainerNames) : Plain names.toJson := by
  simp [ContainerNames.toJson]

@[simp] theorem settings_read (settings : Settings) :
    Settings.ofJson? settings.toJson = some settings := by
  simp [Settings.ofJson?, Settings.toJson]

@[simp] theorem settings_plain (settings : Settings) : Plain settings.toJson := by
  simp [Settings.toJson, CommandMatching.toJson]

@[simp] theorem document_read (document : Document) :
    Document.ofJson? document.toJson = some document := by
  simp [Document.ofJson?, Document.toJson]

theorem document_plain (document : Document) : Plain document.toJson := by
  simp [Document.toJson]

theorem ofText?_toText {document : Document} (fits : document.toJson.depth ≤ nestingLimit) :
    Document.ofText? document.toText = some document := by
  have read := read?_compact (document_plain document) fits
  simp [Document.ofText?, Document.toText, read]

theorem ofText?_toPrettyText {document : Document} (fits : document.toJson.depth ≤ nestingLimit) :
    Document.ofText? document.toPrettyText = some document := by
  have read := read?_pretty (document_plain document) fits
  simp [Document.ofText?, Document.toPrettyText, read]

theorem toModel_toDocument (model : Model) : model.toDocument.toModel = model :=
  Assembly.assemble_self model

/-- Documents are read back as they were written, unless they nest deeper than any reader goes; so
a model is the same after it was written down, in either form, and assembled again. -/
theorem documents_read_back :
    (∀ document : Document, document.toJson.depth ≤ nestingLimit →
      Document.ofText? document.toText = some document ∧
        Document.ofText? document.toPrettyText = some document) ∧
    ∀ model : Model, model.toDocument.toJson.depth ≤ nestingLimit →
      (Document.ofText? model.toDocument.toText).map Document.toModel = some model ∧
        (Document.ofText? model.toDocument.toPrettyText).map Document.toModel = some model := by
  constructor
  · intro document fits
    exact ⟨ofText?_toText fits, ofText?_toPrettyText fits⟩
  · intro model fits
    rw [ofText?_toText fits, ofText?_toPrettyText fits]
    have same := congrArg some (toModel_toDocument model)
    exact ⟨same, same⟩

/-- A repository whose only field is a map from quoted names to lists of anything below orders. -/
def archive : Profile where
  typeName := "Archive"
  kind := .repository { links := { queryHandlers := ["Search"] } }
  fields := [
    { name := "by \"name\""
      type := {
        typeName := "Map"
        tag := none
        resolved := .ofName "Map" [.ofName "String", .ofName "List" [⟨"Order", [], some .upper, false⟩]] }
      declaredBy := "Archive"
      access := .owner
      modifiable := true
      publicReadable := false
      publicWriteable := false }]

def library : Model := (Model.empty ["line\nbreak"] .default).insert archive

theorem library_read_back : library.toDocument.toJson.depth ≤ nestingLimit ∧
    Document.ofText? library.toDocument.toText = some library.toDocument ∧
    (Document.ofText? library.toDocument.toPrettyText).map Document.toModel = some library := by
  have fits : library.toDocument.toJson.depth ≤ nestingLimit := by decide +kernel
  exact ⟨fits, (documents_read_back.1 library.toDocument fits).1,
    (documents_read_back.2 library fits).2⟩

end DomainAtlas.Proofs.DocumentText
