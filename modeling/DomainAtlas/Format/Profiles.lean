import DomainAtlas.Format.Declarations
import DomainAtlas.Profile.Basic

/-! Profiles as data. A profile is one object: the members that every profile has, the name of its
kind, and the members that belong to the kind. Members of another kind mean nothing. -/

namespace DomainAtlas

open Json

namespace ResolvedType

mutual
def toJson : ResolvedType → Json
  | ⟨name, arguments, wildcard, isArray⟩ =>
    .obj <|
      ("typeName", .str name) :: argumentsToJson arguments
        ++ optional "wildcard" (fun direction => .obj [("boundType", Direction.toJson direction)])
          wildcard
        ++ [("isArray", .bool isArray)]

def argumentsToJson : List ResolvedType → List (String × Json)
  | [] => []
  | type :: types => [("genericTypes", .arr (type.toJson :: itemsToJson types))]

def itemsToJson : List ResolvedType → List Json
  | [] => []
  | type :: types => type.toJson :: itemsToJson types
end

def wildcardOfJson? (json : Json) : Option Direction := do
  required Direction.ofJson? (← json.members?) "boundType"

/-- Decodes types that nest at most so many levels deep. -/
def ofJsonWithin? : Nat → Json → Option ResolvedType
  | 0, _ => none
  | level + 1, json => do
    let members ← json.members?
    return {
      name := ← requiredText members "typeName"
      arguments := ← listOrEmpty (ofJsonWithin? level) members "genericTypes"
      wildcard := ← nullable wildcardOfJson? members "wildcard"
      isArray := ← flagOrFalse members "isArray" }

def ofJson? (json : Json) : Option ResolvedType := ofJsonWithin? json.depth json

end ResolvedType

namespace TypeUse

def toJson (use : TypeUse) : Json :=
  .obj <|
    [("typeName", .str use.typeName), ("domainType", Tag.toJson use.tag)]
      ++ unlessEmpty "assertions" Assertion.toJson use.assertions
      ++ [("hasOptionalContainer", .bool use.isOptional), ("container", use.container.toJson)]
      ++ optional "containerTypeName" .str use.containerName
      ++ unlessEmpty "containerAssertions" Assertion.toJson use.containerAssertions
      ++ [("resolvedGenericType", use.resolved.toJson)]

def ofJson? (json : Json) : Option TypeUse := do
  let members ← json.members?
  return {
    typeName := ← requiredText members "typeName"
    tag := ← required Tag.ofJson? members "domainType"
    assertions := ← listOrEmpty Assertion.ofJson? members "assertions"
    isOptional := ← flagOrFalse members "hasOptionalContainer"
    container := ← orElse .none Container.ofJson? members "container"
    containerName := ← textOrNull members "containerTypeName"
    containerAssertions := ← listOrEmpty Assertion.ofJson? members "containerAssertions"
    resolved := ← required ResolvedType.ofJson? members "resolvedGenericType" }

end TypeUse

namespace Field

def toJson (field : Field) : Json :=
  .obj
    [("name", .str field.name), ("type", field.type.toJson),
      ("declaredByTypeName", .str field.declaredBy), ("accessLevel", field.access.toJson),
      ("modifiable", .bool field.modifiable), ("publicReadable", .bool field.publicReadable),
      ("publicWriteable", .bool field.publicWriteable),
      ("isIdentityField", .bool field.isIdentity), ("isStatic", .bool field.isStatic),
      ("isHidden", .bool field.isHidden)]

def ofJson? (json : Json) : Option Field := do
  let members ← json.members?
  return {
    name := ← requiredText members "name"
    type := ← required TypeUse.ofJson? members "type"
    declaredBy := ← requiredText members "declaredByTypeName"
    access := ← required Access.ofJson? members "accessLevel"
    modifiable := ← required flag? members "modifiable"
    publicReadable := ← required flag? members "publicReadable"
    publicWriteable := ← required flag? members "publicWriteable"
    isIdentity := ← flagOrFalse members "isIdentityField"
    isStatic := ← flagOrFalse members "isStatic"
    isHidden := ← flagOrFalse members "isHidden" }

end Field

namespace Param

def toJson (param : Param) : Json := .obj [("name", .str param.name), ("type", param.type.toJson)]

def ofJson? (json : Json) : Option Param := do
  let members ← json.members?
  return {
    name := ← requiredText members "name"
    type := ← required TypeUse.ofJson? members "type" }

end Param

namespace Method

def toJson (method : Method) : Json :=
  .obj <|
    [("name", .str method.name), ("declaredByTypeName", .str method.declaredBy),
      ("accessLevel", method.access.toJson), ("parameters", .arr (method.params.map Param.toJson))]
      ++ optional "returnType" TypeUse.toJson method.result
      ++ [("overridden", .bool method.overridden), ("isStatic", .bool method.isStatic),
        ("isGetter", .bool method.isGetter), ("isSetter", .bool method.isSetter)]
      ++ unlessEmpty "publishedEventTypeNames" .str method.publishedEvents
      ++ optional "listenedEventTypeName" .str method.listenedEvent

def ofJson? (json : Json) : Option Method := do
  let members ← json.members?
  return {
    name := ← requiredText members "name"
    declaredBy := ← requiredText members "declaredByTypeName"
    access := ← required Access.ofJson? members "accessLevel"
    params := ← listOrEmpty Param.ofJson? members "parameters"
    result := ← nullable TypeUse.ofJson? members "returnType"
    overridden := ← flagOrFalse members "overridden"
    isStatic := ← flagOrFalse members "isStatic"
    isGetter := ← flagOrFalse members "isGetter"
    isSetter := ← flagOrFalse members "isSetter"
    publishedEvents := ← textsOrEmpty members "publishedEventTypeNames"
    listenedEvent := ← textOrNull members "listenedEventTypeName" }

end Method

namespace EntityTraits

def members (traits : EntityTraits) : List (String × Json) :=
  optional "identityFieldName" .str traits.identityField
    ++ optional "concurrencyVersionFieldName" .str traits.versionField
    ++ optional "identityTypeName" .str traits.identityType

def ofMembers? (members : List (String × Json)) : Option EntityTraits := do
  return {
    identityField := ← textOrNull members "identityFieldName"
    versionField := ← textOrNull members "concurrencyVersionFieldName"
    identityType := ← textOrNull members "identityTypeName" }

end EntityTraits

namespace CommandTraits

def members (traits : CommandTraits) : List (String × Json) :=
  optional "aggregateTargetIdentityTypeName" .str traits.targetIdentity
    ++ optional "domainServiceTargetTypeName" .str traits.targetService

def ofMembers? (members : List (String × Json)) : Option CommandTraits := do
  return {
    targetIdentity := ← textOrNull members "aggregateTargetIdentityTypeName"
    targetService := ← textOrNull members "domainServiceTargetTypeName" }

end CommandTraits

namespace ServiceLinks

def members (links : ServiceLinks) : List (String × Json) :=
  unlessEmpty "referencedRepositoryTypeNames" .str links.repositories
    ++ unlessEmpty "referencedDomainServiceTypeNames" .str links.domainServices
    ++ unlessEmpty "referencedOutboundServiceTypeNames" .str links.outboundServices
    ++ unlessEmpty "referencedQueryHandlerTypeNames" .str links.queryHandlers
    ++ unlessEmpty "referencedApplicationServiceTypeNames" .str links.applicationServices
    ++ unlessEmpty "referencedServiceKindTypeNames" .str links.serviceKinds

def ofMembers? (members : List (String × Json)) : Option ServiceLinks := do
  return {
    repositories := ← textsOrEmpty members "referencedRepositoryTypeNames"
    domainServices := ← textsOrEmpty members "referencedDomainServiceTypeNames"
    outboundServices := ← textsOrEmpty members "referencedOutboundServiceTypeNames"
    queryHandlers := ← textsOrEmpty members "referencedQueryHandlerTypeNames"
    applicationServices := ← textsOrEmpty members "referencedApplicationServiceTypeNames"
    serviceKinds := ← textsOrEmpty members "referencedServiceKindTypeNames" }

def toJson (links : ServiceLinks) : Json := .obj links.members

def ofJson? (json : Json) : Option ServiceLinks := do ofMembers? (← json.members?)

end ServiceLinks

namespace RepositoryTraits

def members (traits : RepositoryTraits) : List (String × Json) :=
  optional "managedAggregateTypeName" .str traits.managedAggregate
    ++ [("references", traits.links.toJson)]

def ofMembers? (members : List (String × Json)) : Option RepositoryTraits := do
  return {
    managedAggregate := ← textOrNull members "managedAggregateTypeName"
    links := ← orElse {} ServiceLinks.ofJson? members "references" }

end RepositoryTraits

namespace QueryHandlerTraits

def members (traits : QueryHandlerTraits) : List (String × Json) :=
  optional "providedReadModelTypeName" .str traits.providedReadModel
    ++ [("references", traits.links.toJson)]

def ofMembers? (members : List (String × Json)) : Option QueryHandlerTraits := do
  return {
    providedReadModel := ← textOrNull members "providedReadModelTypeName"
    links := ← orElse {} ServiceLinks.ofJson? members "references" }

end QueryHandlerTraits

namespace Kind

def members : Kind → List (String × Json)
  | aggregateRoot traits | entity traits => traits.members
  | enumeration constants => [("enumValues", .ofStrings constants)]
  | domainCommand traits => traits.members
  | domainService links | applicationService links | serviceKind links | outboundService links =>
    links.members
  | repository traits => traits.members
  | queryHandler traits => traits.members
  | valueObject | identity | domainEvent | readModel => []

/-- The kind of a role, from the members that belong to it. -/
def ofMembers? (members : List (String × Json)) : Role → Option Kind
  | .aggregateRoot => return .aggregateRoot (← EntityTraits.ofMembers? members)
  | .entity => return .entity (← EntityTraits.ofMembers? members)
  | .valueObject => some .valueObject
  | .identity => some .identity
  | .enumeration => return .enumeration (← textsOrEmpty members "enumValues")
  | .domainEvent => some .domainEvent
  | .domainCommand => return .domainCommand (← CommandTraits.ofMembers? members)
  | .domainService => return .domainService (← ServiceLinks.ofMembers? members)
  | .repository => return .repository (← RepositoryTraits.ofMembers? members)
  | .readModel => some .readModel
  | .applicationService => return .applicationService (← ServiceLinks.ofMembers? members)
  | .serviceKind => return .serviceKind (← ServiceLinks.ofMembers? members)
  | .queryHandler => return .queryHandler (← QueryHandlerTraits.ofMembers? members)
  | .outboundService => return .outboundService (← ServiceLinks.ofMembers? members)

def order : List Role :=
  [.aggregateRoot, .entity, .valueObject, .identity, .enumeration, .domainEvent, .domainCommand,
    .domainService, .repository, .readModel, .applicationService, .serviceKind, .queryHandler,
    .outboundService]

/-- The role of a kind, which is given by its name or by its place among the kinds. -/
def roleOfJson? : Json → Option Role
  | .str name => Role.ofProfileName? name
  | json => do order[← json.index?]?

end Kind

namespace Profile

def sharedKeys : List String :=
  ["typeName", "isAbstract", "allFields", "methods", "inheritanceHierarchyTypeNames",
    "allInterfaceTypeNames"]

def toJson (profile : Profile) : Json :=
  .obj <|
    [("typeName", .str profile.typeName), ("isAbstract", .bool profile.isAbstract),
      ("allFields", .arr (profile.fields.map Field.toJson)),
      ("methods", .arr (profile.methods.map Method.toJson)),
      ("inheritanceHierarchyTypeNames", .ofStrings profile.superclasses),
      ("allInterfaceTypeNames", .ofStrings profile.interfaces),
      ("mirrorType", .str profile.role.profileName)]
      ++ profile.kind.members

/-- What a member means for the kind cannot be told before the kind is known, so each member that
depends on the kind must be usable, and everything inside it. -/
def ofJson? (json : Json) : Option Profile := do
  let members ← json.members?
  guard (members.all fun (key, value) => sharedKeys.contains key || value.isWhole)
  let role ← required Kind.roleOfJson? members "mirrorType"
  return {
    typeName := ← requiredText members "typeName"
    isAbstract := ← flagOrFalse members "isAbstract"
    fields := ← listOrEmpty Field.ofJson? members "allFields"
    methods := ← listOrEmpty Method.ofJson? members "methods"
    superclasses := ← textsOrEmpty members "inheritanceHierarchyTypeNames"
    interfaces := ← textsOrEmpty members "allInterfaceTypeNames"
    kind := ← Kind.ofMembers? members role }

end Profile

end DomainAtlas
