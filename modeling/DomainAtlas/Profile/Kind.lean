import DomainAtlas.Role

/-! What a profile says beyond the members that every type has, by role. Other types are referred
to by name. -/

namespace DomainAtlas

/-- What an entity or aggregate root says of its identity and its version. -/
structure EntityTraits where
  identityField : Option String := none
  versionField : Option String := none
  identityType : Option String := none
  deriving DecidableEq, Repr

structure CommandTraits where
  targetIdentity : Option String := none
  targetService : Option String := none
  deriving DecidableEq, Repr

structure ServiceLinks where
  repositories : List String := []
  domainServices : List String := []
  outboundServices : List String := []
  queryHandlers : List String := []
  applicationServices : List String := []
  serviceKinds : List String := []
  deriving DecidableEq, Repr

namespace ServiceLinks

/-- The linked types of a role; there are none unless it is a service role. -/
def of (links : ServiceLinks) : Tag → List String
  | some .repository => links.repositories
  | some .domainService => links.domainServices
  | some .outboundService => links.outboundServices
  | some .queryHandler => links.queryHandlers
  | some .applicationService => links.applicationServices
  | some .serviceKind => links.serviceKinds
  | _ => []

private def note (names : List String) (name : String) : List String :=
  if names.contains name then names else names ++ [name]

/-- Records a link once; a type that is no service is not recorded. -/
def record (links : ServiceLinks) (tag : Tag) (name : String) : ServiceLinks :=
  match tag with
  | some .repository => { links with repositories := note links.repositories name }
  | some .domainService => { links with domainServices := note links.domainServices name }
  | some .outboundService => { links with outboundServices := note links.outboundServices name }
  | some .queryHandler => { links with queryHandlers := note links.queryHandlers name }
  | some .applicationService =>
    { links with applicationServices := note links.applicationServices name }
  | some .serviceKind => { links with serviceKinds := note links.serviceKinds name }
  | _ => links

theorem of_record (links : ServiceLinks) (tag : Tag) (name : String) {role : Role}
    (service : role.isService = true) :
    (links.record tag name).of (some role) =
      if tag = some role ∧ name ∉ links.of (some role) then links.of (some role) ++ [name]
      else links.of (some role) := by
  rcases tag with _ | other
  · simp [record]
  · cases role <;> simp [Role.isService] at service <;>
      cases other <;> simp [record, of, note, ite_not]

def isEmpty (links : ServiceLinks) : Bool :=
  links.repositories.isEmpty && links.domainServices.isEmpty && links.outboundServices.isEmpty
    && links.queryHandlers.isEmpty && links.applicationServices.isEmpty
    && links.serviceKinds.isEmpty

end ServiceLinks

structure RepositoryTraits where
  managedAggregate : Option String := none
  links : ServiceLinks := {}
  deriving DecidableEq, Repr

structure QueryHandlerTraits where
  providedReadModel : Option String := none
  links : ServiceLinks := {}
  deriving DecidableEq, Repr

inductive Kind where
  | aggregateRoot (traits : EntityTraits)
  | entity (traits : EntityTraits)
  | valueObject
  | identity
  | enumeration (constants : List String)
  | domainEvent
  | domainCommand (traits : CommandTraits)
  | domainService (links : ServiceLinks)
  | repository (traits : RepositoryTraits)
  | readModel
  | applicationService (links : ServiceLinks)
  | serviceKind (links : ServiceLinks)
  | queryHandler (traits : QueryHandlerTraits)
  | outboundService (links : ServiceLinks)
  deriving DecidableEq, Repr

namespace Kind

def role : Kind → Role
  | aggregateRoot _ => .aggregateRoot
  | entity _ => .entity
  | valueObject => .valueObject
  | identity => .identity
  | enumeration _ => .enumeration
  | domainEvent => .domainEvent
  | domainCommand _ => .domainCommand
  | domainService _ => .domainService
  | repository _ => .repository
  | readModel => .readModel
  | applicationService _ => .applicationService
  | serviceKind _ => .serviceKind
  | queryHandler _ => .queryHandler
  | outboundService _ => .outboundService

def entityTraits? : Kind → Option EntityTraits
  | aggregateRoot traits | entity traits => some traits
  | _ => none

def commandTraits? : Kind → Option CommandTraits
  | domainCommand traits => some traits
  | _ => none

def serviceLinks? : Kind → Option ServiceLinks
  | domainService links | applicationService links | serviceKind links | outboundService links =>
    some links
  | repository traits => some traits.links
  | queryHandler traits => some traits.links
  | _ => none

def managedAggregate? : Kind → Option String
  | repository traits => traits.managedAggregate
  | _ => none

def providedReadModel? : Kind → Option String
  | queryHandler traits => traits.providedReadModel
  | _ => none

def constants : Kind → List String
  | enumeration constants => constants
  | _ => []

theorem isSome_entityTraits? (kind : Kind) :
    kind.entityTraits?.isSome = kind.role.isEntityLike := by cases kind <;> rfl

theorem isSome_serviceLinks? (kind : Kind) :
    kind.serviceLinks?.isSome = kind.role.isService := by cases kind <;> rfl

end Kind

end DomainAtlas
