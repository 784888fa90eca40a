/-! The roles a type can play in a domain model. A type may claim several roles; the first of them
in precedence order is the one it has, and a type that claims none is outside the domain. -/

namespace DomainAtlas

inductive Role where
  | aggregateRoot
  | entity
  | valueObject
  | enumeration
  | identity
  | domainService
  | repository
  | domainEvent
  | domainCommand
  | readModel
  | applicationService
  | queryHandler
  | outboundService
  | serviceKind
  deriving DecidableEq, Repr, Inhabited

/-- The classification of a type: its role, or nothing for a type outside the domain. -/
abbrev Tag := Option Role

namespace Role

def all : List Role :=
  [aggregateRoot, entity, valueObject, enumeration, identity, domainService, repository,
    domainEvent, domainCommand, readModel, applicationService, queryHandler, outboundService,
    serviceKind]

theorem mem_all (role : Role) : role ∈ all := by cases role <;> decide

theorem nodup_all : all.Nodup := by decide

/-- The place of a role in precedence order. -/
def rank (role : Role) : Nat := all.idxOf role

theorem rank_lt (role : Role) : role.rank < all.length := by cases role <;> decide

theorem getElem?_rank (role : Role) : all[role.rank]? = some role := by cases role <;> rfl

def isDomainObject : Role → Bool
  | aggregateRoot | entity | valueObject | identity | enumeration => true
  | _ => false

def isValueLike : Role → Bool
  | valueObject | identity | enumeration => true
  | _ => false

def isEntityLike : Role → Bool
  | entity | aggregateRoot => true
  | _ => false

def isService : Role → Bool
  | domainService | repository | applicationService | serviceKind | queryHandler
  | outboundService => true
  | _ => false

def isMessage : Role → Bool
  | domainEvent | domainCommand => true
  | _ => false

/-- The name of a role in written data. -/
def code : Role → String
  | aggregateRoot => "AGGREGATE_ROOT"
  | entity => "ENTITY"
  | valueObject => "VALUE_OBJECT"
  | enumeration => "ENUM"
  | identity => "IDENTITY"
  | domainService => "DOMAIN_SERVICE"
  | repository => "REPOSITORY"
  | domainEvent => "DOMAIN_EVENT"
  | domainCommand => "DOMAIN_COMMAND"
  | readModel => "READ_MODEL"
  | applicationService => "APPLICATION_SERVICE"
  | queryHandler => "QUERY_HANDLER"
  | outboundService => "OUTBOUND_SERVICE"
  | serviceKind => "SERVICE_KIND"

/-- The name of a role in one word. -/
def word : Role → String
  | aggregateRoot => "AggregateRoot"
  | entity => "Entity"
  | valueObject => "ValueObject"
  | enumeration => "Enum"
  | identity => "Identity"
  | domainService => "DomainService"
  | repository => "Repository"
  | domainEvent => "DomainEvent"
  | domainCommand => "DomainCommand"
  | readModel => "ReadModel"
  | applicationService => "ApplicationService"
  | queryHandler => "QueryHandler"
  | outboundService => "OutboundService"
  | serviceKind => "ServiceKind"

/-- The name of the profiles and views of a role. -/
def profileName (role : Role) : String := role.word ++ "Mirror"

def ofProfileName? (name : String) : Option Role := all.find? (·.profileName == name)

theorem ofProfileName?_profileName (role : Role) :
    ofProfileName? role.profileName = some role := by cases role <;> decide

/-- The name of a role in prose. -/
def title : Role → String
  | aggregateRoot => "Aggregate Root"
  | entity => "Entity"
  | valueObject => "Value Object"
  | enumeration => "Enum"
  | identity => "Identity"
  | domainService => "Domain Service"
  | repository => "Repository"
  | domainEvent => "Domain Event"
  | domainCommand => "Domain Command"
  | readModel => "Read Model"
  | applicationService => "Application Service"
  | queryHandler => "Query Handler"
  | outboundService => "Outbound Service"
  | serviceKind => "Service Kind"

def ofCode? (text : String) : Option Role := all.find? (·.code == text)

theorem ofCode?_code (role : Role) : ofCode? role.code = some role := by cases role <;> decide

end Role

namespace Tag

def all : List Tag := Role.all.map some ++ [none]

/-- The place of a classification in precedence order: outside the domain comes last. -/
def rank : Tag → Nat
  | some role => role.rank
  | none => Role.all.length

theorem idxOf_all (tag : Tag) : all.idxOf tag = rank tag := by
  rcases tag with _ | role
  · rfl
  · cases role <;> rfl

theorem rank_le_length (tag : Tag) : rank tag ≤ Role.all.length := by
  rcases tag with _ | role
  · exact Nat.le_refl _
  · exact Nat.le_of_lt role.rank_lt

def code : Tag → String
  | some role => role.code
  | none => "NON_DOMAIN"

def title : Tag → String
  | some role => role.title
  | none => "Non Domain"

def ofCode? (text : String) : Option Tag := all.find? (code · == text)

theorem ofCode?_code (tag : Tag) : ofCode? (code tag) = some tag := by
  rcases tag with _ | role
  · decide
  · cases role <;> decide

end Tag

/-- The first of the claimed roles in precedence order. -/
def classify (claimed : List Role) : Tag := Role.all.find? (claimed.contains ·)

end DomainAtlas
