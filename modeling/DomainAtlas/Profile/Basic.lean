import DomainAtlas.Firsts
import DomainAtlas.Profile.Member
import DomainAtlas.Profile.Kind

/-! Profiles of domain types: members, supertypes and what belongs to the role. A profile answers
by itself every question that does not follow a name to another profile. -/

namespace DomainAtlas

structure Profile where
  typeName : String
  isAbstract : Bool := false
  fields : List Field := []
  methods : List Method := []
  /-- The superclasses, nearest first. -/
  superclasses : List String := []
  interfaces : List String := []
  kind : Kind
  deriving DecidableEq, Repr

namespace Profile

def role (profile : Profile) : Role := profile.kind.role

/-- The field of a name that is in sight; failing that, the first of the name. -/
def field? (profile : Profile) (name : String) : Option Field :=
  (profile.fields.find? fun field => field.name == name && !field.isHidden) <|>
    profile.fields.find? (·.name == name)

def identityField? (profile : Profile) : Option Field := do
  profile.field? (← (← profile.kind.entityTraits?).identityField)

def versionField? (profile : Profile) : Option Field := do
  profile.field? (← (← profile.kind.entityTraits?).versionField)

def isIdentity (profile : Profile) (field : Field) : Bool :=
  profile.identityField?.any fun identity =>
    identity.name == field.name && identity.declaredBy == field.declaredBy

/-- The fields that hold something of a sort, the identity left out. -/
def holding (profile : Profile) (sort : Holding) : List Field :=
  profile.fields.filter fun field => !profile.isIdentity field && field.holding == sort

def exposedFields (profile : Profile) : List Field :=
  profile.fields.filter fun field => field.isExposed && !field.isHidden

def containments (profile : Profile) : List Field := profile.fields.filter (·.isContainment)

def methodsNamed (profile : Profile) (name : String) : List Method :=
  profile.methods.filter (·.name == name)

def publishes (profile : Profile) (event : String) : Bool :=
  profile.methods.any (·.publishes event)

def listensTo (profile : Profile) (event : String) : Bool :=
  profile.methods.any (·.listensTo event)

def processes (profile : Profile) (matching : CommandMatching) (command : Profile) : Bool :=
  profile.methods.any (·.processes matching command.typeName command.superclasses)

def publishedEvents (profile : Profile) : List String :=
  distinct (profile.methods.flatMap (·.publishedEvents))

def listenedEvents (profile : Profile) : List String :=
  distinct (profile.methods.filterMap (·.listenedEvent))

def isSubclassOf (profile : Profile) (name : String) : Bool := profile.superclasses.contains name

def implements (profile : Profile) (name : String) : Bool := profile.interfaces.contains name

def isAssignable (profile : Profile) (name : String) : Bool :=
  profile.typeName == name || profile.isSubclassOf name || profile.implements name

end Profile

end DomainAtlas
