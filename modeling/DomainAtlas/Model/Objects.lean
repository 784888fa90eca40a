import DomainAtlas.Model.Walk

/-! Questions about domain objects: identities, parts and wholes, and single values. -/

namespace DomainAtlas

namespace Profile

/-- The field that alone carries the value of a value object or an enumeration: the only one in
sight. -/
def soleField? (profile : Profile) : Option Field := only? profile.exposedFields

/-- The field that carries the value of an identity: the first one in sight. -/
def valueField? (profile : Profile) : Option Field := profile.exposedFields.head?

end Profile

namespace Model

/-- The first entity or aggregate root that an identity identifies. -/
def entityForIdentity? (model : Model) (identity : String) : Option Profile :=
  model.profiles.find? fun profile =>
    profile.role.isEntityLike && profile.identityField?.any (·.typeName == identity)

def identityType? (model : Model) (profile : Profile) : Option (View .identity) := do
  (← model.get? (← profile.identityField?).typeName).as? .identity

def repositoryFor (model : Model) (aggregate : String) : Except Fault (View .repository) :=
  match (model.views .repository).find? fun repository =>
    repository.profile.kind.managedAggregate? == some aggregate with
  | some repository => .ok repository
  | none => .error (.notFound (some .repository) aggregate)

def repository? (model : Model) (root : View .aggregateRoot) : Option (View .repository) :=
  (model.repositoryFor root.typeName).toOption

def containedEntities (model : Model) (root : View .aggregateRoot) : List (View .entity) :=
  (model.contained root.profile).filterMap (·.as? .entity)

def aggregateRoots (model : Model) (entity : View .entity) : List (View .aggregateRoot) :=
  (model.views .aggregateRoot).filter fun root =>
    (model.contained root.profile).tail.any (·.typeName == entity.typeName)

def fieldType? (model : Model) (field : Field) : Option Profile := model.get? field.typeName

def declaringType? (model : Model) (field : Field) : Option Profile := model.get? field.declaredBy

end Model

end DomainAtlas
