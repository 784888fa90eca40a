import DomainAtlas.Firsts
import DomainAtlas.Profile.Basic
import DomainAtlas.Profiling.Fields
import DomainAtlas.Profiling.Methods

/-! The profiles of the types in a catalog. Types outside the domain have none. -/

namespace DomainAtlas.Catalog

/-- What a declaration says itself or, failing that, the nearest of its superclasses that says
anything. -/
def inherited (catalog : Catalog) (select : TypeDecl → Option String) (decl : TypeDecl) :
    Option String :=
  (decl :: catalog.superclassDecls decl.name).findSome? select

/-- Whether a field may identify its object: it is in sight, anyone can read it, and it holds one
identity, of the declared type if one is declared. -/
def isIdentityCandidate (declared : Option String) (field : Field) : Bool :=
  field.isExposed && !field.isHidden && field.tag == some .identity
    && !field.type.container.isMultiValued && declared.all (· == field.typeName)

/-- The fields with the identity marked: a candidate, when it is the only one. -/
def markIdentity (declared : Option String) (fields : List Field) : List Field :=
  match only? (fields.filter (isIdentityCandidate declared)) with
  | some _ =>
    fields.map fun field =>
      if isIdentityCandidate declared field then { field with isIdentity := true } else field
  | none => fields

/-- The name of the version field: the one field that is marked in the whole hierarchy. -/
def versionFieldName? (catalog : Catalog) (decl : TypeDecl) : Option String :=
  (only? (((catalog.fieldOwners decl).flatMap (·.fields)).filter (·.isVersion))).map (·.name)

def entityTraits (catalog : Catalog) (decl : TypeDecl) (fields : List Field) : EntityTraits :=
  let identityType := catalog.inherited (·.identityType) decl
  { identityField := (only? (fields.filter (isIdentityCandidate identityType))).map (·.name)
    versionField := catalog.versionFieldName? decl
    identityType }

def linksOf (fields : List Field) : ServiceLinks :=
  (fields.filter (!·.isStatic)).foldl (fun links field => links.record field.tag field.typeName) {}

/-- What a profile of a role says beyond its members. -/
def kindOf (catalog : Catalog) (decl : TypeDecl) (fields : List Field) : Role → Kind
  | .aggregateRoot => .aggregateRoot (catalog.entityTraits decl fields)
  | .entity => .entity (catalog.entityTraits decl fields)
  | .valueObject => .valueObject
  | .identity => .identity
  | .enumeration => .enumeration decl.constants
  | .domainEvent => .domainEvent
  | .domainCommand =>
    .domainCommand
      { targetIdentity := catalog.inherited (·.targetIdentity) decl
        targetService := catalog.inherited (·.targetService) decl }
  | .domainService => .domainService (linksOf fields)
  | .repository =>
    .repository
      { managedAggregate := catalog.inherited (·.managedAggregate) decl, links := linksOf fields }
  | .readModel => .readModel
  | .applicationService => .applicationService (linksOf fields)
  | .serviceKind => .serviceKind (linksOf fields)
  | .queryHandler =>
    .queryHandler
      { providedReadModel := catalog.inherited (·.providedReadModel) decl, links := linksOf fields }
  | .outboundService => .outboundService (linksOf fields)

theorem role_kindOf (catalog : Catalog) (decl : TypeDecl) (fields : List Field) (role : Role) :
    (catalog.kindOf decl fields role).role = role := by cases role <;> rfl

/-- The fields of a type as its role shows them. Only entities and aggregate roots have an
identity. -/
def roleFields (catalog : Catalog) (decl : TypeDecl) (fields : List Field) (role : Role) :
    List Field :=
  if role.isEntityLike then markIdentity (catalog.inherited (·.identityType) decl) fields
  else fields

/-- The profile of a declaration that is stored under a name, for its role. -/
def profileOf (catalog : Catalog) (settings : Settings) (name : String) (decl : TypeDecl)
    (role : Role) : Profile :=
  let fields := catalog.fieldsOf settings decl
  { typeName := decl.name
    isAbstract := decl.isAbstract
    fields := catalog.roleFields decl fields role
    methods := catalog.methodsOf settings decl
    superclasses := catalog.superclasses name
    interfaces := catalog.interfaces name
    kind := catalog.kindOf decl fields role }

/-- The profile of a described type, or nothing for one outside the domain. -/
def profile? (catalog : Catalog) (settings : Settings) (name : String) :
    Except Fault (Option Profile) :=
  match catalog.get? name with
  | none => .error (.invalid (.undescribed name))
  | some decl => .ok ((catalog.tagOf name).map (catalog.profileOf settings name decl))

/-- The profiles of all stored declarations, each looked up by its own name. -/
def profiles (catalog : Catalog) (settings : Settings) : Except Fault (NameMap Profile) :=
  catalog.decls.foldlM
    (fun found decl => do
      return match ← catalog.profile? settings decl.name with
        | some profile => found.insert profile.typeName profile
        | none => found)
    .empty

end DomainAtlas.Catalog
