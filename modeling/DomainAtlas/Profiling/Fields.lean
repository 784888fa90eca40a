import DomainAtlas.Profile.Member
import DomainAtlas.Profiling.TypeUse

/-! The fields of a type: those of its superclasses first, from the root down, then its own. -/

namespace DomainAtlas

namespace Catalog

/-- The described types whose fields a type has, from the root down. -/
def fieldOwners (catalog : Catalog) (decl : TypeDecl) : List TypeDecl :=
  (catalog.superclassDecls decl.name).reverse ++ [decl]

/-- The methods that may give access to the fields of a type. -/
def accessors (catalog : Catalog) (decl : TypeDecl) : List MethodDecl :=
  (catalog.fieldOwners decl ++ catalog.interfaceDecls decl.name).flatMap (·.methods)

end Catalog

namespace MethodDecl

def isPublicInstance (method : MethodDecl) : Bool := method.access == .anyone && !method.isStatic

def reads (settings : Settings) (method : MethodDecl) (fieldName : String) : Bool :=
  method.isPublicInstance && method.params.isEmpty && method.result.isSome
    && settings.isGetterName method.name && settings.property? method.name == some fieldName

def writes (settings : Settings) (method : MethodDecl) (fieldName : String) : Bool :=
  method.isPublicInstance && method.params.length == 1 && method.result.isNone
    && settings.isSetterName method.name && settings.property? method.name == some fieldName

end MethodDecl

namespace Catalog

/-- One declared field, given the accessors and whether a nearer field hides it. -/
def fieldOf (catalog : Catalog) (settings : Settings) (owner : TypeDecl)
    (accessors : List MethodDecl) (isHidden : Bool) (field : FieldDecl) : Field where
  name := field.name
  type := catalog.useOf settings.containers field.type field.assertions field.containerAssertions
  declaredBy := owner.name
  access := field.access
  modifiable := !field.isFinal
  publicReadable := field.access == .anyone || accessors.any (·.reads settings field.name)
  publicWriteable :=
    (field.access == .anyone && !field.isFinal) || accessors.any (·.writes settings field.name)
  isStatic := field.isStatic
  isHidden

/-- The fields of a line of owners, from the root down. A field is hidden when an owner after its
own declares one of the same name. -/
def fieldsFrom (catalog : Catalog) (settings : Settings) (accessors : List MethodDecl) :
    List TypeDecl → List Field
  | [] => []
  | owner :: nearer =>
    (owner.fields.map fun field =>
      catalog.fieldOf settings owner accessors
        (nearer.any fun type => type.fields.any (·.name == field.name)) field)
      ++ catalog.fieldsFrom settings accessors nearer

def fieldsOf (catalog : Catalog) (settings : Settings) (decl : TypeDecl) : List Field :=
  catalog.fieldsFrom settings (catalog.accessors decl) (catalog.fieldOwners decl)

end Catalog

end DomainAtlas
