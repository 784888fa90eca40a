import DomainAtlas.Catalog.Hierarchy
import DomainAtlas.Settings
import DomainAtlas.TypeUse

/-! The use that a declared type makes of its element type. At most one optional and then at most
one container are taken off; what is left is the element. -/

namespace DomainAtlas.Catalog

/-- Whether a type or one of its supertypes is listed. Nothing stands above a name without a
declaration. -/
def isListed (catalog : Catalog) (listed : List String) (name : String) : Bool :=
  if listed.contains name then true
  else if !catalog.contains name then false
  else (catalog.superclasses name ++ catalog.interfaces name).any listed.contains

/-- The container that a named type is; one that is several is the first of them. -/
def containerOf (catalog : Catalog) (names : ContainerNames) (name : String) : Container :=
  if catalog.isListed names.lists name then .list
  else if catalog.isListed names.sets name then .set
  else if catalog.isListed names.streams name then .stream
  else if catalog.isListed names.collections name then .collection
  else .none

def optionalElement? (catalog : Catalog) (names : ContainerNames) : TypeExpr → Option TypeExpr
  | .named name arguments =>
    if catalog.isListed names.optionals name then arguments.head? else none
  | _ => none

/-- The container of a type, its name if it has one, and the element. A container without an
argument is its own element. -/
def unwrap (catalog : Catalog) (names : ContainerNames) (type : TypeExpr) :
    Container × Option String × TypeExpr :=
  match type with
  | .named name arguments =>
    match catalog.containerOf names name with
    | .none => (.none, none, type)
    | container => (container, some name, arguments.headD type)
  | .array component => (.array, none, component)
  | _ => (.none, none, type)

def useOf (catalog : Catalog) (names : ContainerNames) (type : TypeExpr)
    (assertions containerAssertions : List Assertion := []) : TypeUse :=
  let inner := catalog.optionalElement? names type
  let (container, containerName, element) := catalog.unwrap names (inner.getD type)
  { typeName := element.elementName
    tag := catalog.tagOf element.elementName
    assertions
    isOptional := inner.isSome
    container
    containerName
    containerAssertions
    resolved := type.resolve }

end DomainAtlas.Catalog
