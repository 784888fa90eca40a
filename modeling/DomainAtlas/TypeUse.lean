import DomainAtlas.Role
import DomainAtlas.Assertion
import DomainAtlas.ResolvedType

/-! Uses of a type by a field, a parameter or a result: the element type behind the containers that
wrap it. -/

namespace DomainAtlas

inductive Container where
  | none
  | list
  | set
  | collection
  | stream
  | array
  deriving DecidableEq, Repr

namespace Container

def isCollection : Container → Bool
  | list | set | collection => true
  | _ => false

def isMultiValued (container : Container) : Bool := container != none

end Container

structure TypeUse where
  /-- The name of the element type. -/
  typeName : String
  /-- The classification of the element type. -/
  tag : Tag
  assertions : List Assertion := []
  isOptional : Bool := false
  container : Container := .none
  containerName : Option String := none
  containerAssertions : List Assertion := []
  /-- The whole declared type. -/
  resolved : ResolvedType
  deriving DecidableEq, Repr

def TypeUse.isContained (use : TypeUse) : Bool := use.isOptional || use.container.isMultiValued

end DomainAtlas
