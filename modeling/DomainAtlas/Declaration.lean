import DomainAtlas.Role
import DomainAtlas.TypeExpr
import DomainAtlas.Assertion

/-! Declarations: what a scanner reports of each type it has found. A declaration says only what
the type itself declares; what a type inherits is worked out from the catalog. -/

namespace DomainAtlas

inductive Access where
  | anyone
  | heirs
  | owner
  | package
  deriving DecidableEq, Repr

structure FieldDecl where
  name : String
  type : TypeExpr
  access : Access := .owner
  isStatic : Bool := false
  isFinal : Bool := false
  assertions : List Assertion := []
  containerAssertions : List Assertion := []
  /-- Whether the field counts the changes to its object. -/
  isVersion : Bool := false
  deriving DecidableEq, Repr

structure ParamDecl where
  name : String
  type : TypeExpr
  assertions : List Assertion := []
  containerAssertions : List Assertion := []
  deriving DecidableEq, Repr

structure MethodDecl where
  name : String
  access : Access := .anyone
  params : List ParamDecl := []
  result : Option TypeExpr := none
  isStatic : Bool := false
  publishedEvents : List String := []
  listenedEvent : Option String := none
  deriving DecidableEq, Repr

structure TypeDecl where
  name : String
  roles : List Role := []
  isAbstract : Bool := false
  superclass : Option String := none
  interfaces : List String := []
  fields : List FieldDecl := []
  methods : List MethodDecl := []
  /-- The type that identifies an entity. -/
  identityType : Option String := none
  /-- The aggregate that a repository keeps. -/
  managedAggregate : Option String := none
  /-- The read model that a query handler answers with. -/
  providedReadModel : Option String := none
  /-- The identity of the aggregate that a command is for. -/
  targetIdentity : Option String := none
  /-- The service that a command is for. -/
  targetService : Option String := none
  constants : List String := []
  deriving DecidableEq, Repr

namespace TypeDecl

/-- The names just above the type: its interfaces, then its superclass. -/
def supertypes (decl : TypeDecl) : List String := decl.interfaces ++ decl.superclass.toList

/-- A type claims each role once. -/
def claiming (decl : TypeDecl) (role : Role) : TypeDecl :=
  if role ∈ decl.roles then decl else { decl with roles := decl.roles ++ [role] }

def extending (decl : TypeDecl) (superclass : String) : TypeDecl :=
  { decl with superclass := some superclass }

def implementing (decl : TypeDecl) (interface : String) : TypeDecl :=
  { decl with interfaces := decl.interfaces ++ [interface] }

def withField (decl : TypeDecl) (field : FieldDecl) : TypeDecl :=
  { decl with fields := decl.fields ++ [field] }

def withMethod (decl : TypeDecl) (method : MethodDecl) : TypeDecl :=
  { decl with methods := decl.methods ++ [method] }

end TypeDecl

namespace FieldDecl

def withAssertion (field : FieldDecl) (assertion : Assertion) : FieldDecl :=
  { field with assertions := field.assertions ++ [assertion] }

def withContainerAssertion (field : FieldDecl) (assertion : Assertion) : FieldDecl :=
  { field with containerAssertions := field.containerAssertions ++ [assertion] }

end FieldDecl

namespace MethodDecl

def withParam (method : MethodDecl) (name : String) (type : TypeExpr) : MethodDecl :=
  { method with params := method.params ++ [{ name, type }] }

def publishing (method : MethodDecl) (event : String) : MethodDecl :=
  { method with publishedEvents := method.publishedEvents ++ [event] }

end MethodDecl

end DomainAtlas
