import DomainAtlas.Declaration
import DomainAtlas.Settings
import DomainAtlas.TypeUse

/-! The members of a profiled type: fields and methods, its own and the inherited ones. -/

namespace DomainAtlas

/-- What a field holds, by the role of its element type. -/
inductive Holding where
  | basic
  | value
  | entity
  | aggregateRoot
  deriving DecidableEq, Repr

def Holding.ofTag : Tag → Holding
  | some .valueObject | some .identity | some .enumeration => value
  | some .entity => entity
  | some .aggregateRoot => aggregateRoot
  | _ => basic

structure Field where
  name : String
  type : TypeUse
  declaredBy : String
  access : Access
  modifiable : Bool
  publicReadable : Bool
  publicWriteable : Bool
  isIdentity : Bool := false
  isStatic : Bool := false
  /-- Whether a nearer type declares a field of the same name. -/
  isHidden : Bool := false
  deriving DecidableEq, Repr

namespace Field

def typeName (field : Field) : String := field.type.typeName

def tag (field : Field) : Tag := field.type.tag

def holding (field : Field) : Holding := .ofTag field.tag

def isExposed (field : Field) : Bool := field.publicReadable && !field.isStatic

/-- A field whose object is part of the object that has the field. -/
def isContainment (field : Field) : Bool :=
  !field.isStatic && (field.holding == .entity || field.holding == .value)

end Field

structure Param where
  name : String
  type : TypeUse
  deriving DecidableEq, Repr

structure Method where
  name : String
  declaredBy : String
  access : Access
  params : List Param := []
  result : Option TypeUse := none
  /-- Whether the method replaces one of a type further up. -/
  overridden : Bool := false
  isStatic : Bool := false
  isGetter : Bool := false
  isSetter : Bool := false
  publishedEvents : List String := []
  listenedEvent : Option String := none
  deriving DecidableEq, Repr

namespace Method

def isVoid (method : Method) : Bool := method.result.isNone

def paramTypeNames (method : Method) : List String := method.params.map (·.type.typeName)

def publishes (method : Method) (event : String) : Bool := method.publishedEvents.contains event

def listensTo (method : Method) (event : String) : Bool := method.listenedEvent == some event

/-- Whether the method takes a command, given the superclasses of the command, as its one and only
parameter. -/
def processes (method : Method) (matching : CommandMatching) (command : String)
    (superclasses : List String) : Bool :=
  match method.params, matching with
  | [param], .exact => param.type.typeName == command
  | [param], .inheritanceAware =>
    param.type.typeName == command || superclasses.contains param.type.typeName
  | _, _ => false

/-- Methods of one name are told apart by the declared types of their parameters. -/
def signature (method : Method) : String × List String :=
  (method.name, method.params.map (·.type.resolved.text))

end Method

end DomainAtlas
