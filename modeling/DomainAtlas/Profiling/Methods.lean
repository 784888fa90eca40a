import DomainAtlas.Profile.Member
import DomainAtlas.Profiling.TypeUse

/-! The methods of a type: its own, then those of its superclasses and interfaces, nearest first.
Of the methods that share a signature only the nearest stays, and it is marked as overriding. -/

namespace DomainAtlas.Catalog

def paramOf (catalog : Catalog) (settings : Settings) (param : ParamDecl) : Param where
  name := param.name
  type := catalog.useOf settings.containers param.type param.assertions param.containerAssertions

def methodOf (catalog : Catalog) (settings : Settings) (owner : TypeDecl) (method : MethodDecl) :
    Method where
  name := method.name
  declaredBy := owner.name
  access := method.access
  params := method.params.map (catalog.paramOf settings)
  result := method.result.map (catalog.useOf settings.containers ·)
  isStatic := method.isStatic
  isGetter := settings.isGetterName method.name && method.params.isEmpty && method.result.isSome
  isSetter :=
    settings.isSetterName method.name && method.params.length == 1 && method.result.isNone
  publishedEvents := method.publishedEvents
  listenedEvent := method.listenedEvent

/-- The described types whose methods a type has, nearest first. -/
def methodOwners (catalog : Catalog) (decl : TypeDecl) : List TypeDecl :=
  decl :: (catalog.superclassDecls decl.name ++ catalog.interfaceDecls decl.name)

def declaredMethods (catalog : Catalog) (settings : Settings) (owners : List TypeDecl) :
    List Method :=
  owners.flatMap fun owner => owner.methods.map (catalog.methodOf settings owner)

/-- The methods gathered so far, and where among them each signature stands. -/
structure Gathering where
  methods : List Method := []
  places : List ((String × List String) × Nat) := []
  deriving DecidableEq, Repr

namespace Gathering

/-- A method with a new signature is added. Any other is dropped, and the nearer method that it
shares its signature with is marked. -/
def add (gathering : Gathering) (method : Method) : Gathering :=
  match gathering.places.lookup method.signature with
  | some place =>
    { gathering with
      methods := gathering.methods.modify place fun nearer => { nearer with overridden := true } }
  | none =>
    { methods := gathering.methods ++ [method]
      places := (method.signature, gathering.methods.length) :: gathering.places }

def addAll (gathering : Gathering) (methods : List Method) : Gathering := methods.foldl add gathering

end Gathering

def methodsOf (catalog : Catalog) (settings : Settings) (decl : TypeDecl) : List Method :=
  (Gathering.addAll {} (catalog.declaredMethods settings (catalog.methodOwners decl))).methods

end DomainAtlas.Catalog
