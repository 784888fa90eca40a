import DomainAtlas.Document
import DomainAtlas.Model.Contexts
import DomainAtlas.Model.Objects
import DomainAtlas.Profiling.Profiles

/-! Registries: a place for the model in use. Until a model has been put there every question is
answered by the fault that there is none. -/

namespace DomainAtlas

/-- Where the profiles of a model come from. -/
structure Factory where
  profiles : Except Fault (NameMap Profile)
  packages : List String

namespace Factory

def ofCatalog (catalog : Catalog) (settings : Settings) (packages : List String) : Factory where
  profiles := catalog.profiles settings
  packages

def ofDocument (document : Document) : Factory where
  profiles := .ok document.types
  packages := document.packages

def model (factory : Factory) (settings : Settings) : Except Fault Model := do
  return .assemble (← factory.profiles) factory.packages settings

end Factory

structure Registry where
  current : Option Model := none
  deriving DecidableEq

namespace Registry

def isInitialized (registry : Registry) : Bool := registry.current.isSome

def install (_registry : Registry) (model : Model) : Registry := ⟨some model⟩

def reset (_registry : Registry) : Registry := ⟨none⟩

/-- Puts a factory's model in the registry. When the factory fails, what was there stays. -/
def adopt (registry : Registry) (factory : Factory) (settings : Settings := .default) :
    Except Fault Unit × Registry :=
  match factory.model settings with
  | .ok model => (.ok (), registry.install model)
  | .error fault => (.error fault, registry)

def model (registry : Registry) : Except Fault Model :=
  match registry.current with
  | some model => .ok model
  | none => .error .notInitialized

def ask {α : Type} (registry : Registry) (question : Model → α) : Except Fault α :=
  registry.model.map question

def profile? (registry : Registry) (name : String) : Except Fault (Option Profile) :=
  registry.ask (·.get? name)

def typed (registry : Registry) (tag : Tag) (name : String) : Except Fault Profile := do
  match ← registry.profile? name with
  | none => .error (.notFound tag name)
  | some profile =>
    if some profile.role = tag then .ok profile else .error (.wrongRole tag profile.role name)

def lookup (registry : Registry) (role : Role) (name : String) : Except Fault (View role) := do
  (← registry.model).lookup role name

def contains (registry : Registry) (name : String) : Except Fault Bool :=
  registry.ask (·.contains name)

def packages (registry : Registry) : Except Fault (List String) := registry.ask (·.packages)

/-- The bounded contexts of the model in use. A context keeps its model, whatever the registry
holds later. -/
def contexts (registry : Registry) : Except Fault (List Context) := registry.ask (·.contexts)

def context? (registry : Registry) (package : String) : Except Fault (Option Context) :=
  registry.ask (·.context? package)

def repositoryFor (registry : Registry) (aggregate : String) :
    Except Fault (View .repository) := do
  (← registry.model).repositoryFor aggregate

end Registry

end DomainAtlas
