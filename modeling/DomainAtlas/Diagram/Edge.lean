import DomainAtlas.Firsts
import DomainAtlas.Model.Messages

/-! The edges of a diagram: how the profiles that are drawn relate to each other. -/

namespace DomainAtlas

inductive Relation where
  | contains
  | references
  | publishes
  | listens
  | processes
  | manages
  deriving DecidableEq, Repr

namespace Relation

def arrow : Relation → String
  | contains | manages => "-->"
  | references | listens => "-.->"
  | publishes | processes => "==>"

def label : Relation → String
  | contains => "contains"
  | references => "references"
  | publishes => "publishes"
  | listens => "listens"
  | processes => "processes"
  | manages => "manages"

/-- What a field makes of the type it holds. -/
def ofHolding? : Holding → Option Relation
  | .basic => none
  | .value | .entity => some contains
  | .aggregateRoot => some references

end Relation

structure Edge where
  source : String
  relation : Relation
  target : String
  deriving DecidableEq, Repr

namespace Profile

def fieldEdges (profile : Profile) : List Edge :=
  if profile.role.isDomainObject then
    (profile.fields.filter (!·.isStatic)).filterMap fun field =>
      (Relation.ofHolding? field.holding).map (⟨profile.typeName, ·, field.typeName⟩)
  else []

def messageEdges (profile : Profile) : List Edge :=
  profile.publishedEvents.map (⟨profile.typeName, .publishes, ·⟩)
    ++ profile.listenedEvents.map (⟨profile.typeName, .listens, ·⟩)

def managementEdges (profile : Profile) : List Edge :=
  profile.kind.managedAggregate?.toList.map (⟨profile.typeName, .manages, ·⟩)

end Profile

namespace Model

/-- The edges to the commands that a profile's own methods process. -/
def commandEdges (model : Model) (commands : List Profile) (profile : Profile) : List Edge :=
  (commands.filter (model.processesItself profile)).map fun command =>
    ⟨profile.typeName, .processes, command.typeName⟩

def edgesFrom (model : Model) (commands : List Profile) (profile : Profile) : List Edge :=
  profile.fieldEdges ++ profile.messageEdges ++ model.commandEdges commands profile
    ++ profile.managementEdges

/-- The edges between the profiles that are drawn, each once. -/
def edges (model : Model) (drawn : List Profile) : List Edge :=
  let names := drawn.map (·.typeName)
  let commands := drawn.filter (·.role == .domainCommand)
  distinct <| (drawn.flatMap (model.edgesFrom commands)).filter fun edge =>
    names.contains edge.source && names.contains edge.target

end Model

end DomainAtlas
