import DomainAtlas.Diagram.Edge
import DomainAtlas.Model.Contexts

/-! Drawings of a model as a Mermaid graph: a box per bounded context, a node and a style for each
profile, and an arrow for each edge. -/

namespace DomainAtlas

structure Box where
  package : String
  members : List Profile
  deriving DecidableEq

structure Drawing where
  boxes : List Box
  /-- The profiles that belong to no bounded context. -/
  loose : List Profile
  edges : List Edge
  /-- Every profile that is drawn. -/
  drawn : List Profile
  deriving DecidableEq

/-- The identifier of a node: what is neither an ASCII letter nor a digit becomes an underscore. -/
def nodeId (name : String) : String :=
  String.ofList (name.toList.map fun c => if c.isAlphanum then c else '_')

def Role.style : Role → String
  | aggregateRoot => "aggregate"
  | entity => "entity"
  | valueObject | identity | enumeration => "valueObject"
  | domainEvent => "event"
  | domainCommand => "command"
  | readModel => "readModel"
  | repository => "repository"
  | domainService | applicationService | serviceKind | queryHandler | outboundService => "service"

def styles : List (String × String) :=
  [("aggregate", "fill:#f9f,stroke:#333,stroke-width:4px"),
    ("entity", "fill:#bbf,stroke:#333,stroke-width:2px"),
    ("valueObject", "fill:#bfb,stroke:#333,stroke-width:2px"),
    ("event", "fill:#fbf,stroke:#333,stroke-width:2px"),
    ("command", "fill:#fbb,stroke:#333,stroke-width:2px"),
    ("readModel", "fill:#bff,stroke:#333,stroke-width:2px"),
    ("repository", "fill:#ffb,stroke:#333,stroke-width:2px"),
    ("service", "fill:#eee,stroke:#333,stroke-width:2px")]

namespace Model

/-- The box of a package: the drawn profiles that belong to its context. -/
def boxOf (model : Model) (drawn : List Profile) (package : String) : Box where
  package
  members := drawn.filter fun profile => model.packageOf? profile.typeName == some package

def drawing (model : Model) (drawn : List Profile) : Drawing where
  boxes := (model.packages.map (model.boxOf drawn)).filter (!·.members.isEmpty)
  loose := drawn.filter fun profile => (model.packageOf? profile.typeName).isNone
  edges := model.edges drawn
  drawn

end Model

/-- What stands in the node of a profile: its simple name, its role and, if wanted, the number of
its fields. -/
def Profile.label (profile : Profile) (fieldCounts : Bool) : String :=
  TypeName.simple profile.typeName ++ "<br/><i>" ++ profile.role.title ++ "</i>"
    ++ if fieldCounts && !profile.fields.isEmpty then
        "<br/>" ++ toString profile.fields.length ++ " fields"
      else ""

def Profile.node (profile : Profile) (fieldCounts : Bool) : String :=
  nodeId profile.typeName ++ "[\"" ++ profile.label fieldCounts ++ "\"]"

def Profile.styleLine (profile : Profile) : String :=
  "    class " ++ nodeId profile.typeName ++ " " ++ profile.role.style ++ ";"

def Edge.line (edge : Edge) : String :=
  "    " ++ nodeId edge.source ++ " " ++ edge.relation.arrow ++ "|" ++ edge.relation.label ++ "| "
    ++ nodeId edge.target

def Box.lines (box : Box) (fieldCounts : Bool) : List String :=
  ("    subgraph " ++ nodeId box.package ++ "[\"" ++ box.package ++ "\"]") ::
    box.members.map (fun profile => "        " ++ profile.node fieldCounts) ++ ["    end"]

namespace Drawing

def lines (drawing : Drawing) (fieldCounts : Bool) : List String :=
  ["graph TD", "    %% Node Styles"]
    ++ styles.map (fun (name, look) => "    classDef " ++ name ++ " " ++ look ++ ";")
    ++ [""]
    ++ drawing.boxes.flatMap (·.lines fieldCounts)
    ++ drawing.loose.map (fun profile => "    " ++ profile.node fieldCounts)
    ++ ["", "    %% Relationships"]
    ++ drawing.edges.map Edge.line
    ++ ["", "    %% Apply Styles"]
    ++ drawing.drawn.map Profile.styleLine

/-- The text of a drawing. Every line ends with a line break. -/
def text (drawing : Drawing) (fieldCounts : Bool) : String :=
  String.join ((drawing.lines fieldCounts).map (· ++ "\n"))

end Drawing

def Model.render (model : Model) (fieldCounts : Bool) : String :=
  (model.drawing model.profiles).text fieldCounts

def Context.render (context : Context) (fieldCounts : Bool) : String :=
  (context.model.drawing context.profiles).text fieldCounts

end DomainAtlas
