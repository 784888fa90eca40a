import DomainAtlas.Catalog.Basic
import DomainAtlas.Format.Codes
import DomainAtlas.Json.Reader
import DomainAtlas.Json.Writer

/-! Declarations and catalogs as data. A catalog is an object that holds each declaration under the
name it is stored under. -/

namespace DomainAtlas

/-- How deep the arrays and objects of a document may nest where they are used. -/
def nestingLimit : Nat := 127

open Json

namespace Assertion

def toJson (assertion : Assertion) : Json :=
  .obj <|
    [("assertionType", assertion.rule.toJson)]
      ++ optional "param1" .str assertion.param1
      ++ optional "param2" .str assertion.param2
      ++ optional "message" .str assertion.message

def ofJson? (json : Json) : Option Assertion := do
  let members ← json.members?
  return {
    rule := ← required AssertionRule.ofJson? members "assertionType"
    param1 := ← textOrNull members "param1"
    param2 := ← textOrNull members "param2"
    message := ← textOrNull members "message" }

end Assertion

namespace TypeExpr

mutual
def toJson : TypeExpr → Json
  | named name arguments =>
    .obj ([("kind", .str "named"), ("name", .str name)] ++ listToJson "arguments" arguments)
  | array component => .obj [("kind", .str "array"), ("component", component.toJson)]
  | wildcard direction bounds =>
    .obj ([("kind", .str "wildcard"), ("bound", direction.toJson)] ++ listToJson "bounds" bounds)
  | typeVar name bounds =>
    .obj ([("kind", .str "variable"), ("name", .str name)] ++ listToJson "bounds" bounds)

def listToJson (key : String) : List TypeExpr → List (String × Json)
  | [] => []
  | type :: types => [(key, .arr (type.toJson :: itemsToJson types))]

def itemsToJson : List TypeExpr → List Json
  | [] => []
  | type :: types => type.toJson :: itemsToJson types
end

def kindNames : List String := ["named", "array", "wildcard", "variable"]

/-- The kind of a type inside another one, by its name or by its place among the kinds. -/
def innerKind? : Json → Option String
  | .str name => some name
  | json => do kindNames[← json.index?]?

/-- The direction of a wildcard. Besides the forms that every name has, it may be the only key of
an object over an empty object. -/
def directionOfJson? : Json → Option Direction
  | .obj [(code, .obj [])] => Direction.ofJson? (.str code)
  | json => Direction.ofJson? json

/-- Decodes types that nest at most so many levels deep. -/
def ofJsonWithin? : (kind? : Json → Option String) → Nat → Json → Option TypeExpr
  | _, 0, _ => none
  | kind?, level + 1, json => do
    let members ← json.members?
    match ← required kind? members "kind" with
    | "named" =>
      return .named (← requiredText members "name")
        (← listOrEmpty (ofJsonWithin? innerKind? level) members "arguments")
    | "array" => return .array (← required (ofJsonWithin? innerKind? level) members "component")
    | "wildcard" =>
      return .wildcard (← required directionOfJson? members "bound")
        (← listOrEmpty (ofJsonWithin? innerKind? level) members "bounds")
    | "variable" =>
      return .typeVar (← requiredText members "name")
        (← listOrEmpty (ofJsonWithin? innerKind? level) members "bounds")
    | _ => none

/-- What a type is cannot be told before all its members are known, so each of them must be
usable, and everything inside it. -/
def ofJson? (json : Json) : Option TypeExpr :=
  if json.isWhole then ofJsonWithin? text? json.depth json else none

end TypeExpr

namespace FieldDecl

def toJson (field : FieldDecl) : Json :=
  .obj <|
    [("name", .str field.name), ("typeRef", field.type.toJson),
      ("accessLevel", field.access.toJson), ("isStatic", .bool field.isStatic),
      ("isFinal", .bool field.isFinal)]
      ++ unlessEmpty "assertions" Assertion.toJson field.assertions
      ++ unlessEmpty "containerAssertions" Assertion.toJson field.containerAssertions
      ++ [("concurrencyVersion", .bool field.isVersion)]

def ofJson? (json : Json) : Option FieldDecl := do
  let members ← json.members?
  return {
    name := ← requiredText members "name"
    type := ← required TypeExpr.ofJson? members "typeRef"
    access := ← orElse .owner Access.ofJson? members "accessLevel"
    isStatic := ← flagOrFalse members "isStatic"
    isFinal := ← flagOrFalse members "isFinal"
    assertions := ← listOrEmpty Assertion.ofJson? members "assertions"
    containerAssertions := ← listOrEmpty Assertion.ofJson? members "containerAssertions"
    isVersion := ← flagOrFalse members "concurrencyVersion" }

end FieldDecl

namespace ParamDecl

def toJson (param : ParamDecl) : Json :=
  .obj <|
    [("name", .str param.name), ("typeRef", param.type.toJson)]
      ++ unlessEmpty "assertions" Assertion.toJson param.assertions
      ++ unlessEmpty "containerAssertions" Assertion.toJson param.containerAssertions

def ofJson? (json : Json) : Option ParamDecl := do
  let members ← json.members?
  return {
    name := ← requiredText members "name"
    type := ← required TypeExpr.ofJson? members "typeRef"
    assertions := ← listOrEmpty Assertion.ofJson? members "assertions"
    containerAssertions := ← listOrEmpty Assertion.ofJson? members "containerAssertions" }

end ParamDecl

namespace MethodDecl

def toJson (method : MethodDecl) : Json :=
  .obj <|
    [("name", .str method.name), ("accessLevel", method.access.toJson),
      ("parameters", .arr (method.params.map ParamDecl.toJson))]
      ++ optional "returnType" TypeExpr.toJson method.result
      ++ [("isStatic", .bool method.isStatic)]
      ++ unlessEmpty "publishedEventTypeNames" .str method.publishedEvents
      ++ optional "listenedEventTypeName" .str method.listenedEvent

def ofJson? (json : Json) : Option MethodDecl := do
  let members ← json.members?
  return {
    name := ← requiredText members "name"
    access := ← orElse .owner Access.ofJson? members "accessLevel"
    params := ← listOrEmpty ParamDecl.ofJson? members "parameters"
    result := ← nullable TypeExpr.ofJson? members "returnType"
    isStatic := ← flagOrFalse members "isStatic"
    publishedEvents := ← textsOrEmpty members "publishedEventTypeNames"
    listenedEvent := ← textOrNull members "listenedEventTypeName" }

end MethodDecl

namespace TypeDecl

def toJson (decl : TypeDecl) : Json :=
  .obj <|
    [("typeName", .str decl.name), ("capabilities", .arr (decl.roles.map Role.toJson)),
      ("isAbstract", .bool decl.isAbstract)]
      ++ optional "superTypeName" .str decl.superclass
      ++ unlessEmpty "interfaceTypeNames" .str decl.interfaces
      ++ [("fields", .arr (decl.fields.map FieldDecl.toJson)),
        ("methods", .arr (decl.methods.map MethodDecl.toJson))]
      ++ optional "identityTypeName" .str decl.identityType
      ++ optional "managedAggregateTypeName" .str decl.managedAggregate
      ++ optional "providedReadModelTypeName" .str decl.providedReadModel
      ++ optional "aggregateTargetIdentityTypeName" .str decl.targetIdentity
      ++ optional "domainServiceTargetTypeName" .str decl.targetService
      ++ unlessEmpty "enumConstants" .str decl.constants

def ofJson? (json : Json) : Option TypeDecl := do
  let members ← json.members?
  return {
    name := ← requiredText members "typeName"
    roles := ← listOrEmpty Role.ofJson? members "capabilities"
    isAbstract := ← flagOrFalse members "isAbstract"
    superclass := ← textOrNull members "superTypeName"
    interfaces := ← textsOrEmpty members "interfaceTypeNames"
    fields := ← listOrEmpty FieldDecl.ofJson? members "fields"
    methods := ← listOrEmpty MethodDecl.ofJson? members "methods"
    identityType := ← textOrNull members "identityTypeName"
    managedAggregate := ← textOrNull members "managedAggregateTypeName"
    providedReadModel := ← textOrNull members "providedReadModelTypeName"
    targetIdentity := ← textOrNull members "aggregateTargetIdentityTypeName"
    targetService := ← textOrNull members "domainServiceTargetTypeName"
    constants := ← textsOrEmpty members "enumConstants" }

end TypeDecl

namespace NameMap

variable {α : Type}

def toJson (encode : α → Json) (map : NameMap α) : Json :=
  .obj (map.entries.map fun (name, value) => (name, encode value))

/-- A key may be repeated: it keeps its first place and takes its last value. -/
def ofJson? (decode : Json → Option α) (json : Json) : Option (NameMap α) := do
  let members ← json.members?
  return .ofList (← members.mapM fun (name, value) => do return (name, ← decode value))

end NameMap

namespace Catalog

def toJson (catalog : Catalog) : Json := catalog.types.toJson TypeDecl.toJson

def ofJson? (json : Json) : Option Catalog := do
  return ⟨← NameMap.ofJson? TypeDecl.ofJson? json⟩

def toText (catalog : Catalog) : String := catalog.toJson.compact

/-- Reads a catalog as it stands, whatever names its declarations are stored under. -/
def ofText? (text : String) : Option Catalog := do ofJson? (← read? nestingLimit text)

end Catalog

end DomainAtlas
