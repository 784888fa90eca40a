import DomainAtlas.Json.Decode
import DomainAtlas.Profile.Member

/-! The names that stand for plain values in written data, told apart by case. -/

namespace DomainAtlas

namespace Role

def toJson (role : Role) : Json := .str role.code

def ofJson? (json : Json) : Option Role := do ofCode? (← json.name?)

end Role

namespace Tag

def toJson (tag : Tag) : Json := .str (code tag)

def ofJson? (json : Json) : Option Tag := do ofCode? (← json.name?)

end Tag

namespace Direction

def code : Direction → String
  | upper => "UPPER"
  | lower => "LOWER"

def toJson (direction : Direction) : Json := .str direction.code

def ofJson? (json : Json) : Option Direction := do
  let text ← json.name?
  [upper, lower].find? (·.code == text)

end Direction

namespace Access

def code : Access → String
  | anyone => "PUBLIC"
  | heirs => "PROTECTED"
  | owner => "PRIVATE"
  | package => "PACKAGE"

def toJson (access : Access) : Json := .str access.code

def ofJson? (json : Json) : Option Access := do
  let text ← json.name?
  [anyone, heirs, owner, package].find? (·.code == text)

end Access

namespace Container

def code : Container → String
  | none => "NONE"
  | list => "LIST"
  | set => "SET"
  | collection => "COLLECTION"
  | stream => "STREAM"
  | array => "ARRAY"

def toJson (container : Container) : Json := .str container.code

def ofJson? (json : Json) : Option Container := do
  let text ← json.name?
  [none, list, set, collection, stream, array].find? (·.code == text)

end Container

namespace Holding

def code : Holding → String
  | basic => "BASIC"
  | value => "VALUE_REFERENCE"
  | entity => "ENTITY_REFERENCE"
  | aggregateRoot => "AGGREGATE_ROOT_REFERENCE"

end Holding

namespace CommandMatching

def code : CommandMatching → String
  | exact => "exact"
  | inheritanceAware => "inheritanceAware"

def toJson (matching : CommandMatching) : Json := .str matching.code

def ofJson? (json : Json) : Option CommandMatching := do
  let text ← json.name?
  [exact, inheritanceAware].find? (·.code == text)

end CommandMatching

namespace AssertionRule

def all : List AssertionRule :=
  [isNull, isNotNull, isTrue, isFalse, isEmpty, isNotEmpty, isNotBlank, hasLength, hasMaxLength,
    hasMinLength, hasSize, hasMaxSize, hasMinSize, isInRange, isGreaterOrEqual, isLessOrEqual,
    isPositive, isNegative, isPast, isFuture, regEx, isValidEmail]

def code : AssertionRule → String
  | isNull => "isNull"
  | isNotNull => "isNotNull"
  | isTrue => "isTrue"
  | isFalse => "isFalse"
  | isEmpty => "isEmpty"
  | isNotEmpty => "isNotEmpty"
  | isNotBlank => "isNotBlank"
  | hasLength => "hasLength"
  | hasMaxLength => "hasMaxLength"
  | hasMinLength => "hasMinLength"
  | hasSize => "hasSize"
  | hasMaxSize => "hasMaxSize"
  | hasMinSize => "hasMinSize"
  | isInRange => "isInRange"
  | isGreaterOrEqual => "isGreaterOrEqual"
  | isLessOrEqual => "isLessOrEqual"
  | isPositive => "isPositive"
  | isNegative => "isNegative"
  | isPast => "isPast"
  | isFuture => "isFuture"
  | regEx => "regEx"
  | isValidEmail => "isValidEmail"

def toJson (rule : AssertionRule) : Json := .str rule.code

def ofJson? (json : Json) : Option AssertionRule := do
  let text ← json.name?
  all.find? (·.code == text)

end AssertionRule

@[simp] theorem Role.ofJson?_toJson (role : Role) : Role.ofJson? role.toJson = some role :=
  Role.ofCode?_code role

@[simp] theorem Tag.ofJson?_toJson (tag : Tag) : Tag.ofJson? (Tag.toJson tag) = some tag :=
  Tag.ofCode?_code tag

@[simp] theorem Direction.ofJson?_toJson (direction : Direction) :
    Direction.ofJson? direction.toJson = some direction := by cases direction <;> decide

@[simp] theorem Access.ofJson?_toJson (access : Access) :
    Access.ofJson? access.toJson = some access := by cases access <;> decide

@[simp] theorem Container.ofJson?_toJson (container : Container) :
    Container.ofJson? container.toJson = some container := by cases container <;> decide

@[simp] theorem CommandMatching.ofJson?_toJson (matching : CommandMatching) :
    CommandMatching.ofJson? matching.toJson = some matching := by cases matching <;> decide

@[simp] theorem AssertionRule.ofJson?_toJson (rule : AssertionRule) :
    AssertionRule.ofJson? rule.toJson = some rule := by cases rule <;> decide

end DomainAtlas
