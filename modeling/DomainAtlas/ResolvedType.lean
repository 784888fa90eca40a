import DomainAtlas.TypeExpr

/-! Resolved types: what a declared type stands for once wildcards and type variables have given
way to their bounds. -/

namespace DomainAtlas

def objectName : String := "java.lang.Object"

structure ResolvedType where
  name : String
  arguments : List ResolvedType
  wildcard : Option Direction
  isArray : Bool
  deriving Repr, Inhabited

namespace ResolvedType

mutual
def decEq : (a b : ResolvedType) → Decidable (a = b)
  | ⟨n, as, w, k⟩, ⟨m, bs, v, l⟩ =>
    match decEqList as bs with
    | isTrue same =>
      if h : n = m ∧ w = v ∧ k = l then isTrue (by rw [h.1, h.2.1, h.2.2, same])
      else isFalse (by simp_all)
    | isFalse differ => isFalse (by simp [differ])

def decEqList : (as bs : List ResolvedType) → Decidable (as = bs)
  | [], [] => isTrue rfl
  | a :: as, b :: bs =>
    match decEq a b, decEqList as bs with
    | isTrue same, isTrue rest => isTrue (by rw [same, rest])
    | isFalse differ, _ => isFalse (by simp [differ])
    | _, isFalse differ => isFalse (by simp [differ])
  | [], _ :: _ | _ :: _, [] => isFalse (by simp)
end

instance : DecidableEq ResolvedType := decEq

def ofName (name : String) (arguments : List ResolvedType := []) : ResolvedType :=
  ⟨name, arguments, none, false⟩

mutual
/-- The names in a type, each before those of its arguments. -/
def names : ResolvedType → List String
  | ⟨name, arguments, _, _⟩ => name :: argumentNames arguments

def argumentNames : List ResolvedType → List String
  | [] => []
  | argument :: arguments => argument.names ++ argumentNames arguments
end

/-- What stands before the name of a wildcard's bound. -/
def wildcardText : Option Direction → String
  | none => ""
  | some .upper => "? extends "
  | some .lower => "? super "

mutual
/-- The text of a type. A wildcard without a bound is a lone question mark. -/
def text : ResolvedType → String
  | ⟨name, arguments, wildcard, isArray⟩ =>
    if wildcard = some .upper ∧ name = objectName ∧ arguments = [] then "?"
    else
      wildcardText wildcard ++ name ++ argumentsText arguments ++ (if isArray then "[]" else "")

/-- The arguments between angle brackets; nothing when there are none. -/
def argumentsText : List ResolvedType → String
  | [] => ""
  | argument :: arguments => "<" ++ argument.text ++ nextArgumentsText arguments

def nextArgumentsText : List ResolvedType → String
  | [] => ">"
  | argument :: arguments => ", " ++ argument.text ++ nextArgumentsText arguments
end

end ResolvedType

namespace TypeExpr

mutual
/-- The type that an expression stands for. A wildcard or a type variable stands for its first
bound, and without one for any object; the array of a type keeps all but its array mark. -/
def resolve : TypeExpr → ResolvedType
  | named name arguments => .ofName name (resolveAll arguments)
  | array component => { component.resolve with isArray := true }
  | wildcard direction bounds =>
    match resolveFirst bounds with
    | some bound => { bound with wildcard := some direction }
    | none => { ResolvedType.ofName objectName with wildcard := some .upper }
  | typeVar _ bounds => (resolveFirst bounds).getD (.ofName objectName)

def resolveAll : List TypeExpr → List ResolvedType
  | [] => []
  | type :: types => type.resolve :: resolveAll types

def resolveFirst : List TypeExpr → Option ResolvedType
  | [] => none
  | type :: _ => some type.resolve
end

mutual
/-- The name of the element type behind arrays, wildcards and type variables. -/
def elementName : TypeExpr → String
  | named name _ => name
  | array component => component.elementName ++ "[]"
  | wildcard _ bounds | typeVar _ bounds => firstElementName bounds

def firstElementName : List TypeExpr → String
  | [] => objectName
  | type :: _ => type.elementName
end

end TypeExpr

end DomainAtlas
