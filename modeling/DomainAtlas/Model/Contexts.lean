import DomainAtlas.Model.Basic
import DomainAtlas.TypeName

/-! Bounded contexts. A context is the part of a model whose type names begin with a package. -/

namespace DomainAtlas

structure Context where
  model : Model
  package : String
  deriving DecidableEq

namespace Context

def contains (context : Context) (name : String) : Bool := TypeName.isWithin context.package name

def profiles (context : Context) : List Profile :=
  context.model.profiles.filter fun profile => context.contains profile.typeName

def views (context : Context) (role : Role) : List (View role) :=
  (context.model.views role).filter fun view => context.contains view.typeName

end Context

def longest? : List String → Option String
  | [] => none
  | text :: rest =>
    match longest? rest with
    | some other => some (if other.length < text.length then text else other)
    | none => some text

namespace Model

/-- The context of any package, registered or not. -/
def contextAt (model : Model) (package : String) : Context := ⟨model, package⟩

def context? (model : Model) (package : String) : Option Context :=
  if package ∈ model.packages then some (model.contextAt package) else none

def contexts (model : Model) : List Context := model.packages.map model.contextAt

/-- The package of the context that a type belongs to: the longest registered package that its name
begins with. -/
def packageOf? (model : Model) (name : String) : Option String :=
  longest? (model.packages.filter (TypeName.isWithin · name))

/-- The profiles of a classification whose names begin with some text. -/
def within (model : Model) (start : String) (tag : Tag) : List Profile :=
  (model.ofTag tag).filter fun profile => TypeName.isWithin start profile.typeName

end Model

end DomainAtlas
