import DomainAtlas.Model.Basic

/-! Changes to a model that has been assembled. A change tells which profile it takes out of the
model: the one whose place a new profile takes, or the one that is removed. -/

namespace DomainAtlas

inductive Change where
  | insert (profile : Profile)
  | remove (name : String)
  deriving DecidableEq, Repr

def Change.name : Change → String
  | insert profile => profile.typeName
  | remove name => name

namespace Model

/-- What a change takes out of a model, and the model that it leaves. -/
def apply (model : Model) : Change → Option Profile × Model
  | .insert profile => (model.get? profile.typeName, model.insert profile)
  | .remove name => (model.get? name, model.remove name)

/-- The model that changes leave when they are made one after the other. -/
def after (model : Model) (changes : List Change) : Model :=
  changes.foldl (fun model change => (model.apply change).2) model

end Model

end DomainAtlas
