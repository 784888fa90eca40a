import DomainAtlas.Registry

/-! Sessions: the calls made on a registry one after the other, with the models and contexts that are
handed out on the way. Whoever got one keeps it, whatever the registry holds later. -/

namespace DomainAtlas

/-- What can be asked of a registry that has a model. -/
inductive Query : Type 1 where
  | model
  | about {α : Type} (question : Model → α)
  | profile (name : String)
  | typed (tag : Tag) (name : String)
  | lookup (role : Role) (name : String)
  | contains (name : String)
  | packages
  | contexts
  | context (package : String)
  | repositoryFor (aggregate : String)

namespace Query

def Answer : Query → Type
  | model => Model
  | @about α _ => α
  | profile _ => Option Profile
  | typed _ _ => Profile
  | lookup role _ => View role
  | contains _ => Bool
  | packages => List String
  | contexts => List Context
  | context _ => Option Context
  | repositoryFor _ => View .repository

end Query

def Registry.query (registry : Registry) : (query : Query) → Except Fault query.Answer
  | .model => registry.model
  | .about question => registry.ask question
  | .profile name => registry.profile? name
  | .typed tag name => registry.typed tag name
  | .lookup role name => registry.lookup role name
  | .contains name => registry.contains name
  | .packages => registry.packages
  | .contexts => registry.contexts
  | .context package => registry.context? package
  | .repositoryFor aggregate => registry.repositoryFor aggregate

/-- A model or a context in the hands of a caller. -/
inductive Snapshot where
  | model (model : Model)
  | context (context : Context)
  deriving DecidableEq

namespace Snapshot

/-- The model that a snapshot answers from. -/
def source : Snapshot → Model
  | model taken => taken
  | context taken => taken.model

end Snapshot

/-- The snapshots that an answer hands out. -/
def Query.snapshots : (query : Query) → Except Fault query.Answer → List Snapshot
  | .model, .ok taken => [.model taken]
  | .contexts, .ok taken => taken.map .context
  | .context _, .ok (some taken) => [.context taken]
  | _, _ => []

inductive Call : Type 1 where
  | adopt (factory : Factory)
  | adoptWith (factory : Factory) (settings : Settings)
  | install (model : Model)
  | reset
  | isInitialized
  | ask (query : Query)

def Call.Reply : Call → Type
  | adopt _ | adoptWith _ _ => Except Fault Unit
  | install _ | reset => Unit
  | isInitialized => Bool
  | ask query => Except Fault query.Answer

structure Session where
  registry : Registry := {}
  /-- All snapshots that were handed out, the latest last. -/
  kept : List Snapshot := []

namespace Session

def adopt (session : Session) (factory : Factory) (settings : Settings) :
    Except Fault Unit × Session :=
  let (outcome, registry) := session.registry.adopt factory settings
  (outcome, { session with registry })

/-- What a call is answered, and the session that it leaves. -/
def call (session : Session) : (call : Call) → call.Reply × Session
  | .adopt factory => session.adopt factory .default
  | .adoptWith factory settings => session.adopt factory settings
  | .install model => ((), { session with registry := session.registry.install model })
  | .reset => ((), { session with registry := session.registry.reset })
  | .isInitialized => (session.registry.isInitialized, session)
  | .ask query =>
    let answer := session.registry.query query
    (answer, { session with kept := session.kept ++ query.snapshots answer })

/-- The session that calls leave when they are made one after the other. -/
def after (session : Session) (calls : List Call) : Session :=
  calls.foldl (fun session call => (session.call call).2) session

end Session

end DomainAtlas
