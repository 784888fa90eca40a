import DomainAtlas.Model.Walk

/-! Who publishes and listens to an event, and who processes a command. A domain object answers for
everything it contains; any other type answers for its own methods alone. -/

namespace DomainAtlas

namespace Model

/-- Whether a profile, or anything it answers for, is of a sort. -/
def anySpeaker (model : Model) (profile : Profile) (wanted : Profile → Bool) : Bool :=
  if profile.role.isDomainObject then model.containsAny profile wanted else wanted profile

def publishes (model : Model) (profile event : Profile) : Bool :=
  model.anySpeaker profile (·.publishes event.typeName)

def listensTo (model : Model) (profile event : Profile) : Bool :=
  model.anySpeaker profile (·.listensTo event.typeName)

def processesItself (model : Model) (profile command : Profile) : Bool :=
  profile.processes model.settings.commandMatching command

def processes (model : Model) (profile command : Profile) : Bool :=
  model.anySpeaker profile (model.processesItself · command)

end Model

namespace View

/-- Whether a view, or anything that views of its role answer for, is of a sort. -/
def anySpeaker (model : Model) (wanted : Profile → Bool) : {role : Role} → View role → Bool
  | .aggregateRoot, view | .entity, view | .valueObject, view | .identity, view
  | .enumeration, view => model.containsAny view.profile wanted
  | .domainEvent, view | .domainCommand, view | .readModel, view | .domainService, view
  | .repository, view | .applicationService, view | .serviceKind, view | .queryHandler, view
  | .outboundService, view => wanted view.profile

variable {role : Role}

def publishes (model : Model) (view : View role) (event : Profile) : Bool :=
  view.anySpeaker model (·.publishes event.typeName)

def listensTo (model : Model) (view : View role) (event : Profile) : Bool :=
  view.anySpeaker model (·.listensTo event.typeName)

def processes (model : Model) (view : View role) (command : Profile) : Bool :=
  view.anySpeaker model (model.processesItself · command)

end View

namespace Model

def publishedEvents (model : Model) (profile : Profile) :
    Except Fault (List (View .domainEvent)) :=
  model.resolveAll .domainEvent profile.typeName profile.publishedEvents

def listenedEvents (model : Model) (profile : Profile) : Except Fault (List (View .domainEvent)) :=
  model.resolveAll .domainEvent profile.typeName profile.listenedEvents

def processedCommands (model : Model) (profile : Profile) : List (View .domainCommand) :=
  (model.views .domainCommand).filter fun command => model.processesItself profile command.profile

def publishers (model : Model) (event : Profile) : List Profile :=
  model.profiles.filter (model.publishes · event)

def listeners (model : Model) (event : Profile) : List Profile :=
  model.profiles.filter (model.listensTo · event)

def processors (model : Model) (command : Profile) : List Profile :=
  model.profiles.filter (model.processes · command)

def publishing (model : Model) (role : Role) (event : Profile) : List (View role) :=
  (model.views role).filter (·.publishes model event)

def listening (model : Model) (role : Role) (event : Profile) : List (View role) :=
  (model.views role).filter (·.listensTo model event)

/-- The aggregate that a command is for: the first root that the target identity identifies. -/
def aggregateTarget? (model : Model) (command : View .domainCommand) :
    Option (View .aggregateRoot) := do
  let identity ← (← command.profile.kind.commandTraits?).targetIdentity
  (model.views .aggregateRoot).find? fun root =>
    root.profile.identityField?.any (·.typeName == identity)
      || root.profile.kind.entityTraits?.any (·.identityType == some identity)

def serviceTarget? (model : Model) (command : View .domainCommand) :
    Option (View .domainService) := do
  (model.lookup .domainService (← (← command.profile.kind.commandTraits?).targetService)).toOption

end Model

end DomainAtlas
