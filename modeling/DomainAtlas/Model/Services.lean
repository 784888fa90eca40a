import DomainAtlas.Model.Basic

/-! Questions about services: the services they work with, and what repositories and query
handlers are for. -/

namespace DomainAtlas.Model

def linked (model : Model) (role : Role) (service : Profile) : Except Fault (List (View role)) :=
  model.resolveAll role service.typeName
    ((service.kind.serviceLinks?.map (·.of (some role))).getD [])

def managed? (model : Model) (repository : View .repository) : Option (View .aggregateRoot) := do
  (model.lookup .aggregateRoot (← repository.profile.kind.managedAggregate?)).toOption

def provided? (model : Model) (handler : View .queryHandler) : Option (View .readModel) := do
  (model.lookup .readModel (← handler.profile.kind.providedReadModel?)).toOption

def providers (model : Model) (readModel : View .readModel) : List (View .queryHandler) :=
  (model.views .queryHandler).filter fun handler =>
    handler.profile.kind.providedReadModel? == some readModel.typeName

end DomainAtlas.Model
