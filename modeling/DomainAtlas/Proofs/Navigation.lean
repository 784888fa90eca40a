import DomainAtlas.Model.Messages
import DomainAtlas.Proofs.Coherence
import DomainAtlas.Proofs.Containment

/-! Ways between the profiles of a model, and back. A way there is looked for at one end and the way
back at the other, by names and by walks. They lead to each other because a name is that of one
profile, which has one role. -/

open Relation (ReflTransGen)

namespace DomainAtlas.Proofs.Navigation
open Containment Coherence Model

variable {model : Model}

theorem contained_cons (model : Model) (start : Profile) :
    ∃ parts, model.contained start = start :: parts := by
  have first : model.contained start = objects (model.walkFrom [start.typeName] [(start, 0)]) := rfl
  rw [first, Model.walkFrom, objects_step]
  exact ⟨_, rfl⟩

theorem mem_containedEntities_iff {root : View .aggregateRoot} {entity : View .entity} :
    entity ∈ model.containedEntities root ↔ entity.profile ∈ model.contained root.profile := by
  simp only [containedEntities, List.mem_filterMap, as?_eq_some_iff, exists_eq_right']

/-- A root is not one of its own entities, so nothing is lost by leaving it out of its parts. -/
theorem mem_aggregateRoots_iff {root : View .aggregateRoot} {entity : View .entity}
    (stored : root ∈ model.views .aggregateRoot) (also : entity ∈ model.views .entity) :
    root ∈ model.aggregateRoots entity ↔ entity.profile ∈ model.contained root.profile := by
  obtain ⟨parts, split⟩ := contained_cons model root.profile
  have other : entity.profile ≠ root.profile := by
    intro same
    have roles : Role.entity = Role.aggregateRoot :=
      entity.property.symm.trans ((congrArg Profile.role same).trans root.property)
    cases roles
  have here := mem_views_iff.mp stored
  rw [aggregateRoots, List.mem_filter, List.any_eq_true, split, List.tail_cons, List.mem_cons]
  simp only [stored, other, true_and, false_or, beq_iff_eq]
  constructor
  · rintro ⟨part, member, named⟩
    have reported : part ∈ model.contained root.profile := split ▸ List.mem_cons_of_mem _ member
    exact eq_of_typeName (contained_stored here reported) (mem_views_iff.mp also) named ▸ member
  · intro member
    exact ⟨_, member, rfl⟩

/-- A reference leads to a stored view just when it has the name of that view. -/
theorem toOption_lookup_eq_some_iff {role : Role} {name : Option String} {view : View role}
    (stored : view ∈ model.views role) :
    (name.bind fun name => (model.lookup role name).toOption) = some view ↔
      name = some view.typeName := by
  have found (name : String) :
      (model.lookup role name).toOption = some view ↔ model.lookup role name = .ok view := by
    cases model.lookup role name <;> simp [Except.toOption]
  simp only [Option.bind_eq_some_iff, found, lookup_eq_ok_iff, stored, true_and, exists_eq_right']

theorem managed?_eq_some_iff {repository : View .repository} {root : View .aggregateRoot}
    (stored : root ∈ model.views .aggregateRoot) :
    model.managed? repository = some root ↔
      repository.profile.kind.managedAggregate? = some root.typeName :=
  toOption_lookup_eq_some_iff stored

theorem provided?_eq_some_iff {handler : View .queryHandler} {readModel : View .readModel}
    (stored : readModel ∈ model.views .readModel) :
    model.provided? handler = some readModel ↔
      handler.profile.kind.providedReadModel? = some readModel.typeName :=
  toOption_lookup_eq_some_iff stored

theorem repository?_eq {root : View .aggregateRoot} (stored : root ∈ model.views .aggregateRoot) :
    model.repository? root =
      (model.views .repository).find? fun repository => model.managed? repository = some root := by
  have same (repository : View .repository) :
      (repository.profile.kind.managedAggregate? == some root.typeName) =
        decide (model.managed? repository = some root) := by
    rw [Bool.eq_iff_iff, beq_iff_eq, decide_eq_true_iff, managed?_eq_some_iff stored]
  simp only [repository?, repositoryFor, same]
  split
  next first => rw [first]; rfl
  next absent => rw [absent]; rfl

theorem mem_providers_iff {readModel : View .readModel} {handler : View .queryHandler}
    (stored : readModel ∈ model.views .readModel) :
    handler ∈ model.providers readModel ↔
      handler ∈ model.views .queryHandler ∧ model.provided? handler = some readModel := by
  rw [providers, List.mem_filter, beq_iff_eq, provided?_eq_some_iff stored]

/-- A profile that is no domain object speaks for itself alone. -/
theorem mem_processors_iff {profile : Profile} {command : View .domainCommand}
    (stored : command ∈ model.views .domainCommand) (alone : profile.role.isDomainObject = false) :
    profile ∈ model.processors command.profile ↔
      profile ∈ model.profiles ∧ command ∈ model.processedCommands profile := by
  simp only [processors, processedCommands, List.mem_filter, stored, true_and, Model.processes,
    anySpeaker, alone, Bool.false_eq_true, if_false]

/-- The ways of a model, each with its way back. -/
structure Navigable (model : Model) : Prop where
  contains : ∀ root ∈ model.views .aggregateRoot, ∀ entity, entity ∈ model.containedEntities root ↔
    entity ∈ model.views .entity ∧ root ∈ model.aggregateRoots entity
  reached : ∀ root ∈ model.views .aggregateRoot, ∀ entity ∈ model.views .entity,
    root ∈ model.aggregateRoots entity ↔ ReflTransGen (Follows model) root.profile entity.profile
  manages : ∀ root ∈ model.views .aggregateRoot, ∀ repository,
    model.repository? root = some repository → model.managed? repository = some root
  managed : ∀ root ∈ model.views .aggregateRoot, (model.repository? root).isSome = true ↔
    ∃ repository ∈ model.views .repository, model.managed? repository = some root
  first : ∀ root ∈ model.views .aggregateRoot, model.repository? root =
    (model.views .repository).find? fun repository => model.managed? repository = some root
  provides : ∀ readModel ∈ model.views .readModel, ∀ handler, handler ∈ model.providers readModel ↔
    handler ∈ model.views .queryHandler ∧ model.provided? handler = some readModel
  processes : ∀ command ∈ model.views .domainCommand, ∀ profile,
    profile.role.isDomainObject = false → (profile ∈ model.processors command.profile ↔
      profile ∈ model.profiles ∧ command ∈ model.processedCommands profile)

/-- Whatever a model has come to hold, its ways lead there and back. -/
theorem navigations_inverse (model : Model) : Navigable model where
  contains := by
    intro root stored entity
    rw [mem_containedEntities_iff]
    constructor
    · intro contained
      have also := mem_views_iff.mpr (contained_stored (mem_views_iff.mp stored) contained)
      exact ⟨also, (mem_aggregateRoots_iff stored also).mpr contained⟩
    · rintro ⟨also, whole⟩
      exact (mem_aggregateRoots_iff stored also).mp whole
  reached := by
    intro root stored entity also
    rw [mem_aggregateRoots_iff stored also, mem_contained_iff (mem_views_iff.mp stored)]
  manages := by
    intro root stored repository found
    rw [repository?_eq stored] at found
    simpa using List.find?_some found
  managed := by
    intro root stored
    simp only [repository?_eq stored, List.find?_isSome, decide_eq_true_eq]
  first := fun _ stored => repository?_eq stored
  provides := fun _ stored _ => mem_providers_iff stored
  processes := fun _ stored _ alone => mem_processors_iff stored alone

def trade : Catalog := .collect [
  { name := "Archive", roles := [.repository], managedAggregate := some "Order" },
  { name := "Orders", roles := [.repository], managedAggregate := some "Order" },
  { name := "Order", roles := [.aggregateRoot]
    fields := [{ name := "line", type := .plain "Line" }] },
  { name := "Line", roles := [.entity], fields := [{ name := "next", type := .plain "Line" }] },
  { name := "Summary", roles := [.readModel] },
  { name := "Summaries", roles := [.queryHandler], providedReadModel := some "Summary" },
  { name := "Place", roles := [.domainCommand] },
  { name := "Desk", roles := [.applicationService]
    methods := [{ name := "handle", params := [{ name := "command", type := .plain "Place" }] }] }]

theorem navigations_inverse_trade :
    ∃ model, (Factory.ofCatalog trade .default []).model .default = .ok model ∧ Navigable model ∧
      (∃ root ∈ model.views .aggregateRoot, ∃ entity, entity ∈ model.containedEntities root ∧
        root ∈ model.aggregateRoots entity) ∧
      (∃ root ∈ model.views .aggregateRoot, ∃ repository, repository.typeName = "Archive" ∧
        model.repository? root = some repository ∧ model.managed? repository = some root) ∧
      (∃ readModel ∈ model.views .readModel, ∃ handler, handler ∈ model.providers readModel ∧
        model.provided? handler = some readModel) ∧
      ∃ command ∈ model.views .domainCommand, ∃ profile,
        profile ∈ model.processors command.profile ∧
          command ∈ model.processedCommands profile := by
  obtain ⟨model, made, shown⟩ := exists_ok_of_any
    ((Factory.ofCatalog trade .default []).model .default)
    (fun model => decide (
      (∃ root ∈ model.views .aggregateRoot, ∃ entity ∈ model.containedEntities root, True) ∧
      (∃ root ∈ model.views .aggregateRoot, ∃ repository ∈ model.views .repository,
        repository.typeName = "Archive" ∧ model.repository? root = some repository) ∧
      (∃ readModel ∈ model.views .readModel, ∃ handler ∈ model.providers readModel, True) ∧
      ∃ command ∈ model.views .domainCommand, ∃ profile ∈ model.processors command.profile,
        profile.role.isDomainObject = false))
    (by decide +kernel)
  obtain ⟨⟨root, stored, entity, contained, _⟩, ⟨owner, kept, repository, _, named, found⟩,
    ⟨readModel, read, handler, provider, _⟩, command, sent, profile, processor, alone⟩ :=
      of_decide_eq_true shown
  have ways := navigations_inverse model
  exact ⟨model, made, ways,
    ⟨root, stored, entity, contained, ((ways.contains root stored entity).mp contained).2⟩,
    ⟨owner, kept, repository, named, found, ways.manages owner kept repository found⟩,
    ⟨readModel, read, handler, provider, ((ways.provides readModel read handler).mp provider).2⟩,
    command, sent, profile, processor, ((ways.processes command sent profile alone).mp processor).2⟩

end DomainAtlas.Proofs.Navigation
