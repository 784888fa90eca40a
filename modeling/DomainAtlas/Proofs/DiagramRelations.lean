import DomainAtlas.Proofs.DiagramEdges
import DomainAtlas.Proofs.Messages

/-! What the edges of a diagram stand for. An edge is drawn because of a field, a method or a role of
its source, and the diagram keeps it when both its ends are drawn. So each edge says how two profiles
relate, each way in which they relate has its edge, and none has two. -/

namespace DomainAtlas.Proofs.DiagramRelations
open Containment Messages DiagramEdges

variable {model : Model} {drawn : List Profile} {source target : Profile} {edge : Edge}

/-- How a profile relates to another one of its model. -/
inductive Relates (model : Model) (source target : Profile) : Relation → Prop where
  | contains {field : Field} (object : source.role.isDomainObject = true)
      (inside : field ∈ source.fields) (part : HoldsPart field)
      (typed : field.typeName = target.typeName) : Relates model source target .contains
  | references {field : Field} (object : source.role.isDomainObject = true)
      (inside : field ∈ source.fields) (own : field.isStatic = false)
      (root : field.tag = some .aggregateRoot) (typed : field.typeName = target.typeName) :
      Relates model source target .references
  | publishes (declared : Publishes target source) : Relates model source target .publishes
  | listens (declared : ListensTo target source) : Relates model source target .listens
  | processes (command : target.role = .domainCommand)
      (declared : Processes model.settings.commandMatching target source) :
      Relates model source target .processes
  | manages {traits : RepositoryTraits} (repository : source.kind = .repository traits)
      (managed : traits.managedAggregate = some target.typeName) :
      Relates model source target .manages

theorem ofHolding?_eq_some_iff (field : Field) (relation : Relation) :
    Relation.ofHolding? field.holding = some relation ↔
      relation = .contains ∧ (field.tag = some .entity ∨ field.tag = some .valueObject ∨
        field.tag = some .identity ∨ field.tag = some .enumeration) ∨
      relation = .references ∧ field.tag = some .aggregateRoot := by
  unfold Field.holding
  rcases field.tag with _ | role
  · simp [Holding.ofTag, Relation.ofHolding?]
  · cases role <;> simp [Holding.ofTag, Relation.ofHolding?, eq_comm]

theorem mem_publishedEvents_iff (event source : Profile) :
    event.typeName ∈ source.publishedEvents ↔ Publishes event source := by
  rw [Profile.publishedEvents, mem_distinct, List.mem_flatMap, Publishes]

theorem mem_listenedEvents_iff (event source : Profile) :
    event.typeName ∈ source.listenedEvents ↔ ListensTo event source := by
  rw [Profile.listenedEvents, mem_distinct, List.mem_filterMap, ListensTo]

theorem managedAggregate?_eq_some_iff (kind : Kind) (name : String) :
    kind.managedAggregate? = some name ↔
      ∃ traits, kind = .repository traits ∧ traits.managedAggregate = some name := by
  cases kind <;> simp [Kind.managedAggregate?]

theorem relates_of_mem_fieldEdges (member : edge ∈ source.fieldEdges)
    (named : edge.target = target.typeName) : Relates model source target edge.relation := by
  unfold Profile.fieldEdges at member
  split at member
  next object =>
    obtain ⟨field, kept, made⟩ := List.mem_filterMap.mp member
    obtain ⟨relation, holds, rfl⟩ := Option.map_eq_some_iff.mp made
    obtain ⟨inside, moving⟩ := List.mem_filter.mp kept
    have own : field.isStatic = false := by simpa using moving
    rcases (ofHolding?_eq_some_iff field relation).mp holds with ⟨rfl, part⟩ | ⟨rfl, root⟩
    · exact .contains object inside ⟨own, part⟩ named
    · exact .references object inside own root named
  next => cases member

theorem relates_of_mem_messageEdges (member : edge ∈ source.messageEdges)
    (named : edge.target = target.typeName) : Relates model source target edge.relation := by
  cases List.mem_append.mp member with
  | inl published =>
    obtain ⟨event, listed, rfl⟩ := List.mem_map.mp published
    obtain rfl : event = target.typeName := named
    exact .publishes ((mem_publishedEvents_iff target source).mp listed)
  | inr listened =>
    obtain ⟨event, listed, rfl⟩ := List.mem_map.mp listened
    obtain rfl : event = target.typeName := named
    exact .listens ((mem_listenedEvents_iff target source).mp listed)

theorem relates_of_mem_managementEdges (member : edge ∈ source.managementEdges)
    (named : edge.target = target.typeName) : Relates model source target edge.relation := by
  obtain ⟨aggregate, kept, rfl⟩ := List.mem_map.mp member
  obtain rfl : aggregate = target.typeName := named
  obtain ⟨traits, repository, managed⟩ :=
    (managedAggregate?_eq_some_iff source.kind target.typeName).mp (Option.mem_toList.mp kept)
  exact .manages repository managed

/-- An edge to a command leads to the profile that was tried, whatever else has its name. -/
theorem relates_of_mem_commandEdges
    (member : edge ∈ model.commandEdges (drawn.filter (·.role == .domainCommand)) source) :
    ∃ target ∈ drawn, edge.target = target.typeName ∧ Relates model source target edge.relation := by
  obtain ⟨command, tried, rfl⟩ := List.mem_map.mp member
  obtain ⟨kept, taken⟩ := List.mem_filter.mp tried
  obtain ⟨inside, role⟩ := List.mem_filter.mp kept
  exact ⟨command, inside, rfl, .processes (beq_iff_eq.mp role) ((processes_iff ..).mp taken)⟩

theorem exists_relates (inside : target ∈ drawn) (named : edge.target = target.typeName)
    (member : edge ∈ model.edgesFrom (drawn.filter (·.role == .domainCommand)) source) :
    ∃ target ∈ drawn, edge.target = target.typeName ∧ Relates model source target edge.relation := by
  simp only [Model.edgesFrom, List.mem_append] at member
  rcases member with ((field | message) | command) | management
  · exact ⟨target, inside, named, relates_of_mem_fieldEdges field named⟩
  · exact ⟨target, inside, named, relates_of_mem_messageEdges message named⟩
  · exact relates_of_mem_commandEdges command
  · exact ⟨target, inside, named, relates_of_mem_managementEdges management named⟩

theorem mem_fieldEdges {field : Field} {relation : Relation}
    (object : source.role.isDomainObject = true) (inside : field ∈ source.fields)
    (own : field.isStatic = false) (holds : Relation.ofHolding? field.holding = some relation) :
    ⟨source.typeName, relation, field.typeName⟩ ∈ source.fieldEdges := by
  rw [Profile.fieldEdges, if_pos object, List.mem_filterMap]
  refine ⟨field, List.mem_filter.mpr ⟨inside, by simp [own]⟩, ?_⟩
  rw [holds]
  rfl

theorem mem_edgesFrom {relation : Relation} (inside : target ∈ drawn)
    (relates : Relates model source target relation) :
    ⟨source.typeName, relation, target.typeName⟩ ∈
      model.edgesFrom (drawn.filter (·.role == .domainCommand)) source := by
  simp only [Model.edgesFrom, List.mem_append]
  cases relates with
  | @contains field object member part typed =>
    have holds := (ofHolding?_eq_some_iff field .contains).mpr (.inl ⟨rfl, part.2⟩)
    exact .inl (.inl (.inl (typed ▸ mem_fieldEdges object member part.1 holds)))
  | @references field object member own root typed =>
    have holds := (ofHolding?_eq_some_iff field .references).mpr (.inr ⟨rfl, root⟩)
    exact .inl (.inl (.inl (typed ▸ mem_fieldEdges object member own holds)))
  | publishes declared =>
    have listed := (mem_publishedEvents_iff target source).mpr declared
    exact .inl (.inl (.inr (List.mem_append_left _ (List.mem_map_of_mem listed))))
  | listens declared =>
    have listed := (mem_listenedEvents_iff target source).mpr declared
    exact .inl (.inl (.inr (List.mem_append_right _ (List.mem_map_of_mem listed))))
  | processes command declared =>
    have tried : target ∈ drawn.filter (·.role == .domainCommand) :=
      List.mem_filter.mpr ⟨inside, beq_iff_eq.mpr command⟩
    have taken : model.processesItself source target = true := (processes_iff ..).mpr declared
    exact .inl (.inr (List.mem_map.mpr ⟨target, List.mem_filter.mpr ⟨tried, taken⟩, rfl⟩))
  | manages repository managed =>
    have kept : source.kind.managedAggregate? = some target.typeName :=
      (managedAggregate?_eq_some_iff ..).mpr ⟨_, repository, managed⟩
    exact .inr (List.mem_map.mpr ⟨_, Option.mem_toList.mpr kept, rfl⟩)

theorem endsAmong_iff :
    endsAmong drawn edge = true ↔
      (∃ source ∈ drawn, source.typeName = edge.source) ∧
        ∃ target ∈ drawn, target.typeName = edge.target := by
  simp only [endsAmong, Bool.and_eq_true, List.contains_iff_mem, List.mem_map]

/-- The edges among the profiles that are drawn are the relations among them. -/
theorem mem_edges_iff (model : Model) (drawn : List Profile) (edge : Edge) :
    edge ∈ model.edges drawn ↔
      ∃ source ∈ drawn, ∃ target ∈ drawn, edge.source = source.typeName ∧
        edge.target = target.typeName ∧ Relates model source target edge.relation := by
  have whole : model.edges drawn = distinct ((drawn.flatMap (model.edgesFrom
      (drawn.filter (·.role == .domainCommand)))).filter (endsAmong drawn)) := rfl
  rw [whole, mem_distinct, List.mem_filter, List.mem_flatMap, endsAmong_iff]
  constructor
  · intro kept
    obtain ⟨⟨source, inside, member⟩, _, target, drawnToo, named⟩ := kept
    obtain ⟨other, also, same, relates⟩ := exists_relates drawnToo named.symm member
    exact ⟨source, inside, other, also, source_of_mem_edgesFrom member, same, relates⟩
  · intro related
    obtain ⟨source, inside, target, also, starts, ends, relates⟩ := related
    have member := mem_edgesFrom also relates
    rw [← starts, ← ends] at member
    exact ⟨⟨source, inside, member⟩, ⟨source, inside, starts.symm⟩, target, also, ends.symm⟩

/-- The diagram of a model has an edge for each way in which two of its profiles relate, and has it
once. -/
theorem edges_relate (model : Model) :
    (model.edges model.profiles).Nodup ∧
    ∀ edge, edge ∈ model.edges model.profiles ↔
      ∃ source target, model.get? edge.source = some source ∧
        model.get? edge.target = some target ∧ Relates model source target edge.relation := by
  refine ⟨nodup_distinct _, ?_⟩
  intro edge
  rw [mem_edges_iff]
  constructor
  · intro related
    obtain ⟨source, inside, target, also, starts, ends, relates⟩ := related
    rw [starts, ends]
    exact ⟨source, target, Model.mem_profiles_iff.mp inside, Model.mem_profiles_iff.mp also, relates⟩
  · intro related
    obtain ⟨source, target, first, second, relates⟩ := related
    exact ⟨source, Model.mem_profiles_of_get? first, target, Model.mem_profiles_of_get? second,
      (Model.typeName_of_get? first).symm, (Model.typeName_of_get? second).symm, relates⟩

end DomainAtlas.Proofs.DiagramRelations
