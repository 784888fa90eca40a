import DomainAtlas.Model.Messages
import DomainAtlas.Proofs.Containment

/-! Who publishes, listens to and processes a message. Whether a profile is asked, its view, or the
model for all profiles at once, the answer is the same: it is looked for in the methods of what the
profile answers for, which is everything it contains for a domain object and itself for any other. -/

namespace DomainAtlas.Proofs.Messages
open Containment

def Publishes (event object : Profile) : Prop :=
  ∃ method ∈ object.methods, event.typeName ∈ method.publishedEvents

def ListensTo (event object : Profile) : Prop :=
  ∃ method ∈ object.methods, method.listenedEvent = some event.typeName

/-- A method whose one and only parameter has the type of a command processes the command; where
inheritance counts, so does one whose parameter has the type of a superclass. -/
def Processes (matching : CommandMatching) (command object : Profile) : Prop :=
  ∃ method ∈ object.methods, ∃ param, method.params = [param] ∧
    (param.type.typeName = command.typeName ∨
      matching = .inheritanceAware ∧ param.type.typeName ∈ command.superclasses)

theorem publishes_iff (event object : Profile) :
    object.publishes event.typeName = true ↔ Publishes event object := by
  simp [Profile.publishes, Method.publishes, Publishes]

theorem listensTo_iff (event object : Profile) :
    object.listensTo event.typeName = true ↔ ListensTo event object := by
  simp [Profile.listensTo, Method.listensTo, ListensTo]

theorem methodProcesses_iff (matching : CommandMatching) (command : Profile) (method : Method) :
    method.processes matching command.typeName command.superclasses = true ↔
      ∃ param, method.params = [param] ∧
        (param.type.typeName = command.typeName ∨
          matching = .inheritanceAware ∧ param.type.typeName ∈ command.superclasses) := by
  unfold Method.processes
  generalize method.params = params
  rcases params with _ | ⟨param, _ | ⟨second, rest⟩⟩
  · simp
  · cases matching <;> simp
  · simp

theorem processes_iff (matching : CommandMatching) (command object : Profile) :
    object.processes matching command = true ↔ Processes matching command object := by
  simp only [Profile.processes, List.any_eq_true, methodProcesses_iff, Processes]

def speakers (model : Model) (profile : Profile) : List Profile :=
  match profile.role with
  | .aggregateRoot | .entity | .valueObject | .identity | .enumeration => model.contained profile
  | _ => [profile]

/-- A walk that stops at the first object of a sort looks at what a whole walk reports up to there. -/
theorem searchFrom_eq (model : Model) (wanted : Profile → Bool) (marked : List String)
    (stack : List (Profile × Nat)) :
    let reported := objects (model.walkFrom marked stack)
    model.searchFrom wanted marked (stack.map Prod.fst) =
      (reported.any wanted,
        reported.takeWhile (!wanted ·) ++ (reported.find? wanted).toList) := by
  fun_induction Model.walkFrom model marked stack with
  | case1 marked =>
    rw [List.map_nil, Model.searchFrom]
    rfl
  | case2 marked owner depth rest ih =>
    rw [map_fst_stack] at ih
    rw [objects_step, List.map_cons, Model.searchFrom, ih]
    cases here : wanted owner <;> simp [here]

theorem search_eq (model : Model) (start : Profile) (wanted : Profile → Bool) :
    model.search start wanted = ((model.contained start).any wanted,
      (model.contained start).takeWhile (!wanted ·) ++
        ((model.contained start).find? wanted).toList) :=
  searchFrom_eq model wanted [start.typeName] [(start, 0)]

theorem containsAny_eq (model : Model) (start : Profile) (wanted : Profile → Bool) :
    model.containsAny start wanted = (model.contained start).any wanted :=
  congrArg Prod.fst (search_eq model start wanted)

theorem anySpeaker_eq (model : Model) (profile : Profile) (wanted : Profile → Bool) :
    model.anySpeaker profile wanted = (speakers model profile).any wanted := by
  unfold Model.anySpeaker speakers
  cases profile.role <;> simp [Role.isDomainObject, containsAny_eq]

/-- The depth that is fixed for the views of a role is the one that the role calls for. -/
theorem viewAnySpeaker_eq (model : Model) (wanted : Profile → Bool) {role : Role}
    (view : View role) : view.anySpeaker model wanted = model.anySpeaker view.profile wanted := by
  have same : view.profile.role = role := view.property
  unfold Model.anySpeaker
  rw [same]
  cases role <;> rfl

theorem map_profile_views (model : Model) (role : Role) :
    (model.views role).map View.profile = model.profiles.filter (·.role == role) := by
  have viewed : ∀ profile : Profile, (profile.as? role).map View.profile =
      Option.guard (·.role == role) profile := by
    intro profile
    by_cases same : profile.role = role
    · rw [Profile.as?, dif_pos same, Option.guard, if_pos (beq_iff_eq.mpr same)]
      rfl
    · simp [Profile.as?, same, Option.guard]
  rw [Model.views, List.map_filterMap, ← List.filterMap_eq_filter]
  exact List.filterMap_congr fun profile _ => viewed profile

/-- Views that are chosen by what their profiles answer are the part of the chosen profiles that has
the role of the views. -/
theorem map_profile_filter_views (model : Model) (role : Role) {chosen : View role → Bool}
    {asked : Profile → Bool} (same : ∀ view, chosen view = asked view.profile) :
    ((model.views role).filter chosen).map View.profile =
      (model.profiles.filter asked).filter (·.role == role) := by
  have composed : chosen = asked ∘ View.profile := funext same
  rw [composed, ← List.filter_map, map_profile_views, List.filter_comm]

/-- What is asked about messages, of profiles, of their views and of the whole model. The answer is
whether anything that a profile answers for says so. -/
structure Answers (model : Model) (speaks : Profile → Prop) (asked : Profile → Bool)
    (viewed : {role : Role} → View role → Bool) (listed : List Profile) : Prop where
  deep : ∀ profile, asked profile = true ↔ ∃ object ∈ speakers model profile, speaks object
  typed : ∀ profile, ∃ view, profile.as? profile.role = some view ∧ view.profile = profile ∧
    viewed view = asked profile
  complete : ∀ profile, profile ∈ listed ↔
    profile ∈ model.profiles ∧ ∃ object ∈ speakers model profile, speaks object
  inOrder : listed.Sublist model.profiles

theorem answers (model : Model) {speaks : Profile → Prop} {wanted : Profile → Bool}
    (said : ∀ object, wanted object = true ↔ speaks object) :
    Answers model speaks (model.anySpeaker · wanted) (·.anySpeaker model wanted)
      (model.profiles.filter (model.anySpeaker · wanted)) := by
  have deep : ∀ profile, model.anySpeaker profile wanted = true ↔
      ∃ object ∈ speakers model profile, speaks object := by
    intro profile
    simp only [anySpeaker_eq, List.any_eq_true, said]
  refine ⟨deep, ?_, ?_, List.filter_sublist⟩
  · intro profile
    obtain ⟨view, viewed, same⟩ := Model.exists_view (rfl : profile.role = profile.role)
    exact ⟨view, viewed, same, by rw [viewAnySpeaker_eq, same]⟩
  · intro profile
    rw [List.mem_filter, deep]

/-- Everything that is asked about a message is answered alike on every path. -/
theorem messages_answered (model : Model) (message : Profile) :
    Answers model (Publishes message) (model.publishes · message) (·.publishes model message)
      (model.publishers message) ∧
    Answers model (ListensTo message) (model.listensTo · message) (·.listensTo model message)
      (model.listeners message) ∧
    Answers model (Processes model.settings.commandMatching message) (model.processes · message)
      (·.processes model message) (model.processors message) ∧
    ∀ role,
      (model.publishing role message).map View.profile =
        (model.publishers message).filter (·.role == role) ∧
      (model.listening role message).map View.profile =
        (model.listeners message).filter (·.role == role) := by
  refine ⟨answers model (publishes_iff message), answers model (listensTo_iff message),
    answers model (processes_iff model.settings.commandMatching message), ?_⟩
  intro role
  constructor
  · exact map_profile_filter_views model role fun view => viewAnySpeaker_eq model _ view
  · exact map_profile_filter_views model role fun view => viewAnySpeaker_eq model _ view

end DomainAtlas.Proofs.Messages
