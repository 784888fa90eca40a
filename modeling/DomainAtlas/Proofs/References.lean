import DomainAtlas.Model.Messages
import DomainAtlas.Model.Services
import DomainAtlas.Proofs.Changes

/-! References by name, all or none of them. Profiles keep the names of what they refer to, and what
becomes of a name is for the model to say each time it is asked. A query that follows a list of names
shows a view for each of them, or it tells which is the first that the model does not have. -/

namespace DomainAtlas.Proofs.References
open Changes

variable {model : Model} {role : Role} {name : String} {names : List String} {change : Change}

def Registered (model : Model) (role : Role) (name : String) : Prop :=
  ∃ profile, model.get? name = some profile ∧ profile.role = role

instance (model : Model) (role : Role) (name : String) : Decidable (Registered model role name) :=
  decidable_of_iff ((model.get? name).any (·.role = role) = true) (by
    simp [Registered, Option.any_eq_true])

/-- The name is not registered, and all names that come before it are. -/
def FirstMissing (model : Model) (role : Role) (names : List String) (name : String) : Prop :=
  ∃ before after, names = before ++ name :: after ∧
    (∀ earlier ∈ before, Registered model role earlier) ∧ ¬ Registered model role name

theorem resolve_missing (missing : ¬ Registered model role name) (referencing : String) :
    model.resolve role referencing name = .error (.dangling referencing name role) := by
  rw [Model.resolve, Model.lookup]
  cases found : model.get? name with
  | none => rfl
  | some profile =>
    have other : profile.role ≠ role := fun same => missing ⟨profile, found, same⟩
    simp only [Profile.as?, dif_neg other]
    rfl

/-- Names that resolve are passed by, until one does not. -/
theorem resolveAll_missing (first : FirstMissing model role names name) (referencing : String) :
    model.resolveAll role referencing names = .error (.dangling referencing name role) := by
  obtain ⟨before, after, rfl, registered, missing⟩ := first
  induction before with
  | nil =>
    rw [List.nil_append, Model.resolveAll, List.mapM_cons, resolve_missing missing]
    rfl
  | cons earlier before ih =>
    obtain ⟨⟨profile, found, same⟩, rest⟩ := List.forall_mem_cons.mp registered
    obtain ⟨view, resolved, _⟩ := Model.resolve_ok found same referencing
    have failed := ih rest
    rw [Model.resolveAll] at failed ⊢
    rw [List.cons_append, List.mapM_cons, resolved, failed]
    rfl

theorem registered_or_missing (model : Model) (role : Role) (names : List String) :
    (∀ name ∈ names, Registered model role name) ∨ ∃ name, FirstMissing model role names name := by
  induction names with
  | nil => exact .inl fun _ member => nomatch member
  | cons first names ih =>
    by_cases here : Registered model role first
    · cases ih with
      | inl all => exact .inl (List.forall_mem_cons.mpr ⟨here, all⟩)
      | inr later =>
        obtain ⟨name, before, after, rfl, registered, missing⟩ := later
        have passed := List.forall_mem_cons.mpr ⟨here, registered⟩
        exact .inr ⟨name, first :: before, after, rfl, passed, missing⟩
    · exact .inr ⟨first, [], names, rfl, fun _ member => (nomatch member), here⟩

/-- A change that leaves nothing of a role under the name that it is about. -/
def Drops (role : Role) : Change → Prop
  | .insert profile => profile.role ≠ role
  | .remove _ => True

theorem not_registered_of_drops (model : Model) (drops : Drops role change) :
    ¬ Registered (model.apply change).2 role change.name := by
  intro registered
  obtain ⟨profile, found, same⟩ := registered
  cases change with
  | insert inserted =>
    have now : (model.insert inserted).get? inserted.typeName = some inserted :=
      (NameMap.get?_insert ..).trans (if_pos rfl)
    exact drops (Option.some.inj (now.symm.trans found) ▸ same)
  | remove removed =>
    have now : (model.remove removed).get? removed = none :=
      (NameMap.get?_erase ..).trans (if_pos rfl)
    cases now.symm.trans found

/-- Where all names were registered, the one that is dropped is the first to be missed. -/
theorem firstMissing_of_drops (registered : ∀ name ∈ names, Registered model role name)
    (drops : Drops role change) (member : change.name ∈ names) :
    FirstMissing (model.apply change).2 role names change.name := by
  obtain ⟨before, after, rfl, absent⟩ := List.eq_append_cons_of_mem member
  refine ⟨before, after, rfl, ?_, not_registered_of_drops model drops⟩
  intro earlier passed
  have elsewhere : change.name ≠ earlier := fun same => absent (same ▸ passed)
  obtain ⟨profile, found, same⟩ := registered earlier (List.mem_append_left _ passed)
  exact ⟨profile, (get?_apply model elsewhere).trans found, same⟩

/-- What is told by a query that follows names for a profile. The fault is always that the reference
leads nowhere, whether the name is absent or in another role. -/
structure AllOrNothing (model : Model) (role : Role) (referencing : String) (names : List String)
    (query : Model → Except Fault (List (View role))) : Prop where
  succeeds : (∃ views, query model = .ok views) ↔ ∀ name ∈ names, Registered model role name
  shows : ∀ views, query model = .ok views →
    views.map View.typeName = names ∧ ∀ view ∈ views, view ∈ model.views role
  fails : ∀ fault, query model = .error fault ↔
    ∃ name, FirstMissing model role names name ∧ fault = .dangling referencing name role
  dropped : (∃ views, query model = .ok views) → ∀ change, change.name ∈ names → Drops role change →
    query (model.apply change).2 = .error (.dangling referencing change.name role)

theorem allOrNothing (model : Model) (role : Role) (referencing : String) (names : List String) :
    AllOrNothing model role referencing names (·.resolveAll role referencing names) := by
  have resolves : (∀ name ∈ names, Registered model role name) →
      ∃ views, model.resolveAll role referencing names = .ok views ∧
        views.map View.typeName = names ∧ ∀ view ∈ views, view.profile ∈ model.profiles :=
    fun registered => Model.resolveAll_ok registered referencing
  have registered : (∃ views, model.resolveAll role referencing names = .ok views) →
      ∀ name ∈ names, Registered model role name := by
    intro success
    obtain ⟨views, resolved⟩ := success
    rcases registered_or_missing model role names with all | ⟨name, first⟩
    · exact all
    · cases (resolveAll_missing first referencing).symm.trans resolved
  refine ⟨⟨registered, ?_⟩, ?_, ?_, ?_⟩
  · intro all
    obtain ⟨views, resolved, _⟩ := resolves all
    exact ⟨views, resolved⟩
  · intro views resolved
    obtain ⟨same, again, named, stored⟩ := resolves (registered ⟨views, resolved⟩)
    obtain rfl := Except.ok.inj (again.symm.trans resolved)
    exact ⟨named, fun view member => Model.mem_views_iff.mpr (stored view member)⟩
  · intro fault
    constructor
    · intro failed
      rcases registered_or_missing model role names with all | ⟨name, first⟩
      · obtain ⟨views, resolved, _⟩ := resolves all
        cases resolved.symm.trans failed
      · have told := resolveAll_missing first referencing
        exact ⟨name, first, Except.error.inj (failed.symm.trans told)⟩
    · intro missing
      obtain ⟨name, first, rfl⟩ := missing
      exact resolveAll_missing first referencing
  · intro resolved change member drops
    have first := firstMissing_of_drops (registered resolved) drops member
    exact resolveAll_missing first referencing

/-- The services that a service works with are followed kind by kind. -/
structure LinksFollowed (model : Model) (service : Profile) (links : ServiceLinks) : Prop where
  repositories : AllOrNothing model .repository service.typeName links.repositories
    (·.linked .repository service)
  domainServices : AllOrNothing model .domainService service.typeName links.domainServices
    (·.linked .domainService service)
  outboundServices : AllOrNothing model .outboundService service.typeName links.outboundServices
    (·.linked .outboundService service)
  queryHandlers : AllOrNothing model .queryHandler service.typeName links.queryHandlers
    (·.linked .queryHandler service)
  applicationServices : AllOrNothing model .applicationService service.typeName
    links.applicationServices (·.linked .applicationService service)
  serviceKinds : AllOrNothing model .serviceKind service.typeName links.serviceKinds
    (·.linked .serviceKind service)

theorem linked_allOrNothing {service : Profile} {links : ServiceLinks}
    (kept : service.kind.serviceLinks? = some links) (model : Model) (role : Role) :
    AllOrNothing model role service.typeName (links.of (some role)) (·.linked role service) := by
  have follows : (·.linked role service) =
      fun model : Model => model.resolveAll role service.typeName (links.of (some role)) := by
    funext model
    rw [Model.linked, kept]
    rfl
  rw [follows]
  exact allOrNothing model role service.typeName (links.of (some role))

theorem linksFollowed {service : Profile} {links : ServiceLinks}
    (kept : service.kind.serviceLinks? = some links) (model : Model) :
    LinksFollowed model service links where
  repositories := linked_allOrNothing kept model .repository
  domainServices := linked_allOrNothing kept model .domainService
  outboundServices := linked_allOrNothing kept model .outboundService
  queryHandlers := linked_allOrNothing kept model .queryHandler
  applicationServices := linked_allOrNothing kept model .applicationService
  serviceKinds := linked_allOrNothing kept model .serviceKind

/-- The references of a profile are followed one kind at a time: the services it works with, and the
events that its methods publish or listen to, each event once. -/
structure Followed (model : Model) (profile : Profile) : Prop where
  services : profile.role.isService = true →
    ∃ links, profile.kind.serviceLinks? = some links ∧ LinksFollowed model profile links
  published : ∃ events, EachOnce (profile.methods.flatMap (·.publishedEvents)) events ∧
    AllOrNothing model .domainEvent profile.typeName events (·.publishedEvents profile)
  listened : ∃ events, EachOnce (profile.methods.filterMap (·.listenedEvent)) events ∧
    AllOrNothing model .domainEvent profile.typeName events (·.listenedEvents profile)

/-- Whatever a model holds, and whichever profile refers to it, references resolve all or not at
all. -/
theorem references_all_or_nothing (model : Model) (profile : Profile) : Followed model profile where
  services := by
    intro service
    rw [Profile.role, ← Kind.isSome_serviceLinks?] at service
    obtain ⟨links, kept⟩ := Option.isSome_iff_exists.mp service
    exact ⟨links, kept, linksFollowed kept model⟩
  published := ⟨profile.publishedEvents, eachOnce_distinct _, allOrNothing ..⟩
  listened := ⟨profile.listenedEvents, eachOnce_distinct _, allOrNothing ..⟩

def desk : Profile where
  typeName := "Desk"
  methods := [{ name := "close", declaredBy := "Desk", access := .anyone
                publishedEvents := ["Closed"] }]
  kind := .domainService { repositories := ["Orders", "Archive"] }

def counter : Model := .assemble
  (.ofList [
    ("Desk", desk),
    ("Orders", { typeName := "Orders", kind := .repository {} }),
    ("Archive", { typeName := "Archive", kind := .repository {} }),
    ("Closed", { typeName := "Closed", kind := .domainEvent })])
  [] .default

def report : Profile := { typeName := "Closed", kind := .readModel }

theorem references_all_or_nothing_counter :
    desk.role.isService = true ∧
    (∃ views, counter.linked .repository desk = .ok views ∧
      views.map View.typeName = ["Orders", "Archive"]) ∧
    (counter.remove "Archive").linked .repository desk =
      .error (.dangling "Desk" "Archive" (some .repository)) ∧
    (counter.insert report).publishedEvents desk =
      .error (.dangling "Desk" "Closed" (some .domainEvent)) := by
  have followed := references_all_or_nothing counter desk
  obtain ⟨links, kept, linked⟩ := followed.services rfl
  obtain rfl := Option.some.inj kept
  obtain ⟨views, resolved⟩ := linked.repositories.succeeds.mpr (by decide +kernel)
  obtain ⟨events, each, published⟩ := followed.published
  have closed : ∀ event ∈ events, Registered counter .domainEvent event := by
    intro event member
    have told : event = "Closed" := List.mem_singleton.mp ((each.same event).mp member)
    rw [told]
    decide +kernel
  have listed : "Closed" ∈ events := (each.same "Closed").mpr (List.mem_singleton.mpr rfl)
  refine ⟨rfl, ⟨views, resolved, (linked.repositories.shows views resolved).1⟩, ?_, ?_⟩
  · exact linked.repositories.dropped ⟨views, resolved⟩ (.remove "Archive") (by decide) trivial
  · have other : report.role ≠ .domainEvent := by decide
    exact published.dropped (published.succeeds.mpr closed) (.insert report) listed other

end DomainAtlas.Proofs.References
