import DomainAtlas.Proofs.Coherence
import DomainAtlas.Proofs.Locality

/-! Aggregates keep to themselves. A walk goes by what a field says of its element type, and in a
model that is built from a catalog every field says what is stored there. So no walk gets into another
aggregate, and what an object says of messages never comes from another aggregate root. -/

open Relation (ReflTransGen)

namespace DomainAtlas.Proofs.Boundaries
open Profiling Coherence Containment Messages Locality

variable {catalog : Catalog} {settings : Settings} {model : Model} {start : Profile}

def IsPart (profile : Profile) : Prop :=
  profile.role = .entity ∨ profile.role = .valueObject ∨ profile.role = .identity ∨
    profile.role = .enumeration

theorem IsPart.not_root {profile : Profile} (part : IsPart profile) :
    profile.role ≠ .aggregateRoot := by
  rcases part with same | same | same | same
  all_goals simp [same]

/-- In a built model what is stored under the type of a part is a part. -/
theorem isPart_of_holdsPart (built : Built catalog settings model) {owner target : Profile}
    (member : owner ∈ model.profiles) {field : Field} (inside : field ∈ owner.fields)
    (part : HoldsPart field) (stored : model.get? field.typeName = some target) :
    IsPart target := by
  have tag : field.tag = some target.role := by
    rw [field_tag_eq built member inside, stored]
    rfl
  rcases part.2 with holds | holds | holds | holds
  all_goals
    rw [tag, Option.some.injEq] at holds
    simp [IsPart, holds]

theorem isPart_of_contained (built : Built catalog settings model) (stored : start ∈ model.profiles)
    {object : Profile} (reported : object ∈ model.contained start) :
    object = start ∨ IsPart object := by
  rcases ((mem_contained_iff stored object).mp reported).cases_tail with same | ⟨owner, path, follows⟩
  · exact .inl same
  · right
    have member := contained_stored stored ((mem_contained_iff stored owner).mpr path)
    obtain ⟨field, part, ⟨before, after, split, _⟩, found, _⟩ := follows
    exact isPart_of_holdsPart built member (split ▸ List.mem_append_right _ List.mem_cons_self)
      part found

def SaidWithin (model : Model) (start : Profile) (speaks : Profile → Prop) : Prop :=
  speaks start ∨ ∃ part ∈ model.contained start, IsPart part ∧ speaks part

def OtherRoot (model : Model) (start : Profile) (name : String) : Prop :=
  name ≠ start.typeName ∧ ∃ root, model.get? name = some root ∧ root.role = .aggregateRoot

theorem speakers_eq_contained (object : start.role.isDomainObject = true) :
    speakers model start = model.contained start := by
  unfold speakers
  cases role : start.role <;> simp_all [Role.isDomainObject]

theorem exists_speaker_iff (built : Built catalog settings model) (stored : start ∈ model.profiles)
    (object : start.role.isDomainObject = true) (speaks : Profile → Prop) :
    (∃ speaker ∈ speakers model start, speaks speaker) ↔ SaidWithin model start speaks := by
  rw [speakers_eq_contained object]
  constructor
  · rintro ⟨speaker, reported, said⟩
    rcases isPart_of_contained built stored reported with rfl | part
    · exact .inl said
    · exact .inr ⟨speaker, reported, part, said⟩
  · rintro (said | ⟨part, reported, _, said⟩)
    · exact ⟨start, (mem_contained_iff stored start).mpr .refl, said⟩
    · exact ⟨part, reported, said⟩

theorem unreferenced_of_otherRoot (built : Built catalog settings model)
    (stored : start ∈ model.profiles) {name : String} (elsewhere : OtherRoot model start name) :
    Unreferenced model start name := by
  intro owner reported field inside part same
  obtain ⟨_, root, found, isRoot⟩ := elsewhere
  have member := contained_stored stored reported
  exact (isPart_of_holdsPart built member inside part (same ▸ found)).not_root isRoot

/-- An object stays within its aggregate: it contains no aggregate root besides itself, and neither
the methods nor the presence of any other root make a difference to what it says. -/
structure Enclosed (model : Model) (start : Profile) : Prop where
  parts : ∀ object ∈ model.contained start, object ≠ start → IsPart object
  roots : ∀ object ∈ model.contained start, object.role = .aggregateRoot → object = start
  publishes : ∀ event, model.publishes start event = true ↔ SaidWithin model start (Publishes event)
  listensTo : ∀ event, model.listensTo start event = true ↔ SaidWithin model start (ListensTo event)
  processes : ∀ command, model.processes start command = true ↔
    SaidWithin model start (Processes model.settings.commandMatching command)
  unaffected : ∀ changes : List Change, (∀ change ∈ changes, OtherRoot model start change.name) →
    SameParts model (model.after changes) start ∧
      ∀ command, (model.after changes).processes start command = model.processes start command

theorem enclosed (built : Built catalog settings model) (stored : start ∈ model.profiles)
    (object : start.role.isDomainObject = true) : Enclosed model start := by
  have within : ∀ {speaks : Profile → Prop} {wanted : Profile → Bool},
      (∀ profile, wanted profile = true ↔ speaks profile) →
      (model.anySpeaker start wanted = true ↔ SaidWithin model start speaks) := by
    intro speaks wanted said
    exact ((answers model said).deep start).trans (exists_speaker_iff built stored object speaks)
  refine ⟨?_, ?_, ?_, ?_, ?_, ?_⟩
  · exact fun _ reported other => (isPart_of_contained built stored reported).resolve_left other
  · intro profile reported root
    exact (isPart_of_contained built stored reported).resolve_right fun part => part.not_root root
  · exact fun event => within (publishes_iff event)
  · exact fun event => within (listensTo_iff event)
  · exact fun command => within (processes_iff model.settings.commandMatching command)
  · intro changes elsewhere
    have same : SameParts model (model.after changes) start := sameParts_after
      fun change member => unreferenced_of_otherRoot built stored (elsewhere change member)
    have matching := congrArg Settings.commandMatching (Changes.after_keeps model changes).2
    exact ⟨same, same.processes matching⟩

/-- In the model of a catalog that stores its declarations under their own names, every domain object
stays within its aggregate. -/
theorem objects_enclosed (catalog : Catalog) (settings other : Settings) (packages : List String)
    (keyed : catalog.WellKeyed) :
    ∃ model, (Factory.ofCatalog catalog settings packages).model other = .ok model ∧
      Built catalog settings model ∧
      ∀ start ∈ model.profiles, start.role.isDomainObject = true → Enclosed model start := by
  obtain ⟨model, made, built⟩ := model_ok keyed settings other packages
  exact ⟨model, made, built, fun start stored object => enclosed built stored object⟩

/-- Accounts and customers hold each other across the boundary of their aggregates. Entries hold each
other within one, and the account that they belong to. -/
def bank : Catalog := .collect [
  { name := "Account", roles := [.aggregateRoot]
    fields := [{ name := "holder", type := .plain "Customer" },
      { name := "latest", type := .plain "Entry" }] },
  { name := "Entry", roles := [.entity]
    fields := [{ name := "account", type := .plain "Account" },
      { name := "previous", type := .plain "Entry" }] },
  { name := "Customer", roles := [.aggregateRoot]
    fields := [{ name := "account", type := .plain "Account" }]
    methods := [{ name := "move", publishedEvents := ["Moved"] }] },
  { name := "Moved", roles := [.domainEvent] }]

theorem objects_enclosed_bank : bank.WellKeyed ∧
    ∃ model, (Factory.ofCatalog bank .default []).model .default = .ok model ∧
      ∃ start ∈ model.profiles, start.role.isDomainObject = true ∧
        (model.contained start).map Profile.typeName = ["Account", "Entry"] ∧
        Enclosed model start ∧ OtherRoot model start "Customer" ∧
        SameParts model (model.after [.remove "Customer"]) start := by
  have keyed : bank.WellKeyed := wellKeyed_collect _
  obtain ⟨model, made, _, within⟩ := objects_enclosed bank .default .default [] keyed
  obtain ⟨same, again, shown⟩ := exists_ok_of_any
    ((Factory.ofCatalog bank .default []).model .default)
    (fun model => model.profiles.any fun start => decide (start.role.isDomainObject = true ∧
      (model.contained start).map Profile.typeName = ["Account", "Entry"] ∧
      start.typeName = "Account" ∧
      (model.get? "Customer").map Profile.role = some .aggregateRoot))
    (by decide +kernel)
  obtain rfl := Except.ok.inj (made.symm.trans again)
  obtain ⟨start, stored, holds⟩ := List.any_eq_true.mp shown
  obtain ⟨object, names, named, customer⟩ := of_decide_eq_true holds
  have elsewhere : OtherRoot model start "Customer" :=
    ⟨by simp [named], Option.map_eq_some_iff.mp customer⟩
  have kept := within start stored object
  exact ⟨keyed, model, made, start, stored, object, names, kept, elsewhere,
    (kept.unaffected _ (by simpa [Change.name] using elsewhere)).1⟩

end DomainAtlas.Proofs.Boundaries
