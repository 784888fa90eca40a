import Mathlib.Logic.ExistsUnique
import DomainAtlas.Proofs.Lookup
import DomainAtlas.Proofs.RegistryRuns

/-! The ways to look a profile up by role and name: in a registry, as a profile that must have the
role, and in the model in use. They all come to the same, and which profiles they find is what the
views of the model show. -/

namespace DomainAtlas.Proofs.LookupPaths
open RegistryRuns

variable {registry : Registry} {model : Model} {role : Role} {name : String} {profile : Profile}

/-- What looking a name up for a role comes to, by what the model in use holds. -/
inductive Outcome (registry : Registry) (role : Role) (name : String) : Except Fault Profile → Prop
  | notInitialized (missing : registry.current = none) :
      Outcome registry role name (.error .notInitialized)
  | notFound {model : Model} (held : registry.current = some model)
      (unknown : ∀ profile ∈ model.profiles, profile.typeName ≠ name) :
      Outcome registry role name (.error (.notFound role name))
  | wrongRole {model : Model} {profile : Profile} (held : registry.current = some model)
      (stored : profile ∈ model.profiles) (named : profile.typeName = name)
      (other : profile.role ≠ role) :
      Outcome registry role name (.error (.wrongRole role profile.role name))
  | found {model : Model} {profile : Profile} (held : registry.current = some model)
      (stored : profile ∈ model.profiles) (named : profile.typeName = name)
      (same : profile.role = role) :
      Outcome registry role name (.ok profile)

theorem typed_of_none (missing : registry.current = none) :
    registry.typed (some role) name = .error .notInitialized := by
  have asked : registry.query (.typed (some role) name) = _ := query_none missing
  exact asked

theorem typed_of_some (held : registry.current = some model) :
    registry.typed (some role) name = (model.lookup role name).map View.profile := by
  have asked : registry.query (.typed (some role) name) = _ := query_some held
  exact asked

/-- Both questions to a registry are the same, whatever it holds. -/
theorem lookup_eq_typed (registry : Registry) (role : Role) (name : String) :
    (registry.lookup role name).map View.profile = registry.typed (some role) name := by
  cases held : registry.current with
  | none =>
    have asked : registry.query (.lookup role name) = _ := query_none held
    rw [typed_of_none held]
    exact congrArg (Except.map View.profile) asked
  | some model =>
    have asked : registry.query (.lookup role name) = _ := query_some held
    rw [typed_of_some held]
    exact congrArg (Except.map View.profile) asked

theorem outcome_of_lookup (held : registry.current = some model) :
    Outcome registry role name ((model.lookup role name).map View.profile) := by
  rw [Model.lookup]
  cases found : model.get? name with
  | none =>
    apply Outcome.notFound held
    rintro profile stored rfl
    rw [Model.mem_profiles_iff, found] at stored
    cases stored
  | some profile =>
    have stored := Model.mem_profiles_of_get? found
    have named := Model.typeName_of_get? found
    by_cases same : profile.role = role
    · obtain ⟨view, viewed, rfl⟩ := Model.exists_view same
      simp only [viewed]
      exact .found held stored named same
    · simp only [Profile.as?, dif_neg same]
      exact .wrongRole held stored named same

theorem outcome_typed (registry : Registry) (role : Role) (name : String) :
    Outcome registry role name (registry.typed (some role) name) := by
  cases held : registry.current with
  | none =>
    rw [typed_of_none held]
    exact .notInitialized held
  | some model =>
    rw [typed_of_some held]
    exact outcome_of_lookup held

theorem typed_eq_ok_iff :
    registry.typed (some role) name = .ok profile ↔
      ∃ model, registry.current = some model ∧ profile ∈ model.profiles ∧
        profile.typeName = name ∧ profile.role = role := by
  constructor
  · intro answered
    have outcome := outcome_typed registry role name
    rw [answered] at outcome
    cases outcome with
    | found held stored named same => exact ⟨_, held, stored, named, same⟩
  · rintro ⟨model, held, stored, named, same⟩
    obtain ⟨view, _, rfl⟩ := Model.exists_view same
    have looked : model.lookup role name = .ok view :=
      Model.lookup_eq_ok_iff.mpr ⟨Model.mem_views_iff.mpr stored, named⟩
    rw [typed_of_some held, looked]
    rfl

theorem exists_typed_iff :
    (∃ profile, registry.typed (some role) name = .ok profile) ↔
      ∃ model, registry.current = some model ∧ name ∈ (model.views role).map View.typeName := by
  simp only [typed_eq_ok_iff, List.mem_map, Model.mem_views_iff]
  constructor
  · rintro ⟨profile, model, held, stored, named, same⟩
    obtain ⟨view, _, rfl⟩ := Model.exists_view same
    exact ⟨model, held, view, stored, named⟩
  · rintro ⟨model, held, view, stored, named⟩
    exact ⟨view.profile, model, held, stored, named, view.property⟩

/-- A stored profile is found for its own role and for no other. -/
theorem existsUnique_role (held : registry.current = some model)
    (stored : profile ∈ model.profiles) :
    ∃! role, ∃ found, registry.typed (some role) profile.typeName = .ok found := by
  refine ⟨profile.role, ⟨profile, typed_eq_ok_iff.mpr ⟨model, held, stored, rfl, rfl⟩⟩, ?_⟩
  rintro role ⟨found, answered⟩
  obtain ⟨_, again, also, named, same⟩ := typed_eq_ok_iff.mp answered
  cases held.symm.trans again
  rw [← same, Model.eq_of_typeName also stored named]

/-- The ways to look a name up for a role have the same outcome, and find something when it is the
name of a view of that role. -/
structure Agreed (registry : Registry) (role : Role) (name : String) : Prop where
  outcome : Outcome registry role name (registry.typed (some role) name)
  looked : (registry.lookup role name).map View.profile = registry.typed (some role) name
  asked : ∀ model, registry.current = some model →
    (model.lookup role name).map View.profile = registry.typed (some role) name
  success : (∃ profile, registry.typed (some role) name = .ok profile) ↔
    ∃ model, registry.current = some model ∧ name ∈ (model.views role).map View.typeName

/-- Whatever a registry holds, all ways to look up agree for every role and name, and each profile
of the model in use is found for exactly one role. -/
theorem lookups_agree (registry : Registry) :
    (∀ role name, Agreed registry role name) ∧
    ∀ model, registry.current = some model → ∀ profile ∈ model.profiles,
      ∃! role, ∃ found, registry.typed (some role) profile.typeName = .ok found := by
  constructor
  · intro role name
    exact ⟨outcome_typed registry role name, lookup_eq_typed registry role name,
      fun model held => (typed_of_some held).symm, exists_typed_iff⟩
  · intro model held profile stored
    exact existsUnique_role held stored

theorem lookups_agree_shop :
    (∃ profile, (Registry.mk (some shop)).typed (some .aggregateRoot) "shop.Order" = .ok profile) ∧
    ((Registry.mk (some shop)).lookup .entity "shop.Order").map View.profile =
      .error (.wrongRole (some .entity) (some .aggregateRoot) "shop.Order") ∧
    (shop.lookup .entity "shop.Invoice").map View.profile =
      .error (.notFound (some .entity) "shop.Invoice") ∧
    ∃! role, ∃ found, (Registry.mk (some shop)).typed (some role) "shop.Order" = .ok found := by
  obtain ⟨agreed, once⟩ := lookups_agree (.mk (some shop))
  have typed : (Registry.mk (some shop)).typed (some .entity) "shop.Order" =
      .error (.wrongRole (some .entity) (some .aggregateRoot) "shop.Order") := by decide +kernel
  have missing : (Registry.mk (some shop)).typed (some .entity) "shop.Invoice" =
      .error (.notFound (some .entity) "shop.Invoice") := by decide +kernel
  refine ⟨?_, ?_, ?_, ?_⟩
  · exact (agreed .aggregateRoot "shop.Order").success.mpr ⟨shop, rfl, by decide +kernel⟩
  · rw [(agreed .entity "shop.Order").looked, typed]
  · rw [(agreed .entity "shop.Invoice").asked shop rfl, missing]
  · exact once shop rfl { typeName := "shop.Order", kind := .aggregateRoot {} } (by decide +kernel)

end DomainAtlas.Proofs.LookupPaths
