import DomainAtlas.Model.Basic

/-! What a model answers when it is asked for a name. A profile is stored under its own type name
and nowhere else, so being stored and being found are the same. -/

namespace DomainAtlas

theorem NameMap.mem_values_iff {α : Type} {map : NameMap α} {value : α} :
    value ∈ map.values ↔ ∃ name, map.get? name = some value := by
  simp only [NameMap.values, List.mem_map, Prod.exists, NameMap.get?_eq_some_iff]
  constructor
  · rintro ⟨name, _, member, rfl⟩
    exact ⟨name, member⟩
  · rintro ⟨name, member⟩
    exact ⟨name, value, member, rfl⟩

namespace Model

variable {model : Model}

theorem typeName_of_get? {name : String} {profile : Profile}
    (found : model.get? name = some profile) : profile.typeName = name :=
  (model.keyed _ (NameMap.get?_eq_some_iff.mp found)).symm

theorem mem_profiles_iff {profile : Profile} :
    profile ∈ model.profiles ↔ model.get? profile.typeName = some profile := by
  constructor
  · intro member
    obtain ⟨name, found⟩ := NameMap.mem_values_iff.mp member
    rw [typeName_of_get? found]
    exact found
  · exact fun found => NameMap.mem_values_iff.mpr ⟨_, found⟩

theorem mem_profiles_of_get? {name : String} {profile : Profile}
    (found : model.get? name = some profile) : profile ∈ model.profiles :=
  NameMap.mem_values_iff.mpr ⟨name, found⟩

theorem mem_profiles_insert (model : Model) (profile : Profile) :
    profile ∈ (model.insert profile).profiles := by
  apply mem_profiles_iff.mpr
  exact (NameMap.get?_insert ..).trans (if_pos rfl)

theorem eq_of_typeName {first second : Profile} (left : first ∈ model.profiles)
    (right : second ∈ model.profiles) (same : first.typeName = second.typeName) :
    first = second := by
  have found := mem_profiles_iff.mp left
  rw [same, mem_profiles_iff.mp right] at found
  exact (Option.some.inj found).symm

/-- A model has at most one profile of each name. -/
theorem nodup_typeNames (model : Model) : (model.profiles.map Profile.typeName).Nodup := by
  have names : model.profiles.map Profile.typeName = model.types.names := by
    rw [profiles, NameMap.values, List.map_map, NameMap.names]
    exact List.map_congr_left fun entry member => (model.keyed entry member).symm
  rw [names]
  exact model.types.names_nodup

theorem exists_view {profile : Profile} {role : Role} (same : profile.role = role) :
    ∃ view, profile.as? role = some view ∧ view.profile = profile :=
  ⟨⟨profile, same⟩, dif_pos same, rfl⟩

theorem as?_eq_some_iff {profile : Profile} {role : Role} {view : View role} :
    profile.as? role = some view ↔ view.profile = profile := by
  unfold Profile.as?
  constructor
  · intro viewed
    split at viewed
    next => exact congrArg View.profile (Option.some.inj viewed).symm
    next => cases viewed
  · rintro rfl
    exact dif_pos view.property

theorem mem_views_iff {role : Role} {view : View role} :
    view ∈ model.views role ↔ view.profile ∈ model.profiles := by
  simp only [views, List.mem_filterMap, as?_eq_some_iff, exists_eq_right']

/-- The view that is looked up is the stored one of that name. -/
theorem lookup_eq_ok_iff {role : Role} {name : String} {view : View role} :
    model.lookup role name = .ok view ↔ view ∈ model.views role ∧ view.typeName = name := by
  have stored : model.get? name = some view.profile ↔
      view ∈ model.views role ∧ view.typeName = name := by
    rw [mem_views_iff, mem_profiles_iff]
    constructor
    · intro found
      have named := typeName_of_get? found
      exact ⟨named.symm ▸ found, named⟩
    · rintro ⟨found, rfl⟩
      exact found
  rw [← stored, lookup]
  cases model.get? name with
  | none => simp
  | some profile =>
    rw [Option.some.injEq, eq_comm (b := view.profile), ← as?_eq_some_iff]
    dsimp only
    cases profile.as? role <;> simp

theorem resolve_ok {role : Role} {name : String} {profile : Profile}
    (found : model.get? name = some profile) (same : profile.role = role) (referencing : String) :
    ∃ view, model.resolve role referencing name = .ok view ∧ view.profile = profile := by
  obtain ⟨view, viewed, holds⟩ := exists_view same
  have looked : model.lookup role name = .ok view := by simp [lookup, found, viewed]
  refine ⟨view, ?_, holds⟩
  rw [resolve, looked]
  rfl

/-- References resolve when each of them is stored with the role that is asked for. -/
theorem resolveAll_ok {role : Role} {names : List String}
    (stored : ∀ name ∈ names, ∃ profile, model.get? name = some profile ∧ profile.role = role)
    (referencing : String) :
    ∃ views, model.resolveAll role referencing names = .ok views ∧
      views.map View.typeName = names ∧ ∀ view ∈ views, view.profile ∈ model.profiles := by
  induction names with
  | nil => exact ⟨[], rfl, rfl, by simp⟩
  | cons name names ih =>
    obtain ⟨profile, found, same⟩ := stored name List.mem_cons_self
    obtain ⟨view, first, rfl⟩ := resolve_ok found same referencing
    obtain ⟨views, rest, named, kept⟩ :=
      ih fun other member => stored other (List.mem_cons_of_mem _ member)
    refine ⟨view :: views, ?_, ?_, ?_⟩
    · rw [resolveAll] at rest ⊢
      rw [List.mapM_cons, first, rest]
      rfl
    · rw [List.map_cons, named]
      exact congrArg (· :: names) (typeName_of_get? found)
    · intro other member
      rcases List.mem_cons.mp member with rfl | later
      · exact mem_profiles_of_get? found
      · exact kept other later

end Model

end DomainAtlas
