import Mathlib.Data.List.Basic
import DomainAtlas.Proofs.Assembly
import DomainAtlas.Registry

/-! The model of a catalog. Where every declaration is stored under its own name, each type of the
domain has the one profile that its declaration and its classification call for. -/

namespace DomainAtlas.Proofs.Profiling
open Assembly (Keyed)

variable {catalog : Catalog} {settings : Settings}

theorem wellKeyed_iff :
    catalog.WellKeyed ↔ ∀ name decl, catalog.get? name = some decl → name = decl.name := by
  simp only [Catalog.WellKeyed, Prod.forall, Catalog.get?, NameMap.get?_eq_some_iff]

theorem mem_decls_iff (keyed : catalog.WellKeyed) {decl : TypeDecl} :
    decl ∈ catalog.decls ↔ catalog.get? decl.name = some decl := by
  constructor
  · intro member
    obtain ⟨name, found⟩ := NameMap.mem_values_iff.mp member
    rw [← wellKeyed_iff.mp keyed name decl found]
    exact found
  · exact fun found => NameMap.mem_values_iff.mpr ⟨_, found⟩

theorem wellKeyed_empty : Catalog.empty.WellKeyed := by
  simp [Catalog.WellKeyed, Catalog.empty, NameMap.empty]

private theorem wellKeyed_put {types : NameMap TypeDecl} (keyed : Catalog.WellKeyed ⟨types⟩)
    (decl : TypeDecl) : Catalog.WellKeyed ⟨types.insert decl.name decl⟩ := by
  apply wellKeyed_iff.mpr
  intro name other found
  rw [Catalog.get?, NameMap.get?_insert] at found
  split at found
  · cases found
    assumption
  · exact wellKeyed_iff.mp keyed name other found

theorem wellKeyed_insert (keyed : catalog.WellKeyed) {decl : TypeDecl} {next : Catalog}
    (inserted : catalog.insert decl = .ok next) : next.WellKeyed := by
  unfold Catalog.insert at inserted
  split at inserted
  · cases inserted
  · split at inserted
    · cases inserted
    · cases inserted
      exact wellKeyed_put keyed decl

theorem wellKeyed_collect (decls : List TypeDecl) : (Catalog.collect decls).WellKeyed := by
  unfold Catalog.collect NameMap.ofList
  rw [List.foldl_map]
  generalize start : (NameMap.empty : NameMap TypeDecl) = first
  have keyed : Catalog.WellKeyed ⟨first⟩ := start ▸ wellKeyed_empty
  clear start
  induction decls generalizing first with
  | nil => exact keyed
  | cons decl decls ih => exact ih _ (wellKeyed_put keyed decl)

def profileAt (catalog : Catalog) (settings : Settings) (name : String) : Option Profile := do
  let decl ← catalog.get? name
  let role ← catalog.tagOf name
  return catalog.profileOf settings name decl role

theorem tagOf_of_absent {name : String} (absent : catalog.get? name = none) :
    catalog.tagOf name = none := by
  have missing : ¬ catalog.contains name = true := by
    rw [Catalog.contains_iff, absent]
    exact Bool.false_ne_true
  exact if_neg missing

theorem profileAt_eq_some_iff {name : String} {profile : Profile} :
    profileAt catalog settings name = some profile ↔
      ∃ decl role, catalog.get? name = some decl ∧ catalog.tagOf name = some role ∧
        profile = catalog.profileOf settings name decl role := by
  simp [profileAt, Option.bind_eq_some_iff, @eq_comm Profile profile]

theorem typeName_profileAt (keyed : catalog.WellKeyed) {name : String} {profile : Profile}
    (found : profileAt catalog settings name = some profile) : name = profile.typeName := by
  obtain ⟨decl, role, described, _, rfl⟩ := profileAt_eq_some_iff.mp found
  exact wellKeyed_iff.mp keyed name decl described

theorem role_profileOf (catalog : Catalog) (settings : Settings) (name : String) (decl : TypeDecl)
    (role : Role) : (catalog.profileOf settings name decl role).role = role :=
  Catalog.role_kindOf ..

theorem role_profileAt (catalog : Catalog) (settings : Settings) (name : String) :
    (profileAt catalog settings name).map Profile.role = catalog.tagOf name := by
  unfold profileAt
  cases described : catalog.get? name with
  | none => exact (tagOf_of_absent described).symm
  | some decl =>
    cases catalog.tagOf name with
    | none => rfl
    | some role => exact congrArg some (role_profileOf ..)

theorem profile?_of_get? (settings : Settings) {name : String} {decl : TypeDecl}
    (found : catalog.get? name = some decl) :
    catalog.profile? settings name = .ok (profileAt catalog settings name) := by
  unfold Catalog.profile? profileAt
  rw [found]
  cases catalog.tagOf name <;> rfl

theorem profile?_of_absent (settings : Settings) {name : String} (absent : catalog.get? name = none) :
    catalog.profile? settings name = .error (.invalid (.undescribed name)) := by
  unfold Catalog.profile?
  rw [absent]

theorem exists_profile (settings : Settings) {name : String} {role : Role}
    (classified : catalog.tagOf name = some role) :
    ∃ decl, catalog.get? name = some decl ∧
      catalog.profile? settings name = .ok (some (catalog.profileOf settings name decl role)) := by
  cases described : catalog.get? name with
  | none => simp [tagOf_of_absent described] at classified
  | some decl => exact ⟨decl, rfl, by simp [Catalog.profile?, described, classified]⟩

def addProfile (catalog : Catalog) (settings : Settings) (found : NameMap Profile) (decl : TypeDecl) :
    Except Fault (NameMap Profile) := do
  return match ← catalog.profile? settings decl.name with
    | some profile => found.insert profile.typeName profile
    | none => found

theorem profiles_eq (catalog : Catalog) (settings : Settings) :
    catalog.profiles settings = catalog.decls.foldlM (addProfile catalog settings) .empty := rfl

def profilesOf (catalog : Catalog) (settings : Settings) (decls : List TypeDecl) : List Profile :=
  decls.filterMap fun decl => profileAt catalog settings decl.name

theorem addProfile_described {decl : TypeDecl} (described : catalog.contains decl.name = true)
    (found : NameMap Profile) :
    addProfile catalog settings found decl = .ok
      ((profilesOf catalog settings [decl]).foldl
        (fun found profile => found.insert profile.typeName profile) found) := by
  obtain ⟨stored, lookup⟩ := Option.isSome_iff_exists.mp (Catalog.contains_iff.mp described)
  rw [addProfile, profile?_of_get? settings lookup, profilesOf]
  cases profile : profileAt catalog settings decl.name <;> simp [profile, bind, Except.bind, pure, Except.pure]

theorem addProfile_undescribed {decl : TypeDecl} (undescribed : catalog.contains decl.name = false)
    (found : NameMap Profile) :
    addProfile catalog settings found decl = .error (.invalid (.undescribed decl.name)) := by
  have absent : catalog.get? decl.name = none := by
    rw [← Option.not_isSome_iff_eq_none, ← Catalog.contains_iff, undescribed]
    exact Bool.false_ne_true
  rw [addProfile, profile?_of_absent settings absent]
  rfl

theorem foldlM_described {decls : List TypeDecl}
    (described : ∀ decl ∈ decls, catalog.contains decl.name = true) (found : NameMap Profile) :
    decls.foldlM (addProfile catalog settings) found = .ok
      ((profilesOf catalog settings decls).foldl
        (fun found profile => found.insert profile.typeName profile) found) := by
  induction decls generalizing found with
  | nil => rfl
  | cons decl decls ih =>
    have rest := ih fun other member => described other (List.mem_cons_of_mem _ member)
    have split : profilesOf catalog settings (decl :: decls) =
        profilesOf catalog settings [decl] ++ profilesOf catalog settings decls :=
      List.filterMap_append (l := [decl])
    rw [List.foldlM_cons, addProfile_described (described decl List.mem_cons_self), split,
      List.foldl_append]
    exact rest _

def entriesAt (catalog : Catalog) (settings : Settings) (names : List String) :
    List (String × Profile) :=
  names.filterMap fun name => (profileAt catalog settings name).map (name, ·)

theorem mem_entriesAt_iff {names : List String} {name : String} {profile : Profile} :
    (name, profile) ∈ entriesAt catalog settings names ↔
      name ∈ names ∧ profileAt catalog settings name = some profile := by
  simp only [entriesAt, List.mem_filterMap, Option.map_eq_some_iff, Prod.mk.injEq]
  constructor
  · rintro ⟨_, member, _, found, rfl, rfl⟩
    exact ⟨member, found⟩
  · exact fun ⟨member, found⟩ => ⟨name, member, profile, found, rfl, rfl⟩

theorem names_entriesAt (catalog : Catalog) (settings : Settings) (names : List String) :
    (entriesAt catalog settings names).map Prod.fst =
      names.filter fun name => (catalog.tagOf name).isSome := by
  rw [entriesAt, List.map_filterMap, ← List.filterMap_eq_filter]
  apply List.filterMap_congr
  intro name _
  rw [Option.guard, ← role_profileAt catalog settings name]
  cases profileAt catalog settings name <;> rfl

theorem names_eq (keyed : catalog.WellKeyed) : catalog.types.names = catalog.decls.map (·.name) := by
  rw [Catalog.decls, NameMap.values, List.map_map, NameMap.names]
  exact List.map_congr_left keyed

/-- Where declarations are stored under their own names, so are the profiles, in the same order. -/
theorem profiles_entries (keyed : catalog.WellKeyed) (settings : Settings) :
    ∃ found, catalog.profiles settings = .ok found ∧
      found.entries = entriesAt catalog settings catalog.types.names := by
  have described : ∀ decl ∈ catalog.decls, catalog.contains decl.name = true := by
    intro decl member
    rw [Catalog.contains_iff, (mem_decls_iff keyed).mp member]
    rfl
  have entries : (profilesOf catalog settings catalog.decls).map
      (fun profile => (profile.typeName, profile)) =
        entriesAt catalog settings catalog.types.names := by
    rw [names_eq keyed, entriesAt, List.filterMap_map, profilesOf, List.map_filterMap]
    apply List.filterMap_congr
    intro decl _
    rw [Function.comp_apply]
    cases found : profileAt catalog settings decl.name with
    | none => rfl
    | some profile =>
      rw [typeName_profileAt keyed found]
      rfl
  refine ⟨_, (profiles_eq catalog settings).trans (foldlM_described described .empty), ?_⟩
  rw [← entries, ← List.foldl_map
    (f := fun profile : Profile => (profile.typeName, profile))
    (g := fun (found : NameMap Profile) entry => found.insert entry.1 entry.2),
    NameMap.entries_foldl_insert]
  · rfl
  · rw [entries, names_entriesAt]
    exact catalog.types.names_nodup.filter _

theorem profiles_ok (keyed : catalog.WellKeyed) (settings : Settings) :
    ∃ found, catalog.profiles settings = .ok found ∧
      ∀ name, found.get? name = profileAt catalog settings name := by
  obtain ⟨found, profiled, entries⟩ := profiles_entries keyed settings
  refine ⟨found, profiled, ?_⟩
  intro name
  apply Option.ext
  intro profile
  rw [NameMap.get?_eq_some_iff, entries, mem_entriesAt_iff]
  refine ⟨And.right, fun built => ⟨?_, built⟩⟩
  obtain ⟨decl, _, described, _⟩ := profileAt_eq_some_iff.mp built
  exact NameMap.get?_isSome_iff.mp (Option.isSome_iff_exists.mpr ⟨decl, described⟩)

/-- A model holds the profiles of a catalog, each under its name, and no others. -/
def Built (catalog : Catalog) (settings : Settings) (model : Model) : Prop :=
  ∀ name, model.get? name = profileAt catalog settings name

theorem model_ok (keyed : catalog.WellKeyed) (settings other : Settings) (packages : List String) :
    ∃ model, (Factory.ofCatalog catalog settings packages).model other = .ok model ∧
      Built catalog settings model := by
  obtain ⟨found, profiled, answers⟩ := profiles_ok keyed settings
  have kept : Keyed found := by
    rintro ⟨name, profile⟩ member
    have answer := answers name
    rw [NameMap.get?_eq_some_iff.mpr member] at answer
    exact typeName_profileAt keyed answer.symm
  refine ⟨.assemble found packages other, ?_, ?_⟩
  · simp [Factory.model, Factory.ofCatalog, profiled, bind, Except.bind, pure, Except.pure]
  · intro name
    rw [Model.get?, Assembly.types_assemble kept]
    exact answers name

theorem Built.role_eq {model : Model} (built : Built catalog settings model) (name : String) :
    (model.get? name).map Profile.role = catalog.tagOf name := by
  rw [built name, role_profileAt]

theorem Built.exists_decl {model : Model} (built : Built catalog settings model) {profile : Profile}
    (member : profile ∈ model.profiles) :
    ∃ decl role, catalog.get? profile.typeName = some decl ∧
      catalog.tagOf profile.typeName = some role ∧
      profile = catalog.profileOf settings profile.typeName decl role := by
  have found := Model.mem_profiles_iff.mp member
  rw [built] at found
  exact profileAt_eq_some_iff.mp found

end DomainAtlas.Proofs.Profiling
