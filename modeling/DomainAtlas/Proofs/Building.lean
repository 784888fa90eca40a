import DomainAtlas.Proofs.Reordering

/-! Building the profiles of a catalog. It succeeds when every declaration can be looked up by its
own name, and otherwise the first one that cannot decides. Where declarations are stored under their
own names, each type of the domain gets the profile that it would get alone, in catalog order. -/

namespace DomainAtlas.Proofs.Building
open Profiling Reordering

variable {catalog : Catalog} {settings : Settings}

/-- The first declaration that cannot be looked up by its own name ends the building. -/
theorem profiles_undescribed {decl : TypeDecl}
    (first : catalog.decls.find? (fun decl => !catalog.contains decl.name) = some decl) :
    catalog.profiles settings = .error (.invalid (.undescribed decl.name)) := by
  obtain ⟨undescribed, before, after, split, earlier⟩ := List.find?_eq_some_iff_append.mp first
  have described : ∀ other ∈ before, catalog.contains other.name = true := by
    simpa using earlier
  rw [profiles_eq, split, List.foldlM_append, foldlM_described described]
  simp only [bind, Except.bind, List.foldlM_cons]
  rw [addProfile_undescribed (by simpa using undescribed)]

theorem profiles_ok_iff (catalog : Catalog) (settings : Settings) :
    (∃ found, catalog.profiles settings = .ok found) ↔
      ∀ decl ∈ catalog.decls, catalog.contains decl.name = true := by
  constructor
  · rintro ⟨found, profiled⟩ decl member
    by_contra missing
    have undescribed : (catalog.decls.find? fun decl => !catalog.contains decl.name).isSome = true :=
      List.find?_isSome.mpr ⟨decl, member, by simpa using missing⟩
    obtain ⟨first, isFirst⟩ := Option.isSome_iff_exists.mp undescribed
    rw [profiles_undescribed isFirst] at profiled
    cases profiled
  · intro described
    exact ⟨_, (profiles_eq catalog settings).trans (foldlM_described described .empty)⟩

/-- What the profiles of a catalog are: one for each type of the domain, in the order of the catalog,
with the name and the classification of the type, and just the one that the type gets alone. -/
structure Faithful (catalog : Catalog) (settings : Settings) (found : NameMap Profile) : Prop where
  names : found.names = catalog.types.names.filter fun name => (catalog.tagOf name).isSome
  named : ∀ name profile, found.get? name = some profile → profile.typeName = name
  classified : ∀ name profile, found.get? name = some profile →
    some profile.role = catalog.tagOf name
  alone : ∀ name profile, found.get? name = some profile →
    catalog.profile? settings name = .ok (some profile)

theorem faithful_of_entries (keyed : catalog.WellKeyed) {found : NameMap Profile}
    (entries : found.entries = entriesAt catalog settings catalog.types.names) :
    Faithful catalog settings found := by
  have built : ∀ name profile, found.get? name = some profile →
      profileAt catalog settings name = some profile := by
    intro name profile stored
    rw [NameMap.get?_eq_some_iff, entries, mem_entriesAt_iff] at stored
    exact stored.2
  refine ⟨?_, ?_, ?_, ?_⟩
  · rw [NameMap.names, entries, names_entriesAt]
  · exact fun name profile stored => (typeName_profileAt keyed (built name profile stored)).symm
  · intro name profile stored
    rw [← role_profileAt catalog settings name, built name profile stored]
    rfl
  · intro name profile stored
    obtain ⟨decl, _, described, _⟩ := profileAt_eq_some_iff.mp (built name profile stored)
    rw [profile?_of_get? settings described, built name profile stored]

/-- In whatever order the declarations are stored, the profiles are the same. -/
theorem profiles_perm {other : Catalog} (keyed : catalog.WellKeyed)
    (perm : catalog.types.entries.Perm other.types.entries) {found : NameMap Profile}
    (entries : found.entries = entriesAt catalog settings catalog.types.names) :
    ∃ again, other.profiles settings = .ok again ∧ found.entries.Perm again.entries := by
  have alike := alike_of_perm perm
  obtain ⟨again, profiled, others⟩ := profiles_entries (alike.wellKeyed keyed) settings
  refine ⟨again, profiled, ?_⟩
  have same : entriesAt other settings = entriesAt catalog settings := by
    funext names
    simp only [entriesAt, alike.profileAt]
  rw [entries, others, same]
  exact (perm.map Prod.fst).filterMap _

/-- Building succeeds just when every declaration can be looked up by its own name. On a catalog that
stores its declarations under their own names it is faithful, and it does not depend on their order. -/
theorem building_total_faithful (catalog : Catalog) (settings : Settings) :
    ((∃ found, catalog.profiles settings = .ok found) ↔
      ∀ decl ∈ catalog.decls, catalog.contains decl.name = true) ∧
    (∀ decl, catalog.decls.find? (fun decl => !catalog.contains decl.name) = some decl →
      catalog.profiles settings = .error (.invalid (.undescribed decl.name))) ∧
    (catalog.WellKeyed → ∃ found, catalog.profiles settings = .ok found ∧
      Faithful catalog settings found ∧
      ∀ other : Catalog, catalog.types.entries.Perm other.types.entries →
        ∃ again, other.profiles settings = .ok again ∧ found.entries.Perm again.entries) := by
  refine ⟨profiles_ok_iff catalog settings, fun _ first => profiles_undescribed first, ?_⟩
  intro keyed
  obtain ⟨found, profiled, entries⟩ := profiles_entries keyed settings
  exact ⟨found, profiled, faithful_of_entries keyed entries,
    fun _ perm => profiles_perm keyed perm entries⟩

def filed : Catalog := .collect [
  { name := "Invoice", roles := [.entity], superclass := some "Paper"
    fields := [{ name := "number", type := .plain "Number", access := .anyone }] },
  { name := "Paper" },
  { name := "Number", roles := [.identity] }]

def refiled : Catalog where
  types :=
    { entries := filed.types.entries.reverse
      nodup := by
        rw [List.map_reverse]
        exact List.nodup_reverse.mpr filed.types.nodup }

def misfiled : Catalog := ⟨⟨[("Draft", { name := "Letter" })], by simp⟩⟩

theorem building_total_faithful_filed :
    misfiled.decls.find? (fun decl => !misfiled.contains decl.name) = some { name := "Letter" } ∧
    misfiled.profiles .default = .error (.invalid (.undescribed "Letter")) ∧
    filed.WellKeyed ∧ filed.types.entries.Perm refiled.types.entries ∧
    ∃ found, filed.profiles .default = .ok found ∧ found.names = ["Invoice", "Number"] ∧
      ∃ again, refiled.profiles .default = .ok again ∧ found.entries.Perm again.entries := by
  have first : misfiled.decls.find? (fun decl => !misfiled.contains decl.name) =
      some { name := "Letter" } := by decide +kernel
  have keyed : filed.WellKeyed := wellKeyed_collect _
  have perm : filed.types.entries.Perm refiled.types.entries := (List.reverse_perm _).symm
  obtain ⟨found, profiled, faithful, reordered⟩ :=
    (building_total_faithful filed .default).2.2 keyed
  obtain ⟨again, profiledAgain, same⟩ := reordered refiled perm
  have names : found.names = ["Invoice", "Number"] := by
    rw [faithful.names]
    decide +kernel
  exact ⟨first, (building_total_faithful misfiled .default).2.1 _ first, keyed, perm, found, profiled,
    names, again, profiledAgain, same⟩

end DomainAtlas.Proofs.Building
