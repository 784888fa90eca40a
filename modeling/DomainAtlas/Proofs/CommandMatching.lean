import DomainAtlas.Proofs.Coherence
import DomainAtlas.Proofs.Messages
import DomainAtlas.Proofs.Supertypes

/-! Matching commands by inheritance. A profile keeps the superclasses of its type apart from the
interfaces, and a method is matched to a command by the superclasses alone. So a method processes
the commands that extend the type of its one parameter, and misses those that only implement it. -/

open Relation (ReflTransGen)

namespace DomainAtlas.Proofs.CommandMatching
open Supertypes Profiling Coherence Messages

variable {catalog : Catalog} {settings : Settings} {model : Model} {object command : Profile}

theorem line_iff (catalog : Catalog) (name upper : String) :
    upper ∈ name :: catalog.superclasses name ↔ ReflTransGen (Extends catalog) name upper := by
  have line := line_superclasses catalog name
  constructor
  · intro member
    rcases List.mem_cons.mp member with rfl | above
    · exact .refl
    · exact (line.extended above).to_reflTransGen
  · intro path
    induction path with
    | refl => exact List.mem_cons_self
    | tail _ extend inLine =>
      rcases line.closed inLine extend with start | above
      · exact List.mem_singleton.mp start ▸ List.mem_cons_self
      · exact List.mem_cons_of_mem _ above

theorem isAssignable_iff_line (catalog : Catalog) (name upper : String) :
    catalog.isAssignable name upper = true ↔
      ReflTransGen (Extends catalog) name upper ∨ upper ∈ catalog.interfaces name := by
  rw [← line_iff, isAssignable_iff, reached_iff, List.mem_cons, or_assoc]

theorem superclasses_eq (built : Built catalog settings model) {profile : Profile}
    (member : profile ∈ model.profiles) :
    profile.superclasses = catalog.superclasses profile.typeName := by
  obtain ⟨decl, role, _, _, same⟩ := built.exists_decl member
  exact congrArg Profile.superclasses same

def Takes (object : Profile) (type : String) : Prop :=
  ∃ method ∈ object.methods, ∃ param, method.params = [param] ∧ param.type.typeName = type

theorem processes_iff_takes (object command : Profile) :
    object.processes .inheritanceAware command = true ↔
      ∃ type, Takes object type ∧ type ∈ command.typeName :: command.superclasses := by
  rw [processes_iff]
  simp only [Processes, Takes, true_and, List.mem_cons]
  constructor
  · rintro ⟨method, member, param, sole, matched⟩
    exact ⟨_, ⟨method, member, param, sole, rfl⟩, matched⟩
  · rintro ⟨_, ⟨method, member, param, sole, rfl⟩, matched⟩
    exact ⟨method, member, param, sole, matched⟩

instance (object : Profile) (type : String) : Decidable (Takes object type) :=
  decidable_of_iff
    ((object.methods.any fun method =>
      (only? method.params).any (·.type.typeName == type)) = true) (by
    simp [Takes, Option.any_eq_true, only?_eq_some_iff])

/-- Which of the commands that are assignable to what an object takes are matched to it: those that
extend it. A command is missed when the object takes an interface of it, but nothing in its line of
superclasses. -/
structure MatchedByLine (catalog : Catalog) (model : Model) (object command : Profile) : Prop where
  matched : model.processesItself object command = true ↔
    ∃ type, Takes object type ∧ ReflTransGen (Extends catalog) command.typeName type
  assignable : model.processesItself object command = true →
    ∃ type, Takes object type ∧ catalog.isAssignable command.typeName type = true
  missed : (∃ type, Takes object type ∧ catalog.isAssignable command.typeName type = true) ∧
      model.processesItself object command = false ↔
    (∃ type, Takes object type ∧ type ∈ catalog.interfaces command.typeName) ∧
      ∀ type, Takes object type → ¬ ReflTransGen (Extends catalog) command.typeName type

theorem matchedByLine (built : Built catalog settings model)
    (inheriting : model.settings.commandMatching = .inheritanceAware)
    (member : command ∈ model.profiles) : MatchedByLine catalog model object command := by
  have matched : model.processesItself object command = true ↔
      ∃ type, Takes object type ∧ ReflTransGen (Extends catalog) command.typeName type := by
    rw [Model.processesItself, inheriting, processes_iff_takes, superclasses_eq built member]
    simp only [line_iff]
  refine ⟨matched, ?_, ?_⟩
  · intro processed
    obtain ⟨type, taken, extend⟩ := matched.mp processed
    exact ⟨type, taken, (isAssignable_iff_line ..).mpr (.inl extend)⟩
  · rw [← Bool.not_eq_true, matched]
    simp only [not_exists, not_and, isAssignable_iff_line]
    constructor
    · rintro ⟨⟨type, taken, extend | implement⟩, outside⟩
      · exact absurd extend (outside type taken)
      · exact ⟨⟨type, taken, implement⟩, outside⟩
    · rintro ⟨⟨type, taken, implement⟩, outside⟩
      exact ⟨⟨type, taken, .inr implement⟩, outside⟩

theorem settings_model {factory : Factory} {given : Settings}
    (made : factory.model given = .ok model) : model.settings = given := by
  cases found : factory.profiles with
  | error fault => simp [Factory.model, found, bind, Except.bind] at made
  | ok types =>
    rw [Factory.model, found] at made
    obtain rfl := Except.ok.inj made
    exact Assembly.settings_assemble ..

/-- In the model of a catalog that stores its declarations under their own names, commands are
matched by inheritance along their lines of superclasses. -/
theorem commands_matched (catalog : Catalog) (settings other : Settings) (packages : List String)
    (keyed : catalog.WellKeyed) (inheriting : other.commandMatching = .inheritanceAware) :
    ∃ model, (Factory.ofCatalog catalog settings packages).model other = .ok model ∧
      ∀ object ∈ model.profiles, ∀ command ∈ model.profiles,
        MatchedByLine catalog model object command := by
  obtain ⟨model, made, built⟩ := model_ok keyed settings other packages
  refine ⟨model, made, ?_⟩
  intro object _ command member
  exact matchedByLine built (settings_model made ▸ inheriting) member

/-- A cancellation is a request, and like every request it can be audited. Clerks take requests,
auditors take what can be audited. -/
def office : Catalog := .collect [
  { name := "Audited" },
  { name := "Request", interfaces := ["Audited"] },
  { name := "Cancel", roles := [.domainCommand], superclass := some "Request" },
  { name := "Clerk", roles := [.domainService]
    methods := [{ name := "handle", params := [{ name := "request", type := .plain "Request" }] }] },
  { name := "Auditor", roles := [.domainService]
    methods := [{ name := "record", params := [{ name := "entry", type := .plain "Audited" }] }] }]

def inheriting : Settings := { Settings.default with commandMatching := .inheritanceAware }

theorem commands_matched_office : office.WellKeyed ∧
    inheriting.commandMatching = .inheritanceAware ∧
    ∃ model, (Factory.ofCatalog office inheriting []).model inheriting = .ok model ∧
      ∃ clerk ∈ model.profiles, ∃ cancel ∈ model.profiles, cancel.role = .domainCommand ∧
        MatchedByLine office model clerk cancel ∧ Takes clerk "Request" ∧
        ReflTransGen (Extends office) cancel.typeName "Request" ∧
        model.processesItself clerk cancel = true := by
  have keyed : office.WellKeyed := wellKeyed_collect _
  obtain ⟨model, made, matched⟩ := commands_matched office inheriting inheriting [] keyed rfl
  obtain ⟨same, again, shown⟩ := exists_ok_of_any
    ((Factory.ofCatalog office inheriting []).model inheriting)
    (fun model => model.profiles.any fun clerk => model.profiles.any fun cancel =>
      decide (cancel.role = .domainCommand ∧ Takes clerk "Request" ∧ cancel.typeName = "Cancel"))
    (by decide +kernel)
  obtain rfl := Except.ok.inj (made.symm.trans again)
  obtain ⟨clerk, stored, commands⟩ := List.any_eq_true.mp shown
  obtain ⟨cancel, member, holds⟩ := List.any_eq_true.mp commands
  obtain ⟨command, takes, named⟩ := of_decide_eq_true holds
  have extend : ReflTransGen (Extends office) cancel.typeName "Request" := by
    rw [named, ← line_iff]
    decide +kernel
  have matching := matched clerk stored cancel member
  exact ⟨keyed, rfl, model, made, clerk, stored, cancel, member, command, matching, takes, extend,
    matching.matched.mpr ⟨"Request", takes, extend⟩⟩

/-- The auditor takes an interface that the cancellation inherits, and does not process it. -/
theorem cancel_not_audited : office.WellKeyed ∧
    inheriting.commandMatching = .inheritanceAware ∧
    ∃ model, (Factory.ofCatalog office inheriting []).model inheriting = .ok model ∧
      ∃ auditor ∈ model.profiles, ∃ cancel ∈ model.profiles, cancel.role = .domainCommand ∧
        Takes auditor "Audited" ∧ office.isAssignable cancel.typeName "Audited" = true ∧
        model.processesItself auditor cancel = false := by
  obtain ⟨model, made, shown⟩ := exists_ok_of_any
    ((Factory.ofCatalog office inheriting []).model inheriting)
    (fun model => model.profiles.any fun auditor => model.profiles.any fun cancel =>
      decide (cancel.role = .domainCommand ∧ Takes auditor "Audited" ∧
        office.isAssignable cancel.typeName "Audited" = true ∧
        model.processesItself auditor cancel = false))
    (by decide +kernel)
  obtain ⟨auditor, stored, commands⟩ := List.any_eq_true.mp shown
  obtain ⟨cancel, member, holds⟩ := List.any_eq_true.mp commands
  obtain ⟨command, takes, assignable, unprocessed⟩ := of_decide_eq_true holds
  exact ⟨wellKeyed_collect _, rfl, model, made, auditor, stored, cancel, member, command, takes,
    assignable, unprocessed⟩

end DomainAtlas.Proofs.CommandMatching
