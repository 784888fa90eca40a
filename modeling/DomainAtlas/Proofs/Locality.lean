import DomainAtlas.Model.Changes
import DomainAtlas.Proofs.Changes
import DomainAtlas.Proofs.Messages

/-! What a walk depends on. It looks up the types of the parts of the objects that it reports and
nothing else, so two models that agree there are walked alike, whatever else they hold. -/

namespace DomainAtlas.Proofs.Locality
open Containment Messages

variable {model other : Model} {start owner : Profile}

/-- Two models have the same under the type of every part that an object holds. -/
def Agree (model other : Model) (owner : Profile) : Prop :=
  ∀ field ∈ owner.fields, HoldsPart field →
    other.get? field.typeName = model.get? field.typeName

instance : Decidable (Agree model other owner) := inferInstanceAs (Decidable (∀ _ ∈ _, _ → _))

theorem Agree.follow_eq (agree : Agree model other owner) :
    other.follow owner = model.follow owner := by
  unfold Model.follow
  apply List.filterMap_congr
  intro field first
  obtain ⟨inside, part⟩ := List.mem_filter.mp (mem_of_mem_firstsBy first)
  have same := agree field inside ((isContainment_iff field).mp part)
  rw [Model.domainObject?, Model.domainObject?, same]

theorem Agree.fresh_eq (agree : Agree model other owner) (marked : List String) :
    other.fresh marked owner = model.fresh marked owner := by
  rw [Model.fresh, Model.fresh, agree.follow_eq]

/-- Only the first walk tells on which objects the models have to agree; as long as they do, both
have the same objects on their stacks. -/
theorem walkFrom_eq (marked : List String) (stack : List (Profile × Nat))
    (agree : ∀ owner ∈ objects (model.walkFrom marked stack), Agree model other owner) :
    other.walkFrom marked stack = model.walkFrom marked stack := by
  fun_induction Model.walkFrom model marked stack with
  | case1 marked => rw [Model.walkFrom]
  | case2 marked owner depth rest ih =>
    rw [objects_step] at agree
    have here := agree owner List.mem_cons_self
    have later := ih fun object reported => agree object (List.mem_cons_of_mem _ reported)
    rw [Model.walkFrom, here.follow_eq, here.fresh_eq, later]

/-- An object is the same to two models: it contains the same, in the same order and at the same
depths, and it speaks alike about every message. -/
structure SameParts (model other : Model) (start : Profile) : Prop where
  visits : other.walk start = model.walk start
  contained : other.contained start = model.contained start
  publishes : ∀ event, other.publishes start event = model.publishes start event
  listensTo : ∀ event, other.listensTo start event = model.listensTo start event
  processes : other.settings.commandMatching = model.settings.commandMatching →
    ∀ command, other.processes start command = model.processes start command

theorem anySpeaker_congr (same : other.contained start = model.contained start)
    (wanted : Profile → Bool) : other.anySpeaker start wanted = model.anySpeaker start wanted := by
  rw [anySpeaker_eq, anySpeaker_eq, speakers, speakers, same]

theorem sameParts (agree : ∀ owner ∈ model.contained start, Agree model other owner) :
    SameParts model other start := by
  have visits : other.walk start = model.walk start := walkFrom_eq [start.typeName] [(start, 0)] agree
  have contained : other.contained start = model.contained start := congrArg objects visits
  refine ⟨visits, contained, ?_, ?_, ?_⟩
  · exact fun event => anySpeaker_congr contained _
  · exact fun event => anySpeaker_congr contained _
  · intro matching command
    have asked : (other.processesItself · command) = (model.processesItself · command) := by
      funext object
      rw [Model.processesItself, Model.processesItself, matching]
    rw [Model.processes, Model.processes, asked]
    exact anySpeaker_congr contained _

def Unreferenced (model : Model) (start : Profile) (name : String) : Prop :=
  ∀ owner ∈ model.contained start, ∀ field ∈ owner.fields, HoldsPart field →
    field.typeName ≠ name

instance (start : Profile) (name : String) : Decidable (Unreferenced model start name) :=
  inferInstanceAs (Decidable (∀ _ ∈ _, ∀ _ ∈ _, _ → _))

theorem get?_after (model : Model) {changes : List Change} {name : String}
    (elsewhere : ∀ change ∈ changes, change.name ≠ name) :
    (model.after changes).get? name = model.get? name := by
  induction changes generalizing model with
  | nil => rfl
  | cons change changes ih =>
    obtain ⟨first, rest⟩ := List.forall_mem_cons.mp elsewhere
    exact (ih (model.apply change).2 rest).trans (Changes.get?_apply model first)

theorem sameParts_after {changes : List Change}
    (unreferenced : ∀ change ∈ changes, Unreferenced model start change.name) :
    SameParts model (model.after changes) start := by
  apply sameParts
  intro owner reported field inside part
  apply get?_after
  intro change member same
  exact unreferenced change member owner reported field inside part same.symm

theorem stored_after (stored : start ∈ model.profiles) {changes : List Change}
    (elsewhere : ∀ change ∈ changes, change.name ≠ start.typeName) :
    start ∈ (model.after changes).profiles := by
  rw [Model.mem_profiles_iff, get?_after model elsewhere]
  exact Model.mem_profiles_iff.mp stored

theorem get?_of_perm (perm : other.types.entries.Perm model.types.entries) (name : String) :
    other.get? name = model.get? name := by
  apply Option.ext
  intro profile
  rw [Model.get?, Model.get?, NameMap.get?_eq_some_iff, NameMap.get?_eq_some_iff]
  exact perm.mem_iff

/-- What an object contains, and what it says of messages, depends on the types of the parts that it
contains and on nothing else. Changing profiles that no such part refers to does not alter it, and
neither does their order. -/
theorem walk_local (model : Model) (start : Profile) (stored : start ∈ model.profiles) :
    (∀ other : Model, (∀ owner ∈ model.contained start, Agree model other owner) →
      SameParts model other start) ∧
    (∀ changes : List Change,
      (∀ change ∈ changes,
        change.name ≠ start.typeName ∧ Unreferenced model start change.name) →
      start ∈ (model.after changes).profiles ∧ SameParts model (model.after changes) start) ∧
    ∀ other : Model, other.types.entries.Perm model.types.entries →
      start ∈ other.profiles ∧ SameParts model other start := by
  refine ⟨fun other agree => sameParts agree, ?_, ?_⟩
  · intro changes elsewhere
    exact ⟨stored_after stored fun change member => (elsewhere change member).1,
      sameParts_after fun change member => (elsewhere change member).2⟩
  · intro other perm
    have same := get?_of_perm perm
    refine ⟨?_, sameParts fun owner _ field _ _ => same field.typeName⟩
    rw [Model.mem_profiles_iff, same]
    exact Model.mem_profiles_iff.mp stored

def stump : Profile := entityWith "Stump" [("leaf", "Leaf")]

def grove : Model :=
  (((Model.empty ["wood"] { Settings.default with commandMatching := .inheritanceAware }).insert
    leaf).insert stump).insert branch

def turned : Model := ((Model.empty [] .default).insert leaf).insert branch

theorem walk_local_ring : leaf ∈ ring.profiles ∧
    (∀ owner ∈ ring.contained leaf, Agree ring grove owner) ∧ SameParts ring grove leaf ∧
    (∀ change ∈ [Change.insert stump, .remove "Root"],
      change.name ≠ leaf.typeName ∧ Unreferenced ring leaf change.name) ∧
    SameParts ring (ring.after [.insert stump, .remove "Root"]) leaf ∧
    turned.types.entries.Perm ring.types.entries ∧ SameParts ring turned leaf ∧
    (ring.contained leaf).map Profile.typeName = ["Leaf", "Branch"] := by
  have stored : leaf ∈ ring.profiles := Model.mem_profiles_insert _ _
  have agree : ∀ owner ∈ ring.contained leaf, Agree ring grove owner := by decide +kernel
  have elsewhere : ∀ change ∈ [Change.insert stump, .remove "Root"],
      change.name ≠ leaf.typeName ∧ Unreferenced ring leaf change.name := by decide +kernel
  have perm : turned.types.entries.Perm ring.types.entries := by decide +kernel
  have names : (ring.contained leaf).map Profile.typeName = ["Leaf", "Branch"] := by
    decide +kernel
  obtain ⟨alike, changed, reordered⟩ := walk_local ring leaf stored
  exact ⟨stored, agree, alike grove agree, elsewhere, (changed _ elsewhere).2, perm,
    (reordered turned perm).2, names⟩

end DomainAtlas.Proofs.Locality
