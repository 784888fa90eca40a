import DomainAtlas.Firsts
import DomainAtlas.Model.Basic
import DomainAtlas.NameMap.Remaining

/-! Walks over what an object contains. A walk follows the fields that hold entities and values,
never those that hold other aggregates, and visits each type once. Types are marked when they are
first met, so a walk over objects that contain each other comes to an end. -/

namespace DomainAtlas

/-- What a walk reports: an object and its distance from the start, or a field of the object
reported before and what it leads to. -/
inductive Visit where
  | object (profile : Profile) (depth : Nat)
  | edge (owner : Profile) (field : Field) (target : Profile)
  deriving DecidableEq

def Visit.object? : Visit → Option (Profile × Nat)
  | object profile depth => some (profile, depth)
  | edge _ _ _ => none

def Visit.edge? : Visit → Option (Profile × Field × Profile)
  | object _ _ => none
  | edge owner field target => some (owner, field, target)

namespace Model

def domainObject? (model : Model) (name : String) : Option Profile :=
  (model.get? name).filter (·.role.isDomainObject)

/-- The fields that lead on from an object, each with what it leads to. Of the fields of one name
only the first counts. -/
def follow (model : Model) (owner : Profile) : List (Field × Profile) :=
  (firstsBy Field.name owner.containments).filterMap fun field =>
    (model.domainObject? field.typeName).map (field, ·)

/-- The objects just below an owner that are not marked yet, each once. -/
def fresh (model : Model) (marked : List String) (owner : Profile) : List Profile :=
  firstsBy Profile.typeName
    (((model.follow owner).map Prod.snd).filter fun target => !marked.contains target.typeName)

theorem get?_typeName_of_mem_follow {model : Model} {owner target : Profile} {field : Field}
    (mem : (field, target) ∈ model.follow owner) : model.get? target.typeName = some target := by
  simp only [follow, List.mem_filterMap, Option.map_eq_some_iff, Prod.mk.injEq, domainObject?,
    Option.filter_eq_some_iff] at mem
  obtain ⟨_, _, _, ⟨found, _⟩, _, rfl⟩ := mem
  have stored := NameMap.get?_eq_some_iff.mp found
  rw [← model.keyed _ stored]
  exact found

theorem get?_typeName_of_mem_fresh {model : Model} {marked : List String} {owner target : Profile}
    (mem : target ∈ model.fresh marked owner) : model.get? target.typeName = some target := by
  have inside := (List.mem_filter.mp (mem_of_mem_firstsBy mem)).1
  obtain ⟨⟨field, _⟩, followed, rfl⟩ := List.mem_map.mp inside
  exact get?_typeName_of_mem_follow followed

theorem not_marked_of_mem_fresh {model : Model} {marked : List String} {owner target : Profile}
    (mem : target ∈ model.fresh marked owner) : target.typeName ∉ marked := by
  simpa using (List.mem_filter.mp (mem_of_mem_firstsBy mem)).2

theorem nodup_fresh (model : Model) (marked : List String) (owner : Profile) :
    ((model.fresh marked owner).map Profile.typeName).Nodup := nodup_map_firstsBy _ _

private theorem filterMap_eq_self {f : Profile → Option Profile} {profiles : List Profile}
    (same : ∀ profile ∈ profiles, f profile = some profile) : profiles.filterMap f = profiles := by
  induction profiles with
  | nil => rfl
  | cons profile rest ih =>
    rw [List.filterMap_cons_some (same profile (List.mem_cons_self ..)),
      ih fun other mem => same other (List.mem_cons_of_mem _ mem)]

/-- Every object that goes onto the stack is one that need not be marked again. -/
theorem remaining_fresh (model : Model) (marked : List String) (owner : Profile) :
    model.types.remaining (fun _ => 1) ((model.fresh marked owner).map Profile.typeName ++ marked) +
      (model.fresh marked owner).length = model.types.remaining (fun _ => 1) marked := by
  have unmarked : ∀ name ∈ (model.fresh marked owner).map Profile.typeName, name ∉ marked := by
    intro name mem
    obtain ⟨target, inside, rfl⟩ := List.mem_map.mp mem
    exact not_marked_of_mem_fresh inside
  have stored : ((model.fresh marked owner).map Profile.typeName).filterMap model.types.get? =
      model.fresh marked owner := by
    rw [List.filterMap_map]
    exact filterMap_eq_self fun target mem => get?_typeName_of_mem_fresh mem
  have all := model.types.remaining_append (model.nodup_fresh marked owner) unmarked
  rw [stored] at all
  exact all

/-- The visits of a walk that has some objects still on its stack. -/
def walkFrom (model : Model) (marked : List String) (stack : List (Profile × Nat)) : List Visit :=
  match stack with
  | [] => []
  | (owner, depth) :: rest =>
    .object owner depth ::
      (model.follow owner).map (fun (field, target) => .edge owner field target) ++
      walkFrom model ((model.fresh marked owner).map Profile.typeName ++ marked)
        ((model.fresh marked owner).map (·, depth + 1) ++ rest)
termination_by stack.length + model.types.remaining (fun _ => 1) marked
decreasing_by
  have := model.remaining_fresh marked owner
  simp
  omega

def walk (model : Model) (start : Profile) : List Visit :=
  model.walkFrom [start.typeName] [(start, 0)]

/-- The objects that an object contains, itself first. -/
def contained (model : Model) (start : Profile) : List Profile :=
  ((model.walk start).filterMap Visit.object?).map Prod.fst

/-- A walk that stops at the first object of a sort: whether there is one, and the objects that
were looked at. -/
def searchFrom (model : Model) (wanted : Profile → Bool) (marked : List String)
    (stack : List Profile) : Bool × List Profile :=
  match stack with
  | [] => (false, [])
  | owner :: rest =>
    if wanted owner then (true, [owner])
    else
      let (found, seen) :=
        searchFrom model wanted ((model.fresh marked owner).map Profile.typeName ++ marked)
          (model.fresh marked owner ++ rest)
      (found, owner :: seen)
termination_by stack.length + model.types.remaining (fun _ => 1) marked
decreasing_by
  have := model.remaining_fresh marked owner
  simp
  omega

def search (model : Model) (start : Profile) (wanted : Profile → Bool) : Bool × List Profile :=
  model.searchFrom wanted [start.typeName] [start]

/-- Whether an object contains one of a sort. -/
def containsAny (model : Model) (start : Profile) (wanted : Profile → Bool) : Bool :=
  (model.search start wanted).1

end Model

end DomainAtlas
