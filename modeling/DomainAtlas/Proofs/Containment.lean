import Mathlib.Data.List.Nodup
import Mathlib.Logic.Relation
import DomainAtlas.Model.Walk
import DomainAtlas.Proofs.Lookup

/-! A walk over the parts of an object reports every object that can be reached from its start, and
every field that leads on from one of them, each of them once. Objects may contain one another, and
fields may hold types that the model does not have. -/

open Relation (ReflTransGen)

namespace DomainAtlas.Proofs.Containment

def HoldsPart (field : Field) : Prop :=
  field.isStatic = false ∧
    (field.tag = some .entity ∨ field.tag = some .valueObject ∨ field.tag = some .identity ∨
      field.tag = some .enumeration)

instance (field : Field) : Decidable (HoldsPart field) := inferInstanceAs (Decidable (_ ∧ _))

theorem HoldsPart.exists_role {field : Field} (part : HoldsPart field) :
    ∃ role, field.tag = some role ∧ role.isDomainObject = true := by
  rcases part.2 with holds | holds | holds | holds
  all_goals exact ⟨_, holds, rfl⟩

/-- A field leads from its owner to a target. Of the fields of one name that hold parts only the
first can lead anywhere, even when the model does not have its type. -/
structure Leads (model : Model) (owner : Profile) (field : Field) (target : Profile) : Prop where
  part : HoldsPart field
  first : ∃ before after, owner.fields = before ++ field :: after ∧
    ∀ other ∈ before, HoldsPart other → other.name ≠ field.name
  stored : model.get? field.typeName = some target
  object : target.role.isDomainObject = true

def Follows (model : Model) (owner target : Profile) : Prop :=
  ∃ field, Leads model owner field target

theorem isContainment_iff (field : Field) : field.isContainment = true ↔ HoldsPart field := by
  unfold Field.isContainment Field.holding HoldsPart
  rcases field.tag with _ | role
  · simp [Holding.ofTag]
  · cases role <;> simp [Holding.ofTag]

/-- Of the fields of one name the first that holds a part counts. -/
theorem mem_firstParts_iff {owner : Profile} {field : Field} :
    field ∈ firstsBy Field.name owner.containments ↔
      HoldsPart field ∧ ∃ before after, owner.fields = before ++ field :: after ∧
        ∀ other ∈ before, HoldsPart other → other.name ≠ field.name := by
  rw [mem_firstsBy_iff, Profile.containments, List.find?_filter, List.find?_eq_some_iff_append]
  simp only [decide_eq_true_eq, Bool.not_eq_true', decide_eq_false_iff_not, not_and, and_true,
    isContainment_iff, ne_eq]

theorem mem_follow_iff {model : Model} {owner target : Profile} {field : Field} :
    (field, target) ∈ model.follow owner ↔ Leads model owner field target := by
  simp only [Model.follow, List.mem_filterMap, Option.map_eq_some_iff, Prod.mk.injEq,
    Model.domainObject?, Option.filter_eq_some_iff]
  constructor
  · rintro ⟨_, member, _, ⟨stored, object⟩, rfl, rfl⟩
    obtain ⟨part, comes⟩ := mem_firstParts_iff.mp member
    exact ⟨part, comes, stored, object⟩
  · rintro ⟨part, comes, stored, object⟩
    exact ⟨field, mem_firstParts_iff.mpr ⟨part, comes⟩, target, ⟨stored, object⟩, rfl, rfl⟩

theorem Follows.stored {model : Model} {owner target : Profile} (follows : Follows model owner target) :
    target ∈ model.profiles := by
  obtain ⟨field, leads⟩ := follows
  exact Model.mem_profiles_of_get? leads.stored

/-- Fields lead on in the order in which the object has them. -/
theorem follow_fields_sublist (model : Model) (owner : Profile) :
    ((model.follow owner).map Prod.fst).Sublist (firstsBy Field.name owner.containments) := by
  unfold Model.follow
  induction firstsBy Field.name owner.containments with
  | nil => exact .slnil
  | cons field fields ih =>
    rw [List.filterMap_cons]
    cases model.domainObject? field.typeName with
    | none => exact ih.cons _
    | some target => exact ih.cons_cons _

theorem nodup_follow_names (model : Model) (owner : Profile) :
    ((model.follow owner).map (·.1.name)).Nodup := by
  have kept := (follow_fields_sublist model owner).map Field.name
  have names := nodup_map_firstsBy Field.name owner.containments
  simpa [Function.comp_def] using names.sublist kept

/-- What follows an object is marked already, or it is among what the walk marks next. -/
theorem marked_or_fresh {model : Model} {owner target : Profile} (marked : List String)
    (follows : Follows model owner target) :
    target.typeName ∈ marked ∨ target ∈ model.fresh marked owner := by
  by_cases seen : target.typeName ∈ marked
  · exact .inl seen
  right
  obtain ⟨field, leads⟩ := follows
  have named : target.typeName ∈ (model.fresh marked owner).map Profile.typeName := by
    apply (mem_map_firstsBy _).mpr
    apply List.mem_map_of_mem
    exact List.mem_filter.mpr
      ⟨List.mem_map.mpr ⟨_, mem_follow_iff.mpr leads, rfl⟩, by simpa using seen⟩
  obtain ⟨other, member, same⟩ := List.mem_map.mp named
  have equal := Model.eq_of_typeName
    (Model.mem_profiles_iff.mpr (Model.get?_typeName_of_mem_fresh member))
    (Follows.stored ⟨field, leads⟩) same
  exact equal ▸ member

theorem follows_of_mem_fresh {model : Model} {marked : List String} {owner target : Profile}
    (member : target ∈ model.fresh marked owner) : Follows model owner target := by
  have inside := (List.mem_filter.mp (mem_of_mem_firstsBy member)).1
  obtain ⟨⟨field, _⟩, followed, rfl⟩ := List.mem_map.mp inside
  exact ⟨field, mem_follow_iff.mp followed⟩

def objects (visits : List Visit) : List Profile := (visits.filterMap Visit.object?).map Prod.fst

def edges (visits : List Visit) : List (Profile × Field × Profile) := visits.filterMap Visit.edge?

def edgesFrom (model : Model) (owner : Profile) : List (Profile × Field × Profile) :=
  (model.follow owner).map fun (field, target) => (owner, field, target)

theorem objects_step (owner : Profile) (depth : Nat) (follow : List (Field × Profile))
    (rest : List Visit) :
    objects (.object owner depth ::
      follow.map (fun (field, target) => .edge owner field target) ++ rest) =
      owner :: objects rest := by
  simp only [objects, List.cons_append, List.filterMap_cons, Visit.object?, List.filterMap_append,
    List.filterMap_map, Function.comp_def]
  simp

theorem edges_step (owner : Profile) (depth : Nat) (follow : List (Field × Profile))
    (rest : List Visit) :
    edges (.object owner depth ::
      follow.map (fun (field, target) => .edge owner field target) ++ rest) =
      follow.map (fun (field, target) => (owner, field, target)) ++ edges rest := by
  simp only [edges, List.cons_append, List.filterMap_cons, Visit.edge?, List.filterMap_append,
    List.filterMap_map, Function.comp_def, List.filterMap_eq_map']

theorem map_fst_stack (fresh : List Profile) (depth : Nat) (rest : List (Profile × Nat)) :
    (fresh.map (·, depth) ++ rest).map Prod.fst = fresh ++ rest.map Prod.fst := by
  simp [Function.comp_def]

/-- What holds before every step: the objects on the stack are stored, marked, and on it once. -/
structure Ready (model : Model) (marked : List String) (stack : List Profile) : Prop where
  stored : ∀ profile ∈ stack, profile ∈ model.profiles
  marked : ∀ profile ∈ stack, profile.typeName ∈ marked
  nodup : (stack.map Profile.typeName).Nodup

theorem Ready.step {model : Model} {marked : List String} {owner : Profile} {rest : List Profile}
    (ready : Ready model marked (owner :: rest)) :
    Ready model ((model.fresh marked owner).map Profile.typeName ++ marked)
      (model.fresh marked owner ++ rest) := by
  refine ⟨?_, ?_, ?_⟩
  · intro profile member
    rcases List.mem_append.mp member with fresh | old
    · exact (follows_of_mem_fresh fresh).stored
    · exact ready.stored profile (List.mem_cons_of_mem _ old)
  · intro profile member
    rcases List.mem_append.mp member with fresh | old
    · exact List.mem_append_left _ (List.mem_map_of_mem fresh)
    · exact List.mem_append_right _ (ready.marked profile (List.mem_cons_of_mem _ old))
  · rw [List.map_append, List.nodup_append]
    refine ⟨model.nodup_fresh marked owner, (List.nodup_cons.mp ready.nodup).2, ?_⟩
    intro name fresh other old same
    obtain ⟨profile, member, rfl⟩ := List.mem_map.mp fresh
    obtain ⟨earlier, earlierMember, rfl⟩ := List.mem_map.mp old
    apply Model.not_marked_of_mem_fresh member
    rw [same]
    exact ready.marked earlier (List.mem_cons_of_mem _ earlierMember)

/-- A walk with objects on its stack reports all of them. -/
theorem mem_objects_of_mem_stack (model : Model) (marked : List String)
    (stack : List (Profile × Nat)) {profile : Profile} (member : profile ∈ stack.map Prod.fst) :
    profile ∈ objects (model.walkFrom marked stack) := by
  fun_induction Model.walkFrom model marked stack with
  | case1 => simp at member
  | case2 marked owner depth rest ih =>
    rw [objects_step]
    rcases List.mem_cons.mp member with rfl | later
    · exact List.mem_cons_self
    · apply List.mem_cons_of_mem
      apply ih
      rw [List.map_append]
      exact List.mem_append_right _ later

/-- Nothing is lost: what follows a reported object was marked before, or it is reported too. -/
theorem objects_closed (model : Model) (marked : List String) (stack : List (Profile × Nat))
    {owner target : Profile} (reported : owner ∈ objects (model.walkFrom marked stack))
    (follows : Follows model owner target) :
    target.typeName ∈ marked ∨ target ∈ objects (model.walkFrom marked stack) := by
  fun_induction Model.walkFrom model marked stack with
  | case1 => simp [objects] at reported
  | case2 marked first depth rest ih =>
    rw [objects_step] at reported ⊢
    have onStack : ∀ profile ∈ model.fresh marked first,
        profile ∈ objects (model.walkFrom
          ((model.fresh marked first).map Profile.typeName ++ marked)
          ((model.fresh marked first).map (·, depth + 1) ++ rest)) := by
      intro profile member
      apply mem_objects_of_mem_stack
      rw [List.map_append, List.map_map]
      exact List.mem_append_left _ (List.mem_map.mpr ⟨profile, member, rfl⟩)
    rcases List.mem_cons.mp reported with rfl | later
    · exact (marked_or_fresh marked follows).imp_right
        fun fresh => List.mem_cons_of_mem _ (onStack target fresh)
    · rcases ih later with named | found
      · rcases List.mem_append.mp named with fresh | old
        · obtain ⟨other, member, same⟩ := List.mem_map.mp fresh
          have equal := Model.eq_of_typeName (follows_of_mem_fresh member).stored follows.stored same
          exact .inr (List.mem_cons_of_mem _ (onStack target (equal ▸ member)))
        · exact .inl old
      · exact .inr (List.mem_cons_of_mem _ found)

/-- Nothing is made up: every reported object can be reached from one on the stack. -/
theorem objects_reached (model : Model) (marked : List String) (stack : List (Profile × Nat))
    {profile : Profile} (reported : profile ∈ objects (model.walkFrom marked stack)) :
    ∃ first ∈ stack.map Prod.fst, ReflTransGen (Follows model) first profile := by
  fun_induction Model.walkFrom model marked stack with
  | case1 => simp [objects] at reported
  | case2 marked owner depth rest ih =>
    rw [objects_step] at reported
    rcases List.mem_cons.mp reported with rfl | later
    · exact ⟨profile, List.mem_cons_self, .refl⟩
    · obtain ⟨first, member, path⟩ := ih later
      rw [List.map_append, List.map_map] at member
      rcases List.mem_append.mp member with fresh | old
      · obtain ⟨_, inside, rfl⟩ := List.mem_map.mp fresh
        exact ⟨owner, List.mem_cons_self, path.head (follows_of_mem_fresh inside)⟩
      · exact ⟨first, List.mem_cons_of_mem _ old, path⟩

theorem objects_distinct (model : Model) (marked : List String) (stack : List (Profile × Nat))
    (ready : Ready model marked (stack.map Prod.fst)) :
    ((objects (model.walkFrom marked stack)).map Profile.typeName).Nodup ∧
      ∀ profile ∈ objects (model.walkFrom marked stack),
        profile ∈ stack.map Prod.fst ∨ profile.typeName ∉ marked := by
  fun_induction Model.walkFrom model marked stack with
  | case1 => simp [objects]
  | case2 marked owner depth rest ih =>
    rw [map_fst_stack] at ih
    obtain ⟨distinct, origin⟩ := ih ready.step
    -- Reported after its owner, an object is fresh, lies further down the stack, or is new.
    have later : ∀ profile ∈ objects (model.walkFrom
        ((model.fresh marked owner).map Profile.typeName ++ marked)
        ((model.fresh marked owner).map (·, depth + 1) ++ rest)),
        profile ∈ rest.map Prod.fst ∨ profile.typeName ∉ marked := by
      intro profile member
      rcases origin profile member with onStack | new
      · exact (List.mem_append.mp onStack).symm.imp_right Model.not_marked_of_mem_fresh
      · exact .inr fun seen => new (List.mem_append_right _ seen)
    rw [objects_step]
    refine ⟨List.nodup_cons.mpr ⟨?_, distinct⟩, ?_⟩
    · intro again
      obtain ⟨profile, member, same⟩ := List.mem_map.mp again
      rcases later profile member with below | new
      · exact (List.nodup_cons.mp ready.nodup).1 (List.mem_map.mpr ⟨profile, below, same⟩)
      · exact new (same ▸ ready.marked owner List.mem_cons_self)
    · intro profile member
      rcases List.mem_cons.mp member with rfl | member
      · exact .inl List.mem_cons_self
      · exact (later profile member).imp_left (List.mem_cons_of_mem _)

/-- The fields that a walk reports are those that lead on from the objects it reports. -/
theorem edges_eq (model : Model) (marked : List String) (stack : List (Profile × Nat)) :
    edges (model.walkFrom marked stack) =
      (objects (model.walkFrom marked stack)).flatMap (edgesFrom model) := by
  fun_induction Model.walkFrom model marked stack with
  | case1 => rfl
  | case2 marked owner depth rest ih => rw [edges_step, objects_step, List.flatMap_cons, ih]; rfl

theorem ready_start {model : Model} {start : Profile} (stored : start ∈ model.profiles) :
    Ready model [start.typeName] [start] :=
  ⟨by simpa using stored, by simp, by simp⟩

theorem mem_contained_iff {model : Model} {start : Profile} (stored : start ∈ model.profiles)
    (profile : Profile) :
    profile ∈ model.contained start ↔ ReflTransGen (Follows model) start profile := by
  constructor
  · intro reported
    obtain ⟨first, member, path⟩ := objects_reached model [start.typeName] [(start, 0)] reported
    obtain rfl := List.mem_singleton.mp member
    exact path
  · intro path
    have first : start ∈ model.contained start :=
      mem_objects_of_mem_stack model [start.typeName] [(start, 0)] (by simp)
    induction path with
    | refl => exact first
    | tail _ follows reported =>
      rcases objects_closed model [start.typeName] [(start, 0)] reported follows with named | found
      · have same := List.mem_singleton.mp named
        exact (Model.eq_of_typeName follows.stored stored same) ▸ first
      · exact found

theorem nodup_contained_names {model : Model} {start : Profile} (stored : start ∈ model.profiles) :
    ((model.contained start).map Profile.typeName).Nodup :=
  (objects_distinct model [start.typeName] [(start, 0)] (by simpa using ready_start stored)).1

theorem contained_stored {model : Model} {start : Profile} (stored : start ∈ model.profiles)
    {profile : Profile} (reported : profile ∈ model.contained start) : profile ∈ model.profiles := by
  rcases ((mem_contained_iff stored profile).mp reported).cases_tail with rfl | ⟨_, _, follows⟩
  · exact stored
  · exact follows.stored

theorem length_contained_le {model : Model} {start : Profile} (stored : start ∈ model.profiles) :
    (model.contained start).length ≤ model.size := by
  have distinct : (model.contained start).Nodup := (nodup_contained_names stored).of_map _
  have bounded := distinct.length_le_of_subset fun _ reported => contained_stored stored reported
  simpa [Model.profiles, NameMap.values, Model.size, NameMap.size] using bounded

theorem mem_edges_iff (model : Model) (start owner : Profile) (field : Field) (target : Profile) :
    (owner, field, target) ∈ edges (model.walk start) ↔
      owner ∈ model.contained start ∧ Leads model owner field target := by
  rw [Model.walk, edges_eq, List.mem_flatMap]
  constructor
  · rintro ⟨reported, member, inside⟩
    obtain ⟨followed, leads, same⟩ := List.mem_map.mp inside
    obtain ⟨rfl, rfl, rfl⟩ := same
    exact ⟨member, mem_follow_iff.mp leads⟩
  · rintro ⟨member, leads⟩
    exact ⟨owner, member, List.mem_map.mpr ⟨(field, target), mem_follow_iff.mpr leads, rfl⟩⟩

theorem nodup_edge_names {model : Model} {start : Profile} (stored : start ∈ model.profiles) :
    ((edges (model.walk start)).map
      fun (owner, field, _) => (owner.typeName, field.name)).Nodup := by
  rw [Model.walk, edges_eq, List.map_flatMap, List.nodup_flatMap]
  constructor
  · intro owner _
    have names := (nodup_follow_names model owner).map
      (f := fun name => (owner.typeName, name)) fun _ _ same => (Prod.mk.inj same).2
    simpa [edgesFrom, Function.comp_def] using names
  · apply (List.pairwise_map.mp (nodup_contained_names stored)).imp
    intro first second different pair left right
    simp only [edgesFrom, List.map_map, List.mem_map, Function.comp_apply] at left right
    obtain ⟨_, _, rfl⟩ := left
    obtain ⟨_, _, same⟩ := right
    exact different (congrArg Prod.fst same).symm

/-- What there is to report of the parts of an object: all that can be reached from it and all
fields on the way, and nothing twice. -/
structure Exact (model : Model) (start : Profile) (visits : List Visit) : Prop where
  reached : ∀ profile,
    profile ∈ objects visits ↔ ReflTransGen (Follows model) start profile
  once : ((objects visits).map Profile.typeName).Nodup
  finite : (objects visits).length ≤ model.size
  crossed : ∀ owner field target,
    (owner, field, target) ∈ edges visits ↔
      owner ∈ objects visits ∧ Leads model owner field target
  crossedOnce :
    ((edges visits).map fun (owner, field, _) => (owner.typeName, field.name)).Nodup

/-- Whatever the model holds, the walk from one of its profiles ends and reports just that. -/
theorem walk_exact (model : Model) (start : Profile) (stored : start ∈ model.profiles) :
    Exact model start (model.walk start) where
  reached := mem_contained_iff stored
  once := nodup_contained_names stored
  finite := length_contained_le stored
  crossed := mem_edges_iff model start
  crossedOnce := nodup_edge_names stored

def entityWith (name : String) (parts : List (String × String)) : Profile where
  typeName := name
  kind := .entity {}
  fields := parts.map fun (part, type) =>
    { name := part
      type := { typeName := type, tag := some .entity, resolved := .ofName type }
      declaredBy := name
      access := .owner
      modifiable := true
      publicReadable := false
      publicWriteable := false }

def branch : Profile := entityWith "Branch" [("leaf", "Leaf"), ("lost", "Missing")]

def leaf : Profile := entityWith "Leaf" [("next", "Branch"), ("next", "Leaf")]

def ring : Model := ((Model.empty [] .default).insert branch).insert leaf

theorem walk_exact_ring : leaf ∈ ring.profiles ∧ Exact ring leaf (ring.walk leaf) :=
  ⟨Model.mem_profiles_insert _ _, walk_exact ring leaf (Model.mem_profiles_insert _ _)⟩

end DomainAtlas.Proofs.Containment
