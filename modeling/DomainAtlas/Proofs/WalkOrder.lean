import DomainAtlas.Proofs.Messages

/-! The order of a walk. The first edges to the objects make a tree, and the walk reports the objects
as this tree has them in preorder, each with all of its own edges behind it. An object is marked when
it is found and reported when its turn comes, so its depth is that of the edge that found it, and a
shorter way to it may come to light later. A search stops in the midst of the same order. -/

namespace DomainAtlas.Proofs.WalkOrder
open Containment Messages

variable {model : Model} {start : Profile}

def placed (visits : List Visit) : List (Profile × Nat) := visits.filterMap Visit.object?

/-- All that leads on from an object, in the order of its fields, and no name twice. -/
structure OwnEdges (model : Model) (owner : Profile) (edges : List (Field × Profile)) : Prop where
  all : ∀ field target, (field, target) ∈ edges ↔ Leads model owner field target
  fieldOrder : (edges.map Prod.fst).Sublist owner.fields
  once : (edges.map (·.1.name)).Nodup

theorem follow_ownEdges (model : Model) (owner : Profile) :
    OwnEdges model owner (model.follow owner) where
  all := fun _ _ => mem_follow_iff
  fieldOrder := (follow_fields_sublist model owner).trans
    ((firstsBy_sublist _ _).trans List.filter_sublist)
  once := nodup_follow_names model owner

/-- An object, and after it whatever leads on from it. -/
def report (model : Model) (object : Profile × Nat) : List Visit :=
  .object object.1 object.2 ::
    (model.follow object.1).map fun (field, target) => .edge object.1 field target

theorem placed_report (model : Model) (object : Profile × Nat) (rest : List Visit) :
    placed (report model object ++ rest) = object :: placed rest := by
  have edges : ((model.follow object.1).map fun (field, target) =>
      Visit.edge object.1 field target).filterMap Visit.object? = [] := by
    simp [List.filterMap_eq_nil_iff, Visit.object?]
  rw [placed, List.filterMap_append, report, List.filterMap_cons, edges]
  rfl

theorem walkFrom_cons (model : Model) (marked : List String) (owner : Profile) (depth : Nat)
    (rest : List (Profile × Nat)) :
    model.walkFrom marked ((owner, depth) :: rest) = report model (owner, depth) ++
      model.walkFrom ((model.fresh marked owner).map Profile.typeName ++ marked)
        ((model.fresh marked owner).map (·, depth + 1) ++ rest) := by
  rw [Model.walkFrom]
  rfl

theorem walkFrom_grouped (model : Model) (marked : List String) (stack : List (Profile × Nat)) :
    model.walkFrom marked stack = (placed (model.walkFrom marked stack)).flatMap (report model) := by
  fun_induction Model.walkFrom model marked stack with
  | case1 => rfl
  | case2 marked owner depth rest ih =>
    change report model (owner, depth) ++ _ = (placed (report model (owner, depth) ++ _)).flatMap _
    rw [placed_report, List.flatMap_cons, ← ih]

/-- The first edge to an object comes from an object one level above it. -/
def Found (before : List Visit) (object : Profile) (depth : Nat) : Prop :=
  ∃ earlier owner field later level, before = earlier ++ .edge owner field object :: later ∧
    depth = level + 1 ∧ .object owner level ∈ earlier ∧
    ∀ other via, .edge other via object ∉ earlier

/-- Edges of one object lead to what is fresh, and the first of them to an object finds it. -/
theorem found_fresh {marked : List String} {owner object : Profile} (depth : Nat)
    (fresh : object ∈ model.fresh marked owner) (later : List Visit) :
    Found (report model (owner, depth) ++ later) object (depth + 1) := by
  obtain ⟨field, leads⟩ := follows_of_mem_fresh fresh
  have listed : (model.follow owner).find? (·.2 = object) ≠ none := by
    intro absent
    exact List.find?_eq_none.mp absent _ (mem_follow_iff.mpr leads) (by simp)
  obtain ⟨⟨via, target⟩, first⟩ := Option.ne_none_iff_exists'.mp listed
  obtain ⟨same, before, after, split, unlike⟩ := List.find?_eq_some_iff_append.mp first
  obtain rfl : target = object := by simpa using same
  refine ⟨.object owner depth :: before.map (fun (field, target) => .edge owner field target), owner,
    via, after.map (fun (field, target) => .edge owner field target) ++ later, depth, ?_, rfl,
    List.mem_cons_self, ?_⟩
  · simp [report, split]
  · intro other field member
    rcases List.mem_cons.mp member with impossible | member
    · cases impossible
    · obtain ⟨⟨_, _⟩, inside, made⟩ := List.mem_map.mp member
      cases made
      simpa using unlike _ inside

theorem marked_of_edge {marked : List String} {owner other object : Profile} {depth : Nat}
    {field : Field} (member : .edge other field object ∈ report model (owner, depth)) :
    object.typeName ∈ (model.fresh marked owner).map Profile.typeName ++ marked := by
  rcases List.mem_cons.mp member with impossible | member
  · cases impossible
  · obtain ⟨⟨via, target⟩, followed, made⟩ := List.mem_map.mp member
    cases made
    rcases marked_or_fresh marked ⟨field, mem_follow_iff.mp followed⟩ with old | fresh
    · exact List.mem_append_right _ old
    · exact List.mem_append_left _ (List.mem_map_of_mem fresh)

/-- Of the reports on one object only the first is an object. -/
theorem split_report (first : Profile × Nat) {rest before after : List Visit} {object : Profile}
    {depth : Nat} (split : report model first ++ rest = before ++ .object object depth :: after) :
    (object, depth) = first ∨
      ∃ middle, before = report model first ++ middle ∧
        rest = middle ++ .object object depth :: after := by
  rcases List.append_eq_append_iff.mp split with ⟨middle, same, later⟩ | ⟨middle, within, tail⟩
  · exact .inr ⟨middle, same, later⟩
  · rcases middle with _ | ⟨visit, middle⟩
    · exact .inr ⟨[], by simpa using within.symm, by simpa using tail.symm⟩
    · obtain ⟨rfl, _⟩ := List.cons.inj tail
      rcases before with _ | ⟨_, before⟩
      · obtain ⟨same, _⟩ := List.cons.inj within
        cases same
        exact .inl rfl
      · rw [report, List.cons_append, List.cons.injEq] at within
        have member : Visit.object object depth ∈ before ++ .object object depth :: middle :=
          List.mem_append_right _ List.mem_cons_self
        rw [← within.2] at member
        obtain ⟨_, _, impossible⟩ := List.mem_map.mp member
        cases impossible

/-- An object that a walk reports was on its stack, or an edge has found it in the meantime. -/
theorem found_or_stacked (marked : List String) (stack : List (Profile × Nat))
    {before after : List Visit} {object : Profile} {depth : Nat}
    (split : model.walkFrom marked stack = before ++ .object object depth :: after) :
    (object, depth) ∈ stack ∨ object.typeName ∉ marked ∧ Found before object depth := by
  fun_induction Model.walkFrom model marked stack generalizing before with
  | case1 => simp at split
  | case2 marked owner level rest ih =>
    rcases split_report (owner, level) split with same | ⟨middle, rfl, later⟩
    · exact .inl (same ▸ List.mem_cons_self)
    · rcases ih later with stacked | ⟨unmarked, found⟩
      · rcases List.mem_append.mp stacked with fresh | old
        · obtain ⟨_, inside, same⟩ := List.mem_map.mp fresh
          cases same
          exact .inr ⟨Model.not_marked_of_mem_fresh inside, found_fresh level inside middle⟩
        · exact .inl (List.mem_cons_of_mem _ old)
      · refine .inr ⟨fun old => unmarked (List.mem_append_right _ old), ?_⟩
        obtain ⟨earlier, source, field, between, above, rfl, rfl, placed, first⟩ := found
        refine ⟨report model (owner, level) ++ earlier, source, field, between, above, by simp, rfl,
          List.mem_append_right _ placed, ?_⟩
        intro other via member
        rcases List.mem_append.mp member with here | there
        · exact unmarked (marked_of_edge here)
        · exact first other via there

inductive Tree where
  | node (object : Profile) (below : List Tree)

def Tree.root : Tree → Profile
  | .node object _ => object

mutual
def Tree.preorder (depth : Nat) : Tree → List (Profile × Nat)
  | .node object below => (object, depth) :: preorders (depth + 1) below

def preorders (depth : Nat) : List Tree → List (Profile × Nat)
  | [] => []
  | tree :: trees => tree.preorder depth ++ preorders depth trees
end

/-- Below each object of a tree stand just its children, in their order. -/
inductive Grown (children : Profile → List Profile) : Tree → Prop where
  | node {object : Profile} {below : List Tree} (roots : below.map Tree.root = children object)
      (grown : ∀ tree ∈ below, Grown children tree) : Grown children (.node object below)

def targetName (edge : Profile × Field × Profile) : String := edge.2.2.typeName

/-- The edges that are the first to lead to their targets, those to marked names left out. -/
def firstEdges (marked : List String) (visits : List Visit) : List (Profile × Field × Profile) :=
  (firstsBy targetName (edges visits)).filter (targetName · ∉ marked)

/-- What the first edges lead to from an object. -/
def foundFrom (marked : List String) (visits : List Visit) (owner : Profile) : List Profile :=
  ((firstEdges marked visits).filter (·.1 = owner)).map (·.2.2)

theorem preorders_eq_flatMap (depth : Nat) (trees : List Tree) :
    preorders depth trees = trees.flatMap (·.preorder depth) := by
  induction trees with
  | nil => rfl
  | cons tree trees ih => rw [preorders, ih, List.flatMap_cons]

theorem Grown.congr {children others : Profile → List Profile} {tree : Tree}
    (grown : Grown children tree) (depth : Nat)
    (same : ∀ object ∈ (tree.preorder depth).map Prod.fst, others object = children object) :
    Grown others tree := by
  induction grown generalizing depth with
  | @node object below roots _ ih =>
    rw [Tree.preorder, preorders_eq_flatMap, List.map_cons, List.map_flatMap] at same
    refine .node (roots.trans (same object List.mem_cons_self).symm) ?_
    intro tree member
    apply ih tree member (depth + 1)
    intro object inside
    exact same object (List.mem_cons_of_mem _ (List.mem_flatMap.mpr ⟨tree, member, inside⟩))

theorem fresh_eq (model : Model) (marked : List String) (owner : Profile) :
    model.fresh marked owner =
      ((firstsBy targetName (edgesFrom model owner)).filter (targetName · ∉ marked)).map
        (·.2.2) := by
  have targets : (model.follow owner).map Prod.snd = (edgesFrom model owner).map (·.2.2) := by
    simp [edgesFrom]
  rw [filter_firstsBy targetName (fun name => decide (name ∉ marked))]
  unfold targetName
  rw [map_firstsBy Profile.typeName (fun edge : Profile × Field × Profile => edge.2.2), Model.fresh,
    targets, List.filter_map]
  simp [Function.comp_def]

theorem mem_fresh_names_iff {marked : List String} {owner : Profile} {name : String} :
    name ∈ (model.fresh marked owner).map Profile.typeName ↔
      name ∈ (edgesFrom model owner).map targetName ∧ name ∉ marked := by
  rw [fresh_eq, List.map_map, ← @mem_map_firstsBy _ _ _ targetName (edgesFrom model owner)]
  simp only [List.mem_map, List.mem_filter, decide_eq_true_eq]
  constructor
  · rintro ⟨edge, ⟨member, unmarked⟩, rfl⟩
    exact ⟨⟨edge, member, rfl⟩, unmarked⟩
  · rintro ⟨⟨edge, member, rfl⟩, unmarked⟩
    exact ⟨edge, ⟨member, unmarked⟩, rfl⟩

/-- The first edges of a walk are those of the object on top of the stack, and then those that are
first for what is marked by now. -/
theorem firstEdges_step (model : Model) (marked : List String) (owner : Profile) (depth : Nat)
    (rest : List Visit) :
    firstEdges marked (report model (owner, depth) ++ rest) =
      (firstsBy targetName (edgesFrom model owner)).filter (targetName · ∉ marked) ++
        firstEdges ((model.fresh marked owner).map Profile.typeName ++ marked) rest := by
  have all : edges (report model (owner, depth) ++ rest) = edgesFrom model owner ++ edges rest :=
    edges_step owner depth (model.follow owner) rest
  rw [firstEdges, all, firstsBy_append, List.filter_append, List.filter_filter, firstEdges]
  congr 1
  apply List.filter_congr
  intro edge _
  rw [← Bool.decide_and, decide_eq_decide, List.mem_append, mem_fresh_names_iff]
  tauto

theorem owner_reported {marked : List String} {stack : List (Profile × Nat)}
    {edge : Profile × Field × Profile}
    (member : edge ∈ firstEdges marked (model.walkFrom marked stack)) :
    edge.1 ∈ objects (model.walkFrom marked stack) := by
  have crossed := mem_of_mem_firstsBy (List.mem_filter.mp member).1
  rw [edges_eq] at crossed
  obtain ⟨owner, reported, own⟩ := List.mem_flatMap.mp crossed
  obtain ⟨_, _, rfl⟩ := List.mem_map.mp own
  exact reported

theorem eq_owner_of_mem_first {marked : List String} {owner : Profile}
    {edge : Profile × Field × Profile}
    (member : edge ∈ (firstsBy targetName (edgesFrom model owner)).filter (targetName · ∉ marked)) :
    edge.1 = owner := by
  have own := mem_of_mem_firstsBy (List.mem_filter.mp member).1
  obtain ⟨_, _, rfl⟩ := List.mem_map.mp own
  rfl

section Step

variable {marked : List String} {owner : Profile} {depth : Nat} {rest : List (Profile × Nat)}

/-- An object is not reported again once it has been taken from the stack. -/
theorem not_reported_again (depth : Nat) (ready : Ready model marked (owner :: rest.map Prod.fst)) :
    owner ∉ objects (model.walkFrom ((model.fresh marked owner).map Profile.typeName ++ marked)
      ((model.fresh marked owner).map (·, depth + 1) ++ rest)) := by
  have distinct := (objects_distinct model marked ((owner, depth) :: rest) ready).1
  rw [Model.walkFrom, objects_step, List.map_cons, List.nodup_cons] at distinct
  exact fun again => distinct.1 (List.mem_map_of_mem again)

theorem foundFrom_owner (ready : Ready model marked (owner :: rest.map Prod.fst)) :
    foundFrom marked (model.walkFrom marked ((owner, depth) :: rest)) owner =
      model.fresh marked owner := by
  have own : ((firstsBy targetName (edgesFrom model owner)).filter (targetName · ∉ marked)).filter
      (·.1 = owner) =
      (firstsBy targetName (edgesFrom model owner)).filter (targetName · ∉ marked) :=
    List.filter_eq_self.mpr fun edge member => decide_eq_true (eq_owner_of_mem_first member)
  rw [walkFrom_cons, foundFrom, firstEdges_step, List.filter_append, own, List.map_append, ← fresh_eq]
  apply List.append_right_eq_self.mpr
  rw [List.map_eq_nil_iff, List.filter_eq_nil_iff]
  intro edge member same
  have again := owner_reported member
  rw [of_decide_eq_true same] at again
  exact not_reported_again depth ready again

theorem foundFrom_other {object : Profile} (other : object ≠ owner) :
    foundFrom marked (model.walkFrom marked ((owner, depth) :: rest)) object =
      foundFrom ((model.fresh marked owner).map Profile.typeName ++ marked)
        (model.walkFrom ((model.fresh marked owner).map Profile.typeName ++ marked)
          ((model.fresh marked owner).map (·, depth + 1) ++ rest)) object := by
  rw [walkFrom_cons, foundFrom, firstEdges_step, List.filter_append, List.filter_eq_nil_iff.mpr,
    List.nil_append, foundFrom]
  intro edge member same
  exact other ((of_decide_eq_true same).symm.trans (eq_owner_of_mem_first member))

end Step

theorem map_fst_placed (visits : List Visit) : (placed visits).map Prod.fst = objects visits := rfl

/-- Trees that are all planted at one depth have what they are grown from for their roots, and are
gone through like what stands below one object. -/
theorem planted_at {trees : List (Tree × Nat)} {found : List Profile} {depth : Nat}
    (roots : trees.map (fun planted => (planted.1.root, planted.2)) = found.map (·, depth)) :
    (trees.map Prod.fst).map Tree.root = found ∧
      trees.flatMap (fun planted => planted.1.preorder planted.2) =
        preorders depth (trees.map Prod.fst) := by
  constructor
  · simpa [Function.comp_def] using congrArg (List.map Prod.fst) roots
  · rw [preorders_eq_flatMap, List.flatMap_map]
    apply List.flatMap_congr
    intro planted member
    have listed := List.mem_map_of_mem (f := fun planted : Tree × Nat =>
      (planted.1.root, planted.2)) member
    rw [roots] at listed
    obtain ⟨_, _, same⟩ := List.mem_map.mp listed
    rw [(Prod.mk.inj same).2]

/-- The stack holds the roots of a forest, and the walk goes through its trees one after the other. -/
theorem grown_forest (marked : List String) (stack : List (Profile × Nat))
    (ready : Ready model marked (stack.map Prod.fst)) :
    ∃ forest : List (Tree × Nat),
      forest.map (fun planted => (planted.1.root, planted.2)) = stack ∧
      placed (model.walkFrom marked stack) =
        forest.flatMap (fun planted => planted.1.preorder planted.2) ∧
      ∀ planted ∈ forest, Grown (foundFrom marked (model.walkFrom marked stack)) planted.1 := by
  induction marked, stack using Model.walkFrom.induct model with
  | case1 => exact ⟨[], rfl, by rw [Model.walkFrom]; rfl, by simp⟩
  | case2 marked owner depth rest ih =>
    rw [map_fst_stack] at ih
    obtain ⟨forest, roots, order, grown⟩ := ih ready.step
    obtain ⟨own, others, rfl, ownRoots, otherRoots⟩ := List.map_eq_append_iff.mp roots
    obtain ⟨children, below⟩ := planted_at ownRoots
    -- The owner is in no tree of the forest, so nothing more is found from the objects in them.
    have keeps : ∀ planted ∈ own ++ others,
        Grown (foundFrom marked (model.walkFrom marked ((owner, depth) :: rest))) planted.1 := by
      intro planted member
      apply (grown planted member).congr planted.2
      intro object inside
      apply foundFrom_other
      rintro rfl
      apply not_reported_again depth ready
      rw [← map_fst_placed, order, List.map_flatMap]
      exact List.mem_flatMap.mpr ⟨planted, member, inside⟩
    refine ⟨(.node owner (own.map Prod.fst), depth) :: others, ?_, ?_, ?_⟩
    · rw [List.map_cons, otherRoots]
      rfl
    · rw [walkFrom_cons, placed_report, order, List.flatMap_append, List.flatMap_cons,
        Tree.preorder, below]
      rfl
    · intro planted member
      rcases List.mem_cons.mp member with rfl | later
      · refine .node (children.trans (foundFrom_owner ready).symm) ?_
        intro tree inside
        obtain ⟨planted, member, rfl⟩ := List.mem_map.mp inside
        exact keeps planted (List.mem_append_left _ member)
      · exact keeps planted (List.mem_append_right _ later)

/-- The order in which the parts of an object are reported. -/
structure InOrder (model : Model) (start : Profile) (visits : List Visit) : Prop where
  first : visits.head? = some (.object start 0)
  grouped : visits = (placed visits).flatMap (report model)
  ownEdges : ∀ owner, OwnEdges model owner (model.follow owner)
  found : ∀ before object depth after, visits = before ++ .object object depth :: after →
    object ≠ start → Found before object depth
  preorder : ∃ tree, tree.root = start ∧ Grown (foundFrom [start.typeName] visits) tree ∧
    placed visits = tree.preorder 0

theorem inOrder (stored : start ∈ model.profiles) : InOrder model start (model.walk start) := by
  refine ⟨?_, walkFrom_grouped model _ _, follow_ownEdges model, ?_, ?_⟩
  · rw [Model.walk, walkFrom_cons]
    rfl
  · intro before object depth after split other
    rcases found_or_stacked _ _ split with stacked | ⟨_, found⟩
    · exact absurd (Prod.mk.inj (List.mem_singleton.mp stacked)).1 other
    · exact found
  · obtain ⟨forest, roots, order, grown⟩ :=
      grown_forest [start.typeName] [(start, 0)] (ready_start stored)
    obtain ⟨⟨tree, depth⟩, rest, rfl, root, none⟩ := List.map_eq_cons_iff.mp roots
    obtain rfl := List.map_eq_nil_iff.mp none
    obtain ⟨rfl, rfl⟩ := Prod.mk.inj root
    exact ⟨tree, rfl, grown _ List.mem_cons_self, order.trans (by simp)⟩

/-- A search through a list of objects that looks no further than the first one that is wanted. -/
structure StopsAtFirst (listed : List Profile) (wanted : Profile → Bool)
    (result : Bool × List Profile) : Prop where
  found : result.1 = true ↔ ∃ object ∈ listed, wanted object = true
  seen : result.2 = listed.takeWhile (!wanted ·) ++ (listed.find? wanted).toList

/-- Whatever the model holds, the walk from one of its profiles reports it first, each object with its
edges behind it, and the objects in preorder of the tree that their first edges make. A search looks at
the same objects in the same order, up to the first that is wanted. -/
theorem walk_in_order (model : Model) (start : Profile) (stored : start ∈ model.profiles) :
    InOrder model start (model.walk start) ∧
    ∀ wanted, StopsAtFirst (objects (model.walk start)) wanted (model.search start wanted) := by
  refine ⟨inOrder stored, ?_⟩
  intro wanted
  rw [search_eq]
  exact ⟨List.any_eq_true, rfl⟩

def journey : Profile := entityWith "Journey" [("outward", "Leg"), ("home", "Ride")]

/-- The stop is found through the leg and its transfer, three edges away, though the ride home leads to
it in two. -/
def travels : Model :=
  ((((Model.empty [] .default).insert (entityWith "Leg" [("next", "Transfer")])).insert
    (entityWith "Transfer" [("at", "Stop"), ("of", "Journey")])).insert
    (entityWith "Ride" [("to", "Stop")])).insert (entityWith "Stop" []) |>.insert journey

theorem walk_in_order_travels : journey ∈ travels.profiles ∧
    InOrder travels journey (travels.walk journey) ∧
    (placed (travels.walk journey)).map (fun (object, depth) => (object.typeName, depth)) =
      [("Journey", 0), ("Leg", 1), ("Transfer", 2), ("Stop", 3), ("Ride", 1)] ∧
    StopsAtFirst (objects (travels.walk journey)) (·.typeName == "Transfer")
      (travels.search journey (·.typeName == "Transfer")) := by
  have stored : journey ∈ travels.profiles := Model.mem_profiles_insert _ _
  obtain ⟨order, stops⟩ := walk_in_order travels journey stored
  exact ⟨stored, order, by decide +kernel, stops _⟩

end DomainAtlas.Proofs.WalkOrder
