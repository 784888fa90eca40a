import Mathlib.Data.List.Nodup
import DomainAtlas.Proofs.Contexts
import DomainAtlas.Proofs.DiagramLines

/-! Where the lines of a diagram stand. Each profile that is drawn has one node and one style. Its
node is in the box of the longest registered package that begins its name, and below all boxes when
there is none. Boxes and what is in them keep the order of the model. -/

namespace DomainAtlas.Proofs.DiagramLayout
open Contexts DiagramLines

/-- The box that is open after a line, given the one that is open before it. -/
def leaves (current : Option String) : Line → Option String
  | .opening package => some package
  | .closing => none
  | _ => current

def openAfter (current : Option String) (lines : List Line) : Option String :=
  lines.foldl leaves current

def openBox (lines : List Line) : Option String := openAfter none lines

variable {model : Model} {drawn : List Profile} {drawing : Drawing} {package : String}
  {profile : Profile} {before after : List Line} {line : Line}

theorem openAfter_append (current : Option String) (first second : List Line) :
    openAfter current (first ++ second) = openAfter (openAfter current first) second :=
  List.foldl_append

/-- Lines that neither open nor close a box leave the open one open. -/
theorem openAfter_of_leaves {lines : List Line}
    (leaves : ∀ line ∈ lines, ∀ current, leaves current line = current) (current : Option String) :
    openAfter current lines = current := by
  induction lines with
  | nil => rfl
  | cons line lines ih =>
    rw [openAfter, List.foldl_cons, leaves line List.mem_cons_self]
    exact ih fun later member => leaves later (List.mem_cons_of_mem _ member)

theorem leaves_of_mem_members {members : List Profile} (inside : line ∈ members.map .member)
    (current : Option String) : leaves current line = current := by
  obtain ⟨_, _, rfl⟩ := List.mem_map.mp inside
  rfl

theorem openAfter_boxLines (current : Option String) (box : Box) :
    openAfter current (boxLines box) = none := by
  have whole : boxLines box = (.opening box.package :: box.members.map .member) ++ [.closing] := rfl
  rw [whole, openAfter_append]
  rfl

theorem openAfter_boxes (boxes : List Box) : openAfter none (boxes.flatMap boxLines) = none := by
  induction boxes with
  | nil => rfl
  | cons box boxes ih => rw [List.flatMap_cons, openAfter_append, openAfter_boxLines, ih]

theorem split_append {α : Type} {first second before after : List α} {item : α}
    (split : first ++ second = before ++ item :: after) :
    (∃ rest, first = before ++ item :: rest ∧ after = rest ++ second) ∨
      ∃ front, before = first ++ front ∧ second = front ++ item :: after := by
  rcases List.append_eq_append_iff.mp split with ⟨front, same, later⟩ | ⟨rest, same, later⟩
  · exact .inr ⟨front, same, later⟩
  · cases rest with
    | nil => exact .inr ⟨[], by simpa using same.symm, later.symm⟩
    | cons found rest =>
      obtain ⟨rfl, rfl⟩ := List.cons.inj later
      exact .inl ⟨rest, same, rfl⟩

/-- A node in the lines of a box is one of its members, and the box is open there. -/
theorem node_in_box {box : Box} (split : boxLines box = before ++ line :: after)
    (node : line.node? = some profile) (current : Option String) :
    profile ∈ box.members ∧ openAfter current before = some box.package := by
  rw [boxLines] at split
  cases before with
  | nil =>
    obtain ⟨rfl, _⟩ := List.cons.inj split
    cases node
  | cons first front =>
    obtain ⟨rfl, inside⟩ := List.cons.inj split
    rcases split_append inside with ⟨rest, members, _⟩ | ⟨_, _, closing⟩
    · constructor
      · have member : line ∈ box.members.map .member :=
          members ▸ List.mem_append_right _ List.mem_cons_self
        obtain ⟨_, listed, rfl⟩ := List.mem_map.mp member
        exact Option.some.inj node ▸ listed
      · have inside : ∀ earlier ∈ front, ∀ current, leaves current earlier = current := by
          intro earlier passed
          exact leaves_of_mem_members (members ▸ List.mem_append_left _ passed)
        exact openAfter_of_leaves inside (some box.package)
    · have last : line ∈ [Line.closing] := closing ▸ List.mem_append_right _ List.mem_cons_self
      rw [List.mem_singleton.mp last] at node
      cases node

theorem node_in_boxes {boxes : List Box} (split : boxes.flatMap boxLines = before ++ line :: after)
    (node : line.node? = some profile) (current : Option String) :
    ∃ box ∈ boxes, profile ∈ box.members ∧ openAfter current before = some box.package := by
  induction boxes generalizing before current with
  | nil => simp at split
  | cons box boxes ih =>
    rw [List.flatMap_cons] at split
    rcases split_append split with ⟨rest, own, _⟩ | ⟨front, rfl, later⟩
    · exact ⟨box, List.mem_cons_self, node_in_box own node current⟩
    · obtain ⟨other, member, listed, stands⟩ := ih later none
      rw [openAfter_append, openAfter_boxLines]
      exact ⟨other, List.mem_cons_of_mem _ member, listed, stands⟩

theorem opening_in_box {box : Box} (split : boxLines box = before ++ .opening package :: after) :
    box.package = package ∧ after = box.members.map .member ++ [.closing] := by
  rw [boxLines] at split
  cases before with
  | nil =>
    obtain ⟨same, rfl⟩ := List.cons.inj split
    exact ⟨Line.opening.inj same, rfl⟩
  | cons first front =>
    obtain ⟨_, inside⟩ := List.cons.inj split
    have later : Line.opening package ∈ box.members.map .member ++ [.closing] :=
      inside ▸ List.mem_append_right _ List.mem_cons_self
    simp at later

theorem opening_in_boxes {boxes : List Box}
    (split : boxes.flatMap boxLines = before ++ .opening package :: after) :
    ∃ box ∈ boxes, box.package = package ∧
      ∃ rest, after = box.members.map .member ++ .closing :: rest := by
  induction boxes generalizing before with
  | nil => simp at split
  | cons box boxes ih =>
    rw [List.flatMap_cons] at split
    rcases split_append split with ⟨rest, own, rfl⟩ | ⟨front, rfl, later⟩
    · obtain ⟨same, rfl⟩ := opening_in_box own
      exact ⟨box, List.mem_cons_self, same, boxes.flatMap boxLines, List.append_assoc ..⟩
    · obtain ⟨other, member, found⟩ := ih later
      exact ⟨other, List.mem_cons_of_mem _ member, found⟩

/-- The part of a drawing that a line stands in, with what is before it and after it there. -/
inductive Stands (drawing : Drawing) (line : Line) : List Line → List Line → Prop
  | above {front rest : List Line} (member : line ∈ heading) : Stands drawing line front rest
  | boxed {front rest : List Line} (split : drawing.boxes.flatMap boxLines = front ++ line :: rest) :
    Stands drawing line (heading ++ front) (rest ++ (drawing.loose.map .loose ++ footing drawing))
  | loose {front rest : List Line} (split : drawing.loose.map .loose = front ++ line :: rest) :
    Stands drawing line (heading ++ (drawing.boxes.flatMap boxLines ++ front))
      (rest ++ footing drawing)
  | below {front rest : List Line} (member : line ∈ footing drawing) : Stands drawing line front rest

theorem stands (split : layout drawing = before ++ line :: after) :
    Stands drawing line before after := by
  rcases split_append split with ⟨_, part, _⟩ | ⟨_, rfl, nodes⟩
  · exact .above (part ▸ List.mem_append_right _ List.mem_cons_self)
  rcases split_append nodes with ⟨_, part, rfl⟩ | ⟨_, rfl, rest⟩
  · exact .boxed part
  rcases split_append rest with ⟨_, part, rfl⟩ | ⟨_, rfl, part⟩
  · exact .loose part
  · exact .below (part ▸ List.mem_append_right _ List.mem_cons_self)

theorem of_mem_heading (member : line ∈ heading) : line.node? = none ∧ line.opened? = none := by
  obtain ⟨text, _, rfl⟩ := List.mem_map.mp member
  exact ⟨rfl, rfl⟩

theorem of_mem_footing (member : line ∈ footing drawing) :
    line.node? = none ∧ line.opened? = none := by
  simp only [footing, List.mem_append] at member
  rcases member with ((text | arrow) | text) | style
  · obtain ⟨_, _, rfl⟩ := List.mem_map.mp text
    exact ⟨rfl, rfl⟩
  · obtain ⟨_, _, rfl⟩ := List.mem_map.mp arrow
    exact ⟨rfl, rfl⟩
  · obtain ⟨_, _, rfl⟩ := List.mem_map.mp text
    exact ⟨rfl, rfl⟩
  · obtain ⟨_, _, rfl⟩ := List.mem_map.mp style
    exact ⟨rfl, rfl⟩

/-- A node stands in the open box of which it is a member, or below all boxes. -/
theorem node_cases (split : layout drawing = before ++ line :: after)
    (node : line.node? = some profile) :
    (∃ box ∈ drawing.boxes, profile ∈ box.members ∧ openBox before = some box.package) ∨
      profile ∈ drawing.loose ∧ openBox before = none ∧ ∀ later ∈ after, later.opened? = none := by
  have above : openAfter none heading = none := rfl
  cases stands split with
  | above member =>
    rw [(of_mem_heading member).1] at node
    cases node
  | boxed part =>
    left
    rw [openBox, openAfter_append, above]
    exact node_in_boxes part node none
  | loose part =>
    right
    have loose : ∀ other ∈ drawing.loose.map .loose, ∃ profile ∈ drawing.loose,
        Line.loose profile = other := fun _ => List.mem_map.mp
    rw [part] at loose
    refine ⟨?_, ?_, ?_⟩
    · obtain ⟨_, listed, rfl⟩ := loose line (List.mem_append_right _ List.mem_cons_self)
      exact Option.some.inj node ▸ listed
    · rw [openBox, openAfter_append, above, openAfter_append, openAfter_boxes]
      apply openAfter_of_leaves
      intro earlier passed
      obtain ⟨_, _, rfl⟩ := loose earlier (List.mem_append_left _ passed)
      exact fun _ => rfl
    · intro later member
      rcases List.mem_append.mp member with below | last
      · obtain ⟨_, _, rfl⟩ :=
          loose later (List.mem_append_right _ (List.mem_cons_of_mem _ below))
        rfl
      · exact (of_mem_footing last).2
  | below member =>
    rw [(of_mem_footing member).1] at node
    cases node

/-- Where a box is opened, its members and its end follow. -/
theorem opening_cases (split : layout drawing = before ++ .opening package :: after) :
    ∃ box ∈ drawing.boxes, box.package = package ∧
      ∃ rest, after = box.members.map .member ++ .closing :: rest := by
  cases stands split with
  | above member => cases (of_mem_heading member).2
  | boxed part =>
    obtain ⟨box, member, same, rest, rfl⟩ := opening_in_boxes part
    exact ⟨box, member, same, _, List.append_assoc ..⟩
  | loose part =>
    have member : Line.opening package ∈ drawing.loose.map .loose :=
      part ▸ List.mem_append_right _ List.mem_cons_self
    simp at member
  | below member => cases (of_mem_footing member).2

theorem mem_members_iff :
    profile ∈ (model.boxOf drawn package).members ↔
      profile ∈ drawn ∧ Nearest model.packages profile.typeName package := by
  rw [Model.boxOf, List.mem_filter, beq_iff_eq, packageOf?_eq_some_iff]

theorem mem_boxes_iff {box : Box} :
    box ∈ (model.drawing drawn).boxes ↔
      ∃ package ∈ model.packages, model.boxOf drawn package = box ∧ box.members ≠ [] := by
  rw [Model.drawing, List.mem_filter, List.mem_map]
  simp only [Bool.not_eq_true', List.isEmpty_eq_false_iff, exists_and_right, ← and_assoc]

theorem mem_loose_iff :
    profile ∈ (model.drawing drawn).loose ↔
      profile ∈ drawn ∧ ∀ package ∈ model.packages, ¬ Begins package profile.typeName := by
  rw [Model.drawing, List.mem_filter, Option.isNone_iff_eq_none, packageOf?_eq_none_iff]

theorem packages_boxes (model : Model) (drawn : List Profile) :
    (model.drawing drawn).boxes.map Box.package =
      model.packages.filter fun package => !(model.boxOf drawn package).members.isEmpty := by
  rw [Model.drawing, List.filter_map, List.map_map]
  exact List.map_id _

structure Selects {α : Type} (items : List α) (sort : α → Prop) (kept : List α) : Prop where
  inOrder : kept.Sublist items
  all : ∀ item, item ∈ kept ↔ item ∈ items ∧ sort item

/-- Where the node of a profile stands: in the box of the longest package that begins its name, or
below all boxes when there is none. -/
structure Housed (model : Model) (profile : Profile) (before after : List Line) : Prop where
  inside : ∀ package,
    openBox before = some package ↔ Nearest model.packages profile.typeName package
  outside : openBox before = none ↔ ∀ package ∈ model.packages, ¬ Begins package profile.typeName
  below : openBox before = none → ∀ later ∈ after, later.opened? = none

/-- Every profile that is drawn has one node, which stands where it belongs, and one style. The
boxes are those of the packages that have members, and each is written with its members. -/
structure Placed (model : Model) (drawn : List Profile) (lines : List Line) : Prop where
  nodes : (lines.filterMap Line.node?).Nodup ∧
    ∀ profile, profile ∈ lines.filterMap Line.node? ↔ profile ∈ drawn
  styles : lines.filterMap Line.styled? = drawn
  housed : ∀ before line after profile, lines = before ++ line :: after →
    line.node? = some profile → Housed model profile before after
  boxes : Selects model.packages
    (fun package => ∃ profile ∈ drawn, Nearest model.packages profile.typeName package)
    (lines.filterMap Line.opened?)
  members : ∀ before package after, lines = before ++ .opening package :: after →
    ∃ members rest, after = members.map .member ++ .closing :: rest ∧
      Selects drawn (fun profile => Nearest model.packages profile.typeName package) members

theorem openBox_eq (split : layout (model.drawing drawn) = before ++ line :: after)
    (node : line.node? = some profile) : openBox before = model.packageOf? profile.typeName := by
  rcases node_cases split node with ⟨box, member, listed, inside⟩ | ⟨listed, outside, _⟩
  · obtain ⟨package, _, rfl, _⟩ := mem_boxes_iff.mp member
    have near := (mem_members_iff.mp listed).2
    rw [inside, (packageOf?_eq_some_iff ..).mpr near]
    rfl
  · rw [outside, (packageOf?_eq_none_iff ..).mpr (mem_loose_iff.mp listed).2]

theorem housed (split : layout (model.drawing drawn) = before ++ line :: after)
    (node : line.node? = some profile) : Housed model profile before after where
  inside package := by rw [openBox_eq split node, packageOf?_eq_some_iff]
  outside := by rw [openBox_eq split node, packageOf?_eq_none_iff]
  below := by
    intro outside
    rcases node_cases split node with ⟨box, _, _, inside⟩ | ⟨_, _, below⟩
    · rw [outside] at inside
      cases inside
    · exact below

/-- No profile is a member of two boxes, and none of a box is drawn below them. -/
theorem nodup_nodes (model : Model) (distinct : drawn.Nodup) :
    ((model.drawing drawn).boxes.flatMap Box.members ++ (model.drawing drawn).loose).Nodup := by
  have apart : (model.drawing drawn).boxes.Pairwise
      (Function.onFun List.Disjoint Box.members) := by
    apply List.Pairwise.filter
    apply List.pairwise_map.mpr
    apply model.packages_nodup.imp
    intro first second different profile one two
    exact different ((mem_members_iff.mp one).2.unique (mem_members_iff.mp two).2)
  rw [List.nodup_append, List.nodup_flatMap]
  refine ⟨⟨?_, apart⟩, distinct.filter _, ?_⟩
  · intro box member
    obtain ⟨package, _, rfl, _⟩ := mem_boxes_iff.mp member
    exact distinct.filter _
  · intro profile boxed other loose same
    obtain ⟨box, member, listed⟩ := List.mem_flatMap.mp boxed
    obtain ⟨package, _, rfl, _⟩ := mem_boxes_iff.mp member
    have near := (mem_members_iff.mp listed).2
    exact (mem_loose_iff.mp loose).2 package near.registered (same ▸ near.begins)

theorem mem_nodes_iff :
    profile ∈ (model.drawing drawn).boxes.flatMap Box.members ++ (model.drawing drawn).loose ↔
      profile ∈ drawn := by
  rw [List.mem_append, List.mem_flatMap]
  constructor
  · intro placed
    rcases placed with ⟨box, member, listed⟩ | loose
    · obtain ⟨package, _, rfl, _⟩ := mem_boxes_iff.mp member
      exact (mem_members_iff.mp listed).1
    · exact (mem_loose_iff.mp loose).1
  · intro member
    cases found : model.packageOf? profile.typeName with
    | none => exact .inr (mem_loose_iff.mpr ⟨member, (packageOf?_eq_none_iff ..).mp found⟩)
    | some package =>
      have near := (packageOf?_eq_some_iff ..).mp found
      have listed := mem_members_iff.mpr ⟨member, near⟩
      exact .inl ⟨_, mem_boxes_iff.mpr ⟨package, near.registered, rfl, List.ne_nil_of_mem listed⟩,
        listed⟩

theorem selects_boxes (model : Model) (drawn : List Profile) :
    Selects model.packages
      (fun package => ∃ profile ∈ drawn, Nearest model.packages profile.typeName package)
      ((model.drawing drawn).boxes.map Box.package) where
  inOrder := packages_boxes model drawn ▸ List.filter_sublist
  all package := by
    rw [packages_boxes, List.mem_filter, Bool.not_eq_true', List.isEmpty_eq_false_iff_exists_mem]
    simp only [mem_members_iff]

theorem selects_members (model : Model) (drawn : List Profile) (package : String) :
    Selects drawn (fun profile => Nearest model.packages profile.typeName package)
      (model.boxOf drawn package).members where
  inOrder := List.filter_sublist
  all _ := mem_members_iff

theorem placed (model : Model) (distinct : drawn.Nodup) :
    Placed model drawn (layout (model.drawing drawn)) where
  nodes := by
    rw [nodes_layout]
    exact ⟨nodup_nodes model distinct, fun profile => mem_nodes_iff⟩
  styles := styles_layout (model.drawing drawn)
  housed _ _ _ _ split node := housed split node
  boxes := openings_layout (model.drawing drawn) ▸ selects_boxes model drawn
  members := by
    intro before package after split
    obtain ⟨box, member, rfl, rest, same⟩ := opening_cases split
    obtain ⟨package, _, rfl, _⟩ := mem_boxes_iff.mp member
    exact ⟨_, rest, same, selects_members model drawn package⟩

/-- The text of a diagram: its lines, placed, and nothing else. Where names keep to one line, the
lines of the text are these. -/
structure Rendered (model : Model) (drawn : List Profile) (counts : Bool) (text : String) : Prop where
  distinct : (drawn.map Profile.typeName).Nodup
  placed : Placed model drawn (layout (model.drawing drawn))
  written : text =
    String.join ((layout (model.drawing drawn)).map fun line => line.text counts ++ "\n")
  readable : (∀ profile ∈ drawn, Unbroken profile.typeName) →
    (∀ package ∈ model.packages, Unbroken package) →
    text.toList.splitOn '\n' =
      (layout (model.drawing drawn)).map (fun line => (line.text counts).toList) ++ [[]]

theorem rendered (model : Model) (distinct : (drawn.map Profile.typeName).Nodup) (counts : Bool) :
    Rendered model drawn counts ((model.drawing drawn).text counts) where
  distinct := distinct
  placed := placed model (distinct.of_map _)
  written := text_eq (model.drawing drawn) counts
  readable := by
    intro names packages
    have unbroken : ∀ line ∈ layout (model.drawing drawn), Unbroken (line.text counts) := by
      intro line member
      refine unbroken_text ?_ ?_ ?_ member counts
      · intro box listed
        obtain ⟨package, registered, rfl, _⟩ := mem_boxes_iff.mp listed
        exact packages package registered
      · intro box listed profile inside
        obtain ⟨package, _, rfl, _⟩ := mem_boxes_iff.mp listed
        exact names profile (mem_members_iff.mp inside).1
      · exact fun profile inside => names profile (mem_loose_iff.mp inside).1
    have read := splitOn_join (List.forall_mem_map.mpr unbroken)
    rw [List.map_map, List.map_map] at read
    rw [text_eq]
    exact read

/-- Whatever a model holds and whatever packages are registered, its diagram and the diagrams of all
its contexts place every profile that they draw just once. -/
theorem diagrams_placed (model : Model) (counts : Bool) :
    Rendered model model.profiles counts (model.render counts) ∧
    ∀ package, Rendered model (model.contextAt package).profiles counts
      ((model.contextAt package).render counts) := by
  refine ⟨rendered model model.nodup_typeNames counts, ?_⟩
  intro package
  have kept : (model.contextAt package).profiles.Sublist model.profiles := List.filter_sublist
  exact rendered model (model.nodup_typeNames.sublist (kept.map _)) counts

/-- A line, a shed in a package further down, and a port that no package has. -/
def railway : Model := .assemble
  (.ofList [
    ("port", { typeName := "sea.Port", kind := .entity {} }),
    ("shed", { typeName := "rail.depot.Shed", kind := .entity {} }),
    ("line", { typeName := "rail.Line", kind := .aggregateRoot {} })])
  ["road", "rail", "rail.depot"] .default

theorem diagrams_placed_railway :
    (∀ profile ∈ railway.profiles, Unbroken profile.typeName) ∧
    (∀ package ∈ railway.packages, Unbroken package) ∧
    (railway.render true).toList.splitOn '\n' =
      (layout (railway.drawing railway.profiles)).map (fun line => (line.text true).toList) ++ [[]] ∧
    (layout (railway.drawing railway.profiles)).filterMap Line.opened? = ["rail", "rail.depot"] ∧
    (layout (railway.drawing railway.profiles)).filterMap (fun line => line.node?.map (·.typeName)) =
      ["rail.Line", "rail.depot.Shed", "sea.Port"] ∧
    Placed railway railway.profiles (layout (railway.drawing railway.profiles)) := by
  have names : ∀ profile ∈ railway.profiles, Unbroken profile.typeName := by decide +kernel
  have packages : ∀ package ∈ railway.packages, Unbroken package := by decide +kernel
  obtain ⟨whole, _⟩ := diagrams_placed railway true
  refine ⟨names, packages, whole.readable names packages, ?_, ?_, whole.placed⟩
  · decide +kernel
  · decide +kernel

end DomainAtlas.Proofs.DiagramLayout
