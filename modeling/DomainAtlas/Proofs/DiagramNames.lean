import Mathlib.Data.List.Forall2
import DomainAtlas.Proofs.DiagramLayout
import DomainAtlas.Proofs.DiagramRelations

/-! What the lines of a diagram tell apart. A line stands for a profile by its identifier, which keeps
the ASCII letters and digits of the name and only the places of its other signs. So two profiles have
one identifier just when their names differ in other signs alone. Whatever else a line of an edge
says, it says so that it can be read back. -/

namespace DomainAtlas.Proofs.DiagramNames
open DiagramLines DiagramLayout DiagramRelations

variable {model : Model} {profile : Profile} {line : Line}

/-- The names are of one length, and where they differ neither has an ASCII letter or digit. -/
def Lookalike (first second : String) : Prop :=
  List.Forall₂ (fun a b : Char => a = b ∨ a.isAlphanum = false ∧ b.isAlphanum = false)
    first.toList second.toList

theorem ne_underscore {c : Char} (kept : c.isAlphanum = true) : c ≠ '_' := by
  intro same
  rw [same] at kept
  exact absurd kept (by decide)

theorem shown_eq_iff (a b : Char) :
    (if a.isAlphanum then a else '_') = (if b.isAlphanum then b else '_') ↔
      a = b ∨ a.isAlphanum = false ∧ b.isAlphanum = false := by
  by_cases first : a.isAlphanum = true
  · by_cases second : b.isAlphanum = true
    · simp [first, second]
    · have differ : a ≠ b := fun same => second (same ▸ first)
      simp [first, second, differ, ne_underscore first]
  · by_cases second : b.isAlphanum = true
    · have differ : a ≠ b := fun same => first (same ▸ second)
      simp [first, second, differ, (ne_underscore second).symm]
    · simp [first, second]

theorem nodeId_eq_iff (first second : String) :
    nodeId first = nodeId second ↔ Lookalike first second := by
  rw [nodeId, nodeId, String.ofList_inj, ← List.forall₂_eq_eq_eq, List.forall₂_map_left_iff,
    List.forall₂_map_right_iff]
  simp only [shown_eq_iff]
  rfl

/-- What stands before a sign is read up to the sign when it does not hold it. -/
theorem takeWhile_part {part : List Char} {sign : Char} (free : sign ∉ part) (rest : List Char) :
    (part ++ sign :: rest).takeWhile (· != sign) = part := by
  have inside : ∀ c ∈ part, (c != sign) = true := fun c member =>
    bne_iff_ne.mpr fun same => free (same ▸ member)
  rw [List.takeWhile_append_of_pos inside, List.takeWhile_cons_of_neg (by simp), List.append_nil]

theorem parts_readable {first second r s : List Char} {sign : Char} (free : sign ∉ first)
    (other : sign ∉ second) (same : first ++ sign :: r = second ++ sign :: s) :
    first = second ∧ r = s := by
  have parts : first = second := by
    rw [← takeWhile_part free r, same, takeWhile_part other]
  rw [parts] at same
  exact ⟨parts, (List.cons.inj (List.append_cancel_left same)).2⟩

/-- The identifier that a text begins with: what stands behind its blanks and before a bracket. -/
def idOf (text : String) : String :=
  .ofList ((text.toList.dropWhile (· == ' ')).takeWhile (· != '['))

theorem idOf_node {indent : String} (blank : ∀ c ∈ indent.toList, (c == ' ') = true)
    (profile : Profile) (counts : Bool) :
    idOf (indent ++ profile.node counts) = nodeId profile.typeName := by
  have parts : (indent ++ profile.node counts).toList = indent.toList ++
      ((nodeId profile.typeName).toList ++ '[' :: '"' ::
        ((profile.label counts).toList ++ ['"', ']'])) := by
    simp [Profile.node]
  have unblank := not_mem_nodeId (c := ' ') (by decide) (by decide) profile.typeName
  have unbracketed := not_mem_nodeId (c := '[') (by decide) (by decide) profile.typeName
  have starts (rest : List Char) : ((nodeId profile.typeName).toList ++ '[' :: rest).dropWhile
      (· == ' ') = (nodeId profile.typeName).toList ++ '[' :: rest := by
    cases chars : (nodeId profile.typeName).toList with
    | nil => rfl
    | cons c more =>
      have other : c ≠ ' ' := fun same => unblank (chars ▸ same ▸ List.mem_cons_self)
      exact List.dropWhile_cons_of_neg (by simpa using other)
  rw [idOf, parts, List.dropWhile_append_of_pos blank, starts, takeWhile_part unbracketed,
    String.ofList_toList]

theorem idOf_text (node : line.node? = some profile) (counts : Bool) :
    idOf (line.text counts) = nodeId profile.typeName := by
  cases line with
  | member drawn =>
    obtain rfl := Option.some.inj node
    exact idOf_node (by simp) drawn counts
  | loose drawn =>
    obtain rfl := Option.some.inj node
    exact idOf_node (by simp) drawn counts
  | fixed | opening | closing | arrow | style => cases node

theorem toList_line (edge : Edge) :
    edge.line.toList = "    ".toList ++ ((nodeId edge.source).toList ++ ' ' ::
      (edge.relation.arrow.toList ++ '|' :: (edge.relation.label.toList ++ '|' ::
        ' ' :: (nodeId edge.target).toList))) := by
  simp [Edge.line]

/-- Some relations have the same arrow, but each has a label of its own. -/
theorem label_injective {first second : Relation} (same : first.label = second.label) :
    first = second := by
  revert same
  cases first <;> cases second <;> decide

theorem line_eq_iff (first second : Edge) :
    first.line = second.line ↔
      first.relation = second.relation ∧ Lookalike first.source second.source ∧
        Lookalike first.target second.target := by
  rw [← nodeId_eq_iff, ← nodeId_eq_iff]
  constructor
  · intro same
    have unblank := not_mem_nodeId (c := ' ') (by decide) (by decide)
    have arrow (relation : Relation) : '|' ∉ relation.arrow.toList := by
      cases relation <;> decide
    have label (relation : Relation) : '|' ∉ relation.label.toList := by
      cases relation <;> decide
    have chars := congrArg String.toList same
    rw [toList_line, toList_line] at chars
    -- each part ends at the first sign that it cannot hold
    have named := List.append_cancel_left chars
    obtain ⟨sources, behind⟩ := parts_readable (unblank _) (unblank _) named
    obtain ⟨_, labelled⟩ := parts_readable (arrow _) (arrow _) behind
    obtain ⟨labels, targets⟩ := parts_readable (label _) (label _) labelled
    exact ⟨label_injective (String.toList_inj.mp labels), String.toList_inj.mp sources,
      String.toList_inj.mp (List.cons.inj targets).2⟩
  · intro same
    obtain ⟨relations, sources, targets⟩ := same
    rw [Edge.line, Edge.line, relations, sources, targets]

def Distinguished (model : Model) : Prop :=
  ∀ first ∈ model.profiles, ∀ second ∈ model.profiles,
    Lookalike first.typeName second.typeName → first = second

theorem nodup_ids_iff (model : Model) :
    (model.profiles.map fun profile => nodeId profile.typeName).Nodup ↔ Distinguished model := by
  rw [List.nodup_map_iff_inj_on (model.nodup_typeNames.of_map _)]
  simp only [nodeId_eq_iff]
  rfl

/-- Ends of edges are profiles, so ends that look alike are the same. -/
theorem eq_of_line (distinguished : Distinguished model) {first second : Edge}
    (one : first ∈ model.edges model.profiles) (other : second ∈ model.edges model.profiles)
    (same : first.line = second.line) : first = second := by
  obtain ⟨relations, sources, targets⟩ := (line_eq_iff first second).mp same
  obtain ⟨source, inside, target, also, starts, ends, _⟩ := (mem_edges_iff ..).mp one
  obtain ⟨source', inside', target', also', starts', ends', _⟩ := (mem_edges_iff ..).mp other
  rw [starts, starts'] at sources
  rw [ends, ends'] at targets
  obtain rfl := distinguished source inside source' inside' sources
  obtain rfl := distinguished target also target' also' targets
  cases first
  cases second
  simp_all

theorem nodup_edgeLines (distinguished : Distinguished model) :
    ((model.edges model.profiles).map Edge.line).Nodup :=
  (List.nodup_map_iff_inj_on (nodup_distinct _)).mpr
    fun _ one _ other same => eq_of_line distinguished one other same

/-- What the lines of a diagram tell apart: two nodes begin with one identifier just when the names
of their profiles look alike, and two edges are drawn by one line just when they stand for one
relation and their ends look alike. -/
structure Told (model : Model) (counts : Bool) (lines : List Line) : Prop where
  drawn : ∀ profile, profile ∈ lines.filterMap Line.node? ↔ profile ∈ model.profiles
  linked : lines.filterMap Line.edge? = model.edges model.profiles
  nodes : ∀ first ∈ lines, ∀ second ∈ lines, ∀ one other,
    first.node? = some one → second.node? = some other →
      (idOf (first.text counts) = idOf (second.text counts) ↔
        Lookalike one.typeName other.typeName)
  arrows : ∀ first ∈ lines, ∀ second ∈ lines, ∀ one other,
    first.edge? = some one → second.edge? = some other →
      (first.text counts = second.text counts ↔
        one.relation = other.relation ∧ Lookalike one.source other.source ∧
          Lookalike one.target other.target)

theorem text_of_edge? {edge : Edge} (drawn : line.edge? = some edge) (counts : Bool) :
    line.text counts = edge.line := by
  cases line with
  | arrow => exact congrArg Edge.line (Option.some.inj drawn)
  | fixed | opening | member | closing | loose | style => cases drawn

theorem told (model : Model) (counts : Bool) :
    Told model counts (layout (model.drawing model.profiles)) where
  drawn := (placed model (model.nodup_typeNames.of_map _)).nodes.2
  linked := edges_layout _
  nodes := by
    intro first _ second _ one other node node'
    rw [idOf_text node, idOf_text node', nodeId_eq_iff]
  arrows := by
    intro first _ second _ one other drawn drawn'
    rw [text_of_edge? drawn, text_of_edge? drawn', line_eq_iff]

/-- The lines of a diagram tell all profiles and all edges of a model apart as long as no two names
look alike, and names that look alike get one identifier. -/
theorem lines_tell_apart (model : Model) (counts : Bool) :
    Told model counts (layout (model.drawing model.profiles)) ∧
    ((model.profiles.map fun profile => nodeId profile.typeName).Nodup ↔ Distinguished model) ∧
    (Distinguished model → ((model.edges model.profiles).map Edge.line).Nodup) :=
  ⟨told model counts, nodup_ids_iff model, nodup_edgeLines⟩

def part (name typeName : String) : Field where
  name
  type := { typeName, tag := some .entity, resolved := ⟨typeName, [], none, false⟩ }
  declaredBy := "shop.Order"
  access := .owner
  modifiable := true
  publicReadable := false
  publicWriteable := false

def ordering (draft : String) : Model := .assemble
  (.ofList [
    ("order", { typeName := "shop.Order", kind := .aggregateRoot {}
                fields := [part "lines" "shop.Order$Line", part "drafts" draft] }),
    ("line", { typeName := "shop.Order$Line", kind := .entity {} }),
    ("draft", { typeName := draft, kind := .entity {} })])
  [] .default

theorem lines_tell_apart_ordering :
    Distinguished (ordering "shop.Order_Draft") ∧
    ((ordering "shop.Order_Draft").edges (ordering "shop.Order_Draft").profiles).map Edge.line =
      ["    shop_Order -->|contains| shop_Order_Line",
        "    shop_Order -->|contains| shop_Order_Draft"] ∧
    (((ordering "shop.Order_Draft").edges (ordering "shop.Order_Draft").profiles).map
      Edge.line).Nodup := by
  obtain ⟨_, ids, lines⟩ := lines_tell_apart (ordering "shop.Order_Draft") true
  have distinguished := ids.mp (by decide +kernel)
  exact ⟨distinguished, by decide +kernel, lines distinguished⟩

/-- The line of an order and its draft are two entities. They are drawn with one identifier, and the
edges to them by one line. -/
theorem draft_drawn_as_line :
    (∃ line ∈ (ordering "shop.Order_Line").profiles,
      ∃ draft ∈ (ordering "shop.Order_Line").profiles,
        line ≠ draft ∧ nodeId line.typeName = nodeId draft.typeName) ∧
    ∃ first ∈ (ordering "shop.Order_Line").edges (ordering "shop.Order_Line").profiles,
      ∃ second ∈ (ordering "shop.Order_Line").edges (ordering "shop.Order_Line").profiles,
        first ≠ second ∧ first.line = second.line := by
  decide +kernel

end DomainAtlas.Proofs.DiagramNames
