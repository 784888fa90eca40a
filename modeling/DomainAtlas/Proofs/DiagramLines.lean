import Mathlib.Data.List.Basic
import DomainAtlas.Diagram.Drawing

/-! The lines of a diagram, each with what it stands for. The text of a drawing is its lines with a
line break behind each, and unless a name brings a line break of its own the text is read back as
these lines. -/

namespace DomainAtlas.Proofs.DiagramLines

inductive Line where
  | fixed (text : String)
  | opening (package : String)
  | member (profile : Profile)
  | closing
  | loose (profile : Profile)
  | arrow (edge : Edge)
  | style (profile : Profile)

namespace Line

def text (counts : Bool) : Line → String
  | fixed text => text
  | opening package => "    subgraph " ++ nodeId package ++ "[\"" ++ package ++ "\"]"
  | member profile => "        " ++ profile.node counts
  | closing => "    end"
  | loose profile => "    " ++ profile.node counts
  | arrow edge => edge.line
  | style profile => profile.styleLine

section
variable (counts : Bool)

@[simp] theorem text_fixed (text : String) : (fixed text).text counts = text := rfl

@[simp] theorem text_opening (package : String) : (opening package).text counts =
    "    subgraph " ++ nodeId package ++ "[\"" ++ package ++ "\"]" := rfl

@[simp] theorem text_member (profile : Profile) :
    (member profile).text counts = "        " ++ profile.node counts := rfl

@[simp] theorem text_closing : closing.text counts = "    end" := rfl

@[simp] theorem text_loose (profile : Profile) :
    (loose profile).text counts = "    " ++ profile.node counts := rfl

@[simp] theorem text_arrow (edge : Edge) : (arrow edge).text counts = edge.line := rfl

@[simp] theorem text_style (profile : Profile) :
    (style profile).text counts = profile.styleLine := rfl

end

def node? : Line → Option Profile
  | member profile | loose profile => some profile
  | _ => none

def edge? : Line → Option Edge
  | arrow edge => some edge
  | _ => none

def styled? : Line → Option Profile
  | style profile => some profile
  | _ => none

def opened? : Line → Option String
  | opening package => some package
  | _ => none

end Line

def boxLines (box : Box) : List Line :=
  .opening box.package :: (box.members.map .member ++ [.closing])

def heading : List Line :=
  (["graph TD", "    %% Node Styles"]
    ++ styles.map (fun (name, look) => "    classDef " ++ name ++ " " ++ look ++ ";")
    ++ [""]).map .fixed

def footing (drawing : Drawing) : List Line :=
  ["", "    %% Relationships"].map .fixed ++ drawing.edges.map .arrow
    ++ ["", "    %% Apply Styles"].map .fixed ++ drawing.drawn.map .style

def layout (drawing : Drawing) : List Line :=
  heading ++ (drawing.boxes.flatMap boxLines ++ (drawing.loose.map .loose ++ footing drawing))

variable {drawing : Drawing} {profile : Profile} {line : Line}

theorem map_text_boxLines (box : Box) (counts : Bool) :
    (boxLines box).map (Line.text counts) = box.lines counts := by
  simp [boxLines, Box.lines, Function.comp_def]

theorem map_text_layout (drawing : Drawing) (counts : Bool) :
    (layout drawing).map (Line.text counts) = drawing.lines counts := by
  simp only [layout, heading, footing, Drawing.lines, List.map_append, List.map_flatMap,
    map_text_boxLines, List.map_map, Function.comp_def, Line.text_fixed, Line.text_loose,
    Line.text_arrow, Line.text_style, List.map_cons, List.map_nil, List.append_assoc,
    List.cons_append, List.nil_append]

theorem text_eq (drawing : Drawing) (counts : Bool) :
    drawing.text counts = String.join ((layout drawing).map fun line => line.text counts ++ "\n") := by
  rw [Drawing.text, ← map_text_layout, List.map_map]
  rfl

theorem filterMap_boxLines {α : Type} (read : Line → Option α) (box : Box) :
    (boxLines box).filterMap read = (read (.opening box.package)).toList ++
      (box.members.filterMap (read <| .member ·) ++ (read .closing).toList) := by
  have one (line : Line) (lines : List Line) :
      (line :: lines).filterMap read = (read line).toList ++ lines.filterMap read := by
    rw [List.filterMap_cons]
    cases read line <;> rfl
  rw [boxLines, one, List.filterMap_append, List.filterMap_map, one, List.filterMap_nil,
    List.append_nil]
  rfl

theorem filterMap_layout {α : Type} (read : Line → Option α) (drawing : Drawing)
    (fixed : ∀ text, read (.fixed text) = none) :
    (layout drawing).filterMap read =
      drawing.boxes.flatMap (fun box => (read (.opening box.package)).toList ++
          (box.members.filterMap (read <| .member ·) ++ (read .closing).toList)) ++
        (drawing.loose.filterMap (read <| .loose ·) ++
          (drawing.edges.filterMap (read <| .arrow ·) ++
            drawing.drawn.filterMap (read <| .style ·))) := by
  have texts : ∀ texts : List String, (texts.map Line.fixed).filterMap read = [] := by
    intro texts
    rw [List.filterMap_map, List.filterMap_eq_nil_iff]
    exact fun text _ => fixed text
  simp only [layout, heading, footing, List.filterMap_append, texts, List.filterMap_flatMap,
    filterMap_boxLines, List.filterMap_map, List.nil_append, List.append_nil, Function.comp_def]

theorem nodes_layout (drawing : Drawing) :
    (layout drawing).filterMap Line.node? = drawing.boxes.flatMap Box.members ++ drawing.loose := by
  rw [filterMap_layout Line.node? drawing fun _ => rfl]
  simp [Line.node?]

theorem openings_layout (drawing : Drawing) :
    (layout drawing).filterMap Line.opened? = drawing.boxes.map Box.package := by
  rw [filterMap_layout Line.opened? drawing fun _ => rfl]
  simp [Line.opened?, List.map_eq_flatMap]

theorem edges_layout (drawing : Drawing) :
    (layout drawing).filterMap Line.edge? = drawing.edges := by
  rw [filterMap_layout Line.edge? drawing fun _ => rfl]
  simp [Line.edge?]

theorem styles_layout (drawing : Drawing) :
    (layout drawing).filterMap Line.styled? = drawing.drawn := by
  rw [filterMap_layout Line.styled? drawing fun _ => rfl]
  simp [Line.styled?]

def Unbroken (text : String) : Prop := '\n' ∉ text.toList

instance (text : String) : Decidable (Unbroken text) := inferInstanceAs (Decidable (¬ _))

theorem unbroken_append {first second : String} :
    Unbroken (first ++ second) ↔ Unbroken first ∧ Unbroken second := by
  rw [Unbroken, String.toList_append, List.mem_append, not_or]
  rfl

/-- An identifier has no signs but letters, digits and underscores. -/
theorem not_mem_nodeId {c : Char} (sign : c.isAlphanum = false) (other : c ≠ '_') (name : String) :
    c ∉ (nodeId name).toList := by
  rw [nodeId, String.toList_ofList]
  intro member
  obtain ⟨source, _, same⟩ := List.mem_map.mp member
  split at same
  next kept => simp [same, sign] at kept
  next => exact other same.symm

theorem unbroken_nodeId (name : String) : Unbroken (nodeId name) :=
  not_mem_nodeId (by decide) (by decide) name

theorem unbroken_toString (n : Nat) : Unbroken (toString n) := by
  intro member
  rw [Nat.toString_eq_repr, Nat.toList_repr] at member
  exact absurd (Nat.isDigit_of_mem_toDigits (by decide) (by decide) member) (by decide)

theorem unbroken_simple {name : String} (unbroken : Unbroken name) :
    Unbroken (TypeName.simple name) := by
  rw [Unbroken, TypeName.simple, String.toList_ofList, List.mem_reverse]
  intro member
  exact unbroken (List.mem_reverse.mp ((List.takeWhile_sublist _).subset member))

theorem unbroken_label (unbroken : Unbroken profile.typeName) (counts : Bool) :
    Unbroken (profile.label counts) := by
  have title : Unbroken profile.role.title := by cases profile.role <;> decide
  simp only [Profile.label, unbroken_append]
  refine ⟨⟨⟨⟨unbroken_simple unbroken, by decide⟩, title⟩, by decide⟩, ?_⟩
  split
  · simp only [unbroken_append]
    exact ⟨⟨by decide, unbroken_toString _⟩, by decide⟩
  · decide

theorem unbroken_node (unbroken : Unbroken profile.typeName) (counts : Bool) :
    Unbroken (profile.node counts) := by
  simp only [Profile.node, unbroken_append]
  exact ⟨⟨⟨unbroken_nodeId _, by decide⟩, unbroken_label unbroken counts⟩, by decide⟩

theorem unbroken_styleLine (profile : Profile) : Unbroken profile.styleLine := by
  have style : Unbroken profile.role.style := by cases profile.role <;> decide
  simp only [Profile.styleLine, unbroken_append]
  exact ⟨⟨⟨⟨by decide, unbroken_nodeId _⟩, by decide⟩, style⟩, by decide⟩

theorem unbroken_edge (edge : Edge) : Unbroken edge.line := by
  have arrow : Unbroken edge.relation.arrow := by cases edge.relation <;> decide
  have label : Unbroken edge.relation.label := by cases edge.relation <;> decide
  simp only [Edge.line, unbroken_append]
  exact ⟨⟨⟨⟨⟨⟨⟨by decide, unbroken_nodeId _⟩, by decide⟩, arrow⟩, by decide⟩, label⟩, by decide⟩,
    unbroken_nodeId _⟩

/-- Texts that are written each with a line break behind it are read back as the lines. -/
theorem splitOn_join {texts : List String} (unbroken : ∀ text ∈ texts, Unbroken text) :
    (String.join (texts.map (· ++ "\n"))).toList.splitOn '\n' = texts.map String.toList ++ [[]] := by
  rw [String.toList_join, List.flatMap_map]
  induction texts with
  | nil => rfl
  | cons text texts ih =>
    have first : '\n' ∉ text.toList := unbroken text List.mem_cons_self
    have ended : (text ++ "\n").toList = text.toList ++ ['\n'] := String.toList_append
    rw [List.flatMap_cons, ended, List.append_assoc, List.singleton_append,
      List.splitOn_append_cons_self_of_not_mem first,
      ih fun other member => unbroken other (List.mem_cons_of_mem _ member)]
    rfl

theorem unbroken_above (member : line ∈ heading) (counts : Bool) : Unbroken (line.text counts) := by
  have first : ∀ text ∈ ["graph TD", "    %% Node Styles"], Unbroken text := by decide
  have styled : ∀ entry ∈ styles, Unbroken entry.1 ∧ Unbroken entry.2 := by decide +kernel
  obtain ⟨text, listed, rfl⟩ := List.mem_map.mp member
  rw [Line.text_fixed]
  simp only [List.mem_append, List.mem_singleton] at listed
  rcases listed with (above | style) | rfl
  · exact first text above
  · obtain ⟨⟨name, look⟩, known, rfl⟩ := List.mem_map.mp style
    obtain ⟨named, looks⟩ := styled _ known
    simp only [unbroken_append]
    exact ⟨⟨⟨⟨by decide, named⟩, by decide⟩, looks⟩, by decide⟩
  · decide

theorem unbroken_below (member : line ∈ footing drawing) (counts : Bool) :
    Unbroken (line.text counts) := by
  have relationships : ∀ text ∈ ["", "    %% Relationships"], Unbroken text := by decide
  have applied : ∀ text ∈ ["", "    %% Apply Styles"], Unbroken text := by decide
  simp only [footing, List.mem_append] at member
  rcases member with ((first | arrow) | second) | style
  · obtain ⟨text, listed, rfl⟩ := List.mem_map.mp first
    exact relationships text listed
  · obtain ⟨edge, _, rfl⟩ := List.mem_map.mp arrow
    exact unbroken_edge edge
  · obtain ⟨text, listed, rfl⟩ := List.mem_map.mp second
    exact applied text listed
  · obtain ⟨styled, _, rfl⟩ := List.mem_map.mp style
    exact unbroken_styleLine styled

theorem unbroken_boxLines {box : Box} (package : Unbroken box.package)
    (members : ∀ profile ∈ box.members, Unbroken profile.typeName) (member : line ∈ boxLines box)
    (counts : Bool) : Unbroken (line.text counts) := by
  rw [boxLines, List.mem_cons, List.mem_append, List.mem_singleton] at member
  rcases member with rfl | inside | rfl
  · simp only [Line.text_opening, unbroken_append]
    exact ⟨⟨⟨⟨by decide, unbroken_nodeId _⟩, by decide⟩, package⟩, by decide⟩
  · obtain ⟨profile, listed, rfl⟩ := List.mem_map.mp inside
    exact unbroken_append.mpr ⟨by decide, unbroken_node (members profile listed) counts⟩
  · rw [Line.text_closing]
    decide

/-- Only the names of packages and profiles can break a line. -/
theorem unbroken_text (packages : ∀ box ∈ drawing.boxes, Unbroken box.package)
    (members : ∀ box ∈ drawing.boxes, ∀ profile ∈ box.members, Unbroken profile.typeName)
    (loose : ∀ profile ∈ drawing.loose, Unbroken profile.typeName)
    (member : line ∈ layout drawing) (counts : Bool) : Unbroken (line.text counts) := by
  simp only [layout, List.mem_append] at member
  rcases member with above | boxed | below | footing
  · exact unbroken_above above counts
  · obtain ⟨box, listed, inside⟩ := List.mem_flatMap.mp boxed
    exact unbroken_boxLines (packages box listed) (members box listed) inside counts
  · obtain ⟨profile, listed, rfl⟩ := List.mem_map.mp below
    exact unbroken_append.mpr ⟨by decide, unbroken_node (loose profile listed) counts⟩
  · exact unbroken_below footing counts

end DomainAtlas.Proofs.DiagramLines
