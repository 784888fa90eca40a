import Mathlib.Data.List.Basic
import DomainAtlas.Diagram.Edge
import DomainAtlas.Model.Contexts

/-! The edges of a part of a diagram. An edge is drawn because of what its source says, and only
between profiles that are drawn, so a diagram of some of the profiles has just those edges of the
whole diagram that start and end among them. -/

namespace DomainAtlas.Proofs.DiagramEdges

variable {model : Model} {commands : List Profile} {profile : Profile} {edge : Edge}

theorem source_of_mem_edgesFrom (member : edge ∈ model.edgesFrom commands profile) :
    edge.source = profile.typeName := by
  simp only [Model.edgesFrom, List.mem_append] at member
  rcases member with ((field | message) | command) | management
  · unfold Profile.fieldEdges at field
    split at field
    · obtain ⟨held, _, made⟩ := List.mem_filterMap.mp field
      obtain ⟨relation, _, rfl⟩ := Option.map_eq_some_iff.mp made
      rfl
    · cases field
  · rcases List.mem_append.mp message with published | listened
    · obtain ⟨event, _, rfl⟩ := List.mem_map.mp published
      rfl
    · obtain ⟨event, _, rfl⟩ := List.mem_map.mp listened
      rfl
  · obtain ⟨processed, _, rfl⟩ := List.mem_map.mp command
    rfl
  · obtain ⟨managed, _, rfl⟩ := List.mem_map.mp management
    rfl

variable (keep : String → Bool)

def keepsEnds (edge : Edge) : Bool := keep edge.source && keep edge.target

theorem filter_commandEdges (model : Model) (commands : List Profile) (profile : Profile) :
    (model.commandEdges commands profile).filter (keep ·.target) =
      model.commandEdges (commands.filter (keep ·.typeName)) profile := by
  unfold Model.commandEdges
  rw [List.filter_map, List.filter_comm]
  rfl

/-- Commands that are left out take no edges with them but those that lead to them. -/
theorem filter_edgesFrom (model : Model) (commands : List Profile) (profile : Profile) :
    (model.edgesFrom (commands.filter (keep ·.typeName)) profile).filter (keep ·.target) =
      (model.edgesFrom commands profile).filter (keep ·.target) := by
  have again : (commands.filter (keep ·.typeName)).filter (keep ·.typeName) =
      commands.filter (keep ·.typeName) := by
    simp only [List.filter_filter, Bool.and_self]
  simp only [Model.edgesFrom, List.filter_append, filter_commandEdges, again]

theorem filter_keepsEnds_edgesFrom (model : Model) (commands : List Profile) (profile : Profile) :
    (model.edgesFrom commands profile).filter (keepsEnds keep) =
      if keep profile.typeName = true then
        (model.edgesFrom (commands.filter (keep ·.typeName)) profile).filter (keepsEnds keep)
      else [] := by
  have ends (given : List Profile) : (model.edgesFrom given profile).filter (keepsEnds keep) =
      ((model.edgesFrom given profile).filter (keep ·.target)).filter fun _ =>
        keep profile.typeName := by
    rw [List.filter_filter]
    apply List.filter_congr
    intro edge member
    rw [keepsEnds, source_of_mem_edgesFrom member]
  rw [ends, ends, filter_edgesFrom]
  split
  next kept => rfl
  next left =>
    apply List.filter_eq_nil_iff.mpr
    intro edge _
    exact left

/-- The edges of the profiles whose names are kept, before any end is looked for among them. -/
theorem flatMap_edgesFrom_filter (model : Model) (commands drawn : List Profile) :
    ((drawn.filter (keep ·.typeName)).flatMap
        (model.edgesFrom (commands.filter (keep ·.typeName)))).filter (keepsEnds keep) =
      (drawn.flatMap (model.edgesFrom commands)).filter (keepsEnds keep) := by
  induction drawn with
  | nil => rfl
  | cons profile drawn ih =>
    rw [List.flatMap_cons, List.filter_append, filter_keepsEnds_edgesFrom, ← ih]
    by_cases kept : keep profile.typeName = true
    · rw [List.filter_cons, if_pos kept, if_pos kept, List.flatMap_cons, List.filter_append]
    · rw [List.filter_cons, if_neg kept, if_neg kept, List.nil_append]

def endsAmong (drawn : List Profile) (edge : Edge) : Bool :=
  (drawn.map (·.typeName)).contains edge.source && (drawn.map (·.typeName)).contains edge.target

theorem contains_filter (drawn : List Profile) (name : String) :
    ((drawn.filter (keep ·.typeName)).map (·.typeName)).contains name =
      ((drawn.map (·.typeName)).contains name && keep name) := by
  apply Bool.eq_iff_iff.mpr
  simp only [Bool.and_eq_true, List.contains_iff_mem, List.mem_map, List.mem_filter]
  constructor
  · intro among
    obtain ⟨profile, ⟨inside, kept⟩, rfl⟩ := among
    exact ⟨⟨profile, inside, rfl⟩, kept⟩
  · intro among
    obtain ⟨⟨profile, inside, rfl⟩, kept⟩ := among
    exact ⟨profile, ⟨inside, kept⟩, rfl⟩

theorem endsAmong_filter (drawn : List Profile) (edge : Edge) :
    endsAmong (drawn.filter (keep ·.typeName)) edge =
      (endsAmong drawn edge && keepsEnds keep edge) := by
  rw [endsAmong, contains_filter, contains_filter, endsAmong, keepsEnds]
  ac_rfl

/-- Drawing fewer profiles draws the edges among them, in the order that they have among all. -/
theorem edges_filter (model : Model) (drawn : List Profile) :
    model.edges (drawn.filter (keep ·.typeName)) =
      (model.edges drawn).filter (keepsEnds keep) := by
  have commands : (drawn.filter (keep ·.typeName)).filter (·.role == .domainCommand) =
      (drawn.filter (·.role == .domainCommand)).filter (keep ·.typeName) := List.filter_comm ..
  calc
    _ = distinct (((drawn.filter (keep ·.typeName)).flatMap (model.edgesFrom
          ((drawn.filter (·.role == .domainCommand)).filter (keep ·.typeName)))).filter
            (endsAmong (drawn.filter (keep ·.typeName)))) := by
      rw [← commands]
      rfl
    _ = distinct (((drawn.flatMap (model.edgesFrom (drawn.filter (·.role == .domainCommand)))).filter
          (keepsEnds keep)).filter (endsAmong drawn)) := by
      rw [funext (endsAmong_filter keep drawn), ← List.filter_filter, flatMap_edgesFrom_filter]
    _ = (model.edges drawn).filter (keepsEnds keep) := by
      rw [List.filter_comm, ← filter_distinct]
      rfl

/-- The diagram of a bounded context has the edges of the whole diagram whose ends are both named
within the package. -/
theorem context_edges (model : Model) (package : String) :
    model.edges (model.contextAt package).profiles =
      (model.edges model.profiles).filter fun edge =>
        decide (package.toList <+: edge.source.toList ∧ package.toList <+: edge.target.toList) := by
  have named : ∀ edge, keepsEnds (TypeName.isWithin package) edge =
      decide (package.toList <+: edge.source.toList ∧ package.toList <+: edge.target.toList) := by
    intro edge
    apply Bool.eq_iff_iff.mpr
    simp only [keepsEnds, TypeName.isWithin, Bool.and_eq_true, List.isPrefixOf_iff_prefix,
      decide_eq_true_eq]
  rw [← funext named]
  exact edges_filter (TypeName.isWithin package) model model.profiles

end DomainAtlas.Proofs.DiagramEdges
