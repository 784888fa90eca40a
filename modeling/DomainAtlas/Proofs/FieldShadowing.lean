import DomainAtlas.Proofs.Coherence
import DomainAtlas.Proofs.Supertypes

/-! The fields of a type run from the farthest superclass down to the type itself, while a name is
looked up the other way round. The two meet because a field is hidden just when a nearer type
declares its name: of each name only the fields of the nearest type are in sight. -/

namespace DomainAtlas.Proofs.FieldShadowing
open Profiling

variable {catalog : Catalog} {settings : Settings}

def hierarchy (catalog : Catalog) (name : String) : List TypeDecl :=
  (name :: catalog.superclasses name).filterMap catalog.get?

theorem fieldOwners_eq (keyed : catalog.WellKeyed) {name : String} {decl : TypeDecl}
    (described : catalog.get? name = some decl) :
    catalog.fieldOwners decl = (hierarchy catalog name).reverse := by
  have named : name = decl.name := wellKeyed_iff.mp keyed name decl described
  rw [hierarchy, List.filterMap_cons_some described, List.reverse_cons, named]
  rfl

theorem nodup_names_hierarchy (keyed : catalog.WellKeyed) (name : String) :
    ((hierarchy catalog name).map (·.name)).Nodup := by
  rw [hierarchy, List.map_filterMap]
  apply (Supertypes.nodup_line catalog name).filterMap
  intro first second shared left right
  obtain ⟨decl, found, rfl⟩ := Option.map_eq_some_iff.mp left
  obtain ⟨other, also, same⟩ := Option.map_eq_some_iff.mp right
  rw [wellKeyed_iff.mp keyed first decl found, wellKeyed_iff.mp keyed second other also, same]

theorem get?_of_mem_hierarchy (keyed : catalog.WellKeyed) {name : String} {type : TypeDecl}
    (member : type ∈ hierarchy catalog name) : catalog.get? type.name = some type := by
  obtain ⟨upper, _, found⟩ := List.mem_filterMap.mp member
  rw [← wellKeyed_iff.mp keyed upper type found]
  exact found

def Named (types : List TypeDecl) (name : String) : Prop :=
  ∃ type ∈ types, ∃ field ∈ type.fields, field.name = name

instance (types : List TypeDecl) (name : String) : Decidable (Named types name) :=
  inferInstanceAs (Decidable (∃ type ∈ types, ∃ field ∈ type.fields, field.name = name))

theorem named_reverse_iff {types : List TypeDecl} {name : String} :
    Named types.reverse name ↔ Named types name := by
  simp [Named]

variable {accessors : List MethodDecl}

/-- The fields that an owner declares, as they stand behind nearer types. -/
def behind (catalog : Catalog) (settings : Settings) (accessors : List MethodDecl)
    (nearer : List TypeDecl) (owner : TypeDecl) : List Field :=
  owner.fields.map fun field =>
    catalog.fieldOf settings owner accessors (decide (Named nearer field.name)) field

theorem fieldsFrom_cons (owner : TypeDecl) (nearer : List TypeDecl) :
    catalog.fieldsFrom settings accessors (owner :: nearer) =
      behind catalog settings accessors nearer owner ++
        catalog.fieldsFrom settings accessors nearer := by
  have hides (name : String) : (nearer.any fun type => type.fields.any (·.name == name)) =
      decide (Named nearer name) := by
    rw [Bool.eq_iff_iff, decide_eq_true_iff]
    simp [Named]
  simp only [Catalog.fieldsFrom, hides, behind]

/-- Apart from the marks, the fields are those of one owner after another. -/
theorem sequence_fieldsFrom (catalog : Catalog) (settings : Settings) (accessors : List MethodDecl)
    (owners : List TypeDecl) :
    (catalog.fieldsFrom settings accessors owners).map (fun field => { field with isHidden := false }) =
      owners.flatMap fun owner => owner.fields.map (catalog.fieldOf settings owner accessors false) := by
  induction owners with
  | nil => rfl
  | cons owner nearer ih =>
    rw [fieldsFrom_cons, List.map_append, ih, behind, List.map_map, List.flatMap_cons]
    rfl

theorem named_of_mem_fieldsFrom {owners : List TypeDecl} {field : Field}
    (member : field ∈ catalog.fieldsFrom settings accessors owners) : Named owners field.name := by
  obtain ⟨owner, inside, declared, own, _, rfl⟩ := Coherence.mem_fieldsFrom member
  exact ⟨owner, inside, declared, own, rfl⟩

theorem declaredBy_of_mem_fieldsFrom {owners : List TypeDecl} {field : Field}
    (member : field ∈ catalog.fieldsFrom settings accessors owners) :
    field.declaredBy ∈ owners.map (·.name) := by
  obtain ⟨owner, inside, _, _, _, rfl⟩ := Coherence.mem_fieldsFrom member
  exact List.mem_map_of_mem inside

/-- The owners after that of a field decide whether the field is hidden. -/
theorem isHidden_fieldsFrom {further nearer : List TypeDecl} {owner : TypeDecl}
    (distinct : ((further ++ owner :: nearer).map (·.name)).Nodup) {field : Field}
    (member : field ∈ catalog.fieldsFrom settings accessors (further ++ owner :: nearer))
    (owned : field.declaredBy = owner.name) :
    field.isHidden = true ↔ Named nearer field.name := by
  induction further with
  | nil =>
    rw [List.nil_append, fieldsFrom_cons] at member
    rcases List.mem_append.mp member with own | later
    · obtain ⟨declared, _, rfl⟩ := List.mem_map.mp own
      exact decide_eq_true_iff
    · -- The owners have different names, so no field of a later one says that this one declares it.
      have again := declaredBy_of_mem_fieldsFrom later
      rw [owned] at again
      exact absurd again (List.nodup_cons.mp distinct).1
  | cons other further ih =>
    obtain ⟨new, rest⟩ := List.nodup_cons.mp distinct
    rw [List.cons_append, fieldsFrom_cons] at member
    rcases List.mem_append.mp member with own | later
    · obtain ⟨declared, _, rfl⟩ := List.mem_map.mp own
      have same : other.name = owner.name := owned
      simp [same] at new
    · exact ih rest later

/-- The first field of a name that the nearest type with such a field declares, with that type. -/
def nearest? (types : List TypeDecl) (name : String) : Option (TypeDecl × FieldDecl) :=
  types.findSome? fun owner => (owner.fields.find? (·.name == name)).map (Prod.mk owner)

theorem nearest?_eq_none_iff {types : List TypeDecl} {name : String} :
    nearest? types name = none ↔ ¬ Named types name := by
  simp [nearest?, Named]

theorem nearest?_append (nearer further : List TypeDecl) (sought : String) :
    nearest? (nearer ++ further) sought = (nearest? nearer sought).or (nearest? further sought) :=
  List.findSome?_append

theorem nearest?_concat (types : List TypeDecl) (farthest : TypeDecl) (name : String) :
    nearest? (types ++ [farthest]) name =
      (nearest? types name).or
        ((farthest.fields.find? (·.name == name)).map (Prod.mk farthest)) := by
  rw [nearest?_append]
  simp [nearest?]

theorem name_of_nearest? {types : List TypeDecl} {name : String} {first : TypeDecl × FieldDecl}
    (found : nearest? types name = some first) : first.2.name = name := by
  obtain ⟨owner, _, declared⟩ := List.exists_of_findSome?_eq_some found
  obtain ⟨field, inside, rfl⟩ := Option.map_eq_some_iff.mp declared
  simpa using List.find?_some inside

def seen (catalog : Catalog) (settings : Settings) (accessors : List MethodDecl)
    (declared : TypeDecl × FieldDecl) : Field :=
  catalog.fieldOf settings declared.1 accessors false declared.2

def shows (name : String) (field : Field) : Bool := field.name == name && !field.isHidden

theorem find?_behind_of_named {nearer : List TypeDecl} {name : String}
    (named : Named nearer name) (owner : TypeDecl) :
    (behind catalog settings accessors nearer owner).find? (shows name) = none := by
  rw [List.find?_eq_none]
  rintro _ member visible
  obtain ⟨declared, _, rfl⟩ := List.mem_map.mp member
  simp only [shows, Catalog.fieldOf, Bool.and_eq_true, beq_iff_eq] at visible
  simp [visible.1, named] at visible

theorem find?_behind_of_unnamed {nearer : List TypeDecl} {name : String}
    (unnamed : ¬ Named nearer name) (owner : TypeDecl) :
    (behind catalog settings accessors nearer owner).find? (shows name) =
      (owner.fields.find? (·.name == name)).map
        (catalog.fieldOf settings owner accessors false) := by
  rw [behind]
  induction owner.fields with
  | nil => rfl
  | cons declared rest ih =>
    rw [List.map_cons, List.find?_cons, List.find?_cons, ih]
    by_cases same : declared.name = name
    · simp [shows, Catalog.fieldOf, same, unnamed]
    · simp [shows, Catalog.fieldOf, beq_false_of_ne same]

theorem find?_fieldsFrom (owners : List TypeDecl) (name : String) :
    (catalog.fieldsFrom settings accessors owners).find? (shows name) =
      (nearest? owners.reverse name).map (seen catalog settings accessors) := by
  induction owners with
  | nil => rfl
  | cons owner nearer ih =>
    rw [fieldsFrom_cons, List.find?_append, ih, List.reverse_cons, nearest?_concat]
    by_cases named : Named nearer name
    · have found : nearest? nearer.reverse name ≠ none :=
        fun absent => nearest?_eq_none_iff.mp absent (named_reverse_iff.mpr named)
      obtain ⟨first, nearest⟩ := Option.ne_none_iff_exists'.mp found
      rw [find?_behind_of_named named, nearest, Option.none_or, Option.some_or]
    · have absent : nearest? nearer.reverse name = none :=
        nearest?_eq_none_iff.mpr (named_reverse_iff.not.mpr named)
      rw [find?_behind_of_unnamed named, absent, Option.map_none, Option.or_none, Option.none_or,
        Option.map_map]
      rfl

theorem field?_fieldsFrom {profile : Profile} {owners : List TypeDecl}
    (fields : profile.fields = catalog.fieldsFrom settings accessors owners) (name : String) :
    profile.field? name = (nearest? owners.reverse name).map (seen catalog settings accessors) := by
  have visible : profile.fields.find? (fun field => field.name == name && !field.isHidden) =
      (nearest? owners.reverse name).map (seen catalog settings accessors) := by
    rw [fields]
    exact find?_fieldsFrom owners name
  rw [Profile.field?, visible]
  cases found : nearest? owners.reverse name with
  | some first => rfl
  | none =>
    have unnamed := named_reverse_iff.not.mp (nearest?_eq_none_iff.mp found)
    apply List.find?_eq_none.mpr
    intro field member same
    rw [fields] at member
    exact unnamed (beq_iff_eq.mp same ▸ named_of_mem_fieldsFrom member)

def unmarked (field : Field) : Field := { field with isIdentity := false }

theorem unmarked_roleFields (decl : TypeDecl) (fields : List Field) (role : Role) :
    (catalog.roleFields decl fields role).map unmarked = fields.map unmarked := by
  unfold Catalog.roleFields Catalog.markIdentity
  split
  · split
    · rw [List.map_map]
      apply List.map_congr_left
      intro field _
      rw [Function.comp_apply]
      split <;> rfl
    · rfl
  · rfl

theorem unmarked_fieldsFrom (owners : List TypeDecl) :
    (catalog.fieldsFrom settings accessors owners).map unmarked =
      catalog.fieldsFrom settings accessors owners := by
  refine (List.map_congr_left ?_).trans (List.map_id _)
  intro field member
  obtain ⟨_, _, _, _, _, rfl⟩ := Coherence.mem_fieldsFrom member
  rfl

/-- Marks do not change what is found. -/
theorem unmarked_field? (profile : Profile) (name : String) :
    (profile.field? name).map unmarked =
      { profile with fields := profile.fields.map unmarked }.field? name := by
  have visible : (fun field : Field => field.name == name && !field.isHidden) ∘ unmarked =
      fun field => field.name == name && !field.isHidden := rfl
  have sameName : (fun field : Field => field.name == name) ∘ unmarked = (·.name == name) := rfl
  rw [Profile.field?, Profile.field?, List.find?_map, List.find?_map, visible, sameName]
  cases profile.fields.find? fun field => field.name == name && !field.isHidden <;> rfl

/-- A list of fields has those of a line of types, the farthest type first, and shows of a name what
the nearest type declares. -/
structure Layered (catalog : Catalog) (settings : Settings) (accessors : List MethodDecl)
    (types : List TypeDecl) (fields : List Field) : Prop where
  sequence : fields.map (fun field => { field with isHidden := false }) =
    types.reverse.flatMap fun owner =>
      owner.fields.map (catalog.fieldOf settings owner accessors false)
  attributed : fields.map (fun field => (field.declaredBy, field.name)) =
    types.reverse.flatMap fun owner => owner.fields.map fun declared => (owner.name, declared.name)
  hidden : ∀ nearer owner further, types = nearer ++ owner :: further →
    ∀ field ∈ fields, field.declaredBy = owner.name →
      (field.isHidden = true ↔ Named nearer field.name)
  found : ∀ profile : Profile, profile.fields = fields → ∀ name,
    profile.field? name = (nearest? types name).map (seen catalog settings accessors)
  visible : ∀ profile : Profile, profile.fields = fields → ∀ name field,
    profile.field? name = some field → field.name = name ∧ field.isHidden = false
  missing : ∀ profile : Profile, profile.fields = fields → ∀ name,
    profile.field? name = none ↔ ¬ Named types name

theorem layered_fieldsFrom {types : List TypeDecl} (distinct : (types.map (·.name)).Nodup) :
    Layered catalog settings accessors types
      (catalog.fieldsFrom settings accessors types.reverse) := by
  have looked (profile : Profile)
      (carries : profile.fields = catalog.fieldsFrom settings accessors types.reverse)
      (name : String) :
      profile.field? name = (nearest? types name).map (seen catalog settings accessors) := by
    rw [field?_fieldsFrom carries, List.reverse_reverse]
  have sequence := sequence_fieldsFrom catalog settings accessors types.reverse
  constructor
  · exact sequence
  · have entries := congrArg (List.map fun field => (field.declaredBy, field.name)) sequence
    rw [List.map_map, List.map_flatMap] at entries
    simpa [Function.comp_def, Catalog.fieldOf] using entries
  · intro nearer owner further split field member owned
    have reversed : types.reverse = further.reverse ++ owner :: nearer.reverse := by simp [split]
    have apart := List.nodup_reverse.mpr distinct
    rw [← List.map_reverse, reversed] at apart
    rw [reversed] at member
    rw [isHidden_fieldsFrom apart member owned, named_reverse_iff]
  · exact looked
  · intro profile carries name field shown
    rw [looked profile carries] at shown
    obtain ⟨first, nearest, rfl⟩ := Option.map_eq_some_iff.mp shown
    exact ⟨name_of_nearest? nearest, rfl⟩
  · intro profile carries name
    rw [looked profile carries, Option.map_eq_none_iff, nearest?_eq_none_iff]

/-- The fields of a described type are layered along its line of superclasses, and its profile
finds what the list of fields shows, whatever its role. -/
theorem fields_layered (catalog : Catalog) (settings : Settings) (keyed : catalog.WellKeyed)
    (name : String) (decl : TypeDecl) (described : catalog.get? name = some decl) :
    Layered catalog settings (catalog.accessors decl) (hierarchy catalog name)
      (catalog.fieldsOf settings decl) ∧
    ∀ role sought, ((catalog.profileOf settings name decl role).field? sought).map unmarked =
      (nearest? (hierarchy catalog name) sought).map
        (seen catalog settings (catalog.accessors decl)) := by
  have layered : Layered catalog settings (catalog.accessors decl) (hierarchy catalog name)
      (catalog.fieldsOf settings decl) := by
    rw [Catalog.fieldsOf, fieldOwners_eq keyed described]
    exact layered_fieldsFrom (nodup_names_hierarchy keyed name)
  refine ⟨layered, ?_⟩
  intro role sought
  rw [unmarked_field?]
  apply layered.found
  simp only [Catalog.profileOf, unmarked_roleFields]
  exact unmarked_fieldsFrom _

def textField (name : String) : FieldDecl := { name, type := .named "Text" [] }

def refund : TypeDecl :=
  { name := "Refund", superclass := some "Invoice"
    fields := [textField "reason", textField "number"] }

/-- Papers whose superclasses go round in a circle, with a number that each of them declares. -/
def papers : Catalog := .collect [
  { name := "Paper", superclass := some "Refund", fields := [textField "number", textField "title"] },
  { name := "Invoice", superclass := some "Paper", fields := [textField "title", textField "number"] },
  refund]

theorem fields_layered_papers : papers.WellKeyed ∧ papers.get? "Refund" = some refund ∧
    Layered papers .default (papers.accessors refund) (hierarchy papers "Refund")
      (papers.fieldsOf .default refund) ∧
    ((papers.profileOf .default "Refund" refund .entity).field? "title").map unmarked =
      (nearest? (hierarchy papers "Refund") "title").map
        (seen papers .default (papers.accessors refund)) ∧
    (nearest? (hierarchy papers "Refund") "title").map (·.1.name) = some "Invoice" ∧
    (papers.fieldsOf .default refund).map (fun field => (field.declaredBy, field.name, field.isHidden)) =
      [("Paper", "number", true), ("Paper", "title", true), ("Invoice", "title", false),
        ("Invoice", "number", true), ("Refund", "reason", false), ("Refund", "number", false)] := by
  have keyed : papers.WellKeyed := wellKeyed_collect _
  have described : papers.get? "Refund" = some refund := by decide +kernel
  obtain ⟨layered, found⟩ := fields_layered papers .default keyed "Refund" refund described
  exact ⟨keyed, described, layered, found .entity "title", by decide +kernel, by decide +kernel⟩

end DomainAtlas.Proofs.FieldShadowing
