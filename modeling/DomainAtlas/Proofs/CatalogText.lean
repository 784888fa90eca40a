import DomainAtlas.Format.Declarations
import DomainAtlas.Proofs.JsonMembers

/-! Catalogs are read back. A declared type is told by its kind and then by the members of that kind,
so kinds may share keys; what a declaration leaves out is what its reader takes for a default. -/

namespace DomainAtlas.Proofs.CatalogText
open Json JsonText JsonMembers

@[simp] theorem assertion_read (assertion : Assertion) :
    Assertion.ofJson? assertion.toJson = some assertion := by
  simp [Assertion.ofJson?, Assertion.toJson]

@[simp] theorem assertion_plain (assertion : Assertion) : Plain assertion.toJson := by
  simp [Assertion.toJson, AssertionRule.toJson]

private theorem exprItems_eq (types : List TypeExpr) :
    TypeExpr.itemsToJson types = types.map TypeExpr.toJson := by
  induction types with
  | nil => rfl
  | cons type types ih => rw [TypeExpr.itemsToJson, List.map_cons, ih]

private theorem exprList_eq (key : String) (types : List TypeExpr) :
    TypeExpr.listToJson key types = unlessEmpty key TypeExpr.toJson types := by
  cases types with
  | nil => rfl
  | cons type types => simp [TypeExpr.listToJson, unlessEmpty, exprItems_eq]

def Named (kind? : Json → Option String) : Prop := ∀ name, kind? (.str name) = some name

theorem named_text? : Named text? := fun _ => rfl

theorem named_innerKind? : Named TypeExpr.innerKind? := fun _ => rfl

@[simp] theorem directionOfJson?_toJson (direction : Direction) :
    TypeExpr.directionOfJson? direction.toJson = some direction := Direction.ofJson?_toJson direction

private theorem listed_fits {key : String} {members : List (String × Json)} {types : List TypeExpr}
    {level : Nat}
    (fits : (Json.obj (members ++ unlessEmpty key TypeExpr.toJson types)).depth ≤ level + 1) :
    ∀ type ∈ types, type.toJson.depth ≤ level := by
  intro type member
  exact depth_le_of_listed member (List.mem_append_right _ (mem_unlessEmpty member)) fits

mutual
/-- A type is read back by a reader that goes as deep as the type does. -/
theorem typeExpr_readWithin {kind? : Json → Option String} (named : Named kind?) :
    (type : TypeExpr) → {level : Nat} → type.toJson.depth ≤ level →
      TypeExpr.ofJsonWithin? kind? level type.toJson = some type
  | type, 0, fits => by
    cases type <;> simp [TypeExpr.toJson, depth] at fits
  | .named name arguments, level + 1, fits => by
    rw [TypeExpr.toJson, exprList_eq] at fits ⊢
    have read := typeExprs_readWithin arguments (listed_fits fits)
    simp [TypeExpr.ofJsonWithin?, named _, readOrElse_listed read]
  | .array component, level + 1, fits => by
    rw [TypeExpr.toJson] at fits ⊢
    have held : ("component", component.toJson) ∈
        [("kind", Json.str "array"), ("component", component.toJson)] := by simp
    have inside := depth_lt_obj held
    have fitsInside : component.toJson.depth ≤ level := by omega
    have read := typeExpr_readWithin named_innerKind? component fitsInside
    simp [TypeExpr.ofJsonWithin?, named _, read]
  | .wildcard direction bounds, level + 1, fits => by
    rw [TypeExpr.toJson, exprList_eq] at fits ⊢
    have read := typeExprs_readWithin bounds (listed_fits fits)
    simp [TypeExpr.ofJsonWithin?, named _, readOrElse_listed read]
  | .typeVar name bounds, level + 1, fits => by
    rw [TypeExpr.toJson, exprList_eq] at fits ⊢
    have read := typeExprs_readWithin bounds (listed_fits fits)
    simp [TypeExpr.ofJsonWithin?, named _, readOrElse_listed read]

theorem typeExprs_readWithin : (types : List TypeExpr) → {level : Nat} →
    (∀ type ∈ types, type.toJson.depth ≤ level) → ∀ type ∈ types,
      TypeExpr.ofJsonWithin? TypeExpr.innerKind? level type.toJson = some type
  | [], _, _ => nofun
  | type :: types, level, fits => by
    obtain ⟨first, rest⟩ := List.forall_mem_cons.mp fits
    exact List.forall_mem_cons.mpr
      ⟨typeExpr_readWithin named_innerKind? type first, typeExprs_readWithin types rest⟩
end

mutual
@[simp] theorem typeExpr_plain : (type : TypeExpr) → Plain type.toJson
  | .named name arguments => by
    have plain := typeExprs_plain arguments
    simp [TypeExpr.toJson, exprList_eq, plainMembers_unlessEmpty plain]
  | .array component => by
    have plain := typeExpr_plain component
    simp [TypeExpr.toJson, plain]
  | .wildcard direction bounds => by
    have plain := typeExprs_plain bounds
    simp [TypeExpr.toJson, exprList_eq, Direction.toJson, plainMembers_unlessEmpty plain]
  | .typeVar name bounds => by
    have plain := typeExprs_plain bounds
    simp [TypeExpr.toJson, exprList_eq, plainMembers_unlessEmpty plain]

theorem typeExprs_plain : (types : List TypeExpr) → ∀ type ∈ types, Plain type.toJson
  | [] => nofun
  | type :: types =>
    List.forall_mem_cons.mpr ⟨typeExpr_plain type, typeExprs_plain types⟩
end

@[simp] theorem typeExpr_read (type : TypeExpr) : TypeExpr.ofJson? type.toJson = some type := by
  rw [TypeExpr.ofJson?, if_pos (isWhole_of_plain (typeExpr_plain type))]
  exact typeExpr_readWithin named_text? type (Nat.le_refl _)

@[simp] theorem fieldDecl_read (field : FieldDecl) :
    FieldDecl.ofJson? field.toJson = some field := by
  -- The members come first: left to `simp`, every read of a member would open all later reads.
  rw [FieldDecl.ofJson?, FieldDecl.toJson, members?_obj, Option.bind_eq_bind, Option.bind_some]
  simp

@[simp] theorem fieldDecl_plain (field : FieldDecl) : Plain field.toJson := by
  simp [FieldDecl.toJson, Access.toJson]

@[simp] theorem paramDecl_read (param : ParamDecl) :
    ParamDecl.ofJson? param.toJson = some param := by
  simp [ParamDecl.ofJson?, ParamDecl.toJson]

@[simp] theorem paramDecl_plain (param : ParamDecl) : Plain param.toJson := by
  simp [ParamDecl.toJson]

@[simp] theorem methodDecl_read (method : MethodDecl) :
    MethodDecl.ofJson? method.toJson = some method := by
  have result : readNullable TypeExpr.ofJson? (method.result.map TypeExpr.toJson) =
      some method.result := readNullable_map rfl fun type _ => typeExpr_read type
  rw [MethodDecl.ofJson?, MethodDecl.toJson, members?_obj, Option.bind_eq_bind, Option.bind_some]
  simp [result]

@[simp] theorem methodDecl_plain (method : MethodDecl) : Plain method.toJson := by
  simp [MethodDecl.toJson, Access.toJson]

@[simp] theorem typeDecl_read (decl : TypeDecl) : TypeDecl.ofJson? decl.toJson = some decl := by
  rw [TypeDecl.ofJson?, TypeDecl.toJson, members?_obj, Option.bind_eq_bind, Option.bind_some]
  simp

@[simp] theorem typeDecl_plain (decl : TypeDecl) : Plain decl.toJson := by
  have roles : ∀ role ∈ decl.roles, Plain role.toJson := fun role _ => plain_str role.code
  simp [TypeDecl.toJson, plain_map roles]

section Maps
variable {α : Type} {encode : α → Json} {decode : Json → Option α}

@[simp] theorem map_read (reads : ∀ value, decode (encode value) = some value) (map : NameMap α) :
    NameMap.ofJson? decode (map.toJson encode) = some map := by
  have entries (list : List (String × α)) :
      (list.map fun entry => (entry.1, encode entry.2)).mapM (fun member =>
        (decode member.2).bind fun value => some (member.1, value)) = some list := by
    induction list with
    | nil => rfl
    | cons entry list ih => simp [List.mapM_cons, reads, ih]
  simp [NameMap.ofJson?, NameMap.toJson, entries, NameMap.ofList_entries]

@[simp] theorem map_plain (plain : ∀ value, Plain (encode value)) (map : NameMap α) :
    Plain (map.toJson encode) := by
  refine .obj ?_
  intro member inside
  obtain ⟨entry, _, rfl⟩ := List.mem_map.mp inside
  exact plain entry.2

end Maps

theorem catalog_read (catalog : Catalog) : Catalog.ofJson? catalog.toJson = some catalog := by
  simp [Catalog.ofJson?, Catalog.toJson]

theorem catalog_plain (catalog : Catalog) : Plain catalog.toJson := map_plain typeDecl_plain _

/-- A catalog that is written down is read back as it was, each declaration in its place and under
the name it was stored under, unless it nests deeper than any reader goes. -/
theorem catalog_read_back (catalog : Catalog) (fits : catalog.toJson.depth ≤ nestingLimit) :
    Catalog.ofText? catalog.toText = some catalog ∧
      Catalog.ofText? catalog.toJson.pretty = some catalog := by
  have plain := catalog_plain catalog
  have compact := read?_compact plain fits
  have pretty := read?_pretty plain fits
  constructor
  · simp [Catalog.ofText?, Catalog.toText, compact, catalog_read]
  · simp [Catalog.ofText?, pretty, catalog_read]

/-- A catalog in which a shelf, stored under another name than its own, lends anything that can be
read: types of every kind, what may be left out both given and missing, and a name in quotes. -/
def lending : Catalog where
  types := .ofList [
    ("Draft", {
      name := "\"Shelf\""
      roles := [.entity, .aggregateRoot]
      superclass := some "Furniture"
      fields := [
        { name := "titles", type := .list (.anyBelow (.plain "Title")), isVersion := true
          assertions := [{ rule := .hasMaxSize, param1 := some "7\n" }] },
        { name := "rows", type := .array (.array .any), access := .heirs }]
      methods := [{
        name := "lend"
        params := [{ name := "item", type := .typeVar "T" [.plain "Readable", .anyAbove .any] }]
        result := some (.typeVar "T" [])
        listenedEvent := some "Returned" }] }),
    ("Title", { name := "Title" })]

theorem lending_read_back : lending.toJson.depth ≤ nestingLimit ∧
    Catalog.ofText? lending.toText = some lending := by
  have fits : lending.toJson.depth ≤ nestingLimit := by decide +kernel
  exact ⟨fits, (catalog_read_back lending fits).1⟩

end DomainAtlas.Proofs.CatalogText
