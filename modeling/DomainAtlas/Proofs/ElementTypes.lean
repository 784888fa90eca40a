import DomainAtlas.Profiling.TypeUse

/-! A declared type is walked twice: once as a whole, when it is resolved, and once from the outside
in, when an optional and a container are taken off to name the element. Both walks come to the same
place. A type variable ends the second walk: it resolves to its bound, but nothing is taken off it,
so it is used as its bound is just where the bound has nothing to take off. -/

namespace DomainAtlas.Proofs.ElementTypes

variable {catalog : Catalog} {names : ContainerNames}

mutual
/-- The arrays around the name of a type. A wildcard or a type variable is taken for its first
bound. -/
def arrayLayers : TypeExpr → Nat
  | .named .. => 0
  | .array component => arrayLayers component + 1
  | .wildcard _ bounds | .typeVar _ bounds => firstLayers bounds

def firstLayers : List TypeExpr → Nat
  | [] => 0
  | bound :: _ => arrayLayers bound
end

def arrayName (name : String) : Nat → String
  | 0 => name
  | layers + 1 => arrayName name layers ++ "[]"

/-- An element is named after what it resolves to, with a pair of brackets for each array. -/
theorem elementName_eq : (type : TypeExpr) →
    type.elementName = arrayName type.resolve.name (arrayLayers type)
  | .named .. => rfl
  | .array component => by
    rw [TypeExpr.elementName, elementName_eq component, TypeExpr.resolve, arrayLayers, arrayName]
  | .wildcard _ [] | .typeVar _ [] => rfl
  | .wildcard _ (bound :: _) | .typeVar _ (bound :: _) => elementName_eq bound

def typeArguments : TypeExpr → List TypeExpr
  | .named _ arguments => arguments
  | _ => []

def componentOf : TypeExpr → TypeExpr
  | .array component => component
  | type => type

theorem head?_arguments_resolve (name : String) (arguments : List TypeExpr) :
    (TypeExpr.named name arguments).resolve.arguments.head? =
      arguments.head?.map TypeExpr.resolve := by
  cases arguments <;> rfl

theorem headD_arguments_resolve (name : String) (arguments : List TypeExpr) (type : TypeExpr) :
    (TypeExpr.named name arguments).resolve.arguments.headD type.resolve =
      (arguments.headD type).resolve := by
  cases arguments <;> rfl

theorem optionalElement?_eq_some {type inner : TypeExpr}
    (optional : catalog.optionalElement? names type = some inner) :
    (typeArguments type).head? = some inner ∧
      type.resolve.arguments.head? = some inner.resolve := by
  cases type with
  | named name arguments =>
    have first : arguments.head? = some inner := by
      rw [Catalog.optionalElement?] at optional
      split at optional
      · exact optional
      · cases optional
    rw [head?_arguments_resolve, first]
    exact ⟨first, rfl⟩
  | array _ => cases optional
  | wildcard _ _ => cases optional
  | typeVar _ _ => cases optional

def namedContainers : List Container := [.list, .set, .stream, .collection]

theorem containerOf_named (catalog : Catalog) (names : ContainerNames) (name : String) :
    catalog.containerOf names name = .none ∨ catalog.containerOf names name ∈ namedContainers := by
  dsimp only [Catalog.containerOf]
  repeat' split
  all_goals decide

/-- All that can be taken off a type as its container. -/
theorem unwrap_cases (catalog : Catalog) (names : ContainerNames) (type : TypeExpr) :
    catalog.unwrap names type = (.none, none, type) ∨
    (∃ component, type = .array component ∧
      catalog.unwrap names type = (.array, none, component)) ∨
    ∃ name arguments, type = .named name arguments ∧ ∃ container ∈ namedContainers,
      catalog.unwrap names type = (container, some name, arguments.headD type) := by
  cases type with
  | named name arguments =>
    rcases containerOf_named catalog names name with bare | contained
    · exact .inl (by rw [Catalog.unwrap, bare])
    · refine .inr (.inr ⟨name, arguments, rfl, _, contained, ?_⟩)
      rw [Catalog.unwrap]
      split
      next bare => simp [bare, namedContainers] at contained
      next => rfl
  | array component => exact .inr (.inl ⟨component, rfl, rfl⟩)
  | wildcard _ _ => exact .inl rfl
  | typeVar _ _ => exact .inl rfl

/-- What a use leaves of its declared type when an optional is taken off. -/
def inner? (use : TypeUse) (type : TypeExpr) : Option TypeExpr :=
  if use.isOptional then (typeArguments type).head? else some type

/-- What it leaves when a container is taken off too. A container without an argument stays. -/
def element (use : TypeUse) (inner : TypeExpr) : TypeExpr :=
  if use.container ∈ namedContainers then (typeArguments inner).headD inner
  else if use.container = .array then componentOf inner else inner

def innerNode? (use : TypeUse) : Option ResolvedType :=
  if use.isOptional then use.resolved.arguments.head? else some use.resolved

/-- The node behind a container as well. An array has no node of its own. -/
def elementNode (use : TypeUse) (inner : ResolvedType) : ResolvedType :=
  if use.container ∈ namedContainers then inner.arguments.headD inner else inner

/-- A use says of its declared type what the resolved type has in the same place. -/
structure Unwrapped (catalog : Catalog) (type : TypeExpr) (use : TypeUse) : Prop where
  classified : use.tag = catalog.tagOf use.typeName
  named : use.containerName.isSome = true ↔ use.container ∈ namedContainers
  placed : ∃ inner node, inner? use type = some inner ∧ innerNode? use = some node ∧
    (∀ name, use.containerName = some name → name = node.name) ∧
    use.typeName = arrayName (elementNode use node).name (arrayLayers (element use inner))

variable {type inner : TypeExpr} {assertions containerAssertions : List Assertion} {use : TypeUse}

theorem placed_useOf (made : catalog.useOf names type assertions containerAssertions = use)
    (inside : (catalog.optionalElement? names type).getD type = inner) :
    inner? use type = some inner ∧ innerNode? use = some inner.resolve := by
  have resolved : use.resolved = type.resolve := made ▸ rfl
  have optionality : use.isOptional = (catalog.optionalElement? names type).isSome := made ▸ rfl
  rw [inner?, innerNode?, optionality, resolved, ← inside]
  cases optional : catalog.optionalElement? names type with
  | none => exact ⟨rfl, rfl⟩
  | some inner => exact optionalElement?_eq_some optional

theorem unwrapped_useOf (made : catalog.useOf names type assertions containerAssertions = use)
    (inside : (catalog.optionalElement? names type).getD type = inner)
    {container : Container} {containerName : Option String} {last : TypeExpr}
    (unwrapped : catalog.unwrap names inner = (container, containerName, last)) :
    use.container = container ∧ use.containerName = containerName ∧
      use.typeName = last.elementName := by
  subst made
  simp only [Catalog.useOf, inside, unwrapped, and_self]

/-- The element that a use names stands where the resolved type has it. -/
theorem unwrapping_agrees (catalog : Catalog) (names : ContainerNames) (type : TypeExpr)
    (assertions containerAssertions : List Assertion) :
    Unwrapped catalog type (catalog.useOf names type assertions containerAssertions) := by
  generalize made : catalog.useOf names type assertions containerAssertions = use
  generalize inside : (catalog.optionalElement? names type).getD type = inner
  have classified : use.tag = catalog.tagOf use.typeName := made ▸ rfl
  obtain ⟨taken, opened⟩ := placed_useOf made inside
  rcases unwrap_cases catalog names inner with bare | ⟨component, rfl, array⟩ |
    ⟨name, arguments, rfl, kind, named, wrapped⟩
  · obtain ⟨container, unnamed, elementName⟩ := unwrapped_useOf made inside bare
    refine ⟨classified, by simp [container, unnamed, namedContainers], _, _, taken, opened, ?_, ?_⟩
    · simp [unnamed]
    · simp [elementName, elementName_eq, elementNode, element, container, namedContainers]
  · obtain ⟨container, unnamed, elementName⟩ := unwrapped_useOf made inside array
    refine ⟨classified, by simp [container, unnamed, namedContainers], _, _, taken, opened, ?_, ?_⟩
    · simp [unnamed]
    · simp [elementName, elementName_eq, elementNode, element, container, namedContainers,
        componentOf, TypeExpr.resolve]
  · obtain ⟨container, containerName, elementName⟩ := unwrapped_useOf made inside wrapped
    have contained : use.container ∈ namedContainers := container ▸ named
    refine ⟨classified, by simp [contained, containerName], _, _, taken, opened, ?_, ?_⟩
    · simp [containerName, TypeExpr.resolve, ResolvedType.ofName]
    · rw [elementName, elementName_eq, elementNode, if_pos contained, headD_arguments_resolve,
        element, if_pos contained, typeArguments]

/-- The list goes by its name in the resolved type and the array by its mark, so the element needs
brackets that its node does not have in its name. -/
example : (Catalog.empty.useOf .default (.optional (.list (.array (.plain "Book"))))).typeName =
    "Book[]" := by decide +kernel

/-- A type variable stands for its first bound and, when that is a variable too, for what that one
stands for. -/
inductive StandsFor : TypeExpr → TypeExpr → Prop where
  | bound (name : String) (bound : TypeExpr) (others : List TypeExpr) :
    StandsFor (.typeVar name (bound :: others)) bound
  | further (name : String) {bound type : TypeExpr} (others : List TypeExpr)
    (stands : StandsFor bound type) : StandsFor (.typeVar name (bound :: others)) type

theorem StandsFor.resolve_eq {first last : TypeExpr} (stands : StandsFor first last) :
    first.resolve = last.resolve := by
  induction stands with
  | bound => rfl
  | further _ _ _ ih => exact ih

theorem StandsFor.elementName_eq {first last : TypeExpr} (stands : StandsFor first last) :
    first.elementName = last.elementName := by
  induction stands with
  | bound => rfl
  | further _ _ _ ih => exact ih

def bareUse (catalog : Catalog) (type : TypeExpr)
    (assertions containerAssertions : List Assertion) : TypeUse :=
  { typeName := type.elementName, tag := catalog.tagOf type.elementName, assertions,
    containerAssertions, resolved := type.resolve }

theorem StandsFor.useOf_eq {first last : TypeExpr} (stands : StandsFor first last)
    (catalog : Catalog) (names : ContainerNames) (assertions containerAssertions : List Assertion) :
    catalog.useOf names first assertions containerAssertions =
      bareUse catalog last assertions containerAssertions := by
  have taken : catalog.useOf names first assertions containerAssertions =
      bareUse catalog first assertions containerAssertions := by
    cases stands <;> rfl
  rw [taken, bareUse, stands.resolve_eq, stands.elementName_eq, bareUse]

theorem useOf_eq_bareUse_iff (catalog : Catalog) (names : ContainerNames) (type : TypeExpr)
    (assertions containerAssertions : List Assertion) :
    catalog.useOf names type assertions containerAssertions =
        bareUse catalog type assertions containerAssertions ↔
      (catalog.useOf names type assertions containerAssertions).isContained = false := by
  constructor
  · intro bare
    rw [bare]
    rfl
  · generalize made : catalog.useOf names type assertions containerAssertions = use
    intro bare
    simp only [TypeUse.isContained, Container.isMultiValued, Bool.or_eq_false_iff,
      bne_eq_false_iff_eq] at bare
    obtain ⟨notOptional, notContained⟩ := bare
    have whole : catalog.optionalElement? names type = none := by
      rw [← made] at notOptional
      exact Option.isSome_eq_false_iff.mp notOptional |> Option.isNone_iff_eq_none.mp
    have inside : (catalog.optionalElement? names type).getD type = type := by rw [whole]; rfl
    rcases unwrap_cases catalog names type with unwrapped | ⟨component, _, array⟩ |
      ⟨name, arguments, _, kind, named, wrapped⟩
    · rw [← made, Catalog.useOf, inside, unwrapped, whole]
      rfl
    · rw [(unwrapped_useOf made inside array).1] at notContained
      cases notContained
    · rw [(unwrapped_useOf made inside wrapped).1] at notContained
      subst notContained
      simp [namedContainers] at named

/-- How a type variable is used, beside the use of the type that it stands for. -/
structure UsedAsBound (bound : TypeExpr) (asVariable asBound : TypeUse) : Prop where
  resolved : asVariable.resolved = asBound.resolved
  bare : asVariable.isContained = false
  element : asVariable.typeName = arrayName asBound.resolved.name (arrayLayers bound)
  same : asVariable = asBound ↔ asBound.isContained = false

/-- A type variable resolves to the type it stands for, but nothing is taken off it: it is used as
that type is just when the type is no optional and no container. -/
theorem variable_used_as_bound (catalog : Catalog) (names : ContainerNames) {first bound : TypeExpr}
    (stands : StandsFor first bound) (assertions containerAssertions : List Assertion) :
    UsedAsBound bound (catalog.useOf names first assertions containerAssertions)
      (catalog.useOf names bound assertions containerAssertions) := by
  have asVariable := stands.useOf_eq catalog names assertions containerAssertions
  constructor
  · exact stands.resolve_eq
  · rw [asVariable]
    rfl
  · rw [asVariable]
    exact elementName_eq bound
  · rw [asVariable, eq_comm]
    exact useOf_eq_bareUse_iff ..

def library : Catalog := .collect [{ name := "Book", roles := [.entity] }]

theorem variable_used_as_bound_book :
    StandsFor (.typeVar "T" [.typeVar "U" [.plain "Book"]]) (.plain "Book") ∧
    library.useOf .default (.typeVar "T" [.typeVar "U" [.plain "Book"]]) =
      library.useOf .default (.plain "Book") ∧
    (library.useOf .default (.typeVar "T" [.typeVar "U" [.plain "Book"]])).tag = some .entity := by
  have stands : StandsFor (.typeVar "T" [.typeVar "U" [.plain "Book"]]) (.plain "Book") :=
    .further "T" [] (.bound "U" (.plain "Book") [])
  have used := variable_used_as_bound library .default stands [] []
  exact ⟨stands, used.same.mpr (by decide +kernel), by decide +kernel⟩

/-- The list that a type variable stands for is taken for the element, and the books in it are not
seen. -/
theorem books_of_variable_lost :
    library.useOf .default (.typeVar "T" [.list (.plain "Book")]) ≠
      library.useOf .default (.list (.plain "Book")) ∧
    (library.useOf .default (.typeVar "T" [.list (.plain "Book")])).typeName = "java.util.List" ∧
    (library.useOf .default (.typeVar "T" [.list (.plain "Book")])).tag = none ∧
    (library.useOf .default (.list (.plain "Book"))).typeName = "Book" ∧
    (library.useOf .default (.list (.plain "Book"))).tag = some .entity := by
  decide +kernel

end DomainAtlas.Proofs.ElementTypes
