import DomainAtlas.Profiling.Profiles
import DomainAtlas.Proofs.Overriding
import DomainAtlas.Proofs.TypeText

/-! The overloads of a method are told apart by the texts of their parameter types. Of a type that is
made of names, arguments and arrays a text leaves out how many dimensions an array has, and nothing
else. So overloads that differ in more than that are all kept, with the events they speak of. -/

namespace DomainAtlas.Proofs.Overloads
open TypeText Overriding

mutual
def Simple : TypeExpr → Prop
  | .named name arguments => PlainName name ∧ AllSimple arguments
  | .array component => Simple component
  | .wildcard .. | .typeVar .. => False

def AllSimple : List TypeExpr → Prop
  | [] => True
  | type :: types => Simple type ∧ AllSimple types
end

def arrayOf : TypeExpr → TypeExpr
  | .array component => .array component
  | type => .array type

mutual
/-- A simple type with one dimension for each of its arrays. -/
def flat : TypeExpr → TypeExpr
  | .named name arguments => .named name (flatAll arguments)
  | .array component => arrayOf (flat component)
  | type => type

def flatAll : List TypeExpr → List TypeExpr
  | [] => []
  | type :: types => flat type :: flatAll types
end

theorem resolve_arrayOf (type : TypeExpr) :
    (arrayOf type).resolve = { type.resolve with isArray := true } := by
  cases type <;> rfl

mutual
theorem resolve_flat : (type : TypeExpr) → (flat type).resolve = type.resolve
  | .named name arguments => by
    rw [flat, TypeExpr.resolve, TypeExpr.resolve, resolveAll_flatAll arguments]
  | .array component => by
    rw [flat, resolve_arrayOf, TypeExpr.resolve, resolve_flat component]
  | .wildcard .. | .typeVar .. => rfl

theorem resolveAll_flatAll : (types : List TypeExpr) →
    TypeExpr.resolveAll (flatAll types) = TypeExpr.resolveAll types
  | [] => rfl
  | type :: types => by
    rw [flatAll, TypeExpr.resolveAll, TypeExpr.resolveAll, resolve_flat type,
      resolveAll_flatAll types]
end

mutual
/-- The flat type that stands for a resolved one. -/
def written : ResolvedType → TypeExpr
  | ⟨name, arguments, _, isArray⟩ =>
    if isArray then .array (.named name (writtenAll arguments))
    else .named name (writtenAll arguments)

def writtenAll : List ResolvedType → List TypeExpr
  | [] => []
  | type :: types => written type :: writtenAll types
end

theorem written_array (type : ResolvedType) :
    written { type with isArray := true } = arrayOf (written type) := by
  obtain ⟨name, arguments, wildcard, isArray⟩ := type
  cases isArray <;> simp [written, arrayOf]

mutual
theorem written_resolve : (type : TypeExpr) → Simple type → written type.resolve = flat type
  | .named name arguments, ⟨_, simple⟩ => by
    rw [flat, ← writtenAll_resolveAll arguments simple]
    simp [TypeExpr.resolve, ResolvedType.ofName, written]
  | .array component, simple => by
    rw [flat, TypeExpr.resolve, written_array, written_resolve component simple]

theorem writtenAll_resolveAll : (types : List TypeExpr) → AllSimple types →
    writtenAll (TypeExpr.resolveAll types) = flatAll types
  | [], _ => rfl
  | type :: types, ⟨first, rest⟩ => by
    rw [TypeExpr.resolveAll, writtenAll, flatAll, written_resolve type first,
      writtenAll_resolveAll types rest]
end

structure Bare (type : ResolvedType) : Prop where
  spelled : Spelled type
  arguments : AllLegible type.arguments
  unbounded : type.wildcard = none

theorem Bare.legible {type : ResolvedType} (bare : Bare type) : Legible type := by
  obtain ⟨name, arguments, wildcard, isArray⟩ := type
  obtain ⟨_, legible, rfl⟩ := bare
  refine ⟨?_, legible⟩
  rintro ⟨upper, _⟩
  cases upper

theorem Bare.array {type : ResolvedType} (bare : Bare type) :
    Bare { type with isArray := true } := by
  obtain ⟨name, arguments, wildcard, isArray⟩ := type
  exact ⟨spelled_mk.mpr (spelled_mk.mp bare.spelled), bare.arguments, bare.unbounded⟩

mutual
theorem bare_resolve : (type : TypeExpr) → Simple type → Bare type.resolve
  | .named name arguments, ⟨plain, simple⟩ => by
    obtain ⟨spelled, legible⟩ := bare_resolveAll arguments simple
    exact ⟨spelled_mk.mpr ⟨plain, spelled⟩, legible, rfl⟩
  | .array component, simple => (bare_resolve component simple).array

theorem bare_resolveAll : (types : List TypeExpr) → AllSimple types →
    AllSpelled (TypeExpr.resolveAll types) ∧ AllLegible (TypeExpr.resolveAll types)
  | [], _ => ⟨nofun, trivial⟩
  | type :: types, ⟨first, rest⟩ => by
    have bare := bare_resolve type first
    obtain ⟨spelled, legible⟩ := bare_resolveAll types rest
    exact ⟨allSpelled_cons.mpr ⟨bare.spelled, spelled⟩, bare.legible, legible⟩
end

/-- Simple types have one text just when they differ in nothing but the dimensions of arrays. -/
theorem text_resolve_eq_iff {first second : TypeExpr} (left : Simple first) (right : Simple second) :
    first.resolve.text = second.resolve.text ↔ flat first = flat second := by
  have bare := bare_resolve first left
  have bare' := bare_resolve second right
  rw [text_eq_iff bare.spelled bare'.spelled, told_of_legible _ bare.legible,
    told_of_legible _ bare'.legible]
  constructor
  · intro same
    rw [← written_resolve first left, same, written_resolve second right]
  · intro same
    rw [← resolve_flat first, same, resolve_flat second]

def flatParams (method : MethodDecl) : List TypeExpr := method.params.map (flat ·.type)

theorem map_eq_iff_of_agree {α β γ : Type} {f : α → β} {g : α → γ} {xs ys : List α}
    (agree : ∀ x ∈ xs, ∀ y ∈ ys, f x = f y ↔ g x = g y) :
    xs.map f = ys.map f ↔ xs.map g = ys.map g := by
  induction xs generalizing ys with
  | nil => simp
  | cons x xs ih =>
    cases ys with
    | nil => simp
    | cons y ys =>
      have first := agree x List.mem_cons_self y List.mem_cons_self
      have rest := ih fun x inside y inside' =>
        agree x (List.mem_cons_of_mem _ inside) y (List.mem_cons_of_mem _ inside')
      simp only [List.map_cons, List.cons.injEq, first, rest]

theorem signatureOf_eq_iff {first second : MethodDecl} (named : first.name = second.name)
    (simple : ∀ param ∈ first.params ++ second.params, Simple param.type) :
    signatureOf first = signatureOf second ↔ flatParams first = flatParams second := by
  simp only [signatureOf, Prod.mk.injEq, named, true_and]
  apply map_eq_iff_of_agree
  intro param inside other inside'
  exact text_resolve_eq_iff (simple param (List.mem_append_left _ inside))
    (simple other (List.mem_append_right _ inside'))

variable {catalog : Catalog} {settings : Settings} {decl : TypeDecl}

/-- A method that a type declares is among the methods of the type, but for the mark, so the type
speaks of the events of the method. -/
structure Kept (catalog : Catalog) (settings : Settings) (decl : TypeDecl) (method : MethodDecl) :
    Prop where
  listed : ∃ overridden, { catalog.methodOf settings decl method with overridden } ∈
    catalog.methodsOf settings decl
  published : ∀ profile : Profile, profile.methods = catalog.methodsOf settings decl →
    ∀ event ∈ method.publishedEvents, profile.publishes event = true
  heard : ∀ profile : Profile, profile.methods = catalog.methodsOf settings decl →
    ∀ event ∈ method.listenedEvent, profile.listensTo event = true

theorem listed_of_first (catalog : Catalog) (settings : Settings) {method : MethodDecl}
    (isFirst : method ∈ firstsBy signatureOf decl.methods) :
    ∃ overridden, { catalog.methodOf settings decl method with overridden } ∈
      catalog.methodsOf settings decl := by
  have signatures : (fun method => (catalog.methodOf settings decl method).signature) =
      signatureOf := funext fun method => Declared.signature_build ⟨decl, method⟩
  have own : catalog.methodOf settings decl method ∈
      firstsBy Method.signature (decl.methods.map (catalog.methodOf settings decl)) := by
    rw [← map_firstsBy, signatures]
    exact List.mem_map_of_mem isFirst
  rw [methodsOf_eq, Catalog.methodOwners, Catalog.declaredMethods, List.flatMap_cons,
    firstsBy_append, List.map_append]
  exact ⟨_, List.mem_append_left _ (List.mem_map_of_mem own)⟩

theorem kept_of_first {method : MethodDecl} (isFirst : method ∈ firstsBy signatureOf decl.methods) :
    Kept catalog settings decl method := by
  obtain ⟨overridden, listed⟩ := listed_of_first catalog settings isFirst
  refine ⟨⟨overridden, listed⟩, ?_, ?_⟩
  · intro profile carries event published
    rw [Profile.publishes, carries]
    exact List.any_eq_true.mpr ⟨_, listed, List.contains_iff_mem.mpr published⟩
  · intro profile carries event heard
    rw [Profile.listensTo, carries]
    exact List.any_eq_true.mpr ⟨_, listed, beq_iff_eq.mpr heard⟩

/-- Of every signature that a type declares, the first method is kept. -/
theorem exists_kept (catalog : Catalog) (settings : Settings) {method : MethodDecl} (declared : method ∈ decl.methods) :
    ∃ kept ∈ decl.methods, signatureOf kept = signatureOf method ∧
      Kept catalog settings decl kept := by
  obtain ⟨kept, isFirst, same⟩ :=
    List.mem_map.mp ((mem_map_firstsBy signatureOf).mpr (List.mem_map_of_mem declared))
  exact ⟨kept, mem_of_mem_firstsBy isFirst, same, kept_of_first isFirst⟩

/-- No third method of the type has the signature of one of the two. -/
def NoThird (decl : TypeDecl) (first second : MethodDecl) : Prop :=
  ∀ other ∈ decl.methods, other ≠ first → other ≠ second →
    signatureOf other ≠ signatureOf first ∧ signatureOf other ≠ signatureOf second

theorem NoThird.kept {first second : MethodDecl} (alone : NoThird decl first second)
    (here : first ∈ decl.methods) (there : second ∈ decl.methods)
    (apart : signatureOf first ≠ signatureOf second) :
    Kept catalog settings decl first ∧ Kept catalog settings decl second := by
  constructor
  · obtain ⟨kept, member, same, isKept⟩ := exists_kept catalog settings here
    by_cases own : kept = first
    · exact own ▸ isKept
    · have notSecond : kept ≠ second := fun equal => apart (equal ▸ same).symm
      exact absurd same (alone kept member own notSecond).1
  · obtain ⟨kept, member, same, isKept⟩ := exists_kept catalog settings there
    by_cases own : kept = second
    · exact own ▸ isKept
    · have notFirst : kept ≠ first := fun equal => apart (equal ▸ same)
      exact absurd same (alone kept member notFirst own).2

/-- Two methods of one name that a type declares with simple parameter types have one signature
just when their types differ in nothing but the dimensions of arrays. If they differ in more, each
signature keeps its first method, which is one of the two unless a third method has it too. -/
theorem overloads_kept (catalog : Catalog) (settings : Settings) (decl : TypeDecl)
    (first second : MethodDecl) (here : first ∈ decl.methods) (there : second ∈ decl.methods)
    (named : first.name = second.name)
    (simple : ∀ param ∈ first.params ++ second.params, Simple param.type) :
    (signatureOf first = signatureOf second ↔ flatParams first = flatParams second) ∧
      (flatParams first ≠ flatParams second →
        (∃ kept ∈ decl.methods, ∃ other ∈ decl.methods, kept ≠ other ∧
          signatureOf kept = signatureOf first ∧ signatureOf other = signatureOf second ∧
          Kept catalog settings decl kept ∧ Kept catalog settings decl other) ∧
        (NoThird decl first second →
          Kept catalog settings decl first ∧ Kept catalog settings decl second)) := by
  have signatures := signatureOf_eq_iff named simple
  refine ⟨signatures, ?_⟩
  intro apart
  have differ : signatureOf first ≠ signatureOf second := fun same => apart (signatures.mp same)
  obtain ⟨kept, inside, same, isKept⟩ := exists_kept catalog settings here
  obtain ⟨other, inside', same', isKept'⟩ := exists_kept catalog settings there
  have distinct : kept ≠ other := by
    rintro rfl
    exact differ (same.symm.trans same')
  exact ⟨⟨kept, inside, other, inside', distinct, same, same', isKept, isKept'⟩,
    fun alone => alone.kept here there differ⟩

def printBytes : MethodDecl where
  name := "print"
  params := [{ name := "bytes", type := .array (.plain "byte") }]
  publishedEvents := ["BytesPrinted"]

def printRows : MethodDecl where
  name := "print"
  params := [{ name := "rows", type := .array (.array (.plain "byte")) }]
  publishedEvents := ["RowsPrinted"]

def printPages : MethodDecl where
  name := "print"
  params := [{ name := "pages", type := .list (.array (.array (.plain "byte"))) }]
  listenedEvent := some "PagesReady"

theorem simple_prints (method : MethodDecl) (isPrint : method ∈ [printBytes, printRows, printPages]) :
    ∀ param ∈ method.params, Simple param.type := by
  have byte : PlainName "byte" := by decide
  have list : PlainName "java.util.List" := by decide
  simp only [List.mem_cons, List.not_mem_nil, or_false] at isPrint
  rcases isPrint with rfl | rfl | rfl <;>
    simp [printBytes, printRows, printPages, Simple, AllSimple, TypeExpr.plain, TypeExpr.list, byte, list]

def printer : TypeDecl where
  name := "Printer"
  methods := [printBytes, printPages]

theorem overloads_kept_printer :
    printBytes ∈ printer.methods ∧ printPages ∈ printer.methods ∧
      printBytes.name = printPages.name ∧
      (∀ param ∈ printBytes.params ++ printPages.params, Simple param.type) ∧
      flatParams printBytes ≠ flatParams printPages ∧ NoThird printer printBytes printPages ∧
      Kept (.collect [printer]) .default printer printBytes ∧
      Kept (.collect [printer]) .default printer printPages := by
  have here : printBytes ∈ printer.methods := by decide
  have there : printPages ∈ printer.methods := by decide
  have simple : ∀ param ∈ printBytes.params ++ printPages.params, Simple param.type := by
    intro param member
    rcases List.mem_append.mp member with bytes | pages
    · exact simple_prints printBytes (by decide) param bytes
    · exact simple_prints printPages (by decide) param pages
  have apart : flatParams printBytes ≠ flatParams printPages := by decide
  have alone : NoThird printer printBytes printPages := by
    unfold NoThird
    decide
  have both := ((overloads_kept (.collect [printer]) .default printer printBytes printPages here there
    rfl simple).2 apart).2 alone
  exact ⟨here, there, rfl, simple, apart, alone, both⟩

/-- A printer of bytes and of rows of bytes loses its rows, and with them the event it publishes. -/
theorem rows_of_printer_lost :
    let rowPrinter : TypeDecl := { name := "Printer", methods := [printBytes, printRows] }
    printBytes.name = printRows.name ∧
      printBytes.params.map (·.type) ≠ printRows.params.map (·.type) ∧
      (∀ param ∈ printBytes.params ++ printRows.params, Simple param.type) ∧
      NoThird rowPrinter printBytes printRows ∧
      ¬ Kept (.collect [rowPrinter]) .default rowPrinter printRows := by
  intro rowPrinter
  have simple : ∀ param ∈ printBytes.params ++ printRows.params, Simple param.type := by
    intro param member
    rcases List.mem_append.mp member with bytes | rows
    · exact simple_prints printBytes (by decide) param bytes
    · exact simple_prints printRows (by decide) param rows
  refine ⟨rfl, by decide, simple, by unfold NoThird; decide, ?_⟩
  rintro ⟨⟨overridden, listed⟩, _, _⟩
  have silent : ∀ method ∈ (Catalog.collect [rowPrinter]).methodsOf .default rowPrinter,
      method.publishedEvents ≠ printRows.publishedEvents := by decide +kernel
  exact silent _ listed rfl

end DomainAtlas.Proofs.Overloads
