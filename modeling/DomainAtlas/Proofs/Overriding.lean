import DomainAtlas.Firsts
import DomainAtlas.Profiling.Methods
import DomainAtlas.Proofs.Profiling

/-! Methods are gathered in one pass over the declarations, nearest first. A table of places tells a
new signature from one that is taken, and later declarations of a taken one only leave a mark on the
method that has it. So what is gathered is the first method of each signature, and nothing else. -/

namespace DomainAtlas.Proofs.Overriding
open Catalog (Gathering)
open Profiling

/-- A method as it stands among all that were met: marked when it shares its signature. -/
def marked (methods : List Method) (method : Method) : Method :=
  { method with
    overridden := method.overridden ||
      decide (1 < methods.countP fun other => other.signature == method.signature) }

@[simp] theorem signature_marked (methods : List Method) (method : Method) :
    (marked methods method).signature = method.signature := rfl

theorem marked_snoc_of_ne {methods : List Method} {method later : Method}
    (other : later.signature ≠ method.signature) :
    marked (methods ++ [later]) method = marked methods method := by
  simp [marked, other]

theorem marked_snoc_of_eq {methods : List Method} {method later : Method}
    (met : method ∈ methods) (same : later.signature = method.signature) :
    marked (methods ++ [later]) method = { marked methods method with overridden := true } := by
  have before : 0 < methods.countP fun other => other.signature == method.signature :=
    List.countP_pos_iff.mpr ⟨method, met, beq_self_eq_true _⟩
  have twice : 1 < (methods ++ [later]).countP fun other => other.signature == method.signature := by
    simpa [same] using before
  simp only [marked, twice, decide_true, Bool.or_true]

theorem marked_snoc_self {methods : List Method} {method : Method}
    (fresh : method.signature ∉ methods.map Method.signature) :
    marked (methods ++ [method]) method = method := by
  have absent : (methods.countP fun other => other.signature == method.signature) = 0 := by
    rw [List.countP_eq_zero]
    intro other member same
    exact fresh (beq_iff_eq.mp same ▸ List.mem_map_of_mem member)
  simp [marked, absent]

/-- What has been gathered from the methods met so far. The table of places leads from a signature
to the one method that has it. -/
structure Gathered (methods : List Method) (gathering : Gathering) : Prop where
  firsts : gathering.methods = (firstsBy Method.signature methods).map (marked methods)
  places : ∀ signature place, gathering.places.lookup signature = some place ↔
    (gathering.methods[place]?).map Method.signature = some signature

section Step
variable {methods : List Method} {gathering : Gathering}

theorem gathered_nil : Gathered [] {} := by
  constructor
  · rfl
  · simp

theorem Gathered.signatures (gathered : Gathered methods gathering) :
    gathering.methods.map Method.signature = (firstsBy Method.signature methods).map Method.signature := by
  rw [gathered.firsts, List.map_map]
  rfl

theorem Gathered.lookup_eq_none (gathered : Gathered methods gathering) {signature}
    (absent : gathering.places.lookup signature = none) :
    signature ∉ methods.map Method.signature := by
  rw [← mem_map_firstsBy, ← gathered.signatures]
  intro taken
  obtain ⟨place, inside, same⟩ := List.getElem_of_mem taken
  have found : gathering.places.lookup signature = some place := by
    rw [gathered.places, ← List.getElem?_map, List.getElem?_eq_getElem inside, same]
  simp [absent] at found

/-- A method whose signature is taken leaves a mark on the one method that has it. -/
theorem Gathered.mark (gathered : Gathered methods gathering) {method : Method} {place : Nat}
    (taken : gathering.places.lookup method.signature = some place) :
    Gathered (methods ++ [method])
      { gathering with
        methods := gathering.methods.modify place fun nearer => { nearer with overridden := true } } := by
  have owner := (gathered.places _ _).mp taken
  have known : method.signature ∈ methods.map Method.signature := by
    rw [← mem_map_firstsBy, ← gathered.signatures]
    rw [← List.getElem?_map] at owner
    exact List.mem_of_getElem? owner
  constructor
  · apply List.ext_getElem?
    intro index
    rw [firstsBy_concat_of_mem known, List.getElem?_modify, gathered.firsts, List.getElem?_map,
      List.getElem?_map]
    cases inside : (firstsBy Method.signature methods)[index]? with
    | none => rfl
    | some first =>
      have met : first ∈ methods := mem_of_mem_firstsBy (List.mem_of_getElem? inside)
      have owns : (gathering.methods[index]?).map Method.signature = some first.signature := by
        rw [gathered.firsts, List.getElem?_map, inside]
        rfl
      by_cases here : place = index
      · have same : method.signature = first.signature := by
          rw [here, owns] at owner
          exact (Option.some.inj owner).symm
        simp [here, marked_snoc_of_eq met same]
      · have other : method.signature ≠ first.signature := by
          intro same
          rw [← gathered.places, ← same, taken] at owns
          exact here (Option.some.inj owns)
        simp [here, marked_snoc_of_ne other]
  · intro signature index
    rw [gathered.places, List.getElem?_modify]
    cases gathering.methods[index]? with
    | none => rfl
    | some method => by_cases here : place = index <;> simp [here, Method.signature]

/-- A method with a new signature stands behind those gathered before. -/
theorem Gathered.append (gathered : Gathered methods gathering) {method : Method}
    (absent : gathering.places.lookup method.signature = none) :
    Gathered (methods ++ [method])
      { methods := gathering.methods ++ [method]
        places := (method.signature, gathering.methods.length) :: gathering.places } := by
  have fresh := gathered.lookup_eq_none absent
  constructor
  · have kept : (firstsBy Method.signature methods).map (marked (methods ++ [method])) =
        (firstsBy Method.signature methods).map (marked methods) := by
      apply List.map_congr_left
      intro first member
      have met := mem_of_mem_firstsBy member
      exact marked_snoc_of_ne fun same => fresh (same ▸ List.mem_map_of_mem met)
    rw [firstsBy_concat_of_not_mem fresh, List.map_append, kept, gathered.firsts,
      List.map_singleton, marked_snoc_self fresh]
  · -- Only the place behind the others is new, and only the new signature leads there.
    intro signature index
    have before := gathered.places signature index
    have standing : (gathering.methods ++ [method])[index]? =
        if index = gathering.methods.length then some method else gathering.methods[index]? := by
      grind
    rw [List.lookup_cons, standing]
    by_cases last : index = gathering.methods.length
    · have outside : gathering.methods[index]? = none := List.getElem?_eq_none (by omega)
      rw [outside] at before
      by_cases same : signature = method.signature
      · simp [last, same]
      · simpa [last, beq_false_of_ne same, Ne.symm same] using before
    · by_cases same : signature = method.signature
      · simpa [same, absent, last, Ne.symm last] using before
      · simpa [last, beq_false_of_ne same] using before

theorem gathered_add (gathered : Gathered methods gathering) (method : Method) :
    Gathered (methods ++ [method]) (gathering.add method) := by
  unfold Gathering.add
  split
  next taken => exact gathered.mark taken
  next absent => exact gathered.append absent

theorem gathered_addAll (gathered : Gathered methods gathering) (later : List Method) :
    Gathered (methods ++ later) (gathering.addAll later) := by
  induction later generalizing methods gathering with
  | nil => simpa [Gathering.addAll] using gathered
  | cons method later ih =>
    have rest := ih (gathered_add gathered method)
    rwa [List.append_assoc, List.singleton_append] at rest

end Step

theorem methodsOf_eq (catalog : Catalog) (settings : Settings) (decl : TypeDecl) :
    let methods := catalog.declaredMethods settings (catalog.methodOwners decl)
    catalog.methodsOf settings decl = (firstsBy Method.signature methods).map (marked methods) :=
  (gathered_addAll gathered_nil _).firsts

/-- A method of a type is one of those declared, but for the mark. -/
theorem mem_methodsOf {catalog : Catalog} {settings : Settings} {decl : TypeDecl} {method : Method}
    (member : method ∈ catalog.methodsOf settings decl) :
    ∃ declared ∈ catalog.declaredMethods settings (catalog.methodOwners decl), ∃ overridden,
      method = { declared with overridden } := by
  rw [methodsOf_eq] at member
  obtain ⟨declared, first, rfl⟩ := List.mem_map.mp member
  exact ⟨declared, mem_of_mem_firstsBy first, _, rfl⟩

variable {catalog : Catalog} {settings : Settings}

/-- The name of a method with the types of its parameters, as a type declares it. -/
def signatureOf (method : MethodDecl) : String × List String :=
  (method.name, method.params.map (·.type.resolve.text))

structure Declared where
  owner : TypeDecl
  method : MethodDecl

namespace Declared

def signature (declared : Declared) : String × List String := signatureOf declared.method

def build (catalog : Catalog) (settings : Settings) (declared : Declared) : Method :=
  catalog.methodOf settings declared.owner declared.method

theorem signature_build (declared : Declared) :
    (declared.build catalog settings).signature = declared.signature := by
  simp [build, Catalog.methodOf, Catalog.paramOf, Catalog.useOf, Method.signature, signature,
    signatureOf, Function.comp_def]

end Declared

def ownersOf (catalog : Catalog) (name : String) : List TypeDecl :=
  (name :: (catalog.superclasses name ++ catalog.interfaces name)).filterMap catalog.get?

def declarations (catalog : Catalog) (name : String) : List Declared :=
  (ownersOf catalog name).flatMap fun owner => owner.methods.map fun method => ⟨owner, method⟩

theorem declaredMethods_eq (keyed : catalog.WellKeyed) {name : String} {decl : TypeDecl}
    (described : catalog.get? name = some decl) :
    catalog.declaredMethods settings (catalog.methodOwners decl) =
      (declarations catalog name).map (Declared.build catalog settings) := by
  have named : name = decl.name := wellKeyed_iff.mp keyed name decl described
  have owners : catalog.methodOwners decl = ownersOf catalog name := by
    simp [ownersOf, Catalog.methodOwners, Catalog.superclassDecls, Catalog.interfaceDecls, described,
      ← named]
  simp [Catalog.declaredMethods, owners, declarations, List.map_flatMap, Function.comp_def,
    Declared.build]

/-- A list of methods has what is declared, collapsed to the nearest declaration of each
signature. -/
structure Collapsed (catalog : Catalog) (settings : Settings) (declared : List Declared)
    (methods : List Method) : Prop where
  sequence : methods.map (fun method => { method with overridden := false }) =
    (firstsBy Declared.signature declared).map (Declared.build catalog settings)
  once : (methods.map Method.signature).Nodup
  complete : ∀ signature,
    signature ∈ methods.map Method.signature ↔ signature ∈ declared.map Declared.signature
  nearest : ∀ method ∈ methods, ∃ nearer first further,
    declared = nearer ++ first :: further ∧
    (∀ other ∈ nearer, other.signature ≠ first.signature) ∧
    method = { first.build catalog settings with
      overridden := further.any fun other => other.signature == first.signature }

theorem firstsBy_build (catalog : Catalog) (settings : Settings) (declared : List Declared) :
    firstsBy Method.signature (declared.map (Declared.build catalog settings)) =
      (firstsBy Declared.signature declared).map (Declared.build catalog settings) := by
  rw [← map_firstsBy]
  simp only [Declared.signature_build]

/-- Of what is declared a method is marked when its signature is declared again behind it. -/
theorem marked_build {nearer further : List Declared} {first : Declared}
    (unmet : ∀ other ∈ nearer, other.signature ≠ first.signature) :
    marked ((nearer ++ first :: further).map (Declared.build catalog settings))
        (first.build catalog settings) =
      { first.build catalog settings with
        overridden := further.any fun other => other.signature == first.signature } := by
  have before : (nearer.countP fun other => other.signature == first.signature) = 0 := by
    rw [List.countP_eq_zero]
    intro other member
    simpa using unmet other member
  have shared : ((nearer ++ first :: further).map (Declared.build catalog settings)).countP
      (fun other => other.signature == (first.build catalog settings).signature) =
      (further.countP fun other => other.signature == first.signature) + 1 := by
    simp [List.countP_map, Function.comp_def, Declared.signature_build, before]
  have again : decide (1 < (further.countP fun other => other.signature == first.signature) + 1) =
      further.any fun other => other.signature == first.signature := by
    rw [Bool.eq_iff_iff, decide_eq_true_eq, Nat.lt_add_left_iff_pos, List.countP_pos_iff,
      List.any_eq_true]
  rw [marked, shared, again]
  rfl

theorem collapsed (catalog : Catalog) (settings : Settings) (declared : List Declared) :
    let methods := declared.map (Declared.build catalog settings)
    Collapsed catalog settings declared ((firstsBy Method.signature methods).map (marked methods)) := by
  intro methods
  have signatures : ((firstsBy Method.signature methods).map (marked methods)).map Method.signature =
      (firstsBy Declared.signature declared).map Declared.signature := by
    rw [firstsBy_build, List.map_map, List.map_map]
    apply List.map_congr_left
    exact fun first _ => first.signature_build
  refine ⟨?_, ?_, ?_, ?_⟩
  · rw [firstsBy_build, List.map_map, List.map_map]
    rfl
  · rw [signatures]
    exact nodup_map_firstsBy ..
  · intro signature
    rw [signatures, mem_map_firstsBy]
  · intro method member
    rw [firstsBy_build, List.map_map] at member
    obtain ⟨first, isFirst, rfl⟩ := List.mem_map.mp member
    obtain ⟨_, nearer, further, split, unmet⟩ :=
      List.find?_eq_some_iff_append.mp (mem_firstsBy_iff.mp isFirst)
    have unmet : ∀ other ∈ nearer, other.signature ≠ first.signature := by simpa using unmet
    refine ⟨nearer, first, further, split, unmet, ?_⟩
    rw [← marked_build unmet, ← split]
    rfl

/-- A type that is described has the methods that it and the types above it declare, each signature
once and as its nearest declaration has it. -/
theorem methods_collapsed (catalog : Catalog) (settings : Settings) (keyed : catalog.WellKeyed)
    (name : String) (decl : TypeDecl) (described : catalog.get? name = some decl) :
    Collapsed catalog settings (declarations catalog name) (catalog.methodsOf settings decl) := by
  rw [methodsOf_eq, declaredMethods_eq keyed described]
  exact collapsed catalog settings _

def orderService : TypeDecl where
  name := "OrderService"
  superclass := some "BaseService"
  interfaces := ["Audited"]
  methods := [{ name := "close" }, { name := "handle", params := [{ name := "c", type := .plain "Ship" }] }]

/-- Orders are handled by the service and its base, which takes every command of its interface over.
An interface of the service leads back to it. -/
def orders : Catalog := .collect [orderService,
  { name := "BaseService", interfaces := ["Handler"]
    methods := [{ name := "handle", params := [{ name := "c", type := .plain "Order" }] },
      { name := "handle", params := [{ name := "c", type := .plain "Ship" }] }] },
  { name := "Handler"
    methods := [{ name := "handle", params := [{ name := "c", type := .plain "Order" }] }] },
  { name := "Audited", interfaces := ["OrderService"]
    methods := [{ name := "audit" }] }]

theorem methods_collapsed_orders : orders.WellKeyed ∧
    orders.get? "OrderService" = some orderService ∧
    (orders.methodsOf .default orderService).map
        (fun method => (method.name, method.declaredBy, method.overridden)) =
      [("close", "OrderService", true), ("handle", "OrderService", true),
        ("handle", "BaseService", true), ("audit", "Audited", false)] ∧
    Collapsed orders .default (declarations orders "OrderService")
      (orders.methodsOf .default orderService) := by
  have keyed : orders.WellKeyed := wellKeyed_collect _
  have described : orders.get? "OrderService" = some orderService := by decide +kernel
  exact ⟨keyed, described, by decide +kernel,
    methods_collapsed orders .default keyed "OrderService" orderService described⟩

end DomainAtlas.Proofs.Overriding
