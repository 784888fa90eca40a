import DomainAtlas.Catalog.Basic
import DomainAtlas.NameMap.Remaining

/-! The supertypes of a type. Hierarchies may be cyclic or incomplete, so every search marks the
names it has met, and names without a declaration lead nowhere. -/

namespace DomainAtlas.Catalog

/-- The superclasses above a declaration, nearest first, up to the first name already seen. -/
def superclassesFrom (catalog : Catalog) (seen : List String) (decl : TypeDecl) : List String :=
  match decl.superclass with
  | none => []
  | some name =>
    if _fresh : name ∈ seen then []
    else
      name ::
        match _found : catalog.get? name with
        | none => []
        | some above => superclassesFrom catalog (name :: seen) above
termination_by catalog.types.remaining (fun _ => 1) seen
decreasing_by
  have := NameMap.remaining_cons_of_get? _found (fun _ => 1) _fresh
  omega

def superclasses (catalog : Catalog) (name : String) : List String :=
  match catalog.get? name with
  | none => []
  | some decl => superclassesFrom catalog [name] decl

def supertypes (catalog : Catalog) (name : String) : List String :=
  match catalog.get? name with
  | none => []
  | some decl => decl.supertypes

/-- The names that a breadth-first search meets from a queue of names, without those already
visited. -/
def breadthFirst (catalog : Catalog) (visited queue : List String) : List String :=
  match queue with
  | [] => []
  | name :: rest =>
    if _fresh : name ∈ visited then breadthFirst catalog visited rest
    else name :: breadthFirst catalog (name :: visited) (rest ++ catalog.supertypes name)
termination_by queue.length + catalog.types.remaining (·.supertypes.length) visited
decreasing_by
  · simp
  · unfold supertypes
    split
    · next absent =>
      have := NameMap.remaining_cons_of_absent absent (·.supertypes.length) visited
      simp
      omega
    · next found =>
      have := NameMap.remaining_cons_of_get? found (·.supertypes.length) _fresh
      simp
      omega

def declaredInterfaces (catalog : Catalog) (name : String) : List String :=
  match catalog.get? name with
  | none => []
  | some decl => decl.interfaces

/-- The interfaces of each owner in turn, each one where it is met first. -/
def interfacesOfAll (catalog : Catalog) (visited : List String) : List String → List String
  | [] => []
  | owner :: owners =>
    let found := catalog.breadthFirst visited (catalog.declaredInterfaces owner)
    found ++ catalog.interfacesOfAll (found ++ visited) owners

/-- The interfaces of a type: its own before those of its superclasses, each with the names above
it. -/
def interfaces (catalog : Catalog) (name : String) : List String :=
  catalog.interfacesOfAll [] (name :: catalog.superclasses name)

def isAssignable (catalog : Catalog) (name ancestor : String) : Bool :=
  name == ancestor || (catalog.superclasses name).contains ancestor
    || (catalog.interfaces name).contains ancestor

/-- The roles claimed by the names on a stack and by all names above them. -/
def claimedAbove (catalog : Catalog) (visited stack : List String) : List Role :=
  match stack with
  | [] => []
  | name :: rest =>
    if _fresh : name ∈ visited then claimedAbove catalog visited rest
    else
      match _found : catalog.get? name with
      | none => claimedAbove catalog (name :: visited) rest
      | some decl =>
        decl.roles ++ claimedAbove catalog (name :: visited) (decl.supertypes ++ rest)
termination_by stack.length + catalog.types.remaining (·.supertypes.length) visited
decreasing_by
  · simp
  · have := NameMap.remaining_cons_of_absent _found (·.supertypes.length) visited
    simp
    omega
  · have := NameMap.remaining_cons_of_get? _found (·.supertypes.length) _fresh
    simp
    omega

def rolesOf (catalog : Catalog) (name : String) : List Role :=
  let claimed := catalog.claimedAbove [] [name]
  Role.all.filter (claimed.contains ·)

/-- The classification of a type. A name without a declaration is outside the domain. -/
def tagOf (catalog : Catalog) (name : String) : Tag :=
  if catalog.contains name then classify (catalog.rolesOf name) else none

def superclassDecls (catalog : Catalog) (name : String) : List TypeDecl :=
  (catalog.superclasses name).filterMap catalog.get?

def interfaceDecls (catalog : Catalog) (name : String) : List TypeDecl :=
  (catalog.interfaces name).filterMap catalog.get?

end DomainAtlas.Catalog
