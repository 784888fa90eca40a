import DomainAtlas.Fault
import DomainAtlas.Firsts
import DomainAtlas.NameMap
import DomainAtlas.Profile.Basic

/-! Domain models: profiles by type name, in the order in which the names came in, with the
packages of the bounded contexts. Profiles refer to each other by name, and every question is
answered from what the model holds at the time. -/

namespace DomainAtlas

structure Model where
  types : NameMap Profile
  /-- The packages of the bounded contexts. -/
  packages : List String
  settings : Settings
  keyed : ∀ entry ∈ types.entries, entry.1 = entry.2.typeName
  packages_nodup : packages.Nodup
  deriving DecidableEq

/-- A profile that is known to have a role. -/
def View (role : Role) : Type := { profile : Profile // profile.role = role }

namespace View

variable {role : Role}

def profile (view : View role) : Profile := view.val

def typeName (view : View role) : String := view.profile.typeName

instance : DecidableEq (View role) := inferInstanceAs (DecidableEq { _profile // _ })

end View

def Profile.as? (profile : Profile) (role : Role) : Option (View role) :=
  if same : profile.role = role then some ⟨profile, same⟩ else none

namespace Model

private theorem mem_put {name : String} {value : Profile} {entries : List (String × Profile)}
    {entry : String × Profile} (mem : entry ∈ NameMap.put name value entries) :
    entry = (name, value) ∨ entry ∈ entries := by
  induction entries with
  | nil => simpa [NameMap.put] using mem
  | cons first rest ih =>
    obtain ⟨key, old⟩ := first
    rw [NameMap.put] at mem
    split at mem <;> grind

def empty (packages : List String) (settings : Settings) : Model where
  types := .empty
  packages := distinct packages
  settings
  keyed := by simp [NameMap.empty]
  packages_nodup := nodup_distinct packages

/-- Adds a profile under its type name, in the place of the one with that name if there is one. -/
def insert (model : Model) (profile : Profile) : Model where
  types := model.types.insert profile.typeName profile
  packages := model.packages
  settings := model.settings
  keyed entry mem := by
    rcases mem_put mem with rfl | old
    · rfl
    · exact model.keyed entry old
  packages_nodup := model.packages_nodup

def remove (model : Model) (name : String) : Model where
  types := model.types.erase name
  packages := model.packages
  settings := model.settings
  keyed entry mem := model.keyed entry (List.mem_filter.mp mem).1
  packages_nodup := model.packages_nodup

/-- The model of the given profiles, whatever their keys: each goes under its own type name, and
a later one takes the place of an earlier one. Packages count once. -/
def assemble (types : NameMap Profile) (packages : List String) (settings : Settings) : Model :=
  types.values.foldl insert (empty packages settings)

def names (model : Model) : List String := model.types.names

def profiles (model : Model) : List Profile := model.types.values

def size (model : Model) : Nat := model.types.size

def isEmpty (model : Model) : Bool := model.types.isEmpty

def contains (model : Model) (name : String) : Bool := model.types.contains name

def get? (model : Model) (name : String) : Option Profile := model.types.get? name

def ofTag (model : Model) (tag : Tag) : List Profile :=
  model.profiles.filter fun profile => some profile.role == tag

def views (model : Model) (role : Role) : List (View role) := model.profiles.filterMap (·.as? role)

def lookup (model : Model) (role : Role) (name : String) : Except Fault (View role) :=
  match model.get? name with
  | none => .error (.notFound role name)
  | some profile =>
    match profile.as? role with
    | none => .error (.wrongRole role profile.role name)
    | some view => .ok view

/-- The view of a type that another type refers to. -/
def resolve (model : Model) (role : Role) (referencing referenced : String) :
    Except Fault (View role) :=
  (model.lookup role referenced).mapError fun _ => .dangling referencing referenced role

/-- The views of all the types that another type refers to; the first that is missing decides. -/
def resolveAll (model : Model) (role : Role) (referencing : String) (referenced : List String) :
    Except Fault (List (View role)) :=
  referenced.mapM (model.resolve role referencing)

def supertype? (model : Model) (profile : Profile) : Option Profile :=
  profile.superclasses.findSome? model.get?

def subtypes (model : Model) (profile : Profile) : List Profile :=
  model.profiles.filter fun other =>
    other.typeName != profile.typeName && other.isAssignable profile.typeName

end Model

end DomainAtlas
