import DomainAtlas.Text.Case

/-! Settings: how accessors are named, which types are containers, and how a command is matched
to the methods that process it. -/

namespace DomainAtlas

/-- Whether a method processes just the commands of its parameter's type, or those of the
subclasses of that type too. -/
inductive CommandMatching where
  | exact
  | inheritanceAware
  deriving DecidableEq, Repr

structure ContainerNames where
  optionals : List String
  lists : List String
  sets : List String
  collections : List String
  streams : List String
  deriving DecidableEq, Repr

def ContainerNames.default : ContainerNames where
  optionals := ["java.util.Optional"]
  lists :=
    ["java.util.List", "java.util.ArrayList", "java.util.LinkedList",
      "java.util.concurrent.CopyOnWriteArrayList"]
  sets :=
    ["java.util.Set", "java.util.HashSet", "java.util.LinkedHashSet", "java.util.SortedSet",
      "java.util.NavigableSet", "java.util.TreeSet", "java.util.EnumSet"]
  collections :=
    ["java.util.Collection", "java.lang.Iterable", "java.util.Queue", "java.util.Deque",
      "java.util.ArrayDeque"]
  streams := ["java.util.stream.Stream"]

structure Settings where
  commandMatching : CommandMatching
  containers : ContainerNames
  getterPrefixes : List String
  setterPrefix : String
  /-- Whether an accessor's name goes on in upper case after its prefix. -/
  capitalizedAccessors : Bool
  deriving DecidableEq, Repr

namespace Settings

def default : Settings where
  commandMatching := .exact
  containers := .default
  getterPrefixes := ["get", "is"]
  setterPrefix := "set"
  capitalizedAccessors := true

/-- What an accessor's name goes on with after the prefix `lead`. A bare prefix is no accessor. -/
def accessorTail (settings : Settings) (lead name : String) : Option (List Char) :=
  match lead.toList.isPrefixOf? name.toList with
  | some (c :: rest) =>
    if !settings.capitalizedAccessors || Text.isUppercase c then some (c :: rest) else none
  | _ => none

def isGetterName (settings : Settings) (name : String) : Bool :=
  settings.getterPrefixes.any fun lead => (settings.accessorTail lead name).isSome

def isSetterName (settings : Settings) (name : String) : Bool :=
  (settings.accessorTail settings.setterPrefix name).isSome

/-- The property that an accessor stands for: the rest of its name after the first prefix that
fits, getter prefixes before the setter prefix, with its first letter in lower case. -/
def property? (settings : Settings) (name : String) : Option String :=
  ((settings.getterPrefixes ++ [settings.setterPrefix]).findSome?
    (settings.accessorTail · name)).map (String.ofList <| Text.decapitalize ·)

end Settings

end DomainAtlas
