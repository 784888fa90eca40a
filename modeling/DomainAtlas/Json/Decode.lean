import DomainAtlas.Json.Basic
import DomainAtlas.Json.Number

/-! Taking values out of JSON. An object may hold members that nobody asks for, void ones too; a
member that is asked for must not stand in it twice. -/

namespace DomainAtlas.Json

variable {α : Type}

def text? : Json → Option String
  | str text => some text
  | _ => none

def flag? : Json → Option Bool
  | bool value => some value
  | _ => none

/-- A name that stands for a plain value: a text, or the only key of an object, over null. -/
def name? : Json → Option String
  | str text => some text
  | obj [(key, null)] => some key
  | _ => none

/-- A place in a list, counted from 0 and written with digits alone. -/
def index? : Json → Option Nat
  | num literal => if isDigits literal then some (naturalValue literal) else none
  | _ => none

def list? (decode : Json → Option α) : Json → Option (List α)
  | arr items => items.mapM decode
  | _ => none

def texts? : Json → Option (List String) := list? text?

def members? : Json → Option (List (String × Json))
  | obj members => some members
  | _ => none

/-- The value of a key, if it has one; nothing at all when the key is repeated. -/
def find? (members : List (String × Json)) (key : String) : Option (Option Json) :=
  match members.filter (·.1 == key) with
  | [] => some none
  | [(_, value)] => some (some value)
  | _ => none

def required (decode : Json → Option α) (members : List (String × Json)) (key : String) :
    Option α := do
  decode (← (← find? members key))

def orElse (fallback : α) (decode : Json → Option α) (members : List (String × Json))
    (key : String) : Option α := do
  match ← find? members key with
  | none => some fallback
  | some value => decode value

def nullable (decode : Json → Option α) (members : List (String × Json)) (key : String) :
    Option (Option α) := do
  match ← find? members key with
  | none | some null => some none
  | some value => some (← decode value)

def requiredText := required text?
def textOrNull := nullable text?
def flagOrFalse := orElse false flag?
def listOrEmpty (decode : Json → Option α) := orElse [] (list? decode)
def textsOrEmpty := orElse [] texts?

/-- The member that is left out when there is no value. -/
def optional (key : String) (encode : α → Json) : Option α → List (String × Json)
  | none => []
  | some value => [(key, encode value)]

/-- The member that is left out when the list is empty. -/
def unlessEmpty (key : String) (encode : α → Json) : List α → List (String × Json)
  | [] => []
  | values => [(key, arr (values.map encode))]

end DomainAtlas.Json
