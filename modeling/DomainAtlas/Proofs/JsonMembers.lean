import DomainAtlas.Format.Codes
import DomainAtlas.Proofs.JsonText

/-! Members of written objects. A writer puts down each key once and leaves some of them out; a
reader that asks for a key gets what was put down under it, or the default for what was left out. -/

namespace DomainAtlas.Proofs.JsonMembers
open Json JsonText

variable {α : Type} {key : String} {members left right : List (String × Json)}

/-- What is found under a key in two lists of members together: nothing at all when both have it. -/
def beside : Option (Option Json) → Option (Option Json) → Option (Option Json)
  | some none, found | found, some none => found
  | _, _ => none

@[simp] theorem beside_absent_left (found : Option (Option Json)) :
    beside (some none) found = found := by cases found <;> simp [beside]

@[simp] theorem beside_absent_right (found : Option (Option Json)) :
    beside found (some none) = found := by
  rcases found with _ | _ | value <;> simp [beside]

@[simp] theorem find?_nil (key : String) : find? [] key = some none := rfl

@[simp] theorem find?_append (left right : List (String × Json)) (key : String) :
    find? (left ++ right) key = beside (find? left key) (find? right key) := by
  simp only [find?, List.filter_append]
  generalize left.filter (·.1 == key) = inLeft
  generalize right.filter (·.1 == key) = inRight
  rcases inLeft with _ | ⟨first, _ | ⟨second, others⟩⟩ <;>
    rcases inRight with _ | ⟨third, _ | ⟨fourth, more⟩⟩ <;> rfl

@[simp] theorem find?_cons (other : String) (value : Json) (members : List (String × Json))
    (key : String) :
    find? ((other, value) :: members) key =
      beside (some (if other = key then some value else none)) (find? members key) := by
  have first : find? [(other, value)] key = some (if other = key then some value else none) := by
    by_cases same : other = key <;> simp [find?, same]
  rw [← first]
  exact find?_append [(other, value)] members key

@[simp] theorem find?_optional (other : String) (encode : α → Json) (value : Option α)
    (key : String) :
    find? (Json.optional other encode value) key =
      some (if other = key then value.map encode else none) := by
  cases value <;> simp [Json.optional]

def listed (encode : α → Json) : List α → Option Json
  | [] => none
  | values => some (.arr (values.map encode))

@[simp] theorem find?_unlessEmpty (other : String) (encode : α → Json) (values : List α)
    (key : String) :
    find? (unlessEmpty other encode values) key =
      some (if other = key then listed encode values else none) := by
  cases values <;> simp [unlessEmpty, listed]

def readOrElse (fallback : α) (decode : Json → Option α) : Option Json → Option α
  | none => some fallback
  | some value => decode value

def readNullable (decode : Json → Option α) : Option Json → Option (Option α)
  | none | some .null => some none
  | some value => do return some (← decode value)

variable {decode : Json → Option α}

attribute [simp] requiredText textOrNull flagOrFalse listOrEmpty textsOrEmpty

@[simp] theorem required_eq (decode : Json → Option α) (members : List (String × Json)) (key : String) :
    required decode members key = (find? members key).bind fun found => found.bind decode := rfl

@[simp] theorem orElse_eq (fallback : α) (decode : Json → Option α) (members : List (String × Json))
    (key : String) :
    orElse fallback decode members key = (find? members key).bind (readOrElse fallback decode) := by
  unfold orElse
  cases find? members key with
  | none => rfl
  | some found => cases found <;> rfl

@[simp] theorem nullable_eq (decode : Json → Option α) (members : List (String × Json)) (key : String) :
    nullable decode members key = (find? members key).bind (readNullable decode) := by
  unfold nullable
  cases find? members key with
  | none => rfl
  | some found =>
    cases found with
    | none => rfl
    | some value => cases value <;> rfl

@[simp] theorem readOrElse_some (fallback : α) (value : Json) :
    readOrElse fallback decode (some value) = decode value := rfl

/-- A value that was put down or left out is read back, unless its decoder takes null for a
value. -/
theorem readNullable_map {encode : α → Json} {value : Option α}
    (refuses : decode .null = none) (reads : ∀ part ∈ value, decode (encode part) = some part) :
    readNullable decode (value.map encode) = some value := by
  cases value with
  | none => rfl
  | some part =>
    have read := reads part rfl
    cases written : encode part with
    | null =>
      rw [written, refuses] at read
      cases read
    | bool | num | str | arr | obj | void =>
      rw [written] at read
      simp [readNullable, written, read]

@[simp] theorem list?_map {encode : α → Json} {values : List α}
    (reads : ∀ value ∈ values, decode (encode value) = some value) :
    list? decode (.arr (values.map encode)) = some values := by
  induction values with
  | nil => rfl
  | cons value values ih =>
    obtain ⟨first, rest⟩ := List.forall_mem_cons.mp reads
    have read := ih rest
    simp only [list?] at read ⊢
    simp [List.mapM_cons, first, read]

@[simp] theorem readOrElse_listed {encode : α → Json} {values : List α}
    (reads : ∀ value ∈ values, decode (encode value) = some value) :
    readOrElse [] (list? decode) (listed encode values) = some values := by
  cases values with
  | nil => rfl
  | cons value values => exact list?_map reads

@[simp] theorem text?_str (text : String) : text? (.str text) = some text := rfl

@[simp] theorem readNullable_text (text : Option String) :
    readNullable text? (text.map .str) = some text := readNullable_map rfl fun _ _ => rfl

@[simp] theorem readOrElse_listed_text (texts : List String) :
    readOrElse [] texts? (listed .str texts) = some texts := readOrElse_listed fun _ _ => rfl

@[simp] theorem flag?_bool (value : Bool) : flag? (.bool value) = some value := rfl

@[simp] theorem texts?_ofStrings (texts : List String) : texts? (.ofStrings texts) = some texts :=
  list?_map fun _ _ => rfl

@[simp] theorem members?_obj (members : List (String × Json)) :
    (Json.obj members).members? = some members := rfl

def PlainMembers (members : List (String × Json)) : Prop := ∀ member ∈ members, Plain member.2

@[simp] theorem plainMembers_nil : PlainMembers [] := fun _ member => nomatch member

@[simp] theorem plainMembers_cons {member : String × Json} :
    PlainMembers (member :: members) ↔ Plain member.2 ∧ PlainMembers members :=
  List.forall_mem_cons

@[simp] theorem plainMembers_append :
    PlainMembers (left ++ right) ↔ PlainMembers left ∧ PlainMembers right :=
  List.forall_mem_append

@[simp] theorem plain_obj_iff : Plain (.obj members) ↔ PlainMembers members := by
  constructor
  · intro plain
    cases plain
    assumption
  · exact .obj

@[simp] theorem plain_str (text : String) : Plain (.str text) := .str text

@[simp] theorem plain_bool (value : Bool) : Plain (.bool value) := .bool value

@[simp] theorem plain_map {encode : α → Json} {values : List α}
    (plain : ∀ value ∈ values, Plain (encode value)) : Plain (.arr (values.map encode)) := by
  refine .arr ?_
  intro item member
  obtain ⟨value, inside, rfl⟩ := List.mem_map.mp member
  exact plain value inside

@[simp] theorem plain_ofStrings (texts : List String) : Plain (.ofStrings texts) :=
  plain_map fun text _ => .str text

@[simp] theorem plainMembers_optional {encode : α → Json} {value : Option α}
    (plain : ∀ part ∈ value, Plain (encode part)) :
    PlainMembers (Json.optional key encode value) := by
  cases value with
  | none => exact plainMembers_nil
  | some part => exact plainMembers_cons.mpr ⟨plain part rfl, plainMembers_nil⟩

@[simp] theorem plainMembers_unlessEmpty {encode : α → Json} {values : List α}
    (plain : ∀ value ∈ values, Plain (encode value)) :
    PlainMembers (unlessEmpty key encode values) := by
  cases values with
  | nil => exact plainMembers_nil
  | cons value values => exact plainMembers_cons.mpr ⟨plain_map plain, plainMembers_nil⟩

theorem itemsAreWhole_iff {items : List Json} :
    itemsAreWhole items = true ↔ ∀ item ∈ items, item.isWhole = true := by
  induction items with
  | nil => simp [itemsAreWhole]
  | cons item items ih => simp [itemsAreWhole, ih]

theorem membersAreWhole_iff {members : List (String × Json)} :
    membersAreWhole members = true ↔ ∀ member ∈ members, member.2.isWhole = true := by
  induction members with
  | nil => simp [membersAreWhole]
  | cons member members ih => simp [membersAreWhole, ih]

theorem isWhole_of_plain {json : Json} (plain : Plain json) : json.isWhole = true := by
  induction plain with
  | null | bool | str => simp [isWhole]
  | arr _ ih =>
    rw [isWhole]
    exact itemsAreWhole_iff.mpr ih
  | obj _ ih =>
    rw [isWhole]
    exact membersAreWhole_iff.mpr ih

theorem depth_lt_arr {item : Json} {items : List Json} (member : item ∈ items) :
    item.depth < (Json.arr items).depth := by
  rw [depth, Nat.lt_succ_iff]
  induction items with
  | nil => cases member
  | cons first items ih =>
    rw [itemsDepth]
    rcases List.mem_cons.mp member with rfl | later
    · exact Nat.le_max_left _ _
    · exact Nat.le_trans (ih later) (Nat.le_max_right _ _)

theorem depth_lt_obj {name : String} {value : Json} (member : (name, value) ∈ members) :
    value.depth < (Json.obj members).depth := by
  rw [depth, Nat.lt_succ_iff]
  induction members with
  | nil => cases member
  | cons first members ih =>
    rw [membersDepth]
    rcases List.mem_cons.mp member with rfl | later
    · exact Nat.le_max_left _ _
    · exact Nat.le_trans (ih later) (Nat.le_max_right _ _)

theorem mem_unlessEmpty {encode : α → Json} {values : List α} {value : α}
    (member : value ∈ values) :
    (key, .arr (values.map encode)) ∈ unlessEmpty key encode values := by
  cases values with
  | nil => cases member
  | cons first values => exact List.mem_cons_self

/-- A listed value stands two levels below the object that holds the list. -/
theorem depth_le_of_listed {encode : α → Json} {values : List α} {value : α}
    (member : value ∈ values) (held : (key, .arr (values.map encode)) ∈ members) {level : Nat}
    (fits : (Json.obj members).depth ≤ level + 1) : (encode value).depth ≤ level := by
  have inList : (encode value).depth < (Json.arr (values.map encode)).depth :=
    depth_lt_arr (List.mem_map_of_mem member)
  have inObject : (Json.arr (values.map encode)).depth < (Json.obj members).depth :=
    depth_lt_obj held
  omega

end DomainAtlas.Proofs.JsonMembers
