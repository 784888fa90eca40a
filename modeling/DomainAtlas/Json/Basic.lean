/-! JSON values. The members of an object keep their order and may repeat a key; a number keeps
the text it was written with. A text may also hold values that can only be passed over. -/

namespace DomainAtlas

inductive Json where
  | null
  | bool (value : Bool)
  | num (literal : List Char)
  | str (text : String)
  | arr (items : List Json)
  | obj (members : List (String × Json))
  /-- A value that is well written but cannot be used: a number too large for a double, a string
  in which half of a pair stands alone, an object with such a key, or whatever nests too deep. -/
  | void
  deriving Repr, Inhabited

namespace Json

mutual
/-- How many arrays and objects stand one inside another. -/
def depth : Json → Nat
  | arr items => itemsDepth items + 1
  | obj members => membersDepth members + 1
  | _ => 0

def itemsDepth : List Json → Nat
  | [] => 0
  | item :: items => max item.depth (itemsDepth items)

def membersDepth : List (String × Json) → Nat
  | [] => 0
  | (_, value) :: members => max value.depth (membersDepth members)
end

mutual
def isWhole : Json → Bool
  | arr items => itemsAreWhole items
  | obj members => membersAreWhole members
  | void => false
  | _ => true

def itemsAreWhole : List Json → Bool
  | [] => true
  | item :: items => item.isWhole && itemsAreWhole items

def membersAreWhole : List (String × Json) → Bool
  | [] => true
  | (_, value) :: members => value.isWhole && membersAreWhole members
end

mutual
/-- The value with every array and object made void that nests deeper than a number of levels. -/
def within (level : Nat) : Json → Json
  | arr items => if level = 0 then void else arr (itemsWithin (level - 1) items)
  | obj members => if level = 0 then void else obj (membersWithin (level - 1) members)
  | null => null
  | bool value => bool value
  | num literal => num literal
  | str text => str text
  | void => void

def itemsWithin (level : Nat) : List Json → List Json
  | [] => []
  | item :: items => item.within level :: itemsWithin level items

def membersWithin (level : Nat) : List (String × Json) → List (String × Json)
  | [] => []
  | (key, value) :: members => (key, value.within level) :: membersWithin level members
end

mutual
theorem within_of_depth_le {level : Nat} : (json : Json) → json.depth ≤ level →
    json.within level = json
  | arr items, fits => by
    rw [depth] at fits
    rw [within, if_neg (by omega), itemsWithin_of_depth_le items (by omega)]
  | obj members, fits => by
    rw [depth] at fits
    rw [within, if_neg (by omega), membersWithin_of_depth_le members (by omega)]
  | null, _ | bool _, _ | num _, _ | str _, _ | void, _ => by rw [within]

theorem itemsWithin_of_depth_le {level : Nat} : (items : List Json) → itemsDepth items ≤ level →
    itemsWithin level items = items
  | [], _ => by rw [itemsWithin]
  | item :: items, fits => by
    rw [itemsDepth] at fits
    rw [itemsWithin, within_of_depth_le item (by omega),
      itemsWithin_of_depth_le items (by omega)]

theorem membersWithin_of_depth_le {level : Nat} : (members : List (String × Json)) →
    membersDepth members ≤ level → membersWithin level members = members
  | [], _ => by rw [membersWithin]
  | (_, value) :: members, fits => by
    rw [membersDepth] at fits
    rw [membersWithin, within_of_depth_le value (by omega),
      membersWithin_of_depth_le members (by omega)]
end

def ofStrings (texts : List String) : Json := arr (texts.map str)

end Json

end DomainAtlas
