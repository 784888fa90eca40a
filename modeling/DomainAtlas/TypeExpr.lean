/-! Declared types: the expressions that declare the type of a field, a parameter or a result. -/

namespace DomainAtlas

inductive Direction where
  | upper
  | lower
  deriving DecidableEq, Repr

inductive TypeExpr where
  | named (name : String) (arguments : List TypeExpr)
  | array (component : TypeExpr)
  | wildcard (direction : Direction) (bounds : List TypeExpr)
  | typeVar (name : String) (bounds : List TypeExpr)
  deriving Repr, Inhabited

namespace TypeExpr

mutual
def decEq : (a b : TypeExpr) → Decidable (a = b)
  | named n as, named m bs =>
    match decEqList as bs with
    | isTrue same => if h : n = m then isTrue (by rw [h, same]) else isFalse (by simp [h])
    | isFalse differ => isFalse (by simp [differ])
  | array a, array b =>
    match decEq a b with
    | isTrue same => isTrue (by rw [same])
    | isFalse differ => isFalse (by simp [differ])
  | wildcard d as, wildcard e bs =>
    match decEqList as bs with
    | isTrue same => if h : d = e then isTrue (by rw [h, same]) else isFalse (by simp [h])
    | isFalse differ => isFalse (by simp [differ])
  | typeVar n as, typeVar m bs =>
    match decEqList as bs with
    | isTrue same => if h : n = m then isTrue (by rw [h, same]) else isFalse (by simp [h])
    | isFalse differ => isFalse (by simp [differ])
  | named .., array .. | named .., wildcard .. | named .., typeVar ..
  | array .., named .. | array .., wildcard .. | array .., typeVar ..
  | wildcard .., named .. | wildcard .., array .. | wildcard .., typeVar ..
  | typeVar .., named .. | typeVar .., array .. | typeVar .., wildcard .. =>
    isFalse (by simp)

def decEqList : (as bs : List TypeExpr) → Decidable (as = bs)
  | [], [] => isTrue rfl
  | a :: as, b :: bs =>
    match decEq a b, decEqList as bs with
    | isTrue same, isTrue rest => isTrue (by rw [same, rest])
    | isFalse differ, _ => isFalse (by simp [differ])
    | _, isFalse differ => isFalse (by simp [differ])
  | [], _ :: _ | _ :: _, [] => isFalse (by simp)
end

instance : DecidableEq TypeExpr := decEq

def plain (name : String) : TypeExpr := named name []

def any : TypeExpr := wildcard .upper []

def anyBelow (bound : TypeExpr) : TypeExpr := wildcard .upper [bound]

def anyAbove (bound : TypeExpr) : TypeExpr := wildcard .lower [bound]

def optional (element : TypeExpr) : TypeExpr := named "java.util.Optional" [element]

def list (element : TypeExpr) : TypeExpr := named "java.util.List" [element]

def set (element : TypeExpr) : TypeExpr := named "java.util.Set" [element]

end TypeExpr

end DomainAtlas
