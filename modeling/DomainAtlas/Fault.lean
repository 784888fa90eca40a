import DomainAtlas.Role

/-! What can go wrong, and how it is told. -/

namespace DomainAtlas

inductive Defect where
  | blankName
  | duplicate (typeName : String)
  | undescribed (typeName : String)
  | other (reason : String)
  deriving DecidableEq, Repr

inductive Fault where
  | notInitialized
  | notFound (expected : Tag) (typeName : String)
  | wrongRole (expected actual : Tag) (typeName : String)
  | dangling (referencing referenced : String) (expected : Tag)
  | invalid (defect : Defect)
  | factory (reason : String)
  | unreadable (reason : String)
  deriving DecidableEq, Repr

def Defect.message : Defect → String
  | blankName => "type name must not be empty"
  | duplicate typeName => "duplicate descriptor for " ++ typeName
  | undescribed typeName => "no descriptor for " ++ typeName
  | other reason => reason

namespace Fault

def message : Fault → String
  | notInitialized => "Domain mirrors not initialized: call initialize() before querying"
  | notFound expected typeName =>
    "No " ++ Tag.title expected ++ " mirror found for type " ++ typeName
  | wrongRole expected actual typeName =>
    "Type " ++ typeName ++ " is mirrored as " ++ Tag.title actual ++ ", expected "
      ++ Tag.title expected
  | dangling referencing referenced expected =>
    referencing ++ " references " ++ Tag.title expected ++ " " ++ referenced
      ++ ", which is not part of the domain model"
  | invalid defect => "Invalid descriptor: " ++ defect.message
  | factory reason => "Mirror factory error: " ++ reason
  | unreadable reason => "Serialization error: " ++ reason

/-- The type asked for is absent or has another role. -/
def isMissing : Fault → Bool
  | notFound _ _ | wrongRole _ _ _ => true
  | _ => false

def isUninitialized : Fault → Bool
  | notInitialized => true
  | _ => false

def isDangling : Fault → Bool
  | dangling _ _ _ => true
  | _ => false

end Fault

end DomainAtlas
