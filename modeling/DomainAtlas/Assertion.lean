/-! Assertions declared on fields, parameters and their containers. -/

namespace DomainAtlas

inductive AssertionRule where
  | isNull
  | isNotNull
  | isTrue
  | isFalse
  | isEmpty
  | isNotEmpty
  | isNotBlank
  | hasLength
  | hasMaxLength
  | hasMinLength
  | hasSize
  | hasMaxSize
  | hasMinSize
  | isInRange
  | isGreaterOrEqual
  | isLessOrEqual
  | isPositive
  | isNegative
  | isPast
  | isFuture
  | regEx
  | isValidEmail
  deriving DecidableEq, Repr

namespace AssertionRule

def limitsSize : AssertionRule → Bool
  | hasLength | hasMaxLength | hasMinLength | hasSize | hasMaxSize | hasMinSize => true
  | _ => false

def limitsPresence : AssertionRule → Bool
  | isNull | isNotNull => true
  | _ => false

end AssertionRule

structure Assertion where
  rule : AssertionRule
  param1 : Option String := none
  param2 : Option String := none
  message : Option String := none
  deriving DecidableEq, Repr

/-- The assertion with the parameters that are given. The second parameter is the upper end of a
range and says nothing without the first. -/
def Assertion.ofParams (rule : AssertionRule) : (param1 param2 : Option String) → Assertion
  | some low, some high => ⟨rule, some low, some high, none⟩
  | some only, none => ⟨rule, some only, none, none⟩
  | none, _ => ⟨rule, none, none, none⟩

end DomainAtlas
