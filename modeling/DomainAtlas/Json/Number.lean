/-! Numbers in JSON text: how one is written, and which are too large for a double. -/

namespace DomainAtlas.Json

def isNumeric (c : Char) : Bool :=
  ('0' ≤ c && c ≤ '9') || c == '-' || c == '+' || c == '.' || c == 'e' || c == 'E'

def isDigit (c : Char) : Bool := '0' ≤ c && c ≤ '9'

def isDigits (cs : List Char) : Bool := !cs.isEmpty && cs.all isDigit

def isExponent : List Char → Bool
  | [] => true
  | 'e' :: '+' :: digits | 'e' :: '-' :: digits | 'E' :: '+' :: digits | 'E' :: '-' :: digits =>
    isDigits digits
  | 'e' :: digits | 'E' :: digits => isDigits digits
  | _ => false

def isFraction : List Char → Bool
  | '.' :: rest => isDigits (rest.takeWhile isDigit) && isExponent (rest.dropWhile isDigit)
  | rest => isExponent rest

def isNatural : List Char → Bool
  | '0' :: rest => isFraction rest
  | c :: rest => isDigit c && isFraction (rest.dropWhile isDigit)
  | [] => false

/-- Whether a text is one number: a sign or none, no needless zero in front, and digits on both
sides of the point. -/
def isNumber : List Char → Bool
  | '-' :: rest => isNatural rest
  | rest => isNatural rest

def digitValue (digit : Char) : Nat := digit.toNat - '0'.toNat

def naturalValue (digits : List Char) : Nat :=
  digits.foldl (fun n digit => 10 * n + digitValue digit) 0

/-- A number with digits written after it, for as long as it stays below 2^64, and the digits that
are left over. -/
def extend (n : Nat) : List Char → Nat × List Char
  | [] => (n, [])
  | digit :: digits =>
    if 10 * n + digitValue digit < Nat.pow 2 64 then extend (10 * n + digitValue digit) digits
    else (n, digit :: digits)

/-- The value of an exponent with the letter before it. -/
def exponentValue : List Char → Int
  | _ :: '-' :: digits => -naturalValue digits
  | _ :: '+' :: digits => naturalValue digits
  | _ :: digits => naturalValue digits
  | [] => 0

/-- A number without its sign as some digits, kept below 2^64, and a power of ten. Digits that are
left over count as zeros before the point, and for nothing after it. -/
def scientific (digits : List Char) : Nat × Int :=
  let whole := digits.takeWhile isDigit
  let (fraction, exponent) :=
    match digits.dropWhile isDigit with
    | '.' :: rest => (rest.takeWhile isDigit, rest.dropWhile isDigit)
    | rest => ([], rest)
  let (leading, zeros) := extend 0 whole
  let (value, unused) := extend leading fraction
  (value, exponentValue exponent + zeros.length - (fraction.length - unused.length : Nat))

/-- The nearest number with at most 53 binary digits before its trailing zeros. Of two that are
equally near, it is the one whose 53rd digit is 0. -/
def round53 (n : Nat) : Nat :=
  let unit := Nat.pow 2 (n.log2 - 52)
  let below := n / unit
  let rest := n % unit
  (if 2 * rest < unit || (2 * rest == unit && below % 2 == 0) then below else below + 1) * unit

/-- Where doubles end: halfway between the largest of them and the next power of two. -/
def doubleBound : Nat := Nat.pow 2 1024 - Nat.pow 2 970

/-- Whether a number is within the range of doubles. Its digits and its power of ten are rounded
each on its own and then multiplied. -/
def fitsDouble (literal : List Char) : Bool :=
  let (value, exponent) := scientific (literal.dropWhile (· == '-'))
  value == 0 ||
    (exponent ≤ 308 && round53 value * round53 (Nat.pow 10 exponent.toNat) < doubleBound)

end DomainAtlas.Json
