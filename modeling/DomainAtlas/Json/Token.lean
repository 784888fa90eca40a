import DomainAtlas.Json.Basic
import DomainAtlas.Json.Number

/-! The tokens of JSON text: how each is written, and how a text is cut into them. White space
stands between tokens and nowhere else. -/

namespace DomainAtlas.Json

inductive Token where
  | openArr
  | closeArr
  | openObj
  | closeObj
  | comma
  | colon
  | null
  | bool (value : Bool)
  | num (literal : List Char)
  | str (text : String)
  /-- A number or a string that is well written but cannot be used. -/
  | void
  deriving DecidableEq, Repr

def hexDigit (n : Nat) : Char := "0123456789abcdef".toList.getD n '0'

def hexValue? (c : Char) : Option Nat :=
  if '0' ≤ c && c ≤ '9' then some (c.toNat - '0'.toNat)
  else if 'a' ≤ c && c ≤ 'f' then some (c.toNat - 'a'.toNat + 10)
  else if 'A' ≤ c && c ≤ 'F' then some (c.toNat - 'A'.toNat + 10)
  else none

def unit? (a b c d : Char) : Option Nat := do
  return ((← hexValue? a) * 16 + (← hexValue? b)) * 256 + ((← hexValue? c) * 16 + (← hexValue? d))

/-- Only the quote, the backslash and the characters below the space are escaped. -/
def escape (c : Char) : List Char :=
  match c with
  | '"' => ['\\', '"']
  | '\\' => ['\\', '\\']
  | '\n' => ['\\', 'n']
  | '\r' => ['\\', 'r']
  | '\t' => ['\\', 't']
  | '\x08' => ['\\', 'b']
  | '\x0c' => ['\\', 'f']
  | c => if c < ' ' then ['\\', 'u', '0', '0', hexDigit (c.toNat / 16), hexDigit (c.toNat % 16)]
    else [c]

def escapeText (cs : List Char) : List Char := cs.flatMap escape

def unescape? : Char → Option Char
  | '"' => some '"'
  | '\\' => some '\\'
  | '/' => some '/'
  | 'b' => some '\x08'
  | 'f' => some '\x0c'
  | 'n' => some '\n'
  | 'r' => some '\r'
  | 't' => some '\t'
  | _ => none

/-- A character of a written string, or one of the units of 16 bits that an escape gives. -/
inductive Piece where
  | char (c : Char)
  | unit (n : Nat)

/-- What stands up to the closing quote, and what follows the quote. A character below the space
is refused. -/
def scanString : List Char → Option (List Piece × List Char)
  | '"' :: rest => some ([], rest)
  | '\\' :: 'u' :: a :: b :: c :: d :: rest => do
    let unit ← unit? a b c d
    let (pieces, after) ← scanString rest
    some (.unit unit :: pieces, after)
  | '\\' :: c :: rest => do
    let plain ← unescape? c
    let (pieces, after) ← scanString rest
    some (.char plain :: pieces, after)
  | c :: rest =>
    if c < ' ' then none
    else do
      let (pieces, after) ← scanString rest
      some (.char c :: pieces, after)
  | [] => none

theorem length_of_scanString {cs after : List Char} {pieces : List Piece}
    (scanned : scanString cs = some (pieces, after)) : after.length < cs.length := by
  fun_induction scanString cs generalizing pieces after <;>
    simp_all [Option.bind] <;> grind

def isHighHalf (unit : Nat) : Bool := 0xD800 ≤ unit && unit < 0xDC00
def isLowHalf (unit : Nat) : Bool := 0xDC00 ≤ unit && unit < 0xE000

/-- The character that two halves of a pair stand for together. -/
def joinHalves (high low : Nat) : Char :=
  Char.ofNat (0x10000 + (high - 0xD800) * 0x400 + (low - 0xDC00))

/-- The character of a unit that is no half of a pair. -/
def wholeUnit? (unit : Nat) : Option Char :=
  if isHighHalf unit || isLowHalf unit then none else some (Char.ofNat unit)

/-- The characters of a string, unless half of a pair stands alone in it. -/
def chars? : List Piece → Option (List Char)
  | [] => some []
  | .char c :: pieces => (chars? pieces).map (c :: ·)
  | .unit high :: .unit low :: pieces =>
    if isHighHalf high && isLowHalf low then (chars? pieces).map (joinHalves high low :: ·)
    else do return (← wholeUnit? high) :: (← chars? (.unit low :: pieces))
  | .unit unit :: pieces => do return (← wholeUnit? unit) :: (← chars? pieces)

def isSpace (c : Char) : Bool := c == ' ' || c == '\n' || c == '\r' || c == '\t'

/-- The token of a string: void if half of a pair stands alone in it. -/
def Token.ofPieces (pieces : List Piece) : Token :=
  match chars? pieces with
  | some chars => .str (String.ofList chars)
  | none => .void

/-- The token of a number: void if the number is too large. -/
def Token.ofNumber (literal : List Char) : Token :=
  if fitsDouble literal then .num literal else .void

/-- The token at the head of a text, and what follows it. -/
def Token.next? : List Char → Option (Token × List Char)
  | '[' :: rest => some (.openArr, rest)
  | ']' :: rest => some (.closeArr, rest)
  | '\x7b' :: rest => some (.openObj, rest)
  | '\x7d' :: rest => some (.closeObj, rest)
  | ',' :: rest => some (.comma, rest)
  | ':' :: rest => some (.colon, rest)
  | '"' :: rest => (scanString rest).map fun (pieces, after) => (.ofPieces pieces, after)
  | 'n' :: 'u' :: 'l' :: 'l' :: rest => some (.null, rest)
  | 't' :: 'r' :: 'u' :: 'e' :: rest => some (.bool true, rest)
  | 'f' :: 'a' :: 'l' :: 's' :: 'e' :: rest => some (.bool false, rest)
  | c :: rest =>
    if isNumeric c && isNumber (c :: rest.takeWhile isNumeric) then
      some (.ofNumber (c :: rest.takeWhile isNumeric), rest.dropWhile isNumeric)
    else none
  | [] => none

theorem length_of_next? {cs after : List Char} {token : Token}
    (scanned : Token.next? cs = some (token, after)) : after.length < cs.length := by
  unfold Token.next? at scanned
  split at scanned
  case h_7 rest =>
    simp only [Option.map_eq_some_iff, Prod.exists, Prod.mk.injEq] at scanned
    obtain ⟨pieces, left, string, _, rfl⟩ := scanned
    exact Nat.lt_succ_of_lt (length_of_scanString string)
  case h_11 c rest _ _ _ _ _ _ _ _ _ _ =>
    split at scanned
    · simp only [Option.some.injEq, Prod.mk.injEq] at scanned
      obtain ⟨_, rfl⟩ := scanned
      exact Nat.lt_succ_of_le (List.dropWhile_sublist _).length_le
    · simp at scanned
  all_goals simp_all
  all_goals (obtain ⟨_, rfl⟩ := scanned; omega)

/-- The tokens of a text; nothing when some part of it is no token. -/
def scan (cs : List Char) : Option (List Token) :=
  match cs with
  | [] => some []
  | c :: rest =>
    if isSpace c then scan rest
    else
      match _scanned : Token.next? (c :: rest) with
      | some (token, after) => (scan after).map (token :: ·)
      | none => none
termination_by cs.length
decreasing_by
  · simp
  · exact length_of_next? _scanned

/-- How a token is written. A void one is a string that holds half of a pair. -/
def Token.text : Token → List Char
  | .openArr => ['[']
  | .closeArr => [']']
  | .openObj => ['\x7b']
  | .closeObj => ['\x7d']
  | .comma => [',']
  | .colon => [':']
  | .null => ['n', 'u', 'l', 'l']
  | .bool true => ['t', 'r', 'u', 'e']
  | .bool false => ['f', 'a', 'l', 's', 'e']
  | .num literal => literal
  | .str text => '"' :: escapeText text.toList ++ ['"']
  | .void => ['"', '\\', 'u', 'd', '8', '0', '0', '"']

end DomainAtlas.Json
