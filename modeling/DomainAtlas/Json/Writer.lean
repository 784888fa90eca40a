import DomainAtlas.Json.Token

/-! Writing JSON values. A written text is the value's tokens, each after some white space:
none at all in the compact form, line breaks and indentation in the pretty form. -/

namespace DomainAtlas.Json

mutual
def tokens : Json → List Token
  | null => [.null]
  | bool value => [.bool value]
  | num literal => [.num literal]
  | str text => [.str text]
  | arr items => .openArr :: itemTokens items
  | obj members => .openObj :: memberTokens members
  | void => [.void]

def itemTokens : List Json → List Token
  | [] => [.closeArr]
  | item :: items => item.tokens ++ nextItemTokens items

def nextItemTokens : List Json → List Token
  | [] => [.closeArr]
  | item :: items => .comma :: (item.tokens ++ nextItemTokens items)

def memberTokens : List (String × Json) → List Token
  | [] => [.closeObj]
  | (key, value) :: members => .str key :: .colon :: (value.tokens ++ nextMemberTokens members)

def nextMemberTokens : List (String × Json) → List Token
  | [] => [.closeObj]
  | (key, value) :: members =>
    .comma :: .str key :: .colon :: (value.tokens ++ nextMemberTokens members)
end

structure Placed where
  gap : List Char
  token : Token

def Placed.text (placed : Placed) : List Char := placed.gap ++ placed.token.text

def newLine (level : Nat) : List Char := '\n' :: List.replicate (2 * level) ' '

mutual
/-- The pretty form of a value after a gap, at a level of indentation. Every item and member has a
line of its own, and so has the bracket that closes them; an empty array or object has none. -/
def layout (gap : List Char) (level : Nat) : Json → List Placed
  | null => [⟨gap, .null⟩]
  | bool value => [⟨gap, .bool value⟩]
  | num literal => [⟨gap, .num literal⟩]
  | str text => [⟨gap, .str text⟩]
  | arr items => ⟨gap, .openArr⟩ :: itemLayout level items
  | obj members => ⟨gap, .openObj⟩ :: memberLayout level members
  | void => [⟨gap, .void⟩]

def itemLayout (level : Nat) : List Json → List Placed
  | [] => [⟨[], .closeArr⟩]
  | item :: items => item.layout (newLine (level + 1)) (level + 1) ++ nextItemLayout level items

def nextItemLayout (level : Nat) : List Json → List Placed
  | [] => [⟨newLine level, .closeArr⟩]
  | item :: items =>
    ⟨[], .comma⟩ ::
      (item.layout (newLine (level + 1)) (level + 1) ++ nextItemLayout level items)

def memberLayout (level : Nat) : List (String × Json) → List Placed
  | [] => [⟨[], .closeObj⟩]
  | (key, value) :: members =>
    ⟨newLine (level + 1), .str key⟩ :: ⟨[], .colon⟩ ::
      (value.layout [' '] (level + 1) ++ nextMemberLayout level members)

def nextMemberLayout (level : Nat) : List (String × Json) → List Placed
  | [] => [⟨newLine level, .closeObj⟩]
  | (key, value) :: members =>
    ⟨[], .comma⟩ :: ⟨newLine (level + 1), .str key⟩ :: ⟨[], .colon⟩ ::
      (value.layout [' '] (level + 1) ++ nextMemberLayout level members)
end

/-- The text without any white space between tokens. -/
def compact (json : Json) : String := String.ofList (json.tokens.flatMap Token.text)

def pretty (json : Json) : String := String.ofList ((json.layout [] 0).flatMap Placed.text)

end DomainAtlas.Json
