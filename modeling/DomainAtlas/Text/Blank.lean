import DomainAtlas.Text.Runs

/-! Blank text: nothing but Unicode white space. -/

namespace DomainAtlas.Text

/-- The characters with the Unicode property White_Space. -/
def whiteSpace : List Run :=
  [(0x9, 0xD), (0x20, 0x20), (0x85, 0x85), (0xA0, 0xA0), (0x1680, 0x1680), (0x2000, 0x200A),
    (0x2028, 0x2029), (0x202F, 0x202F), (0x205F, 0x205F), (0x3000, 0x3000)].map Run.between

def isWhiteSpace (c : Char) : Bool := inRuns whiteSpace c

def isBlank (text : String) : Bool := text.toList.all isWhiteSpace

end DomainAtlas.Text
