/-! Qualified type names: a package, a dot, and the type's own name. -/

namespace DomainAtlas.TypeName

/-- The part of a name before its last dot; empty when there is no dot. -/
def package (name : String) : String :=
  String.ofList ((name.toList.reverse.dropWhile (· != '.')).drop 1).reverse

/-- The part of a name after its last dot; all of it when there is no dot. -/
def simple (name : String) : String :=
  String.ofList (name.toList.reverse.takeWhile (· != '.')).reverse

def isWithin (package name : String) : Bool := package.toList.isPrefixOf name.toList

end DomainAtlas.TypeName
