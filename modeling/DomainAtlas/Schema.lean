import DomainAtlas.Document

/-! The names in the schema of a document: its properties, and the shapes that are defined for
them. What has a shape of its own names it ahead of the shapes of its members. Texts, flags, lists,
maps and the kinds of a profile have none: they are written in place. -/

namespace DomainAtlas

def Access.shapeNames : List String := ["AccessLevel"]

def Role.shapeNames : List String := ["DomainType"]

def Container.shapeNames : List String := ["ContainerKind"]

def AssertionRule.shapeNames : List String := ["AssertionType"]

def Assertion.shapeNames : List String := "AssertionMirror" :: AssertionRule.shapeNames

def Direction.shapeNames : List String := ["WildcardBoundType"]

/-- The direction of a wildcard is written inside a shape of its own. -/
def ResolvedType.shapeNames : List String :=
  "ResolvedGenericTypeMirror" :: "WildcardMirror" :: Direction.shapeNames

def TypeUse.shapeNames : List String :=
  "AssertedContainableTypeMirror" ::
    (Role.shapeNames ++ Assertion.shapeNames ++ Container.shapeNames ++ ResolvedType.shapeNames)

def Field.shapeNames : List String := "FieldMirror" :: (TypeUse.shapeNames ++ Access.shapeNames)

def Param.shapeNames : List String := "ParamMirror" :: TypeUse.shapeNames

def Method.shapeNames : List String :=
  "MethodMirror" :: (Access.shapeNames ++ Param.shapeNames ++ TypeUse.shapeNames)

def ServiceLinks.shapeNames : List String := ["ServiceReferences"]

def Profile.shapeNames : List String :=
  "DomainTypeMirror" :: (Field.shapeNames ++ Method.shapeNames ++ ServiceLinks.shapeNames)

def CommandMatching.shapeNames : List String := ["CommandMatching"]

def ContainerNames.shapeNames : List String := ["ContainerConventions"]

def Settings.shapeNames : List String :=
  "MirrorConfig" :: (CommandMatching.shapeNames ++ ContainerNames.shapeNames)

namespace Document

def propertyNames : List String :=
  (((({} : Document).toJson.members?).getD []).map Prod.fst).mergeSort (· ≤ ·)

def definitionNames : List String :=
  (distinct (Profile.shapeNames ++ Settings.shapeNames)).mergeSort (· ≤ ·)

end Document

end DomainAtlas
