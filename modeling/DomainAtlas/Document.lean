import DomainAtlas.Format.Profiles
import DomainAtlas.Model.Basic

/-! Documents: a model written down, with the settings it was assembled with, so that it can be
assembled again somewhere else. -/

namespace DomainAtlas

open Json

structure Document where
  packages : List String := []
  types : NameMap Profile := .empty
  settings : Settings := .default
  deriving DecidableEq

namespace ContainerNames

def toJson (names : ContainerNames) : Json :=
  .obj
    [("optionalTypes", .ofStrings names.optionals), ("listTypes", .ofStrings names.lists),
      ("setTypes", .ofStrings names.sets), ("collectionTypes", .ofStrings names.collections),
      ("streamTypes", .ofStrings names.streams)]

def ofJson? (json : Json) : Option ContainerNames := do
  let members ← json.members?
  return {
    optionals := ← required texts? members "optionalTypes"
    lists := ← required texts? members "listTypes"
    sets := ← required texts? members "setTypes"
    collections := ← required texts? members "collectionTypes"
    streams := ← required texts? members "streamTypes" }

end ContainerNames

namespace Settings

def toJson (settings : Settings) : Json :=
  .obj
    [("commandMatching", settings.commandMatching.toJson),
      ("containers", settings.containers.toJson),
      ("getterPrefixes", .ofStrings settings.getterPrefixes),
      ("setterPrefix", .str settings.setterPrefix),
      ("capitalizedAccessors", .bool settings.capitalizedAccessors)]

/-- What is not set stays at its default. -/
def ofJson? (json : Json) : Option Settings := do
  let members ← json.members?
  return {
    commandMatching :=
      ← orElse default.commandMatching CommandMatching.ofJson? members "commandMatching"
    containers := ← orElse default.containers ContainerNames.ofJson? members "containers"
    getterPrefixes := ← orElse default.getterPrefixes texts? members "getterPrefixes"
    setterPrefix := ← orElse default.setterPrefix text? members "setterPrefix"
    capitalizedAccessors :=
      ← orElse default.capitalizedAccessors flag? members "capitalizedAccessors" }

end Settings

namespace Document

def toJson (document : Document) : Json :=
  .obj
    [("boundedContextPackages", .ofStrings document.packages),
      ("typeMirrors", document.types.toJson Profile.toJson),
      ("config", document.settings.toJson)]

def ofJson? (json : Json) : Option Document := do
  let members ← json.members?
  return {
    packages := ← textsOrEmpty members "boundedContextPackages"
    types := ← orElse .empty (NameMap.ofJson? Profile.ofJson?) members "typeMirrors"
    settings := ← orElse .default Settings.ofJson? members "config" }

def toText (document : Document) : String := document.toJson.compact

def toPrettyText (document : Document) : String := document.toJson.pretty

def ofText? (text : String) : Option Document := do ofJson? (← read? nestingLimit text)

def toModelWith (document : Document) (settings : Settings) : Model :=
  .assemble document.types document.packages settings

def toModel (document : Document) : Model := document.toModelWith document.settings

end Document

def Model.toDocument (model : Model) : Document where
  packages := model.packages
  types := model.types
  settings := model.settings

end DomainAtlas
