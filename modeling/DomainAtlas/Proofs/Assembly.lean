import DomainAtlas.Document
import DomainAtlas.Proofs.Lookup

/-! Assembling a model. Profiles that are stored under their own type names go into the model as
they are, so what was a model before is the same model again. -/

namespace DomainAtlas.Proofs.Assembly

def Keyed (types : NameMap Profile) : Prop := ∀ entry ∈ types.entries, entry.1 = entry.2.typeName

private theorem types_insertAll (profiles : List Profile) (model : Model) :
    (profiles.foldl Model.insert model).types =
      (profiles.map fun profile => (profile.typeName, profile)).foldl
        (fun map entry => map.insert entry.1 entry.2) model.types := by
  induction profiles generalizing model with
  | nil => rfl
  | cons profile profiles ih => exact ih (model.insert profile)

private theorem rest_insertAll (profiles : List Profile) (model : Model) :
    (profiles.foldl Model.insert model).packages = model.packages ∧
      (profiles.foldl Model.insert model).settings = model.settings := by
  induction profiles generalizing model with
  | nil => exact ⟨rfl, rfl⟩
  | cons profile profiles ih => exact ih (model.insert profile)

theorem types_assemble {types : NameMap Profile} (keyed : Keyed types) (packages : List String)
    (settings : Settings) : (Model.assemble types packages settings).types = types := by
  rw [Model.assemble, types_insertAll, NameMap.entries_of_values keyed]
  exact NameMap.ofList_entries types

theorem packages_assemble (types : NameMap Profile) (packages : List String) (settings : Settings) :
    (Model.assemble types packages settings).packages = distinct packages :=
  (rest_insertAll types.values (.empty packages settings)).1

theorem settings_assemble (types : NameMap Profile) (packages : List String) (settings : Settings) :
    (Model.assemble types packages settings).settings = settings :=
  (rest_insertAll types.values (.empty packages settings)).2

/-- A model is the one that is assembled from its own parts. -/
theorem assemble_self (model : Model) :
    Model.assemble model.types model.packages model.settings = model := by
  have types := types_assemble model.keyed model.packages model.settings
  have packages := packages_assemble model.types model.packages model.settings
  have settings := settings_assemble model.types model.packages model.settings
  rw [distinct_of_nodup model.packages_nodup] at packages
  cases model
  cases assembled : Model.assemble _ _ _
  simp_all

end DomainAtlas.Proofs.Assembly
