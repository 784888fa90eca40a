import DomainAtlas.Declaration
import DomainAtlas.Fault
import DomainAtlas.NameMap
import DomainAtlas.Text.Blank

/-! Catalogs of declarations. A catalog built from declarations stores each under its own name; one
that was read from data may store a declaration under another name. -/

namespace DomainAtlas

structure Catalog where
  types : NameMap TypeDecl
  deriving DecidableEq

namespace Catalog

def empty : Catalog := ⟨.empty⟩

def get? (catalog : Catalog) (name : String) : Option TypeDecl := catalog.types.get? name

def contains (catalog : Catalog) (name : String) : Bool := catalog.types.contains name

theorem contains_iff {catalog : Catalog} {name : String} :
    catalog.contains name = true ↔ (catalog.get? name).isSome = true :=
  NameMap.contains_iff.trans NameMap.get?_isSome_iff.symm

def decls (catalog : Catalog) : List TypeDecl := catalog.types.values

/-- Whether every declaration is stored under its own name. -/
def WellKeyed (catalog : Catalog) : Prop := ∀ entry ∈ catalog.types.entries, entry.1 = entry.2.name

instance (catalog : Catalog) : Decidable catalog.WellKeyed :=
  inferInstanceAs (Decidable (∀ _ ∈ _, _))

/-- Adds a declaration at the end. Its name must not be blank and must be new. -/
def insert (catalog : Catalog) (decl : TypeDecl) : Except Fault Catalog :=
  if Text.isBlank decl.name then .error (.invalid .blankName)
  else if catalog.contains decl.name then .error (.invalid (.duplicate decl.name))
  else .ok ⟨catalog.types.insert decl.name decl⟩

def add (decl : TypeDecl) : ExceptT Fault (StateM Catalog) Unit := do
  if Text.isBlank decl.name then throw (.invalid .blankName)
  if (← get).contains decl.name then throw (.invalid (.duplicate decl.name))
  modify fun catalog => ⟨catalog.types.insert decl.name decl⟩

/-- What is answered when a declaration is offered to a catalog, and the catalog that is left. -/
def offer (catalog : Catalog) (decl : TypeDecl) : Except Fault Unit × Catalog :=
  (add decl).run.run catalog

/-- The catalog of the declarations inserted one by one; the first that is refused decides. -/
def ofDecls (decls : List TypeDecl) : Except Fault Catalog := decls.foldlM insert empty

/-- The catalog of the declarations whatever their names: a later one takes the place of an
earlier one with its name. -/
def collect (decls : List TypeDecl) : Catalog :=
  ⟨.ofList (decls.map fun decl => (decl.name, decl))⟩

end Catalog

end DomainAtlas
