import DomainAtlas.Proofs.Classification
import DomainAtlas.Proofs.Profiling

/-! Profiles and the order of a catalog. Whatever is worked out of a catalog for a type comes from
the declarations that are found under names, so catalogs that find the same declarations make the
same profiles, in whatever order they store them. -/

namespace DomainAtlas.Proofs.Reordering
open Supertypes Classification Profiling

/-- Two catalogs that find the same declaration under every name. -/
def Alike (first second : Catalog) : Prop := ∀ name, first.get? name = second.get? name

variable {first second : Catalog} {settings : Settings}

theorem alike_of_perm (perm : first.types.entries.Perm second.types.entries) :
    Alike first second := by
  intro name
  apply Option.ext
  intro decl
  simp only [Catalog.get?, NameMap.get?_eq_some_iff, perm.mem_iff]

theorem Alike.wellKeyed (alike : Alike first second) (keyed : first.WellKeyed) :
    second.WellKeyed := by
  rw [wellKeyed_iff] at keyed ⊢
  intro name decl found
  exact keyed name decl ((alike name).trans found)

theorem Alike.supertypes (alike : Alike first second) (name : String) :
    first.supertypes name = second.supertypes name := by
  rw [Catalog.supertypes, Catalog.supertypes, alike name]

theorem Alike.declaredInterfaces (alike : Alike first second) (name : String) :
    first.declaredInterfaces name = second.declaredInterfaces name := by
  rw [Catalog.declaredInterfaces, Catalog.declaredInterfaces, alike name]

theorem Alike.extends_iff (alike : Alike first second) (name upper : String) :
    Extends first name upper ↔ Extends second name upper := by
  unfold Extends
  rw [alike name]

theorem Alike.line (alike : Alike first second) {seen line : List String} {name : String}
    (above : Line first seen name line) : Line second seen name line := by
  induction above with
  | stop ends => exact .stop fun upper extend => ends upper ((alike.extends_iff _ upper).mpr extend)
  | next extend fresh _ ih => exact .next ((alike.extends_iff _ _).mp extend) fresh ih

theorem Alike.superclasses (alike : Alike first second) (name : String) :
    first.superclasses name = second.superclasses name :=
  (alike.line (line_superclasses first name)).unique (line_superclasses second name)

theorem Alike.breadthFirst (alike : Alike first second) (visited queue : List String) :
    first.breadthFirst visited queue = second.breadthFirst visited queue := by
  fun_induction Catalog.breadthFirst first visited queue with
  | case1 => rw [Catalog.breadthFirst]
  | case2 visited name rest seen ih => rw [Catalog.breadthFirst, dif_pos seen, ih]
  | case3 visited name rest fresh ih =>
    rw [Catalog.breadthFirst, dif_neg fresh, ih, alike.supertypes]

theorem Alike.interfacesOfAll (alike : Alike first second) (visited owners : List String) :
    first.interfacesOfAll visited owners = second.interfacesOfAll visited owners := by
  induction owners generalizing visited with
  | nil => rfl
  | cons owner owners ih =>
    rw [Catalog.interfacesOfAll, Catalog.interfacesOfAll, alike.declaredInterfaces,
      alike.breadthFirst, ih]

theorem Alike.interfaces (alike : Alike first second) (name : String) :
    first.interfaces name = second.interfaces name := by
  rw [Catalog.interfaces, Catalog.interfaces, alike.superclasses, alike.interfacesOfAll]

theorem Alike.superclassDecls (alike : Alike first second) (name : String) :
    first.superclassDecls name = second.superclassDecls name := by
  rw [Catalog.superclassDecls, Catalog.superclassDecls, alike.superclasses, funext alike]

theorem Alike.interfaceDecls (alike : Alike first second) (name : String) :
    first.interfaceDecls name = second.interfaceDecls name := by
  rw [Catalog.interfaceDecls, Catalog.interfaceDecls, alike.interfaces, funext alike]

theorem Alike.isAssignable (alike : Alike first second) (name ancestor : String) :
    first.isAssignable name ancestor = second.isAssignable name ancestor := by
  rw [Catalog.isAssignable, Catalog.isAssignable, alike.superclasses, alike.interfaces]

theorem Alike.tagOf (alike : Alike first second) (name : String) :
    first.tagOf name = second.tagOf name := by
  have claims : Claims first name = Claims second name := by
    funext role
    simp only [Claims, alike.isAssignable, alike _]
  apply Option.ext
  intro role
  rw [tagOf_eq_some_iff, tagOf_eq_some_iff, claims]

theorem Alike.contains (alike : Alike first second) (name : String) :
    first.contains name = second.contains name := by
  rw [Bool.eq_iff_iff, Catalog.contains_iff, Catalog.contains_iff, alike]

theorem Alike.isListed (alike : Alike first second) (listed : List String) (name : String) :
    first.isListed listed name = second.isListed listed name := by
  simp only [Catalog.isListed, alike.contains, alike.superclasses, alike.interfaces]

theorem Alike.containerOf (alike : Alike first second) (names : ContainerNames) (name : String) :
    first.containerOf names name = second.containerOf names name := by
  simp only [Catalog.containerOf, alike.isListed]

theorem Alike.optionalElement? (alike : Alike first second) (names : ContainerNames)
    (type : TypeExpr) : first.optionalElement? names type = second.optionalElement? names type := by
  cases type <;> simp only [Catalog.optionalElement?, alike.isListed]

theorem Alike.unwrap (alike : Alike first second) (names : ContainerNames) (type : TypeExpr) :
    first.unwrap names type = second.unwrap names type := by
  cases type <;> simp only [Catalog.unwrap, alike.containerOf]

theorem Alike.useOf (alike : Alike first second) (names : ContainerNames) (type : TypeExpr)
    (assertions containerAssertions : List Assertion) :
    first.useOf names type assertions containerAssertions =
      second.useOf names type assertions containerAssertions := by
  simp only [Catalog.useOf, alike.optionalElement?, alike.unwrap, alike.tagOf]

theorem Alike.fieldOwners (alike : Alike first second) (decl : TypeDecl) :
    first.fieldOwners decl = second.fieldOwners decl := by
  rw [Catalog.fieldOwners, Catalog.fieldOwners, alike.superclassDecls]

theorem Alike.fieldsFrom (alike : Alike first second) (accessors : List MethodDecl)
    (owners : List TypeDecl) :
    first.fieldsFrom settings accessors owners = second.fieldsFrom settings accessors owners := by
  induction owners with
  | nil => rfl
  | cons owner nearer ih =>
    simp only [Catalog.fieldsFrom, ih, Catalog.fieldOf, alike.useOf]

theorem Alike.fieldsOf (alike : Alike first second) (decl : TypeDecl) :
    first.fieldsOf settings decl = second.fieldsOf settings decl := by
  simp only [Catalog.fieldsOf, Catalog.accessors, alike.fieldOwners, alike.interfaceDecls,
    alike.fieldsFrom]

theorem Alike.methodOf (alike : Alike first second) (owner : TypeDecl) (method : MethodDecl) :
    first.methodOf settings owner method = second.methodOf settings owner method := by
  have params : first.paramOf settings = second.paramOf settings := by
    funext param
    simp only [Catalog.paramOf, alike.useOf]
  simp only [Catalog.methodOf, params, alike.useOf]

theorem Alike.methodsOf (alike : Alike first second) (decl : TypeDecl) :
    first.methodsOf settings decl = second.methodsOf settings decl := by
  have methods : first.methodOf settings = second.methodOf settings := by
    funext owner method
    exact alike.methodOf owner method
  simp only [Catalog.methodsOf, Catalog.methodOwners, Catalog.declaredMethods, alike.superclassDecls,
    alike.interfaceDecls, methods]

theorem Alike.inherited (alike : Alike first second) (select : TypeDecl → Option String)
    (decl : TypeDecl) : first.inherited select decl = second.inherited select decl := by
  rw [Catalog.inherited, Catalog.inherited, alike.superclassDecls]

theorem Alike.entityTraits (alike : Alike first second) (decl : TypeDecl) (fields : List Field) :
    first.entityTraits decl fields = second.entityTraits decl fields := by
  simp only [Catalog.entityTraits, Catalog.versionFieldName?, alike.inherited, alike.fieldOwners]

theorem Alike.kindOf (alike : Alike first second) (decl : TypeDecl) (fields : List Field)
    (role : Role) : first.kindOf decl fields role = second.kindOf decl fields role := by
  cases role <;> simp only [Catalog.kindOf, alike.entityTraits, alike.inherited]

theorem Alike.profileOf (alike : Alike first second) (name : String) (decl : TypeDecl)
    (role : Role) :
    first.profileOf settings name decl role = second.profileOf settings name decl role := by
  simp only [Catalog.profileOf, Catalog.roleFields, alike.fieldsOf, alike.methodsOf,
    alike.superclasses, alike.interfaces, alike.inherited, alike.kindOf]

theorem Alike.profileAt (alike : Alike first second) (name : String) :
    profileAt first settings name = profileAt second settings name := by
  simp only [Profiling.profileAt, alike name, alike.tagOf, alike.profileOf]

end DomainAtlas.Proofs.Reordering
