import Mathlib.Data.List.TakeWhile
import DomainAtlas.Proofs.Contexts
import DomainAtlas.Proofs.Messages

/-! The types of a package and the types of its context. A name belongs to a package when the package
ends at one of its dots. A context asks only whether the name starts with the text of the package, so
it claims every type of the package, and besides them those whose names go on where the package ends
without a dot. -/

namespace DomainAtlas.Proofs.PackageMembers
open Contexts

variable {model : Model} {package name : String}

/-- The package of the name is the given one or lies further down in it. -/
def Belongs (package name : String) : Prop :=
  TypeName.package name = package ∨ Begins (package ++ ".") (TypeName.package name)

instance (package name : String) : Decidable (Belongs package name) :=
  inferInstanceAs (Decidable (_ ∨ _))

/-- The name starts with the package, and no dot comes next. -/
def Strays (package name : String) : Prop :=
  ∃ rest, name.toList = package.toList ++ rest ∧ rest.head? ≠ some '.'

/-- A name is split at its last dot, if it has one. -/
theorem package_cases (name : String) :
    '.' ∉ name.toList ∧ TypeName.package name = "" ∨
      ∃ last, name.toList = (TypeName.package name).toList ++ '.' :: last ∧ '.' ∉ last := by
  have parts := List.takeWhile_append_dropWhile (p := (· != '.')) (l := name.toList.reverse)
  have undotted : ∀ c ∈ name.toList.reverse.takeWhile (· != '.'), c ≠ '.' := by
    intro c member
    exact bne_iff_ne.mp (List.mem_takeWhile_imp (p := (· != '.')) member)
  have dotted := List.head?_dropWhile_not (· != '.') name.toList.reverse
  unfold TypeName.package
  cases back : name.toList.reverse.dropWhile (· != '.') with
  | nil =>
    left
    refine ⟨?_, rfl⟩
    intro member
    have all := List.dropWhile_eq_nil_iff.mp back '.' (List.mem_reverse.mpr member)
    simp at all
  | cons dot front =>
    right
    rw [back] at parts dotted
    have isDot : dot = '.' := by simpa using dotted
    refine ⟨(name.toList.reverse.takeWhile (· != '.')).reverse, ?_, ?_⟩
    · have whole := congrArg List.reverse parts
      rw [List.reverse_reverse, List.reverse_append, List.reverse_cons, isDot] at whole
      simpa using whole.symm
    · intro member
      exact undotted '.' (List.mem_reverse.mp member) rfl

theorem begins_package (name : String) : Begins (TypeName.package name) name := by
  rcases package_cases name with ⟨_, none⟩ | ⟨last, split, _⟩
  · rw [none]
    exact List.nil_prefix
  · exact ⟨_, split.symm⟩

/-- No dot of a name stands behind the one that ends its package. -/
theorem dotted_package {front : List Char} (begins : front ++ ['.'] <+: name.toList) :
    front ++ ['.'] <+: (TypeName.package name).toList ++ ['.'] := by
  rcases package_cases name with ⟨undotted, _⟩ | ⟨last, split, undotted⟩
  · have member : '.' ∈ front ++ ['.'] := by simp
    exact absurd (begins.subset member) undotted
  · have whole : (TypeName.package name).toList ++ ['.'] <+: name.toList := ⟨last, by simp [split]⟩
    cases List.prefix_or_prefix_of_prefix begins whole with
    | inl shorter => exact shorter
    | inr longer =>
      rcases List.prefix_concat_iff.mp longer with same | ⟨more, beyond⟩
      · rw [same]
      · -- beyond the last dot there would be another one
        obtain ⟨rest, again⟩ := begins
        rw [← beyond, split] at again
        have tail : more ++ '.' :: rest = last := by simpa using again
        exact absurd (tail ▸ List.mem_append_right more List.mem_cons_self) undotted

theorem toList_dotted (package : String) : (package ++ ".").toList = package.toList ++ ['.'] :=
  String.toList_append

theorem begins_dotted_iff :
    Begins (package ++ ".") name ↔ ∃ rest, name.toList = package.toList ++ '.' :: rest := by
  simp only [Begins, List.IsPrefix, toList_dotted, List.append_assoc, List.singleton_append, eq_comm]

/-- A name belongs to the packages that end at one of its dots. -/
theorem belongs_iff (named : package ≠ "") : Belongs package name ↔ Begins (package ++ ".") name := by
  constructor
  · intro belongs
    cases belongs with
    | inl same =>
      rcases package_cases name with ⟨_, none⟩ | ⟨last, split, _⟩
      · exact absurd (same.symm.trans none) named
      · rw [same] at split
        exact begins_dotted_iff.mpr ⟨last, split⟩
    | inr inside => exact inside.trans (begins_package name)
  · intro begins
    rw [Begins, toList_dotted] at begins
    cases List.prefix_concat_iff.mp (dotted_package begins) with
    | inl same => exact .inl (String.toList_inj.mp (List.append_cancel_right same).symm)
    | inr inside =>
      right
      rw [Begins, toList_dotted]
      exact inside

theorem begins_iff (named : package ≠ "") :
    Begins package name ↔ Belongs package name ∨ Strays package name := by
  rw [belongs_iff named, begins_dotted_iff]
  constructor
  · intro begins
    obtain ⟨rest, split⟩ := begins
    by_cases dot : rest.head? = some '.'
    · obtain ⟨after, rfl⟩ := List.head?_eq_some_iff.mp dot
      exact .inl ⟨after, split.symm⟩
    · exact .inr ⟨rest, split.symm, dot⟩
  · intro either
    rcases either with ⟨rest, split⟩ | ⟨rest, split, _⟩
    · exact ⟨'.' :: rest, split.symm⟩
    · exact ⟨rest, split.symm⟩

theorem not_belongs_of_strays (named : package ≠ "") (strays : Strays package name) :
    ¬ Belongs package name := by
  intro belongs
  obtain ⟨next, elsewhere, other⟩ := strays
  obtain ⟨rest, split⟩ := begins_dotted_iff.mp ((belongs_iff named).mp belongs)
  have dot : next = '.' :: rest := List.append_cancel_left (elsewhere.symm.trans split)
  exact other (by rw [dot]; rfl)

/-- What the context of a package makes of a profile: it claims the profile when its name belongs to
the package, and also when it strays from it. The lists of the context follow that, and so does the
context that the profile is assigned to, unless a longer package claims it too. -/
structure Claimed (model : Model) (package : String) (profile : Profile) : Prop where
  claims : (model.contextAt package).contains profile.typeName = true ↔
    Belongs package profile.typeName ∨ Strays package profile.typeName
  apart : ¬ (Belongs package profile.typeName ∧ Strays package profile.typeName)
  listed : profile ∈ (model.contextAt package).profiles ↔
    (model.contextAt package).contains profile.typeName = true
  viewed : ∀ {role : Role} (view : View role), view.profile = profile →
    (view ∈ (model.contextAt package).views role ↔
      (model.contextAt package).contains profile.typeName = true)
  found : profile ∈ model.within package (some profile.role) ↔
    (model.contextAt package).contains profile.typeName = true
  assigned : model.packageOf? profile.typeName = some package ↔
    (model.contextAt package).contains profile.typeName = true ∧
      ∀ other ∈ model.packages, Begins other profile.typeName → other ≠ package →
        Begins other package

theorem contains_iff (model : Model) (package name : String) :
    (model.contextAt package).contains name = true ↔ Begins package name := isWithin_iff package name

theorem claimed (registered : package ∈ model.packages) (named : package ≠ "") {profile : Profile}
    (stored : profile ∈ model.profiles) : Claimed model package profile where
  claims := (contains_iff model package profile.typeName).trans (begins_iff named)
  apart := fun both => not_belongs_of_strays named both.2 both.1
  listed := by
    rw [Context.profiles, List.mem_filter]
    exact and_iff_right stored
  viewed := by
    intro role view same
    rw [Context.views, List.mem_filter, ← same]
    exact and_iff_right (Model.mem_views_iff.mpr (same ▸ stored))
  found := by
    rw [Model.within, Model.ofTag, List.mem_filter, List.mem_filter]
    simp only [stored, beq_self_eq_true, true_and]
    rfl
  assigned := by
    rw [packageOf?_eq_some_iff, contains_iff]
    constructor
    · exact fun near => ⟨near.begins, near.encloses⟩
    · exact fun near => ⟨registered, near.1, near.2⟩

/-- A context claims the types of its package, and besides them just those whose names stray from it.
So it keeps to its package exactly when the model has no such name. -/
theorem contexts_claim (model : Model) {package : String} (registered : package ∈ model.packages)
    (named : package ≠ "") :
    model.context? package = some (model.contextAt package) ∧
    (∀ profile ∈ model.profiles, Claimed model package profile) ∧
    ((∀ profile ∈ model.profiles, (model.contextAt package).contains profile.typeName = true →
        Belongs package profile.typeName) ↔
      ∀ profile ∈ model.profiles, ¬ Strays package profile.typeName) := by
  refine ⟨if_pos registered, fun profile stored => claimed registered named stored, ?_⟩
  constructor
  · intro kept profile stored strays
    have claims := (claimed registered named stored).claims.mpr (.inr strays)
    exact not_belongs_of_strays named strays (kept profile stored claims)
  · intro straight profile stored claims
    cases (claimed registered named stored).claims.mp claims with
    | inl belongs => exact belongs
    | inr strays => exact absurd strays (straight profile stored)

def cart : Profile := { typeName := "com.shopping.Cart", kind := .aggregateRoot {} }

def mall : Model := .assemble (.ofList [("com.shopping.Cart", cart)]) ["com.shop"] .default

theorem contexts_claim_mall :
    "com.shop" ∈ mall.packages ∧ "com.shop" ≠ "" ∧
    mall.context? "com.shop" = some (mall.contextAt "com.shop") ∧
    cart ∈ mall.profiles ∧ Claimed mall "com.shop" cart := by
  have registered : "com.shop" ∈ mall.packages := by decide +kernel
  have named : "com.shop" ≠ "" := by decide
  have stored : cart ∈ mall.profiles := by decide +kernel
  obtain ⟨found, claimed, _⟩ := contexts_claim mall registered named
  exact ⟨registered, named, found, stored, claimed cart stored⟩

/-- The cart is neither in the package nor further down in it, and the context has it everywhere. -/
theorem cart_of_shopping_claimed :
    "com.shop" ∈ mall.packages ∧ "com.shop" ≠ "" ∧ "com.shop".toList.getLast? ≠ some '.' ∧
    cart ∈ mall.profiles ∧ ¬ Belongs "com.shop" cart.typeName ∧
    (mall.contextAt "com.shop").contains cart.typeName = true ∧
    cart ∈ (mall.contextAt "com.shop").profiles ∧
    (∃ view ∈ (mall.contextAt "com.shop").views .aggregateRoot, view.profile = cart) ∧
    mall.packageOf? cart.typeName = some "com.shop" := by
  decide +kernel

end DomainAtlas.Proofs.PackageMembers
