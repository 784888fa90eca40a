import Mathlib.Data.List.Infix
import DomainAtlas.Model.Contexts
import DomainAtlas.Proofs.Changes

/-! The bounded context that a type belongs to. Several registered packages may begin a name, and the
longest of them counts. Texts that begin one name begin each other, so there is one longest, and
neither the order of the packages nor their number has a say in it. -/

namespace DomainAtlas.Proofs.Contexts

variable {model : Model} {name package : String}

def Begins (package name : String) : Prop := package.toList <+: name.toList

instance (package name : String) : Decidable (Begins package name) :=
  inferInstanceAs (Decidable (_ <+: _))

theorem isWithin_iff (package name : String) :
    TypeName.isWithin package name = true ↔ Begins package name := List.isPrefixOf_iff_prefix

theorem Begins.antisymm {first second : String} (before : Begins first second)
    (after : Begins second first) : first = second :=
  String.toList_inj.mp (before.eq_of_length_le after.length_le)

/-- Of two texts that begin one name, the shorter begins the longer. -/
theorem Begins.of_length_le {first second : String} (before : Begins first name)
    (after : Begins second name) (shorter : first.length ≤ second.length) : Begins first second :=
  List.prefix_of_prefix_length_le before after (by simpa only [String.length_toList] using shorter)

theorem longest?_eq_none_iff {texts : List String} : longest? texts = none ↔ texts = [] := by
  cases texts with
  | nil => simp [longest?]
  | cons text rest =>
    rw [longest?]
    cases longest? rest <;> simp

theorem longest?_eq_some {texts : List String} {longest : String}
    (found : longest? texts = some longest) :
    longest ∈ texts ∧ ∀ text ∈ texts, text.length ≤ longest.length := by
  induction texts generalizing longest with
  | nil => cases found
  | cons text rest ih =>
    rw [longest?] at found
    cases later : longest? rest with
    | none =>
      rw [later] at found
      obtain rfl := Option.some.inj found
      rw [longest?_eq_none_iff.mp later]
      exact ⟨List.mem_singleton.mpr rfl, List.forall_mem_singleton.mpr (Nat.le_refl _)⟩
    | some other =>
      rw [later] at found
      obtain rfl := Option.some.inj found
      obtain ⟨member, bound⟩ := ih later
      split
      next longer =>
        refine ⟨List.mem_cons_self, List.forall_mem_cons.mpr ⟨Nat.le_refl _, ?_⟩⟩
        exact fun shorter inside => (bound shorter inside).trans (Nat.le_of_lt longer)
      next shorter =>
        exact ⟨List.mem_cons_of_mem _ member, List.forall_mem_cons.mpr ⟨Nat.not_lt.mp shorter, bound⟩⟩

/-- The package begins the name, and each of the other packages that do is a beginning of it. -/
structure Nearest (packages : List String) (name package : String) : Prop where
  registered : package ∈ packages
  begins : Begins package name
  encloses : ∀ other ∈ packages, Begins other name → other ≠ package → Begins other package

theorem Nearest.unique {packages : List String} {first second : String}
    (one : Nearest packages name first) (two : Nearest packages name second) : first = second := by
  by_contra apart
  have before := two.encloses first one.registered one.begins apart
  have after := one.encloses second two.registered two.begins (Ne.symm apart)
  exact apart (before.antisymm after)

theorem Nearest.congr {packages others : List String}
    (same : ∀ package, package ∈ packages ↔ package ∈ others) (near : Nearest packages name package) :
    Nearest others name package where
  registered := (same package).mp near.registered
  begins := near.begins
  encloses other member := near.encloses other ((same other).mpr member)

theorem mem_beginnings_iff :
    package ∈ model.packages.filter (TypeName.isWithin · name) ↔
      package ∈ model.packages ∧ Begins package name := by
  rw [List.mem_filter, isWithin_iff]

theorem packageOf?_eq_none_iff (model : Model) (name : String) :
    model.packageOf? name = none ↔ ∀ package ∈ model.packages, ¬ Begins package name := by
  rw [Model.packageOf?, longest?_eq_none_iff, List.filter_eq_nil_iff]
  simp only [isWithin_iff]

theorem nearest_of_packageOf? (found : model.packageOf? name = some package) :
    Nearest model.packages name package := by
  obtain ⟨member, bound⟩ := longest?_eq_some found
  obtain ⟨registered, begins⟩ := mem_beginnings_iff.mp member
  refine ⟨registered, begins, ?_⟩
  intro other inside also _
  exact also.of_length_le begins (bound other (mem_beginnings_iff.mpr ⟨inside, also⟩))

theorem packageOf?_eq_some_iff (model : Model) (name package : String) :
    model.packageOf? name = some package ↔ Nearest model.packages name package := by
  constructor
  · exact nearest_of_packageOf?
  · intro near
    cases found : model.packageOf? name with
    | none =>
      have absent := (packageOf?_eq_none_iff model name).mp found package near.registered
      exact absurd near.begins absent
    | some other => rw [(nearest_of_packageOf? found).unique near]

/-- Only which packages there are matters, not how they are listed. -/
theorem packageOf?_congr {first second : Model}
    (same : ∀ package, package ∈ first.packages ↔ package ∈ second.packages) (name : String) :
    first.packageOf? name = second.packageOf? name := by
  apply Option.ext
  intro package
  rw [packageOf?_eq_some_iff, packageOf?_eq_some_iff]
  exact ⟨Nearest.congr same, Nearest.congr fun package => (same package).symm⟩

theorem mem_packages_after_iff (types : NameMap Profile) (packages : List String)
    (settings : Settings) (changes : List Change) :
    package ∈ ((Model.assemble types packages settings).after changes).packages ↔
      package ∈ packages := by
  rw [(Changes.after_keeps _ changes).1, Assembly.packages_assemble, mem_distinct]

/-- A type belongs to the context of the longest registered package that begins its name, and to none
when there is no such package. Models that are assembled with the same packages agree on that,
whatever else they hold and however the packages were listed. -/
theorem nearest_context (name : String) :
    (∀ model : Model,
      (model.packageOf? name = none ↔ ∀ package ∈ model.packages, ¬ Begins package name) ∧
      ∀ package, model.packageOf? name = some package ↔ Nearest model.packages name package) ∧
    ∀ (types others : NameMap Profile) (packages listed : List String) (settings other : Settings)
      (changes more : List Change), (∀ package, package ∈ packages ↔ package ∈ listed) →
      ((Model.assemble types packages settings).after changes).packageOf? name =
        ((Model.assemble others listed other).after more).packageOf? name := by
  constructor
  · intro model
    exact ⟨packageOf?_eq_none_iff model name, packageOf?_eq_some_iff model name⟩
  · intro types others packages listed settings other changes more same
    apply packageOf?_congr
    intro package
    rw [mem_packages_after_iff, mem_packages_after_iff]
    exact same package

theorem nearest_context_order :
    (∀ package, package ∈ ["shop", "shop.order"] ↔ package ∈ ["shop.order", "shop", "shop.order"]) ∧
    ((Model.assemble .empty ["shop", "shop.order"] .default).after []).packageOf? "shop.order.Line" =
      ((Model.assemble .empty ["shop.order", "shop", "shop.order"] .default).after []).packageOf?
        "shop.order.Line" ∧
    Nearest ["shop", "shop.order"] "shop.order.Line" "shop.order" := by
  have same : ∀ package : String,
      package ∈ ["shop", "shop.order"] ↔ package ∈ ["shop.order", "shop", "shop.order"] := by
    intro package
    simp only [List.mem_cons, List.not_mem_nil, or_false]
    tauto
  obtain ⟨answers, agree⟩ := nearest_context "shop.order.Line"
  have found := agree .empty .empty _ _ .default .default [] [] same
  have near := (answers (.assemble .empty ["shop", "shop.order"] .default)).2 "shop.order"
  exact ⟨same, found, near.mp (by decide +kernel)⟩

end DomainAtlas.Proofs.Contexts
