import DomainAtlas.Proofs.Coherence

/-! Reading and writing through accessors. The name of an accessor may fit several prefixes, and it
then stands for one property only: that of the first prefix that fits, getter prefixes before the
setter prefix. Where no name fits two prefixes, any prefix that fits decides. -/

namespace DomainAtlas.Proofs.Accessors
open Profiling Coherence

variable {catalog : Catalog} {settings : Settings} {leads : List String}
  {lead name property : String}

/-- A name goes on after a prefix, in upper case where the settings ask for it. -/
structure GoesOn (settings : Settings) (lead name tail : String) : Prop where
  split : name = lead ++ tail
  proper : tail ≠ ""
  capital : settings.capitalizedAccessors = true →
    ∀ c ∈ tail.toList.head?, Text.isUppercase c = true

def Fits (settings : Settings) (lead name : String) : Prop := ∃ tail, GoesOn settings lead name tail

/-- By a prefix, the name of an accessor stands for a property. -/
def StandsFor (settings : Settings) (lead name property : String) : Prop :=
  ∃ tail, GoesOn settings lead name tail ∧
    String.ofList (Text.decapitalize tail.toList) = property

theorem StandsFor.fits (stands : StandsFor settings lead name property) : Fits settings lead name :=
  stands.imp fun _ rest => rest.1

theorem accessorTail_eq_some_iff {tail : List Char} :
    settings.accessorTail lead name = some tail ↔
      GoesOn settings lead name (String.ofList tail) := by
  have split (rest : List Char) :
      lead.toList.isPrefixOf? name.toList = some rest ↔ name = lead ++ String.ofList rest := by
    rw [List.isPrefixOf?_eq_some_iff_append_eq, ← String.toList_inj, String.toList_append,
      String.toList_ofList, eq_comm]
  unfold Settings.accessorTail
  constructor
  · intro found
    split at found
    next c rest continued =>
      split at found
      next capital =>
        obtain rfl := Option.some.inj found
        exact ⟨(split _).mp continued, by simp, by simpa [or_iff_not_imp_left] using capital⟩
      next => cases found
    next => cases found
  · rintro ⟨continued, proper, capital⟩
    rw [(split tail).mpr continued]
    cases tail with
    | nil => simp at proper
    | cons c rest => simpa [or_iff_not_imp_left] using capital

theorem isSome_accessorTail_iff :
    (settings.accessorTail lead name).isSome = true ↔ Fits settings lead name := by
  rw [Option.isSome_iff_exists]
  constructor
  · rintro ⟨tail, found⟩
    exact ⟨_, accessorTail_eq_some_iff.mp found⟩
  · rintro ⟨tail, continued⟩
    exact ⟨tail.toList, accessorTail_eq_some_iff.mpr (tail.ofList_toList.symm ▸ continued)⟩

instance (settings : Settings) (lead name : String) : Decidable (Fits settings lead name) :=
  decidable_of_iff _ isSome_accessorTail_iff

theorem accessorTail_eq_none_iff :
    settings.accessorTail lead name = none ↔ ¬ Fits settings lead name := by
  rw [← isSome_accessorTail_iff, Bool.not_eq_true, Option.isSome_eq_false_iff,
    Option.isNone_iff_eq_none]

/-- The name stands for the property by the first prefix that it fits. -/
def StandsFirst (settings : Settings) (leads : List String) (name property : String) : Prop :=
  ∃ before lead after, leads = before ++ lead :: after ∧ StandsFor settings lead name property ∧
    ∀ earlier ∈ before, ¬ Fits settings earlier name

theorem standsFirst_iff :
    (leads.findSome? (settings.accessorTail · name)).map (String.ofList <| Text.decapitalize ·) =
      some property ↔ StandsFirst settings leads name property := by
  simp only [Option.map_eq_some_iff, List.findSome?_eq_some_iff, accessorTail_eq_none_iff]
  constructor
  · rintro ⟨tail, ⟨before, lead, after, split, found, unfit⟩, stands⟩
    refine ⟨before, lead, after, split, ⟨_, accessorTail_eq_some_iff.mp found, ?_⟩, unfit⟩
    rw [String.toList_ofList, stands]
  · rintro ⟨before, lead, after, split, ⟨tail, continued, stands⟩, unfit⟩
    refine ⟨tail.toList, ⟨before, lead, after, split, ?_, unfit⟩, stands⟩
    exact accessorTail_eq_some_iff.mpr (tail.ofList_toList.symm ▸ continued)

theorem StandsFirst.standsFor (first : StandsFirst settings leads name property) :
    ∃ lead ∈ leads, StandsFor settings lead name property := by
  obtain ⟨before, lead, after, rfl, stands, _⟩ := first
  exact ⟨lead, by simp, stands⟩

theorem standsFirst_append_iff {further : List String}
    (fitting : ∃ lead ∈ leads, Fits settings lead name) :
    StandsFirst settings (leads ++ further) name property ↔
      StandsFirst settings leads name property := by
  have found : leads.findSome? (settings.accessorTail · name) ≠ none := by
    obtain ⟨lead, member, fits⟩ := fitting
    intro absent
    exact accessorTail_eq_none_iff.mp (List.findSome?_eq_none_iff.mp absent lead member) fits
  obtain ⟨tail, first⟩ := Option.ne_none_iff_exists'.mp found
  rw [← standsFirst_iff, ← standsFirst_iff, List.findSome?_append, first, Option.some_or]

/-- A name fits at most one of the prefixes. -/
def FitsOnce (settings : Settings) (leads : List String) (name : String) : Prop :=
  ∀ first ∈ leads, ∀ second ∈ leads,
    Fits settings first name → Fits settings second name → first = second

theorem standsFirst_iff_of_fitsOnce (once : FitsOnce settings leads name) :
    StandsFirst settings leads name property ↔
      ∃ lead ∈ leads, StandsFor settings lead name property := by
  constructor
  · exact StandsFirst.standsFor
  · rintro ⟨lead, member, stands⟩
    obtain ⟨before, after, rfl, new⟩ := List.eq_append_cons_of_mem member
    refine ⟨before, lead, after, rfl, stands, ?_⟩
    intro earlier inside fits
    have same := once earlier (List.mem_append_left _ inside) lead member fits stands.fits
    exact new (same ▸ inside)

theorem fitsOnce_of_prefixFree (free : ∀ first ∈ leads, ∀ second ∈ leads,
    first.toList <+: second.toList → first = second) (name : String) :
    FitsOnce settings leads name := by
  rintro first one second other ⟨tail, start⟩ ⟨rest, again⟩
  have front : first.toList <+: name.toList :=
    ⟨tail.toList, by rw [start.split, String.toList_append]⟩
  have back : second.toList <+: name.toList :=
    ⟨rest.toList, by rw [again.split, String.toList_append]⟩
  rcases List.prefix_or_prefix_of_prefix front back with shorter | longer
  · exact free first one second other shorter
  · exact (free second other first one longer).symm

def IsReader (method : MethodDecl) : Prop :=
  method.access = .anyone ∧ method.isStatic = false ∧ method.params = [] ∧ method.result ≠ none

def IsWriter (method : MethodDecl) : Prop :=
  method.access = .anyone ∧ method.isStatic = false ∧ method.params.length = 1 ∧
    method.result = none

instance (method : MethodDecl) : Decidable (IsReader method) := inferInstanceAs (Decidable (_ ∧ _))

instance (method : MethodDecl) : Decidable (IsWriter method) := inferInstanceAs (Decidable (_ ∧ _))

def prefixes (settings : Settings) : List String :=
  settings.getterPrefixes ++ [settings.setterPrefix]

theorem property?_eq_some_iff :
    settings.property? name = some property ↔
      StandsFirst settings (prefixes settings) name property :=
  standsFirst_iff

theorem reads_iff {method : MethodDecl} : method.reads settings property = true ↔
    IsReader method ∧ StandsFirst settings settings.getterPrefixes method.name property := by
  have getter : settings.isGetterName method.name = true ∧
      settings.property? method.name = some property ↔
        StandsFirst settings settings.getterPrefixes method.name property := by
    simp only [Settings.isGetterName, List.any_eq_true, isSome_accessorTail_iff,
      property?_eq_some_iff]
    constructor
    · rintro ⟨fitting, first⟩
      exact (standsFirst_append_iff fitting).mp first
    · intro first
      obtain ⟨lead, member, stands⟩ := first.standsFor
      have fitting : ∃ lead ∈ settings.getterPrefixes, Fits settings lead method.name :=
        ⟨lead, member, stands.fits⟩
      exact ⟨fitting, (standsFirst_append_iff fitting).mpr first⟩
  rw [← getter]
  simp [MethodDecl.reads, MethodDecl.isPublicInstance, IsReader, and_assoc,
    ← Option.ne_none_iff_isSome]

theorem writes_iff {method : MethodDecl} : method.writes settings property = true ↔
    IsWriter method ∧ Fits settings settings.setterPrefix method.name ∧
      StandsFirst settings (prefixes settings) method.name property := by
  rw [← property?_eq_some_iff, ← isSome_accessorTail_iff]
  simp [MethodDecl.writes, MethodDecl.isPublicInstance, IsWriter, Settings.isSetterName, and_assoc]

theorem reads_iff_of_fitsOnce {method : MethodDecl}
    (once : FitsOnce settings (prefixes settings) method.name) :
    method.reads settings property = true ↔ IsReader method ∧
      ∃ lead ∈ settings.getterPrefixes, StandsFor settings lead method.name property := by
  have getters : FitsOnce settings settings.getterPrefixes method.name := by
    intro first one second other
    exact once first (List.mem_append_left _ one) second (List.mem_append_left _ other)
  rw [reads_iff, standsFirst_iff_of_fitsOnce getters]

theorem writes_iff_of_fitsOnce {method : MethodDecl}
    (once : FitsOnce settings (prefixes settings) method.name) :
    method.writes settings property = true ↔ IsWriter method ∧
      StandsFor settings settings.setterPrefix method.name property := by
  have last : settings.setterPrefix ∈ prefixes settings := by simp [prefixes]
  rw [writes_iff, standsFirst_iff_of_fitsOnce once]
  constructor
  · rintro ⟨writer, fits, lead, member, stands⟩
    obtain rfl := once lead member _ last stands.fits fits
    exact ⟨writer, stands⟩
  · rintro ⟨writer, stands⟩
    exact ⟨writer, stands.fits, _, last, stands⟩

inductive Has (catalog : Catalog) (decl : TypeDecl) (method : MethodDecl) : Prop where
  | own : method ∈ decl.methods → Has catalog decl method
  | inherited {upper : String} {owner : TypeDecl} :
      upper ∈ catalog.superclasses decl.name ∨ upper ∈ catalog.interfaces decl.name →
      catalog.get? upper = some owner → method ∈ owner.methods → Has catalog decl method

theorem mem_accessors_iff {decl : TypeDecl} {method : MethodDecl} :
    method ∈ catalog.accessors decl ↔ Has catalog decl method := by
  simp only [Catalog.accessors, Catalog.fieldOwners, Catalog.superclassDecls,
    Catalog.interfaceDecls, List.mem_flatMap, List.mem_append, List.mem_reverse,
    List.mem_filterMap, List.mem_singleton]
  constructor
  · rintro ⟨owner, (⟨upper, above, found⟩ | rfl) | ⟨upper, above, found⟩, inside⟩
    · exact .inherited (.inl above) found inside
    · exact .own inside
    · exact .inherited (.inr above) found inside
  · rintro (inside | ⟨superclass | interface, found, inside⟩)
    · exact ⟨decl, .inl (.inr rfl), inside⟩
    · exact ⟨_, .inl (.inl ⟨_, superclass, found⟩), inside⟩
    · exact ⟨_, .inr ⟨_, interface, found⟩, inside⟩

/-- Who can read and write a declared field of a type: everyone, if it is public and for writing not
final, and otherwise those that call an accessor. The name of an accessor is read by the first
prefix that fits it, so a setter misses its property where another getter prefix fits its name. -/
structure Accessible (catalog : Catalog) (settings : Settings) (decl : TypeDecl)
    (declared : FieldDecl) (field : Field) : Prop where
  readable : field.publicReadable = true ↔ declared.access = .anyone ∨
    ∃ method, Has catalog decl method ∧ IsReader method ∧
      StandsFirst settings settings.getterPrefixes method.name declared.name
  writeable : field.publicWriteable = true ↔
    (declared.access = .anyone ∧ declared.isFinal = false) ∨
      ∃ method, Has catalog decl method ∧ IsWriter method ∧
        Fits settings settings.setterPrefix method.name ∧
        StandsFirst settings (prefixes settings) method.name declared.name
  readableByAny : (∀ method, Has catalog decl method →
      FitsOnce settings (prefixes settings) method.name) →
    (field.publicReadable = true ↔ declared.access = .anyone ∨
      ∃ method, Has catalog decl method ∧ IsReader method ∧
        ∃ lead ∈ settings.getterPrefixes, StandsFor settings lead method.name declared.name)
  writeableBySetter : (∀ method, Has catalog decl method →
      FitsOnce settings (prefixes settings) method.name) →
    (field.publicWriteable = true ↔ (declared.access = .anyone ∧ declared.isFinal = false) ∨
      ∃ method, Has catalog decl method ∧ IsWriter method ∧
        StandsFor settings settings.setterPrefix method.name declared.name)

theorem accessible_fieldOf {owner decl : TypeDecl} {isHidden : Bool} {declared : FieldDecl}
    {field : Field}
    (built : field = catalog.fieldOf settings owner (catalog.accessors decl) isHidden declared) :
    Accessible catalog settings decl declared field := by
  have read : field.publicReadable = true ↔ declared.access = .anyone ∨
      ∃ method, Has catalog decl method ∧ method.reads settings declared.name = true := by
    simp [built, Catalog.fieldOf, mem_accessors_iff]
  have written : field.publicWriteable = true ↔
      (declared.access = .anyone ∧ declared.isFinal = false) ∨
        ∃ method, Has catalog decl method ∧ method.writes settings declared.name = true := by
    simp [built, Catalog.fieldOf, mem_accessors_iff]
  constructor
  · simp only [read, reads_iff]
  · simp only [written, writes_iff]
  · intro once
    rw [read]
    refine or_congr_right (exists_congr fun method => and_congr_right fun has => ?_)
    exact reads_iff_of_fitsOnce (once method has)
  · intro once
    rw [written]
    refine or_congr_right (exists_congr fun method => and_congr_right fun has => ?_)
    exact writes_iff_of_fitsOnce (once method has)

/-- Each field of a type is one that the type or a superclass of it declares, and is accessible as
that declaration and the accessors of the type say. -/
theorem fields_accessible (catalog : Catalog) (settings : Settings) (decl : TypeDecl)
    (field : Field) (member : field ∈ catalog.fieldsOf settings decl) :
    ∃ owner ∈ catalog.fieldOwners decl, ∃ declared ∈ owner.fields,
      field.declaredBy = owner.name ∧ field.name = declared.name ∧ field.access = declared.access ∧
        Accessible catalog settings decl declared field := by
  obtain ⟨owner, inside, declared, own, isHidden, rfl⟩ := mem_fieldsFrom member
  exact ⟨owner, inside, declared, own, rfl, rfl, rfl, accessible_fieldOf rfl⟩

def number : TypeExpr := .plain "Number"

def getTotal : MethodDecl := { name := "getTotal", result := some number }

def setTotal : MethodDecl := { name := "setTotal", params := [{ name := "total", type := number }] }

def priced : TypeDecl where
  name := "Priced"
  methods := [getTotal, { name := "total", result := some number }]

def order : TypeDecl where
  name := "Order"
  interfaces := ["Priced"]
  fields := [{ name := "total", type := number }]
  methods := [setTotal]

def sales : Catalog := .collect [priced, order]

theorem standsFor_total (settings : Settings) (lead : String) :
    StandsFor settings lead (lead ++ "Total") "total" := by
  have capital : Text.isUppercase 'T' = true := by decide +kernel
  have lowered : Text.lowercase 'T' = ['t'] := by decide +kernel
  exact ⟨"Total", ⟨rfl, by decide, by simp [capital]⟩, by simp [Text.decapitalize, lowered]⟩

/-- The total of an order is read through an interface, and written by its own setter. -/
theorem fields_accessible_total : ∃ field ∈ sales.fieldsOf .default order, field.name = "total" ∧
    (∀ method, Has sales order method → FitsOnce .default (prefixes .default) method.name) ∧
    field.publicReadable = true ∧ field.publicWriteable = true := by
  obtain ⟨field, member, same⟩ := List.any_eq_true.mp
    (by decide +kernel : ((sales.fieldsOf .default order).any (·.name == "total")) = true)
  have named : field.name = "total" := beq_iff_eq.mp same
  obtain ⟨owner, _, declared, _, _, copied, _, accessible⟩ :=
    fields_accessible sales .default order field member
  rw [named] at copied
  have once (method : MethodDecl) (_ : Has sales order method) :
      FitsOnce .default (prefixes .default) method.name :=
    fitsOnce_of_prefixFree (by decide +kernel) method.name
  have above : "Priced" ∈ sales.interfaces order.name := by decide +kernel
  have found : sales.get? "Priced" = some priced := by decide +kernel
  have getter : Has sales order getTotal := .inherited (.inr above) found List.mem_cons_self
  have setter : Has sales order setTotal := .own List.mem_cons_self
  have stands (lead : String) : StandsFor .default lead (lead ++ "Total") declared.name :=
    copied ▸ standsFor_total .default lead
  refine ⟨field, member, named, once, ?_, ?_⟩
  · exact (accessible.readableByAny once).mpr
      (.inr ⟨getTotal, getter, by decide, "get", by decide, stands "get"⟩)
  · exact (accessible.writeableBySetter once).mpr
      (.inr ⟨setTotal, setter, by decide, stands "set"⟩)

/-- Where a getter may have any name, its prefix comes before that of the setters. -/
def recordStyle : Settings :=
  { Settings.default with getterPrefixes := [""], capitalizedAccessors := false }

/-- The setter then stands for a property of its own whole name, and the total cannot be written. -/
theorem total_not_written : Has sales order setTotal ∧ IsWriter setTotal ∧
    StandsFor recordStyle recordStyle.setterPrefix setTotal.name "total" ∧
    ∃ field ∈ sales.fieldsOf recordStyle order, field.name = "total" ∧
      field.publicWriteable = false := by
  refine ⟨.own List.mem_cons_self, by decide, standsFor_total recordStyle "set", ?_⟩
  decide +kernel

end DomainAtlas.Proofs.Accessors
