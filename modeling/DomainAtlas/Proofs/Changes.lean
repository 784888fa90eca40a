import Mathlib.Data.List.Induction
import DomainAtlas.Model.Changes
import DomainAtlas.Proofs.Assembly
import DomainAtlas.Proofs.Histories

/-! What a model shows of its history. Assembling a model and changing it afterwards is one sequence
of insertions and removals, and the model is what that sequence says: the last word on each name, in
the order in which the names came in for good. -/

namespace DomainAtlas.Proofs.Changes
open Histories

variable {history : List Change} {change : Change} {name : String} {model : Model}

/-- A change leaves everything as it is under other names. -/
theorem get?_apply (model : Model) {change : Change} {name : String} (elsewhere : change.name ≠ name) :
    (model.apply change).2.get? name = model.get? name := by
  cases change with
  | insert profile => exact (NameMap.get?_insert ..).trans (if_neg (Ne.symm elsewhere))
  | remove removed => exact (NameMap.get?_erase ..).trans (if_neg (Ne.symm elsewhere))

/-- The last change that is about a name inserted a profile. -/
def Holds (history : List Change) (name : String) (profile : Profile) : Prop :=
  Lasts (fun _ change => change = .insert profile ∧ profile.typeName = name) (·.name ≠ name) history

def Inserts (name : String) (change : Change) : Prop :=
  ∃ profile, change = .insert profile ∧ profile.typeName = name

def Present (history : List Change) (name : String) : Prop :=
  Lasts (fun _ change => Inserts name change) (· ≠ .remove name) history

/-- The time at which a name came in for good: it was not there before, and has not been removed
since. -/
def Since (history : List Change) (name : String) (time : Nat) : Prop :=
  Lasts (fun before change => Inserts name change ∧ ¬ Present before name ∧ before.length = time)
    (· ≠ .remove name) history

theorem inserts_insert {profile : Profile} :
    Inserts name (.insert profile) ↔ name = profile.typeName := by
  constructor
  · intro inserts
    obtain ⟨_, same, named⟩ := inserts
    cases same
    exact named.symm
  · intro same
    exact ⟨profile, rfl, same.symm⟩

theorem not_inserts_remove {removed : String} : ¬ Inserts name (.remove removed) := by
  intro inserts
  obtain ⟨_, same, _⟩ := inserts
  cases same

theorem remove_ne_iff {removed : String} :
    Change.remove removed ≠ .remove name ↔ name ≠ removed := by
  rw [Ne, Change.remove.injEq, eq_comm]

theorem holds_insert {inserted profile : Profile} :
    Holds (history ++ [.insert inserted]) name profile ↔
      if name = inserted.typeName then inserted = profile else Holds history name profile := by
  have last : IsLast Change.name (history ++ [.insert inserted]) name (.insert profile) ↔ _ :=
    isLast_concat
  rw [Change.insert.injEq] at last
  exact last

theorem holds_remove {removed : String} {profile : Profile} :
    Holds (history ++ [.remove removed]) name profile ↔
      name ≠ removed ∧ Holds history name profile := by
  rw [Holds, lasts_concat]
  simp [Change.name, Holds, eq_comm]

theorem present_insert {inserted : Profile} :
    Present (history ++ [.insert inserted]) name ↔
      name = inserted.typeName ∨ Present history name := by
  rw [Present, lasts_concat, inserts_insert]
  simp [Present]

theorem present_remove {removed : String} :
    Present (history ++ [.remove removed]) name ↔ name ≠ removed ∧ Present history name := by
  rw [Present, lasts_concat, remove_ne_iff]
  simp [not_inserts_remove, Present]

theorem since_insert {inserted : Profile} {time : Nat} :
    Since (history ++ [.insert inserted]) name time ↔
      Since history name time ∨
        name = inserted.typeName ∧ ¬ Present history name ∧ history.length = time := by
  rw [Since, lasts_concat, inserts_insert, or_comm]
  simp [Since]

theorem since_remove {removed : String} {time : Nat} :
    Since (history ++ [.remove removed]) name time ↔ name ≠ removed ∧ Since history name time := by
  rw [Since, lasts_concat, remove_ne_iff]
  simp [not_inserts_remove, Since]

theorem since_lt {time : Nat} (since : Since history name time) : time < history.length := by
  obtain ⟨before, change, after, rfl, ⟨_, _, rfl⟩, _⟩ := since
  simp

/-- A name is present just when it came in for good at some time. -/
theorem present_iff_since : Present history name ↔ ∃ time, Since history name time := by
  induction history using List.reverseRecOn with
  | nil => simp [Present, Since, not_lasts_nil]
  | append_singleton history change ih =>
    cases change with
    | insert inserted =>
      rw [present_insert]
      simp only [since_insert, exists_or, ← ih]
      by_cases present : Present history name
      · simp [present]
      · simp [present]
    | remove removed =>
      rw [present_remove, ih]
      simp only [since_remove, exists_and_left]

/-- A model shows a history: under each name what it holds, and the names that are present in the
order in which they came in. -/
structure Shows (history : List Change) (model : Model) : Prop where
  held : ∀ name profile, model.get? name = some profile ↔ Holds history name profile
  present : ∀ name, name ∈ model.names ↔ ∃ time, Since history name time
  inOrder : model.names.Pairwise fun first second =>
    ∀ i j, Since history first i → Since history second j → i < j

theorem shows_empty (packages : List String) (settings : Settings) :
    Shows [] (.empty packages settings) := by
  refine ⟨?_, ?_, .nil⟩
  · intro name profile
    constructor
    · intro found
      cases found
    · intro holds
      exact absurd holds not_lasts_nil
  · intro name
    constructor
    · intro member
      cases member
    · intro known
      obtain ⟨time, since⟩ := known
      exact absurd since not_lasts_nil

theorem Shows.insert (shows : Shows history model) (profile : Profile) :
    Shows (history ++ [.insert profile]) (model.insert profile) := by
  have names : (model.insert profile).names =
      if profile.typeName ∈ model.names then model.names
      else model.names ++ [profile.typeName] := NameMap.names_insert ..
  refine ⟨?_, ?_, ?_⟩
  · intro name held
    have found : (model.insert profile).get? name =
        if name = profile.typeName then some profile else model.get? name :=
      NameMap.get?_insert ..
    rw [found, holds_insert]
    split
    · rw [Option.some.injEq]
    · exact shows.held name held
  · intro name
    simp only [← present_iff_since, present_insert]
    rw [present_iff_since, ← shows.present, names]
    split
    next member =>
      constructor
      · exact .inr
      · intro known
        rcases known with rfl | present
        · exact member
        · exact present
    next => simp [or_comm]
  · rw [names]
    have absent : ∀ name, name ∉ model.names → ¬ Present history name := by
      intro name missing present
      exact missing ((shows.present name).mpr (present_iff_since.mp present))
    split
    next member =>
      have older : ∀ name time, Since (history ++ [.insert profile]) name time →
          Since history name time := by
        intro name time since
        rcases since_insert.mp since with since | ⟨rfl, fresh, _⟩
        · exact since
        · exact absurd (present_iff_since.mpr ((shows.present _).mp member)) fresh
      apply shows.inOrder.imp
      intro first second before i j early late
      exact before i j (older first i early) (older second j late)
    next fresh =>
      have older : ∀ name ∈ model.names, ∀ time, Since (history ++ [.insert profile]) name time →
          Since history name time := by
        intro name member time since
        rcases since_insert.mp since with since | ⟨rfl, _, _⟩
        · exact since
        · exact absurd member fresh
      apply List.pairwise_append.mpr
      refine ⟨?_, List.pairwise_singleton _ _, ?_⟩
      · apply shows.inOrder.imp_of_mem
        intro first second left right before i j early late
        exact before i j (older first left i early) (older second right j late)
      · intro first left second last i j early late
        rw [List.mem_singleton.mp last] at late
        rcases since_insert.mp late with since | ⟨_, _, rfl⟩
        · exact absurd (present_iff_since.mpr ⟨j, since⟩) (absent _ fresh)
        · exact since_lt (older first left i early)

theorem Shows.remove (shows : Shows history model) (removed : String) :
    Shows (history ++ [.remove removed]) (model.remove removed) := by
  have names : (model.remove removed).names = model.names.filter (· != removed) :=
    NameMap.names_erase ..
  refine ⟨?_, ?_, ?_⟩
  · intro name held
    have found : (model.remove removed).get? name =
        if name = removed then none else model.get? name := NameMap.get?_erase ..
    rw [found, holds_remove, ← shows.held]
    split
    next same => simp [same]
    next other => simp [other]
  · intro name
    simp only [names, since_remove, exists_and_left, List.mem_filter, shows.present, bne_iff_ne]
    exact and_comm
  · rw [names]
    apply (shows.inOrder.filter _).imp
    intro first second before i j early late
    exact before i j (since_remove.mp early).2 (since_remove.mp late).2

theorem Shows.apply (shows : Shows history model) (change : Change) :
    Shows (history ++ [change]) (model.apply change).2 := by
  cases change with
  | insert profile => exact shows.insert profile
  | remove name => exact shows.remove name

theorem Shows.after (shows : Shows history model) (changes : List Change) :
    Shows (history ++ changes) (model.after changes) := by
  induction changes generalizing history model with
  | nil =>
    rw [List.append_nil]
    exact shows
  | cons change changes ih =>
    have rest := ih (shows.apply change)
    rw [List.append_assoc] at rest
    exact rest

theorem assemble_eq (types : NameMap Profile) (packages : List String) (settings : Settings) :
    Model.assemble types packages settings =
      (Model.empty packages settings).after (types.values.map .insert) := by
  rw [Model.after, List.foldl_map]
  rfl

theorem after_keeps (model : Model) (changes : List Change) :
    (model.after changes).packages = model.packages ∧
      (model.after changes).settings = model.settings := by
  induction changes generalizing model with
  | nil => exact ⟨rfl, rfl⟩
  | cons change changes ih =>
    cases change with
    | insert profile => exact ih (model.insert profile)
    | remove name => exact ih (model.remove name)

theorem remove_insert {profile : Profile} (absent : model.get? profile.typeName = none) :
    (model.insert profile).remove profile.typeName = model := by
  have fresh : profile.typeName ∉ model.types.names := by
    intro member
    have stored := NameMap.get?_isSome_iff.mpr member
    rw [Model.get?] at absent
    simp [absent] at stored
  have types := NameMap.erase_insert_of_absent fresh profile
  cases model
  simp only [Model.remove, Model.insert, Model.mk.injEq, and_self, and_true]
  exact types

/-- What a change takes out is what the history holds under its name. -/
theorem Shows.taken_iff (shows : Shows history model) (change : Change) (profile : Profile) :
    (model.apply change).1 = some profile ↔ Holds history change.name profile := by
  cases change with
  | insert inserted => exact shows.held inserted.typeName profile
  | remove name => exact shows.held name profile

theorem Shows.keyed (shows : Shows history model) :
    ∀ entry ∈ model.types.entries, entry.1 = entry.2.typeName := by
  intro ⟨name, profile⟩ member
  obtain ⟨_, _, _, _, ⟨_, named⟩, _⟩ :=
    (shows.held name profile).mp (NameMap.get?_eq_some_iff.mpr member)
  exact named.symm

/-- Each of the given texts once, in the order in which they first occur. -/
structure EachOnce (given kept : List String) : Prop where
  same : ∀ text, text ∈ kept ↔ text ∈ given
  once : kept.Nodup
  inOrder : kept.Pairwise fun first second => given.idxOf first < given.idxOf second

theorem eachOnce_distinct (given : List String) : EachOnce given (distinct given) :=
  ⟨fun _ => mem_distinct, nodup_distinct given, pairwise_distinct given⟩

/-- A model that was assembled from profiles, whatever their keys, and then changed is a map by type
name that keeps the order in which the names came in. -/
theorem changes_shown (types : NameMap Profile) (packages : List String) (settings : Settings)
    (changes : List Change) :
    let model := (Model.assemble types packages settings).after changes
    let history := types.values.map Change.insert ++ changes
    Shows history model ∧
    (∀ entry ∈ model.types.entries, entry.1 = entry.2.typeName) ∧
    (∀ change profile, (model.apply change).1 = some profile ↔ Holds history change.name profile) ∧
    EachOnce packages model.packages ∧ model.settings = settings ∧
    (∀ others : NameMap Profile, others.values = types.values →
      Model.assemble others packages settings = Model.assemble types packages settings) ∧
    ∀ profile, model.get? profile.typeName = none →
      (model.apply (.insert profile)).2.apply (.remove profile.typeName) = (some profile, model) := by
  intro model history
  have shows : Shows history model := by
    have assembled := (shows_empty packages settings).after (types.values.map .insert)
    rw [← assemble_eq] at assembled
    exact assembled.after changes
  obtain ⟨keptPackages, keptSettings⟩ :=
    after_keeps (Model.assemble types packages settings) changes
  refine ⟨shows, shows.keyed, shows.taken_iff, ?_, ?_, ?_, ?_⟩
  · rw [keptPackages, Assembly.packages_assemble]
    exact eachOnce_distinct packages
  · rw [keptSettings, Assembly.settings_assemble]
  · intro others same
    rw [assemble_eq, assemble_eq, same]
  · intro profile absent
    have found : (model.insert profile).get? profile.typeName = some profile :=
      (NameMap.get?_insert ..).trans (if_pos rfl)
    exact Prod.ext found (remove_insert absent)

def drafts : NameMap Profile := .ofList [
  ("first", { typeName := "Order", kind := .entity {} }),
  ("second", { typeName := "Invoice", kind := .valueObject }),
  ("third", { typeName := "Order", kind := .aggregateRoot {} })]

def numbered : NameMap Profile := .ofList (["1", "2", "3"].zip drafts.values)

def receipt : Profile := { typeName := "Receipt", kind := .domainEvent }

def revised : Model :=
  (Model.assemble drafts ["shop", "stock", "shop"] .default).after
    [.remove "Order", .insert { typeName := "Order", kind := .entity {} }]

theorem changes_shown_revised :
    numbered.values = drafts.values ∧
    Model.assemble numbered ["shop", "stock", "shop"] .default =
      Model.assemble drafts ["shop", "stock", "shop"] .default ∧
    revised.names = ["Invoice", "Order"] ∧ EachOnce ["shop", "stock", "shop"] revised.packages ∧
    revised.get? "Receipt" = none ∧
    (revised.apply (.insert receipt)).2.apply (.remove "Receipt") = (some receipt, revised) := by
  have same : numbered.values = drafts.values := by decide +kernel
  have absent : revised.get? receipt.typeName = none := by decide +kernel
  have names : revised.names = ["Invoice", "Order"] := by decide +kernel
  obtain ⟨_, _, _, packages, _, byValue, fresh⟩ :=
    changes_shown drafts ["shop", "stock", "shop"] .default
      [.remove "Order", .insert { typeName := "Order", kind := .entity {} }]
  exact ⟨same, byValue numbered same, names, packages, absent, fresh receipt absent⟩

end DomainAtlas.Proofs.Changes
