import Mathlib.Data.List.Induction
import DomainAtlas.Proofs.Histories
import DomainAtlas.Registry.Session

/-! What a registry holds after a run of calls: the model of the last call that supplied one, unless
a reset came after it. What was handed out on the way stays as it was. -/

namespace DomainAtlas.Proofs.RegistryRuns
open Histories

variable {calls : List Call} {call : Call} {session : Session} {registry : Registry} {model : Model}
  {query : Query}

/-- A call puts a model in use: one that is given, or the one that is assembled from what a factory
makes. -/
inductive Supplies : Call → Model → Prop
  | adopt {factory : Factory} {types : NameMap Profile} (made : factory.profiles = .ok types) :
      Supplies (.adopt factory) (.assemble types factory.packages .default)
  | adoptWith {factory : Factory} {types : NameMap Profile} (settings : Settings)
      (made : factory.profiles = .ok types) :
      Supplies (.adoptWith factory settings) (.assemble types factory.packages settings)
  | install (model : Model) : Supplies (.install model) model

def Initialized (calls : List Call) : Prop :=
  Lasts (fun _ call => ∃ model, Supplies call model) (· ≠ .reset) calls

/-- The model was supplied, and since then no other and no reset has come. -/
def InUse (calls : List Call) (model : Model) : Prop :=
  Lasts (fun _ call => Supplies call model)
    (fun call => call ≠ .reset ∧ ∀ other, ¬ Supplies call other) calls

/-- The snapshot was handed out at some time, and it is of the model that was in use then. -/
def Taken (calls : List Call) (snapshot : Snapshot) : Prop :=
  ∃ before query after, calls = before ++ Call.ask query :: after ∧
    snapshot ∈ query.snapshots ((({} : Session).after before).registry.query query) ∧
    InUse before snapshot.source

def answerFrom (model : Model) : (query : Query) → Except Fault query.Answer
  | .model => .ok model
  | .about question => .ok (question model)
  | .profile name => .ok (model.get? name)
  | .typed (some role) name => (model.lookup role name).map View.profile
  | .typed none name =>
    match model.get? name with
    | some profile => .error (.wrongRole none profile.role name)
    | none => .error (.notFound none name)
  | .lookup role name => model.lookup role name
  | .contains name => .ok (model.contains name)
  | .packages => .ok model.packages
  | .contexts => .ok model.contexts
  | .context package => .ok (model.context? package)
  | .repositoryFor aggregate => model.repositoryFor aggregate

theorem adopt_ok {factory : Factory} {types : NameMap Profile}
    (made : factory.profiles = .ok types) (session : Session) (settings : Settings) :
    session.adopt factory settings =
      (.ok (), { session with
        registry := ⟨some (.assemble types factory.packages settings)⟩ }) := by
  simp [Session.adopt, Registry.adopt, Factory.model, made, bind, Except.bind, pure, Except.pure,
    Registry.install]

theorem adopt_error {factory : Factory} {fault : Fault}
    (failed : factory.profiles = .error fault) (session : Session) (settings : Settings) :
    session.adopt factory settings = (.error fault, session) := by
  simp [Session.adopt, Registry.adopt, Factory.model, failed, bind, Except.bind]

theorem current_of_supplies (supplied : Supplies call model) (session : Session) :
    (session.call call).2.registry.current = some model := by
  cases supplied with
  | adopt made => simp only [Session.call, adopt_ok made]
  | adoptWith settings made => simp only [Session.call, adopt_ok made]
  | install => rfl

/-- Only a reset and a call that supplies a model change what a registry holds. -/
theorem registry_unchanged (kept : call ≠ .reset) (supplied : ∀ model, ¬ Supplies call model)
    (session : Session) : (session.call call).2.registry = session.registry := by
  cases call with
  | adopt factory =>
    cases made : factory.profiles with
    | ok types => exact absurd (.adopt made) (supplied _)
    | error fault => simp only [Session.call, adopt_error made]
  | adoptWith factory settings =>
    cases made : factory.profiles with
    | ok types => exact absurd (.adoptWith settings made) (supplied _)
    | error fault => simp only [Session.call, adopt_error made]
  | install model => exact absurd (.install model) (supplied _)
  | reset => exact absurd rfl kept
  | isInitialized => rfl
  | ask query => rfl

theorem supplies_unique {other : Model} (supplied : Supplies call model)
    (also : Supplies call other) : model = other := by
  have first := current_of_supplies supplied {}
  rw [current_of_supplies also {}] at first
  exact (Option.some.inj first).symm

theorem not_supplies_reset : ¬ Supplies .reset model := by
  intro supplied
  cases supplied

/-- What a registry holds after a call comes from the call, or was there before. -/
theorem current_call :
    (session.call call).2.registry.current = some model ↔
      Supplies call model ∨
        (call ≠ .reset ∧ ∀ other, ¬ Supplies call other) ∧
          session.registry.current = some model := by
  -- Calls that supply a model, the reset, and calls that leave the registry alone.
  by_cases supplied : ∃ other, Supplies call other
  · obtain ⟨other, given⟩ := supplied
    rw [current_of_supplies given, Option.some.injEq]
    constructor
    · intro same
      exact .inl (same ▸ given)
    · intro held
      rcases held with again | ⟨⟨_, none⟩, _⟩
      · exact supplies_unique given again
      · exact absurd given (none other)
  · have none : ∀ other, ¬ Supplies call other := not_exists.mp supplied
    by_cases cleared : call = .reset
    · subst cleared
      simp [Session.call, Registry.reset, not_supplies_reset]
    · rw [registry_unchanged cleared none]
      simp [none, cleared]

theorem isInitialized_call :
    (session.call call).2.registry.isInitialized ↔
      (∃ model, Supplies call model) ∨ call ≠ .reset ∧ session.registry.isInitialized := by
  simp only [Registry.isInitialized, Option.isSome_iff_exists, current_call, exists_or,
    exists_and_left]
  by_cases supplied : ∃ model, Supplies call model
  · simp [supplied]
  · simp [not_exists.mp supplied]

theorem query_none (missing : registry.current = none) :
    registry.query query = .error .notInitialized := by
  obtain ⟨current⟩ := registry
  cases missing
  cases query <;> rfl

/-- A profile that must have a role is one that the model has a view of. -/
theorem typed_some {role : Role} {name : String} :
    (Registry.mk (some model)).typed (some role) name =
      (model.lookup role name).map View.profile := by
  have asked : (Registry.mk (some model)).profile? name = .ok (model.get? name) := rfl
  simp only [Registry.typed, asked, bind, Except.bind, Model.lookup]
  cases model.get? name with
  | none => rfl
  | some profile =>
    by_cases same : profile.role = role
    · simp [Profile.as?, same, Except.map, View.profile]
    · simp [Profile.as?, same, Except.map]

theorem typed_none {name : String} :
    (Registry.mk (some model)).typed none name = answerFrom model (.typed none name) := by
  have asked : (Registry.mk (some model)).profile? name = .ok (model.get? name) := rfl
  simp only [Registry.typed, asked, bind, Except.bind, answerFrom]
  cases model.get? name with
  | none => rfl
  | some profile => rfl

theorem query_some (held : registry.current = some model) :
    registry.query query = answerFrom model query := by
  obtain ⟨current⟩ := registry
  cases held
  cases query with
  | typed tag name =>
    cases tag with
    | some role => exact typed_some
    | none => exact typed_none
  | _ => rfl

theorem lookup_ne_notInitialized (model : Model) (role : Role) (name : String) :
    model.lookup role name ≠ .error .notInitialized := by
  rw [Model.lookup]
  cases model.get? name with
  | none => simp
  | some profile => cases viewed : profile.as? role <;> simp [viewed]

theorem repositoryFor_ne_notInitialized (model : Model) (aggregate : String) :
    model.repositoryFor aggregate ≠ .error .notInitialized := by
  rw [Model.repositoryFor]
  split <;> simp

/-- A model that answers never says that there is none. -/
theorem answerFrom_ne_notInitialized : answerFrom model query ≠ .error .notInitialized := by
  cases query with
  | typed tag name =>
    cases tag with
    | some role =>
      have found := lookup_ne_notInitialized model role name
      rw [answerFrom]
      cases answer : model.lookup role name with
      | ok view => simp [Except.map]
      | error fault => simpa [Except.map, answer] using found
    | none =>
      rw [answerFrom]
      cases model.get? name <;> simp
  | lookup role name => exact lookup_ne_notInitialized model role name
  | repositoryFor aggregate => exact repositoryFor_ne_notInitialized model aggregate
  | _ => simp [answerFrom]

theorem query_eq_notInitialized_iff :
    registry.query query = .error .notInitialized ↔ registry.current = none := by
  constructor
  · intro missing
    cases held : registry.current with
    | none => rfl
    | some model =>
      rw [query_some held] at missing
      exact absurd missing answerFrom_ne_notInitialized
  · exact query_none

/-- Snapshots are of the model that is in use when they are handed out. -/
theorem source_of_mem_snapshots {snapshot : Snapshot}
    (handed : snapshot ∈ query.snapshots (registry.query query)) :
    registry.current = some snapshot.source := by
  cases held : registry.current with
  | none =>
    rw [query_none held] at handed
    cases query <;> cases handed
  | some model =>
    rw [query_some held] at handed
    cases query with
    | model =>
      rw [List.mem_singleton.mp handed]
      rfl
    | contexts =>
      obtain ⟨context, member, rfl⟩ := List.mem_map.mp handed
      obtain ⟨package, _, rfl⟩ := List.mem_map.mp member
      rfl
    | context package =>
      simp only [answerFrom, Model.context?] at handed
      by_cases known : package ∈ model.packages
      · rw [if_pos known] at handed
        rw [List.mem_singleton.mp handed]
        rfl
      · rw [if_neg known] at handed
        cases handed
    | _ => cases handed

theorem after_concat (session : Session) (calls : List Call) (call : Call) :
    session.after (calls ++ [call]) = ((session.after calls).call call).2 :=
  List.foldl_concat ..

theorem current_after (calls : List Call) (model : Model) :
    (({} : Session).after calls).registry.current = some model ↔ InUse calls model := by
  induction calls using List.reverseRecOn with
  | nil => simp [Session.after, InUse, not_lasts_nil]
  | append_singleton calls call ih => rw [after_concat, current_call, InUse, lasts_concat, ih, InUse]

theorem isInitialized_after (calls : List Call) :
    (({} : Session).after calls).registry.isInitialized ↔ Initialized calls := by
  induction calls using List.reverseRecOn with
  | nil => simp [Session.after, Registry.isInitialized, Initialized, not_lasts_nil]
  | append_singleton calls call ih =>
    rw [after_concat, isInitialized_call, Initialized, lasts_concat, ih, Initialized]

theorem kept_call (session : Session) (call : Call) :
    session.kept <+: (session.call call).2.kept := by
  cases call with
  | ask query => exact List.prefix_append ..
  | _ => exact List.prefix_refl _

theorem kept_after (session : Session) (calls : List Call) :
    session.kept <+: (session.after calls).kept := by
  induction calls generalizing session with
  | nil => exact List.prefix_refl _
  | cons call calls ih => exact (kept_call session call).trans (ih _)

/-- Every snapshot that a run has handed out is of the model that was in use when it was asked for. -/
theorem taken_of_mem_kept {snapshot : Snapshot}
    (mem : snapshot ∈ (({} : Session).after calls).kept) : Taken calls snapshot := by
  induction calls using List.reverseRecOn with
  | nil => cases mem
  | append_singleton calls call ih =>
    -- What was taken in the run so far still is, with one more call behind it.
    have earlier : snapshot ∈ (({} : Session).after calls).kept →
        Taken (calls ++ [call]) snapshot := by
      intro old
      obtain ⟨before, query, after, rfl, handed⟩ := ih old
      exact ⟨before, query, after ++ [call], by simp, handed⟩
    rw [after_concat] at mem
    cases call with
    | ask query =>
      rcases List.mem_append.mp mem with old | handed
      · exact earlier old
      · have inUse := (current_after calls _).mp (source_of_mem_snapshots handed)
        exact ⟨calls, query, [], rfl, handed, inUse⟩
    | _ => exact earlier mem

/-- After a run a registry is initialized just when a model was supplied since the last reset, and
holds the latest one. A factory that fails changes nothing, a question is answered by the model in
use, and what was handed out stays of the model that was in use then. -/
theorem registry_runs (calls : List Call) :
    let session := ({} : Session).after calls
    (session.registry.isInitialized ↔ Initialized calls) ∧
    (∀ model, session.registry.current = some model ↔ InUse calls model) ∧
    session.call .isInitialized = (session.registry.isInitialized, session) ∧
    (∀ factory settings fault, factory.profiles = .error fault →
      session.call (.adopt factory) = (.error fault, session) ∧
      session.call (.adoptWith factory settings) = (.error fault, session)) ∧
    (∀ factory settings types, factory.profiles = .ok types →
      (session.call (.adopt factory)).1 = .ok () ∧
      (session.call (.adoptWith factory settings)).1 = .ok ()) ∧
    (∀ query,
      (session.call (.ask query)).2.registry = session.registry ∧
      ((session.call (.ask query)).1 = .error .notInitialized ↔ session.registry.current = none) ∧
      ∀ model, session.registry.current = some model →
        (session.call (.ask query)).1 = answerFrom model query) ∧
    (∀ query more, session.kept ++ query.snapshots (session.call (.ask query)).1 <+:
      (session.after (.ask query :: more)).kept) ∧
    ∀ snapshot ∈ session.kept, Taken calls snapshot := by
  intro session
  refine ⟨isInitialized_after calls, current_after calls, rfl, ?_, ?_, ?_, ?_, ?_⟩
  · intro factory settings fault failed
    exact ⟨adopt_error failed session .default, adopt_error failed session settings⟩
  · intro factory settings types made
    exact ⟨congrArg Prod.fst (adopt_ok made session .default),
      congrArg Prod.fst (adopt_ok made session settings)⟩
  · intro query
    exact ⟨rfl, query_eq_notInitialized_iff, fun model held => query_some held⟩
  · intro query more
    exact kept_after (session.call (.ask query)).2 more
  · intro snapshot mem
    exact taken_of_mem_kept mem

def wares : NameMap Profile :=
  .ofList [("Order", { typeName := "shop.Order", kind := .aggregateRoot {} })]

def opening : Factory := ⟨.ok wares, ["shop"]⟩

def broken : Factory := ⟨.error (.factory "scan failed"), []⟩

def shop : Model := .assemble wares ["shop"] .default

def opened : Session := ({} : Session).after [.adopt opening, .adopt broken]

theorem registry_runs_opened :
    opened.registry.current = some shop ∧
    opened.call (.adopt broken) = (.error (.factory "scan failed"), opened) ∧
    (opened.call (.adopt opening)).1 = .ok () ∧
    (opened.call (.ask .contexts)).1 = .ok [⟨shop, "shop"⟩] ∧
    [.context ⟨shop, "shop"⟩] <+: (opened.after [.ask .contexts, .reset]).kept ∧
    Taken [.adopt opening, .adopt broken, .ask .contexts, .reset] (.context ⟨shop, "shop"⟩) := by
  obtain ⟨_, _, _, failing, working, asking, keeping, _⟩ :=
    registry_runs [.adopt opening, .adopt broken]
  have held : opened.registry.current = some shop := rfl
  have answered : (opened.call (.ask .contexts)).1 = .ok [⟨shop, "shop"⟩] :=
    (asking .contexts).2.2 shop held
  have kept : [.context ⟨shop, "shop"⟩] <+: (opened.after [.ask .contexts, .reset]).kept :=
    keeping .contexts [.reset]
  obtain ⟨_, _, _, _, _, _, _, taken⟩ :=
    registry_runs [.adopt opening, .adopt broken, .ask .contexts, .reset]
  exact ⟨held, (failing broken .default _ rfl).1, (working opening .default _ rfl).1, answered, kept,
    taken _ (kept.subset List.mem_cons_self)⟩

end DomainAtlas.Proofs.RegistryRuns
