import Mathlib.Data.List.Basic

/-! Histories are lists of events, the latest one last. What an event has started lasts until an
event comes that does not let it. -/

namespace DomainAtlas.Proofs.Histories

universe u v

variable {α : Type u} {β : Type v} {starts : List α → α → Prop} {lets : α → Prop}
  {history : List α} {event : α}

/-- Some event started it, after what had come before, and every later event lets it last. -/
def Lasts (starts : List α → α → Prop) (lets : α → Prop) (history : List α) : Prop :=
  ∃ before event after, history = before ++ event :: after ∧ starts before event ∧
    ∀ later ∈ after, lets later

theorem not_lasts_nil : ¬ Lasts starts lets [] := by
  intro lasts
  obtain ⟨before, event, after, split, _⟩ := lasts
  exact absurd split.symm (by simp)

/-- A list with one more element is split at that element or before it. -/
private theorem concat_eq_split {items before after : List α} {last middle : α}
    (same : items ++ [last] = before ++ middle :: after) :
    (before = items ∧ middle = last ∧ after = []) ∨
      ∃ rest, after = rest ++ [last] ∧ items = before ++ middle :: rest := by
  rcases List.eq_nil_or_concat after with rfl | ⟨rest, final, rfl⟩
  · obtain ⟨front, back⟩ := List.append_inj' same rfl
    cases back
    exact .inl ⟨front.symm, rfl, rfl⟩
  · rw [List.concat_eq_append, ← List.cons_append, ← List.append_assoc] at same
    obtain ⟨front, back⟩ := List.append_inj' same rfl
    cases back
    exact .inr ⟨rest, List.concat_eq_append, front⟩

/-- The latest event starts it anew, or it had lasted before and is let last. -/
theorem lasts_concat :
    Lasts starts lets (history ++ [event]) ↔
      starts history event ∨ lets event ∧ Lasts starts lets history := by
  constructor
  · intro lasts
    obtain ⟨before, first, after, split, started, later⟩ := lasts
    rcases concat_eq_split split with ⟨rfl, rfl, rfl⟩ | ⟨rest, rfl, rfl⟩
    · exact .inl started
    · obtain ⟨kept, last⟩ := List.forall_mem_append.mp later
      exact .inr ⟨last event List.mem_cons_self, before, first, rest, rfl, started, kept⟩
  · intro now
    cases now with
    | inl started => exact ⟨history, event, [], rfl, started, fun _ member => nomatch member⟩
    | inr lasting =>
      obtain ⟨last, before, first, rest, rfl, started, kept⟩ := lasting
      refine ⟨before, first, rest ++ [event], by simp, started, ?_⟩
      exact List.forall_mem_append.mpr ⟨kept, List.forall_mem_singleton.mpr last⟩

def IsLast (key : α → β) (history : List α) (index : β) (event : α) : Prop :=
  Lasts (fun _ given => given = event ∧ key event = index) (key · ≠ index) history

theorem not_isLast_nil {key : α → β} {index : β} : ¬ IsLast key [] index event := not_lasts_nil

theorem isLast_concat [DecidableEq β] {key : α → β} {index : β} {latest : α} :
    IsLast key (history ++ [latest]) index event ↔
      if index = key latest then latest = event else IsLast key history index event := by
  rw [IsLast, lasts_concat]
  split
  next same =>
    constructor
    · intro said
      rcases said with ⟨held, _⟩ | ⟨other, _⟩
      · exact held
      · exact absurd same.symm other
    · intro held
      exact .inl ⟨held, held ▸ same.symm⟩
  next other =>
    constructor
    · intro said
      rcases said with ⟨rfl, same⟩ | ⟨_, held⟩
      · exact absurd same.symm other
      · exact held
    · intro held
      exact .inr ⟨Ne.symm other, held⟩

end DomainAtlas.Proofs.Histories
