/-! The first element of each key in a list, and the only element of a list. -/

namespace DomainAtlas

variable {α β : Type} [DecidableEq β]

/-- The elements of a list that come first with their key, in order. -/
def firstsBy (key : α → β) : List α → List α
  | [] => []
  | x :: xs => x :: (firstsBy key xs).filter (key · ≠ key x)

theorem firstsBy_sublist (key : α → β) (xs : List α) : (firstsBy key xs).Sublist xs := by
  induction xs with
  | nil => exact .slnil
  | cons x xs ih => exact (List.filter_sublist.trans ih).cons_cons x

theorem mem_of_mem_firstsBy {key : α → β} {xs : List α} {x : α} (member : x ∈ firstsBy key xs) :
    x ∈ xs := (firstsBy_sublist key xs).subset member

theorem nodup_map_firstsBy (key : α → β) (xs : List α) : ((firstsBy key xs).map key).Nodup := by
  induction xs with
  | nil => simp [firstsBy]
  | cons x xs ih =>
    rw [firstsBy, List.map_cons, List.nodup_cons]
    refine ⟨?_, ih.sublist (List.filter_sublist.map key)⟩
    simp

theorem mem_map_firstsBy (key : α → β) {xs : List α} {k : β} :
    k ∈ (firstsBy key xs).map key ↔ k ∈ xs.map key := by
  induction xs with
  | nil => simp [firstsBy]
  | cons x xs ih =>
    by_cases same : k = key x
    · simp [firstsBy, same]
    · simp only [firstsBy, List.map_cons, List.mem_cons, same, false_or, ← ih]
      simp only [List.mem_map, List.mem_filter, decide_eq_true_eq]
      constructor
      · rintro ⟨a, ⟨mem, _⟩, rfl⟩
        exact ⟨a, mem, rfl⟩
      · rintro ⟨a, mem, rfl⟩
        exact ⟨a, ⟨mem, same⟩, rfl⟩

/-- An element comes first with its key when the search for the key finds it. -/
theorem mem_firstsBy_iff {key : α → β} {xs : List α} {x : α} :
    x ∈ firstsBy key xs ↔ xs.find? (fun y => decide (key y = key x)) = some x := by
  induction xs with
  | nil => simp [firstsBy]
  | cons a xs ih =>
    rw [firstsBy, List.mem_cons, List.mem_filter, List.find?_cons, ih]
    by_cases same : key a = key x
    · simp [same, eq_comm]
    · have other : x ≠ a := fun equal => same (equal ▸ rfl)
      simp [same, other, Ne.symm same]

theorem firstsBy_append (key : α → β) (xs ys : List α) :
    firstsBy key (xs ++ ys) = firstsBy key xs ++ (firstsBy key ys).filter (key · ∉ xs.map key) := by
  induction xs with
  | nil => exact (List.filter_eq_self.mpr (by simp)).symm
  | cons x xs ih =>
    rw [List.cons_append, firstsBy, ih, List.filter_append, List.filter_filter, firstsBy,
      List.cons_append]
    simp [not_or]

theorem mem_or_new_of_mem_firstsBy {key : α → β} {xs ys : List α} {x : α}
    (member : x ∈ firstsBy key (xs ++ ys)) : x ∈ xs ∨ key x ∉ xs.map key := by
  rw [firstsBy_append, List.mem_append, List.mem_filter] at member
  rcases member with early | ⟨_, new⟩
  · exact .inl (mem_of_mem_firstsBy early)
  · exact .inr (of_decide_eq_true new)

theorem firstsBy_concat_of_mem {key : α → β} {xs : List α} {x : α} (taken : key x ∈ xs.map key) :
    firstsBy key (xs ++ [x]) = firstsBy key xs := by
  rw [firstsBy_append, List.filter_eq_nil_iff.mpr, List.append_nil]
  simpa [firstsBy] using taken

theorem firstsBy_concat_of_not_mem {key : α → β} {xs : List α} {x : α}
    (fresh : key x ∉ xs.map key) : firstsBy key (xs ++ [x]) = firstsBy key xs ++ [x] := by
  rw [firstsBy_append, List.filter_eq_self.mpr]
  · rfl
  · simpa [firstsBy] using fresh

theorem filter_firstsBy (key : α → β) (keep : β → Bool) (xs : List α) :
    (firstsBy key xs).filter (fun x => keep (key x)) =
      firstsBy key (xs.filter fun x => keep (key x)) := by
  induction xs with
  | nil => rfl
  | cons x xs ih =>
    have later : ((firstsBy key xs).filter (key · ≠ key x)).filter (fun x => keep (key x)) =
        (firstsBy key (xs.filter fun x => keep (key x))).filter (key · ≠ key x) := by
      rw [← ih, List.filter_filter, List.filter_filter]
      simp only [Bool.and_comm]
    rw [firstsBy, List.filter_cons, List.filter_cons, later]
    split
    · rfl
    next dropped =>
      apply List.filter_eq_self.mpr
      intro other member
      have kept := (List.mem_filter.mp (mem_of_mem_firstsBy member)).2
      have different : key other ≠ key x := fun same => dropped (same ▸ kept)
      simpa using different

theorem map_firstsBy {γ : Type} (key : α → β) (f : γ → α) (xs : List γ) :
    (firstsBy (fun x => key (f x)) xs).map f = firstsBy key (xs.map f) := by
  induction xs with
  | nil => rfl
  | cons x xs ih =>
    rw [firstsBy, List.map_cons, List.map_cons, firstsBy, ← ih, List.filter_map]
    rfl

/-- The elements of a list, each where it comes first. -/
def distinct (xs : List β) : List β := firstsBy id xs

theorem distinct_cons (x : β) (xs : List β) :
    distinct (x :: xs) = x :: (distinct xs).filter (· ≠ x) := rfl

theorem distinct_concat (xs : List β) (x : β) :
    distinct (xs ++ [x]) = if x ∈ xs then distinct xs else distinct xs ++ [x] := by
  unfold distinct
  split
  next known => exact firstsBy_concat_of_mem (by simpa using known)
  next new => exact firstsBy_concat_of_not_mem (by simpa using new)

theorem nodup_distinct (xs : List β) : (distinct xs).Nodup := by
  simpa [distinct] using nodup_map_firstsBy id xs

@[simp] theorem mem_distinct {xs : List β} {x : β} : x ∈ distinct xs ↔ x ∈ xs := by
  simpa [distinct] using @mem_map_firstsBy _ _ _ id xs x

/-- The distinct elements stand in the order in which they first occur. -/
theorem pairwise_distinct (xs : List β) :
    (distinct xs).Pairwise fun first second => xs.idxOf first < xs.idxOf second := by
  induction xs with
  | nil => exact .nil
  | cons x xs ih =>
    have later : ∀ y, y ≠ x → (x :: xs).idxOf y = xs.idxOf y + 1 := by
      intro y other
      rw [List.idxOf_cons, beq_false_of_ne (Ne.symm other), cond_false]
    rw [distinct_cons, List.pairwise_cons]
    constructor
    · intro y member
      have other : y ≠ x := by simpa using (List.mem_filter.mp member).2
      rw [List.idxOf_cons_self, later y other]
      exact Nat.zero_lt_succ _
    · apply (ih.filter _).imp_of_mem
      intro first second left right before
      have notFirst : first ≠ x := by simpa using (List.mem_filter.mp left).2
      have notSecond : second ≠ x := by simpa using (List.mem_filter.mp right).2
      rw [later first notFirst, later second notSecond]
      exact Nat.succ_lt_succ before

theorem filter_distinct (keep : β → Bool) (xs : List β) :
    (distinct xs).filter keep = distinct (xs.filter keep) := filter_firstsBy id keep xs

theorem distinct_of_nodup {xs : List β} (nodup : xs.Nodup) : distinct xs = xs := by
  unfold distinct
  induction xs with
  | nil => rfl
  | cons x xs ih =>
    obtain ⟨fresh, rest⟩ := List.nodup_cons.mp nodup
    rw [firstsBy, ih rest, List.filter_eq_self.mpr]
    intro other member
    simpa using fun same : other = x => fresh (same ▸ member)

/-- The one element of a list that has just one. -/
def only? : List α → Option α
  | [one] => some one
  | _ => none

@[simp] theorem only?_eq_some_iff {xs : List α} {x : α} : only? xs = some x ↔ xs = [x] := by
  unfold only?
  split <;> simp_all

theorem only?_map {γ : Type} (f : α → γ) (xs : List α) : only? (xs.map f) = (only? xs).map f := by
  match xs with
  | [] => rfl
  | [_] => rfl
  | _ :: _ :: _ => rfl

theorem only?_perm {xs ys : List α} (same : xs.Perm ys) : only? xs = only? ys := by
  apply Option.ext
  intro x
  simp only [only?_eq_some_iff, ← List.perm_singleton]
  exact ⟨same.symm.trans, same.trans⟩

end DomainAtlas
