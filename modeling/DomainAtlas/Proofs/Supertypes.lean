import Mathlib.Data.List.Nodup
import Mathlib.Logic.Relation
import DomainAtlas.Catalog.Hierarchy

/-! The superclasses and the interfaces of a type together are what stands above it. Superclasses
are followed in a line and interfaces breadth first, so neither list is closed by itself: the
interfaces of a superclass are among the interfaces, and so are the superclasses of an interface. -/

open Relation (ReflTransGen TransGen)

namespace DomainAtlas.Proofs.Supertypes

def Extends (catalog : Catalog) (name upper : String) : Prop :=
  ∃ decl, catalog.get? name = some decl ∧ decl.superclass = some upper

def Implements (catalog : Catalog) (name upper : String) : Prop :=
  ∃ decl, catalog.get? name = some decl ∧ upper ∈ decl.interfaces

def Above (catalog : Catalog) (name upper : String) : Prop :=
  Extends catalog name upper ∨ Implements catalog name upper

variable {catalog : Catalog}

theorem Extends.unique {name first second : String} (left : Extends catalog name first)
    (right : Extends catalog name second) : first = second := by
  obtain ⟨_, found, superclass⟩ := left
  obtain ⟨_, same, other⟩ := right
  rw [found] at same
  cases same
  rw [superclass] at other
  exact Option.some.inj other

theorem mem_supertypes_iff {name upper : String} :
    upper ∈ catalog.supertypes name ↔ Above catalog name upper := by
  unfold Catalog.supertypes Above Extends Implements
  cases catalog.get? name with
  | none => simp
  | some decl => simp [TypeDecl.supertypes, or_comm]

theorem mem_declaredInterfaces_iff {name upper : String} :
    upper ∈ catalog.declaredInterfaces name ↔ Implements catalog name upper := by
  unfold Catalog.declaredInterfaces Implements
  cases catalog.get? name <;> simp

/-- A name that a search had to add to those it has seen is one that it has found. -/
private theorem seen_or_found {name first : String} {seen found : List String}
    (known : name ∈ first :: seen ∨ name ∈ found) : name ∈ seen ∨ name ∈ first :: found := by
  simp only [List.mem_cons] at known ⊢
  tauto

/-- A search that finds a new name first and then only names that differ from it and from those
seen before finds none twice. -/
private theorem fresh_cons {first : String} {seen found : List String} (unseen : first ∉ seen)
    (rest : found.Nodup ∧ ∀ name ∈ found, name ∉ first :: seen) :
    (first :: found).Nodup ∧ ∀ name ∈ first :: found, name ∉ seen := by
  refine ⟨List.nodup_cons.mpr ⟨fun again => rest.2 first again List.mem_cons_self, rest.1⟩, ?_⟩
  intro name member
  rcases List.mem_cons.mp member with rfl | later
  · exact unseen
  · exact fun old => rest.2 name later (List.mem_cons_of_mem _ old)

/-- The line above a name, given the names already in it. It ends where there is no superclass or
one that was seen. -/
inductive Line (catalog : Catalog) : List String → String → List String → Prop where
  | stop {seen name} (ends : ∀ upper, Extends catalog name upper → upper ∈ seen) :
      Line catalog seen name []
  | next {seen name upper rest} (extend : Extends catalog name upper) (fresh : upper ∉ seen)
      (line : Line catalog (upper :: seen) upper rest) : Line catalog seen name (upper :: rest)

private theorem line_undescribed {seen : List String} {name : String}
    (absent : catalog.get? name = none) : Line catalog seen name [] := by
  apply Line.stop
  rintro _ ⟨_, found, _⟩
  simp [absent] at found

theorem line_superclassesFrom {seen : List String} {name : String} {decl : TypeDecl}
    (found : catalog.get? name = some decl) :
    Line catalog seen name (catalog.superclassesFrom seen decl) := by
  fun_induction Catalog.superclassesFrom catalog seen decl generalizing name with
  | case1 seen decl absent =>
    apply Line.stop
    rintro upper extend
    obtain ⟨_, same, superclass⟩ := extend
    rw [found] at same
    cases same
    simp [absent] at superclass
  | case2 seen decl upper superclass old =>
    apply Line.stop
    intro other extend
    exact extend.unique ⟨decl, found, superclass⟩ ▸ old
  | case3 seen decl upper superclass fresh ih =>
    refine Line.next ⟨decl, found, superclass⟩ fresh ?_
    split
    next absent => exact line_undescribed absent
    next above described => exact ih above described described

theorem line_superclasses (catalog : Catalog) (name : String) :
    Line catalog [name] name (catalog.superclasses name) := by
  unfold Catalog.superclasses
  split
  next absent => exact line_undescribed absent
  next found => exact line_superclassesFrom found

theorem Line.unique {seen left right : List String} {name : String}
    (one : Line catalog seen name left) (other : Line catalog seen name right) : left = right := by
  induction one generalizing right with
  | stop ends =>
    cases other with
    | stop => rfl
    | next extend fresh _ => exact absurd (ends _ extend) fresh
  | next extend fresh _ ih =>
    cases other with
    | stop ends => exact absurd (ends _ extend) fresh
    | next again _ rest =>
      obtain rfl := extend.unique again
      rw [ih rest]

theorem Line.fresh {seen line : List String} {name : String} (above : Line catalog seen name line) :
    line.Nodup ∧ ∀ upper ∈ line, upper ∉ seen := by
  induction above with
  | stop => simp
  | next _ unseen _ ih => exact fresh_cons unseen ih

/-- Names that a line never meets may count as seen. -/
theorem Line.widened {seen more line : List String} {name : String}
    (above : Line catalog seen name line) (included : seen ⊆ more)
    (unmet : ∀ upper ∈ line, upper ∉ more) : Line catalog more name line := by
  induction above generalizing more with
  | stop ends => exact .stop fun upper extend => included (ends upper extend)
  | next extend _ rest ih =>
    refine .next extend (unmet _ List.mem_cons_self) (ih (List.cons_subset_cons _ included) ?_)
    intro upper later known
    cases List.mem_cons.mp known with
    | inl same => exact rest.fresh.2 upper later (same ▸ List.mem_cons_self)
    | inr old => exact unmet upper (List.mem_cons_of_mem _ later) old

/-- No name comes back in the line that begins with a type, even where superclasses go round in a
circle. -/
theorem nodup_line (catalog : Catalog) (name : String) :
    (name :: catalog.superclasses name).Nodup := by
  have fresh := (line_superclasses catalog name).fresh
  exact List.nodup_cons.mpr
    ⟨fun again => fresh.2 name again (List.mem_singleton.mpr rfl), fresh.1⟩

theorem Line.extended {seen line : List String} {name upper : String}
    (above : Line catalog seen name line) (member : upper ∈ line) :
    TransGen (Extends catalog) name upper := by
  induction above with
  | stop => cases member
  | next extend _ _ ih =>
    rcases List.mem_cons.mp member with rfl | later
    · exact .single extend
    · exact .head extend (ih later)

theorem Line.reached {seen line : List String} {name upper : String}
    (above : Line catalog seen name line) (member : upper ∈ line) :
    TransGen (Above catalog) name upper :=
  TransGen.mono (fun _ _ => Or.inl) name upper (above.extended member)

/-- A line leads on to nothing but itself and what was seen before it. -/
theorem Line.closed {seen line : List String} {name lower upper : String}
    (above : Line catalog seen name line) (member : lower ∈ name :: line)
    (extend : Extends catalog lower upper) : upper ∈ seen ∨ upper ∈ line := by
  induction above with
  | stop ends =>
    obtain rfl := List.mem_singleton.mp member
    exact .inl (ends upper extend)
  | next first _ _ ih =>
    rcases List.mem_cons.mp member with rfl | later
    · exact .inr (extend.unique first ▸ List.mem_cons_self)
    · exact seen_or_found (ih later)

theorem breadthFirst_fresh (catalog : Catalog) (visited queue : List String) :
    (catalog.breadthFirst visited queue).Nodup ∧
      ∀ name ∈ catalog.breadthFirst visited queue, name ∉ visited := by
  fun_induction Catalog.breadthFirst catalog visited queue with
  | case1 => simp
  | case2 _ _ _ _ ih => exact ih
  | case3 visited name rest fresh ih => exact fresh_cons fresh ih

theorem breadthFirst_reached {visited queue : List String} {upper : String}
    (member : upper ∈ catalog.breadthFirst visited queue) :
    ∃ name ∈ queue, ReflTransGen (Above catalog) name upper := by
  fun_induction Catalog.breadthFirst catalog visited queue with
  | case1 => cases member
  | case2 visited name rest _ ih =>
    obtain ⟨first, inside, path⟩ := ih member
    exact ⟨first, List.mem_cons_of_mem _ inside, path⟩
  | case3 visited name rest _ ih =>
    rcases List.mem_cons.mp member with rfl | later
    · exact ⟨upper, List.mem_cons_self, .refl⟩
    · obtain ⟨first, inside, path⟩ := ih later
      rcases List.mem_append.mp inside with queued | above
      · exact ⟨first, List.mem_cons_of_mem _ queued, path⟩
      · exact ⟨name, List.mem_cons_self, .head (mem_supertypes_iff.mp above) path⟩

theorem mem_breadthFirst_of_mem_queue {visited queue : List String} {name : String}
    (member : name ∈ queue) : name ∈ visited ∨ name ∈ catalog.breadthFirst visited queue := by
  fun_induction Catalog.breadthFirst catalog visited queue with
  | case1 => cases member
  | case2 visited first rest seen ih =>
    rcases List.mem_cons.mp member with rfl | later
    · exact .inl seen
    · exact ih later
  | case3 visited first rest _ ih =>
    rcases List.mem_cons.mp member with rfl | later
    · exact .inr List.mem_cons_self
    · exact seen_or_found (ih (List.mem_append_left _ later))

theorem breadthFirst_closed {visited queue : List String} {name upper : String}
    (member : name ∈ catalog.breadthFirst visited queue) (above : Above catalog name upper) :
    upper ∈ visited ∨ upper ∈ catalog.breadthFirst visited queue := by
  fun_induction Catalog.breadthFirst catalog visited queue with
  | case1 => cases member
  | case2 _ _ _ _ ih => exact ih member
  | case3 visited first rest _ ih =>
    apply seen_or_found
    rcases List.mem_cons.mp member with rfl | later
    · exact mem_breadthFirst_of_mem_queue
        (List.mem_append_right _ (mem_supertypes_iff.mpr above))
    · exact ih later

theorem interfacesOfAll_fresh (catalog : Catalog) (visited owners : List String) :
    (catalog.interfacesOfAll visited owners).Nodup ∧
      ∀ name ∈ catalog.interfacesOfAll visited owners, name ∉ visited := by
  induction owners generalizing visited with
  | nil => simp [Catalog.interfacesOfAll]
  | cons owner owners ih =>
    obtain ⟨first, unseen⟩ :=
      breadthFirst_fresh catalog visited (catalog.declaredInterfaces owner)
    obtain ⟨rest, later⟩ :=
      ih (catalog.breadthFirst visited (catalog.declaredInterfaces owner) ++ visited)
    rw [Catalog.interfacesOfAll]
    refine ⟨List.nodup_append.mpr ⟨first, rest, ?_⟩, ?_⟩
    · rintro name found _ again rfl
      exact later name again (List.mem_append_left _ found)
    · intro name member
      rcases List.mem_append.mp member with found | found
      · exact unseen name found
      · exact fun old => later name found (List.mem_append_right _ old)

theorem interfacesOfAll_reached {visited owners : List String} {upper : String}
    (member : upper ∈ catalog.interfacesOfAll visited owners) :
    ∃ owner ∈ owners, TransGen (Above catalog) owner upper := by
  induction owners generalizing visited with
  | nil => cases member
  | cons owner owners ih =>
    rcases List.mem_append.mp member with found | later
    · obtain ⟨name, declared, path⟩ := breadthFirst_reached found
      exact ⟨owner, List.mem_cons_self, .head' (.inr (mem_declaredInterfaces_iff.mp declared)) path⟩
    · obtain ⟨other, inside, path⟩ := ih later
      exact ⟨other, List.mem_cons_of_mem _ inside, path⟩

/-- What an earlier owner has found counts as visited for the later ones. -/
private theorem found_earlier {name : String} {visited first rest : List String}
    (known : name ∈ first ++ visited ∨ name ∈ rest) : name ∈ visited ∨ name ∈ first ++ rest := by
  simp only [List.mem_append] at known ⊢
  tauto

theorem mem_interfacesOfAll {visited owners : List String} {owner upper : String}
    (member : owner ∈ owners) (implements : Implements catalog owner upper) :
    upper ∈ visited ∨ upper ∈ catalog.interfacesOfAll visited owners := by
  induction owners generalizing visited with
  | nil => cases member
  | cons first owners ih =>
    rcases List.mem_cons.mp member with rfl | later
    · exact (mem_breadthFirst_of_mem_queue (mem_declaredInterfaces_iff.mpr implements)).imp_right
        (List.mem_append_left _)
    · exact found_earlier (ih later)

theorem interfacesOfAll_closed {visited owners : List String} {name upper : String}
    (member : name ∈ catalog.interfacesOfAll visited owners) (above : Above catalog name upper) :
    upper ∈ visited ∨ upper ∈ catalog.interfacesOfAll visited owners := by
  induction owners generalizing visited with
  | nil => cases member
  | cons first owners ih =>
    rcases List.mem_append.mp member with found | later
    · exact (breadthFirst_closed found above).imp_right (List.mem_append_left _)
    · exact found_earlier (ih later)

theorem superclasses_reached {name upper : String} (member : upper ∈ catalog.superclasses name) :
    TransGen (Above catalog) name upper :=
  (line_superclasses catalog name).reached member

theorem interfaces_reached {name upper : String} (member : upper ∈ catalog.interfaces name) :
    TransGen (Above catalog) name upper := by
  obtain ⟨owner, inside, path⟩ := interfacesOfAll_reached member
  rcases List.mem_cons.mp inside with rfl | superclass
  · exact path
  · exact (superclasses_reached superclass).trans path

/-- Neither list is closed alone, but no name leads out of both. -/
theorem supertypes_closed {name lower upper : String}
    (member : lower ∈ name :: catalog.superclasses name ∨ lower ∈ catalog.interfaces name)
    (above : Above catalog lower upper) :
    upper ∈ name :: catalog.superclasses name ∨ upper ∈ catalog.interfaces name := by
  rcases member with inLine | interface
  · rcases above with extend | implements
    · rcases (line_superclasses catalog name).closed inLine extend with start | later
      · exact .inl (List.mem_singleton.mp start ▸ List.mem_cons_self)
      · exact .inl (List.mem_cons_of_mem _ later)
    · exact .inr ((mem_interfacesOfAll inLine implements).resolve_left List.not_mem_nil)
  · exact .inr ((interfacesOfAll_closed interface above).resolve_left List.not_mem_nil)

theorem reached_iff (catalog : Catalog) (name upper : String) :
    ReflTransGen (Above catalog) name upper ↔
      upper = name ∨ upper ∈ catalog.superclasses name ∨ upper ∈ catalog.interfaces name := by
  rw [← or_assoc, ← List.mem_cons]
  constructor
  · intro path
    induction path with
    | refl => exact .inl List.mem_cons_self
    | tail _ above ih => exact supertypes_closed ih above
  · rintro (inLine | interface)
    · rcases List.mem_cons.mp inLine with rfl | superclass
      · exact .refl
      · exact (superclasses_reached superclass).to_reflTransGen
    · exact (interfaces_reached interface).to_reflTransGen

theorem isAssignable_iff (catalog : Catalog) (name ancestor : String) :
    catalog.isAssignable name ancestor = true ↔ ReflTransGen (Above catalog) name ancestor := by
  rw [reached_iff]
  simp [Catalog.isAssignable, or_assoc, @eq_comm _ ancestor name]

def mentioned (catalog : Catalog) : List String := catalog.decls.flatMap (·.supertypes)

theorem Above.mentioned {name upper : String} (above : Above catalog name upper) :
    upper ∈ mentioned catalog := by
  have listed := mem_supertypes_iff.mpr above
  unfold Catalog.supertypes at listed
  split at listed
  · cases listed
  next decl found =>
    have stored := List.mem_map_of_mem (f := Prod.snd) (NameMap.get?_eq_some_iff.mp found)
    exact List.mem_flatMap.mpr ⟨decl, stored, listed⟩

theorem length_le_mentioned {name : String} {names : List String} (distinct : names.Nodup)
    (reached : ∀ upper ∈ names, TransGen (Above catalog) name upper) :
    names.length ≤ (mentioned catalog).length := by
  apply distinct.length_le_of_subset
  intro upper member
  cases reached upper member with
  | single above => exact above.mentioned
  | tail _ above => exact above.mentioned

/-- The two lists of supertypes of a name, which together hold whatever can be reached from it. -/
structure Complete (catalog : Catalog) (name : String) (superclasses interfaces : List String) :
    Prop where
  superclassesOnce : superclasses.Nodup
  interfacesOnce : interfaces.Nodup
  superclassesFinite : superclasses.length ≤ (mentioned catalog).length
  interfacesFinite : interfaces.length ≤ (mentioned catalog).length
  irreflexive : name ∉ superclasses
  reached : ∀ upper, ReflTransGen (Above catalog) name upper ↔
    upper = name ∨ upper ∈ superclasses ∨ upper ∈ interfaces

theorem supertypes_complete (catalog : Catalog) (name : String) :
    Complete catalog name (catalog.superclasses name) (catalog.interfaces name) where
  superclassesOnce := (line_superclasses catalog name).fresh.1
  interfacesOnce := (interfacesOfAll_fresh ..).1
  superclassesFinite :=
    length_le_mentioned (line_superclasses catalog name).fresh.1 fun _ => superclasses_reached
  interfacesFinite :=
    length_le_mentioned (interfacesOfAll_fresh ..).1 fun _ => interfaces_reached
  irreflexive := fun again =>
    (line_superclasses catalog name).fresh.2 name again (List.mem_singleton.mpr rfl)
  reached := reached_iff catalog name

/-- Whatever the hierarchy looks like, a type is assignable to just the types that can be reached
from it, and these are the ones in its two lists of supertypes. -/
theorem isAssignable_closure (catalog : Catalog) :
    (∀ name ancestor, catalog.isAssignable name ancestor = true ↔
      ReflTransGen (Above catalog) name ancestor) ∧
    (∀ name, catalog.isAssignable name name = true) ∧
    (∀ first second third, catalog.isAssignable first second = true →
      catalog.isAssignable second third = true → catalog.isAssignable first third = true) ∧
    ∀ name, Complete catalog name (catalog.superclasses name) (catalog.interfaces name) := by
  refine ⟨isAssignable_iff catalog, ?_, ?_, supertypes_complete catalog⟩
  · exact fun name => (isAssignable_iff catalog name name).mpr .refl
  · intro first second third left right
    rw [isAssignable_iff] at left right ⊢
    exact left.trans right

/-- Two classes that extend each other, and an interface with a superclass that is not described. -/
def knot : Catalog := .collect
  [{ name := "A", superclass := some "B", interfaces := ["I"] },
    { name := "B", superclass := some "A" }, { name := "I", superclass := some "J" }]

theorem isAssignable_closure_knot :
    knot.isAssignable "B" "I" = true ∧ knot.isAssignable "I" "J" = true ∧
      knot.isAssignable "B" "J" = true := by
  have left : knot.isAssignable "B" "I" = true := by decide +kernel
  have right : knot.isAssignable "I" "J" = true := by decide +kernel
  exact ⟨left, right, (isAssignable_closure knot).2.2.1 "B" "I" "J" left right⟩

end DomainAtlas.Proofs.Supertypes
