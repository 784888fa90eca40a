import DomainAtlas.ResolvedType

/-! The text of a type is read back part by part: what stands before the name, the name, the
arguments and the array mark. A name ends at the first character that no name has, so as long as
names keep to themselves each part has only one reading. The one thing that a text leaves out is the
array mark of a lone question mark. -/

namespace DomainAtlas.Proofs.TypeText
open ResolvedType

def marks : List Char := ['<', '>', '[', ']', '?', ',', ' ']

def PlainName (name : String) : Prop := ∀ c ∈ name.toList, c ∉ marks

instance (name : String) : Decidable (PlainName name) :=
  List.decidableBAll (· ∉ marks) name.toList

/-- A text that is over or goes on with one of some characters. -/
def GoesOn (openings rest : List Char) : Prop := ∀ c ∈ rest.head?, c ∈ openings

theorem goesOn_nil (openings : List Char) : GoesOn openings [] := nofun

@[simp] theorem goesOn_cons {openings rest : List Char} {c : Char} :
    GoesOn openings (c :: rest) ↔ c ∈ openings := by
  simp [GoesOn]

theorem GoesOn.mono {fewer more rest : List Char} (goes : GoesOn fewer rest)
    (included : fewer ⊆ more) : GoesOn more rest := fun c first => included (goes c first)

/-- What may stand behind a whole type, among the arguments of another. -/
def afterType : List Char := [',', '>']

def afterArguments : List Char := '[' :: afterType

def afterName : List Char := '<' :: afterArguments

private theorem takeWhile_name {name : String} (plain : PlainName name) {rest : List Char}
    (goes : GoesOn afterName rest) :
    (name.toList ++ rest).takeWhile (fun c => decide (c ∉ marks)) = name.toList := by
  have ends : rest.takeWhile (fun c => decide (c ∉ marks)) = [] := by
    cases rest with
    | nil => rfl
    | cons c rest =>
      have mark : c ∈ marks := goesOn_cons.mp (goes.mono (by decide))
      simp [mark]
  rw [List.takeWhile_append_of_pos fun c member => decide_eq_true (plain c member), ends,
    List.append_nil]

theorem name_readable {first second : String} (left : PlainName first) (right : PlainName second)
    {r s : List Char} (goes : GoesOn afterName r) (goes' : GoesOn afterName s)
    (same : first.toList ++ r = second.toList ++ s) : first = second ∧ r = s := by
  have names : first.toList = second.toList := by
    rw [← takeWhile_name left goes, same, takeWhile_name right goes']
  rw [names] at same
  exact ⟨String.toList_inj.mp names, List.append_cancel_left same⟩

theorem head?_name_ne {name : String} (plain : PlainName name) {rest : List Char}
    (goes : GoesOn afterName rest) : (name.toList ++ rest).head? ≠ some '?' := by
  intro first
  cases chars : name.toList with
  | nil =>
    rw [chars] at first
    exact absurd (goes '?' first) (by decide)
  | cons c more =>
    rw [chars] at first
    obtain rfl := Option.some.inj first
    exact plain '?' (chars ▸ List.mem_cons_self) (by decide)

theorem head?_wildcard (direction : Direction) (rest : List Char) :
    ((wildcardText (some direction)).toList ++ rest).head? = some '?' := by
  cases direction <;> rfl

theorem wildcard_readable {first second : Option Direction} {x y : List Char}
    (named : x.head? ≠ some '?') (named' : y.head? ≠ some '?')
    (same : (wildcardText first).toList ++ x = (wildcardText second).toList ++ y) :
    first = second ∧ x = y := by
  cases first with
  | none =>
    cases second with
    | none => exact ⟨rfl, same⟩
    | some direction =>
      have begins : x.head? = some '?' := (congrArg List.head? same).trans (head?_wildcard ..)
      exact absurd begins named
  | some direction =>
    cases second with
    | none =>
      have begins : y.head? = some '?' := (congrArg List.head? same).symm.trans (head?_wildcard ..)
      exact absurd begins named'
    | some other => cases direction <;> cases other <;> simp_all [wildcardText]

/-- A lone question mark is not taken for the beginning of a wildcard with a bound. -/
theorem lone_ne_bounded {wildcard : Option Direction} {r x : List Char}
    (goes : GoesOn afterType r) (named : x.head? ≠ some '?') :
    '?' :: r ≠ (wildcardText wildcard).toList ++ x := by
  intro same
  cases wildcard with
  | none => exact named (congrArg List.head? same).symm
  | some direction =>
    cases direction <;>
    · simp only [wildcardText, String.reduceToList, List.cons_append, List.cons.injEq] at same
      rw [same.2] at goes
      exact absurd (goesOn_cons.mp goes) (by decide)

def IsAny (type : ResolvedType) : Prop :=
  type.wildcard = some .upper ∧ type.name = objectName ∧ type.arguments = []

instance (type : ResolvedType) : Decidable (IsAny type) := inferInstanceAs (Decidable (_ ∧ _ ∧ _))

def arrayText (isArray : Bool) : List Char := if isArray then ['[', ']'] else []

theorem toList_text_any {type : ResolvedType} (any : IsAny type) : type.text.toList = ['?'] := by
  obtain ⟨name, arguments, wildcard, isArray⟩ := type
  obtain ⟨upper, object, raw⟩ := any
  simp_all [text]

theorem toList_text {type : ResolvedType} (named : ¬ IsAny type) :
    type.text.toList = (wildcardText type.wildcard).toList ++ (type.name.toList ++
      ((argumentsText type.arguments).toList ++ arrayText type.isArray)) := by
  obtain ⟨name, arguments, wildcard, isArray⟩ := type
  have bounded : ¬ (wildcard = some .upper ∧ name = objectName ∧ arguments = []) := named
  rw [text, if_neg bounded]
  cases isArray <;> simp [arrayText]

theorem toList_argumentsText (type : ResolvedType) (types : List ResolvedType) :
    (argumentsText (type :: types)).toList =
      '<' :: (type.text.toList ++ (nextArgumentsText types).toList) := by
  simp [argumentsText]

theorem toList_nextArgumentsText (type : ResolvedType) (types : List ResolvedType) :
    (nextArgumentsText (type :: types)).toList =
      ',' :: ' ' :: (type.text.toList ++ (nextArgumentsText types).toList) := by
  simp [nextArgumentsText]

theorem goesOn_array {rest : List Char} (goes : GoesOn afterType rest) (isArray : Bool) :
    GoesOn afterArguments (arrayText isArray ++ rest) := by
  cases isArray with
  | true => exact goesOn_cons.mpr (by decide)
  | false => exact goes.mono (by decide)

theorem goesOn_arguments {rest : List Char} (goes : GoesOn afterArguments rest)
    (arguments : List ResolvedType) :
    GoesOn afterName ((argumentsText arguments).toList ++ rest) := by
  cases arguments with
  | nil => exact goes.mono (by decide)
  | cons argument arguments =>
    rw [toList_argumentsText]
    exact goesOn_cons.mpr (by decide)

theorem goesOn_nextArguments (arguments : List ResolvedType) (rest : List Char) :
    GoesOn afterType ((nextArgumentsText arguments).toList ++ rest) := by
  cases arguments with
  | nil => exact goesOn_cons.mpr (by decide)
  | cons argument arguments =>
    rw [toList_nextArgumentsText]
    exact goesOn_cons.mpr (by decide)

theorem array_readable {first second : Bool} {r s : List Char} (goes : GoesOn afterType r)
    (goes' : GoesOn afterType s) (same : arrayText first ++ r = arrayText second ++ s) :
    first = second ∧ r = s := by
  cases first <;> cases second
  · exact ⟨rfl, same⟩
  · have bracket : r = '[' :: ']' :: s := same
    rw [bracket] at goes
    exact absurd (goesOn_cons.mp goes) (by decide)
  · have bracket : '[' :: ']' :: r = s := same
    rw [← bracket] at goes'
    exact absurd (goesOn_cons.mp goes') (by decide)
  · exact ⟨rfl, List.append_cancel_left same⟩

mutual
/-- All of a type but the array marks of lone question marks. -/
def told : ResolvedType → ResolvedType
  | ⟨name, arguments, wildcard, isArray⟩ =>
    ⟨name, toldAll arguments, wildcard,
      isArray && !decide (IsAny ⟨name, arguments, wildcard, isArray⟩)⟩

def toldAll : List ResolvedType → List ResolvedType
  | [] => []
  | type :: types => told type :: toldAll types
end

theorem told_any {type : ResolvedType} (any : IsAny type) :
    told type = ⟨objectName, [], some .upper, false⟩ := by
  obtain ⟨name, arguments, wildcard, isArray⟩ := type
  obtain ⟨upper, object, raw⟩ := any
  simp_all [told, toldAll, IsAny]

theorem told_named {type : ResolvedType} (named : ¬ IsAny type) :
    told type = { type with arguments := toldAll type.arguments } := by
  obtain ⟨name, arguments, wildcard, isArray⟩ := type
  simp [told, named]

@[simp] theorem toldAll_eq_nil {types : List ResolvedType} : toldAll types = [] ↔ types = [] := by
  cases types <;> simp [toldAll]

mutual
theorem text_told : (type : ResolvedType) → (told type).text = type.text
  | ⟨name, arguments, wildcard, isArray⟩ => by
    have listed := argumentsText_told arguments
    by_cases any : IsAny ⟨name, arguments, wildcard, isArray⟩
    · rw [told_any any, ← String.toList_inj, toList_text_any any]
      rfl
    · have named : ¬ IsAny (told ⟨name, arguments, wildcard, isArray⟩) := by
        rw [told_named any]
        simpa [IsAny] using any
      rw [← String.toList_inj, toList_text any, toList_text named, told_named any, listed]

theorem argumentsText_told : (types : List ResolvedType) →
    argumentsText (toldAll types) = argumentsText types
  | [] => rfl
  | type :: types => by
    rw [toldAll, argumentsText, argumentsText, text_told type, nextArgumentsText_told types]

theorem nextArgumentsText_told : (types : List ResolvedType) →
    nextArgumentsText (toldAll types) = nextArgumentsText types
  | [] => rfl
  | type :: types => by
    rw [toldAll, nextArgumentsText, nextArgumentsText, text_told type, nextArgumentsText_told types]
end

def Spelled (type : ResolvedType) : Prop := ∀ name ∈ type.names, PlainName name

instance (type : ResolvedType) : Decidable (Spelled type) :=
  List.decidableBAll PlainName type.names

def AllSpelled (types : List ResolvedType) : Prop := ∀ name ∈ argumentNames types, PlainName name

theorem spelled_mk {name : String} {arguments : List ResolvedType} {wildcard : Option Direction}
    {isArray : Bool} : Spelled ⟨name, arguments, wildcard, isArray⟩ ↔
      PlainName name ∧ AllSpelled arguments := by
  simp [Spelled, AllSpelled, names]

theorem allSpelled_cons {type : ResolvedType} {types : List ResolvedType} :
    AllSpelled (type :: types) ↔ Spelled type ∧ AllSpelled types := by
  simp [Spelled, AllSpelled, argumentNames, or_imp, forall_and]

/-- From the name on, the text of a type does not begin with a question mark. -/
theorem head?_named_ne {name : String} (plain : PlainName name) {rest : List Char}
    (goes : GoesOn afterType rest) (arguments : List ResolvedType) (isArray : Bool) :
    (name.toList ++ ((argumentsText arguments).toList ++ (arrayText isArray ++ rest))).head? ≠
      some '?' :=
  head?_name_ne plain (goesOn_arguments (goesOn_array goes isArray) arguments)

theorem any_ne_named {first second : ResolvedType} (any : IsAny first) (named : ¬ IsAny second)
    (spelled : Spelled second) {r s : List Char} (goes : GoesOn afterType r)
    (goes' : GoesOn afterType s) : first.text.toList ++ r ≠ second.text.toList ++ s := by
  obtain ⟨name, arguments, wildcard, isArray⟩ := second
  rw [toList_text_any any, toList_text named]
  simp only [List.append_assoc]
  exact lone_ne_bounded goes (head?_named_ne (spelled_mk.mp spelled).1 goes' arguments isArray)

/-- A list of arguments begins as the rest of a list does, but for its first character. -/
theorem arguments_readable {first second : List ResolvedType}
    (readable : ∀ {r s : List Char},
      (nextArgumentsText first).toList ++ r = (nextArgumentsText second).toList ++ s →
        toldAll first = toldAll second ∧ r = s)
    {r s : List Char} (goes : GoesOn afterArguments r) (goes' : GoesOn afterArguments s)
    (same : (argumentsText first).toList ++ r = (argumentsText second).toList ++ s) :
    toldAll first = toldAll second ∧ r = s := by
  cases first with
  | nil =>
    cases second with
    | nil => exact ⟨rfl, same⟩
    | cons b bs =>
      rw [toList_argumentsText] at same
      have bracket : r = '<' :: (b.text.toList ++ (nextArgumentsText bs).toList) ++ s := same
      rw [bracket] at goes
      exact absurd (goesOn_cons.mp goes) (by decide)
  | cons a as =>
    rw [toList_argumentsText] at same
    cases second with
    | nil =>
      have bracket : '<' :: (a.text.toList ++ (nextArgumentsText as).toList) ++ r = s := same
      rw [← bracket] at goes'
      exact absurd (goesOn_cons.mp goes') (by decide)
    | cons b bs =>
      rw [toList_argumentsText] at same
      apply readable
      rw [toList_nextArgumentsText, toList_nextArgumentsText]
      exact congrArg (',' :: ' ' :: ·) (List.cons.inj same).2

mutual
/-- A text with something behind it that does not belong to it is the text of one type only, as far
as texts tell. -/
theorem text_readable : (first second : ResolvedType) → Spelled first → Spelled second →
    {r s : List Char} → GoesOn afterType r → GoesOn afterType s →
    first.text.toList ++ r = second.text.toList ++ s → told first = told second ∧ r = s
  | ⟨n, as, v, k⟩, ⟨m, bs, w, l⟩, left, right, r, s, goes, goes', same => by
    by_cases any : IsAny ⟨n, as, v, k⟩
    · by_cases other : IsAny ⟨m, bs, w, l⟩
      · rw [toList_text_any any, toList_text_any other] at same
        exact ⟨(told_any any).trans (told_any other).symm, List.append_cancel_left same⟩
      · exact absurd same (any_ne_named any other right goes goes')
    · by_cases other : IsAny ⟨m, bs, w, l⟩
      · exact absurd same.symm (any_ne_named other any left goes' goes)
      · rw [toList_text any, toList_text other] at same
        simp only [List.append_assoc] at same
        obtain ⟨plain, inside⟩ := spelled_mk.mp left
        obtain ⟨plain', inside'⟩ := spelled_mk.mp right
        have marked := goesOn_array goes k
        have marked' := goesOn_array goes' l
        obtain ⟨rfl, named⟩ := wildcard_readable (head?_named_ne plain goes as k)
          (head?_named_ne plain' goes' bs l) same
        obtain ⟨rfl, listed⟩ := name_readable plain plain' (goesOn_arguments marked as)
          (goesOn_arguments marked' bs) named
        obtain ⟨arguments, array⟩ := arguments_readable
          (nextArguments_readable as bs inside inside') marked marked' listed
        obtain ⟨rfl, rest⟩ := array_readable goes goes' array
        refine ⟨?_, rest⟩
        rw [told_named any, told_named other, arguments]

theorem nextArguments_readable : (first second : List ResolvedType) → AllSpelled first →
    AllSpelled second → {r s : List Char} →
    (nextArgumentsText first).toList ++ r = (nextArgumentsText second).toList ++ s →
    toldAll first = toldAll second ∧ r = s
  | [], [], _, _, _, _, same => ⟨rfl, List.append_cancel_left same⟩
  | [], _ :: _, _, _, _, _, same | _ :: _, [], _, _, _, _, same => by
    simp [nextArgumentsText] at same
  | a :: as, b :: bs, left, right, r, s, same => by
    rw [toList_nextArgumentsText, toList_nextArgumentsText] at same
    simp only [List.cons_append, List.append_assoc, List.cons.injEq, true_and] at same
    obtain ⟨first, more⟩ := allSpelled_cons.mp left
    obtain ⟨second, others⟩ := allSpelled_cons.mp right
    obtain ⟨heads, later⟩ := text_readable a b first second (goesOn_nextArguments as r)
      (goesOn_nextArguments bs s) same
    obtain ⟨tails, rest⟩ := nextArguments_readable as bs more others later
    exact ⟨by rw [toldAll, toldAll, heads, tails], rest⟩
end

theorem text_eq_iff {first second : ResolvedType} (left : Spelled first) (right : Spelled second) :
    first.text = second.text ↔ told first = told second := by
  constructor
  · intro same
    have chars : first.text.toList ++ [] = second.text.toList ++ [] := by rw [same]
    exact (text_readable first second left right (goesOn_nil _) (goesOn_nil _) chars).1
  · intro same
    rw [← text_told first, same, text_told]

mutual
/-- A type in which no lone question mark has an array mark. -/
def Legible : ResolvedType → Prop
  | ⟨name, arguments, wildcard, isArray⟩ =>
    (IsAny ⟨name, arguments, wildcard, isArray⟩ → isArray = false) ∧ AllLegible arguments

def AllLegible : List ResolvedType → Prop
  | [] => True
  | type :: types => Legible type ∧ AllLegible types
end

mutual
theorem told_of_legible : (type : ResolvedType) → Legible type → told type = type
  | ⟨name, arguments, wildcard, isArray⟩, ⟨unmarked, legible⟩ => by
    have listed := toldAll_of_legible arguments legible
    by_cases any : IsAny ⟨name, arguments, wildcard, isArray⟩
    · simp [told, listed, unmarked any]
    · rw [told_named any, listed]

theorem toldAll_of_legible : (types : List ResolvedType) → AllLegible types → toldAll types = types
  | [], _ => rfl
  | type :: types, ⟨first, rest⟩ => by
    rw [toldAll, told_of_legible type first, toldAll_of_legible types rest]
end

/-- Types with plain names have one text just when they differ in nothing but array marks of lone
question marks. So the text of a type that has no such mark identifies it. -/
theorem text_identifies (first second : ResolvedType) (left : Spelled first)
    (right : Spelled second) :
    (first.text = second.text ↔ told first = told second) ∧
      (Legible first → Legible second → first.text = second.text → first = second) := by
  refine ⟨text_eq_iff left right, ?_⟩
  intro legible legible' same
  rw [← told_of_legible first legible, ← told_of_legible second legible']
  exact (text_eq_iff left right).mp same

def numberedLines : TypeExpr :=
  .named "Map" [.plain "String", .list (.anyBelow (.array (.plain "Line")))]

theorem text_identifies_lines :
    let read : ResolvedType := ⟨"Map", [⟨"String", [], none, false⟩,
      ⟨"java.util.List", [⟨"Line", [], some .upper, true⟩], none, false⟩], none, false⟩
    Spelled numberedLines.resolve ∧ Spelled read ∧ Legible numberedLines.resolve ∧ Legible read ∧
      numberedLines.resolve.text = "Map<String, java.util.List<? extends Line[]>>" ∧
      read.text = "Map<String, java.util.List<? extends Line[]>>" ∧
      (numberedLines.resolve.text = read.text ↔ told numberedLines.resolve = told read) ∧
      numberedLines.resolve = read := by
  intro read
  have spelled : Spelled numberedLines.resolve := by decide
  have spelled' : Spelled read := by decide
  have legible : Legible numberedLines.resolve := by
    simp [numberedLines, TypeExpr.plain, TypeExpr.list, TypeExpr.anyBelow, TypeExpr.resolve,
      TypeExpr.resolveAll, TypeExpr.resolveFirst, ofName, Legible, AllLegible, IsAny, objectName]
  have legible' : Legible read := by simp [read, Legible, AllLegible, IsAny, objectName]
  have written : numberedLines.resolve.text = "Map<String, java.util.List<? extends Line[]>>" := by
    decide
  have written' : read.text = "Map<String, java.util.List<? extends Line[]>>" := by decide
  obtain ⟨told, identified⟩ := text_identifies numberedLines.resolve read spelled spelled'
  exact ⟨spelled, spelled', legible, legible', written, written', told,
    identified legible legible' (written.trans written'.symm)⟩

/-- Some array of objects and anything at all are written alike. -/
theorem array_mark_of_any_lost :
    let arrays := (TypeExpr.anyBelow (.array (.plain objectName))).resolve
    Spelled arrays ∧ Spelled TypeExpr.any.resolve ∧ arrays.text = TypeExpr.any.resolve.text ∧
      arrays ≠ TypeExpr.any.resolve := by
  decide

end DomainAtlas.Proofs.TypeText
