import Mathlib.Data.List.Forall2
import DomainAtlas.Json.Reader
import DomainAtlas.Json.Writer

/-! Written JSON is read back. The reader cuts a text into the tokens that the writer put down,
whatever white space stands between them, and the tokens of a value spell out that value. -/

namespace DomainAtlas.Proofs.JsonText
open Json

/-- Whether a piece of a written string stands for one character. -/
def Spells (piece : Piece) (c : Char) : Prop :=
  ∀ pieces, chars? (piece :: pieces) = (chars? pieces).map (c :: ·)

theorem spells_char (c : Char) : Spells (.char c) c := fun _ => rfl

private theorem spells_unit {c : Char} (low : c.toNat < 32) : Spells (.unit c.toNat) c := by
  have high : isHighHalf c.toNat = false := by simp [isHighHalf]; omega
  have half : isLowHalf c.toNat = false := by simp [isLowHalf]; omega
  have whole : wholeUnit? c.toNat = some c := by simp [wholeUnit?, high, half]
  intro pieces
  cases pieces with
  | nil => simp [chars?, whole]
  | cons next pieces =>
    cases next with
    | char other =>
      simp only [chars?, whole, Option.map_eq_bind]
      rfl
    | unit other =>
      simp only [chars?, whole, high, Bool.false_and, Bool.false_eq_true, ↓reduceIte,
        Option.map_eq_bind]
      rfl

private theorem hexValue?_hexDigit : ∀ n < 16, hexValue? (hexDigit n) = some n := by decide

private theorem unit?_control {c : Char} (low : c.toNat < 32) :
    unit? '0' '0' (hexDigit (c.toNat / 16)) (hexDigit (c.toNat % 16)) = some c.toNat := by
  have zero : hexValue? '0' = some 0 := by decide
  have left := hexValue?_hexDigit (c.toNat / 16) (by omega)
  have right := hexValue?_hexDigit (c.toNat % 16) (by omega)
  simp only [unit?, zero, left, right, bind, Option.bind_some, pure]
  congr 1
  omega

private theorem scanString_visible {c : Char} (quote : c ≠ '"') (backslash : c ≠ '\\')
    (visible : ¬c < ' ') (rest : List Char) :
    scanString (c :: rest) =
      (scanString rest).map fun (pieces, after) => (.char c :: pieces, after) := by
  rw [scanString.eq_def]
  split
  next same =>
    cases same
    exact absurd rfl quote
  next same =>
    cases same
    exact absurd rfl backslash
  next same =>
    cases same
    exact absurd rfl backslash
  next same =>
    cases same
    simp only [visible, ↓reduceIte, Option.map_eq_bind]
    rfl
  next empty => cases empty

/-- An escaped character is read as one piece that stands for it. -/
theorem scanString_escape (c : Char) :
    ∃ piece, Spells piece c ∧ ∀ rest, scanString (escape c ++ rest) =
      (scanString rest).map fun (pieces, after) => (piece :: pieces, after) := by
  unfold escape
  split
  case h_8 quote backslash _ _ _ _ _ =>
    split
    next control =>
      have low : c.toNat < 32 := control
      refine ⟨.unit c.toNat, spells_unit low, ?_⟩
      intro rest
      simp only [List.cons_append, List.nil_append, scanString, unit?_control low,
        Option.map_eq_bind]
      rfl
    next visible =>
      exact ⟨.char c, spells_char c, scanString_visible quote backslash visible⟩
  all_goals
    refine ⟨_, spells_char _, ?_⟩
    intro rest
    rw [Option.map_eq_bind]
    rfl

theorem scanString_escapeText (cs rest : List Char) :
    ∃ pieces, scanString (escapeText cs ++ '"' :: rest) = some (pieces, rest) ∧
      chars? pieces = some cs := by
  induction cs with
  | nil => exact ⟨[], by simp [escapeText, scanString], rfl⟩
  | cons c cs ih =>
    obtain ⟨pieces, scanned, chars⟩ := ih
    obtain ⟨piece, spells, step⟩ := scanString_escape c
    refine ⟨piece :: pieces, ?_, ?_⟩
    · rw [escapeText, List.flatMap_cons, List.append_assoc, step]
      exact congrArg (Option.map _) scanned
    · rw [spells, chars]
      rfl

/-- Whether what is written as one token does not depend on what follows: only a number does. -/
def SelfContained (token : Token) : Prop := ∀ literal, token ≠ .num literal

private theorem next?_str (text : String) (rest : List Char) :
    Token.next? ((Token.str text).text ++ rest) = some (.str text, rest) := by
  obtain ⟨pieces, scanned, chars⟩ := scanString_escapeText text.toList rest
  have found : Token.next? ('"' :: (escapeText text.toList ++ '"' :: rest)) =
      some (.ofPieces pieces, rest) := by
    simp [Token.next?, scanned]
  have token : Token.ofPieces pieces = .str text := by simp [Token.ofPieces, chars]
  simpa [Token.text, token] using found

theorem next?_text {token : Token} (contained : SelfContained token) (rest : List Char) :
    Token.next? (token.text ++ rest) = some (token, rest) := by
  cases token with
  | num literal => exact absurd rfl (contained literal)
  | str text => exact next?_str text rest
  | bool value => cases value <;> simp [Token.text, Token.next?]
  | void =>
    have half : unit? 'd' '8' '0' '0' = some 0xD800 := by decide
    simp [Token.text, Token.next?, scanString, half, Token.ofPieces, chars?, wholeUnit?, isHighHalf]
  | openArr | closeArr | openObj | closeObj | comma | colon | null =>
    simp [Token.text, Token.next?]

private theorem text_visible {token : Token} (contained : SelfContained token) :
    ∃ c rest, token.text = c :: rest ∧ isSpace c = false := by
  cases token with
  | num literal => exact absurd rfl (contained literal)
  | bool value => cases value <;> exact ⟨_, _, rfl, rfl⟩
  | str | void | openArr | closeArr | openObj | closeObj | comma | colon | null =>
    exact ⟨_, _, rfl, rfl⟩

private theorem scan_of_next? {c : Char} {rest after : List Char} {token : Token}
    (visible : isSpace c = false) (found : Token.next? (c :: rest) = some (token, after)) :
    scan (c :: rest) = (scan after).map (token :: ·) := by
  rw [scan, visible]
  simp only [Bool.false_eq_true, if_false]
  split
  next other left scanned =>
    rw [found] at scanned
    cases scanned
    rfl
  next absent =>
    rw [found] at absent
    cases absent

theorem scan_text {token : Token} (contained : SelfContained token) (rest : List Char) :
    scan (token.text ++ rest) = (scan rest).map (token :: ·) := by
  obtain ⟨c, tail, spelled, visible⟩ := text_visible contained
  have found := next?_text contained rest
  rw [spelled] at found ⊢
  exact scan_of_next? visible found

theorem scan_gap {gap : List Char} (blank : ∀ c ∈ gap, isSpace c = true) (rest : List Char) :
    scan (gap ++ rest) = scan rest := by
  induction gap with
  | nil => rfl
  | cons c gap ih =>
    rw [List.cons_append, scan, if_pos (blank c List.mem_cons_self)]
    exact ih fun other member => blank other (List.mem_cons_of_mem _ member)

structure Shows (entry : Placed) (token : Token) : Prop where
  blank : ∀ c ∈ entry.gap, isSpace c = true
  same : entry.token = token

theorem scan_shown {placed : List Placed} {tokens : List Token}
    (shown : List.Forall₂ Shows placed tokens)
    (contained : ∀ token ∈ tokens, SelfContained token) :
    scan (placed.flatMap Placed.text) = some tokens := by
  induction shown with
  | nil => rw [List.flatMap_nil, scan]
  | @cons entry token placed tokens first _ ih =>
    have rest := ih fun other member => contained other (List.mem_cons_of_mem _ member)
    rw [List.flatMap_cons, Placed.text, List.append_assoc, scan_gap first.blank, first.same,
      scan_text (contained token List.mem_cons_self), rest]
    rfl

theorem shows_self (token : Token) : Shows ⟨[], token⟩ token :=
  ⟨fun _ member => absurd member List.not_mem_nil, rfl⟩

private theorem newLine_blank (level : Nat) : ∀ c ∈ newLine level, isSpace c = true := by
  intro c member
  rcases List.mem_cons.mp member with rfl | indent
  · rfl
  · rw [(List.mem_replicate.mp indent).2]
    rfl

private theorem space_blank : ∀ c ∈ [' '], isSpace c = true := List.forall_mem_singleton.mpr rfl

private theorem shows_newLine (level : Nat) (token : Token) : Shows ⟨newLine level, token⟩ token :=
  ⟨newLine_blank level, rfl⟩

mutual
/-- The pretty form shows the tokens of the value. -/
theorem layout_shows (gap : List Char) (blank : ∀ c ∈ gap, isSpace c = true) (level : Nat) :
    (json : Json) → List.Forall₂ Shows (json.layout gap level) json.tokens
  | .null | .bool _ | .num _ | .str _ | .void => .cons ⟨blank, rfl⟩ .nil
  | .arr items => .cons ⟨blank, rfl⟩ (itemLayout_shows level items)
  | .obj members => .cons ⟨blank, rfl⟩ (memberLayout_shows level members)

theorem itemLayout_shows (level : Nat) :
    (items : List Json) → List.Forall₂ Shows (itemLayout level items) (itemTokens items)
  | [] => .cons (shows_self _) .nil
  | item :: items =>
    List.rel_append (layout_shows _ (newLine_blank _) _ item) (nextItemLayout_shows level items)

theorem nextItemLayout_shows (level : Nat) :
    (items : List Json) → List.Forall₂ Shows (nextItemLayout level items) (nextItemTokens items)
  | [] => .cons (shows_newLine _ _) .nil
  | item :: items =>
    .cons (shows_self _) (List.rel_append (layout_shows _ (newLine_blank _) _ item)
      (nextItemLayout_shows level items))

theorem memberLayout_shows (level : Nat) : (members : List (String × Json)) →
    List.Forall₂ Shows (memberLayout level members) (memberTokens members)
  | [] => .cons (shows_self _) .nil
  | (_, value) :: members =>
    .cons (shows_newLine _ _) (.cons (shows_self _) (List.rel_append
      (layout_shows _ space_blank _ value) (nextMemberLayout_shows level members)))

theorem nextMemberLayout_shows (level : Nat) : (members : List (String × Json)) →
    List.Forall₂ Shows (nextMemberLayout level members) (nextMemberTokens members)
  | [] => .cons (shows_newLine _ _) .nil
  | (_, value) :: members =>
    .cons (shows_self _) (.cons (shows_newLine _ _) (.cons (shows_self _) (List.rel_append
      (layout_shows _ space_blank _ value) (nextMemberLayout_shows level members))))
end

/-- Where an array may end right away, a value goes on as it does anywhere else. -/
private theorem read_itemOrEnd (json : Json) (stack : List Frame) :
    json.tokens.foldlM Reading.step ⟨stack, .itemOrEnd⟩ =
      json.tokens.foldlM Reading.step ⟨stack, .value⟩ := by
  cases json <;> rfl

mutual
/-- The tokens of a value put that value in its place, whatever is still open around it. -/
theorem read_tokens (stack : List Frame) : (json : Json) →
    json.tokens.foldlM Reading.step ⟨stack, .value⟩ = some (Reading.put json stack)
  | .null | .bool _ | .num _ | .str _ | .void => rfl
  | .arr items => read_itemTokens stack items
  | .obj members => read_memberTokens stack members

theorem read_itemTokens (stack : List Frame) : (items : List Json) →
    (itemTokens items).foldlM Reading.step ⟨.items [] :: stack, .itemOrEnd⟩ =
      some (Reading.put (.arr items) stack)
  | [] => rfl
  | item :: items => by
    rw [itemTokens, List.foldlM_append, read_itemOrEnd, read_tokens]
    exact read_nextItemTokens stack [item] items

theorem read_nextItemTokens (stack : List Frame) (done : List Json) : (items : List Json) →
    (nextItemTokens items).foldlM Reading.step ⟨.items done :: stack, .commaOrEnd⟩ =
      some (Reading.put (.arr (done.reverse ++ items)) stack)
  | [] => by
    rw [List.append_nil]
    rfl
  | item :: items => by
    have rest := read_nextItemTokens stack (item :: done) items
    rw [List.reverse_cons, List.append_assoc] at rest
    calc
      _ = (item.tokens ++ nextItemTokens items).foldlM Reading.step
          ⟨.items done :: stack, .value⟩ := rfl
      _ = _ := by
        rw [List.foldlM_append, read_tokens]
        exact rest

theorem read_memberTokens (stack : List Frame) : (members : List (String × Json)) →
    (memberTokens members).foldlM Reading.step ⟨.members [] "" :: stack, .keyOrEnd⟩ =
      some (Reading.put (.obj members) stack)
  | [] => rfl
  | (key, value) :: members => by
    have rest := read_nextMemberTokens stack [(key, value)] key members
    calc
      _ = (value.tokens ++ nextMemberTokens members).foldlM Reading.step
          ⟨.members [] key :: stack, .value⟩ := rfl
      _ = _ := by
        rw [List.foldlM_append, read_tokens]
        exact rest

theorem read_nextMemberTokens (stack : List Frame) (done : List (String × Json)) (last : String) :
    (members : List (String × Json)) →
    (nextMemberTokens members).foldlM Reading.step ⟨.members done last :: stack, .commaOrEnd⟩ =
      some (Reading.put (.obj (done.reverse ++ members)) stack)
  | [] => by
    rw [List.append_nil]
    rfl
  | (key, value) :: members => by
    have rest := read_nextMemberTokens stack ((key, value) :: done) key members
    rw [List.reverse_cons, List.append_assoc] at rest
    calc
      _ = (value.tokens ++ nextMemberTokens members).foldlM Reading.step
          ⟨.members done key :: stack, .value⟩ := rfl
      _ = _ := by
        rw [List.foldlM_append, read_tokens]
        exact rest
end

theorem ofTokens?_tokens (json : Json) : ofTokens? json.tokens = some json := by
  rw [ofTokens?, Reading.start, read_tokens]
  rfl

/-- JSON in which every part says what it holds: there is no number in it, and nothing void. -/
inductive Plain : Json → Prop where
  | null : Plain .null
  | bool (value : Bool) : Plain (.bool value)
  | str (text : String) : Plain (.str text)
  | arr {items : List Json} (plain : ∀ item ∈ items, Plain item) : Plain (.arr items)
  | obj {members : List (String × Json)} (plain : ∀ member ∈ members, Plain member.2) :
    Plain (.obj members)

private theorem contained_nextItemTokens {items : List Json}
    (each : ∀ item ∈ items, ∀ token ∈ item.tokens, SelfContained token) :
    ∀ token ∈ nextItemTokens items, SelfContained token := by
  induction items with
  | nil => exact List.forall_mem_singleton.mpr nofun
  | cons item items ih =>
    obtain ⟨first, rest⟩ := List.forall_mem_cons.mp each
    exact List.forall_mem_cons.mpr ⟨nofun, List.forall_mem_append.mpr ⟨first, ih rest⟩⟩

private theorem contained_itemTokens {items : List Json}
    (each : ∀ item ∈ items, ∀ token ∈ item.tokens, SelfContained token) :
    ∀ token ∈ itemTokens items, SelfContained token := by
  cases items with
  | nil => exact List.forall_mem_singleton.mpr nofun
  | cons item items =>
    obtain ⟨first, rest⟩ := List.forall_mem_cons.mp each
    exact List.forall_mem_append.mpr ⟨first, contained_nextItemTokens rest⟩

private theorem contained_nextMemberTokens {members : List (String × Json)}
    (each : ∀ member ∈ members, ∀ token ∈ member.2.tokens, SelfContained token) :
    ∀ token ∈ nextMemberTokens members, SelfContained token := by
  induction members with
  | nil => exact List.forall_mem_singleton.mpr nofun
  | cons member members ih =>
    obtain ⟨first, rest⟩ := List.forall_mem_cons.mp each
    have value := List.forall_mem_append.mpr ⟨first, ih rest⟩
    exact List.forall_mem_cons.mpr ⟨nofun, List.forall_mem_cons.mpr
      ⟨nofun, List.forall_mem_cons.mpr ⟨nofun, value⟩⟩⟩

private theorem contained_memberTokens {members : List (String × Json)}
    (each : ∀ member ∈ members, ∀ token ∈ member.2.tokens, SelfContained token) :
    ∀ token ∈ memberTokens members, SelfContained token := by
  cases members with
  | nil => exact List.forall_mem_singleton.mpr nofun
  | cons member members =>
    obtain ⟨first, rest⟩ := List.forall_mem_cons.mp each
    have value := List.forall_mem_append.mpr ⟨first, contained_nextMemberTokens rest⟩
    exact List.forall_mem_cons.mpr ⟨nofun, List.forall_mem_cons.mpr ⟨nofun, value⟩⟩

theorem Plain.contained {json : Json} (plain : Plain json) :
    ∀ token ∈ json.tokens, SelfContained token := by
  induction plain with
  | null | bool | str => exact List.forall_mem_singleton.mpr nofun
  | arr _ ih => exact List.forall_mem_cons.mpr ⟨nofun, contained_itemTokens ih⟩
  | obj _ ih => exact List.forall_mem_cons.mpr ⟨nofun, contained_memberTokens ih⟩

private theorem read?_of_scan {json : Json} {limit : Nat} (fits : json.depth ≤ limit)
    {cs : List Char} (scanned : scan cs = some json.tokens) :
    read? limit (String.ofList cs) = some json := by
  simp [read?, scanned, ofTokens?_tokens, within_of_depth_le json fits]

/-- Whatever is written plainly is read back, in either form, unless it nests too deep. -/
theorem read?_compact {json : Json} (plain : Plain json) {limit : Nat} (fits : json.depth ≤ limit) :
    read? limit json.compact = some json := by
  have shown : List.Forall₂ Shows (json.tokens.map (Placed.mk [])) json.tokens :=
    List.forall₂_map_left_iff.mpr (List.forall₂_same.mpr fun token _ => shows_self token)
  have scanned := scan_shown shown plain.contained
  rw [List.flatMap_map] at scanned
  exact read?_of_scan fits scanned

theorem read?_pretty {json : Json} (plain : Plain json) {limit : Nat} (fits : json.depth ≤ limit) :
    read? limit json.pretty = some json := by
  have shown := layout_shows [] (fun _ member => absurd member List.not_mem_nil) 0 json
  exact read?_of_scan fits (scan_shown shown plain.contained)

end DomainAtlas.Proofs.JsonText
