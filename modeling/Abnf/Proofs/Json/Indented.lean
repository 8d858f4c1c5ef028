import Abnf.Proofs.Json.Spellings

/-!
# Reading back indented values

A value that is written on several lines is spelled by them: what is written in front of a token to
indent it is blank, and blanks in front of a token do not matter.  So the indented text of a value
is read back as the value, if that does not nest too deep (`readText_indented`).
-/

namespace Abnf.Json

open Text (quote)

/-! ## Blanks in front of tokens -/

/-- Characters that JSON allows between tokens. -/
def Blank (cs : List Char) : Prop := ∀ c ∈ cs, Cursor.isBlank c = true

lemma blank_nil : Blank [] := by simp [Blank]

lemma blank_newline (depth : Nat) : Blank (Value.newline depth).toList := by
  intro c hc
  simp only [Value.newline, String.toList_append, String.toList_ofList, List.mem_append,
    List.mem_replicate] at hc
  rcases hc with hc | ⟨-, rfl⟩
  · obtain rfl : c = '\n' := by simpa using hc
    rfl
  · rfl

lemma isNumeral_of_isBlank {c : Char} (h : Cursor.isBlank c = true) :
    Reader.isNumeral c = false := by
  simp only [Cursor.isBlank, Bool.or_eq_true, beq_iff_eq] at h
  rcases h with ((rfl | rfl) | rfl) | rfl <;> decide

section Blanks

variable {blanks cs : List Char} (hblanks : Blank blanks)
include hblanks

lemma stops_blanks {x : Char} (hx : Reader.isNumeral x = false) (rest : List Char) :
    Stops Reader.isNumeral (blanks ++ x :: rest) := by
  cases blanks with
  | nil => exact stops_cons.2 hx
  | cons c blanks => exact stops_cons.2 (isNumeral_of_isBlank (hblanks c List.mem_cons_self))

lemma skipBlanks_append (hcs : Stops Cursor.isBlank cs) (place : Position) :
    (⟨place, blanks ++ cs⟩ : Cursor).skipBlanks = ⟨place.afterAll blanks, cs⟩ := by
  rw [Cursor.skipBlanks, Cursor.dropWhile, takeWhile_run hblanks hcs, dropWhile_run hblanks hcs]

lemma token_append {x : Char} (hx : Cursor.isBlank x = false) (place : Position) :
    Token x ⟨place, blanks ++ x :: cs⟩ ⟨place.afterAll (blanks ++ [x]), cs⟩ := by
  rw [Token, skipBlanks_append hblanks (stops_cons.2 hx)]
  simp [Cursor.drop]

omit hblanks in
lemma token_cons {x : Char} {cs : List Char} (hx : Cursor.isBlank x = false) (place : Position) :
    Token x ⟨place, x :: cs⟩ ⟨place.after x, cs⟩ :=
  token_append blank_nil hx place

/-- The next part of a list or an object begins behind what indents it. -/
lemma separated_append (hcs : Stops Cursor.isBlank cs) (isFirst : Bool) (place : Position) :
    Separated isFirst ⟨place, separator isFirst ++ (blanks ++ cs)⟩
      ⟨place.afterAll (separator isFirst ++ blanks), cs⟩ := by
  cases isFirst with
  | true => exact (skipBlanks_append hblanks hcs place).symm
  | false =>
    refine ⟨_, token_cons (by decide) place, ?_⟩
    show _ = (⟨place.after ',', blanks ++ cs⟩ : Cursor).skipBlanks
    rw [skipBlanks_append hblanks hcs]
    rfl

end Blanks

/-- Blanks in front of a value do not matter. -/
lemma Spelled.of_skipBlanks {levels : Nat} {c n : Cursor} {v : Value}
    (h : Spelled levels c.skipBlanks v n) : Spelled levels c v n := by
  cases levels <;>
    simpa only [Spelled, ListOf, ObjectOf, Enclosed, Token, Cursor.skipBlanks_skipBlanks] using h

/-- Something stands between brackets if it stands in front of the closing one. -/
lemma Enclosed.of_append {opening close : Char} {P : Cursor → Cursor → Prop} {contents : List Char}
    (hopening : Cursor.isBlank opening = false) (hclose : Cursor.isBlank close = false)
    (h : ∀ place rest, P ⟨place, contents ++ close :: rest⟩
      ⟨place.afterAll contents, close :: rest⟩) (place : Position) (rest : List Char) :
    Enclosed opening close P ⟨place, opening :: (contents ++ [close]) ++ rest⟩
      ⟨place.afterAll (opening :: (contents ++ [close])), rest⟩ := by
  have hlast : Token close ⟨(place.after opening).afterAll contents, close :: rest⟩ ⟨_, rest⟩ :=
    token_cons hclose _
  have htext :
      opening :: (contents ++ [close]) ++ rest = opening :: (contents ++ close :: rest) := by
    simp
  rw [htext, Position.afterAll_cons, Position.afterAll_append]
  exact ⟨_, _, token_cons hopening place, h _ rest, hlast⟩

/-! ## Parts on lines of their own -/

/-- Parts with a comma and an indentation in between are parts that are indented themselves. -/
lemma joined_map_append (indent : List Char) (isFirst : Bool) (piece : List Char)
    (pieces : List (List Char)) :
    joined isFirst ((piece :: pieces).map (indent ++ ·)) =
      separator isFirst ++ (indent ++ (',' :: indent).intercalate (piece :: pieces)) := by
  induction pieces generalizing isFirst piece with
  | nil => simp [joined]
  | cons next others ih =>
    rw [List.map_cons, joined, ih, List.intercalate_cons_cons]
    simp [separator]

/-- The parts of an indented list or object stand behind blanks, each of them. -/
lemma Value.toList_encloseIndented (depth : Nat) (opening close : Char) (parts : List String) :
    ∃ blanks, Blank blanks ∧
      (encloseIndented depth (String.singleton opening) (String.singleton close) parts).toList =
        opening :: (joined true
          (parts.map fun part => (newline (depth + 1)).toList ++ part.toList) ++ blanks ++
            [close]) := by
  cases parts with
  | nil => exact ⟨[], blank_nil, by simp [encloseIndented, joined]⟩
  | cons part rest =>
    refine ⟨(newline depth).toList, blank_newline depth, ?_⟩
    have hjoined := joined_map_append (newline (depth + 1)).toList true part.toList
      (rest.map String.toList)
    rw [← List.map_cons, List.map_map] at hjoined
    simp only [Function.comp_def] at hjoined
    rw [hjoined]
    simp [encloseIndented, String.toList_intercalate, separator]

section Parts

variable {κ φ : Type} {Next : Bool → Cursor → Option κ → Cursor → Prop} {G : κ → Spelling φ}
  {piece : κ × φ → List Char} {parts : List (κ × φ)} {blanks : List Char} {close : Char}

/-- What follows a part is another one, or what closes the list or object. -/
lemma stops_joined (hblanks : Blank blanks) (hclose : Reader.isNumeral close = false)
    (pieces : List (List Char)) (rest : List Char) :
    Stops Reader.isNumeral (joined false pieces ++ blanks ++ close :: rest) := by
  cases pieces with
  | nil => exact stops_blanks hblanks hclose rest
  | cons piece pieces => exact stops_cons.2 (by decide)

/-- Parts are spelled one after the other if each of them is. -/
lemma Sequence.of_joined (hblanks : Blank blanks) (hclose : Reader.isNumeral close = false)
    (hend : ∀ isFirst place rest, Next isFirst ⟨place, blanks ++ close :: rest⟩ none
      ⟨place.afterAll blanks, close :: rest⟩)
    (hpart : ∀ part ∈ parts, ∀ isFirst place rest, Stops Reader.isNumeral rest →
      ∃ m, Next isFirst ⟨place, separator isFirst ++ (piece part ++ rest)⟩ (some part.1) m ∧
        G part.1 m part.2 ⟨place.afterAll (separator isFirst ++ piece part), rest⟩)
    (isFirst : Bool) (place : Position) (rest : List Char) :
    Sequence Next G isFirst
      ⟨place, joined isFirst (parts.map piece) ++ blanks ++ close :: rest⟩ parts
      ⟨place.afterAll (joined isFirst (parts.map piece) ++ blanks), close :: rest⟩ := by
  induction parts generalizing isFirst place with
  | nil => exact .nil (hend isFirst place rest)
  | cons part parts ih =>
    obtain ⟨m, hnext, hG⟩ := hpart part List.mem_cons_self isFirst place _
      (stops_joined hblanks hclose (parts.map piece) rest)
    have hrest := ih (fun other hother => hpart other (List.mem_cons_of_mem _ hother)) false
      (place.afterAll (separator isFirst ++ piece part))
    rw [← Position.afterAll_append] at hrest
    simp only [List.map_cons, joined, List.append_assoc] at hnext hG hrest ⊢
    exact .cons hnext hG hrest

end Parts

/-! ## Values -/

namespace Value

/-- A scalar stands on one line. -/
lemma indentedAt_of_isScalar {v : Value} (h : v.isScalar = true) (depth : Nat) :
    v.indentedAt depth = v.compact := by
  cases v with
  | bool b => cases b <;> simp [indentedAt, compact]
  | arr items => simp [isScalar] at h
  | obj members => simp [isScalar] at h
  | _ => simp [indentedAt, compact]

lemma indentedItems_eq (depth : Nat) (items : List Value) :
    indentedItems depth items = items.map (indentedAt depth) := by
  induction items with
  | nil => rfl
  | cons v rest ih => rw [indentedItems, ih, List.map_cons]

lemma toList_indentedAt_arr (depth : Nat) (items : List Value) : ∃ blanks, Blank blanks ∧
    ((Value.arr items).indentedAt depth).toList = '[' :: (joined true
      (items.map fun v => (newline (depth + 1)).toList ++ (v.indentedAt (depth + 1)).toList) ++
        blanks ++ [']']) := by
  have htext := toList_encloseIndented depth '[' ']' (items.map (indentedAt (depth + 1)))
  rw [List.map_map] at htext
  rw [indentedAt, indentedItems_eq]
  exact htext

/-- How a member of an object is indented. -/
def indentMember (depth : Nat) (m : String × Value) : String :=
  quote m.1 ++ ": " ++ m.2.indentedAt depth

lemma indentedMembers_eq (depth : Nat) (members : List (String × Value)) :
    indentedMembers depth members = members.map (indentMember depth) := by
  induction members with
  | nil => rfl
  | cons m rest ih => rw [indentedMembers, ih, List.map_cons, indentMember]

lemma toList_indentedAt_obj (depth : Nat) (members : List (String × Value)) :
    ∃ blanks, Blank blanks ∧ ((Value.obj members).indentedAt depth).toList = '{' :: (joined true
      (members.map fun m => (newline (depth + 1)).toList ++
        (indentMember (depth + 1) m).toList) ++ blanks ++ ['}']) := by
  have htext := toList_encloseIndented depth '{' '}' (members.map (indentMember (depth + 1)))
  rw [List.map_map] at htext
  rw [indentedAt, indentedMembers_eq]
  exact htext

/-- An indented value begins with a character that is neither blank nor a closing bracket. -/
lemma Plain.exists_cons_indentedAt {v : Value} (h : v.Plain) (depth : Nat) :
    ∃ c cs, (v.indentedAt depth).toList = c :: cs ∧ Cursor.isBlank c = false ∧ c ≠ ']' := by
  cases hscalar : v.isScalar with
  | true =>
    rw [indentedAt_of_isScalar hscalar]
    obtain ⟨c, cs, hcs, hblank, hclose, -⟩ := h.exists_cons
    exact ⟨c, cs, hcs, hblank, hclose⟩
  | false =>
    cases v with
    | arr items =>
      obtain ⟨blanks, -, htext⟩ := toList_indentedAt_arr depth items
      exact ⟨'[', _, htext, by decide, by decide⟩
    | obj members =>
      obtain ⟨blanks, -, htext⟩ := toList_indentedAt_obj depth members
      exact ⟨'{', _, htext, by decide, by decide⟩
    | _ => simp [isScalar] at hscalar

end Value

/-- The next element of a list stands behind what indents it. -/
lemma elementAt_append {indent piece : List Char} {c : Char} {cs : List Char}
    (hindent : Blank indent) (hpiece : piece = c :: cs) (hc : Cursor.isBlank c = false)
    (hclose : c ≠ ']') (isFirst : Bool) (place : Position) (rest : List Char) :
    ElementAt isFirst ⟨place, separator isFirst ++ (indent ++ piece ++ rest)⟩ (some ())
      ⟨place.afterAll (separator isFirst ++ indent), piece ++ rest⟩ := by
  subst hpiece
  rw [List.append_assoc]
  exact ⟨separated_append hindent (stops_cons.2 hc) isFirst place, c, rfl, hclose⟩

/-- The name of the next member of an object stands behind what indents it. -/
lemma memberAt_append {indent : List Char} (hindent : Blank indent) (name : String)
    (isFirst : Bool) (place : Position) (rest : List Char) :
    MemberAt isFirst ⟨place, separator isFirst ++ (indent ++ ((quote name).toList ++ rest))⟩
      (some name) ⟨place.afterAll (separator isFirst ++ indent ++ (quote name).toList), rest⟩ := by
  have hstop : Stops Cursor.isBlank ((quote name).toList ++ rest) := by
    rw [Text.toList_quote]
    exact stops_cons.2 (by decide)
  refine ⟨_, separated_append hindent hstop isFirst place, ?_, ?_⟩
  · rw [Text.toList_quote]
    rfl
  · have hliteral := Reader.reads_literal name (place.afterAll (separator isFirst ++ indent)) rest
      trivial
    rw [← Position.afterAll_append] at hliteral
    exact hliteral

/-- A value is spelled by a piece of text, wherever that stands. -/
def SpelledBy (levels : Nat) (v : Value) (piece : List Char) : Prop :=
  ∀ place rest, Stops Reader.isNumeral rest →
    Spelled levels ⟨place, piece ++ rest⟩ v ⟨place.afterAll piece, rest⟩

/-- A scalar is spelled by its text. -/
lemma spelledBy_scalar {v : Value} (h : v.Plain) (hscalar : v.isScalar = true)
    (levels depth : Nat) : SpelledBy levels v (v.indentedAt depth).toList := by
  rw [Value.indentedAt_of_isScalar hscalar]
  intro place rest hrest
  obtain ⟨c, cs, hcs, hblank, -⟩ := h.exists_cons
  have hstop : Stops Cursor.isBlank (v.compact.toList ++ rest) := hcs ▸ stops_cons.2 hblank
  have hread : Reader.scalar (⟨place, v.compact.toList ++ rest⟩ : Cursor).skipBlanks =
      .ok v ⟨place.afterAll v.compact.toList, rest⟩ := by
    rw [← List.nil_append (_ ++ rest), skipBlanks_append blank_nil hstop]
    exact Reader.reads_scalar h hscalar place rest hrest
  cases levels with
  | zero => exact hread
  | succ levels => exact .inl hread

/-- Blanks may stand in front of a value. -/
lemma SpelledBy.append {levels depth : Nat} {v : Value} (hplain : v.Plain)
    (h : SpelledBy levels v (v.indentedAt depth).toList) {blanks : List Char}
    (hblanks : Blank blanks) : SpelledBy levels v (blanks ++ (v.indentedAt depth).toList) := by
  intro place rest hrest
  obtain ⟨c, cs, hcs, hblank, -⟩ := hplain.exists_cons_indentedAt depth
  have hstop : Stops Cursor.isBlank ((v.indentedAt depth).toList ++ rest) :=
    hcs ▸ stops_cons.2 hblank
  refine .of_skipBlanks ?_
  rw [List.append_assoc, skipBlanks_append hblanks hstop, Position.afterAll_append]
  exact h (place.afterAll blanks) rest hrest

/-- An indented list is spelled by its text if its items are. -/
lemma listOf_indentedAt {items : List Value} {levels depth : Nat} (h : ∀ v ∈ items, v.Plain)
    (ih : ∀ v ∈ items, SpelledBy levels v (v.indentedAt (depth + 1)).toList) (place : Position)
    (rest : List Char) :
    ListOf (Spelled levels) ⟨place, ((Value.arr items).indentedAt depth).toList ++ rest⟩ items
      ⟨place.afterAll ((Value.arr items).indentedAt depth).toList, rest⟩ := by
  let indent := (Value.newline (depth + 1)).toList
  have hindent : Blank indent := blank_newline (depth + 1)
  obtain ⟨blanks, hblanks, htext⟩ := Value.toList_indentedAt_arr depth items
  have hpieces : (items.map fun v => indent ++ (v.indentedAt (depth + 1)).toList) =
      (items.map fun v => ((), v)).map fun part =>
        indent ++ (part.2.indentedAt (depth + 1)).toList := by
    rw [List.map_map]
    rfl
  rw [htext, hpieces]
  refine Enclosed.of_append (by decide) (by decide) (fun place rest => ?_) place rest
  refine Sequence.of_joined hblanks (by decide) ?_ ?_ true place rest
  · intro isFirst place rest
    exact ⟨(skipBlanks_append hblanks (stops_cons.2 (by decide)) place).symm, rfl⟩
  · rintro _ hpart isFirst place rest hrest
    obtain ⟨v, hv, rfl⟩ := List.mem_map.1 hpart
    obtain ⟨c, cs, hcs, hblank, hclose⟩ := (h v hv).exists_cons_indentedAt (depth + 1)
    refine ⟨_, elementAt_append hindent hcs hblank hclose isFirst place rest, ?_⟩
    have hvalue := ih v hv (place.afterAll (separator isFirst ++ indent)) rest hrest
    rwa [← Position.afterAll_append, List.append_assoc] at hvalue

/-- An indented object is spelled by its text if the values of its members are. -/
lemma objectOf_indentedAt {members : List (String × Value)} {levels depth : Nat}
    (h : ∀ m ∈ members, m.2.Plain)
    (ih : ∀ m ∈ members, SpelledBy levels m.2 (m.2.indentedAt (depth + 1)).toList)
    (place : Position) (rest : List Char) :
    ObjectOf (fun _ => Spelled levels)
      ⟨place, ((Value.obj members).indentedAt depth).toList ++ rest⟩ members
      ⟨place.afterAll ((Value.obj members).indentedAt depth).toList, rest⟩ := by
  let indent := (Value.newline (depth + 1)).toList
  have hindent : Blank indent := blank_newline (depth + 1)
  obtain ⟨blanks, hblanks, htext⟩ := Value.toList_indentedAt_obj depth members
  rw [htext]
  refine Enclosed.of_append (by decide) (by decide) (fun place rest => ?_) place rest
  refine Sequence.of_joined hblanks (by decide) ?_ ?_ true place rest
  · intro isFirst place rest
    exact ⟨(skipBlanks_append hblanks (stops_cons.2 (by decide)) place).symm, rfl⟩
  · intro m hm isFirst place rest hrest
    -- Behind the name come the colon and a blank.
    let value := [' '] ++ (m.2.indentedAt (depth + 1)).toList
    have hpiece : indent ++ (Value.indentMember (depth + 1) m).toList =
        indent ++ ((quote m.1).toList ++ ':' :: value) := by
      simp [Value.indentMember, value]
    have hname := memberAt_append hindent m.1 isFirst place (':' :: (value ++ rest))
    have hblank : Blank [' '] := by simp [Blank, Cursor.isBlank]
    have hvalue := (ih m hm).append (h m hm) hblank
      ((place.afterAll (separator isFirst ++ indent ++ (quote m.1).toList)).after ':') rest hrest
    rw [hpiece]
    simp only [List.append_assoc, List.cons_append] at hname hvalue ⊢
    refine ⟨_, hname, _, token_cons (by decide) _, ?_⟩
    simpa [value] using hvalue

/-- An indented value is spelled by its text. -/
theorem spelledBy_indentedAt {v : Value} (h : v.Plain) {levels : Nat}
    (hnesting : v.nesting ≤ levels) (depth : Nat) :
    SpelledBy levels v (v.indentedAt depth).toList := by
  induction h generalizing levels depth with
  | null => exact spelledBy_scalar .null rfl levels depth
  | bool b => exact spelledBy_scalar (.bool b) rfl levels depth
  | int h => exact spelledBy_scalar (.int h) rfl levels depth
  | str s => exact spelledBy_scalar (.str s) rfl levels depth
  | @arr items h ih =>
    obtain ⟨levels, rfl⟩ := Nat.exists_eq_add_of_le' (Nat.le_of_add_left_le hnesting)
    have hitems := Value.nestingItems_le.1 (Nat.le_of_add_le_add_right hnesting)
    intro place rest _
    refine .inr (.inl ⟨items, rfl, listOf_indentedAt h (fun v hv => ?_) place rest⟩)
    exact ih v hv (hitems v hv) (depth + 1)
  | @obj members h ih =>
    obtain ⟨levels, rfl⟩ := Nat.exists_eq_add_of_le' (Nat.le_of_add_left_le hnesting)
    have hmembers := Value.nestingMembers_le.1 (Nat.le_of_add_le_add_right hnesting)
    intro place rest _
    refine .inr (.inr ⟨members, rfl, objectOf_indentedAt h (fun m hm => ?_) place rest⟩)
    exact ih m hm (hmembers m hm) (depth + 1)

/-- **Indented values are read back.**  A value that nests no deeper than a reader goes is read from
its indented text, whatever blanks follow. -/
theorem readText_indented {v : Value} (h : v.Plain) (hnesting : v.nesting ≤ 127) {blanks : String}
    (hblanks : Blank blanks.toList) : readText Reader.value (v.indented ++ blanks) = .ok v := by
  have hstop : Stops Reader.isNumeral blanks.toList := by
    cases hcs : blanks.toList with
    | nil => simp [Stops]
    | cons c cs => exact stops_cons.2 (isNumeral_of_isBlank (hblanks c (by simp [hcs])))
  have hvalue := spelledBy_indentedAt h hnesting 0 .start blanks.toList hstop
  have hnil : Stops Cursor.isBlank [] := by simp [Stops]
  have hend := skipBlanks_append hblanks hnil (Position.start.afterAll v.indented.toList)
  rw [← String.toList_append] at hvalue
  rw [List.append_nil] at hend
  refine (Reader.describedBy_value _ 127).readText_eq_ok.2 ⟨_, hvalue, ?_⟩
  exact congrArg Cursor.rest hend

end Abnf.Json
