import Abnf.Proofs.Json.Scalars

/-!
# Reading back what is written: lists and objects

The contents of a list or an object are read part by part, and each part takes a state to the next
one (`Chain`).  A value that is written without blanks is read back as itself, if the limits allow
for its depth and its length (`reads_valueWithin`).
-/

namespace Abnf.Json

open Text (quote)

namespace Value

mutual

/-- How many lists and objects stand inside each other in a value. -/
def nesting : Value → Nat
  | .arr items => nestingItems items + 1
  | .obj members => nestingMembers members + 1
  | .null | .bool _ | .int _ | .float _ | .str _ => 0

/-- The greatest nesting among the items of a list. -/
def nestingItems : List Value → Nat
  | [] => 0
  | v :: rest => max v.nesting (nestingItems rest)

/-- The greatest nesting among the members of an object. -/
def nestingMembers : List (String × Value) → Nat
  | [] => 0
  | (_, v) :: rest => max v.nesting (nestingMembers rest)

end

lemma nestingItems_le {items : List Value} {n : Nat} :
    nestingItems items ≤ n ↔ ∀ v ∈ items, v.nesting ≤ n := by
  induction items with
  | nil => simp [nestingItems]
  | cons v rest ih => rw [nestingItems, Nat.max_le, ih, List.forall_mem_cons]

lemma nestingMembers_le {members : List (String × Value)} {n : Nat} :
    nestingMembers members ≤ n ↔ ∀ m ∈ members, m.2.nesting ≤ n := by
  induction members with
  | nil => simp [nestingMembers]
  | cons m rest ih => rw [nestingMembers, Nat.max_le, ih, List.forall_mem_cons]

/-- A value without floating point numbers, whose whole numbers are natural and have at most 64
bits. -/
inductive Plain : Value → Prop where
  /-- The value `null`. -/
  | null : Plain .null
  /-- A truth value. -/
  | bool (b : Bool) : Plain (.bool b)
  /-- A natural number of at most 64 bits. -/
  | int {n : Nat} (h : n < UInt64.size) : Plain (.int n)
  /-- A text. -/
  | str (s : String) : Plain (.str s)
  /-- A list of such values. -/
  | arr {items : List Value} (h : ∀ v ∈ items, Plain v) : Plain (.arr items)
  /-- An object of such values. -/
  | obj {members : List (String × Value)} (h : ∀ m ∈ members, Plain m.2) : Plain (.obj members)

lemma Plain.members {members : List (String × Value)} (h : (Value.obj members).Plain) :
    ∀ m ∈ members, m.2.Plain := by
  cases h with
  | obj h => exact h

/-- Whether a value is neither a list nor an object. -/
def isScalar : Value → Bool
  | .arr _ | .obj _ => false
  | .null | .bool _ | .int _ | .float _ | .str _ => true

lemma toList_enclose (opening closing : Char) (parts : List String) :
    (enclose (String.singleton opening) (String.singleton closing) parts).toList =
      opening :: ([','].intercalate (parts.map String.toList) ++ [closing]) := by
  simp [enclose, String.toList_intercalate]

lemma toList_arr (items : List Value) : (Value.arr items).compact.toList =
    '[' :: ([','].intercalate (items.map fun v => v.compact.toList) ++ [']']) := by
  rw [compact, compactItems_eq]
  exact (toList_enclose '[' ']' _).trans (by simp [Function.comp_def])

/-- How a member of an object is written. -/
def writeMember (m : String × Value) : List Char := (quote m.1).toList ++ ':' :: m.2.compact.toList

lemma toList_obj (members : List (String × Value)) : (Value.obj members).compact.toList =
    '{' :: ([','].intercalate (members.map writeMember) ++ ['}']) := by
  rw [compact, compactMembers_eq]
  have hmembers : (members.map fun m => quote m.1 ++ ":" ++ m.2.compact).map String.toList =
      members.map writeMember := by
    rw [List.map_map]
    exact List.map_congr_left fun m _ => by simp [writeMember]
  exact (toList_enclose '{' '}' _).trans (by rw [hmembers])

/-- A value begins with a character that is not a blank; only a list or an object begins with a
bracket or a brace. -/
lemma Plain.exists_cons {v : Value} (h : v.Plain) : ∃ c cs, v.compact.toList = c :: cs ∧
    Cursor.isBlank c = false ∧ c ≠ ']' ∧ (v.isScalar = true → c ≠ '[' ∧ c ≠ '{') := by
  cases h with
  | null => exact ⟨'n', _, rfl, by decide⟩
  | bool b =>
    cases b with
    | false => exact ⟨'f', _, rfl, by decide⟩
    | true => exact ⟨'t', _, rfl, by decide⟩
  | int h =>
    rename_i n
    obtain ⟨c, cs, hcs, hdigit⟩ := Reader.exists_cons_toString n
    have hother : ∀ d : Char, d.isDigit = false → c ≠ d := fun d hd =>
      Reader.ne_of_isDigit hdigit hd
    refine ⟨c, cs, hcs, ?_, hother _ (by decide), fun _ => ⟨hother _ (by decide),
      hother _ (by decide)⟩⟩
    simp [Cursor.isBlank, hother]
  | str s => exact ⟨'"', _, Text.toList_quote s, by decide, by decide, fun _ => by decide⟩
  | arr h => exact ⟨'[', _, toList_arr _, by decide, by decide, by simp [isScalar]⟩
  | obj h => exact ⟨'{', _, toList_obj _, by decide, by decide, by simp [isScalar]⟩

end Value

namespace Reader

/-- A scalar is read as the value for which it was written. -/
lemma reads_scalar {v : Value} (h : v.Plain) (hscalar : v.isScalar = true) :
    Reads (Stops isNumeral) scalar v.compact.toList v := by
  cases h with
  | null => exact reads_scalar_null.mono fun _ _ => trivial
  | bool b => exact (reads_scalar_bool b).mono fun _ _ => trivial
  | int h => exact reads_scalar_int h
  | str s => exact (reads_scalar_str s).mono fun _ _ => trivial
  | arr _ => exact absurd hscalar (by simp [Value.isScalar])
  | obj _ => exact absurd hscalar (by simp [Value.isScalar])

lemma reads_scalarAs {decode : Value → Except Cause α} {v : Value} {a : α} (h : v.Plain)
    (hscalar : v.isScalar = true) (hdecode : decode v = .ok a) :
    Reads Closes (scalarAs decode) v.compact.toList a := by
  have hread := (reads_scalar h hscalar).mono fun _ => stops_of_closes
  obtain ⟨c, cs, hcs, hblank, -, hother⟩ := h.exists_cons
  obtain ⟨hbracket, hbrace⟩ := hother hscalar
  rw [hcs] at hread ⊢
  refine reads_peekToken hblank ?_
  split
  · next heq => exact absurd (Option.some.inj heq) hbracket
  · next heq => exact absurd (Option.some.inj heq) hbrace
  · intro place rest hrest
    rw [bind_apply, hread place rest hrest]
    simp [hdecode, ofExceptHere]

end Reader

/-! ## Parts -/

/-- What separates a part from those before it: a comma, unless it is the first one. -/
def separator (isFirst : Bool) : List Char := if isFirst then [] else [',']

/-- Some parts with commas in between, the first of them being the first one of all or not. -/
def joined (isFirst : Bool) : List (List Char) → List Char
  | [] => []
  | piece :: rest => separator isFirst ++ (piece ++ joined false rest)

lemma joined_true (pieces : List (List Char)) :
    joined true pieces = [','].intercalate pieces := by
  have hlater : ∀ pieces, joined false pieces = pieces.flatMap fun piece => [','] ++ piece := by
    intro pieces
    induction pieces with
    | nil => rfl
    | cons piece rest ih => simp [joined, separator, ih]
  cases pieces with
  | nil => rfl
  | cons piece rest =>
    cases rest with
    | nil => simp [joined, separator]
    | cons next others =>
      have hflat : (next :: others).flatMap (fun piece => [','] ++ id piece) =
          [','] ++ [','].intercalate ((next :: others).map id) :=
        Separates.flatMap_eq_intercalate (List.cons_ne_nil next others)
      rw [List.map_id] at hflat
      rw [joined, hlater, List.intercalate_cons_cons]
      simp only [id] at hflat
      rw [hflat]
      simp [separator]

lemma closes_joined {pieces : List (List Char)} {rest : List Char} (h : Closes rest) :
    Closes (joined false pieces ++ rest) := by
  cases pieces with
  | nil => exact h
  | cons piece pieces => exact closes_cons (.inl rfl)

private lemma length_le_joined {pieces : List (List Char)} (h : ∀ piece ∈ pieces, piece ≠ [])
    (isFirst : Bool) : pieces.length ≤ (joined isFirst pieces).length := by
  induction pieces generalizing isFirst with
  | nil => simp
  | cons piece pieces ih =>
    have hpiece := List.length_pos_iff.2 (h piece (by simp))
    have hrest := ih (fun other hother => h other (by simp [hother])) false
    simp only [joined, List.length_cons, List.length_append]
    omega

private lemma length_le_of_mem_joined {pieces : List (List Char)} {piece : List Char}
    (h : piece ∈ pieces) (isFirst : Bool) : piece.length ≤ (joined isFirst pieces).length := by
  induction pieces generalizing isFirst with
  | nil => simp at h
  | cons other pieces ih =>
    simp only [joined, List.length_append]
    rcases List.mem_cons.1 h with rfl | hmem
    · omega
    · have hrest := ih hmem false
      omega

/-- A value stays within some limits: it does not nest too deep, and the bound on the number of
parts exceeds the length of its text. -/
structure Value.Fits (v : Value) (limits : Limits) : Prop where
  /-- The limit on the depth is kept. -/
  depth : v.nesting ≤ limits.levels
  /-- The bound on the number of parts is not reached. -/
  length : v.compact.toList.length < limits.rounds

namespace Value.Fits

variable {levels rounds : Nat}

private lemma parts {pieces : List (List Char)} {opening close : Char}
    (h : (opening :: ([','].intercalate pieces ++ [close])).length < rounds)
    (hne : ∀ piece ∈ pieces, piece ≠ []) :
    pieces.length < rounds ∧ ∀ piece ∈ pieces, piece.length < rounds := by
  -- No piece is empty, so that their number is bounded by the length of the text, too.
  rw [← joined_true, List.length_cons, List.length_append] at h
  refine ⟨?_, fun piece hpiece => ?_⟩
  · have hle := length_le_joined hne true
    omega
  · have hle := length_le_of_mem_joined hpiece true
    omega

/-- The items of a list fit one level deeper, and there are not too many of them. -/
lemma items {items : List Value} (hplain : ∀ v ∈ items, v.Plain)
    (h : (Value.arr items).Fits ⟨levels, rounds⟩) : ∃ inner, levels = inner + 1 ∧
      items.length < rounds ∧ ∀ v ∈ items, v.Fits ⟨inner, rounds⟩ := by
  have hdepth : _ ≤ levels := h.depth
  have hlength : _ < rounds := h.length
  rw [Value.nesting] at hdepth
  rw [Value.toList_arr] at hlength
  obtain ⟨inner, rfl⟩ := Nat.exists_eq_add_of_le' (Nat.le_of_add_left_le hdepth)
  have hitems := Value.nestingItems_le.1 (Nat.le_of_add_le_add_right hdepth)
  have hne : ∀ piece ∈ items.map fun v => v.compact.toList, piece ≠ [] := by
    refine List.forall_mem_map.2 fun v hv => ?_
    obtain ⟨c, cs, hcs, -⟩ := (hplain v hv).exists_cons
    exact hcs ▸ List.cons_ne_nil c cs
  obtain ⟨hcount, hpieces⟩ := parts hlength hne
  refine ⟨inner, rfl, by simpa using hcount, fun v hv => ⟨hitems v hv, ?_⟩⟩
  exact hpieces _ (List.mem_map_of_mem hv)

/-- The members of an object fit one level deeper, and there are not too many of them. -/
lemma members {members : List (String × Value)} (h : (Value.obj members).Fits ⟨levels, rounds⟩) :
    ∃ inner, levels = inner + 1 ∧ members.length < rounds ∧
      ∀ m ∈ members, m.2.Fits ⟨inner, rounds⟩ := by
  have hdepth : _ ≤ levels := h.depth
  have hlength : _ < rounds := h.length
  rw [Value.nesting] at hdepth
  rw [Value.toList_obj] at hlength
  obtain ⟨inner, rfl⟩ := Nat.exists_eq_add_of_le' (Nat.le_of_add_left_le hdepth)
  have hmembers := Value.nestingMembers_le.1 (Nat.le_of_add_le_add_right hdepth)
  obtain ⟨hcount, hpieces⟩ := parts hlength
    (List.forall_mem_map.2 fun m _ => by simp [Value.writeMember])
  refine ⟨inner, rfl, by simpa using hcount, fun m hm => ⟨hmembers m hm, ?_⟩⟩
  have hpiece := hpieces _ (List.mem_map_of_mem hm)
  rw [Value.writeMember, List.length_append, List.length_cons] at hpiece
  show m.2.compact.toList.length < rounds
  omega

end Value.Fits

namespace Reader

variable {σ κ α : Type}

/-- Reads one part, if another one follows, and adds it to the state. -/
def part (next : Bool → Reader (Option κ)) (step : σ → κ → Reader σ) (isFirst : Bool) (state : σ) :
    Reader (Option σ) := do
  match ← next isFirst with
  | none => pure none
  | some key => some <$> step state key

lemma many_succ (next : Bool → Reader (Option κ)) (step : σ → κ → Reader σ) (rounds : Nat)
    (isFirst : Bool) (state : σ) :
    many next step (rounds + 1) isFirst state = (do
      match ← part next step isFirst state with
      | none => pure state
      | some state => many next step rounds false state) := by
  funext cursor
  rw [many, part, bind_apply, bind_apply, bind_apply]
  cases next isFirst cursor with
  | ok key stop =>
    cases key with
    | none => rfl
    | some key =>
      show (step state key >>= fun state => many next step rounds false state) stop =
        ((step state key >>= fun state => pure (some state)) >>= fun
          | none => pure state
          | some state => many next step rounds false state) stop
      simp only [bind_apply]
      cases step state key stop <;> rfl
  | failed cause place => rfl
  | refused cause stop => rfl

/-- Parts that take a state to another one, when they are read one after the other. -/
inductive Chain {σ κ : Type} (next : Bool → Reader (Option κ)) (step : σ → κ → Reader σ) :
    Bool → σ → List (List Char) → σ → Prop where
  /-- Without parts the state stays as it is. -/
  | nil {isFirst : Bool} {state : σ} : Chain next step isFirst state [] state
  /-- A part takes the state to one from which the other parts go on. -/
  | cons {isFirst : Bool} {state state' state'' : σ} {piece : List Char}
      {pieces : List (List Char)}
      (hpiece : Reads Closes (Reader.part next step isFirst state) (separator isFirst ++ piece)
        (some state'))
      (hpieces : Chain next step false state' pieces state'') :
      Chain next step isFirst state (piece :: pieces) state''

/-- Where each part adds something to the state, whatever the state is, all of them do so one after
the other. -/
lemma Chain.of_forall {β : Type} {next : Bool → Reader (Option κ)} {step : σ → κ → Reader σ}
    {xs : List β} {piece : β → List Char} (f : σ → β → σ)
    (h : ∀ x ∈ xs, ∀ isFirst state, Reads Closes (part next step isFirst state)
      (separator isFirst ++ piece x) (some (f state x)))
    (isFirst : Bool) (state : σ) :
    Chain next step isFirst state (xs.map piece) (xs.foldl f state) := by
  induction xs generalizing isFirst state with
  | nil => exact .nil
  | cons x xs ih =>
    have hrest := ih (fun y hy => h y (List.mem_cons_of_mem _ hy)) false (f state x)
    exact .cons (h x List.mem_cons_self isFirst state) hrest

/-- A certain character follows. -/
def Before (c : Char) (rest : List Char) : Prop := ∃ tail, rest = c :: tail

lemma closes_of_before {close : Char} (h : close = ']' ∨ close = '}') {rest : List Char}
    (hrest : Before close rest) : Closes rest := by
  obtain ⟨tail, rfl⟩ := hrest
  exact closes_cons (.inr h)

/-- The contents of a list or an object are read up to where it is closed. -/
theorem Chain.reads {next : Bool → Reader (Option κ)} {step : σ → κ → Reader σ} {isFirst : Bool}
    {state state' : σ} {pieces : List (List Char)} {close : Char} {rounds : Nat}
    (h : Chain next step isFirst state pieces state') (hclose : close = ']' ∨ close = '}')
    (hnext : ∀ isFirst, Reads (Before close) (next isFirst) [] none)
    (hrounds : pieces.length < rounds) :
    Reads (Before close) (many next step rounds isFirst state) (joined isFirst pieces) state' := by
  -- Every part takes one round, and so does the closing bracket: this is where the bound is strict.
  induction h generalizing rounds with
  | @nil isFirst state =>
    cases rounds with
    | zero => exact absurd hrounds (Nat.not_lt_zero _)
    | succ rounds =>
      intro place rest hrest
      rw [many, joined, bind_apply, hnext isFirst place rest hrest]
      rfl
  | @cons isFirst state state' state'' piece pieces hpiece _ ih =>
    cases rounds with
    | zero => exact absurd hrounds (Nat.not_lt_zero _)
    | succ rounds =>
      have hpieces := ih (Nat.lt_of_succ_lt_succ hrounds)
      have hread := hpiece.bind (f := fun
        | none => pure state
        | some state => many next step rounds false state) hpieces
        fun rest hrest => closes_joined (closes_of_before hclose hrest)
      rw [many_succ, joined, ← List.append_assoc]
      exact hread

/-! ## Elements and members -/

/-- A value follows. -/
def Starts (rest : List Char) : Prop :=
  ∃ c tail, rest = c :: tail ∧ Cursor.isBlank c = false ∧ c ≠ ']'

lemma Starts.of_plain {v : Value} (h : v.Plain) : Starts v.compact.toList := by
  obtain ⟨c, cs, hcs, hblank, hc, -⟩ := h.exists_cons
  exact ⟨c, cs, hcs, hblank, hc⟩

lemma reads_nextElement (isFirst : Bool) :
    Reads Starts (nextElement isFirst) (separator isFirst) (some ()) := by
  rintro place rest ⟨c, tail, rfl, hblank, hc⟩
  cases isFirst with
  | true =>
    show nextElement true ⟨place, c :: tail⟩ = .ok (some ()) ⟨place, c :: tail⟩
    rw [nextElement, bind_apply, peekToken_cons hblank]
    simp
  | false =>
    show nextElement false ⟨place, ',' :: c :: tail⟩ = .ok (some ()) ⟨place.after ',', c :: tail⟩
    rw [nextElement, bind_apply, peekToken_cons (by decide)]
    simp [skip_one, peekToken_cons hblank]

lemma reads_nextElement_end (isFirst : Bool) :
    Reads (Before ']') (nextElement isFirst) [] none := by
  rintro place rest ⟨tail, rfl⟩
  rw [List.nil_append, nextElement, bind_apply, peekToken_cons (by decide)]
  rfl

lemma reads_nextMember (isFirst : Bool) (name : String) :
    Reads Anything (nextMember isFirst) (separator isFirst ++ (quote name).toList)
      (some name) := by
  have hname := (reads_literal name).map some
  rw [Text.toList_quote] at hname ⊢
  cases isFirst with
  | true => exact reads_peekToken (by decide) hname
  | false =>
    refine reads_peekToken (by decide) ?_
    exact (reads_skip ',').bind (reads_peekToken (by decide) hname) fun _ _ => trivial

lemma reads_nextMember_end (isFirst : Bool) :
    Reads (Before '}') (nextMember isFirst) [] none := by
  rintro place rest ⟨tail, rfl⟩
  rw [List.nil_append, nextMember, bind_apply, peekToken_cons (by decide)]
  rfl

/-- An element of a list is read, and kept in front of those read so far. -/
lemma reads_element {item : Reader α} {piece : List Char} {a : α}
    (hitem : Reads Closes item piece a) (hstarts : Starts piece) (isFirst : Bool) (read : List α) :
    Reads Closes (part nextElement (fun read _ => (· :: read) <$> item) isFirst read)
      (separator isFirst ++ piece) (some (a :: read)) := by
  refine (reads_nextElement isFirst).bind ((hitem.map (· :: read)).map some) ?_
  obtain ⟨c, tail, rfl, hc⟩ := hstarts
  exact fun rest _ => ⟨c, tail ++ rest, rfl, hc⟩

/-- A list is read element by element. -/
theorem reads_elements {β : Type} {item : Reader α} {xs : List β} {piece : β → List Char}
    {value : β → α} {rounds : Nat} (hitem : ∀ x ∈ xs, Reads Closes item (piece x) (value x))
    (hstarts : ∀ x ∈ xs, Starts (piece x)) (hrounds : xs.length < rounds) :
    Reads (Before ']') (elements rounds item) ([','].intercalate (xs.map piece))
      (xs.map value) := by
  have hchain := Chain.of_forall (fun read x => value x :: read)
    (fun x hx => reads_element (hitem x hx) (hstarts x hx)) true []
  rw [List.foldl_flip_cons_eq_append, List.append_nil] at hchain
  have hread := (hchain.reads (.inl rfl) reads_nextElement_end (by simpa using hrounds)).map
    List.reverse
  rw [joined_true, List.reverse_reverse] at hread
  exact hread

/-- A member of an object is read as its step demands, from the colon on. -/
lemma reads_member {step : σ → String → Reader σ} {name : String} {tail : List Char}
    {state state' : σ} (hstep : Reads Closes (step state name) tail state') (isFirst : Bool) :
    Reads Closes (part nextMember step isFirst state)
      (separator isFirst ++ ((quote name).toList ++ tail)) (some state') := by
  rw [← List.append_assoc]
  exact (reads_nextMember isFirst name).bind (hstep.map some) fun _ _ => trivial

/-- The members of an object are read one after the other. -/
theorem reads_members {step : σ → String → Reader σ} {pieces : List (List Char)} {state state' : σ}
    {rounds : Nat} (h : Chain nextMember step true state pieces state')
    (hrounds : pieces.length < rounds) :
    Reads (Before '}') (members rounds step state) ([','].intercalate pieces) state' := by
  have hread := h.reads (.inr rfl) reads_nextMember_end hrounds
  rw [joined_true] at hread
  exact hread

/-! ## Entering and leaving -/

lemma reads_within {leave : Cursor → Leaving} {contents : Reader α} {inner : List Char} {a : α}
    {close : Char} (hcontents : Reads (Before close) contents inner a)
    (hleave : ∀ place rest, leave ⟨place, close :: rest⟩ = ⟨⟨place.after close, rest⟩, none⟩)
    (opening : Char) :
    Reads Anything (within leave contents) (opening :: (inner ++ [close])) a := by
  intro place rest _
  have hread := hcontents (place.after opening) (close :: rest) ⟨rest, rfl⟩
  have hdrop : (⟨place, opening :: (inner ++ [close]) ++ rest⟩ : Cursor).drop 1 =
      ⟨place.after opening, inner ++ close :: rest⟩ := by
    simp [Cursor.drop]
  rw [within, hdrop, hread]
  simp [hleave]

lemma leaveList_close (place : Position) (rest : List Char) :
    leaveList ⟨place, ']' :: rest⟩ = ⟨⟨place.after ']', rest⟩, none⟩ :=
  rfl

lemma leaveObject_close (place : Position) (rest : List Char) :
    leaveObject ⟨place, '}' :: rest⟩ = ⟨⟨place.after '}', rest⟩, none⟩ :=
  rfl

/-- A list is read if its contents are, one level deeper. -/
lemma reads_list (contents : Limits → Reader α) {inner : List Char} {a : α} {levels rounds : Nat}
    (hcontents : Reads (Before ']') (contents ⟨levels, rounds⟩) inner a) :
    Reads Anything (list ⟨levels + 1, rounds⟩ contents) ('[' :: (inner ++ [']'])) a :=
  reads_within hcontents leaveList_close '['

/-- An object is read if its contents are, one level deeper. -/
lemma reads_object (contents : Limits → Reader α) {inner : List Char} {a : α} {levels rounds : Nat}
    (hcontents : Reads (Before '}') (contents ⟨levels, rounds⟩) inner a) :
    Reads Anything (object ⟨levels + 1, rounds⟩ contents) ('{' :: (inner ++ ['}'])) a :=
  reads_within hcontents leaveObject_close '{'

/-! ## Any value -/

lemma reads_valueWithin_scalar {v : Value} (h : v.Plain) (hscalar : v.isScalar = true)
    (rounds levels : Nat) : Reads Closes (valueWithin rounds levels) v.compact.toList v := by
  have hread := (reads_scalar h hscalar).mono fun _ => stops_of_closes
  obtain ⟨c, cs, hcs, hblank, -, hother⟩ := h.exists_cons
  obtain ⟨hbracket, hbrace⟩ := hother hscalar
  rw [hcs] at hread ⊢
  unfold valueWithin
  refine reads_peekToken hblank ?_
  split
  · next heq => exact absurd (Option.some.inj heq) hbracket
  · next heq => exact absurd (Option.some.inj heq) hbrace
  · exact hread

/-- A member of an object of values is read, and kept in front of those read so far. -/
lemma reads_valueMember {value : Reader Value} {m : String × Value}
    (h : Reads Closes value m.2.compact.toList m.2) (isFirst : Bool)
    (read : List (String × Value)) :
    Reads Closes (part nextMember (fun read name => do
        colon
        let v ← value
        pure ((name, v) :: read)) isFirst read)
      (separator isFirst ++ Value.writeMember m) (some (m :: read)) :=
  reads_member (reads_colon.bind (h.map fun v => (m.1, v) :: read) fun _ _ => trivial) isFirst

lemma chain_values {members : List (String × Value)} {value : Reader Value}
    (h : ∀ m ∈ members, Reads Closes value m.2.compact.toList m.2) :
    Chain nextMember (fun read name => do
        colon
        let v ← value
        pure ((name, v) :: read))
      true [] (members.map Value.writeMember) members.reverse := by
  have hchain := Chain.of_forall (fun read m => id m :: read)
    (fun m hm => reads_valueMember (h m hm)) true []
  rw [List.foldl_flip_cons_eq_append, List.map_id, List.append_nil] at hchain
  exact hchain

/-- A value is read back as itself within limits that it fits. -/
theorem reads_valueWithin {v : Value} (h : v.Plain) {rounds levels : Nat}
    (hfits : v.Fits ⟨levels, rounds⟩) :
    Reads Closes (valueWithin rounds levels) v.compact.toList v := by
  induction h generalizing levels with
  | null => exact reads_valueWithin_scalar .null rfl rounds levels
  | bool b => exact reads_valueWithin_scalar (.bool b) rfl rounds levels
  | int h => exact reads_valueWithin_scalar (.int h) rfl rounds levels
  | str s => exact reads_valueWithin_scalar (.str s) rfl rounds levels
  | @arr items h ih =>
    obtain ⟨levels, rfl, hcount, hitems⟩ := hfits.items h
    have hvalues : ∀ v ∈ items,
        Reads Closes (valueWithin rounds levels) v.compact.toList (id v) := fun v hv =>
      ih v hv (hitems v hv)
    have hread := (reads_elements hvalues (fun v hv => Starts.of_plain (h v hv)) hcount).map
      Value.arr
    rw [List.map_id] at hread
    rw [Value.toList_arr, valueWithin]
    refine reads_peekToken (by decide) ?_
    exact (reads_within hread leaveList_close '[').closes
  | @obj members h ih =>
    obtain ⟨levels, rfl, hcount, hmembers⟩ := hfits.members
    have hvalues : ∀ m ∈ members,
        Reads Closes (valueWithin rounds levels) m.2.compact.toList m.2 := fun m hm =>
      ih m hm (hmembers m hm)
    have hread := (reads_members (chain_values hvalues) (by simpa using hcount)).map
      fun read : List (String × Value) => Value.obj read.reverse
    rw [List.reverse_reverse] at hread
    rw [Value.toList_obj, valueWithin]
    refine reads_peekToken (by decide) ?_
    exact (reads_within hread leaveObject_close '{').closes

end Reader

/-- A value that nests no deeper than a reader goes is read back from its text. -/
theorem readText_compact {v : Value} (h : v.Plain) (hnesting : v.nesting ≤ 127) :
    readText Reader.value v.compact = .ok v := by
  have hfits : v.Fits (Limits.of v.compact) :=
    ⟨hnesting, by rw [String.length_toList]; exact Nat.lt_succ_self _⟩
  exact (Reader.reads_valueWithin h hfits).run

end Abnf.Json
