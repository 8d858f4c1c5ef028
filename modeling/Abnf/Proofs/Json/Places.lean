import Mathlib.Data.List.Induction
import Mathlib.Tactic.Lemma
import Abnf.Json.Record
import Abnf.Rendering.Diagnostic

/-!
# Places, lines and messages

A cursor stands in a text if what it has read and what it has left make up the text, and if its
position is that of what it has read (`Cursor.In`).  A place of a text lies on the line of such a
cursor and not behind it (`Position.In`), so that its line is one of the lines of the text and its
column does not go beyond the end of that line (`Position.In.splitOn`).

A place is written behind a message.  The message must not end as a place does, if it is to be found
again; this is so for all messages (`Cause.Placeless`), since those that quote a text have something
else behind it.
-/

namespace Abnf.Json

/-! ## Cursors and places of a text -/

section Places

variable {cs rest : List Char} {c : Char} {p : Position}

/-- The cursor has read the beginning of a text and has the rest of it left. -/
def Cursor.In (cs : List Char) (cursor : Cursor) : Prop :=
  ∃ read, cs = read ++ cursor.rest ∧ cursor.position = Position.start.afterAll read

/-- A place on the line on which a cursor stands, and no further than the cursor. -/
def Position.In (cs : List Char) (place : Position) : Prop :=
  ∃ cursor : Cursor, cursor.In cs ∧ place.line = cursor.position.line ∧
    place.column ≤ cursor.position.column

lemma Cursor.in_start (text : String) : (Cursor.start text).In text.toList :=
  ⟨[], rfl, rfl⟩

namespace Cursor.In

lemma afterAll (as : List Char) (h : Cursor.In cs ⟨p, as ++ rest⟩) :
    Cursor.In cs ⟨p.afterAll as, rest⟩ := by
  obtain ⟨read, hread, hp⟩ := h
  refine ⟨read ++ as, ?_, ?_⟩
  · rw [hread, List.append_assoc]
  · rw [Position.afterAll_append, ← hp]

lemma after (h : Cursor.In cs ⟨p, c :: rest⟩) : Cursor.In cs ⟨p.after c, rest⟩ :=
  afterAll [c] h

lemma drop {cursor : Cursor} (h : cursor.In cs) (n : Nat) : (cursor.drop n).In cs := by
  refine afterAll (cursor.rest.take n) ?_
  rwa [List.take_append_drop]

lemma dropWhile {cursor : Cursor} (h : cursor.In cs) (keep : Char → Bool) :
    (cursor.dropWhile keep).In cs := by
  refine afterAll (cursor.rest.takeWhile keep) ?_
  rwa [List.takeWhile_append_dropWhile]

lemma skipBlanks {cursor : Cursor} (h : cursor.In cs) : cursor.skipBlanks.In cs :=
  h.dropWhile Cursor.isBlank

lemma position {cursor : Cursor} (h : cursor.In cs) : cursor.position.In cs :=
  ⟨cursor, h, rfl, Nat.le_refl _⟩

/-- Some bytes ahead of a cursor the text has not ended, or it has and that is where it ends. -/
lemma ahead (h : Cursor.In cs ⟨p, rest⟩) (n : Nat) : (p.ahead n rest).In cs := by
  induction rest generalizing p n with
  | nil =>
    rw [Position.ahead_nil]
    exact h.position
  | cons c rest ih =>
    rw [Position.ahead]
    split
    · next hn =>
      by_cases hc : c = '\n'
      -- A line feed is one byte, which is not passed.
      · have hzero : n = 0 := by
          subst hc
          exact Nat.lt_one_iff.1 hn
        exact ⟨_, h, rfl, by simp [hzero]⟩
      · refine ⟨_, h.after, by simp [Position.after, hc], ?_⟩
        simp only [Position.after, hc, if_false]
        omega
    · exact ih h.after _

lemma peekPosition {cursor : Cursor} (h : cursor.In cs) : cursor.peekPosition.In cs :=
  h.ahead 1

end Cursor.In

/-- A place may be moved back on its line. -/
lemma Position.In.back {line column : Nat} (h : Position.In cs ⟨line, column⟩) (n : Nat) :
    Position.In cs ⟨line, column - n⟩ := by
  obtain ⟨cursor, hcursor, hline, hcolumn⟩ := h
  exact ⟨cursor, hcursor, hline, Nat.le_trans (Nat.sub_le _ _) hcolumn⟩

end Places

/-! ## Lines of a text -/

section Lines

open Diagnostic (bytes)

variable {cs : List Char} {lines : List (List Char)}

/-- Lines one after the other, each with the line feed that ends it. -/
def ended (lines : List (List Char)) : List Char := lines.flatMap (· ++ ['\n'])

lemma ended_cons (line : List Char) (lines : List (List Char)) :
    ended (line :: lines) = line ++ '\n' :: ended lines := by
  simp [ended]

/-- What has been read consists of lines that have ended, and of the beginning of the line on which
reading stands. -/
lemma exists_lines_of_read (read : List Char) :
    ∃ lines tail, read = ended lines ++ tail ∧ (∀ line ∈ lines, '\n' ∉ line) ∧ '\n' ∉ tail ∧
      Position.start.afterAll read = ⟨lines.length + 1, bytes tail⟩ := by
  induction read using List.reverseRecOn with
  | nil => exact ⟨[], [], rfl, by simp, by simp, rfl⟩
  | append_singleton read c ih =>
    obtain ⟨lines, tail, hread, hlines, htail, hplace⟩ := ih
    rw [Position.afterAll_append, hplace, hread]
    by_cases hc : c = '\n'
    · subst hc
      refine ⟨lines ++ [tail], [], ?_, ?_, by simp, by simp [Position.after, bytes]⟩
      · simp [ended]
      · exact List.forall_mem_append.2 ⟨hlines, List.forall_mem_singleton.2 htail⟩
    · refine ⟨lines, tail ++ [c], (List.append_assoc ..), hlines, ?_, ?_⟩
      · simp [htail, Ne.symm hc]
      · simp [Position.after, hc, bytes]

/-- In front of a place stand the lines before its own and, on its own line, at least as many bytes
as its column says. -/
lemma Position.In.exists_lines {place : Position} (h : place.In cs) :
    ∃ lines tail rest, cs = ended lines ++ (tail ++ rest) ∧ (∀ line ∈ lines, '\n' ∉ line) ∧
      '\n' ∉ tail ∧ place.line = lines.length + 1 ∧ place.column ≤ bytes tail := by
  obtain ⟨cursor, ⟨read, hread, hposition⟩, hline, hcolumn⟩ := h
  obtain ⟨lines, tail, hlines, hinline, htail, hplace⟩ := exists_lines_of_read read
  rw [hposition, hplace] at hline hcolumn
  refine ⟨lines, tail, cursor.rest, ?_, hinline, htail, hline, hcolumn⟩
  rw [hread, hlines, List.append_assoc]

lemma splitOn_ended (h : ∀ line ∈ lines, '\n' ∉ line) (rest : List Char) :
    (ended lines ++ rest).splitOn '\n' = lines ++ rest.splitOn '\n' := by
  induction lines with
  | nil => rfl
  | cons line lines ih =>
    obtain ⟨hline, hlines⟩ := List.forall_mem_cons.1 h
    rw [ended_cons, List.append_assoc, List.cons_append,
      List.splitOn_append_cons_self_of_not_mem hline, ih hlines, List.cons_append]

lemma length_le_count_ended (lines : List (List Char)) :
    lines.length ≤ (ended lines).count '\n' := by
  induction lines with
  | nil => exact Nat.le_refl 0
  | cons line lines ih =>
    rw [ended_cons, List.count_append, List.count_cons_self, List.length_cons]
    omega

/-- The first line of a text begins with what stands in the text before any line feed. -/
lemma exists_splitOn_append {tail : List Char} (h : '\n' ∉ tail) (rest : List Char) :
    ∃ first more, (tail ++ rest).splitOn '\n' = (tail ++ first) :: more := by
  induction tail with
  | nil =>
    obtain ⟨first, more, heq⟩ := List.exists_cons_of_ne_nil (List.splitOn_ne_nil '\n' rest)
    exact ⟨first, more, heq⟩
  | cons c tail ih =>
    rw [List.mem_cons, not_or] at h
    obtain ⟨first, more, heq⟩ := ih h.2
    refine ⟨first, more, ?_⟩
    rw [List.cons_append, List.splitOn_cons_eq_if_modifyHead, heq]
    simp [Ne.symm h.1]

/-- A place of a text names one of its lines and does not lie beyond its end. -/
lemma Position.In.splitOn {place : Position} (h : place.In cs) :
    1 ≤ place.line ∧ place.line ≤ 1 + cs.count '\n' ∧
      ∃ line, (cs.splitOn '\n')[place.line - 1]? = some line ∧ place.column ≤ bytes line := by
  obtain ⟨lines, tail, rest, rfl, hlines, htail, hline, hcolumn⟩ := h.exists_lines
  have hcount := length_le_count_ended lines
  obtain ⟨first, more, hfirst⟩ := exists_splitOn_append htail rest
  refine ⟨by omega, ?_, tail ++ first, ?_, ?_⟩
  · rw [List.count_append]
    omega
  · rw [splitOn_ended hlines, hfirst, hline]
    simp
  · rw [Diagnostic.bytes_append]
    omega

end Lines

/-! ## Messages without a place -/

/-- Whether a text ends, but for digits, otherwise than with `n` and a blank, whatever is written
before it. -/
def endsPlainly (text : String) : Bool :=
  match text.toList.reverse.dropWhile Char.isDigit with
  | ' ' :: c :: _ => c != 'n'
  | ' ' :: [] | [] => false
  | _ => true

/-- Before its digits, a column is told with `n` and a blank. -/
lemma dropWhile_reverse_column (front : String) {column : String}
    (hcolumn : column.toList.all Char.isDigit = true) :
    ∃ before, (front ++ " column " ++ column).toList.reverse.dropWhile Char.isDigit =
      ' ' :: 'n' :: before := by
  have hdigits : ∀ c ∈ column.toList.reverse, c.isDigit = true := fun c hc =>
    List.all_eq_true.1 hcolumn c (List.mem_reverse.1 hc)
  have hword : (" column " : String).toList.reverse =
      ' ' :: 'n' :: ['m', 'u', 'l', 'o', 'c', ' '] := by decide
  simp only [String.toList_append, List.reverse_append]
  rw [List.dropWhile_append_of_pos hdigits, hword, List.cons_append,
    List.dropWhile_cons_of_neg (by decide)]
  exact ⟨_, rfl⟩

/-- A text that ends plainly does not end with a column. -/
lemma ne_append_column (front : String) {tail : String} (h : endsPlainly tail = true)
    (other : String) {column : String} (hcolumn : column.toList.all Char.isDigit = true) :
    front ++ tail ≠ other ++ " column " ++ column := by
  intro heq
  obtain ⟨before, hbefore⟩ := dropWhile_reverse_column other hcolumn
  rw [← heq, String.toList_append, List.reverse_append, List.dropWhile_append] at hbefore
  unfold endsPlainly at h
  split at h
  · next c more hdrop =>
    rw [hdrop] at hbefore
    obtain ⟨hc, -⟩ := List.cons.inj (List.cons.inj hbefore).2
    simp [hc] at h
  · cases h
  · cases h
  · next hdrop hblank hempty =>
    cases hmore : tail.toList.reverse.dropWhile Char.isDigit with
    | nil => exact hempty hmore
    | cons c more =>
      rw [hmore] at hbefore
      obtain ⟨rfl, -⟩ := List.cons.inj hbefore
      cases more with
      | nil => exact hblank hmore
      | cons d more => exact hdrop d more hmore

namespace Cause

/-- The message for a cause does not end with the word and the digits of a column, as a place
does. -/
def Placeless (cause : Cause) : Prop :=
  ∀ front column : String, column.toList.all Char.isDigit = true →
    cause.message ≠ front ++ " column " ++ column

lemma placeless_of_append {cause : Cause} (front : String) {tail : String}
    (hmessage : cause.message = front ++ tail) (h : endsPlainly tail = true) : cause.Placeless :=
  fun other _ hcolumn => hmessage ▸ ne_append_column front h other hcolumn

/-- Whether the message for a cause is always the same. -/
def isFixed : Cause → Bool
  | wrongType .. | wrongInteger .. | wrongLength .. | unknownVariant .. | missingField _
  | duplicateField _ | unsupportedBase _ => false
  | _ => true

lemma placeless_of_isFixed {cause : Cause} (h : cause.isFixed = true) : cause.Placeless := by
  have hmessage : endsPlainly cause.message = true → cause.Placeless :=
    placeless_of_append "" String.empty_append.symm
  cases cause with
  | wrongType | wrongInteger | wrongLength | unknownVariant | missingField | duplicateField
  | unsupportedBase => cases h
  | _ => exact hmessage (by decide)

lemma placeless_wrongType (found : Found) {expected : String} (h : endsPlainly expected = true) :
    (wrongType found expected).Placeless :=
  placeless_of_append _ rfl h

lemma placeless_wrongInteger (n : Int) {expected : String} (h : endsPlainly expected = true) :
    (wrongInteger n expected).Placeless :=
  placeless_of_append _ rfl h

lemma placeless_wrongLength (n : Nat) (front : String) {tail : String}
    (h : endsPlainly tail = true) : (wrongLength n (front ++ tail)).Placeless :=
  placeless_of_append ("invalid length " ++ toString n ++ ", expected " ++ front)
    String.append_assoc.symm h

lemma placeless_unknownVariant (name : String) {known : List String}
    (h : endsPlainly (choices known) = true) : (unknownVariant name known).Placeless :=
  @placeless_of_append _ ("unknown variant `" ++ name ++ "`, expected ") (choices known) rfl h

lemma placeless_missingField (name : String) : (missingField name).Placeless :=
  @placeless_of_append _ ("missing field `" ++ name) "`" rfl (by decide)

lemma placeless_duplicateField (name : String) : (duplicateField name).Placeless :=
  @placeless_of_append _ ("duplicate field `" ++ name) "`" rfl (by decide)

lemma placeless_unsupportedBase (n : Nat) : (unsupportedBase n).Placeless :=
  @placeless_of_append _ ("unsupported numeric base " ++ toString n) ", expected 2, 10 or 16" rfl
    (by decide)

lemma placeless_elementCount (n : Nat) (front : String) (count : Nat) :
    (wrongLength n (front ++ elementCount count)).Placeless := by
  rw [elementCount, ← String.append_assoc]
  split
  · exact placeless_wrongLength n _ (by decide)
  · exact placeless_wrongLength n _ (by decide)

end Cause

/-- A decision that goes wrong does so for a reason whose message tells no place. -/
def Placeless {α : Type} (x : Except Cause α) : Prop :=
  ∀ cause, x = .error cause → cause.Placeless

namespace Placeless

variable {α β : Type} {x : Except Cause α}

lemma ok (a : α) : Placeless (.ok a) := by
  intro cause h
  cases h

lemma error {cause : Cause} (h : cause.Placeless) : Placeless (.error cause : Except Cause α) := by
  rintro _ ⟨⟩
  exact h

lemma bind {f : α → Except Cause β} (hx : Placeless x) (hf : ∀ a, Placeless (f a)) :
    Placeless (x >>= f) := by
  cases x with
  | error cause => exact error (hx cause rfl)
  | ok a => exact hf a

lemma map (g : α → β) (hx : Placeless x) : Placeless (g <$> x) := by
  cases x with
  | error cause => exact error (hx cause rfl)
  | ok a => exact ok (g a)

end Placeless

end Abnf.Json
