import Mathlib.Data.String.Basic
import Abnf.Rendering.Diagnostic
import Abnf.Proofs.Json.Places
import Abnf.Proofs.Rejections

/-!
# Where diagnostics point

An error that is told by line and column is shown at a number of bytes.  Lines are counted up to the
place of the error by their line feeds, and each of them has as many bytes as it has without its
end, and one more.  That is what the line has in the text when a line feed is all that ends it.  A
carriage return before the line feed is not counted, so that the place that is pointed at moves one
byte to the front for each earlier line that has one.
-/

namespace Abnf.Diagnostic

open Json (ended ended_cons Position)

variable {lines : List (List Char)} {text detail : String} {line column : Nat}

/-- Whether a carriage return stands before the end of a line. -/
def endsInReturn (line : List Char) : Bool := line.getLast? == some '\r'

/-- A line without the carriage return before its end. -/
def withoutReturn (line : List Char) : List Char :=
  if endsInReturn line then line.dropLast else line

lemma bytes_toList (text : String) : bytes text.toList = text.utf8ByteSize := by
  have hbytes : ∀ cs : List Char, bytes cs = (String.ofList cs).utf8ByteSize := by
    intro cs
    induction cs with
    | nil => rfl
    | cons c cs ih => simp [bytes, ih, String.utf8ByteSize_ofList]
  rw [hbytes, String.ofList_toList]

/-! ## The lines that are counted -/

lemma linesAfter_line_feed {line : List Char} (h : '\n' ∉ line) (rest : List Char) :
    linesAfter [] (line ++ '\n' :: rest) = withoutReturn line :: linesAfter [] rest := by
  rw [linesAfter_append h, List.append_nil, withoutReturn, endsInReturn]
  -- At the line feed the line stands in reverse, with the carriage return, if any, at its head.
  split
  · next hreturn =>
    obtain ⟨front, rfl⟩ := List.getLast?_eq_some_iff.1 (beq_iff_eq.1 hreturn)
    simp
  · next hreturn =>
    have hhead : line.reverse.head? ≠ some '\r' := by
      rw [List.head?_reverse]
      exact fun hlast => hreturn (beq_iff_eq.2 hlast)
    rw [linesAfter_feed hhead, List.reverse_reverse]

lemma linesAfter_ended (h : ∀ line ∈ lines, '\n' ∉ line) (rest : List Char) :
    linesAfter [] (ended lines ++ rest) = lines.map withoutReturn ++ linesAfter [] rest := by
  induction lines with
  | nil => rfl
  | cons line lines ih =>
    obtain ⟨hline, hlines⟩ := List.forall_mem_cons.1 h
    rw [ended_cons, List.append_assoc, List.cons_append, linesAfter_line_feed hline, ih hlines]
    rfl

lemma bytes_withoutReturn (line : List Char) :
    bytes (withoutReturn line) + (if endsInReturn line then 1 else 0) = bytes line := by
  unfold withoutReturn
  split
  · next hreturn =>
    obtain ⟨front, rfl⟩ := List.getLast?_eq_some_iff.1 (beq_iff_eq.1 hreturn)
    rw [List.dropLast_concat, bytes_append]
    rfl
  · rfl

/-- The lines as they are counted lack one byte for each carriage return. -/
lemma bytes_ended_withoutReturn (lines : List (List Char)) :
    bytes (ended (lines.map withoutReturn)) + lines.countP endsInReturn = bytes (ended lines) := by
  induction lines with
  | nil => rfl
  | cons line lines ih =>
    have hline := bytes_withoutReturn line
    rw [List.map_cons, ended_cons, ended_cons, List.countP_cons, bytes_append, bytes_append, bytes,
      bytes]
    omega

/-! ## The place that is pointed at -/

/-- A diagnostic points at a line and a column of a text, but for the carriage returns before it. -/
structure Points (d : Diagnostic) (text : String) (line column : Nat)
    (before : List (List Char)) (rest : List Char) : Prop where
  /-- Some lines that have ended stand at the beginning of the text. -/
  eq_append : text.toList = ended before ++ rest
  /-- They are single lines. -/
  not_mem : ∀ l ∈ before, '\n' ∉ l
  /-- They are all the lines before the one that is told. -/
  length_eq : before.length = line - 1
  /-- The place lies in the text, or at its end.  A column of zero counts as the first. -/
  place_le : bytes (ended before) + (max column 1 - 1) ≤ text.utf8ByteSize
  /-- Each of the lines that ends with a carriage return moves the pointer away from the place. -/
  offset_add : d.offset + before.countP endsInReturn = bytes (ended before) + (max column 1 - 1)
  /-- The pointer is right exactly if there are none. -/
  offset_eq_iff : d.offset = min (bytes (ended before) + (max column 1 - 1)) text.utf8ByteSize ↔
    ∀ l ∈ before, endsInReturn l = false

/-- What is counted instead of the lines before a place. -/
lemma take_lines {before : List (List Char)} {rest : List Char}
    (htext : text.toList = ended before ++ rest) (hbefore : ∀ l ∈ before, '\n' ∉ l) :
    (Diagnostic.lines text).take before.length = before.map withoutReturn := by
  rw [Diagnostic.lines, htext, linesAfter_ended hbefore, List.take_left' (List.length_map _)]

/-- **Diagnostics of rejected grammars.**  When the text of a grammar is rejected at a line and a
column, the lines before that line stand at the beginning of the text, and the text has as many
bytes after them as the column says.  The diagnostic points there, but for one byte that is missing
for each of those lines that ends with a carriage return and a line feed; so it points at the place
exactly if there is no such line. -/
theorem points_of_rejected (h : Grammar.ofText text = .error (.malformed line column detail)) :
    ∃ before rest,
      (ofError text (.malformed line column detail)).Points text line column before rest := by
  obtain ⟨cause, place, -, -, hplace, herror⟩ := LoadError.exists_of_readText Grammar.keeps_read h
  obtain ⟨rfl, rfl, -⟩ := LoadError.malformed.inj herror
  obtain ⟨before, tail, rest, htext, hbefore, -, hline, hcolumn⟩ := hplace.exists_lines
  have hlength : before.length = place.line - 1 := by omega
  have hplace : bytes (ended before) + (max place.column 1 - 1) ≤ text.utf8ByteSize := by
    rw [← bytes_toList, htext, bytes_append, bytes_append]
    omega
  have hcounted : bytes (ended (before.map withoutReturn)) + before.countP endsInReturn =
      bytes (ended before) := bytes_ended_withoutReturn before
  have hoffset : (ofError text (.malformed place.line place.column detail)).offset =
      min (bytes (ended (before.map withoutReturn)) + (place.column - 1)) text.utf8ByteSize := by
    rw [← take_lines htext hbefore, hlength]
    rfl
  -- The place lies in the text, so that no offset is cut off at the end of the text.
  have hzero : before.countP endsInReturn = 0 ↔ ∀ l ∈ before, endsInReturn l = false := by
    simp [List.countP_eq_zero]
  refine ⟨before, tail ++ rest, htext, hbefore, hlength, hplace, by omega, ?_⟩
  rw [← hzero]
  omega

lemma parse_unfinished (h : text = "\x7b\n\x7d" ∨ text = "\x7b\r\n\x7d") :
    Grammar.parse text = .error ⟨.missingField "defs", some ⟨2, 1⟩⟩ := by
  rcases h with rfl | rfl
  · exact Json.eq_error_of_fault? (by decide +kernel)
  · exact Json.eq_error_of_fault? (by decide +kernel)

/-- The text of an object without any fields is rejected at its end. -/
lemma ofText_unfinished (h : text = "\x7b\n\x7d" ∨ text = "\x7b\r\n\x7d") :
    Grammar.ofText text = .error (.malformed 2 1 "missing field `defs`") := by
  have hmessage : (Json.Cause.missingField "defs").message = "missing field `defs`" := by
    decide +kernel
  rw [Grammar.ofText, parse_unfinished h, ← hmessage]
  exact congrArg Except.error LoadError.ofFault_eq

/-- The diagnostic for a text of two lines, whichever way the first of them ends. -/
theorem points_of_unfinished :
    (∃ before rest, (ofError "\x7b\n\x7d" (.malformed 2 1 "missing field `defs`")).Points
      "\x7b\n\x7d" 2 1 before rest) ∧
    ∃ before rest, (ofError "\x7b\r\n\x7d" (.malformed 2 1 "missing field `defs`")).Points
      "\x7b\r\n\x7d" 2 1 before rest :=
  ⟨points_of_rejected (ofText_unfinished (.inl rfl)),
    points_of_rejected (ofText_unfinished (.inr rfl))⟩

/-- After a carriage return and a line feed, the byte that is pointed at is the line feed and not the
brace behind it, at which the text is rejected. -/
theorem offset_after_return :
    Grammar.ofText "\x7b\r\n\x7d" = .error (.malformed 2 1 "missing field `defs`") ∧
    "\x7b\r\n\x7d".toList = ended [['\x7b', '\r']] ++ ['\x7d'] ∧
    (ofError "\x7b\r\n\x7d" (.malformed 2 1 "missing field `defs`")).offset = 2 ∧
    min (bytes (ended [['\x7b', '\r']]) + (max 1 1 - 1)) "\x7b\r\n\x7d".utf8ByteSize = 3 := by
  refine ⟨ofText_unfinished (.inr rfl), by decide, by decide +kernel, by decide +kernel⟩

end Abnf.Diagnostic
