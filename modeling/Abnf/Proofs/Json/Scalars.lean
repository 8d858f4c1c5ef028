import Abnf.Json.Record
import Abnf.Proofs.Delimited

/-!
# Reading back what is written: scalars

A reader reads a piece of text if it takes exactly that piece off a text, wherever the piece stands
and whatever follows it (`Reads`).  What follows matters for numbers only, which go on as long as
there are digits.  This file shows that `null`, whole numbers and string literals are read back as
the values for which they are written.
-/

namespace Abnf.Json

open Text (literalChar quote hexDigit)

/-- The reader takes a piece off the front of a text and makes a value of it, whatever follows,
among what may follow. -/
def Reads {α : Type} (Follows : List Char → Prop) (r : Reader α) (piece : List Char) (a : α) :
    Prop :=
  ∀ place rest, Follows rest → r ⟨place, piece ++ rest⟩ = .ok a ⟨place.afterAll piece, rest⟩

/-- Anything may follow. -/
def Anything (_ : List Char) : Prop := True

/-- What may follow a value: nothing, a comma, or a closing bracket or brace. -/
def Closes (rest : List Char) : Prop := ∀ c ∈ rest.head?, c = ',' ∨ c = ']' ∨ c = '}'

lemma closes_cons {c : Char} {rest : List Char} (h : c = ',' ∨ c = ']' ∨ c = '}') :
    Closes (c :: rest) := by
  simpa [Closes] using h

namespace Reads

variable {α β : Type} {Follows Before : List Char → Prop} {r : Reader α} {f : α → Reader β}
  {x y : List Char} {a : α} {b : β}

/-- One piece after another. -/
lemma bind (hr : Reads Before r x a) (hf : Reads Follows (f a) y b)
    (h : ∀ rest, Follows rest → Before (y ++ rest)) : Reads Follows (r >>= f) (x ++ y) b := by
  intro place rest hrest
  rw [Reader.bind_apply, List.append_assoc, hr place _ (h rest hrest), Position.afterAll_append]
  exact hf _ rest hrest

lemma map (g : α → β) (hr : Reads Follows r x a) : Reads Follows (g <$> r) x (g a) := by
  intro place rest hrest
  show (r >>= fun a => pure (g a)) _ = _
  rw [Reader.bind_apply, hr place rest hrest]
  rfl

/-- What is done with a value when it has been read takes no further piece of the text. -/
lemma finish (hr : Reads Follows r x a) (hf : f a = pure b) : Reads Follows (r >>= f) x b := by
  intro place rest hrest
  rw [Reader.bind_apply, hr place rest hrest]
  show f a _ = _
  rw [hf]
  rfl

lemma mono (hr : Reads Before r x a) (h : ∀ rest, Follows rest → Before rest) :
    Reads Follows r x a :=
  fun place rest hrest => hr place rest (h rest hrest)

lemma closes (hr : Reads Anything r x a) : Reads Closes r x a :=
  hr.mono fun _ _ => trivial

/-- Reading a piece as a whole text. -/
lemma run {text : String} (hr : Reads Closes r text.toList a) : r.run text = .ok a := by
  have hread := hr .start [] (by simp [Closes])
  rw [List.append_nil] at hread
  rw [Reader.run, Cursor.start, hread]
  rfl

end Reads

lemma reads_pure {α : Type} (a : α) : Reads Anything (pure a) [] a :=
  fun _ _ _ => rfl

namespace Reader

/-! ## Tokens -/

lemma peekToken_cons {c : Char} (h : Cursor.isBlank c = false) (place : Position)
    (rest : List Char) : peekToken ⟨place, c :: rest⟩ = .ok (some c) ⟨place, c :: rest⟩ := by
  simp [peekToken, skipBlanks, Cursor.skipBlanks, Cursor.dropWhile, h, peek]

lemma peek_cons (c : Char) (place : Position) (rest : List Char) :
    peek ⟨place, c :: rest⟩ = .ok (some c) ⟨place, c :: rest⟩ :=
  rfl

/-- A reader may look at the first character of a piece. -/
lemma reads_peek {α : Type} {Follows : List Char → Prop} {f : Option Char → Reader α} {c : Char}
    {cs : List Char} {a : α} (h : Reads Follows (f (some c)) (c :: cs) a) :
    Reads Follows (peek >>= f) (c :: cs) a :=
  h

/-- A reader may look at the first character of a piece that does not begin with a blank. -/
lemma reads_peekToken {α : Type} {Follows : List Char → Prop} {f : Option Char → Reader α}
    {c : Char} {cs : List Char} {a : α} (hc : Cursor.isBlank c = false)
    (h : Reads Follows (f (some c)) (c :: cs) a) : Reads Follows (peekToken >>= f) (c :: cs) a := by
  intro place rest hrest
  rw [List.cons_append, bind_apply, peekToken_cons hc]
  exact h place rest hrest

lemma skip_one (c : Char) (place : Position) (rest : List Char) :
    skip 1 ⟨place, c :: rest⟩ = .ok () ⟨place.after c, rest⟩ := by
  simp [skip, Cursor.drop]

lemma reads_skip (c : Char) : Reads Anything (skip 1) [c] () :=
  fun place rest _ => skip_one c place rest

lemma reads_colon : Reads Anything colon [':'] () :=
  reads_peekToken (by decide) (reads_skip ':')

lemma reads_word (cs : List Char) : Reads Anything (word cs) cs () := by
  induction cs with
  | nil => exact reads_pure ()
  | cons c cs ih =>
    refine reads_peek ?_
    simp only [if_true]
    exact (reads_skip c).bind ih fun _ _ => trivial

/-! ## String literals -/

lemma hexValue_hexDigit {n : Nat} (h : n < 16) : Escape.hexValue (hexDigit n) = some n := by
  have hall : ∀ n < 16, Escape.hexValue (hexDigit n) = some n := by decide
  exact hall n h

/-- A control character that has no short escape is written by its code. -/
lemma decode_hex {n : Nat} (h : n < 32) (rest : List Char) :
    Escape.decode ('u' :: '0' :: '0' :: hexDigit (n / 16) :: hexDigit (n % 16) :: rest) =
      .ok (Char.ofNat n, 5) := by
  have hzero : Escape.hexValue '0' = some 0 := by decide
  have hcode : Escape.hexCode ('0' :: '0' :: hexDigit (n / 16) :: hexDigit (n % 16) :: rest) =
      .ok n := by
    have hsum : n / 16 * 16 + n % 16 = n := Nat.div_add_mod' n 16
    simp [Escape.hexCode, hzero, hexValue_hexDigit (show n / 16 < 16 by omega),
      hexValue_hexDigit (show n % 16 < 16 by omega), hsum]
  have hlow : Escape.isLow n = false := by simp [Escape.isLow]; omega
  have hhigh : Escape.isHigh n = false := by simp [Escape.isHigh]; omega
  simp [Escape.decode, hcode, hlow, hhigh]

lemma literalTail_char (c : Char) (read : List Char) (place : Position) (rest : List Char) :
    literalTail read place 0 (literalChar c ++ rest) =
      literalTail (c :: read) (place.afterAll (literalChar c)) 0 rest := by
  have hshort : ∀ n : Nat, c.toNat = n → c = Char.ofNat n := by
    rintro n rfl
    exact (Char.ofNat_toNat c).symm
  -- An escape counts down the characters that belong to it before reading goes on.
  unfold literalChar
  split_ifs with hquote hslash hback htab hline hform hreturn hcontrol
  · subst hquote; rfl
  · subst hslash; rfl
  · obtain rfl := hshort 8 hback; rfl
  · obtain rfl := hshort 9 htab; rfl
  · obtain rfl := hshort 10 hline; rfl
  · obtain rfl := hshort 12 hform; rfl
  · obtain rfl := hshort 13 hreturn; rfl
  · have hdecode := decode_hex hcontrol rest
    rw [Char.ofNat_toNat] at hdecode
    simp [literalTail, hdecode]
  · simp [literalTail, hquote, hslash, hcontrol]

/-- What is written for single characters is read character by character up to the closing quote. -/
lemma literalTail_chars {write : Char → List Char}
    (hwrite : ∀ c read place rest, literalTail read place 0 (write c ++ rest) =
      literalTail (c :: read) (place.afterAll (write c)) 0 rest)
    (cs read : List Char) (place : Position) (rest : List Char) :
    literalTail read place 0 (cs.flatMap write ++ '"' :: rest) =
      .ok (read.reverse ++ cs) ⟨place.afterAll (cs.flatMap write ++ ['"']), rest⟩ := by
  induction cs generalizing read place with
  | nil => simp [literalTail]
  | cons c cs ih =>
    rw [List.flatMap_cons, List.append_assoc, hwrite, ih]
    simp

/-- A string literal is read as its text, if its single characters are. -/
lemma reads_literal_of_chars {write : Char → List Char}
    (hwrite : ∀ c read place rest, literalTail read place 0 (write c ++ rest) =
      literalTail (c :: read) (place.afterAll (write c)) 0 rest) (s : String) :
    Reads Anything literal ('"' :: (s.toList.flatMap write ++ ['"'])) s := by
  have htail : Reads Anything (fun cursor => literalTail [] cursor.position 0 cursor.rest)
      (s.toList.flatMap write ++ ['"']) s.toList := by
    intro place rest _
    show literalTail [] place 0 _ = _
    rw [List.append_assoc, List.singleton_append, literalTail_chars hwrite, List.reverse_nil,
      List.nil_append]
  have hread := (reads_skip '"').bind (f := fun _ => String.ofList <$> _)
    (htail.map String.ofList) fun _ _ => trivial
  rw [String.ofList_toList] at hread
  exact hread

/-- A string literal is read as the text for which it was written. -/
theorem reads_literal (s : String) : Reads Anything literal (quote s).toList s := by
  rw [Text.toList_quote]
  exact reads_literal_of_chars literalTail_char s

/-! ## Numbers -/

/-- Whether a number can go on with a character. -/
def isNumeral (c : Char) : Bool := c.isDigit || c == '.' || c == 'e' || c == 'E'

lemma stops_of_closes {rest : List Char} (h : Closes rest) : Stops isNumeral rest := by
  intro c hc
  rcases h c hc with rfl | rfl | rfl <;> decide

lemma isDigit_of_mem_toDigits {n : Nat} {c : Char} (h : c ∈ Nat.toDigits 10 n) :
    c.isDigit = true :=
  Nat.isDigit_of_mem_toDigits (by decide) (by decide) h

lemma toList_toString (n : Nat) : (toString (n : Int)).toList = Nat.toDigits 10 n := by
  show (toString n).toList = _
  simp

/-- A number begins with a digit. -/
lemma exists_cons_toString (n : Nat) :
    ∃ c cs, (toString (n : Int)).toList = c :: cs ∧ c.isDigit = true := by
  rw [toList_toString]
  obtain ⟨c, cs, hcs⟩ := List.exists_cons_of_ne_nil (Nat.toDigits_ne_nil (b := 10) (n := n))
  exact ⟨c, cs, hcs, isDigit_of_mem_toDigits (n := n) (by simp [hcs])⟩

lemma ne_of_isDigit {c d : Char} (hc : c.isDigit = true) (hd : d.isDigit = false) : c ≠ d := by
  rintro rfl
  exact Bool.noConfusion (hd.symm.trans hc)

/-- Only zero begins with the digit zero. -/
lemma head_toDigits {n : Nat} (h : 0 < n) : ∃ c cs, Nat.toDigits 10 n = c :: cs ∧ c ≠ '0' := by
  induction n using Nat.base_induction 10 (by decide) with
  | single m hm =>
    have hall : ∀ m < 10, 0 < m → Nat.digitChar m ≠ '0' := by decide
    exact ⟨_, [], Nat.toDigits_of_lt_base hm, hall m hm h⟩
  | digit m k hk hm ih =>
    obtain ⟨c, cs, hcs, hc⟩ := ih hm
    rw [← Nat.toDigits_append_toDigits (by decide) hm hk, hcs]
    exact ⟨c, _, rfl, hc⟩

lemma gather_append {limit n k : Nat} {as : List Char} (bs : List Char)
    (h : Numeral.gather limit n as = (k, [])) :
    Numeral.gather limit n (as ++ bs) = Numeral.gather limit k bs := by
  induction as generalizing n with
  | nil =>
    obtain rfl : n = k := by simpa [Numeral.gather] using h
    rfl
  | cons c as ih =>
    rw [List.cons_append, Numeral.gather]
    rw [Numeral.gather] at h
    split
    · next hlimit => simp [hlimit] at h
    · next hlimit =>
      simp only [hlimit, if_false] at h
      exact ih h

/-- Digits are gathered to the number that they are the digits of, as long as it fits. -/
lemma gather_toDigits {limit n : Nat} (h : n ≤ limit) :
    Numeral.gather limit 0 (Nat.toDigits 10 n) = (n, []) := by
  have hdigit : ∀ m < 10, Numeral.digit (Nat.digitChar m) = m := by decide
  induction n using Nat.base_induction 10 (by decide) with
  | single m hm =>
    rw [Nat.toDigits_of_lt_base hm]
    simp [Numeral.gather, hdigit m hm, Nat.not_lt.2 h]
  | digit m k hk hm ih =>
    rw [← Nat.toDigits_append_toDigits (by decide) hm hk, gather_append _ (ih (by omega)),
      Nat.toDigits_of_lt_base hk]
    have hsum : m * 10 + k = 10 * m + k := by omega
    simp [Numeral.gather, hdigit k hk, hsum, Nat.not_lt.2 h]

lemma reads_digits {cs : List Char} (h : ∀ c ∈ cs, c.isDigit = true) :
    Reads (Stops Char.isDigit) digits cs cs := by
  intro place rest hrest
  rw [digits, Cursor.dropWhile, takeWhile_run h hrest, dropWhile_run h hrest]

lemma reads_wholeDigits (ended : Cause) (n : Nat) :
    Reads (Stops Char.isDigit) (wholeDigits ended) (Nat.toDigits 10 n) (Nat.toDigits 10 n) := by
  intro place rest hrest
  -- A zero has to stand alone, and it does: other numbers begin with another digit.
  rcases Nat.eq_zero_or_pos n with rfl | hpos
  · show wholeDigits ended ⟨place, '0' :: rest⟩ = .ok ['0'] ⟨place.after '0', rest⟩
    rw [wholeDigits, bind_apply, peek_cons]
    simp only [bind_apply, skip_one]
    cases rest with
    | nil => rfl
    | cons c rest => simp [peek_cons, stops_cons.1 hrest]
  · obtain ⟨c, cs, hcs, hc⟩ := head_toDigits hpos
    have hdigits := fun d hd => isDigit_of_mem_toDigits (n := n) (c := d) hd
    rw [hcs] at hdigits ⊢
    have hread := reads_digits hdigits place rest hrest
    rw [List.cons_append] at hread ⊢
    rw [wholeDigits, bind_apply, peek_cons]
    simp [hc, someDigits, peek_cons, hdigits c (by simp), hread]

lemma ne_of_stops {p : Char → Bool} {c d : Char} {rest : List Char} (h : Stops p (c :: rest))
    (hd : p d = true) : c ≠ d := by
  rintro rfl
  exact Bool.noConfusion ((stops_cons.1 h).symm.trans hd)

/-- Where a number ends, it has no fraction. -/
lemma reads_fractionDigits (ended : Cause) :
    Reads (Stops isNumeral) (fractionDigits ended) [] [] := by
  intro place rest hrest
  cases rest with
  | nil => rfl
  | cons c rest =>
    have hc : c ≠ '.' := ne_of_stops hrest (by decide)
    rw [List.nil_append, fractionDigits, bind_apply, peek_cons]
    simp [hc]

/-- Where a number ends, it has no exponent. -/
lemma reads_exponentPart (ended : Cause) :
    Reads (Stops isNumeral) (exponentPart ended) [] none := by
  intro place rest hrest
  cases rest with
  | nil => rfl
  | cons c rest =>
    have hc : c ≠ 'e' ∧ c ≠ 'E' :=
      ⟨ne_of_stops hrest (by decide), ne_of_stops hrest (by decide)⟩
    rw [List.nil_append, exponentPart, bind_apply, peek_cons]
    simp [hc]

/-- The digits of a number are scanned as a numeral without sign, fraction and exponent. -/
lemma reads_numeral (ended : Cause) (n : Nat) :
    Reads (Stops isNumeral) (numeral ended) (Nat.toDigits 10 n)
      ⟨false, Nat.toDigits 10 n, [], none⟩ := by
  intro place rest hrest
  obtain ⟨c, cs, hcs⟩ := List.exists_cons_of_ne_nil (Nat.toDigits_ne_nil (b := 10) (n := n))
  have hsign : (some c == some '-') = false := by
    have hdigit : c.isDigit = true := isDigit_of_mem_toDigits (n := n) (by simp [hcs])
    simpa using ne_of_isDigit hdigit (by decide)
  have hwhole : Reads (Stops isNumeral) (wholeDigits ended) (c :: cs) (c :: cs) :=
    hcs ▸ (reads_wholeDigits ended n).mono fun _ h => h.mono fun c hc => by simp [isNumeral, hc]
  rw [hcs, List.cons_append, numeral, bind_apply, peek_cons]
  dsimp only
  rw [hsign, if_neg (by decide), ← List.cons_append, bind_apply, hwhole place rest hrest]
  dsimp only
  rw [bind_apply, ← List.nil_append rest, reads_fractionDigits ended _ rest hrest]
  dsimp only
  rw [bind_apply, ← List.nil_append rest, reads_exponentPart ended _ rest hrest]
  rfl

/-- A whole number of at most 64 bits is read from its digits. -/
theorem reads_number {n : Nat} (h : n < UInt64.size) :
    Reads (Stops isNumeral) number (toString (n : Int)).toList (.int n) := by
  intro place rest hrest
  have hlimit : n ≤ Numeral.maxSignificand := Nat.le_sub_one_of_lt h
  have hvalue : (⟨false, Nat.toDigits 10 n, [], none⟩ : Numeral).value = .ok (.int n) := by
    simp [Numeral.value, gather_toDigits hlimit]
  rw [toList_toString, number, bind_apply,
    reads_numeral .endOfValue n place rest hrest]
  simp [hvalue]

/-! ## Any scalar -/

lemma reads_scalar_null : Reads Anything scalar "null".toList .null :=
  reads_peek ((reads_word _).bind (reads_pure Value.null) fun _ _ => trivial)

lemma reads_scalar_bool (b : Bool) :
    Reads Anything scalar (Value.bool b).compact.toList (.bool b) := by
  have hpure := reads_pure (Value.bool b)
  cases b with
  | false => exact reads_peek ((reads_word _).bind hpure fun _ _ => trivial)
  | true => exact reads_peek ((reads_word _).bind hpure fun _ _ => trivial)

lemma reads_scalar_str (s : String) : Reads Anything scalar (quote s).toList (.str s) := by
  have hread := (reads_literal s).map Value.str
  rw [Text.toList_quote] at hread ⊢
  exact reads_peek hread

lemma reads_scalar_int {n : Nat} (h : n < UInt64.size) :
    Reads (Stops isNumeral) scalar (toString (n : Int)).toList (.int n) := by
  have hread := reads_number h
  obtain ⟨c, cs, hcs, hdigit⟩ := exists_cons_toString n
  rw [hcs] at hread ⊢
  refine reads_peek ?_
  -- A digit is none of the characters with which the other scalars begin.
  split
  · next heq => exact absurd (Option.some.inj heq) (ne_of_isDigit hdigit (by decide))
  · next heq => exact absurd (Option.some.inj heq) (ne_of_isDigit hdigit (by decide))
  · next heq => exact absurd (Option.some.inj heq) (ne_of_isDigit hdigit (by decide))
  · next heq => exact absurd (Option.some.inj heq) (ne_of_isDigit hdigit (by decide))
  · next heq =>
    rw [← Option.some.inj heq, hdigit, Bool.or_true, if_pos rfl]
    exact hread
  · next heq => exact absurd heq (Option.some_ne_none c)

end Reader

end Abnf.Json
