import Abnf.Proofs.Delimited

/-!
# Reading codes

The characters of a text and the bounds of a range are written by their codes: the percent sign, the
letter of the base, and numerals with points or a hyphen in between.  No numeral has a point or a
hyphen in it, so that the codes can be split into their numerals again, and each of these is read as
the number that it was written for (`encodes_of_toList`).  Numerals are as short as they can be.
-/

namespace Abnf.Base

/-- A numeral of the base in its usual form: one digit or more, in lowercase, and no zero in front
of another digit. -/
structure Canonical (b : Base) (numeral : List Char) : Prop where
  /-- There is a digit. -/
  ne_nil : numeral ≠ []
  /-- The digits are those of the base. -/
  digit : ∀ c ∈ numeral, c ∈ "0123456789abcdef".toList.take b.radix
  /-- Only the numeral of zero begins with a zero. -/
  zero : numeral.head? = some '0' → numeral = ['0']

/-- The pieces between the separators, behind the percent sign and the letter. -/
def pieces (separator : Char) (written : String) : List (List Char) :=
  (written.toList.drop 2).splitOn separator

/-- What is written are the codes of some numbers: the percent sign and the letter of the base, and
then numerals with the separator in between, which are read as these numbers. -/
structure Encodes (b : Base) (separator : Char) (numbers : List Nat) (written : String) :
    Prop where
  /-- The codes are announced by the percent sign and the letter. -/
  announced :
    written.toList = '%' :: b.letter :: [separator].intercalate (pieces separator written)
  /-- All pieces are numerals in their usual form. -/
  canonical : ∀ piece ∈ pieces separator written, b.Canonical piece
  /-- The pieces are read as the numbers. -/
  read : (pieces separator written).map b.read? = numbers.map some

/-! ## Numerals -/

lemma head?_toDigits (b : Base) {n : Nat} (h : (Nat.toDigits b.radix n).head? = some '0') :
    Nat.toDigits b.radix n = ['0'] := by
  have hradix := b.one_lt_radix
  induction n using Nat.base_induction b.radix hradix with
  | single m hm =>
    rw [Nat.toDigits_of_lt_base hm] at h ⊢
    exact congrArg (fun c => [c]) (Option.some.inj h)
  | digit m k hk hm ih =>
    -- The first digit is that of a smaller number, which is not zero.
    rw [← Nat.toDigits_append_toDigits hradix hm hk, List.head?_append_of_ne_nil _
      Nat.toDigits_ne_nil] at h
    have hzero : Nat.toDigits b.radix m = Nat.toDigits b.radix 0 := by
      rw [ih h, Nat.toDigits_zero]
    exact absurd (b.toDigits_injective hzero) (Nat.ne_of_gt hm)

lemma canonical_toDigits (b : Base) (n : Nat) : b.Canonical (Nat.toDigits b.radix n) where
  ne_nil := Nat.toDigits_ne_nil
  digit := by
    have hdigits : ∀ value < b.radix,
        Nat.digitChar value ∈ "0123456789abcdef".toList.take b.radix := by
      cases b <;> decide
    exact fun c hc => forall_digit hdigits (b.isSome_digit?_of_mem hc)
  zero := b.head?_toDigits

lemma notMem_toDigits (b : Base) {c : Char} (h : isDigit c = false) (n : Nat) :
    c ∉ Nat.toDigits b.radix n := by
  intro hc
  rw [b.isDigit_of_mem hc] at h
  exact Bool.noConfusion h

/-! ## Codes -/

section

variable {b : Base} {separator : Char} {numbers others : List Nat} {written : String}

/-- Numerals with a separator in between that is no digit are split where they were joined. -/
lemma pieces_of_toList (hdigit : isDigit separator = false) (hne : numbers ≠ [])
    (h : written.toList =
      '%' :: b.letter :: [separator].intercalate (numbers.map (Nat.toDigits b.radix))) :
    pieces separator written = numbers.map (Nat.toDigits b.radix) := by
  have hnot : ∀ piece ∈ numbers.map (Nat.toDigits b.radix), separator ∉ piece := by
    intro piece hpiece
    obtain ⟨n, -, rfl⟩ := List.mem_map.1 hpiece
    exact b.notMem_toDigits hdigit n
  rw [pieces, h]
  exact List.splitOn_intercalate separator hnot (by simpa using hne)

lemma encodes_of_toList (hdigit : isDigit separator = false) (hne : numbers ≠ [])
    (h : written.toList =
      '%' :: b.letter :: [separator].intercalate (numbers.map (Nat.toDigits b.radix))) :
    b.Encodes separator numbers written := by
  have hpieces := pieces_of_toList hdigit hne h
  refine ⟨by rw [hpieces, h], ?_, ?_⟩
  · rw [hpieces]
    intro piece hpiece
    obtain ⟨n, -, rfl⟩ := List.mem_map.1 hpiece
    exact b.canonical_toDigits n
  · rw [hpieces, List.map_map]
    exact List.map_congr_left fun n _ => b.read?_toDigits n

/-- The codes of different numbers are different. -/
lemma Encodes.unique (h : b.Encodes separator numbers written)
    (h' : b.Encodes separator others written) : numbers = others :=
  List.map_injective_iff.2 (fun _ _ => Option.some.inj) (h.read.symm.trans h'.read)

end

lemma exists_encodeText (b : Base) {text : String} (h : text ≠ "") :
    ∃ written, b.encodeText text = some written ∧ written.toList = '%' :: b.letter ::
      ['.'].intercalate ((text.toList.map Char.toNat).map (Nat.toDigits b.radix)) := by
  have hempty : text.isEmpty = false := by simpa [String.isEmpty_iff] using h
  obtain ⟨written, hwritten⟩ : ∃ written, b.encodeText text = some written := by
    rw [encodeText, hempty]
    exact ⟨_, rfl⟩
  have hcodes := b.toList_encodeText h
  rw [hwritten, codes] at hcodes
  rw [List.map_map]
  exact ⟨written, hwritten, hcodes⟩

lemma encodeFirst_of_cons (b : Base) {text : String} {c : Char} {cs : List Char}
    (h : text.toList = c :: cs) :
    b.encodeFirst text =
      some (String.ofList ('%' :: b.letter :: Nat.toDigits b.radix c.toNat)) := by
  rw [encodeFirst, h, List.head?_cons, Option.map_some, Option.some_inj, ← String.toList_inj]
  simp [announce, numeral]

lemma ne_empty_of_encodeText {b : Base} {text written : String}
    (h : b.encodeText text = some written) : text ≠ "" := by
  rintro rfl
  simp [encodeText] at h

/-- A text is encoded by the codes of its characters. -/
lemma encodes_text {b : Base} {text written : String} (h : b.encodeText text = some written) :
    b.Encodes '.' (text.toList.map Char.toNat) written := by
  have hne := ne_empty_of_encodeText h
  obtain ⟨written', hwritten, hlist⟩ := b.exists_encodeText hne
  obtain rfl : written' = written := Option.some.inj (hwritten.symm.trans h)
  exact encodes_of_toList (by decide) (by simpa using hne) hlist

/-- A range is encoded by its bounds. -/
lemma encodes_range (b : Base) (first last : UInt32) :
    b.Encodes '-' [first.toNat, last.toNat] (b.encodeRange first last) := by
  refine encodes_of_toList (by decide) (by simp) ?_
  rw [toList_encodeRange, bounds]
  simp [List.intercalate_cons_cons]

/-- Different bases have different letters. -/
lemma letter_injective : Function.Injective letter := by
  intro base other h
  cases base <;> cases other <;> first | rfl | exact absurd h (by decide)

/-- What is written for a range tells its bounds and the base. -/
lemma encodeRange_inj {base base' : Base} {first last first' last' : UInt32}
    (h : base.encodeRange first last = base'.encodeRange first' last') :
    base = base' ∧ first = first' ∧ last = last' := by
  have hlist := congrArg String.toList h
  rw [toList_encodeRange, toList_encodeRange, List.cons.injEq, List.cons.injEq] at hlist
  obtain rfl := letter_injective hlist.2.1
  have hbounds := (base.encodes_range first last).unique (h ▸ base.encodes_range first' last')
  simpa [UInt32.toNat_inj] using hbounds

/-- A range has one hyphen. -/
lemma count_hyphen (b : Base) (first last : UInt32) :
    (b.encodeRange first last).toList.count '-' = 1 := by
  have hnot : ∀ n, (Nat.toDigits b.radix n).count '-' = 0 := fun n =>
    List.count_eq_zero.2 (b.notMem_toDigits (by decide) n)
  have hletter : b.letter ≠ '-' := by cases b <;> decide
  rw [toList_encodeRange, bounds]
  simp [hnot, hletter]

/-- Different texts have different codes, and only the empty text has none. -/
lemma encodeText_injective (b : Base) : Function.Injective b.encodeText := by
  intro text other heq
  by_cases htext : text = ""
  · rw [htext]
    by_contra hother
    obtain ⟨written, hwritten, -⟩ := b.exists_encodeText (Ne.symm hother)
    exact ne_empty_of_encodeText (heq.trans hwritten) htext
  · obtain ⟨written, hwritten, -⟩ := b.exists_encodeText htext
    have hcodes := (encodes_text hwritten).unique (encodes_text (heq.symm.trans hwritten))
    exact String.toList_inj.1 (List.map_injective_iff.2 (fun _ _ => Char.toNat_inj.1) hcodes)

lemma encodeText_ne_encodeRange (b : Base) (text : String) (first last : UInt32) :
    b.encodeText text ≠ some (b.encodeRange first last) := by
  intro heq
  have htext := ne_empty_of_encodeText heq
  have hlist := b.toList_encodeText htext
  rw [heq, Option.getD_some, toList_encodeRange, List.cons.injEq, List.cons.injEq] at hlist
  -- The first numeral ends at a point or with the text, and that of a range at the hyphen.
  have hend : b.codes text ++ [] = b.bounds first last ++ [] := by rw [hlist.2.2]
  exact b.codes_ne_bounds htext (by simp [Stops]) hend

/-- **Codes are read as what they were written for.**  Whatever the base, the codes of a text that
is not empty are the percent sign, the letter of the base and numerals in their usual form with
points in between, which are read as the codes of its characters in order; the code of its first
character is announced in the same way and is the first of these numerals.  What is written for a
range has a single hyphen, and the numerals on both sides are read as its bounds.  So different
texts have different codes, different ranges too, and no text has those of a range. -/
theorem codes_decode (b : Base) :
    (∀ text, text ≠ "" → ∃ written, b.encodeText text = some written ∧
      b.Encodes '.' (text.toList.map Char.toNat) written ∧
      ∃ piece, (pieces '.' written).head? = some piece ∧
        b.encodeFirst text = some (String.ofList ('%' :: b.letter :: piece))) ∧
    (∀ first last, b.Encodes '-' [first.toNat, last.toNat] (b.encodeRange first last) ∧
      (b.encodeRange first last).toList.count '-' = 1) ∧
    Function.Injective b.encodeText ∧
    (Function.Injective fun range : UInt32 × UInt32 => b.encodeRange range.1 range.2) ∧
    ∀ text first last, b.encodeText text ≠ some (b.encodeRange first last) := by
  refine ⟨fun text htext => ?_,
    fun first last => ⟨b.encodes_range first last, b.count_hyphen first last⟩,
    b.encodeText_injective, ?_, b.encodeText_ne_encodeRange⟩
  · obtain ⟨written, hwritten, hlist⟩ := b.exists_encodeText htext
    have hne : text.toList.map Char.toNat ≠ [] := by simpa using htext
    refine ⟨written, hwritten, encodes_text hwritten, ?_⟩
    rw [pieces_of_toList (by decide) hne hlist]
    cases hchars : text.toList with
    | nil => exact absurd (by rw [hchars]; rfl) hne
    | cons c cs => exact ⟨_, rfl, b.encodeFirst_of_cons hchars⟩
  · rintro ⟨first, last⟩ ⟨first', last'⟩ heq
    obtain ⟨-, hfirst, hlast⟩ := encodeRange_inj heq
    exact Prod.ext hfirst hlast

/-- A carriage return and a character of seventeen bits, and a range up to the greatest number. -/
theorem codes_decode_emoji :
    "\r😀" ≠ "" ∧
    Base.hexadecimal.encodeText "\r😀" = some "%xd.1f600" ∧
    Base.hexadecimal.Encodes '.' [13, 128512] "%xd.1f600" ∧
    Base.hexadecimal.encodeFirst "\r😀" = some "%xd" ∧
    Base.hexadecimal.encodeRange 0 4294967295 = "%x0-ffffffff" ∧
    Base.hexadecimal.Encodes '-' [0, 4294967295] "%x0-ffffffff" := by
  obtain ⟨htext, hrange, -⟩ := codes_decode .hexadecimal
  have hne : "\r😀" ≠ "" := by decide
  have hcode : Base.hexadecimal.encodeText "\r😀" = some "%xd.1f600" := by decide
  have hbounds : Base.hexadecimal.encodeRange 0 4294967295 = "%x0-ffffffff" := by decide
  obtain ⟨written, hwritten, hencodes, -⟩ := htext _ hne
  obtain rfl : "%xd.1f600" = written := Option.some.inj (hcode.symm.trans hwritten)
  exact ⟨hne, hcode, hencodes, by decide, hbounds, hbounds ▸ (hrange 0 4294967295).1⟩

end Abnf.Base
