import Mathlib.Tactic.Lemma
import Mathlib.Tactic.SplitIfs
import Abnf.Text.Columns

/-!
# How lines are measured

A line is measured from its end, and some characters take back columns that those behind them have
taken.  They never take back more than there are: a text owes at most the columns that its beginning
stands for (`Measured.Covered`), and so no line has a negative number of columns.  A blank ends
every sequence of characters that belong together, and a text and what stands behind a blank are
measured each by itself (`columns_append_blank`).
-/

namespace Abnf.Text

/-! ## Sequences -/

namespace Onset

/-- The columns that a text which begins so takes at least: one if a character in front of it may
take one back. -/
def least : Onset → Int
  | .emoji .joinedRegion | .emoji .joinedOddRegions | .letters .khmer | .letters .tifinaghPair => 1
  | _ => 0

lemma least_nonneg (onset : Onset) : 0 ≤ onset.least := by
  unfold least
  split <;> decide

/-- A Khmer letter takes a column, whether or not it can stand below another one. -/
lemma one_le_codeColumns {code : Nat} (h : isKhmerSubjoined code = true) :
    1 ≤ codeColumns code := by
  have hcodes : ∀ k < 48, isKhmerSubjoined (0x1780 + k) = true → 1 ≤ codeColumns (0x1780 + k) := by
    decide +kernel
  have hrange : 0x1780 ≤ code ∧ code < 0x1780 + 48 := by
    simp [isKhmerSubjoined, inRanges] at h
    omega
  obtain ⟨k, rfl⟩ := Nat.exists_eq_add_of_le hrange.1
  exact hcodes k (by omega) h

/-- What begins with an emoji takes back nothing yet. -/
lemma least_of_emoji {code : Nat} {onset : EmojiOnset} (h : EmojiOnset.of? code = some onset) :
    (emoji onset).least = 0 := by
  unfold EmojiOnset.of? at h
  split_ifs at h <;> cases h <;> rfl

lemma least_of_letter {code : Nat} {onset : LetterOnset} (h : LetterOnset.of? code = some onset) :
    (letters onset).least ≤ codeColumns code := by
  unfold LetterOnset.of? at h
  split_ifs at h with _ _ _ _ _ _ hkhmer <;> cases h
  any_goals exact Int.natCast_nonneg _
  exact Int.ofNat_le.2 (one_le_codeColumns hkhmer)

/-- A character takes the columns that the beginning stands for which it makes. -/
lemma least_of_le (code : Nat) : (of code).least ≤ codeColumns code := by
  unfold of
  split
  · next onset h =>
    rw [least_of_emoji h]
    exact Int.natCast_nonneg _
  · next h => exact least_of_letter h
  · exact Int.natCast_nonneg _

/-- What stands in front of a joined emoji takes back nothing yet, or as much as it adds. -/
lemma least_joinedStep {next : EmojiOnset} {code : Nat} {n : Int}
    (h : EmojiOnset.joinedStep? code = some (n, next)) : (emoji next).least ≤ n := by
  unfold EmojiOnset.joinedStep? at h
  split_ifs at h <;> cases h <;> decide

lemma least_tagStep {next : EmojiOnset} {letters digits code : Nat} {n : Int}
    (h : EmojiOnset.tagStep? letters digits code = some (n, next)) : (emoji next).least ≤ n := by
  unfold EmojiOnset.tagStep? at h
  split_ifs at h <;> cases h <;> exact Int.le_refl 0

/-- An emoji takes back no more than its beginning stands for. -/
lemma least_emojiStep {onset next : EmojiOnset} {code : Nat} {n : Int}
    (h : onset.step? code = some (n, next)) :
    (emoji next).least ≤ (emoji onset).least + n := by
  have hleast := least_nonneg (emoji onset)
  unfold EmojiOnset.step? at h
  split at h
  · split at h <;> cases h
    simpa [least] using hleast
  · split at h
    case h_4 => simpa [least] using least_joinedStep h
    case h_8 => simpa [least] using least_tagStep h
    -- The other ones are finished, or go on with one kind of character.
    case h_9 | h_10 => cases h
    all_goals
      split at h <;> cases h
      decide

lemma least_join (onset : LetterOnset) : (letters onset.join).least = (letters onset).least := by
  cases onset <;> rfl

/-- Letters that merge take back no more than their beginning stands for. -/
lemma least_merge {onset : LetterOnset} {next : Option LetterOnset} {code : Nat} {n : Int}
    (h : onset.merge? code = some (n, next)) :
    ((next.map letters).getD .other).least ≤ (letters onset).least + n := by
  unfold LetterOnset.merge? at h
  split at h
  case h_12 | h_13 | h_14 => cases h
  all_goals split_ifs at h <;> cases h <;> simp [least]

lemma least_letterStep {onset : LetterOnset} {next : Option LetterOnset} {code : Nat} {n : Int}
    (h : onset.step? code = some (n, next)) :
    ((next.map letters).getD .other).least ≤ (letters onset).least + n := by
  unfold LetterOnset.step? at h
  split_ifs at h
  · cases h
    simp [least_join]
  · cases h
    simp
  · exact least_merge h

lemma least_step {onset next : Onset} {code : Nat} {n : Int}
    (h : onset.step? code = some (n, next)) : next.least ≤ onset.least + n := by
  cases onset with
  | other => cases h
  | emoji onset =>
    obtain ⟨⟨n, next⟩, hstep, hnext⟩ := Option.map_eq_some_iff.1 h
    cases hnext
    exact least_emojiStep hstep
  | letters onset =>
    obtain ⟨⟨n, next⟩, hstep, hnext⟩ := Option.map_eq_some_iff.1 h
    cases hnext
    exact least_letterStep hstep

lemma least_under (selector : Selector) (onset : Onset) :
    (onset.under selector).least ≤ onset.least := by
  unfold under
  split
  · exact Int.le_refl 0
  · exact Int.le_refl 0
  · exact Int.le_refl _
  · split
    · exact Int.le_refl _
    · exact least_nonneg _
  · exact Int.le_refl 0

lemma least_withoutSelector (onset : Onset) : onset.withoutSelector.least ≤ onset.least := by
  cases onset with
  | letters onset => exact Int.le_refl _
  | other | emoji => exact least_nonneg _

end Onset

/-! ## Lines -/

namespace Measured

/-- A part of a line takes the columns that its beginning stands for. -/
def Covered (m : Measured) : Prop := m.onset.least ≤ m.columns

lemma Covered.columns_nonneg {m : Measured} (h : m.Covered) : 0 ≤ m.columns :=
  Int.le_trans m.onset.least_nonneg h

lemma covered_empty : empty.Covered := Int.le_refl 0

lemma Covered.add {m : Measured} (h : m.Covered) {n : Int} {onset : Onset}
    (hn : onset.least ≤ n) : (m.add n onset).Covered := by
  have hcolumns := h.columns_nonneg
  show onset.least ≤ m.columns + n
  omega

lemma Covered.putBare {m : Measured} (h : m.Covered) (code : Nat) : (m.putBare code).Covered := by
  unfold Measured.putBare
  split_ifs
  · exact h.add (by decide)
  · split
    · exact Int.le_trans (Onset.least_under _ _) h
    · split
      · next columns onset hstep =>
        have hleast := Onset.least_step hstep
        show onset.least ≤ m.columns + columns
        have hcovered : m.onset.least ≤ m.columns := h
        omega
      · exact h.add (Onset.least_of_le code)

/-- A variation selector has a character take what the beginning stands for which it makes. -/
lemma least_selected {selector : Selector} {onset next : Onset} {code : Nat} {n : Int}
    (h : selected? selector onset code = some (n, next)) : next.least ≤ n := by
  unfold selected? at h
  split at h <;> split_ifs at h <;> cases h <;> decide

lemma Covered.put {m : Measured} (h : m.Covered) (c : Char) : (m.put c).Covered := by
  unfold Measured.put
  split
  · exact h.putBare c.toNat
  · split
    · next hselected => exact h.add (least_selected hselected)
    · refine Covered.putBare ?_ c.toNat
      exact Int.le_trans (Onset.least_withoutSelector m.onset) h

lemma Covered.putAll {m : Measured} (h : m.Covered) (cs : List Char) : (m.putAll cs).Covered := by
  induction cs with
  | nil => exact h
  | cons c cs ih => exact ih.put c

end Measured

@[simp] lemma columns_empty : columns "" = 0 := rfl

/-- Nothing is lost when the columns of a line are taken as a natural number. -/
lemma cast_columns (line : String) :
    (columns line : Int) = (Measured.empty.putAll line.toList).columns :=
  Int.toNat_of_nonneg (Measured.covered_empty.putAll _).columns_nonneg

/-! ## Blanks -/

namespace Measured

/-- The same part, with more columns behind it. -/
def shift (m : Measured) (n : Int) : Measured := { m with columns := n + m.columns }

lemma putBare_shift (m : Measured) (n : Int) (code : Nat) :
    (m.shift n).putBare code = (m.putBare code).shift n := by
  simp only [putBare, shift, add]
  split_ifs
  · simp [Int.add_assoc]
  · split
    · rfl
    · split <;> simp [Int.add_assoc]

/-- How a character is measured does not depend on the columns behind it. -/
lemma put_shift (m : Measured) (n : Int) (c : Char) : (m.shift n).put c = (m.put c).shift n := by
  obtain ⟨columns, onset, selector⟩ := m
  cases selector with
  | none => exact putBare_shift ⟨columns, onset, none⟩ n c.toNat
  | some selector =>
    simp only [put, shift]
    split
    · simp [add, Int.add_assoc]
    · exact putBare_shift ⟨columns, onset.withoutSelector, none⟩ n c.toNat

lemma putAll_shift (m : Measured) (n : Int) (cs : List Char) :
    (m.shift n).putAll cs = (m.putAll cs).shift n := by
  induction cs with
  | nil => rfl
  | cons c cs ih => exact (congrArg (put · c) ih).trans (put_shift _ n c)

/-- A blank does not belong together with anything. -/
lemma put_blank (m : Measured) : m.put ' ' = empty.shift (1 + m.columns) := by
  have hbare : ∀ m : Measured, m.putBare 32 = empty.shift (1 + m.columns) := fun m => by
    simp [putBare, add, shift, empty, Int.add_comm]
  have hselectable : isSelectable 32 = false := by decide +kernel
  unfold put
  split
  · exact hbare m
  · next selector _ =>
    have hselected : selected? selector m.onset ' '.toNat = none := by
      cases selector <;> simp [selected?, hselectable, inRanges]
    rw [hselected]
    exact hbare _

lemma putAll_append (m : Measured) (cs ds : List Char) :
    m.putAll (cs ++ ds) = (m.putAll ds).putAll cs :=
  List.foldr_append

end Measured

/-- A blank takes one column, and what stands in front of it is measured by itself. -/
lemma columns_append_blank (front rest : String) :
    columns (front ++ " " ++ rest) = columns front + 1 + columns rest := by
  have hlist : (front ++ " " ++ rest).toList = front.toList ++ ' ' :: rest.toList := by simp
  have hrest : Measured.empty.putAll (' ' :: rest.toList) =
      Measured.empty.shift (1 + (columns rest : Int)) := by
    rw [cast_columns]
    exact Measured.put_blank _
  apply Int.ofNat_inj.1
  rw [cast_columns, hlist, Measured.putAll_append, hrest, Measured.putAll_shift, Measured.shift,
    ← cast_columns]
  simp only [Int.natCast_add]
  omega

/-! ## Characters that take one column -/

/-- A character takes one column and does not belong together with those of its kind. -/
def Single (c : Char) : Prop := Measured.empty.put c = Measured.empty.shift 1

instance (c : Char) : Decidable (Single c) :=
  inferInstanceAs (Decidable (Measured.empty.put c = Measured.empty.shift 1))

lemma putAll_single {cs : List Char} (h : ∀ c ∈ cs, Single c) :
    Measured.empty.putAll cs = Measured.empty.shift cs.length := by
  induction cs with
  | nil => rfl
  | cons c cs ih =>
    obtain ⟨hc, hcs⟩ := List.forall_mem_cons.1 h
    have hput : Measured.empty.putAll (c :: cs) = (Measured.empty.putAll cs).put c := rfl
    rw [hput, ih hcs, Measured.put_shift, hc]
    simp [Measured.shift, Measured.empty]

/-- Such characters at the end of a line take a column each. -/
lemma columns_append_single (front : String) {rest : String}
    (h : ∀ c ∈ rest.toList, Single c) :
    columns (front ++ rest) = columns front + rest.toList.length := by
  apply Int.ofNat_inj.1
  rw [cast_columns, String.toList_append, Measured.putAll_append, putAll_single h,
    Measured.putAll_shift, Measured.shift, ← cast_columns]
  simp only [Int.natCast_add]
  omega

/-- A line of such characters takes as many columns as there are. -/
lemma columns_of_single {line : String} (h : ∀ c ∈ line.toList, Single c) :
    columns line = line.toList.length := by
  simpa using columns_append_single "" h

lemma single_blank : Single ' ' := Measured.put_blank _

end Abnf.Text
