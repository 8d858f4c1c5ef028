import Mathlib.Tactic.Lemma
import Abnf.Base

/-!
# Reading numerals

A numeral of a base is read by the values of its digits, the most significant one first.  Reading
the numeral of a number gives the number back (`read?_toDigits`), so that different numbers have
different numerals.
-/

namespace Abnf.Base

/-- The value of a digit of the base. -/
def digit? (b : Base) (c : Char) : Option Nat :=
  (List.range b.radix).find? fun value => Nat.digitChar value == c

/-- The number that some digits of the base stand for, if they are digits and there is at least
one. -/
def read? (b : Base) (digits : List Char) : Option Nat :=
  if digits.isEmpty then none
  else digits.foldlM (fun n c => (b.digit? c).map (b.radix * n + ·)) 0

lemma one_lt_radix (b : Base) : 1 < b.radix := by
  cases b <;> decide

lemma radix_le_sixteen (b : Base) : b.radix ≤ 16 := by
  cases b <;> decide

lemma digit?_digitChar (b : Base) {value : Nat} (h : value < b.radix) :
    b.digit? (Nat.digitChar value) = some value := by
  have hall : ∀ b : Base, ∀ value < b.radix, b.digit? (Nat.digitChar value) = some value := by
    intro b
    cases b <;> decide
  exact hall b value h

lemma eq_digitChar_of_digit? {b : Base} {c : Char} {value : Nat} (h : b.digit? c = some value) :
    value < b.radix ∧ c = Nat.digitChar value := by
  have hchar : Nat.digitChar value = c := by simpa using List.find?_some h
  have hmem : value ∈ List.range b.radix := List.mem_of_find?_eq_some h
  exact ⟨List.mem_range.1 hmem, hchar.symm⟩

/-- What holds of the finitely many digits of a base holds of each character that is one. -/
lemma forall_digit {b : Base} {p : Char → Prop} (hp : ∀ value < b.radix, p (Nat.digitChar value))
    {c : Char} (h : (b.digit? c).isSome = true) : p c := by
  obtain ⟨value, hvalue⟩ := Option.isSome_iff_exists.1 h
  obtain ⟨hlt, rfl⟩ := eq_digitChar_of_digit? hvalue
  exact hp value hlt

/-- A digit of any base is a hexadecimal digit. -/
lemma isSome_hexadecimal {b : Base} {c : Char} (h : (b.digit? c).isSome = true) :
    (hexadecimal.digit? c).isSome = true := by
  refine forall_digit (p := fun c => (hexadecimal.digit? c).isSome = true) (fun value hlt => ?_) h
  have hlt' : value < hexadecimal.radix := Nat.lt_of_lt_of_le hlt b.radix_le_sixteen
  rw [digit?_digitChar hexadecimal hlt']
  rfl

lemma isSome_digit?_of_mem (b : Base) {c : Char} {n : Nat} (h : c ∈ Nat.toDigits b.radix n) :
    (b.digit? c).isSome = true := by
  have hradix := b.one_lt_radix
  induction n using Nat.base_induction b.radix hradix with
  | single m hm =>
    rw [Nat.toDigits_of_lt_base hm, List.mem_singleton] at h
    rw [h, b.digit?_digitChar hm]
    rfl
  | digit m k hk hm ih =>
    rw [← Nat.toDigits_append_toDigits hradix hm hk, Nat.toDigits_of_lt_base hk] at h
    rcases List.mem_append.1 h with hinit | hlast
    · exact ih hinit
    · rw [List.mem_singleton] at hlast
      rw [hlast, b.digit?_digitChar hk]
      rfl

lemma isSome_digit?_of_mem_toString {c : Char} {n : Nat} (h : c ∈ (toString n).toList) :
    (decimal.digit? c).isSome = true :=
  decimal.isSome_digit?_of_mem (n := n) (by simpa [radix] using h)

/-- The digits of a number are read as the number. -/
theorem read?_toDigits (b : Base) (n : Nat) : b.read? (Nat.toDigits b.radix n) = some n := by
  have hradix := b.one_lt_radix
  have hfold : (Nat.toDigits b.radix n).foldlM
      (fun n c => (b.digit? c).map (b.radix * n + ·)) 0 = some n := by
    induction n using Nat.base_induction b.radix hradix with
    | single m hm =>
      rw [Nat.toDigits_of_lt_base hm]
      simp [b.digit?_digitChar hm]
    | digit m k hk hm ih =>
      rw [← Nat.toDigits_append_toDigits hradix hm hk, Nat.toDigits_of_lt_base hk,
        List.foldlM_append, ih]
      simp [b.digit?_digitChar hk]
  simp [read?, hfold]

/-- Different numbers have different digits. -/
lemma toDigits_injective (b : Base) {m n : Nat}
    (h : Nat.toDigits b.radix m = Nat.toDigits b.radix n) : m = n := by
  have hread : some m = some n := by
    rw [← b.read?_toDigits m, ← b.read?_toDigits n, h]
  exact Option.some.inj hread

end Abnf.Base
