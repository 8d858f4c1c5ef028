import Abnf.Json.Pass
import Abnf.Proofs.Json.Scalars

/-!
# Moving forward in a text

When one reader goes on where another one has stopped, the whole succeeds just where both do
(`Reader.bind_eq_ok`).  No reader goes back: what it leaves of a text is no longer than what it was
given (`Reader.Shortens`), so that whatever is read in turn takes up no more than the text.
-/

namespace Abnf.Json

namespace Cursor

variable {c : Cursor}

lemma rest_skipBlanks (c : Cursor) : c.skipBlanks.rest = c.rest.dropWhile isBlank := rfl

@[simp] lemma skipBlanks_skipBlanks (c : Cursor) : c.skipBlanks.skipBlanks = c.skipBlanks := by
  have hblank : ∀ cs : List Char, (cs.dropWhile isBlank).takeWhile isBlank = [] ∧
      (cs.dropWhile isBlank).dropWhile isBlank = cs.dropWhile isBlank := by
    intro cs
    induction cs with
    | nil => exact ⟨rfl, rfl⟩
    | cons d cs ih => by_cases hd : isBlank d <;> simp [hd, ih]
  obtain ⟨htake, hdrop⟩ := hblank c.rest
  show c.skipBlanks.dropWhile isBlank = c.skipBlanks
  rw [dropWhile, rest_skipBlanks, htake, hdrop]
  rfl

lemma length_skipBlanks_le (c : Cursor) : c.skipBlanks.rest.length ≤ c.rest.length :=
  (List.dropWhile_suffix _).length_le

end Cursor

namespace Reader

variable {α β : Type} {r : Reader α} {f : α → Reader β}

/-- A reader goes on after another one. -/
lemma bind_eq_ok {c n : Cursor} {b : β} :
    (r >>= f) c = .ok b n ↔ ∃ a m, r c = .ok a m ∧ f a m = .ok b n := by
  rw [bind_apply]
  constructor
  · intro h
    split at h
    · next a m hr => exact ⟨a, m, hr, h⟩
    · cases h
    · cases h
  · rintro ⟨a, m, hr, hf⟩
    rw [hr]
    exact hf

lemma map_eq_ok {g : α → β} {c n : Cursor} {b : β} :
    (g <$> r) c = .ok b n ↔ ∃ a, r c = .ok a n ∧ g a = b := by
  show (r >>= fun a => pure (g a)) c = _ ↔ _
  rw [bind_eq_ok]
  constructor
  · rintro ⟨a, m, hr, hg⟩
    cases hg
    exact ⟨a, hr, rfl⟩
  · rintro ⟨a, hr, rfl⟩
    exact ⟨a, n, hr, rfl⟩

lemma ofExcept_eq_ok {x : Except Cause α} {c n : Cursor} {a : α} :
    ofExcept x c = .ok a n ↔ x = .ok a ∧ n = c := by
  cases x with
  | error cause =>
    constructor
    · intro h
      cases h
    · rintro ⟨h, -⟩
      cases h
  | ok b =>
    constructor
    · intro h
      cases h
      exact ⟨rfl, rfl⟩
    · rintro ⟨h, rfl⟩
      exact congrArg (Outcome.ok · n) (Except.ok.inj h)

lemma peek_bind {f : Option Char → Reader α} (c : Cursor) :
    (peek >>= f) c = f c.rest.head? c := rfl

lemma peekToken_bind {f : Option Char → Reader α} (c : Cursor) :
    (peekToken >>= f) c = f c.skipBlanks.rest.head? c.skipBlanks := rfl

lemma skip_bind {f : Unit → Reader α} (k : Nat) (c : Cursor) :
    (skip k >>= f) c = f () (c.drop k) := rfl

/-! ## Readers do not go back -/

/-- The reader leaves no more of a text than it is given. -/
def Shortens (r : Reader α) : Prop :=
  ∀ c a n, r c = .ok a n → n.rest.length ≤ c.rest.length

namespace Shortens

lemma pure (a : α) : Shortens (Pure.pure a : Reader α) := by
  intro c b n h
  cases h
  exact Nat.le_refl _

lemma bind (hr : Shortens r) (hf : ∀ a, Shortens (f a)) : Shortens (r >>= f) := by
  intro c b n h
  obtain ⟨a, m, ha, hb⟩ := bind_eq_ok.1 h
  exact Nat.le_trans (hf a m b n hb) (hr c a m ha)

lemma map (g : α → β) (hr : Shortens r) : Shortens (g <$> r) :=
  bind hr fun a => pure (g a)

lemma failHere (cause : Cause) : Shortens (Reader.failHere cause : Reader α) := by
  intro c a n h
  cases h

lemma failAhead (cause : Cause) : Shortens (Reader.failAhead cause : Reader α) := by
  intro c a n h
  cases h

lemma peek : Shortens Reader.peek := by
  intro c a n h
  cases h
  exact Nat.le_refl _

lemma skip (k : Nat) : Shortens (Reader.skip k) := by
  intro c a n h
  cases h
  exact (List.drop_suffix k c.rest).length_le

end Shortens

lemma shortens_literalTail {read : List Char} {place : Position} {decoded : Nat} {cs : List Char}
    {out : List Char} {n : Cursor} (h : literalTail read place decoded cs = .ok out n) :
    n.rest.length ≤ cs.length := by
  induction cs generalizing read place decoded with
  | nil => cases decoded <;> cases h
  | cons x rest ih =>
    cases decoded with
    | succ decoded => exact Nat.le_succ_of_le (ih h)
    | zero =>
      rw [literalTail] at h
      split at h
      · cases h
        exact Nat.le_succ _
      · split at h
        · split at h
          · cases h
          · exact Nat.le_succ_of_le (ih h)
        · split at h
          · cases h
          · exact Nat.le_succ_of_le (ih h)

lemma shortens_literal : Shortens literal :=
  .bind (.skip 1) fun _ => .map _ fun _ _ _ h => shortens_literalTail h

lemma shortens_passTail {place : Position} {seen : Nat} {cs : List Char} {n : Cursor}
    (h : passTail place seen cs = .ok () n) : n.rest.length ≤ cs.length := by
  induction cs generalizing place seen with
  | nil => cases seen <;> cases h
  | cons x rest ih =>
    cases seen with
    | succ seen => exact Nat.le_succ_of_le (ih h)
    | zero =>
      rw [passTail] at h
      split at h
      · cases h
        exact Nat.le_succ _
      · split at h
        · split at h
          · cases h
          · exact Nat.le_succ_of_le (ih h)
        · split at h
          · cases h
          · exact Nat.le_succ_of_le (ih h)

lemma shortens_passLiteral : Shortens passLiteral :=
  .bind (.skip 1) fun _ _ _ _ h => shortens_passTail h

lemma shortens_someDigits (ended : Cause) : Shortens (someDigits ended) := by
  refine .bind .peek fun x => ?_
  split
  · exact .failAhead _
  · split
    · intro c a n h
      cases h
      exact (List.dropWhile_suffix _).length_le
    · exact .failAhead _

lemma shortens_wholeDigits (ended : Cause) : Shortens (wholeDigits ended) := by
  refine .bind .peek fun x => ?_
  split
  · refine .bind (.skip 1) fun _ => .bind .peek fun x => ?_
    split
    · split
      · exact .failAhead _
      · exact .pure _
    · exact .pure _
  · exact shortens_someDigits ended

lemma shortens_fractionDigits (ended : Cause) : Shortens (fractionDigits ended) := by
  refine .bind .peek fun x => ?_
  split
  · exact .bind (.skip 1) fun _ => shortens_someDigits ended
  · exact .pure _

lemma shortens_exponentSign : Shortens exponentSign := by
  refine .bind .peek fun x => ?_
  split
  · exact .bind (.skip 1) fun _ => .pure _
  · exact .bind (.skip 1) fun _ => .pure _
  · exact .pure _

lemma shortens_exponentPart (ended : Cause) : Shortens (exponentPart ended) := by
  have hsigned : Shortens (do
      skip 1
      let downward ← exponentSign
      let ds ← someDigits ended
      pure (some (downward, ds))) :=
    .bind (.skip 1) fun _ => .bind shortens_exponentSign fun _ =>
      .bind (shortens_someDigits ended) fun _ => .pure _
  refine .bind .peek fun x => ?_
  split
  · exact hsigned
  · exact hsigned
  · exact .pure _

lemma shortens_numeral (ended : Cause) : Shortens (numeral ended) := by
  refine .bind .peek fun x => ?_
  have hparts : Shortens (do
      let whole ← wholeDigits ended
      let fraction ← fractionDigits ended
      let exponent ← exponentPart ended
      pure (Numeral.mk (x == some '-') whole fraction exponent)) :=
    .bind (shortens_wholeDigits ended) fun _ => .bind (shortens_fractionDigits ended) fun _ =>
      .bind (shortens_exponentPart ended) fun _ => .pure _
  dsimp only
  split
  · exact .bind (.skip 1) fun _ => hparts
  · exact hparts

lemma shortens_word (expected : List Char) : Shortens (word expected) := by
  induction expected with
  | nil => exact .pure ()
  | cons x rest ih =>
    refine .bind .peek fun found => ?_
    split
    · exact .failHere _
    · split
      · exact .bind (.skip 1) fun _ => ih
      · exact .failAhead _

lemma shortens_number : Shortens number := by
  refine .bind (shortens_numeral _) fun number => ?_
  split
  · exact .pure _
  · intro c a n h
    cases h

lemma shortens_scalar : Shortens scalar := by
  refine .bind .peek fun x => ?_
  split
  · exact .bind (shortens_word _) fun _ => .pure _
  · exact .bind (shortens_word _) fun _ => .pure _
  · exact .bind (shortens_word _) fun _ => .pure _
  · exact .bind shortens_literal fun _ => .pure _
  · split
    · exact shortens_number
    · exact .failAhead _
  · exact .failAhead _

lemma shortens_passScalar : Shortens passScalar := by
  refine .bind .peek fun x => ?_
  split
  · exact shortens_passLiteral
  · split
    · exact .bind (shortens_numeral _) fun _ => .pure _
    · exact .bind shortens_scalar fun _ => .pure _
  · exact .failAhead _

end Reader

end Abnf.Json
