import Abnf.Proofs.Json.Spellings

/-!
# Values that are passed over

The value of an unknown member is passed over.  What may stand in its place is put together like a
value, but it may nest to any depth (`Passed`), which comes to the same as nesting no deeper than
the text is long (`PassedWithin.of_length_le`).
-/

namespace Abnf.Json

open Reader

/-- Parts that are passed over, between brackets. -/
def PassedBetween (opening : Char) (next : Bool → Reader (Option Unit)) (G : Spelling Unit)
    (c n : Cursor) : Prop :=
  ∃ m m' parts, Token opening c m ∧
    Sequence (fun isFirst c key n => next isFirst c = .ok key n) (fun _ => G) true m parts m' ∧
      n = m'.drop 1

/-- A value that is passed over, with at most the given number of lists and objects inside each
other. -/
def PassedWithin : Nat → Spelling Unit
  | 0 => fun c _ n => Reader.passScalar c.skipBlanks = .ok () n
  | levels + 1 => fun c _ n => Reader.passScalar c.skipBlanks = .ok () n ∨
      PassedBetween '[' Reader.passNextElement (PassedWithin levels) c n ∨
      PassedBetween '{' Reader.passNextMember (PassedWithin levels) c n

namespace Reader

variable {c n : Cursor}

lemma Shortens.peekToken : Shortens Reader.peekToken :=
  .bind (fun c _ _ h => by cases h; exact c.length_skipBlanks_le) fun _ => .peek

lemma shortens_colon : Shortens colon := by
  refine .bind .peekToken fun x => ?_
  split
  · exact .skip 1
  · exact .failAhead _
  · exact .failAhead _

lemma shortens_passName : Shortens passName := by
  refine .bind .peekToken fun x => ?_
  split
  · exact .bind shortens_passLiteral fun _ => .bind shortens_colon fun _ => .pure _
  · exact .failAhead _
  · exact .failAhead _

lemma yields_passName : Yields passName (· ≠ none) := by
  refine .after fun x => ?_
  split
  · exact .after fun _ => .after fun _ => .pure (Option.some_ne_none ())
  · exact .failAhead _
  · exact .failAhead _

/-- A reader that leaves a bracket where it stands, or reads a comma and goes on, finds where parts
begin. -/
lemma finds_pass {next : Bool → Reader (Option Unit)} {follow : Reader (Option Unit)}
    (hfollow : Shortens follow) (hsome : Yields follow (· ≠ none))
    (h : ∀ {isFirst c key n}, next isFirst c = .ok key n →
      (key = none ∧ n = c.skipBlanks ∧ n.rest ≠ []) ∨
        ∃ m, (if isFirst then m = c.skipBlanks else Token ',' c m) ∧ follow m = .ok key n) :
    Finds next fun isFirst c key n => next isFirst c = .ok key n where
  iff := Iff.rfl
  shortens isFirst c key n hkey := by
    obtain ⟨-, rfl, -⟩ | ⟨m, hm, hn⟩ := h hkey
    · exact c.length_skipBlanks_le
    · refine Nat.le_trans (hfollow m key n hn) ?_
      cases isFirst with
      | true => exact hm ▸ c.length_skipBlanks_le
      | false => exact Nat.le_of_lt (Token.length_lt hm)
  comma := by
    intro c key n hkey
    obtain ⟨hnone, -, -⟩ | ⟨m, hm, hn⟩ := h hkey
    · cases hnone
    · exact Nat.lt_of_le_of_lt (hfollow m _ n hn) (Token.length_lt hm)
  bracket := by
    intro isFirst c n hkey
    obtain ⟨-, -, hrest⟩ | ⟨m, -, hn⟩ := h hkey
    · exact hrest
    · exact absurd rfl (hsome m none n hn)

lemma rest_ne_nil_of_head? {x : Char} (h : c.rest.head? = some x) : c.rest ≠ [] := by
  rintro hempty
  rw [hempty] at h
  cases h

lemma finds_passNextElement :
    Finds passNextElement fun isFirst c key n => passNextElement isFirst c = .ok key n := by
  refine finds_pass (.pure _) (.pure (Option.some_ne_none ())) fun {isFirst c key n} h => ?_
  rw [passNextElement, peekToken_bind] at h
  generalize hhead : c.skipBlanks.rest.head? = head at h
  split at h
  · cases h
  · cases h
    exact .inl ⟨rfl, rfl, rest_ne_nil_of_head? hhead⟩
  · cases isFirst with
    | true => exact .inr ⟨_, rfl, h⟩
    | false =>
      rw [if_neg (by decide)] at h
      split at h
      · next hcomma => exact .inr ⟨_, ⟨hcomma ▸ hhead, rfl⟩, h⟩
      · cases h

lemma finds_passNextMember :
    Finds passNextMember fun isFirst c key n => passNextMember isFirst c = .ok key n := by
  refine finds_pass shortens_passName yields_passName fun {isFirst c key n} h => ?_
  rw [passNextMember, peekToken_bind] at h
  generalize hhead : c.skipBlanks.rest.head? = head at h
  split at h
  · cases h
  · cases h
    exact .inl ⟨rfl, rfl, rest_ne_nil_of_head? hhead⟩
  · cases isFirst with
    | true => exact .inr ⟨_, rfl, h⟩
    | false =>
      rw [if_neg (by decide)] at h
      split at h
      · next hcomma => exact .inr ⟨_, ⟨hcomma ▸ hhead, rfl⟩, h⟩
      · cases h

lemma passScalar_ne_ok {x : Char} (hhead : c.rest.head? = some x) (hx : x = '[' ∨ x = '{') :
    passScalar c ≠ .ok () n := by
  rw [passScalar, peek_bind, hhead]
  have hscalar {v n} : scalar c ≠ .ok v n := scalar_ne_ok hhead hx
  rcases hx with rfl | rfl
  · show (scalar >>= fun _ => pure ()) c ≠ _
    rw [ne_eq, bind_eq_ok]
    rintro ⟨v, m, hv, -⟩
    exact hscalar hv
  · show (scalar >>= fun _ => pure ()) c ≠ _
    rw [ne_eq, bind_eq_ok]
    rintro ⟨v, m, hv, -⟩
    exact hscalar hv

end Reader

open Reader

lemma PassedBetween.head? {opening : Char} {next : Bool → Reader (Option Unit)}
    {G : Spelling Unit} {c n : Cursor} (h : PassedBetween opening next G c n) :
    c.skipBlanks.rest.head? = some opening := by
  obtain ⟨_, _, _, hopening, -, -⟩ := h
  exact hopening.1

lemma PassedBetween.length_lt {opening : Char} {next : Bool → Reader (Option Unit)}
    {G : Spelling Unit} {c n : Cursor}
    (hnext : Finds next fun isFirst c key n => next isFirst c = .ok key n)
    (hG : ∀ c u n, G c u n → n.rest.length ≤ c.rest.length)
    (h : PassedBetween opening next G c n) : n.rest.length < c.rest.length := by
  obtain ⟨m, m', parts, hopening, hparts, rfl⟩ := h
  have hle := hparts.length_le hnext.shortens fun _ => hG
  exact Nat.lt_of_le_of_lt (Nat.le_trans (Shortens.skip 1 m' () _ rfl) hle) hopening.length_lt

lemma PassedWithin.length_le {levels : Nat} {c n : Cursor} {u : Unit}
    (h : PassedWithin levels c u n) : n.rest.length ≤ c.rest.length := by
  have hscalar {c n : Cursor} (h : passScalar c.skipBlanks = .ok () n) :
      n.rest.length ≤ c.rest.length :=
    Nat.le_trans (shortens_passScalar _ _ _ h) c.length_skipBlanks_le
  induction levels generalizing c n u with
  | zero => exact hscalar h
  | succ levels ih =>
    rcases h with h | h | h
    · exact hscalar h
    · exact Nat.le_of_lt (PassedBetween.length_lt finds_passNextElement (fun _ _ _ => ih) h)
    · exact Nat.le_of_lt (PassedBetween.length_lt finds_passNextMember (fun _ _ _ => ih) h)

lemma passedBetween_iff {opening : Char} {next : Bool → Reader (Option Unit)} {r : Reader Unit}
    {G : Spelling Unit} {rounds : Nat} {c n : Cursor}
    (hnext : Finds next fun isFirst c key n => next isFirst c = .ok key n)
    (hr : DescribedBy rounds r G) (hc : c.rest.length < rounds)
    (hhead : c.skipBlanks.rest.head? = some opening) :
    (do
      skip 1
      many next (fun _ _ => r) rounds true ()
      skip 1) c.skipBlanks = .ok () n ↔ PassedBetween opening next G c n := by
  have hopening : Token opening c (c.skipBlanks.drop 1) := ⟨hhead, rfl⟩
  let keep (_ _ u : Unit) : Unit := u
  have hparts {u : Unit} {m : Cursor} :
      many next (fun _ _ => r) rounds true () (c.skipBlanks.drop 1) = .ok u m ↔
        ∃ parts, Sequence (fun isFirst c key n => next isFirst c = .ok key n) (fun _ => G) true
            (c.skipBlanks.drop 1) parts m ∧
          parts.foldl (fun u part => keep u part.1 part.2) () = u := by
    refine many_eq_ok_foldl hnext (fun _ _ c u n hc => ?_) (fun _ _ _ _ => hr.shortens)
      (Nat.lt_trans hopening.length_lt hc)
    rw [hr.iff hc]
    exact ⟨fun h => ⟨u, h, rfl⟩, fun ⟨_, h, _⟩ => h⟩
  rw [skip_bind, bind_eq_ok]
  constructor
  · rintro ⟨u, m', hm', hn⟩
    cases hn
    obtain ⟨parts, hparts, -⟩ := hparts.1 hm'
    exact ⟨_, m', parts, hopening, hparts, rfl⟩
  · rintro ⟨m, m', parts, ⟨-, rfl⟩, h, rfl⟩
    exact ⟨(), m', hparts.2 ⟨parts, h, rfl⟩, rfl⟩

/-- The reader that passes over values is described by what is passed over. -/
theorem describedBy_passWithin (rounds levels : Nat) :
    DescribedBy rounds (passWithin rounds levels) (PassedWithin levels) := by
  refine ⟨?_, PassedWithin.length_le⟩
  induction levels with
  | zero =>
    intro c u n hc
    rw [passWithin, peekToken_bind]
    generalize hhead : c.skipBlanks.rest.head? = head
    split
    · exact iff_of_false (fun h => by cases h) (passScalar_ne_ok hhead (.inl rfl))
    · exact iff_of_false (fun h => by cases h) (passScalar_ne_ok hhead (.inr rfl))
    · exact Iff.rfl
  | succ levels ih =>
    intro c u n hc
    have hpass : DescribedBy rounds (passWithin rounds levels) (PassedWithin levels) :=
      ⟨ih, PassedWithin.length_le⟩
    rw [passWithin, peekToken_bind, PassedWithin]
    have hbracket (h : PassedBetween '[' passNextElement (PassedWithin levels) c n) :=
      h.head?
    have hbrace (h : PassedBetween '{' passNextMember (PassedWithin levels) c n) := h.head?
    generalize hhead : c.skipBlanks.rest.head? = head at hbracket hbrace
    split
    · refine (passedBetween_iff finds_passNextElement hpass hc hhead).trans
        ⟨fun h => .inr (.inl h), ?_⟩
      rintro (h | h | h)
      · exact absurd h (passScalar_ne_ok hhead (.inl rfl))
      · exact h
      · cases hbrace h
    · refine (passedBetween_iff finds_passNextMember hpass hc hhead).trans
        ⟨fun h => .inr (.inr h), ?_⟩
      rintro (h | h | h)
      · exact absurd h (passScalar_ne_ok hhead (.inr rfl))
      · cases hbracket h
      · exact h
    · next hlist hobject =>
      refine ⟨.inl, ?_⟩
      rintro (h | h | h)
      · exact h
      · exact absurd (hbracket h) hlist
      · exact absurd (hbrace h) hobject

lemma Sequence.mono_within {κ φ : Type} {next : Bool → Reader (Option κ)}
    {Next : Bool → Cursor → Option κ → Cursor → Prop} {G G' : κ → Spelling φ} {bound : Nat}
    (hnext : Finds next Next) (hlength : ∀ key c x n, G key c x n → n.rest.length ≤ c.rest.length)
    (hG : ∀ key c x n, c.rest.length ≤ bound → G key c x n → G' key c x n) {isFirst : Bool}
    {c n : Cursor} {parts : List (κ × φ)} (h : Sequence Next G isFirst c parts n)
    (hc : c.rest.length ≤ bound) : Sequence Next G' isFirst c parts n := by
  induction h with
  | nil hend => exact .nil hend
  | @cons isFirst c m m' n key x parts hkey hpart _ ih =>
    have hm : m.rest.length ≤ bound := Nat.le_trans (hnext.shortens _ _ _ _ hkey) hc
    exact .cons hkey (hG key m x m' hm hpart) (ih (Nat.le_trans (hlength key m x m' hpart) hm))

/-- No text nests deeper than it is long. -/
lemma PassedWithin.of_length_le {levels limit : Nat} {c n : Cursor} {u : Unit}
    (h : PassedWithin levels c u n) (hlimit : c.rest.length ≤ limit) :
    PassedWithin limit c u n := by
  have hparts {levels limit : Nat} {opening : Char} {next : Bool → Reader (Option Unit)}
      {c n : Cursor} (hnext : Finds next fun isFirst c key n => next isFirst c = .ok key n)
      (ih : ∀ {limit : Nat} {c n : Cursor} {u : Unit}, PassedWithin levels c u n →
        c.rest.length ≤ limit → PassedWithin limit c u n)
      (h : PassedBetween opening next (PassedWithin levels) c n) (hlimit : c.rest.length ≤ limit) :
      ∃ inner, limit = inner + 1 ∧ PassedBetween opening next (PassedWithin inner) c n := by
    obtain ⟨m, m', parts, hopening, hparts, rfl⟩ := h
    have hlt := Nat.lt_of_lt_of_le hopening.length_lt hlimit
    obtain ⟨inner, rfl⟩ := Nat.exists_eq_add_of_le' (Nat.one_le_of_lt hlt)
    exact ⟨inner, rfl, m, m', parts, hopening,
      hparts.mono_within hnext (fun _ _ _ _ => PassedWithin.length_le)
        (fun _ _ _ _ hc h => ih h hc) (Nat.le_of_lt_succ hlt), rfl⟩
  induction levels generalizing limit c n u with
  | zero =>
    cases limit with
    | zero => exact h
    | succ limit => exact .inl h
  | succ levels ih =>
    rcases h with h | h | h
    · cases limit with
      | zero => exact h
      | succ limit => exact .inl h
    · obtain ⟨inner, rfl, h⟩ := hparts finds_passNextElement ih h hlimit
      exact .inr (.inl h)
    · obtain ⟨inner, rfl, h⟩ := hparts finds_passNextMember ih h hlimit
      exact .inr (.inr h)

/-- A value that is passed over. -/
def Passed : Spelling Unit := fun c u n => ∃ levels, PassedWithin levels c u n

/-- Where a value may stand that is passed over, there is no other limit than the text. -/
lemma describedBy_pass (levels rounds : Nat) :
    DescribedBy rounds (pass ⟨levels, rounds⟩) Passed where
  iff hc :=
    ((describedBy_passWithin rounds rounds).iff hc).trans
      ⟨fun h => ⟨rounds, h⟩, fun ⟨_, h⟩ => h.of_length_le (Nat.le_of_lt hc)⟩
  shortens := fun ⟨_, h⟩ => h.length_le

end Abnf.Json
