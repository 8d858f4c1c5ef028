import Abnf.Proofs.Json.Depth
import Abnf.Proofs.Json.Progress

/-!
# How values are spelled

What may stand between two places of a text as a way of writing something is a `Spelling`.  Lists
and objects are spelled by what stands in them: their parts, one after the other, with commas in
between and blanks wherever JSON allows them (`Sequence`).  A reader is described by a spelling if
it goes from one place to another exactly where something is spelled between them
(`Reader.DescribedBy`).  The reader of values is described by the spelling of values
(`Reader.describedBy_value`), so that a text is read as a value if and only if it is put together in
this way.
-/

namespace Abnf.Json

/-- What may stand between two places of a text as a way of writing something. -/
abbrev Spelling (α : Type) := Cursor → α → Cursor → Prop

/-! ## Tokens and parts -/

/-- A certain character is the next token. -/
def Token (x : Char) (c n : Cursor) : Prop :=
  c.skipBlanks.rest.head? = some x ∧ n = c.skipBlanks.drop 1

/-- The next part begins at the next token, behind a comma unless it is the first one. -/
def Separated (isFirst : Bool) (c n : Cursor) : Prop :=
  if isFirst then n = c.skipBlanks else ∃ m, Token ',' c m ∧ n = m.skipBlanks

/-- Where the next element of a list begins, if there is one. -/
def ElementAt (isFirst : Bool) (c : Cursor) : Option Unit → Cursor → Prop
  | some _, n => Separated isFirst c n ∧ ∃ x, n.rest.head? = some x ∧ x ≠ ']'
  | none, n => n = c.skipBlanks ∧ n.rest.head? = some ']'

/-- The name of the next member of an object, if there is one. -/
def MemberAt (isFirst : Bool) (c : Cursor) : Option String → Cursor → Prop
  | some name, n => ∃ m, Separated isFirst c m ∧ m.rest.head? = some '"' ∧
      Reader.literal m = .ok name n
  | none, n => n = c.skipBlanks ∧ n.rest.head? = some '}'

/-- Parts one after the other, each with a key, up to where no other one follows. -/
inductive Sequence {κ φ : Type} (Next : Bool → Cursor → Option κ → Cursor → Prop)
    (G : κ → Spelling φ) : Bool → Cursor → List (κ × φ) → Cursor → Prop where
  /-- No other part follows. -/
  | nil {isFirst : Bool} {c n : Cursor} (hnext : Next isFirst c none n) :
      Sequence Next G isFirst c [] n
  /-- A part is followed by others. -/
  | cons {isFirst : Bool} {c m m' n : Cursor} {key : κ} {x : φ} {parts : List (κ × φ)}
      (hnext : Next isFirst c (some key) m) (hpart : G key m x m')
      (hparts : Sequence Next G false m' parts n) :
      Sequence Next G isFirst c ((key, x) :: parts) n

/-- Something stands between brackets. -/
def Enclosed (opening close : Char) (contents : Cursor → Cursor → Prop) (c n : Cursor) : Prop :=
  ∃ m m', Token opening c m ∧ contents m m' ∧ Token close m' n

variable {α : Type}

/-- A list of what is spelled in a certain way. -/
def ListOf (G : Spelling α) : Spelling (List α) := fun c items n =>
  Enclosed '[' ']' (fun m m' =>
    Sequence ElementAt (fun _ => G) true m (items.map fun item => ((), item)) m') c n

/-- What a member of an object is, behind its name: a colon and a value. -/
def Member (G : Spelling α) : Spelling α := fun c a n => ∃ m, Token ':' c m ∧ G m a n

/-- An object, what its members are being spelled as their names demand. -/
def ObjectOf (G : String → Spelling α) : Spelling (List (String × α)) := fun c members n =>
  Enclosed '{' '}' (fun m m' =>
    Sequence MemberAt (fun name => Member (G name)) true m members m') c n

/-- A value with at most the given number of lists and objects inside each other. -/
def Spelled : Nat → Spelling Value
  | 0 => fun c v n => Reader.scalar c.skipBlanks = .ok v n
  | levels + 1 => fun c v n => Reader.scalar c.skipBlanks = .ok v n ∨
      (∃ items, v = .arr items ∧ ListOf (Spelled levels) c items n) ∨
      ∃ members, v = .obj members ∧ ObjectOf (fun _ => Spelled levels) c members n

/-- A whole text is a way of writing something, with blanks behind it. -/
def WholeText (G : Spelling α) (text : String) (a : α) : Prop :=
  ∃ n, G (.start text) a n ∧ n.skipBlanks.rest = []

/-! ## Moving on in a text -/

lemma Token.length_lt {x : Char} {c n : Cursor} (h : Token x c n) :
    n.rest.length < c.rest.length := by
  obtain ⟨hhead, rfl⟩ := h
  obtain ⟨rest, hrest⟩ := List.head?_eq_some_iff.1 hhead
  have hle := c.length_skipBlanks_le
  rw [hrest, List.length_cons] at hle
  rw [Cursor.drop, hrest]
  exact hle

lemma Separated.length_lt {c n : Cursor} (h : Separated false c n) :
    n.rest.length < c.rest.length := by
  obtain ⟨m, hm, rfl⟩ := h
  exact Nat.lt_of_le_of_lt m.length_skipBlanks_le hm.length_lt

lemma Separated.length_le {isFirst : Bool} {c n : Cursor} (h : Separated isFirst c n) :
    n.rest.length ≤ c.rest.length := by
  cases isFirst with
  | true => exact h ▸ c.length_skipBlanks_le
  | false => exact Nat.le_of_lt h.length_lt

/-- Reading goes on behind what stands between brackets. -/
lemma Enclosed.length_lt {opening close : Char} {contents : Cursor → Cursor → Prop} {c n : Cursor}
    (h : Enclosed opening close contents c n)
    (hcontents : ∀ m m', contents m m' → m'.rest.length ≤ m.rest.length) :
    n.rest.length < c.rest.length := by
  obtain ⟨m, m', hopening, hm, hclose⟩ := h
  exact Nat.lt_trans hclose.length_lt (Nat.lt_of_le_of_lt (hcontents m m' hm) hopening.length_lt)

lemma Enclosed.head? {opening close : Char} {contents : Cursor → Cursor → Prop} {c n : Cursor}
    (h : Enclosed opening close contents c n) : c.skipBlanks.rest.head? = some opening := by
  obtain ⟨_, _, hopening, -, -⟩ := h
  exact hopening.1

lemma Enclosed.exists_and {opening close : Char} {φ : Type} {P : φ → Cursor → Cursor → Prop}
    {Q : φ → Prop} {c n : Cursor} :
    Enclosed opening close (fun m m' => ∃ x, P x m m' ∧ Q x) c n ↔
      ∃ x, Enclosed opening close (P x) c n ∧ Q x := by
  constructor
  · rintro ⟨m, m', hopening, ⟨x, hx, hQ⟩, hclose⟩
    exact ⟨x, ⟨m, m', hopening, hx, hclose⟩, hQ⟩
  · rintro ⟨x, ⟨m, m', hopening, hx, hclose⟩, hQ⟩
    exact ⟨m, m', hopening, ⟨x, hx, hQ⟩, hclose⟩

lemma Sequence.length_le {κ φ : Type} {Next : Bool → Cursor → Option κ → Cursor → Prop}
    {G : κ → Spelling φ} {isFirst : Bool} {c n : Cursor} {parts : List (κ × φ)}
    (h : Sequence Next G isFirst c parts n)
    (hnext : ∀ isFirst c key n, Next isFirst c key n → n.rest.length ≤ c.rest.length)
    (hG : ∀ key c x n, G key c x n → n.rest.length ≤ c.rest.length) :
    n.rest.length ≤ c.rest.length := by
  induction h with
  | nil hend => exact hnext _ _ _ _ hend
  | cons hkey hpart _ ih =>
    exact Nat.le_trans ih (Nat.le_trans (hG _ _ _ _ hpart) (hnext _ _ _ _ hkey))

lemma Sequence.exists_of_mem {κ φ : Type} {Next : Bool → Cursor → Option κ → Cursor → Prop}
    {G : κ → Spelling φ} {isFirst : Bool} {c n : Cursor} {parts : List (κ × φ)}
    (h : Sequence Next G isFirst c parts n) {part : κ × φ} (hpart : part ∈ parts) :
    ∃ m m', G part.1 m part.2 m' := by
  induction h with
  | nil _ => cases hpart
  | @cons _ _ m m' _ _ _ _ _ hx _ ih =>
    rcases List.mem_cons.1 hpart with rfl | hpart
    · exact ⟨m, m', hx⟩
    · exact ih hpart

namespace Reader

/-! ## Separators -/

variable {κ : Type}

/-- A reader of separators finds where the next part begins, if there is one. -/
structure Finds (next : Bool → Reader (Option κ))
    (Next : Bool → Cursor → Option κ → Cursor → Prop) : Prop where
  /-- This is all that it finds. -/
  iff : ∀ {isFirst c key n}, next isFirst c = .ok key n ↔ Next isFirst c key n
  /-- It does not go back. -/
  shortens : ∀ isFirst c key n, Next isFirst c key n → n.rest.length ≤ c.rest.length
  /-- A comma is read before every part but the first one. -/
  comma : ∀ {c key n}, Next false c (some key) n → n.rest.length < c.rest.length
  /-- A bracket is left behind the last part. -/
  bracket : ∀ {isFirst c n}, Next isFirst c none n → n.rest ≠ []

lemma nextElement_eq_ok {isFirst : Bool} {c n : Cursor} {key : Option Unit} :
    nextElement isFirst c = .ok key n ↔ ElementAt isFirst c key n := by
  rw [nextElement, peekToken_bind]
  generalize hhead : c.skipBlanks.rest.head? = head
  split
  · cases key <;> cases isFirst <;>
      simp +contextual [ElementAt, Separated, Token, hhead, failAhead]
  · cases key <;> cases isFirst <;>
      simp +contextual [ElementAt, Separated, Token, hhead, eq_comm]
  · next x hx =>
    have hclose : x ≠ ']' := fun heq => hx (heq ▸ rfl)
    cases isFirst with
    | true =>
      rw [if_pos rfl]
      cases key <;> simp +contextual [ElementAt, Separated, hhead, hclose, eq_comm]
    | false =>
      rw [if_neg (by decide)]
      split
      · next hcomma =>
        subst hcomma
        rw [skip_bind, peekToken_bind]
        generalize hnext : (c.skipBlanks.drop 1).skipBlanks.rest.head? = next
        split
        · cases key <;> simp +contextual [ElementAt, Separated, Token, hhead, hnext, failAhead]
        · cases key <;> simp +contextual [ElementAt, Separated, Token, hhead, hnext, failAhead]
        · next y hy =>
          have hclose : y ≠ ']' := fun heq => hy (heq ▸ rfl)
          cases key <;>
            simp +contextual [ElementAt, Separated, Token, hhead, hnext, hclose, eq_comm]
      · next hcomma =>
        cases key <;>
          simp +contextual [ElementAt, Separated, Token, hhead, failAhead, hcomma, hclose]

lemma some_literal_eq_ok {c n : Cursor} {key : Option String} :
    (some <$> literal) c = .ok key n ↔ ∃ name, key = some name ∧ literal c = .ok name n := by
  rw [map_eq_ok]
  exact exists_congr fun name => by rw [and_comm, eq_comm]

lemma nextMember_eq_ok {isFirst : Bool} {c n : Cursor} {key : Option String} :
    nextMember isFirst c = .ok key n ↔ MemberAt isFirst c key n := by
  rw [nextMember, peekToken_bind]
  generalize hhead : c.skipBlanks.rest.head? = head
  split
  · cases key <;> cases isFirst <;>
      simp +contextual [MemberAt, Separated, Token, hhead, failAhead]
  · cases key <;> cases isFirst <;>
      simp +contextual [MemberAt, Separated, Token, hhead, eq_comm]
  · next x hx =>
    have hclose : x ≠ '}' := fun heq => hx (heq ▸ rfl)
    cases isFirst with
    | true =>
      rw [if_pos rfl]
      split
      · next hquote =>
        rw [some_literal_eq_ok]
        cases key <;> simp +contextual [MemberAt, Separated, hhead, hquote, eq_comm]
      · next hquote =>
        cases key <;> simp +contextual [MemberAt, Separated, hhead, hclose, hquote, failAhead]
    | false =>
      rw [if_neg (by decide)]
      split
      · next hcomma =>
        subst hcomma
        rw [skip_bind, peekToken_bind]
        generalize hnext : (c.skipBlanks.drop 1).skipBlanks.rest.head? = next
        split
        · cases key <;> simp +contextual [MemberAt, Separated, Token, hhead, hnext, failAhead]
        · rw [some_literal_eq_ok]
          cases key <;> simp +contextual [MemberAt, Separated, Token, hhead, hnext]
        · cases key <;> simp +contextual [MemberAt, Separated, Token, hhead, hnext, failAhead]
        · next y hy _ =>
          have hquote : y ≠ '"' := fun heq => hy (heq ▸ rfl)
          cases key <;>
            simp +contextual [MemberAt, Separated, Token, hhead, hnext, hquote, failAhead]
      · next hcomma =>
        cases key <;>
          simp +contextual [MemberAt, Separated, Token, hhead, failAhead, hcomma, hclose]

lemma finds_nextElement : Finds nextElement ElementAt where
  iff := nextElement_eq_ok
  shortens := by
    intro isFirst c key n h
    cases key with
    | none => exact h.1 ▸ c.length_skipBlanks_le
    | some _ => exact h.1.length_le
  comma h := h.1.length_lt
  bracket := by
    rintro isFirst c n ⟨-, hhead⟩ hempty
    rw [hempty] at hhead
    cases hhead

lemma finds_nextMember : Finds nextMember MemberAt where
  iff := nextMember_eq_ok
  shortens := by
    intro isFirst c key n h
    cases key with
    | none => exact h.1 ▸ c.length_skipBlanks_le
    | some _ =>
      obtain ⟨m, hm, -, hname⟩ := h
      exact Nat.le_trans (shortens_literal m _ n hname) hm.length_le
  comma := by
    rintro c key n ⟨m, hm, -, hname⟩
    exact Nat.lt_of_le_of_lt (shortens_literal m _ n hname) hm.length_lt
  bracket := by
    rintro isFirst c n ⟨-, hhead⟩ hempty
    rw [hempty] at hhead
    cases hhead

end Reader

lemma ListOf.length_lt {G : Spelling α} {c n : Cursor} {items : List α} (h : ListOf G c items n)
    (hG : ∀ c a n, G c a n → n.rest.length ≤ c.rest.length) : n.rest.length < c.rest.length :=
  Enclosed.length_lt h fun _ _ hparts =>
    hparts.length_le Reader.finds_nextElement.shortens fun _ => hG

lemma Member.length_le {G : Spelling α} {c n : Cursor} {a : α} (h : Member G c a n)
    (hG : ∀ c a n, G c a n → n.rest.length ≤ c.rest.length) :
    n.rest.length ≤ c.rest.length := by
  obtain ⟨m, hcolon, hvalue⟩ := h
  exact Nat.le_trans (hG m a n hvalue) (Nat.le_of_lt hcolon.length_lt)

lemma ObjectOf.length_lt {G : String → Spelling α} {c n : Cursor} {members : List (String × α)}
    (h : ObjectOf G c members n)
    (hG : ∀ name c a n, G name c a n → n.rest.length ≤ c.rest.length) :
    n.rest.length < c.rest.length :=
  Enclosed.length_lt h fun _ _ hparts =>
    hparts.length_le Reader.finds_nextMember.shortens fun name _ _ _ hmember =>
      Member.length_le hmember (hG name)

lemma Spelled.length_le {levels : Nat} {c n : Cursor} {v : Value} (h : Spelled levels c v n) :
    n.rest.length ≤ c.rest.length := by
  have hscalar : ∀ {c n : Cursor} {v : Value}, Reader.scalar c.skipBlanks = .ok v n →
      n.rest.length ≤ c.rest.length := fun hv =>
    Nat.le_trans (Reader.shortens_scalar _ _ _ hv) (Cursor.length_skipBlanks_le _)
  induction levels generalizing c v n with
  | zero => exact hscalar h
  | succ levels ih =>
    rcases h with h | ⟨items, -, h⟩ | ⟨members, -, h⟩
    · exact hscalar h
    · exact Nat.le_of_lt (ListOf.length_lt h fun _ _ _ => ih)
    · exact Nat.le_of_lt (ObjectOf.length_lt h fun _ _ _ _ => ih)

namespace Reader

variable {κ φ σ : Type}

/-! ## Parts -/

/-- A reader goes from one place to another exactly where something is spelled between them, as long
as the bound on the number of parts exceeds the length of the text. -/
structure DescribedBy (rounds : Nat) (r : Reader α) (G : Spelling α) : Prop where
  /-- This is all that it reads. -/
  iff : ∀ {c a n}, c.rest.length < rounds → (r c = .ok a n ↔ G c a n)
  /-- It does not go back. -/
  shortens : ∀ {c a n}, G c a n → n.rest.length ≤ c.rest.length

/-- Parts are read one after the other if each of them is. -/
theorem many_eq_ok {next : Bool → Reader (Option κ)}
    {Next : Bool → Cursor → Option κ → Cursor → Prop} {step : σ → κ → Reader σ} {G : κ → Spelling φ}
    {put : σ → κ → φ → Option σ} {bound : Nat} (hnext : Finds next Next)
    (hstep : ∀ state key c state' n, c.rest.length < bound →
      (step state key c = .ok state' n ↔ ∃ x, G key c x n ∧ put state key x = some state'))
    (hG : ∀ key c x n, G key c x n → n.rest.length ≤ c.rest.length) {rounds : Nat}
    (hrounds : rounds ≤ bound) {isFirst : Bool} {state state' : σ} {c n : Cursor}
    (hc : c.rest.length + isFirst.toNat ≤ rounds) :
    many next step rounds isFirst state c = .ok state' n ↔
      ∃ parts, Sequence Next G isFirst c parts n ∧
        parts.foldlM (fun state part => put state part.1 part.2) state = some state' := by
  induction rounds generalizing isFirst state c with
  | zero =>
    cases isFirst with
    | true => exact absurd hc (Nat.not_lt_zero _)
    | false =>
      have hempty : c.rest.length = 0 := Nat.le_zero.1 hc
      refine iff_of_false (fun h => by cases h) ?_
      rintro ⟨parts, hparts, -⟩
      cases hparts with
      | nil hend =>
        have hle := hnext.shortens _ _ _ _ hend
        exact hnext.bracket hend (List.length_eq_zero_iff.1 (by omega))
      | cons hkey _ _ =>
        have hlt := hnext.comma hkey
        omega
  | succ rounds ih =>
    -- The part that follows leaves less of the text, or it is behind a comma, which has been read.
    have hlater : ∀ {key m x m'}, Next isFirst c (some key) m → G key m x m' →
        m'.rest.length + false.toNat ≤ rounds := by
      intro key m x m' hm hx
      refine Nat.le_trans (hG key m x m' hx) (Nat.le_of_lt_succ ?_)
      cases isFirst with
      | true => exact Nat.lt_of_le_of_lt (hnext.shortens _ _ _ _ hm) hc
      | false => exact Nat.lt_of_lt_of_le (hnext.comma hm) hc
    have hfits : ∀ {key m}, Next isFirst c (some key) m → m.rest.length < bound := by
      intro key m hm
      refine Nat.lt_of_lt_of_le ?_ hrounds
      cases isFirst with
      | true => exact Nat.lt_of_le_of_lt (hnext.shortens _ _ _ _ hm) hc
      | false => exact Nat.lt_of_lt_of_le (hnext.comma hm) hc
    rw [many, bind_eq_ok]
    constructor
    · rintro ⟨key, m, hm, h⟩
      rw [hnext.iff] at hm
      cases key with
      | none =>
        cases h
        exact ⟨[], .nil hm, rfl⟩
      | some key =>
        obtain ⟨state₁, m', hpart, h⟩ := bind_eq_ok.1 h
        have hbound := hfits hm
        obtain ⟨x, hx, hput⟩ := (hstep state key m state₁ m' hbound).1 hpart
        have hc' := hlater hm hx
        obtain ⟨parts, hparts, hfold⟩ := (ih (by omega) hc').1 h
        refine ⟨(key, x) :: parts, .cons hm hx hparts, ?_⟩
        rw [List.foldlM_cons, hput]
        exact hfold
    · rintro ⟨parts, hparts, hfold⟩
      cases hparts with
      | nil hend =>
        cases hfold
        exact ⟨none, n, hnext.iff.2 hend, rfl⟩
      | @cons _ _ m m' _ key x parts hm hx hparts =>
        rw [List.foldlM_cons] at hfold
        obtain ⟨state₁, hput, hfold⟩ := Option.bind_eq_some_iff.1 hfold
        have hpart := (hstep state key m state₁ m' (hfits hm)).2 ⟨x, hx, hput⟩
        have hrest := (ih (by omega) (hlater hm hx)).2 ⟨parts, hparts, hfold⟩
        exact ⟨some key, m, hnext.iff.2 hm, bind_eq_ok.2 ⟨state₁, m', hpart, hrest⟩⟩

/-- Where every part can be added to the state, all of them are added one after the other. -/
lemma many_eq_ok_foldl {next : Bool → Reader (Option κ)}
    {Next : Bool → Cursor → Option κ → Cursor → Prop} {step : σ → κ → Reader σ} {G : κ → Spelling φ}
    {add : σ → κ → φ → σ} {rounds : Nat} (hnext : Finds next Next)
    (hstep : ∀ state key c state' n, c.rest.length < rounds →
      (step state key c = .ok state' n ↔ ∃ x, G key c x n ∧ add state key x = state'))
    (hG : ∀ key c x n, G key c x n → n.rest.length ≤ c.rest.length) {isFirst : Bool}
    {state state' : σ} {c n : Cursor} (hc : c.rest.length < rounds) :
    many next step rounds isFirst state c = .ok state' n ↔
      ∃ parts, Sequence Next G isFirst c parts n ∧
        parts.foldl (fun state part => add state part.1 part.2) state = state' := by
  have hfits : c.rest.length + isFirst.toNat ≤ rounds :=
    Nat.le_trans (Nat.add_le_add_left (Bool.toNat_le isFirst) _) hc
  have hpart : ∀ state key c state' n, c.rest.length < rounds →
      (step state key c = .ok state' n ↔
        ∃ x, G key c x n ∧ some (add state key x) = some state') := by
    intro state key c state' n hc
    rw [hstep state key c state' n hc]
    simp only [Option.some.injEq]
  refine (many_eq_ok hnext hpart hG (Nat.le_refl rounds) hfits).trans ?_
  have hfold (parts : List (κ × φ)) :
      parts.foldlM (fun state part => some (add state part.1 part.2)) state =
        some (parts.foldl (fun state part => add state part.1 part.2) state) :=
    List.foldlM_pure
  simp only [hfold, Option.some.injEq]

/-! ## Brackets -/

lemma colon_eq_ok {c n : Cursor} {u : Unit} : colon c = .ok u n ↔ Token ':' c n := by
  rw [colon, peekToken_bind]
  generalize hhead : c.skipBlanks.rest.head? = head
  split
  · simp [Token, hhead, skip, eq_comm]
  · next x hx =>
    have hcolon : x ≠ ':' := fun heq => hx (heq ▸ rfl)
    simp [Token, hhead, hcolon, failAhead]
  · simp [Token, hhead, failAhead]

lemma leaveList_iff (m n : Cursor) :
    (leaveList m).trouble = none ∧ (leaveList m).stop = n ↔ Token ']' m n := by
  unfold leaveList Token
  generalize m.skipBlanks = here
  dsimp only
  split
  · next hrest => simp [hrest, eq_comm]
  · next hrest => simp [hrest]
  · next x rest hclose _ hrest =>
    have hx : x ≠ ']' := fun heq => hclose heq
    simp [hrest, hx]
  · next hrest => simp [hrest]

lemma leaveObject_iff (m n : Cursor) :
    (leaveObject m).trouble = none ∧ (leaveObject m).stop = n ↔ Token '}' m n := by
  unfold leaveObject Token
  generalize m.skipBlanks = here
  dsimp only
  split
  · next hrest => simp [hrest, eq_comm]
  · next hrest => simp [hrest]
  · next x rest hclose _ hrest =>
    have hx : x ≠ '}' := fun heq => hclose heq
    simp [hrest, hx]
  · next hrest => simp [hrest]

/-- What stands between brackets is read if its contents are. -/
lemma within_eq_ok {leave : Cursor → Leaving} {opening close : Char} {contents : Reader α}
    {P : α → Cursor → Cursor → Prop} {rounds : Nat} {c n : Cursor} {a : α}
    (hleave : ∀ m n, (leave m).trouble = none ∧ (leave m).stop = n ↔ Token close m n)
    (hcontents : ∀ {m a n}, m.rest.length < rounds → (contents m = .ok a n ↔ P a m n))
    (hc : c.rest.length < rounds) (hopening : c.skipBlanks.rest.head? = some opening) :
    within leave contents c.skipBlanks = .ok a n ↔ Enclosed opening close (P a) c n := by
  have hinner : Token opening c (c.skipBlanks.drop 1) := ⟨hopening, rfl⟩
  have hread : within leave contents c.skipBlanks = .ok a n ↔
      ∃ m, contents (c.skipBlanks.drop 1) = .ok a m ∧ Token close m n := by
    rw [within]
    cases contents (c.skipBlanks.drop 1) with
    | failed cause place => simp
    | refused cause stop => simp
    | ok b m =>
      simp only [← hleave]
      cases htrouble : (leave m).trouble with
      | none => simp [htrouble]
      | some trouble => simp [htrouble]
  rw [hread]
  constructor
  · rintro ⟨m, hm, hclose⟩
    exact ⟨_, m, hinner, (hcontents (Nat.lt_trans hinner.length_lt hc)).1 hm, hclose⟩
  · rintro ⟨_, m, ⟨-, rfl⟩, hm, hclose⟩
    exact ⟨m, (hcontents (Nat.lt_trans hinner.length_lt hc)).2 hm, hclose⟩

lemma within_map {β : Type} (leave : Cursor → Leaving) (g : α → β) (contents : Reader α) :
    within leave (g <$> contents) = g <$> within leave contents := by
  funext c
  show within leave (contents >>= fun a => pure (g a)) c =
    (within leave contents >>= fun a => pure (g a)) c
  rw [within, bind_apply, bind_apply, within]
  cases contents (c.drop 1) with
  | failed cause place => rfl
  | refused cause stop => rfl
  | ok a m =>
    dsimp only [pure_apply]
    split <;> rfl

/-! ## Lists and objects -/

variable {rounds : Nat} {G : Spelling α}

/-- Elements are read one after the other if each of them is, the last one being put first. -/
lemma many_items_eq_ok {item : Reader α} (hitem : DescribedBy rounds item G) {isFirst : Bool}
    {c n : Cursor} {read : List α} (hc : c.rest.length < rounds) :
    many nextElement (fun read _ => (· :: read) <$> item) rounds isFirst [] c = .ok read n ↔
      Sequence ElementAt (fun _ => G) isFirst c (read.reverse.map fun item => ((), item)) n := by
  have hstep : ∀ (read : List α) (key : Unit) c read' n, c.rest.length < rounds →
      (((· :: read) <$> item) c = .ok read' n ↔ ∃ x, G c x n ∧ x :: read = read') := by
    intro read key c read' n hc
    simp only [map_eq_ok, hitem.iff hc]
  have hfold (parts : List (Unit × α)) :
      (parts.foldl (fun read part => part.2 :: read) []).reverse = parts.map Prod.snd := by
    rw [List.foldl_flip_cons_eq_append, List.append_nil, List.reverse_reverse]
  rw [many_eq_ok_foldl finds_nextElement hstep (fun _ _ _ _ => hitem.shortens) hc]
  constructor
  · rintro ⟨parts, hparts, rfl⟩
    rw [hfold, List.map_map]
    exact (List.map_id parts).symm ▸ hparts
  · intro hparts
    refine ⟨_, hparts, List.reverse_injective ?_⟩
    rw [hfold, List.map_map]
    exact List.map_id _

/-- The elements of a list are read if each of them is. -/
lemma elements_eq_ok {item : Reader α} (hitem : DescribedBy rounds item G) {c n : Cursor}
    {items : List α} (hc : c.rest.length < rounds) :
    elements rounds item c = .ok items n ↔
      Sequence ElementAt (fun _ => G) true c (items.map fun item => ((), item)) n := by
  rw [elements, map_eq_ok]
  simp only [many_items_eq_ok hitem hc]
  constructor
  · rintro ⟨read, hparts, rfl⟩
    exact hparts
  · intro hparts
    refine ⟨items.reverse, ?_, List.reverse_reverse items⟩
    rwa [List.reverse_reverse]

lemma list_eq_ok {item : Reader α} (hitem : DescribedBy rounds item G) {c n : Cursor}
    {items : List α} (hc : c.rest.length < rounds) (hopening : c.skipBlanks.rest.head? = some '[') :
    within leaveList (elements rounds item) c.skipBlanks = .ok items n ↔ ListOf G c items n :=
  within_eq_ok leaveList_iff (elements_eq_ok hitem) hc hopening

/-- A member is read if the value behind its colon is. -/
lemma member_eq_ok {r : Reader α} (hr : DescribedBy rounds r G) {add : α → σ} {c n : Cursor}
    {state : σ} (hc : c.rest.length < rounds) :
    (do
      colon
      let a ← r
      pure (add a)) c = .ok state n ↔ ∃ a, Member G c a n ∧ add a = state := by
  simp only [bind_eq_ok, colon_eq_ok]
  constructor
  · rintro ⟨_, m, hcolon, a, _, ha, hadd⟩
    cases hadd
    exact ⟨a, ⟨m, hcolon, (hr.iff (Nat.lt_trans hcolon.length_lt hc)).1 ha⟩, rfl⟩
  · rintro ⟨a, ⟨m, hcolon, ha⟩, rfl⟩
    exact ⟨(), m, hcolon, a, n, (hr.iff (Nat.lt_trans hcolon.length_lt hc)).2 ha, rfl⟩

/-- The members of an object are read if each of them is. -/
lemma object_eq_ok {G : String → Spelling α} {step : σ → String → Reader σ}
    {add : σ → String → α → σ}
    (hstep : ∀ state name c state' n, c.rest.length < rounds →
      (step state name c = .ok state' n ↔ ∃ a, Member (G name) c a n ∧ add state name a = state'))
    (hG : ∀ name c a n, G name c a n → n.rest.length ≤ c.rest.length) {c n : Cursor}
    {state state' : σ} (hc : c.rest.length < rounds)
    (hopening : c.skipBlanks.rest.head? = some '{') :
    within leaveObject (members rounds step state) c.skipBlanks = .ok state' n ↔
      ∃ ms, ObjectOf G c ms n ∧ ms.foldl (fun state m => add state m.1 m.2) state = state' := by
  have hmembers {m : Cursor} {state' : σ} {n : Cursor} (hm : m.rest.length < rounds) :
      members rounds step state m = .ok state' n ↔
        ∃ ms, Sequence MemberAt (fun name => Member (G name)) true m ms n ∧
          ms.foldl (fun state m => add state m.1 m.2) state = state' :=
    many_eq_ok_foldl finds_nextMember hstep
      (fun name _ _ _ h => Member.length_le h (hG name)) hm
  exact (within_eq_ok leaveObject_iff hmembers hc hopening).trans Enclosed.exists_and

lemma scalar_ne_ok {c n : Cursor} {v : Value} {x : Char} (hhead : c.rest.head? = some x)
    (hx : x = '[' ∨ x = '{') : scalar c ≠ .ok v n := by
  rw [scalar, peek_bind, hhead]
  rcases hx with rfl | rfl <;> simp [failAhead]

/-! ## Values

The first character of a token tells which of the three it can be: a list, an object or a scalar. -/

section Tokens

variable {levels : Nat} {c n : Cursor} {v : Value}

lemma spelled_list_iff (hhead : c.skipBlanks.rest.head? = some '[') :
    Spelled (levels + 1) c v n ↔ ∃ items, v = .arr items ∧ ListOf (Spelled levels) c items n := by
  refine ⟨?_, fun h => .inr (.inl h)⟩
  rintro (h | h | ⟨members, -, h⟩)
  · exact absurd h (scalar_ne_ok hhead (.inl rfl))
  · exact h
  · cases hhead.symm.trans (Enclosed.head? h)

lemma spelled_object_iff (hhead : c.skipBlanks.rest.head? = some '{') :
    Spelled (levels + 1) c v n ↔
      ∃ members, v = .obj members ∧ ObjectOf (fun _ => Spelled levels) c members n := by
  refine ⟨?_, fun h => .inr (.inr h)⟩
  rintro (h | ⟨items, -, h⟩ | h)
  · exact absurd h (scalar_ne_ok hhead (.inr rfl))
  · cases hhead.symm.trans (Enclosed.head? h)
  · exact h

lemma spelled_scalar_iff (hlist : c.skipBlanks.rest.head? ≠ some '[')
    (hobject : c.skipBlanks.rest.head? ≠ some '{') :
    Spelled levels c v n ↔ scalar c.skipBlanks = .ok v n := by
  cases levels with
  | zero => exact Iff.rfl
  | succ levels =>
    refine ⟨?_, .inl⟩
    rintro (h | ⟨items, -, h⟩ | ⟨members, -, h⟩)
    · exact h
    · exact absurd (Enclosed.head? h) hlist
    · exact absurd (Enclosed.head? h) hobject

end Tokens

/-- The reader of values is described by how values are spelled. -/
theorem describedBy_value (rounds levels : Nat) :
    DescribedBy rounds (valueWithin rounds levels) (Spelled levels) := by
  refine ⟨?_, Spelled.length_le⟩
  induction levels with
  | zero =>
    intro c v n hc
    rw [valueWithin, peekToken_bind]
    generalize hhead : c.skipBlanks.rest.head? = head
    split
    · exact iff_of_false (fun h => by cases h) (scalar_ne_ok hhead (.inl rfl))
    · exact iff_of_false (fun h => by cases h) (scalar_ne_ok hhead (.inr rfl))
    · exact Iff.rfl
  | succ levels ih =>
    intro c v n hc
    have hvalue : DescribedBy rounds (valueWithin rounds levels) (Spelled levels) :=
      ⟨ih, Spelled.length_le⟩
    rw [valueWithin, peekToken_bind]
    generalize hhead : c.skipBlanks.rest.head? = head
    split
    · simp only [spelled_list_iff hhead, within_map, map_eq_ok, list_eq_ok hvalue hc hhead]
      exact exists_congr fun items => and_comm.trans (and_congr_left' eq_comm)
    · have hobject {read : List (String × Value)} :
          within leaveObject (members rounds (fun read name => do
            colon
            let v ← valueWithin rounds levels
            pure ((name, v) :: read)) []) c.skipBlanks = .ok read n ↔
          ∃ ms, ObjectOf (fun _ => Spelled levels) c ms n ∧
            ms.foldl (fun read m => (m.1, m.2) :: read) [] = read :=
        object_eq_ok (fun _ _ _ _ _ hc => member_eq_ok hvalue hc)
          (fun _ _ _ _ => Spelled.length_le) hc hhead
      have hread (ms : List (String × Value)) :
          (ms.foldl (fun read m => (m.1, m.2) :: read) []).reverse = ms := by
        rw [List.foldl_flip_cons_eq_append, List.append_nil, List.reverse_reverse]
        exact List.map_id ms
      simp only [spelled_object_iff hhead, within_map, map_eq_ok, hobject]
      constructor
      · rintro ⟨_, ⟨ms, hms, rfl⟩, rfl⟩
        exact ⟨ms, congrArg _ (hread ms), hms⟩
      · rintro ⟨ms, rfl, hms⟩
        exact ⟨_, ⟨ms, hms, rfl⟩, congrArg _ (hread ms)⟩
    · next hlist hobject =>
      exact (spelled_scalar_iff (hhead ▸ hlist) (hhead ▸ hobject)).symm

/-- A text is read as what it spells as a whole. -/
lemma DescribedBy.readText_eq_ok {r : Limits → Reader α} {G : Spelling α} {text : String} {a : α}
    (h : DescribedBy (text.length + 1) (r (Limits.of text)) G) :
    readText r text = .ok a ↔ WholeText G text a := by
  have hc : (Cursor.start text).rest.length < text.length + 1 := Nat.lt_succ_self _
  rw [readText, run, WholeText]
  cases hr : r (Limits.of text) (.start text) with
  | ok b m =>
    have hG := (h.iff hc).1 hr
    dsimp only
    split
    · next hempty =>
      constructor
      · intro h
        cases h
        exact ⟨m, hG, List.isEmpty_iff.1 hempty⟩
      · rintro ⟨n, ha, -⟩
        have heq := hr.symm.trans ((h.iff hc).2 ha)
        cases heq
        rfl
    · next hrest =>
      refine iff_of_false (fun h => by cases h) ?_
      rintro ⟨n, ha, hn⟩
      have heq := hr.symm.trans ((h.iff hc).2 ha)
      cases heq
      exact hrest (List.isEmpty_iff.2 hn)
  | failed cause place =>
    refine iff_of_false (fun h => by cases h) ?_
    rintro ⟨n, ha, -⟩
    cases hr.symm.trans ((h.iff hc).2 ha)
  | refused cause stop =>
    refine iff_of_false (fun h => by cases h) ?_
    rintro ⟨n, ha, -⟩
    cases hr.symm.trans ((h.iff hc).2 ha)

end Reader

/-! ## Two spellings at the same place -/

section Related

variable {κ φ ψ : Type} {Next : Bool → Cursor → Option κ → Cursor → Prop}

lemma Token.unique {x y : Char} {c n n' : Cursor} (h : Token x c n) (h' : Token y c n') :
    x = y ∧ n = n' := by
  obtain ⟨hx, rfl⟩ := h
  obtain ⟨hy, rfl⟩ := h'
  exact ⟨Option.some.inj (hx.symm.trans hy), rfl⟩

/-- At one place there is one separator. -/
lemma Reader.Finds.unique {next : Bool → Reader (Option κ)} (h : Reader.Finds next Next)
    {isFirst : Bool} {c n n' : Cursor} {key key' : Option κ} (hkey : Next isFirst c key n)
    (hkey' : Next isFirst c key' n') : key = key' ∧ n = n' := by
  have heq := (h.iff.2 hkey).symm.trans (h.iff.2 hkey')
  cases heq
  exact ⟨rfl, rfl⟩

/-- What is described by a reader is spelled in one way at most. -/
lemma Reader.DescribedBy.unique {r : Nat → Reader α} {G : Spelling α}
    (h : ∀ rounds, Reader.DescribedBy rounds (r rounds) G) {c n n' : Cursor} {a a' : α}
    (ha : G c a n) (ha' : G c a' n') : a = a' ∧ n = n' := by
  have hr := h (c.rest.length + 1)
  have heq := ((hr.iff (Nat.lt_succ_self _)).2 ha).symm.trans
    ((hr.iff (Nat.lt_succ_self _)).2 ha')
  cases heq
  exact ⟨rfl, rfl⟩

/-- Two sequences of parts at the same place have the same keys, and their parts are related if this
is so for two parts with the same key at the same place. -/
lemma Sequence.related {G : κ → Spelling φ} {G' : κ → Spelling ψ} {R : φ → ψ → Prop}
    {next : Bool → Reader (Option κ)} (hnext : Reader.Finds next Next)
    (hG : ∀ key c x n y n', G key c x n → G' key c y n' → R x y ∧ n = n') {isFirst : Bool}
    {c n n' : Cursor} {parts : List (κ × φ)} {parts' : List (κ × ψ)}
    (h : Sequence Next G isFirst c parts n) (h' : Sequence Next G' isFirst c parts' n') :
    List.Forall₂ (fun p q => p.1 = q.1 ∧ R p.2 q.2) parts parts' ∧ n = n' := by
  induction h generalizing parts' n' with
  | nil hend =>
    cases h' with
    | nil hend' => exact ⟨.nil, (hnext.unique hend hend').2⟩
    | cons hkey' _ _ => cases (hnext.unique hend hkey').1
  | cons hkey hx _ ih =>
    cases h' with
    | nil hend' => cases (hnext.unique hkey hend').1
    | cons hkey' hy hparts' =>
      obtain ⟨heq, rfl⟩ := hnext.unique hkey hkey'
      obtain rfl := Option.some.inj heq
      obtain ⟨hxy, rfl⟩ := hG _ _ _ _ _ _ hx hy
      obtain ⟨hrest, rfl⟩ := ih hparts'
      exact ⟨.cons ⟨rfl, hxy⟩ hrest, rfl⟩

lemma map_fst_eq_of_forall₂ {P : κ × φ → κ × ψ → Prop} {ps : List (κ × φ)} {qs : List (κ × ψ)}
    (h : List.Forall₂ (fun p q => p.1 = q.1 ∧ P p q) ps qs) :
    ps.map Prod.fst = qs.map Prod.fst := by
  induction h with
  | nil => rfl
  | cons hpart _ ih => rw [List.map_cons, List.map_cons, hpart.1, ih]

/-- Each part of a sequence may be replaced by one that is spelled in the same way. -/
lemma Sequence.transfer {G : κ → Spelling φ} {G' : κ → Spelling ψ} {isFirst : Bool} {c n : Cursor}
    {parts : List (κ × φ)} {parts' : List (κ × ψ)} (h : Sequence Next G isFirst c parts n)
    (hparts : List.Forall₂ (fun p q => p.1 = q.1 ∧ ∀ c n, G p.1 c p.2 n → G' q.1 c q.2 n)
      parts parts') :
    Sequence Next G' isFirst c parts' n := by
  induction h generalizing parts' with
  | nil hend =>
    cases hparts
    exact .nil hend
  | cons hkey hx _ ih =>
    obtain _ | ⟨⟨rfl, hpart⟩, hrest⟩ := hparts
    exact .cons hkey (hpart _ _ hx) (ih hrest)

/-- If what is spelled comes of something else that is spelled there, so do the parts of a
sequence. -/
lemma Sequence.exists_related {G : κ → Spelling φ} {G' : κ → Spelling ψ} {R : φ → ψ → Prop}
    (hG : ∀ key c y n, G' key c y n → ∃ x, G key c x n ∧ R x y) {isFirst : Bool} {c n : Cursor}
    {parts' : List (κ × ψ)} (h : Sequence Next G' isFirst c parts' n) :
    ∃ parts, Sequence Next G isFirst c parts n ∧
      List.Forall₂ (fun p q => p.1 = q.1 ∧ R p.2 q.2) parts parts' := by
  induction h with
  | nil hend => exact ⟨[], .nil hend, .nil⟩
  | cons hkey hy _ ih =>
    obtain ⟨x, hx, hxy⟩ := hG _ _ _ _ hy
    obtain ⟨rest, hrest, hrelated⟩ := ih
    exact ⟨_, .cons hkey hx hrest, .cons ⟨rfl, hxy⟩ hrelated⟩

lemma Enclosed.imp {opening close : Char} {P Q : Cursor → Cursor → Prop} {c n : Cursor}
    (h : Enclosed opening close P c n) (hPQ : ∀ m m', P m m' → Q m m') :
    Enclosed opening close Q c n := by
  obtain ⟨m, m', hopening, hm, hclose⟩ := h
  exact ⟨m, m', hopening, hPQ m m' hm, hclose⟩

lemma Enclosed.related {opening close : Char} {P Q : Cursor → Cursor → Prop} {R : Prop}
    {c n n' : Cursor} (h : Enclosed opening close P c n) (h' : Enclosed opening close Q c n')
    (hPQ : ∀ m m₁ m₂, P m m₁ → Q m m₂ → R ∧ m₁ = m₂) : R ∧ n = n' := by
  obtain ⟨m, m₁, hopening, hm, hclose⟩ := h
  obtain ⟨m', m₂, hopening', hm', hclose'⟩ := h'
  obtain ⟨-, rfl⟩ := hopening.unique hopening'
  obtain ⟨hR, rfl⟩ := hPQ m m₁ m₂ hm hm'
  exact ⟨hR, (hclose.unique hclose').2⟩

lemma ListOf.transfer {G : Spelling φ} {G' : Spelling ψ} {c n : Cursor} {xs : List φ} {ys : List ψ}
    (h : ListOf G c xs n)
    (hxy : List.Forall₂ (fun x y => ∀ c n, G c x n → G' c y n) xs ys) : ListOf G' c ys n := by
  refine Enclosed.imp h fun m m' hparts => hparts.transfer ?_
  rw [List.forall₂_map_left_iff, List.forall₂_map_right_iff]
  exact hxy.imp fun x y h => ⟨rfl, h⟩

lemma ListOf.mono {G G' : Spelling φ} {c n : Cursor} {xs : List φ} (h : ListOf G c xs n)
    (hG : ∀ x ∈ xs, ∀ c n, G c x n → G' c x n) : ListOf G' c xs n :=
  ListOf.transfer h (List.forall₂_same.2 hG)

lemma ObjectOf.transfer {G : String → Spelling φ} {G' : String → Spelling ψ} {c n : Cursor}
    {ms : List (String × φ)} {ms' : List (String × ψ)} (h : ObjectOf G c ms n)
    (hms : List.Forall₂ (fun p q => p.1 = q.1 ∧ ∀ c n, G p.1 c p.2 n → G' q.1 c q.2 n) ms ms') :
    ObjectOf G' c ms' n := by
  refine Enclosed.imp h fun m m' hparts => hparts.transfer (hms.imp fun p q h => ⟨h.1, ?_⟩)
  rintro c n ⟨m, hcolon, hvalue⟩
  exact ⟨m, hcolon, h.2 m n hvalue⟩

lemma ObjectOf.mono {G G' : String → Spelling φ} {c n : Cursor} {ms : List (String × φ)}
    (h : ObjectOf G c ms n) (hG : ∀ m ∈ ms, ∀ c n, G m.1 c m.2 n → G' m.1 c m.2 n) :
    ObjectOf G' c ms n :=
  ObjectOf.transfer h (List.forall₂_same.2 fun m hm => ⟨rfl, hG m hm⟩)

lemma ObjectOf.exists_related {G : String → Spelling φ} {G' : String → Spelling ψ}
    {R : φ → ψ → Prop} (hG : ∀ name c y n, G' name c y n → ∃ x, G name c x n ∧ R x y)
    {c n : Cursor} {ms' : List (String × ψ)} (h : ObjectOf G' c ms' n) :
    ∃ ms, ObjectOf G c ms n ∧ List.Forall₂ (fun p q => p.1 = q.1 ∧ R p.2 q.2) ms ms' := by
  obtain ⟨m, m', hopening, hparts, hclose⟩ := h
  have hmember : ∀ name c y n, Member (G' name) c y n → ∃ x, Member (G name) c x n ∧ R x y := by
    rintro name c y n ⟨m, hcolon, hy⟩
    obtain ⟨x, hx, hxy⟩ := hG name m y n hy
    exact ⟨x, ⟨m, hcolon, hx⟩, hxy⟩
  obtain ⟨ms, hms, hrelated⟩ := hparts.exists_related hmember
  exact ⟨ms, ⟨m, m', hopening, hms, hclose⟩, hrelated⟩

lemma ObjectOf.related {G : String → Spelling φ} {G' : String → Spelling ψ} {R : φ → ψ → Prop}
    (hG : ∀ name c x n y n', G name c x n → G' name c y n' → R x y ∧ n = n') {c n n' : Cursor}
    {ms : List (String × φ)} {ms' : List (String × ψ)} (h : ObjectOf G c ms n)
    (h' : ObjectOf G' c ms' n') :
    List.Forall₂ (fun p q => p.1 = q.1 ∧ R p.2 q.2) ms ms' ∧ n = n' := by
  refine Enclosed.related h h' fun _ _ _ hparts hparts' =>
    Sequence.related Reader.finds_nextMember ?_ hparts hparts'
  rintro name c x n y n' ⟨m, hcolon, hx⟩ ⟨m', hcolon', hy⟩
  obtain ⟨-, rfl⟩ := hcolon.unique hcolon'
  exact hG name m x n y n' hx hy

end Related

/-! ## Values within limits -/

/-- A value is spelled within every limit that it keeps. -/
lemma Spelled.of_nesting_le {levels limit : Nat} {c n : Cursor} {v : Value}
    (h : Spelled levels c v n) (hlimit : v.nesting ≤ limit) : Spelled limit c v n := by
  induction levels generalizing limit c v n with
  | zero =>
    cases limit with
    | zero => exact h
    | succ limit => exact .inl h
  | succ levels ih =>
    rcases h with h | ⟨items, rfl, h⟩ | ⟨members, rfl, h⟩
    · cases limit with
      | zero => exact h
      | succ limit => exact .inl h
    · obtain ⟨limit, rfl⟩ := Nat.exists_eq_add_of_le' (Nat.le_of_add_left_le hlimit)
      have hitems := Value.nestingItems_le.1 (Nat.le_of_succ_le_succ hlimit)
      exact .inr (.inl ⟨items, rfl, ListOf.mono h fun v hv _ _ hv' => ih hv' (hitems v hv)⟩)
    · obtain ⟨limit, rfl⟩ := Nat.exists_eq_add_of_le' (Nat.le_of_add_left_le hlimit)
      have hmembers := Value.nestingMembers_le.1 (Nat.le_of_succ_le_succ hlimit)
      exact .inr (.inr ⟨members, rfl, ObjectOf.mono h fun m hm _ _ hm' => ih hm' (hmembers m hm)⟩)

lemma Spelled.nesting_le {levels : Nat} {c n : Cursor} {v : Value} (h : Spelled levels c v n) :
    v.nesting ≤ levels :=
  Reader.yields_valueWithin (c.rest.length + 1) levels c v n
    (((Reader.describedBy_value _ levels).iff (Nat.lt_succ_self _)).2 h)

lemma Spelled.unique {levels levels' : Nat} {c n n' : Cursor} {v v' : Value}
    (h : Spelled levels c v n) (h' : Spelled levels' c v' n') : v = v' ∧ n = n' := by
  have hle : v.nesting ≤ max levels levels' := Nat.le_trans h.nesting_le (Nat.le_max_left _ _)
  have hle' : v'.nesting ≤ max levels levels' := Nat.le_trans h'.nesting_le (Nat.le_max_right _ _)
  exact Reader.DescribedBy.unique (fun rounds => Reader.describedBy_value rounds _)
    (h.of_nesting_le hle) (h'.of_nesting_le hle')

end Abnf.Json
