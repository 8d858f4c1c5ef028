import Mathlib.Data.List.Nodup
import Abnf.Grammar.Decode
import Abnf.Proofs.Json.Passed

/-!
# How records are spelled

A record is spelled as an object, whose members may stand in any order and of which some may mean
nothing, or as a list of what its fields hold (`RecordOf`).
-/

namespace Abnf.Json

open Reader

/-! ## Texts and lists -/

/-- A text. -/
def TextAt : Spelling String := fun c s n => scalar c.skipBlanks = .ok (.str s) n

section Readers

variable {α σ φ : Type} {rounds levels : Nat} {c n : Cursor}

/-- Where no list and no object makes sense, a scalar is read. -/
lemma scalarAs_eq_ok {decode : Value → Except Cause α} {a : α}
    (hlist : decode (.arr []) ≠ .ok a) (hobject : decode (.obj []) ≠ .ok a) :
    scalarAs decode c = .ok a n ↔ ∃ v, scalar c.skipBlanks = .ok v n ∧ decode v = .ok a := by
  have hhere {v : Value} {c : Cursor} :
      ofExceptHere (decode v) c = .ok a n ↔ decode v = .ok a ∧ n = c := by
    cases decode v with
    | error cause =>
      constructor
      · intro h
        cases h
      · rintro ⟨h, -⟩
        cases h
    | ok b =>
      constructor
      · intro h
        cases h
        exact ⟨rfl, rfl⟩
      · rintro ⟨h, rfl⟩
        exact congrArg (Outcome.ok · n) (Except.ok.inj h)
  rw [scalarAs, peekToken_bind]
  generalize hhead : c.skipBlanks.rest.head? = head
  split
  · refine iff_of_false (fun h => hlist (hhere.1 h).1) ?_
    rintro ⟨v, hv, -⟩
    exact scalar_ne_ok hhead (.inl rfl) hv
  · refine iff_of_false (fun h => hobject (hhere.1 h).1) ?_
    rintro ⟨v, hv, -⟩
    exact scalar_ne_ok hhead (.inr rfl) hv
  · rw [bind_eq_ok]
    constructor
    · rintro ⟨v, m, hv, h⟩
      obtain ⟨hdecode, rfl⟩ := hhere.1 h
      exact ⟨v, hv, hdecode⟩
    · rintro ⟨v, hv, hdecode⟩
      exact ⟨v, n, hv, hhere.2 ⟨hdecode, rfl⟩⟩

lemma Value.asText_eq_ok {v : Value} {s : String} : v.asText = .ok s ↔ v = .str s := by
  cases v <;> simp [Value.asText]

lemma describedBy_text (rounds : Nat) : DescribedBy rounds text TextAt where
  iff _ := by
    rw [text, scalarAs_eq_ok (by rintro ⟨⟩) (by rintro ⟨⟩)]
    simp only [Value.asText_eq_ok]
    constructor
    · rintro ⟨_, h, rfl⟩
      exact h
    · intro h
      exact ⟨_, h, rfl⟩
  shortens h := Nat.le_trans (shortens_scalar _ _ _ h) (Cursor.length_skipBlanks_le _)

lemma spelled_str_iff {s : String} : Spelled levels c (.str s) n ↔ TextAt c s n := by
  cases levels with
  | zero => exact Iff.rfl
  | succ levels =>
    refine ⟨?_, .inl⟩
    rintro (h | ⟨_, h, -⟩ | ⟨_, h, -⟩)
    · exact h
    · cases h
    · cases h

lemma spelled_arr_iff {items : List Value} :
    Spelled (levels + 1) c (.arr items) n ↔ ListOf (Spelled levels) c items n := by
  refine ⟨?_, fun h => .inr (.inl ⟨items, rfl, h⟩)⟩
  rintro (h | ⟨_, h, hitems⟩ | ⟨_, h, -⟩)
  · cases yields_scalar _ _ _ h
  · cases h
    exact hitems
  · cases h

lemma spelled_obj_iff {members : List (String × Value)} :
    Spelled (levels + 1) c (.obj members) n ↔ ObjectOf (fun _ => Spelled levels) c members n := by
  refine ⟨?_, fun h => .inr (.inr ⟨members, rfl, h⟩)⟩
  rintro (h | ⟨_, h, -⟩ | ⟨_, h, hmembers⟩)
  · cases yields_scalar _ _ _ h
  · cases h
  · cases h
    exact hmembers

/-- What is asked for is neither a list nor an object. -/
lemma scalarAs_error_ne_ok {decode : Value → Except Cause α} (hdecode : ∀ v a, decode v ≠ .ok a)
    {a : α} : scalarAs decode c ≠ .ok a n := by
  rw [ne_eq, scalarAs_eq_ok (hdecode _ a) (hdecode _ a)]
  rintro ⟨v, -, h⟩
  exact hdecode v a h

lemma describedBy_listOf {item : Limits → Reader α} {G : Spelling α}
    (hitem : DescribedBy rounds (item ⟨levels, rounds⟩) G) :
    DescribedBy rounds (listOf item ⟨levels + 1, rounds⟩) (ListOf G) where
  iff {c a n} hc := by
    rw [listOf, peekToken_bind]
    have hbracket (h : ListOf G c a n) := Enclosed.head? h
    generalize hhead : c.skipBlanks.rest.head? = head at hbracket
    split
    · exact list_eq_ok hitem hc hhead
    · next hlist =>
      refine iff_of_false (scalarAs_error_ne_ok fun v a => ?_) fun h => hlist (hbracket h)
      rintro ⟨⟩
  shortens h := Nat.le_of_lt (ListOf.length_lt h fun _ _ _ => hitem.shortens)

/-! ## Dictionaries -/

/-- The dictionary of some entries.  A repeated key keeps its place and takes the last value. -/
def collect (entries : List (String × α)) : Dict α :=
  entries.foldl (fun d e => d.insert e.1 e.2) Dict.empty

lemma describedBy_dict {item : Limits → Reader α} {G : Spelling α}
    (hitem : DescribedBy rounds (item ⟨levels, rounds⟩) G) :
    DescribedBy rounds (Dict.read item ⟨levels + 1, rounds⟩) fun c d n =>
      ∃ entries, ObjectOf (fun _ => G) c entries n ∧ collect entries = d where
  iff {c d n} hc := by
    rw [Dict.read, peekToken_bind]
    have hbrace {entries : List (String × α)} (h : ObjectOf (fun _ => G) c entries n) :=
      Enclosed.head? h
    generalize hhead : c.skipBlanks.rest.head? = head at hbrace
    split
    · exact object_eq_ok (fun _ _ _ _ _ hc => member_eq_ok hitem hc)
        (fun _ _ _ _ => hitem.shortens) hc hhead
    · next hobject =>
      refine iff_of_false (scalarAs_error_ne_ok fun v a => ?_) fun ⟨entries, h, _⟩ =>
        hobject (hbrace h)
      rintro ⟨⟩
  shortens := fun ⟨_, h, _⟩ => Nat.le_of_lt (ObjectOf.length_lt h fun _ _ _ _ => hitem.shortens)

/-! ## Records -/

/-- What the fields of a record hold, in their declared order and one after the other.  Fields at
the end may be left out if they are optional. -/
inductive FieldsOf (G : String → Spelling φ) :
    Bool → List (Field σ) → Cursor → List (String × φ) → Cursor → Prop where
  /-- No field is left. -/
  | nil {isFirst : Bool} {c : Cursor} : FieldsOf G isFirst [] c [] c
  /-- The fields that are left are absent. -/
  | absent {isFirst : Bool} {field : Field σ} {fields : List (Field σ)} {c n : Cursor}
      (hend : ElementAt isFirst c none n)
      (hoptional : ∀ other ∈ field :: fields, other.optional = true) :
      FieldsOf G isFirst (field :: fields) c [] n
  /-- A field is followed by others. -/
  | cons {isFirst : Bool} {field : Field σ} {fields : List (Field σ)} {c m m' n : Cursor} {x : φ}
      {parts : List (String × φ)} (hnext : ElementAt isFirst c (some ()) m)
      (hfield : G field.name m x m') (hfields : FieldsOf G false fields m' parts n) :
      FieldsOf G isFirst (field :: fields) c ((field.name, x) :: parts) n

/-- The names of fields that occur among the names of parts. -/
def fieldNames (fields : List (Field σ)) (parts : List (String × φ)) : List String :=
  (parts.map Prod.fst).filter (· ∈ fields.map Field.name)

/-- A record, whose parts are spelled as their names demand: an object whose members stand in any
order, the fields of the record among them at most once each, or a list of what the fields hold. -/
def RecordOf (fields : List (Field σ)) (G : String → Spelling φ) : Spelling (List (String × φ)) :=
  fun c parts n =>
    (ObjectOf G c parts n ∧ (fieldNames fields parts).Nodup) ∨
      Enclosed '[' ']' (fun m m' => FieldsOf G true fields m parts m') c n

lemma FieldsOf.length_le {G : String → Spelling φ} {isFirst : Bool} {fields : List (Field σ)}
    {parts : List (String × φ)}
    (hG : ∀ name c x n, G name c x n → n.rest.length ≤ c.rest.length)
    (h : FieldsOf G isFirst fields c parts n) : n.rest.length ≤ c.rest.length := by
  induction h with
  | nil => exact Nat.le_refl _
  | absent hend _ => exact finds_nextElement.shortens _ _ _ _ hend
  | cons hnext hx _ ih =>
    exact Nat.le_trans ih (Nat.le_trans (hG _ _ _ _ hx) (finds_nextElement.shortens _ _ _ _ hnext))

/-- How the parts of a record are spelled, and how each of them changes the state. -/
structure Record.Puts (layout : Record σ α) (limits : Limits) (G : String → Spelling φ)
    (put : σ → String → φ → σ) : Prop where
  /-- A field is read as it is spelled. -/
  field : ∀ field ∈ layout.fields, ∀ state c state' n, c.rest.length < limits.rounds →
    (field.read limits state c = .ok state' n ↔
      ∃ x, G field.name c x n ∧ put state field.name x = state')
  /-- Other parts are passed over. -/
  other : ∀ name ∉ layout.fields.map Field.name, ∃ unknown,
    (∀ c x n, G name c x n ↔ x = unknown ∧ Passed c () n) ∧
      ∀ state, put state name unknown = state
  /-- No part goes back. -/
  shortens : ∀ name c x n, G name c x n → n.rest.length ≤ c.rest.length
  /-- A field is set just when it has been put. -/
  isSet : ∀ field ∈ layout.fields, ∀ state name c x n, G name c x n →
    field.isSet (put state name x) = (field.name == name || field.isSet state)
  /-- At first no field is set. -/
  unset : ∀ field ∈ layout.fields, field.isSet layout.empty = false
  /-- The fields have different names. -/
  distinct : (layout.fields.map Field.name).Nodup

namespace Record.Puts

variable {layout : Record σ α} {G : String → Spelling φ} {put : σ → String → φ → σ}

lemma elementAt_end {isFirst : Bool} (h : ElementAt isFirst c none n) :
    ElementAt false n none n := by
  obtain ⟨rfl, hhead⟩ := h
  exact ⟨c.skipBlanks_skipBlanks.symm, hhead⟩

/-- Before the closing bracket the fields that are left are absent. -/
lemma recordElements_at_end {title : String} {limits : Limits} {fields : List (Field σ)}
    {done : Nat} {state state' : σ} (hc : ElementAt false c none c) :
    recordElements title limits (done + 1) fields state c = .ok state' n ↔
      (∀ field ∈ fields, field.optional = true) ∧ state = state' ∧ c = n := by
  induction fields generalizing done with
  | nil =>
    rw [recordElements, pure_apply, Outcome.ok.injEq]
    exact ⟨fun h => ⟨fun _ hmem => absurd hmem List.not_mem_nil, h⟩, And.right⟩
  | cons field fields ih =>
    have hnext : nextElement (done + 1 == 0) c = .ok none c :=
      nextElement_eq_ok.2 (show ElementAt (done + 1 == 0) c none c by
        rwa [beq_eq_false_iff_ne.2 (Nat.succ_ne_zero done)])
    rw [recordElements, bind_apply, hnext]
    dsimp only
    split
    · next hoptional => rw [ih, List.forall_mem_cons, and_iff_right hoptional]
    · next hoptional =>
      refine iff_of_false (fun h => by cases h) fun h => hoptional (h.1 field List.mem_cons_self)

/-- A list of what the fields hold is read field by field. -/
lemma recordElements_eq_ok (h : layout.Puts ⟨levels, rounds⟩ G put) {title : String} {done : Nat}
    {fields : List (Field σ)} (hfields : fields ⊆ layout.fields) {state state' : σ}
    (hc : c.rest.length < rounds) :
    recordElements title ⟨levels, rounds⟩ done fields state c = .ok state' n ↔
      ∃ parts, FieldsOf G (done == 0) fields c parts n ∧
        parts.foldl (fun state part => put state part.1 part.2) state = state' := by
  induction fields generalizing done state c with
  | nil =>
    rw [recordElements, pure_apply, Outcome.ok.injEq]
    constructor
    · rintro ⟨rfl, rfl⟩
      exact ⟨[], .nil, rfl⟩
    · rintro ⟨parts, hparts, hfold⟩
      cases hparts
      exact ⟨hfold, rfl⟩
  | cons field fields ih =>
    obtain ⟨hfield, hfields⟩ := List.cons_subset.1 hfields
    have hlater : (done + 1 == 0) = false := beq_eq_false_iff_ne.2 (Nat.succ_ne_zero done)
    rw [recordElements, bind_eq_ok]
    constructor
    · rintro ⟨key, m, hm, hread⟩
      rw [nextElement_eq_ok] at hm
      cases key with
      | none =>
        dsimp only at hread
        split at hread
        · next hoptional =>
          obtain ⟨hrest, rfl, rfl⟩ := (recordElements_at_end (elementAt_end hm)).1 hread
          exact ⟨[], .absent hm (List.forall_mem_cons.2 ⟨hoptional, hrest⟩), rfl⟩
        · cases hread
      | some _ =>
        obtain ⟨state₁, m', hm', hread⟩ := bind_eq_ok.1 hread
        have hmlt := Nat.lt_of_le_of_lt (finds_nextElement.shortens _ _ _ _ hm) hc
        obtain ⟨x, hx, rfl⟩ := (h.field field hfield state m state₁ m' hmlt).1 hm'
        have hmlt' := Nat.lt_of_le_of_lt (h.shortens _ _ _ _ hx) hmlt
        obtain ⟨parts, hparts, hfold⟩ := (ih hfields hmlt').1 hread
        rw [hlater] at hparts
        exact ⟨_, .cons hm hx hparts, hfold⟩
    · rintro ⟨parts, hparts, hfold⟩
      cases hparts with
      | absent hnext hoptional =>
        obtain ⟨hfirst, hrest⟩ := List.forall_mem_cons.1 hoptional
        refine ⟨none, n, nextElement_eq_ok.2 hnext, ?_⟩
        dsimp only
        rw [if_pos hfirst]
        exact (recordElements_at_end (elementAt_end hnext)).2 ⟨hrest, hfold, rfl⟩
      | @cons _ _ _ _ m m' _ x parts hnext hx hparts =>
        have hmlt := Nat.lt_of_le_of_lt (finds_nextElement.shortens _ _ _ _ hnext) hc
        have hmlt' := Nat.lt_of_le_of_lt (h.shortens _ _ _ _ hx) hmlt
        rw [← hlater] at hparts
        exact ⟨some (), m, nextElement_eq_ok.2 hnext, bind_eq_ok.2 ⟨_, m',
          (h.field field hfield state m _ m' hmlt).2 ⟨x, hx, rfl⟩,
          (ih hfields hmlt').2 ⟨parts, hparts, hfold⟩⟩⟩

/-- Whether the state already has the field of a certain name. -/
def taken (fields : List (Field σ)) (state : σ) (name : String) : Bool :=
  fields.any fun field => field.name == name && field.isSet state

lemma taken_eq_true_iff {fields : List (Field σ)} {state : σ} {name : String} :
    taken fields state name = true ↔
      ∃ field ∈ fields, field.name = name ∧ field.isSet state = true := by
  simp [taken]

/-- A member of a record's object is put into the state, unless it is a field that is set. -/
lemma recordMember_eq_ok (h : layout.Puts ⟨levels, rounds⟩ G put) (state : σ) (name : String)
    (c : Cursor) (state' : σ) (n : Cursor) (hc : c.rest.length < rounds) :
    recordMember layout.fields ⟨levels, rounds⟩ state name c = .ok state' n ↔
      ∃ x, Member (G name) c x n ∧
        (if taken layout.fields state name then none else some (put state name x)) =
          some state' := by
  cases hfind : layout.fields.find? (·.name == name) with
  | none =>
    have hother : ∀ field ∈ layout.fields, field.name ≠ name := by
      simpa using List.find?_eq_none.1 hfind
    have hname : name ∉ layout.fields.map Field.name := by simpa using hother
    have hfree : ¬ taken layout.fields state name = true := by
      rw [taken_eq_true_iff]
      exact fun ⟨field, hfield, heq, _⟩ => hother field hfield heq
    have hread : recordMember layout.fields ⟨levels, rounds⟩ state name =
        (do
          colon
          pass ⟨levels, rounds⟩
          pure state) := by
      rw [recordMember, hfind]
    rw [hread]
    obtain ⟨unknown, hunknown, hput⟩ := h.other name hname
    have hpassed {m : Cursor} (hm : Token ':' c m) :
        pass ⟨levels, rounds⟩ m = .ok () n ↔ Passed m () n :=
      (describedBy_pass levels rounds).iff (Nat.lt_trans hm.length_lt hc)
    simp only [if_neg hfree, bind_eq_ok, colon_eq_ok, Option.some.injEq]
    constructor
    · rintro ⟨_, m, hcolon, _, _, hpass, hstate⟩
      cases hstate
      have hspelled := (hunknown m unknown n).2 ⟨rfl, (hpassed hcolon).1 hpass⟩
      exact ⟨unknown, ⟨m, hcolon, hspelled⟩, hput state⟩
    · rintro ⟨x, ⟨m, hcolon, hx⟩, rfl⟩
      obtain ⟨rfl, hx⟩ := (hunknown m x n).1 hx
      refine ⟨(), m, hcolon, (), n, (hpassed hcolon).2 hx, ?_⟩
      rw [hput state]
      rfl
  | some field =>
    obtain rfl : field.name = name := by simpa using List.find?_some hfind
    have hfield := List.mem_of_find?_eq_some hfind
    have htaken : taken layout.fields state field.name = true ↔ field.isSet state = true := by
      rw [taken_eq_true_iff]
      refine ⟨fun ⟨other, hother, hname, hset⟩ => ?_, fun hset => ⟨field, hfield, rfl, hset⟩⟩
      obtain rfl := List.inj_on_of_nodup_map h.distinct hother hfield hname
      exact hset
    by_cases hset : field.isSet state = true
    · have hread : recordMember layout.fields ⟨levels, rounds⟩ state field.name =
          refuse (.duplicateField field.name) := by
        rw [recordMember, hfind]
        exact if_pos hset
      rw [hread]
      simp only [if_pos (htaken.2 hset)]
      refine iff_of_false (fun h => by cases h) ?_
      rintro ⟨x, -, h⟩
      cases h
    · have hread : recordMember layout.fields ⟨levels, rounds⟩ state field.name =
          (do
            colon
            field.read ⟨levels, rounds⟩ state) := by
        rw [recordMember, hfind]
        exact if_neg hset
      rw [hread]
      have hfree : ¬ taken layout.fields state field.name = true := fun h => hset (htaken.1 h)
      simp only [if_neg hfree, bind_eq_ok, colon_eq_ok, Option.some.injEq]
      constructor
      · rintro ⟨_, m, hcolon, hm⟩
        have hmlt := Nat.lt_trans hcolon.length_lt hc
        obtain ⟨x, hx, hput⟩ := (h.field field hfield state m state' n hmlt).1 hm
        exact ⟨x, ⟨m, hcolon, hx⟩, hput⟩
      · rintro ⟨x, ⟨m, hcolon, hx⟩, hput⟩
        have hmlt := Nat.lt_trans hcolon.length_lt hc
        exact ⟨(), m, hcolon, (h.field field hfield state m state' n hmlt).2 ⟨x, hx, hput⟩⟩

/-- Parts are put one after the other if none of them is a field that is set already. -/
lemma foldlM_put (h : layout.Puts ⟨levels, rounds⟩ G put) {parts : List (String × φ)}
    (hparts : ∀ part ∈ parts, ∃ c n, G part.1 c part.2 n) {state state' : σ} :
    parts.foldlM (fun state part =>
        if taken layout.fields state part.1 then none else some (put state part.1 part.2)) state =
          some state' ↔
      (∀ field ∈ layout.fields, field.isSet state = true → field.name ∉ parts.map Prod.fst) ∧
        (fieldNames layout.fields parts).Nodup ∧
        parts.foldl (fun state part => put state part.1 part.2) state = state' := by
  induction parts generalizing state with
  | nil => simp [fieldNames]
  | cons part parts ih =>
    obtain ⟨⟨c, n, hpart⟩, hparts⟩ := List.forall_mem_cons.1 hparts
    rw [List.foldlM_cons]
    by_cases htaken : taken layout.fields state part.1 = true
    · rw [if_pos htaken]
      refine iff_of_false (fun h => by cases h) fun hset => ?_
      obtain ⟨field, hfield, hname, hisSet⟩ := taken_eq_true_iff.1 htaken
      exact hset.1 field hfield hisSet (hname ▸ List.mem_cons_self)
    · rw [if_neg htaken]
      refine (ih hparts).trans ?_
      have hisSet : ∀ field ∈ layout.fields, field.isSet (put state part.1 part.2) = true ↔
          field.name = part.1 ∨ field.isSet state = true := fun field hfield => by
        rw [h.isSet field hfield state part.1 c part.2 n hpart, Bool.or_eq_true, beq_iff_eq]
      have hnames : (fieldNames layout.fields (part :: parts)).Nodup ↔
          (part.1 ∈ layout.fields.map Field.name → part.1 ∉ parts.map Prod.fst) ∧
            (fieldNames layout.fields parts).Nodup := by
        rw [fieldNames, List.map_cons, List.filter_cons]
        by_cases hname : part.1 ∈ layout.fields.map Field.name
        · rw [if_pos (decide_eq_true hname), List.nodup_cons, List.mem_filter]
          simp only [hname, decide_true, and_true, forall_const]
          exact Iff.rfl
        · rw [if_neg (by simpa using hname)]
          exact ⟨fun h => ⟨fun hmem => absurd hmem hname, h⟩, And.right⟩
      rw [hnames]
      simp only [List.map_cons, List.mem_cons, not_or]
      constructor
      · rintro ⟨hset, hnodup, hfold⟩
        refine ⟨fun field hfield hstate => ⟨fun heq => ?_, ?_⟩, ⟨fun hname => ?_, hnodup⟩, hfold⟩
        · exact htaken (taken_eq_true_iff.2 ⟨field, hfield, heq, hstate⟩)
        · exact hset field hfield ((hisSet field hfield).2 (.inr hstate))
        · obtain ⟨field, hfield, heq⟩ := List.mem_map.1 hname
          exact heq ▸ hset field hfield ((hisSet field hfield).2 (.inl heq))
      · rintro ⟨hset, ⟨hname, hnodup⟩, hfold⟩
        refine ⟨fun field hfield hput => ?_, hnodup, hfold⟩
        rcases (hisSet field hfield).1 hput with heq | hstate
        · exact heq ▸ hname (heq ▸ List.mem_map_of_mem hfield)
        · exact (hset field hfield hstate).2

/-- The members of a record's object are read in turn, and make up the record in the end. -/
lemma object_contents_eq_ok (h : layout.Puts ⟨levels, rounds⟩ G put) {a : α}
    (hc : c.rest.length < rounds) :
    (do
      let state ← members rounds (recordMember layout.fields ⟨levels, rounds⟩) layout.empty
      ofExcept (layout.finish state)) c = .ok a n ↔
      ∃ parts, Sequence MemberAt (fun name => Member (G name)) true c parts n ∧
        (fieldNames layout.fields parts).Nodup ∧
        layout.finish (parts.foldl (fun state part => put state part.1 part.2) layout.empty) =
          .ok a := by
  have hmany {state : σ} {m : Cursor} :
      members rounds (recordMember layout.fields ⟨levels, rounds⟩) layout.empty c = .ok state m ↔
        ∃ parts, Sequence MemberAt (fun name => Member (G name)) true c parts m ∧
          parts.foldlM (fun state part =>
            if taken layout.fields state part.1 then none
            else some (put state part.1 part.2)) layout.empty = some state := by
    have hfits : c.rest.length + true.toNat ≤ rounds := hc
    have hlength : ∀ name c x n, Member (G name) c x n → n.rest.length ≤ c.rest.length :=
      fun name _ _ _ hpart => Member.length_le hpart (h.shortens name)
    exact many_eq_ok finds_nextMember h.recordMember_eq_ok hlength (Nat.le_refl rounds) hfits
  have hempty : ∀ parts : List (String × φ), ∀ field ∈ layout.fields,
      field.isSet layout.empty = true → field.name ∉ parts.map Prod.fst := by
    intro parts field hfield hset
    rw [h.unset field hfield] at hset
    cases hset
  have hspelled {parts : List (String × φ)} {m : Cursor}
      (hparts : Sequence MemberAt (fun name => Member (G name)) true c parts m) :
      ∀ part ∈ parts, ∃ c n, G part.1 c part.2 n := fun part hpart => by
    obtain ⟨_, n, m, -, hG⟩ := hparts.exists_of_mem hpart
    exact ⟨m, n, hG⟩
  simp only [bind_eq_ok, ofExcept_eq_ok, hmany]
  constructor
  · rintro ⟨state, m, ⟨parts, hparts, hfold⟩, hfinish, rfl⟩
    obtain ⟨-, hnodup, rfl⟩ := (h.foldlM_put (hspelled hparts)).1 hfold
    exact ⟨parts, hparts, hnodup, hfinish⟩
  · rintro ⟨parts, hparts, hnodup, hfinish⟩
    have hfold := (h.foldlM_put (hspelled hparts)).2 ⟨hempty parts, hnodup, rfl⟩
    exact ⟨_, n, ⟨parts, hparts, hfold⟩, hfinish, rfl⟩

/-- The elements of a record's list are read in turn, and make up the record in the end. -/
lemma list_contents_eq_ok (h : layout.Puts ⟨levels, rounds⟩ G put) {a : α}
    (hc : c.rest.length < rounds) :
    (do
      let state ← recordElements layout.title ⟨levels, rounds⟩ 0 layout.fields layout.empty
      ofExcept (layout.finish state)) c = .ok a n ↔
      ∃ parts, FieldsOf G true layout.fields c parts n ∧
        layout.finish (parts.foldl (fun state part => put state part.1 part.2) layout.empty) =
          .ok a := by
  simp only [bind_eq_ok, ofExcept_eq_ok, h.recordElements_eq_ok (List.Subset.refl _) hc]
  constructor
  · rintro ⟨_, m, ⟨parts, hparts, rfl⟩, hfinish, rfl⟩
    exact ⟨parts, hparts, hfinish⟩
  · rintro ⟨parts, hparts, hfinish⟩
    exact ⟨_, n, ⟨parts, hparts, rfl⟩, hfinish, rfl⟩

lemma length_lt (h : layout.Puts ⟨levels, rounds⟩ G put) {parts : List (String × φ)}
    (hparts : RecordOf layout.fields G c parts n) : n.rest.length < c.rest.length := by
  rcases hparts with ⟨hparts, -⟩ | hparts
  · exact ObjectOf.length_lt hparts h.shortens
  · exact Enclosed.length_lt hparts fun _ _ => FieldsOf.length_le h.shortens

/-- A record is read as it is spelled. -/
theorem describedBy_record (h : layout.Puts ⟨levels, rounds⟩ G put) :
    DescribedBy rounds (record layout ⟨levels + 1, rounds⟩) fun c a n =>
      ∃ parts, RecordOf layout.fields G c parts n ∧
        layout.finish (parts.foldl (fun state part => put state part.1 part.2) layout.empty) =
          .ok a where
  iff {c a n} hc := by
    rw [record, peekToken_bind]
    have hbrace {parts} (h : ObjectOf G c parts n) := Enclosed.head? h
    have hbracket {parts}
        (h : Enclosed '[' ']' (fun m m' => FieldsOf G true layout.fields m parts m') c n) :=
      Enclosed.head? h
    generalize hhead : c.skipBlanks.rest.head? = head at hbrace hbracket
    split
    · refine (within_eq_ok leaveObject_iff h.object_contents_eq_ok hc hhead).trans
        (Enclosed.exists_and.trans (exists_congr fun parts => ?_))
      constructor
      · rintro ⟨hparts, hnodup, hfinish⟩
        exact ⟨.inl ⟨hparts, hnodup⟩, hfinish⟩
      · rintro ⟨⟨hparts, hnodup⟩ | hparts, hfinish⟩
        · exact ⟨hparts, hnodup, hfinish⟩
        · cases hbracket hparts
    · refine (within_eq_ok leaveList_iff h.list_contents_eq_ok hc hhead).trans
        (Enclosed.exists_and.trans (exists_congr fun parts => ?_))
      constructor
      · rintro ⟨hparts, hfinish⟩
        exact ⟨.inr hparts, hfinish⟩
      · rintro ⟨⟨hparts, -⟩ | hparts, hfinish⟩
        · cases hbrace hparts
        · exact ⟨hparts, hfinish⟩
    · next hobject hlist =>
      refine iff_of_false (scalarAs_error_ne_ok fun v a => ?_) ?_
      · rintro ⟨⟩
      · rintro ⟨parts, ⟨hparts, -⟩ | hparts, -⟩
        · exact hobject (hbrace hparts)
        · exact hlist (hbracket hparts)
  shortens := fun ⟨_, hparts, _⟩ => Nat.le_of_lt (h.length_lt hparts)

end Record.Puts

/-! ## The parts of a record -/

lemma FieldsOf.exists_of_mem {G : String → Spelling φ} {isFirst : Bool} {fields : List (Field σ)}
    {parts : List (String × φ)} (h : FieldsOf G isFirst fields c parts n) {part : String × φ}
    (hpart : part ∈ parts) : ∃ m m', G part.1 m part.2 m' := by
  induction h with
  | nil => cases hpart
  | absent _ _ => cases hpart
  | @cons _ _ _ _ m m' _ _ _ _ hx _ ih =>
    rcases List.mem_cons.1 hpart with rfl | hpart
    · exact ⟨m, m', hx⟩
    · exact ih hpart

/-- Each part of a record is spelled somewhere as its name demands. -/
lemma RecordOf.exists_of_mem {G : String → Spelling φ} {fields : List (Field σ)}
    {parts : List (String × φ)} (h : RecordOf fields G c parts n) {part : String × φ}
    (hpart : part ∈ parts) : ∃ m m', G part.1 m part.2 m' := by
  rcases h with ⟨⟨_, _, -, h, -⟩, -⟩ | ⟨_, _, -, h, -⟩
  · obtain ⟨_, _, m, -, hx⟩ := h.exists_of_mem hpart
    exact ⟨m, _, hx⟩
  · exact h.exists_of_mem hpart

lemma FieldsOf.map_fst_prefix {G : String → Spelling φ} {isFirst : Bool} {fields : List (Field σ)}
    {parts : List (String × φ)} (h : FieldsOf G isFirst fields c parts n) :
    parts.map Prod.fst <+: fields.map Field.name := by
  induction h with
  | nil => exact List.nil_prefix
  | absent _ _ => exact List.nil_prefix
  | cons _ _ _ ih => exact List.cons_prefix_cons.2 ⟨rfl, ih⟩

/-- No field of a record occurs twice among its parts. -/
lemma RecordOf.nodup {G : String → Spelling φ} {fields : List (Field σ)}
    {parts : List (String × φ)} (h : RecordOf fields G c parts n)
    (hdistinct : (fields.map Field.name).Nodup) : (fieldNames fields parts).Nodup := by
  rcases h with ⟨-, hnodup⟩ | ⟨_, _, -, h, -⟩
  · exact hnodup
  · exact (hdistinct.sublist h.map_fst_prefix.sublist).filter _

/-! ## Two records at the same place -/

variable {ψ : Type} {G : String → Spelling φ} {G' : String → Spelling ψ} {fields : List (Field σ)}

lemma FieldsOf.transfer {isFirst : Bool} {parts : List (String × φ)} {parts' : List (String × ψ)}
    (h : FieldsOf G isFirst fields c parts n)
    (hparts : List.Forall₂ (fun p q => p.1 = q.1 ∧ ∀ c n, G p.1 c p.2 n → G' q.1 c q.2 n)
      parts parts') :
    FieldsOf G' isFirst fields c parts' n := by
  induction h generalizing parts' with
  | nil =>
    cases hparts
    exact .nil
  | absent hend hoptional =>
    cases hparts
    exact .absent hend hoptional
  | cons hnext hx _ ih =>
    obtain _ | @⟨_, ⟨name, y⟩, _, _, ⟨hname, hpart⟩, hrest⟩ := hparts
    obtain rfl : _ = name := hname
    exact .cons hnext (hpart _ _ hx) (ih hrest)

lemma FieldsOf.related {R : φ → ψ → Prop}
    (hG : ∀ name c x n y n', G name c x n → G' name c y n' → R x y ∧ n = n') {isFirst : Bool}
    {n' : Cursor} {parts : List (String × φ)} {parts' : List (String × ψ)}
    (h : FieldsOf G isFirst fields c parts n) (h' : FieldsOf G' isFirst fields c parts' n') :
    List.Forall₂ (fun p q => p.1 = q.1 ∧ R p.2 q.2) parts parts' ∧ n = n' := by
  induction h generalizing parts' n' with
  | nil =>
    cases h'
    exact ⟨.nil, rfl⟩
  | absent hend _ =>
    cases h' with
    | absent hend' _ => exact ⟨.nil, (finds_nextElement.unique hend hend').2⟩
    | cons hnext' _ _ => cases (finds_nextElement.unique hend hnext').1
  | cons hnext hx _ ih =>
    cases h' with
    | absent hend' _ => cases (finds_nextElement.unique hnext hend').1
    | cons hnext' hy hparts' =>
      obtain ⟨-, rfl⟩ := finds_nextElement.unique hnext hnext'
      obtain ⟨hxy, rfl⟩ := hG _ _ _ _ _ _ hx hy
      obtain ⟨hrest, rfl⟩ := ih hparts'
      exact ⟨.cons ⟨rfl, hxy⟩ hrest, rfl⟩

lemma FieldsOf.exists_related {R : φ → ψ → Prop}
    (hG : ∀ name c y n, G' name c y n → ∃ x, G name c x n ∧ R x y) {isFirst : Bool}
    {parts' : List (String × ψ)} (h : FieldsOf G' isFirst fields c parts' n) :
    ∃ parts, FieldsOf G isFirst fields c parts n ∧
      List.Forall₂ (fun p q => p.1 = q.1 ∧ R p.2 q.2) parts parts' := by
  induction h with
  | nil => exact ⟨[], .nil, .nil⟩
  | absent hend hoptional => exact ⟨[], .absent hend hoptional, .nil⟩
  | cons hnext hy _ ih =>
    obtain ⟨x, hx, hxy⟩ := hG _ _ _ _ hy
    obtain ⟨rest, hrest, hrelated⟩ := ih
    exact ⟨_, .cons hnext hx hrest, .cons ⟨rfl, hxy⟩ hrelated⟩

/-- If what is spelled comes of something else that is spelled there, so do the parts of a
record. -/
lemma RecordOf.exists_related {R : φ → ψ → Prop}
    (hG : ∀ name c y n, G' name c y n → ∃ x, G name c x n ∧ R x y) {parts' : List (String × ψ)}
    (h : RecordOf fields G' c parts' n) :
    ∃ parts, RecordOf fields G c parts n ∧
      List.Forall₂ (fun p q => p.1 = q.1 ∧ R p.2 q.2) parts parts' := by
  rcases h with ⟨h, hnodup⟩ | ⟨m, m', hopening, h, hclose⟩
  · obtain ⟨parts, hparts, hrelated⟩ := ObjectOf.exists_related hG h
    have hnames : fieldNames fields parts = fieldNames fields parts' := by
      rw [fieldNames, fieldNames, map_fst_eq_of_forall₂ hrelated]
    exact ⟨parts, .inl ⟨hparts, hnames ▸ hnodup⟩, hrelated⟩
  · obtain ⟨parts, hparts, hrelated⟩ := h.exists_related hG
    exact ⟨parts, .inr ⟨m, m', hopening, hparts, hclose⟩, hrelated⟩

/-- Each part of a record may be replaced by one that is spelled in the same way. -/
lemma RecordOf.transfer {parts : List (String × φ)} {parts' : List (String × ψ)}
    (h : RecordOf fields G c parts n)
    (hparts : List.Forall₂ (fun p q => p.1 = q.1 ∧ ∀ c n, G p.1 c p.2 n → G' q.1 c q.2 n)
      parts parts') :
    RecordOf fields G' c parts' n := by
  have hnames : fieldNames fields parts = fieldNames fields parts' := by
    rw [fieldNames, fieldNames, map_fst_eq_of_forall₂ hparts]
  rcases h with ⟨h, hnodup⟩ | h
  · exact .inl ⟨ObjectOf.transfer h hparts, hnames ▸ hnodup⟩
  · exact .inr (Enclosed.imp h fun _ _ h => h.transfer hparts)

/-- Two records at the same place have the same names, and their parts are related if this is so for
two parts of the same name at the same place. -/
lemma RecordOf.related {R : φ → ψ → Prop}
    (hG : ∀ name c x n y n', G name c x n → G' name c y n' → R x y ∧ n = n') {n' : Cursor}
    {parts : List (String × φ)} {parts' : List (String × ψ)} (h : RecordOf fields G c parts n)
    (h' : RecordOf fields G' c parts' n') :
    List.Forall₂ (fun p q => p.1 = q.1 ∧ R p.2 q.2) parts parts' ∧ n = n' := by
  rcases h with ⟨h, -⟩ | h <;> rcases h' with ⟨h', -⟩ | h'
  · exact ObjectOf.related hG h h'
  · have hbrace := Enclosed.head? h
    rw [Enclosed.head? h'] at hbrace
    cases hbrace
  · have hbrace := Enclosed.head? h'
    rw [Enclosed.head? h] at hbrace
    cases hbrace
  · exact Enclosed.related h h' fun _ _ _ h h' => h.related hG h'

end Readers

end Abnf.Json
