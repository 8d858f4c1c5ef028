import Abnf.Proofs.Json.Records
import Abnf.Proofs.Respelling

/-!
# How nodes are spelled

A node is read by way of the value that is spelled in its place: the value has to be the node, and
to give its kind by name (`Node.SpelledAs`).  The reader keeps the members of an object until the
kind is known (`Node.readMembers_eq_ok`) and the elements of a list behind the name of the kind
(`Node.readItems_eq_ok`).
-/

namespace Abnf

open Json

namespace Node

variable {kind : Kind} {members : List (String × Value)} {node : Node}

/-! ## Reading a node -/

lemma ofName_eq_ok {α : Type} {choice : Choice α} {name : String} {a : α} :
    choice.ofName name = .ok a ↔ choice.get? name = some a := by
  rw [Choice.ofName]
  cases choice.get? name <;> simp

lemma ofIdentifier_eq_ok {α : Type} {choice : Choice α} {v : Value} {a : α} :
    choice.ofIdentifier v = .ok a ↔ ∃ name, v = .str name ∧ choice.get? name = some a := by
  cases v <;> simp [Choice.ofIdentifier, ofName_eq_ok]

/-- What is known after one more member: the kind and the other members, the last one first. -/
def gather (state : Option Kind × List (String × Value)) (m : String × Value) :
    Option (Option Kind × List (String × Value)) :=
  if m.1 = tagKey then
    match state.1, m.2 with
    | none, .str name => (Kind.named.get? name).map fun kind => (some kind, state.2)
    | _, _ => none
  else some (state.1, m :: state.2)

variable {rounds levels : Nat} {c n : Cursor}

/-- The name of a kind is read as it is spelled. -/
lemma scalarAs_kind_eq_ok : Reader.scalarAs Kind.named.ofIdentifier c = .ok kind n ↔
    ∃ name, TextAt c name n ∧ Kind.named.get? name = some kind := by
  rw [scalarAs_eq_ok (by rintro ⟨⟩) (by rintro ⟨⟩)]
  simp only [ofIdentifier_eq_ok]
  constructor
  · rintro ⟨_, hv, name, rfl, hname⟩
    exact ⟨name, hv, hname⟩
  · rintro ⟨name, hv, hname⟩
    exact ⟨_, hv, name, rfl, hname⟩

lemma readMember_eq_ok (state : Option Kind × List (String × Value)) (name : String) (c : Cursor)
    (state' : Option Kind × List (String × Value)) (n : Cursor) (hc : c.rest.length < rounds) :
    readMember ⟨levels, rounds⟩ state name c = .ok state' n ↔
      ∃ v, Member (Spelled levels) c v n ∧ gather state (name, v) = some state' := by
  rw [readMember]
  split
  · next htag =>
    obtain ⟨found, read⟩ := state
    cases found with
    | some _ =>
      refine iff_of_false (fun h => by cases h) ?_
      rintro ⟨v, -, h⟩
      simp [gather, htag] at h
    | none =>
      show (do
        Reader.colon
        let kind ← Reader.scalarAs Kind.named.ofIdentifier
        pure (some kind, read) : Reader _) c = _ ↔ _
      simp only [Reader.bind_eq_ok, Reader.colon_eq_ok, scalarAs_kind_eq_ok]
      constructor
      · rintro ⟨_, m, hcolon, kind, _, ⟨s, hs, hkind⟩, hstate⟩
        cases hstate
        exact ⟨.str s, ⟨m, hcolon, spelled_str_iff.2 hs⟩, by simp [gather, htag, hkind]⟩
      · rintro ⟨v, ⟨m, hcolon, hv⟩, hstate⟩
        rw [gather, if_pos htag] at hstate
        cases v with
        | str s =>
          obtain ⟨kind, hkind, rfl⟩ := Option.map_eq_some_iff.1 hstate
          exact ⟨(), m, hcolon, kind, n, ⟨s, spelled_str_iff.1 hv, hkind⟩, rfl⟩
        | _ => cases hstate
  · next htag =>
    refine (Reader.member_eq_ok (Reader.describedBy_value rounds levels) hc).trans ?_
    simp [gather, htag]

/-- In the end the members give a kind, and what is left are those that do not. -/
lemma foldlM_gather {found : Option Kind} {read read' : List (String × Value)} :
    members.foldlM gather (found, read) = some (some kind, read') ↔
      kindOfMembers found members = .ok kind ∧ Named (.obj members) ∧
        (members.filter (·.1 ≠ tagKey)).reverse ++ read = read' := by
  induction members generalizing found read with
  | nil =>
    have hnamed : Named (.obj []) := by rintro m ⟨⟩
    cases found <;> simp [kindOfMembers, hnamed]
  | cons m rest ih =>
    obtain ⟨name, v⟩ := m
    rw [List.foldlM_cons, gather]
    by_cases htag : name = tagKey
    · subst htag
      rw [kindOfMembers, if_pos rfl, if_pos rfl, List.filter_cons_of_neg (by simp)]
      -- A kind cannot be given twice, and only a name can be read as one.
      cases found with
      | some _ => exact iff_of_false (fun h => by cases h) fun h => by cases h.1
      | none =>
        cases v with
        | str name =>
          have hnamed : Named (.obj ((tagKey, .str name) :: rest)) ↔ Named (.obj rest) := by
            simp [Named]
          rw [hnamed]
          show ((Kind.named.get? name).map fun kind => (some kind, read)) >>= _ = _ ↔
            Kind.named.ofName name >>= _ = _ ∧ _
          rw [Choice.ofName]
          cases Kind.named.get? name with
          | none => exact iff_of_false (fun h => by cases h) fun h => by cases h.1
          | some kind => exact ih
        | _ =>
          refine iff_of_false (fun h => by cases h) fun h => ?_
          obtain ⟨name, hname⟩ := h.2.1 _ List.mem_cons_self rfl
          cases hname
    · rw [named_cons htag, kindOfMembers, if_neg htag, if_neg htag]
      refine ih.trans ?_
      rw [List.filter_cons_of_pos (by simpa using htag), List.reverse_cons, List.append_assoc]
      rfl

/-- The members of a node are read if they give its kind by its name. -/
lemma readMembers_eq_ok {read : List (String × Value)} (hc : c.rest.length < rounds) :
    readMembers ⟨levels, rounds⟩ c = .ok (kind, read) n ↔
      ∃ members, Sequence MemberAt (fun _ => Member (Spelled levels)) true c members n ∧
        kindOfMembers none members = .ok kind ∧ Named (.obj members) ∧
          members.filter (·.1 ≠ tagKey) = read := by
  have hmany {state : Option Kind × List (String × Value)} {m : Cursor} :
      Reader.members rounds (readMember ⟨levels, rounds⟩) (none, []) c = .ok state m ↔
        ∃ members, Sequence MemberAt (fun _ => Member (Spelled levels)) true c members m ∧
          members.foldlM gather (none, []) = some state :=
    Reader.many_eq_ok Reader.finds_nextMember readMember_eq_ok
      (fun _ _ _ _ hm => Member.length_le hm fun _ _ _ => Spelled.length_le) (Nat.le_refl rounds) hc
  rw [readMembers, Reader.bind_eq_ok]
  simp only [hmany]
  constructor
  · rintro ⟨⟨found, read'⟩, m, ⟨members, hmembers, hfold⟩, h⟩
    cases found with
    | none => cases h
    | some other =>
      cases h
      obtain ⟨hkind, hnamed, rfl⟩ := foldlM_gather.1 hfold
      exact ⟨members, hmembers, hkind, hnamed, by simp⟩
  · rintro ⟨members, hmembers, hkind, hnamed, rfl⟩
    exact ⟨_, n, ⟨members, hmembers, foldlM_gather.2 ⟨hkind, hnamed, rfl⟩⟩, by simp⟩

/-- The elements of a node that is written as a list are read if the first one names its kind. -/
lemma readItems_eq_ok {items : List Value} (hc : c.rest.length < rounds) :
    readItems ⟨levels, rounds⟩ c = .ok (kind, items) n ↔
      ∃ name, Sequence ElementAt (fun _ => Spelled levels) true c
          ((.str name :: items).map fun v => ((), v)) n ∧ Kind.named.get? name = some kind := by
  have hitems {m n : Cursor} {read : List Value} (hm : m.rest.length < rounds) :
      Reader.many Reader.nextElement (fun read _ => (· :: read) <$> Reader.value ⟨levels, rounds⟩)
          rounds false [] m = .ok read n ↔ _ :=
    Reader.many_items_eq_ok (Reader.describedBy_value rounds levels) hm
  have hlater {m m' : Cursor} {name : String} (hm : ElementAt true c (some ()) m)
      (hname : TextAt m name m') : m'.rest.length < rounds :=
    Nat.lt_of_le_of_lt ((describedBy_text rounds).shortens hname)
      (Nat.lt_of_le_of_lt (Reader.finds_nextElement.shortens _ _ _ _ hm) hc)
  rw [readItems, Reader.bind_eq_ok]
  simp only [Reader.nextElement_eq_ok]
  constructor
  · rintro ⟨key, m, hm, h⟩
    cases key with
    | none => cases h
    | some _ =>
      obtain ⟨other, m', hkind, h⟩ := Reader.bind_eq_ok.1 h
      obtain ⟨read, m'', hread, h⟩ := Reader.bind_eq_ok.1 h
      cases h
      obtain ⟨name, hname, hget⟩ := scalarAs_kind_eq_ok.1 hkind
      exact ⟨name, .cons hm (spelled_str_iff.2 hname) ((hitems (hlater hm hname)).1 hread), hget⟩
  · rintro ⟨name, hparts, hget⟩
    obtain _ | ⟨hm, hname, hrest⟩ := hparts
    rw [spelled_str_iff] at hname
    rw [← List.reverse_reverse items] at hrest
    have hread := (hitems (hlater hm hname)).2 hrest
    refine ⟨some (), _, hm, Reader.bind_eq_ok.2 ⟨kind, _, scalarAs_kind_eq_ok.2 ⟨name, hname, hget⟩,
      Reader.bind_eq_ok.2 ⟨_, n, hread, ?_⟩⟩⟩
    rw [List.reverse_reverse]
    rfl

/-- The member that gives the kind is not a field. -/
lemma foldlM_filter_tag (kind : Kind) (members : List (String × Value)) (parts : Parts) :
    (members.filter (·.1 ≠ tagKey)).foldlM (addMember kind) parts =
      members.foldlM (addMember kind) parts := by
  induction members generalizing parts with
  | nil => rfl
  | cons m rest ih =>
    by_cases htag : m.1 = tagKey
    · have hskip : addMember kind parts m = .ok parts :=
        addMember_of_not_mem (htag ▸ lookup_eq_none.1 (lookup_tagKey kind))
      rw [List.filter_cons_of_neg (by simpa using htag), List.foldlM_cons, hskip]
      exact ih parts
    · rw [List.filter_cons_of_pos (by simpa using htag), List.foldlM_cons, List.foldlM_cons]
      exact congrArg _ (funext ih)

/-- An object is read as the node that its members make up. -/
lemma object_eq_ok (hc : c.rest.length < rounds) (hhead : c.skipBlanks.rest.head? = some '{') :
    (do
      let (kind, members) ← Reader.object ⟨levels + 1, rounds⟩ readMembers
      Reader.ofExcept (partsOfMembers kind members {} >>= kind.assemble)) c.skipBlanks =
        .ok node n ↔
      ∃ members, ObjectOf (fun _ => Spelled levels) c members n ∧ Named (.obj members) ∧
        ofValue (.obj members) = .ok node := by
  have hobject {kind : Kind} {read : List (String × Value)} {m : Cursor} :
      Reader.object ⟨levels + 1, rounds⟩ readMembers c.skipBlanks = .ok (kind, read) m ↔
        ∃ members, ObjectOf (fun _ => Spelled levels) c members m ∧
          kindOfMembers none members = .ok kind ∧ Named (.obj members) ∧
            members.filter (·.1 ≠ tagKey) = read :=
    (Reader.within_eq_ok Reader.leaveObject_iff
      (fun hm => readMembers_eq_ok hm) hc hhead).trans
        Enclosed.exists_and
  simp only [Reader.bind_eq_ok, Prod.exists, hobject, Reader.ofExcept_eq_ok, partsOfMembers_eq]
  constructor
  · rintro ⟨kind, _, m, ⟨members, hmembers, hkind, hnamed, rfl⟩, hnode, rfl⟩
    rw [foldlM_filter_tag, Except.bind_eq_ok] at hnode
    exact ⟨members, hmembers, hnamed, (ofValue_obj_of_kind hkind).2 hnode⟩
  · rintro ⟨members, hmembers, hnamed, hnode⟩
    obtain ⟨kind, hkind, hparts⟩ := ofValue_obj_eq_ok.1 hnode
    refine ⟨kind, _, n, ⟨members, hmembers, kindOfMembers_eq_ok.2 hkind, hnamed, rfl⟩, ?_, rfl⟩
    rw [foldlM_filter_tag, Except.bind_eq_ok]
    exact hparts

/-- A list is read as the node that its elements make up. -/
lemma list_eq_ok (hc : c.rest.length < rounds) (hhead : c.skipBlanks.rest.head? = some '[') :
    (do
      let (kind, items) ← Reader.list ⟨levels + 1, rounds⟩ readItems
      Reader.ofExcept (partsOfItems kind 0 kind.fields items {} >>= kind.assemble)) c.skipBlanks =
        .ok node n ↔
      ∃ items, ListOf (Spelled levels) c items n ∧ Named (.arr items) ∧
        ofValue (.arr items) = .ok node := by
  have hlist {kind : Kind} {items : List Value} {m : Cursor} :
      Reader.list ⟨levels + 1, rounds⟩ readItems c.skipBlanks = .ok (kind, items) m ↔
        ∃ name, ListOf (Spelled levels) c (.str name :: items) m ∧
          Kind.named.get? name = some kind :=
    (Reader.within_eq_ok Reader.leaveList_iff (fun hm => readItems_eq_ok hm) hc hhead).trans
      Enclosed.exists_and
  have hkind {name : String} {kind : Kind} :
      Kind.ofValue (.str name) = .ok kind ↔ Kind.named.get? name = some kind := ofName_eq_ok
  simp only [Reader.bind_eq_ok, Prod.exists, hlist, Reader.ofExcept_eq_ok, Except.bind_eq_ok]
  constructor
  · rintro ⟨kind, items, m, ⟨name, hitems, hname⟩, hnode, rfl⟩
    exact ⟨_, hitems, ⟨name, rfl⟩, ofValue_arr_eq_ok.2 ⟨kind, hkind.2 hname, hnode⟩⟩
  · rintro ⟨items, hitems, hnamed, hnode⟩
    cases items with
    | nil => cases hnode
    | cons tag items =>
      obtain ⟨name, rfl⟩ := hnamed
      obtain ⟨kind, hname, hnode⟩ := ofValue_arr_eq_ok.1 hnode
      exact ⟨kind, items, n, ⟨name, hitems, hkind.1 hname⟩, hnode, rfl⟩

/-- How a node is spelled: as a value that is the node, in which the kind is given by its name. -/
def SpelledAs (levels : Nat) : Spelling Node := fun c node n =>
  ∃ v, Spelled levels c v n ∧ Named v ∧ ofValue v = .ok node

/-- A node is read as it is spelled. -/
theorem describedBy_read (rounds levels : Nat) :
    Reader.DescribedBy rounds (Node.read ⟨levels + 1, rounds⟩) (SpelledAs (levels + 1)) where
  iff {c node n} hc := by
    rw [Node.read, Reader.peekToken_bind, SpelledAs]
    generalize hhead : c.skipBlanks.rest.head? = head
    split
    · refine (object_eq_ok hc hhead).trans ?_
      simp only [Reader.spelled_object_iff hhead]
      constructor
      · rintro ⟨members, hmembers, hnode⟩
        exact ⟨_, ⟨members, rfl, hmembers⟩, hnode⟩
      · rintro ⟨_, ⟨members, rfl, hmembers⟩, hnode⟩
        exact ⟨members, hmembers, hnode⟩
    · refine (list_eq_ok hc hhead).trans ?_
      simp only [Reader.spelled_list_iff hhead]
      constructor
      · rintro ⟨items, hitems, hnode⟩
        exact ⟨_, ⟨items, rfl, hitems⟩, hnode⟩
      · rintro ⟨_, ⟨items, rfl, hitems⟩, hnode⟩
        exact ⟨items, hitems, hnode⟩
    · next hobject hlist =>
      refine iff_of_false (scalarAs_error_ne_ok fun v a => ?_) ?_
      · rintro ⟨⟩
      · rintro ⟨v, hv, -, hnode⟩
        rw [Reader.spelled_scalar_iff (hhead ▸ hlist) (hhead ▸ hobject)] at hv
        have hscalar := Reader.yields_scalar _ _ _ hv
        cases v with
        | arr _ => cases hscalar
        | obj _ => cases hscalar
        | _ => cases hnode
  shortens := fun ⟨_, hv, _⟩ => hv.length_le

end Node

end Abnf
