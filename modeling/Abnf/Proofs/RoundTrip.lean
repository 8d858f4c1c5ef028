import Abnf.Load
import Abnf.Proofs.Json.Depth
import Abnf.Proofs.ReadBack

/-!
# Writing a grammar and reading it again

A node may be written as a list and with members that mean nothing, and what is read of it may be
written differently again.  It is never written deeper than it was read: a node that comes from a
value does not nest deeper than the value (`noDeeper`).  Hence a grammar that has been read is not
written too deep to be read again, and since a text that is not too deep is read back as what was
written, it is read again as itself (`Grammar.round_trip`).
-/

namespace Abnf

open Json
open Json.Value (nesting nestingItems_le nestingMembers_le)

/-! ## Bounds -/

lemma Repeat.nesting_toValue (r : Repeat) : r.toValue.nesting = 1 := by
  obtain ⟨min, max⟩ := r
  cases max <;> rfl

/-- Bounds are no scalar. -/
lemma Repeat.nesting_of_ofValue {v : Value} {r : Repeat} (h : Repeat.ofValue v = .ok r) :
    r.toValue.nesting ≤ v.nesting := by
  rw [nesting_toValue]
  cases v with
  | arr items => exact Nat.succ_le_succ (Nat.zero_le _)
  | obj members => exact Nat.succ_le_succ (Nat.zero_le _)
  | _ => cases h

/-! ## Fields -/

/-- The fields read so far do not nest deeper than a bound when they are written. -/
structure Parts.Within (n : Nat) (parts : Parts) : Prop where
  /-- The node below. -/
  child : ∀ node ∈ parts.child, node.toValue.nesting ≤ n
  /-- The list of the nodes below. -/
  children : ∀ nodes ∈ parts.children, (Value.arr (nodes.map Node.toValue)).nesting ≤ n
  /-- The bounds of a repetition. -/
  bounds : ∀ r ∈ parts.bounds, r.toValue.nesting ≤ n

namespace Node

/-- What comes from a value, as a node or as a list of nodes, does not nest deeper than the
value. -/
structure NoDeeper (v : Value) : Prop where
  /-- As a node. -/
  node : ∀ node, ofValue v = .ok node → node.toValue.nesting ≤ v.nesting
  /-- As a list of nodes. -/
  nodes : ∀ nodes, listOfValue v = .ok nodes → (Value.arr (nodes.map toValue)).nesting ≤ v.nesting

lemma nesting_le_of_members {node : Node} {n : Nat} (h : ∀ m ∈ node.members, m.2.nesting ≤ n) :
    node.toValue.nesting ≤ n + 1 := by
  rw [toValue_eq, nesting]
  exact Nat.succ_le_succ (nestingMembers_le.2 (List.forall_mem_cons.2 ⟨Nat.zero_le n, h⟩))

/-- A field that is filled from a value does not nest deeper than the value. -/
lemma within_fill {slot : Slot} {v : Value} {n : Nat} {parts parts' : Parts} (hv : NoDeeper v)
    (hn : v.nesting ≤ n) (hparts : parts.Within n)
    (h : slot.fill v (fun _ => ofValue v) (fun _ => listOfValue v) parts = .ok parts') :
    parts'.Within n := by
  -- All other fields are scalars, which leave the bound as it is.
  cases slot with
  | child =>
    obtain ⟨node, hnode, rfl⟩ := exists_of_map_eq_ok h
    exact { hparts with child := by rintro _ ⟨⟩; exact Nat.le_trans (hv.node node hnode) hn }
  | children =>
    obtain ⟨nodes, hnodes, rfl⟩ := exists_of_map_eq_ok h
    exact { hparts with children := by rintro _ ⟨⟩; exact Nat.le_trans (hv.nodes nodes hnodes) hn }
  | bounds =>
    obtain ⟨r, hr, rfl⟩ := exists_of_map_eq_ok h
    have hbounds := Nat.le_trans (Repeat.nesting_of_ofValue hr) hn
    exact { hparts with bounds := by rintro _ ⟨⟩; exact hbounds }
  | name | text | baseOrNull | base | first | last =>
    obtain ⟨_, -, rfl⟩ := exists_of_map_eq_ok h
    exact { hparts with }

/-- The fields of a kind among members, or of elements, do not nest deeper than these. -/
lemma within_partsOfMembers {kind : Kind} {members : List (String × Value)} {n : Nat}
    (hmembers : ∀ m ∈ members, NoDeeper m.2 ∧ m.2.nesting ≤ n) {parts parts' : Parts}
    (hparts : parts.Within n) (h : partsOfMembers kind members parts = .ok parts') :
    parts'.Within n := by
  induction members generalizing parts with
  | nil =>
    rw [partsOfMembers] at h
    exact Except.ok.inj h ▸ hparts
  | cons m rest ih =>
    obtain ⟨⟨hm, hn⟩, hrest⟩ := List.forall_mem_cons.1 hmembers
    obtain ⟨name, v⟩ := m
    rw [partsOfMembers] at h
    split at h
    · exact ih hrest hparts h
    · split at h
      · cases h
      · obtain ⟨filled, hfill, hgo⟩ := exists_of_bind_eq_ok h
        exact ih hrest (within_fill hm hn hparts hfill) hgo

lemma within_partsOfItems {kind : Kind} {items : List Value} {n : Nat}
    (hitems : ∀ v ∈ items, NoDeeper v ∧ v.nesting ≤ n) {done : Nat}
    {fields : List (String × Slot)} {parts parts' : Parts} (hparts : parts.Within n)
    (h : partsOfItems kind done fields items parts = .ok parts') : parts'.Within n := by
  induction items generalizing done fields parts with
  | nil =>
    rw [partsOfItems] at h
    obtain ⟨_, -, rfl⟩ := exists_of_map_eq_ok h
    exact hparts
  | cons v rest ih =>
    obtain ⟨⟨hv, hn⟩, hrest⟩ := List.forall_mem_cons.1 hitems
    cases fields with
    | nil =>
      rw [partsOfItems] at h
      cases h
    | cons field fields =>
      rw [partsOfItems] at h
      obtain ⟨filled, hfill, hgo⟩ := exists_of_bind_eq_ok h
      exact ih hrest (within_fill hv hn hparts hfill) hgo

lemma eq_some_of_require {α : Type} {name : String} {field : Option α} {a : α}
    (h : Slot.require name field = .ok a) : field = some a := by
  cases field with
  | none => cases h
  | some b => rw [Except.ok.inj h]

/-- A node nests one level deeper than its fields. -/
lemma nesting_of_assemble {kind : Kind} {parts : Parts} {n : Nat} {node : Node}
    (hparts : parts.Within n) (h : kind.assemble parts = .ok node) :
    node.toValue.nesting ≤ n + 1 := by
  apply nesting_le_of_members
  have hscalar : 0 ≤ n := Nat.zero_le n
  cases kind with
  | rule =>
    obtain ⟨name, -, h⟩ := exists_of_bind_eq_ok h
    obtain ⟨definition, hdefinition, h⟩ := exists_of_bind_eq_ok h
    obtain rfl := Except.ok.inj h
    have hchild := hparts.child definition (eq_some_of_require hdefinition)
    exact List.forall_mem_cons.2 ⟨hscalar, List.forall_mem_singleton.2 hchild⟩
  | literal casing =>
    obtain ⟨text, -, h⟩ := exists_of_bind_eq_ok h
    obtain rfl := Except.ok.inj h
    have hbase : (Value.ofOption Base.toValue (parts.base.getD none)).nesting ≤ n := by
      cases parts.base.getD none <;> exact hscalar
    exact List.forall_mem_cons.2 ⟨hscalar, List.forall_mem_singleton.2 hbase⟩
  | range =>
    obtain ⟨first, -, h⟩ := exists_of_bind_eq_ok h
    obtain ⟨last, -, h⟩ := exists_of_bind_eq_ok h
    obtain ⟨base, -, h⟩ := exists_of_bind_eq_ok h
    obtain rfl := Except.ok.inj h
    exact List.forall_mem_cons.2 ⟨hscalar, List.forall_mem_cons.2
      ⟨hscalar, List.forall_mem_singleton.2 hscalar⟩⟩
  | prose =>
    obtain ⟨text, -, rfl⟩ := exists_of_map_eq_ok h
    exact List.forall_mem_singleton.2 hscalar
  | reference =>
    obtain ⟨name, -, rfl⟩ := exists_of_map_eq_ok h
    exact List.forall_mem_singleton.2 hscalar
  | concatenation =>
    obtain ⟨elements, helements, rfl⟩ := exists_of_map_eq_ok h
    exact List.forall_mem_singleton.2
      (hparts.children elements (eq_some_of_require helements))
  | alternation =>
    obtain ⟨choices, hchoices, rfl⟩ := exists_of_map_eq_ok h
    exact List.forall_mem_singleton.2 (hparts.children choices (eq_some_of_require hchoices))
  | group =>
    obtain ⟨inner, hinner, rfl⟩ := exists_of_map_eq_ok h
    exact List.forall_mem_singleton.2 (hparts.child inner (eq_some_of_require hinner))
  | repetition =>
    obtain ⟨element, helement, h⟩ := exists_of_bind_eq_ok h
    obtain ⟨bounds, hbounds, h⟩ := exists_of_bind_eq_ok h
    obtain rfl := Except.ok.inj h
    have hchild := hparts.child element (eq_some_of_require helement)
    have hrep := hparts.bounds bounds (eq_some_of_require hbounds)
    exact List.forall_mem_cons.2 ⟨hchild, List.forall_mem_singleton.2 hrep⟩

lemma within_empty (n : Nat) : Parts.Within n {} := by
  constructor <;> (intro _ h; cases h)

lemma nesting_of_ofValues {items : List Value} (hitems : ∀ v ∈ items, NoDeeper v)
    {nodes : List Node} (h : ofValues items = .ok nodes) :
    (Value.arr (nodes.map toValue)).nesting ≤ (Value.arr items).nesting := by
  induction items generalizing nodes with
  | nil =>
    rw [ofValues] at h
    exact Except.ok.inj h ▸ Nat.le_refl _
  | cons v rest ih =>
    obtain ⟨hv, hrest⟩ := List.forall_mem_cons.1 hitems
    rw [ofValues] at h
    obtain ⟨node, hnode, h⟩ := exists_of_bind_eq_ok h
    obtain ⟨others, hothers, h⟩ := exists_of_bind_eq_ok h
    obtain rfl := Except.ok.inj h
    have hfirst := hv.node node hnode
    have hlater := ih hrest hothers
    simp only [List.map_cons, nesting, Value.nestingItems] at hlater ⊢
    omega

/-- A node that comes from a value does not nest deeper than the value. -/
theorem noDeeper (v : Value) : NoDeeper v := by
  induction v using Value.induction with
  | arr items ih =>
    refine ⟨fun node hnode => ?_, fun nodes hnodes => ?_⟩
    · cases items with
      | nil => cases hnode
      | cons tag items =>
        rw [ofValue] at hnode
        obtain ⟨kind, -, hnode⟩ := exists_of_bind_eq_ok hnode
        obtain ⟨parts, hparts, hnode⟩ := exists_of_bind_eq_ok hnode
        have hbelow := nestingItems_le.1 (Nat.le_refl (Value.nestingItems (tag :: items)))
        have hwithin := within_partsOfItems (fun v hv =>
          ⟨ih v (List.mem_cons_of_mem _ hv), hbelow v (List.mem_cons_of_mem _ hv)⟩)
          (within_empty _) hparts
        exact nesting_of_assemble hwithin hnode
    · rw [listOfValue] at hnodes
      exact nesting_of_ofValues ih hnodes
  | obj members ih =>
    refine ⟨fun node hnode => ?_, fun nodes hnodes => by cases hnodes⟩
    rw [ofValue] at hnode
    obtain ⟨kind, -, hnode⟩ := exists_of_bind_eq_ok hnode
    obtain ⟨parts, hparts, hnode⟩ := exists_of_bind_eq_ok hnode
    have hbelow := nestingMembers_le.1 (Nat.le_refl (Value.nestingMembers members))
    have hwithin := within_partsOfMembers (fun m hm => ⟨ih m hm, hbelow m hm⟩)
      (within_empty _) hparts
    exact nesting_of_assemble hwithin hnode
  | scalar v hv =>
    cases v with
    | arr items => cases hv
    | obj members => cases hv
    | _ => constructor <;> (intro _ h; cases h)

/-! ## Nodes that have been read -/

lemma yields_readMembers (rounds levels : Nat) :
    Yields (readMembers ⟨levels, rounds⟩) fun read => ∀ m ∈ read.2, m.2.nesting ≤ levels := by
  have hmember : ∀ (state : Option Kind × List (String × Value)) (name : String),
      (∀ m ∈ state.2, m.2.nesting ≤ levels) →
      Yields (readMember ⟨levels, rounds⟩ state name) fun state =>
        ∀ m ∈ state.2, m.2.nesting ≤ levels := by
    intro state name hstate
    unfold readMember
    split
    · split
      · exact .refuse _
      · exact .after fun _ => .after fun kind => .pure hstate
    · exact .after fun _ => .bind (Reader.yields_valueWithin rounds levels) fun v hv =>
        .pure (List.forall_mem_cons.2 ⟨hv, hstate⟩)
  refine .bind (Yields.many _ hmember rounds true (by simp)) fun state hstate => ?_
  split
  · exact .pure fun m hm => hstate m (List.mem_reverse.1 hm)
  · exact .refuse _

lemma yields_readItems (rounds levels : Nat) :
    Yields (readItems ⟨levels, rounds⟩) fun read => ∀ v ∈ read.2, v.nesting ≤ levels := by
  refine .after fun first => ?_
  cases first with
  | none => exact .refuse _
  | some _ =>
    refine .after fun kind => ?_
    let Inv (read : List Value) : Prop := ∀ v ∈ read, v.nesting ≤ levels
    refine .bind (Yields.many Inv ?_ rounds false (by simp [Inv])) fun read hread =>
      .pure fun v hv => hread v (List.mem_reverse.1 hv)
    intro read _ hread
    exact .map ((Reader.yields_valueWithin rounds levels).mono fun v hv =>
      List.forall_mem_cons.2 ⟨hv, hread⟩)

/-- A node that has been read does not nest deeper than it may. -/
theorem yields_read (limits : Limits) :
    Yields (Node.read limits) fun node => node.toValue.nesting ≤ limits.levels := by
  refine .after fun c => ?_
  split
  · have hobject : Yields (Reader.object limits readMembers) fun read =>
        ∃ inner, limits.levels = inner + 1 ∧ ∀ m ∈ read.2, m.2.nesting ≤ inner :=
      .object fun inner hinner => (yields_readMembers _ inner).mono fun read hread =>
        ⟨inner, hinner, hread⟩
    refine .bind hobject fun read ⟨inner, hinner, hread⟩ => .ofExcept fun node hnode => ?_
    obtain ⟨parts, hparts, hassemble⟩ := exists_of_bind_eq_ok hnode
    have hwithin := within_partsOfMembers (fun m hm => ⟨noDeeper m.2, hread m hm⟩)
      (within_empty inner) hparts
    rw [hinner]
    exact nesting_of_assemble hwithin hassemble
  · have hlist : Yields (Reader.list limits readItems) fun read =>
        ∃ inner, limits.levels = inner + 1 ∧ ∀ v ∈ read.2, v.nesting ≤ inner :=
      .list fun inner hinner => (yields_readItems _ inner).mono fun read hread =>
        ⟨inner, hinner, hread⟩
    refine .bind hlist fun read ⟨inner, hinner, hread⟩ => .ofExcept fun node hnode => ?_
    obtain ⟨parts, hparts, hassemble⟩ := exists_of_bind_eq_ok hnode
    have hwithin := within_partsOfItems (fun v hv => ⟨noDeeper v, hread v hv⟩)
      (within_empty inner) hparts
    rw [hinner]
    exact nesting_of_assemble hwithin hassemble
  · exact .scalarAs fun v node hnode => by cases hnode

end Node

/-! ## Grammars that have been read -/

lemma Dict.mem_put {α : Type} {key : String} {a : α} {entries : List (String × α)}
    {e : String × α} (h : e ∈ Dict.put key a entries) : e = (key, a) ∨ e ∈ entries := by
  induction entries with
  | nil => exact .inl (List.mem_singleton.1 h)
  | cons first rest ih =>
    rw [put] at h
    split at h
    · exact (List.mem_cons.1 h).imp_right (List.mem_cons_of_mem _)
    · rcases List.mem_cons.1 h with rfl | hrest
      · exact .inr List.mem_cons_self
      · exact (ih hrest).imp_right (List.mem_cons_of_mem _)

/-- What holds of all items that are read one level deeper holds of all values of a dictionary. -/
lemma Dict.yields_read {α : Type} (item : Limits → Reader α) (limits : Limits) {P : α → Prop}
    (h : ∀ inner, limits.levels = inner + 1 → Yields (item ⟨inner, limits.rounds⟩) P) :
    Yields (Dict.read item limits) fun d => ∀ e ∈ d.entries, P e.2 := by
  refine .after fun c => ?_
  split
  · refine .object fun inner hinner => Yields.many _ ?_ limits.rounds true ?_
    · intro d name hd
      refine .after fun _ => .bind (h inner hinner) fun a ha => .pure fun e he => ?_
      rcases mem_put he with rfl | hmem
      · exact ha
      · exact hd e hmem
    · exact fun e he => by cases he
  · exact .scalarAs fun v d hd => by cases hd

namespace Grammar

/-- The nodes of a grammar that has been read stand two levels deep. -/
theorem yields_read (limits : Limits) :
    Yields (Grammar.read limits) fun g =>
      ∀ e ∈ g.definitions.entries, e.2.toValue.nesting + 2 ≤ limits.levels := by
  let Inv (p : Partial) : Prop :=
    ∀ d ∈ p.definitions, ∀ e ∈ d.entries, e.2.toValue.nesting + 2 ≤ limits.levels
  refine .record Inv (fun d hd => by cases hd) ?_ ?_
  · intro inner hinner field hfield state hstate
    simp only [record, List.mem_cons, List.not_mem_nil, or_false] at hfield
    rcases hfield with rfl | rfl
    · have hnode : ∀ below, inner = below + 1 → Yields (Node.read ⟨below, limits.rounds⟩)
          fun node => node.toValue.nesting + 2 ≤ limits.levels := by
        rintro below rfl
        refine (Node.yields_read _).mono fun node (hnode : _ ≤ below) => ?_
        omega
      have hdefinitions := Dict.yields_read Node.read ⟨inner, limits.rounds⟩ hnode
      refine .map (hdefinitions.mono fun d hd => ?_)
      rintro _ ⟨⟩
      exact hd
    -- The listed references leave the definitions as they are.
    · exact .map fun _ _ _ _ => hstate
  · rintro ⟨definitions, listed⟩ g hstate hfinish
    cases definitions with
    | none => cases hfinish
    | some definitions =>
      obtain rfl := Except.ok.inj hfinish
      exact hstate definitions rfl

/-- A grammar that has been read is not written too deep to be read. -/
theorem nesting_of_ofText {text : String} {g : Grammar} (h : Grammar.ofText text = .ok g) :
    g.toValue.nesting < 128 := by
  have hparse : Grammar.parse text = .ok g := by
    rw [Grammar.ofText] at h
    cases hp : Grammar.parse text with
    | error fault => rw [hp] at h; cases h
    | ok g' => rw [hp] at h; exact congrArg _ (Except.ok.inj h)
  have hdepth : ∀ e ∈ g.definitions.entries, e.2.toValue.nesting + 2 ≤ 127 :=
    (yields_read (Limits.of text)).run hparse
  have hdefinitions : (Value.obj (g.definitions.entries.map fun e =>
      (e.1, e.2.toValue))).nesting ≤ 126 := by
    refine Nat.succ_le_succ (nestingMembers_le.2 (List.forall_mem_map.2 fun e he => ?_))
    exact Nat.le_of_add_le_add_right (hdepth e he)
  have hlisted :
      (Value.arr (g.listed.map fun name => .obj [("name", .str name)])).nesting ≤ 126 := by
    refine Nat.succ_le_succ (nestingItems_le.2 (List.forall_mem_map.2 fun name _ => ?_))
    exact Nat.succ_le_succ (Nat.zero_le _)
  refine Nat.lt_succ_of_le (Nat.succ_le_succ (nestingMembers_le.2 ?_))
  exact List.forall_mem_cons.2 ⟨hdefinitions, List.forall_mem_singleton.2 hlisted⟩

/-- A text describes a grammar if it describes one that is written in the same way. -/
theorem ofText_eq_ok_of_compact {text : String} {g : Grammar} (hnesting : g.toValue.nesting < 128)
    (h : (ofText text).toOption.map (fun read => read.toValue.compact) =
      some g.toValue.compact) : ofText text = .ok g := by
  cases hread : ofText text with
  | error e =>
    rw [hread] at h
    cases h
  | ok read =>
    -- What has been read is read from its own text, too, and that is also the text of the grammar.
    have hself := ofText_compact (nesting_of_ofText hread)
    rw [hread] at h
    have hcompact : read.toValue.compact = g.toValue.compact := Option.some.inj h
    rw [hcompact, ofText_compact hnesting] at hself
    exact hself.symm

/-- A grammar is read back as itself from its text, if the text has fewer than 128 lists and objects
inside each other; this is the case whenever the grammar has itself been read from some text. -/
theorem round_trip :
    (∀ g : Grammar, g.toValue.nesting < 128 → Grammar.ofText g.toValue.compact = .ok g) ∧
      ∀ (text : String) (g : Grammar), Grammar.ofText text = .ok g →
        Grammar.ofText g.toValue.compact = .ok g :=
  ⟨fun _ => ofText_compact, fun _ _ h => ofText_compact (nesting_of_ofText h)⟩

/-- A grammar whose texts have to be escaped. -/
def escaped : Grammar where
  definitions :=
    { entries :=
        [("\t", .rule "\"\\\x01é" (.range 0 4294967295 .hexadecimal)),
          ("", .literal .sensitive "" none)]
      distinct := by decide }
  listed := ["😀"]

/-- A text in which a key is repeated, a kind is misspelled and nodes are written as lists. -/
def irregular : String :=
  "\x7b\"x\":0,\"refs\":[[\"b\"]],\"defs\":\x7b\"a\":[\"prose\",\"\"]," ++
    "\"a\":[\"repetition\",[\"caseSensitveString\",\"\\u00e9\"],\x7b\"min\":1\x7d]\x7d\x7d"

/-- The grammar that this text describes. -/
def regular : Grammar where
  definitions :=
    { entries := [("a", .repetition (.literal .sensitive "é" none) ⟨1, none⟩)]
      distinct := by decide }
  listed := ["b"]

lemma ofText_irregular : Grammar.ofText irregular = .ok regular :=
  ofText_eq_ok_of_compact (by decide) (by decide +kernel)

/-- Both grammars are read back from their texts, one of them after it has been read from a text that
is written in another way. -/
theorem round_trip_escaped : escaped.toValue.nesting < 128 ∧
    Grammar.ofText escaped.toValue.compact = .ok escaped ∧
    Grammar.ofText irregular = .ok regular ∧
    Grammar.ofText regular.toValue.compact = .ok regular :=
  ⟨by decide, round_trip.1 escaped (by decide), ofText_irregular,
    round_trip.2 irregular regular ofText_irregular⟩

end Grammar

end Abnf
