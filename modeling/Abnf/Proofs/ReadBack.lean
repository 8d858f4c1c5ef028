import Abnf.Grammar.Encode
import Abnf.Load
import Abnf.Proofs.Json.Values
import Abnf.Proofs.Tree

/-!
# Reading back what is written: grammars

The text of a grammar is read back as the grammar.  A node is written as an object that begins with
the name of its kind; when it is read, its other members are kept as values until the end of the
object and give back the fields of the node, and the nodes below it, by recursion on values.
-/

namespace Abnf

open Json
open Json.Reader (Chain)

/-! ## Values of nodes -/

lemma asWord_wordValue (n : UInt32) : (wordValue n).asWord = .ok n := by
  have hlt := n.toNat_lt
  rw [wordValue, Value.asWord, if_pos ⟨by omega, by simp [UInt32.size]; omega⟩]
  simp

lemma asOptional_wordValue (n : Option UInt32) :
    (Value.ofOption wordValue n).asOptional Value.asWord = .ok n := by
  cases n with
  | none => rfl
  | some n =>
    show some <$> (wordValue n).asWord = _
    rw [asWord_wordValue]
    rfl

lemma Base.ofValue_toValue (b : Base) : Base.ofValue b.toValue = .ok b := by
  cases b <;> rfl

lemma Base.asOptional_toValue (b : Option Base) :
    (Value.ofOption Base.toValue b).asOptional Base.ofValue = .ok b := by
  cases b with
  | none => rfl
  | some b => cases b <;> rfl

lemma Repeat.ofValue_obj {v w : Value} {min : UInt32} {max : Option UInt32}
    (hmin : v.asWord = .ok min) (hmax : w.asOptional Value.asWord = .ok max) :
    Repeat.ofValue (.obj [("min", v), ("max", w)]) = .ok ⟨min, max⟩ := by
  have hleast : Partial.add {} ("min", v) = .ok { min := some min } := by
    simp [Partial.add, hmin, bind, Except.bind]
  have hmost : Partial.add { min := some min } ("max", w) = .ok ⟨some min, some max⟩ := by
    simp [Partial.add, hmax, bind, Except.bind]
  rw [Repeat.ofValue, List.foldlM_cons, hleast]
  show (([("max", w)].foldlM Partial.add { min := some min } : Except Cause Partial) >>=
    Partial.finish) = _
  rw [List.foldlM_cons, hmost]
  rfl

lemma Repeat.ofValue_toValue (r : Repeat) : Repeat.ofValue r.toValue = .ok r :=
  Repeat.ofValue_obj (asWord_wordValue r.min) (asOptional_wordValue r.max)

lemma Kind.ofIdentifier_tag (kind : Kind) : Kind.named.ofIdentifier (.str kind.tag) = .ok kind := by
  cases kind with
  | literal casing => cases casing <;> rfl
  | _ => rfl

namespace Node

/-- The members of the object for a node, after the one that names its kind. -/
def members : Node → List (String × Value)
  | .rule name definition => [("name", .str name), ("def", definition.toValue)]
  | .literal _ text base => [("str", .str text), ("base", Value.ofOption Base.toValue base)]
  | .range first last base =>
    [("first", wordValue first), ("last", wordValue last), ("base", base.toValue)]
  | .prose text => [("str", .str text)]
  | .reference name => [("name", .str name)]
  | .concatenation elements => [("elements", .arr (elements.map toValue))]
  | .alternation choices => [("alts", .arr (choices.map toValue))]
  | .group inner => [("alt", inner.toValue)]
  | .repetition element bounds => [("el", element.toValue), ("rep", bounds.toValue)]

lemma toValue_eq (node : Node) :
    node.toValue = .obj ((tagKey, .str node.kind.tag) :: node.members) := by
  cases node <;> simp [toValue, members, kind, tagKey]

lemma ne_tagKey_of_mem {node : Node} {m : String × Value} (h : m ∈ node.members) :
    m.1 ≠ tagKey := by
  have hall : ∀ name ∈ node.members.map Prod.fst, name ≠ tagKey := by
    cases node <;> simp [members] <;> decide
  exact hall m.1 (List.mem_map_of_mem h)

/-- The nodes below several nodes come back from their values. -/
lemma ofValues_toValue (nodes : List Node) (h : ∀ node ∈ nodes, ofValue node.toValue = .ok node) :
    ofValues (nodes.map toValue) = .ok nodes := by
  induction nodes with
  | nil => simp [ofValues]
  | cons node rest ih =>
    rw [List.map_cons, ofValues, h node (by simp),
      ih fun other hother => h other (by simp [hother])]
    rfl

lemma partsOfMembers_cons {kind : Kind} {name : String} {v : Value} {slot : Slot}
    {rest : List (String × Value)} {parts parts' : Parts}
    (hslot : kind.fields.lookup name = some slot) (hset : slot.isSet parts = false)
    (hfill : slot.fill v (fun _ => ofValue v) (fun _ => listOfValue v) parts = .ok parts') :
    partsOfMembers kind ((name, v) :: rest) parts = partsOfMembers kind rest parts' := by
  rw [partsOfMembers, hslot]
  simp [hset, hfill, bind, Except.bind]

/-- The fields of a node come back from its members, if the nodes below come back from their
values. -/
lemma assemble_members (node : Node)
    (h : ∀ child ∈ node.children, ofValue child.toValue = .ok child) :
    (partsOfMembers node.kind node.members {} >>= node.kind.assemble) = .ok node := by
  cases node with
  | rule name definition =>
    have hchild := h definition (by simp [children])
    rw [members, kind, partsOfMembers_cons rfl rfl rfl, partsOfMembers_cons rfl rfl
      (by rw [Slot.fill, hchild]; rfl)]
    rfl
  | literal casing text base =>
    rw [members, kind, partsOfMembers_cons rfl rfl rfl, partsOfMembers_cons rfl rfl
      (by rw [Slot.fill, Base.asOptional_toValue]; rfl)]
    rfl
  | range first last base =>
    rw [members, kind, partsOfMembers_cons rfl rfl (by rw [Slot.fill, asWord_wordValue]; rfl),
      partsOfMembers_cons rfl rfl (by rw [Slot.fill, asWord_wordValue]; rfl),
      partsOfMembers_cons rfl rfl (by rw [Slot.fill, Base.ofValue_toValue]; rfl)]
    rfl
  | prose text => rfl
  | reference name => rfl
  | concatenation elements =>
    have hchildren := ofValues_toValue elements h
    rw [members, kind, partsOfMembers_cons rfl rfl
      (by rw [Slot.fill, listOfValue, hchildren]; rfl)]
    rfl
  | alternation choices =>
    have hchildren := ofValues_toValue choices h
    rw [members, kind, partsOfMembers_cons rfl rfl
      (by rw [Slot.fill, listOfValue, hchildren]; rfl)]
    rfl
  | group inner =>
    have hchild := h inner (by simp [children])
    rw [members, kind, partsOfMembers_cons rfl rfl (by rw [Slot.fill, hchild]; rfl)]
    rfl
  | repetition element bounds =>
    have hchild := h element (by simp [children])
    rw [members, kind, partsOfMembers_cons rfl rfl (by rw [Slot.fill, hchild]; rfl),
      partsOfMembers_cons rfl rfl (by rw [Slot.fill, Repeat.ofValue_toValue]; rfl)]
    rfl

lemma kindOfMembers_some (kind : Kind) {members : List (String × Value)}
    (h : ∀ m ∈ members, m.1 ≠ tagKey) : kindOfMembers (some kind) members = .ok kind := by
  induction members with
  | nil => rfl
  | cons m rest ih =>
    rw [kindOfMembers, if_neg (h m (by simp)), ih fun other hother => h other (by simp [hother])]

/-- A node comes back from its value. -/
theorem ofValue_toValue (node : Node) : ofValue node.toValue = .ok node := by
  induction node using induction_children with
  | step node ih =>
    have hkind : kindOfMembers none ((tagKey, .str node.kind.tag) :: node.members) =
        .ok node.kind := by
      have hkey : ∀ m ∈ node.members, m.1 ≠ tagKey := fun m hm => ne_tagKey_of_mem hm
      have hrest := kindOfMembers_some node.kind hkey
      rw [kindOfMembers, if_pos rfl]
      show (Kind.named.ofIdentifier (.str node.kind.tag) >>= fun kind =>
        kindOfMembers (some kind) node.members) = _
      rw [Kind.ofIdentifier_tag]
      exact hrest
    -- No kind has a field with the name of the member that names the kind.
    have hparts : partsOfMembers node.kind ((tagKey, .str node.kind.tag) :: node.members) {} =
        partsOfMembers node.kind node.members {} := by
      have hlookup : node.kind.fields.lookup tagKey = none := by cases node <;> rfl
      rw [partsOfMembers, hlookup]
    rw [toValue_eq, ofValue, hkind]
    show (partsOfMembers node.kind ((tagKey, .str node.kind.tag) :: node.members) {} >>=
      node.kind.assemble) = _
    rw [hparts, assemble_members node ih]

/-! ## Texts of nodes -/

lemma plain_wordValue (n : UInt32) : (wordValue n).Plain :=
  .int (Nat.lt_trans n.toNat_lt (by decide))

lemma plain_baseValue (b : Base) : b.toValue.Plain :=
  .int (Nat.lt_of_le_of_lt b.radix_le_sixteen (by decide))

lemma plain_ofOption {α : Type} {f : α → Value} (h : ∀ a, (f a).Plain) (a : Option α) :
    (Value.ofOption f a).Plain := by
  cases a with
  | none => exact .null
  | some a => exact h a

lemma plain_repeatValue (r : Repeat) : r.toValue.Plain := by
  refine .obj ?_
  simpa using ⟨plain_wordValue r.min, plain_ofOption plain_wordValue r.max⟩

/-- The value of a node has no floating point numbers and no large ones. -/
lemma plain_toValue (node : Node) : node.toValue.Plain := by
  induction node using induction_children with
  | step node ih =>
    have harr : ∀ nodes ⊆ node.children, (Value.arr (nodes.map toValue)).Plain := by
      intro nodes hnodes
      exact .arr (List.forall_mem_map.2 fun child hchild => ih child (hnodes hchild))
    rw [toValue_eq]
    refine .obj (List.forall_mem_cons.2 ⟨.str _, ?_⟩)
    cases node with
    | rule name definition => simpa [members] using ⟨.str name, ih definition (by simp [children])⟩
    | literal casing text base =>
      simpa [members] using ⟨.str text, plain_ofOption plain_baseValue base⟩
    | range first last base =>
      simpa [members] using ⟨plain_wordValue first, plain_wordValue last, plain_baseValue base⟩
    | prose text => simpa [members] using .str text
    | reference name => simpa [members] using .str name
    | concatenation elements => simpa [members] using harr elements (List.Subset.refl _)
    | alternation choices => simpa [members] using harr choices (List.Subset.refl _)
    | group inner => simpa [members] using ih inner (by simp [children])
    | repetition element bounds =>
      simpa [members] using ⟨ih element (by simp [children]), plain_repeatValue bounds⟩

/-- A member of a node that does not name its kind is kept as a value. -/
lemma reads_readMember {limits : Limits} {m : String × Value} (hkey : m.1 ≠ tagKey)
    (hvalue : Reads Closes (Reader.value limits) m.2.compact.toList m.2)
    (state : Option Kind × List (String × Value)) :
    Reads Closes (readMember limits state m.1) (':' :: m.2.compact.toList)
      (state.1, m :: state.2) := by
  rw [readMember, if_neg hkey]
  exact Reader.reads_colon.bind (hvalue.map fun v => (state.1, (m.1, v) :: state.2))
    fun _ _ => trivial

/-- The members of a node after the one that names its kind are kept as values. -/
lemma chain_members {members : List (String × Value)} {limits : Limits} (kind : Kind)
    (hkey : ∀ m ∈ members, m.1 ≠ tagKey)
    (hvalue : ∀ m ∈ members, Reads Closes (Reader.value limits) m.2.compact.toList m.2) :
    Chain Reader.nextMember (readMember limits) false (some kind, [])
      (members.map Value.writeMember) (some kind, members.reverse) := by
  have hchain := Chain.of_forall (fun state m => (state.1, m :: state.2))
    (fun m hm isFirst state =>
      Reader.reads_member (reads_readMember (hkey m hm) (hvalue m hm) state) isFirst)
    false (some kind, [])
  have hfold : members.foldl (fun state m => (state.1, m :: state.2)) (some kind, []) =
      (some kind, members.foldl (fun read m => id m :: read) []) :=
    List.foldl_hom (fun read => (some kind, read)) fun _ _ => rfl
  rw [hfold, List.foldl_flip_cons_eq_append, List.map_id, List.append_nil] at hchain
  exact hchain

/-- The text of a node is read back as the node. -/
theorem reads_node {node : Node} {limits : Limits} (hfits : node.toValue.Fits limits) :
    Reads Closes (Node.read limits) node.toValue.compact.toList node := by
  obtain ⟨levels, rounds⟩ := limits
  have hplain := plain_toValue node
  rw [toValue_eq] at hfits hplain ⊢
  obtain ⟨levels, rfl, hcount, hmembers⟩ := hfits.members
  -- Only the kind is decoded where it stands; the other members are decoded behind the object.
  have hkind : Reads Closes (readMember ⟨levels, rounds⟩ (none, []) tagKey)
      (':' :: (Value.str node.kind.tag).compact.toList) (some node.kind, []) := by
    have hread := Reader.reads_scalarAs (.str _) rfl node.kind.ofIdentifier_tag
    exact Reader.reads_colon.bind (hread.map fun kind => (some kind, [])) fun _ _ => trivial
  have hvalue : ∀ m ∈ node.members,
      Reads Closes (Reader.value ⟨levels, rounds⟩) m.2.compact.toList m.2 := fun m hm =>
    Reader.reads_valueWithin (hplain.members m (List.mem_cons_of_mem _ hm))
      (hmembers m (List.mem_cons_of_mem _ hm))
  have hchain : Chain Reader.nextMember (readMember ⟨levels, rounds⟩) true (none, [])
      (((tagKey, .str node.kind.tag) :: node.members).map Value.writeMember)
      (some node.kind, node.members.reverse) :=
    .cons (Reader.reads_member hkind true)
      (chain_members node.kind (fun m hm => ne_tagKey_of_mem hm) hvalue)
  have hcontents : Reads (Reader.Before '}') (readMembers ⟨levels, rounds⟩) _
      (node.kind, node.members) :=
    (Reader.reads_members hchain (by simpa using hcount)).finish (by simp)
  have hobject := (Reader.reads_object readMembers hcontents).closes
  have hassemble := assemble_members node fun child _ => ofValue_toValue child
  rw [Value.toList_obj]
  refine Reader.reads_peekToken (by decide) (hobject.finish ?_)
  show Reader.ofExcept (partsOfMembers node.kind node.members {} >>= node.kind.assemble) = _
  rw [hassemble]
  rfl

end Node

/-! ## Dictionaries -/

namespace Dict

variable {α : Type}

lemma eq_of_entries {d e : Dict α} (h : d.entries = e.entries) : d = e := by
  cases d
  cases e
  cases h
  rfl

lemma put_of_not_mem {key : String} {entries : List (String × α)} (a : α)
    (h : key ∉ entries.map Prod.fst) : put key a entries = entries ++ [(key, a)] := by
  induction entries with
  | nil => rfl
  | cons e rest ih =>
    rw [List.map_cons, List.mem_cons, not_or] at h
    rw [put, if_neg (Ne.symm h.1), ih h.2, List.cons_append]

lemma entries_insert (d : Dict α) {key : String} (a : α) (h : key ∉ d.entries.map Prod.fst) :
    (d.insert key a).entries = d.entries ++ [(key, a)] :=
  put_of_not_mem a h

/-- The entries of a dictionary may be inserted one after the other: their keys are distinct, so
that each of them comes last. -/
lemma foldl_insert {d d' : Dict α} {entries : List (String × α)}
    (h : d'.entries = d.entries ++ entries) :
    entries.foldl (fun d e => d.insert e.1 e.2) d = d' := by
  induction entries generalizing d with
  | nil =>
    rw [List.append_nil] at h
    exact (eq_of_entries h).symm
  | cons e entries ih =>
    have hdistinct := d'.distinct
    rw [h, List.map_append, List.map_cons] at hdistinct
    have hnew : e.1 ∉ d.entries.map Prod.fst := fun hmem =>
      (List.nodup_append.1 hdistinct).2.2 e.1 hmem e.1 (by simp) rfl
    refine ih ?_
    rw [h, d.entries_insert e.2 hnew, List.append_assoc, List.singleton_append]

/-- A member of a dictionary is read, and inserted. -/
lemma reads_entry {item : Reader α} {value : α → Value} {e : String × α}
    (hitem : Reads Closes item (value e.2).compact.toList e.2) (isFirst : Bool) (d : Dict α) :
    Reads Closes (Reader.part Reader.nextMember (fun (d : Dict α) name => do
        Reader.colon
        let a ← item
        pure (d.insert name a)) isFirst d)
      (separator isFirst ++ Value.writeMember (e.1, value e.2)) (some (d.insert e.1 e.2)) :=
  Reader.reads_member (Reader.reads_colon.bind (hitem.map fun a => d.insert e.1 a)
    fun _ _ => trivial) isFirst

/-- The text of a dictionary is read back as the dictionary. -/
lemma reads_dict (item : Limits → Reader α) (value : α → Value) {d : Dict α} {limits : Limits}
    (hitem : ∀ e ∈ d.entries, ∀ limits, (value e.2).Fits limits →
      Reads Closes (item limits) (value e.2).compact.toList e.2)
    (hfits : (Value.obj (d.entries.map fun e => (e.1, value e.2))).Fits limits) :
    Reads Closes (Dict.read item limits)
      (Value.obj (d.entries.map fun e => (e.1, value e.2))).compact.toList d := by
  obtain ⟨levels, rounds⟩ := limits
  obtain ⟨levels, rfl, hcount, hmembers⟩ := hfits.members
  have hvalues : ∀ e ∈ d.entries,
      Reads Closes (item ⟨levels, rounds⟩) (value e.2).compact.toList e.2 := fun e he =>
    hitem e he ⟨levels, rounds⟩ (hmembers _ (List.mem_map_of_mem he))
  have hchain := Chain.of_forall (fun d e => d.insert e.1 e.2)
    (fun e he => reads_entry (hvalues e he)) true (empty : Dict α)
  rw [foldl_insert (d := empty) rfl] at hchain
  have hcontents := Reader.reads_members hchain (by simpa using hcount)
  rw [Value.toList_obj, List.map_map]
  refine Reader.reads_peekToken (by decide) ?_
  exact (Reader.reads_object (fun inner => Reader.members inner.rounds _ empty) hcontents).closes

end Dict

/-! ## Records -/

namespace Json.Reader

variable {σ α : Type}

/-- A member of a record is read into the field that it names. -/
lemma reads_recordMember {fields : List (Field σ)} {field : Field σ} {name : String}
    (limits : Limits) {piece : List Char} (state : σ) {state' : σ}
    (hfield : fields.find? (fun f => f.name == name) = some field)
    (hset : field.isSet state = false)
    (hread : Reads Closes (field.read limits state) piece state') :
    Reads Closes (recordMember fields limits state name) (':' :: piece) state' := by
  unfold recordMember
  simp only [hfield, hset, Bool.false_eq_true, if_false]
  exact reads_colon.bind hread fun _ _ => trivial

/-- A record is read from an object. -/
lemma reads_record {layout : Record σ α} {pieces : List (List Char)} {levels rounds : Nat}
    {state : σ} {a : α}
    (hchain : Chain nextMember (recordMember layout.fields ⟨levels, rounds⟩) true layout.empty
      pieces state)
    (hcount : pieces.length < rounds) (hfinish : layout.finish state = .ok a) :
    Reads Closes (record layout ⟨levels + 1, rounds⟩)
      ('{' :: ([','].intercalate pieces ++ ['}'])) a := by
  have hcontents := (reads_members hchain hcount).finish
    (f := fun state => ofExcept (layout.finish state)) (b := a) (by rw [hfinish]; rfl)
  refine reads_peekToken (by decide) ?_
  exact (reads_object (fun inner => members inner.rounds _ layout.empty >>= _) hcontents).closes

end Json.Reader

/-! ## Grammars -/

namespace Grammar

/-- The text of a listed reference is read back as the name. -/
lemma reads_reference {name : String} {limits : Limits}
    (hfits : (Value.obj [("name", .str name)]).Fits limits) :
    Reads Closes (Reader.record referenceRecord limits)
      (Value.obj [("name", .str name)]).compact.toList name := by
  obtain ⟨levels, rounds⟩ := limits
  obtain ⟨levels, rfl, hcount, -⟩ := hfits.members
  have hname : Reads Closes (Reader.scalarAs Value.asText) (Value.str name).compact.toList name :=
    Reader.reads_scalarAs (.str name) rfl rfl
  have hfield : referenceRecord.fields.find? (fun f => f.name == "name") =
      some ⟨"name", false, Option.isSome, fun _ _ => some <$> Reader.text⟩ := rfl
  have hmember := Reader.reads_recordMember ⟨levels, rounds⟩ none hfield rfl (hname.map some)
  rw [Value.toList_obj]
  exact Reader.reads_record (.cons (Reader.reads_member hmember true) .nil) (by simpa using hcount)
    rfl

/-- The text of the listed references is read back as their names. -/
lemma reads_listed (names : List String) {limits : Limits}
    (hfits : (Value.arr (names.map fun name => .obj [("name", .str name)])).Fits limits) :
    Reads Closes (Reader.listOf (Reader.record referenceRecord) limits)
      (Value.arr (names.map fun name => .obj [("name", .str name)])).compact.toList names := by
  obtain ⟨levels, rounds⟩ := limits
  have hplain : ∀ name, (Value.obj [("name", .str name)]).Plain := fun name =>
    .obj (List.forall_mem_singleton.2 (.str name))
  obtain ⟨levels, rfl, hcount, hitems⟩ := hfits.items (List.forall_mem_map.2 fun name _ =>
    hplain name)
  have hnames : ∀ name ∈ names, Reads Closes (Reader.record referenceRecord ⟨levels, rounds⟩)
      (Value.obj [("name", .str name)]).compact.toList (id name) := fun name hname =>
    reads_reference (hitems _ (List.mem_map_of_mem hname))
  have helements := Reader.reads_elements hnames
    (fun name _ => Reader.Starts.of_plain (hplain name)) (by simpa using hcount)
  rw [List.map_id] at helements
  rw [Value.toList_arr, List.map_map]
  refine Reader.reads_peekToken (by decide) ?_
  exact (Reader.reads_list (fun inner => Reader.elements inner.rounds _) helements).closes

/-- The text of a grammar is read back as the grammar. -/
theorem reads_grammar {g : Grammar} {limits : Limits} (hfits : g.toValue.Fits limits) :
    Reads Closes (Grammar.read limits) g.toValue.compact.toList g := by
  obtain ⟨levels, rounds⟩ := limits
  obtain ⟨levels, rfl, hcount, hmembers⟩ := hfits.members
  have hdefinitions := Dict.reads_dict Node.read Node.toValue (d := g.definitions)
    (fun e _ limits hfits => Node.reads_node hfits) (hmembers _ List.mem_cons_self)
  have hlisted := reads_listed g.listed
    (hmembers _ (List.mem_cons_of_mem _ List.mem_cons_self))
  have hdefs : record.fields.find? (fun f => f.name == "defs") = some _ := rfl
  have hrefs : record.fields.find? (fun f => f.name == "refs") = some _ := rfl
  have hfirst := Reader.reads_recordMember ⟨levels, rounds⟩ {} hdefs rfl
    (hdefinitions.map fun d => ({ definitions := some d } : Partial))
  have hsecond := Reader.reads_recordMember ⟨levels, rounds⟩ { definitions := some g.definitions }
    hrefs rfl (hlisted.map fun names => (⟨some g.definitions, some names⟩ : Partial))
  rw [toValue, Value.toList_obj]
  exact Reader.reads_record (.cons (Reader.reads_member hfirst true)
    (.cons (Reader.reads_member hsecond false) .nil)) (by simpa using hcount) rfl

/-- A grammar that does not nest too deep is read back from its text. -/
theorem ofText_compact {g : Grammar} (h : g.toValue.nesting < 128) :
    Grammar.ofText g.toValue.compact = .ok g := by
  have hfits : g.toValue.Fits (Limits.of g.toValue.compact) :=
    ⟨Nat.le_of_lt_succ h, by rw [String.length_toList]; exact Nat.lt_succ_self _⟩
  have hparse : Grammar.parse g.toValue.compact = .ok g := (reads_grammar hfits).run
  rw [Grammar.ofText, hparse]
  rfl

end Grammar

end Abnf
