import Mathlib.Logic.Relation
import Abnf.Proofs.Fields

/-!
# Changes of spelling

A node can be written in several ways.  The members of its object stand in any order, and some may
mean nothing; its kind may have two names; it may be a list; a base or a greatest number of
occurrences that is `null` may be left out, and bounds may be a list as well.  A `Respelling` is one
such change at one place of a value.  None of them changes what the value is, as a node, as a list
of nodes or as bounds (`Respelling.same`), and so no number of them does
(`Respelled.ofValue_eq_ok`).
-/

namespace Abnf

open Json (Value Cause)

/-! ## Changes of spelling -/

/-- One change in the way in which what fills a slot is written. -/
inductive Respelling : Slot → Value → Value → Prop where
  /-- The members of a node stand in another order. -/
  | permuted {members members' : List (String × Value)} (h : members.Perm members') :
      Respelling .child (.obj members) (.obj members')
  /-- A node gets a member with a name that its kind does not have. -/
  | extended {kind : Kind} {members : List (String × Value)} {m : String × Value}
      (hkind : Node.kindOfMembers none members = .ok kind)
      (hname : m.1 ∉ Node.tagKey :: kind.fields.map Prod.fst) :
      Respelling .child (.obj members) (.obj (m :: members))
  /-- The kind of a node is called by another one of its names. -/
  | renamed {kind : Kind} {name name' : String} {members : List (String × Value)}
      (hname : Kind.named.ofName name = .ok kind) (hname' : Kind.named.ofName name' = .ok kind) :
      Respelling .child (.obj ((Node.tagKey, .str name) :: members))
        (.obj ((Node.tagKey, .str name') :: members))
  /-- A node is written as the list of the name of its kind and its fields in their order. -/
  | listed {kind : Kind} {tag : Value} {fields : List (String × Value)}
      (hkind : Kind.ofValue tag = .ok kind)
      (hfields : fields.map Prod.fst <+: kind.fields.map Prod.fst) :
      Respelling .child (.obj ((Node.tagKey, tag) :: fields)) (.arr (tag :: fields.map Prod.snd))
  /-- A base that is `null` is left out. -/
  | baseOmitted {casing : Casing} {members : List (String × Value)}
      (hkind : Node.kindOfMembers none members = .ok (.literal casing))
      (habsent : "base" ∉ members.map Prod.fst) :
      Respelling .child (.obj (("base", .null) :: members)) (.obj members)
  /-- The members of bounds stand in another order. -/
  | boundsPermuted {members members' : List (String × Value)} (h : members.Perm members') :
      Respelling .bounds (.obj members) (.obj members')
  /-- Bounds get a member with another name. -/
  | boundsExtended {members : List (String × Value)} {m : String × Value}
      (hname : m.1 ∉ ["min", "max"]) : Respelling .bounds (.obj members) (.obj (m :: members))
  /-- Bounds are written as a list. -/
  | boundsListed {fields : List (String × Value)}
      (hfields : fields.map Prod.fst <+: ["min", "max"]) :
      Respelling .bounds (.obj fields) (.arr (fields.map Prod.snd))
  /-- A greatest number that is `null` is left out. -/
  | maxOmitted {members : List (String × Value)} (habsent : "max" ∉ members.map Prod.fst) :
      Respelling .bounds (.obj (("max", .null) :: members)) (.obj members)
  /-- A field of a node is respelled. -/
  | field {kind : Kind} {name : String} {slot : Slot} {v v' : Value}
      {members : List (String × Value)} (hkind : Node.kindOfMembers none members = .ok kind)
      (hslot : kind.fields.lookup name = some slot) (h : Respelling slot v v') :
      Respelling .child (.obj ((name, v) :: members)) (.obj ((name, v') :: members))
  /-- A node of a list is respelled. -/
  | item {before after : List Value} {v v' : Value} (h : Respelling .child v v') :
      Respelling .children (.arr (before ++ v :: after)) (.arr (before ++ v' :: after))

/-- Two values come to the same in a slot. -/
def Slot.Same (slot : Slot) (v v' : Value) : Prop :=
  ∀ parts parts', slot.take v parts = .ok parts' ↔ slot.take v' parts = .ok parts'

namespace Slot.Same

variable {v v' : Value}

lemma child_iff : Same .child v v' ↔
    ∀ node, Node.ofValue v = .ok node ↔ Node.ofValue v' = .ok node := by
  constructor
  · intro h node
    simpa [take, fill, Except.map_eq_ok] using h {} { child := some node }
  · intro h parts parts'
    simp only [take, fill, Except.map_eq_ok, h]

lemma children (h : ∀ nodes, Node.listOfValue v = .ok nodes ↔ Node.listOfValue v' = .ok nodes) :
    Same .children v v' := by
  intro parts parts'
  simp only [take, fill, Except.map_eq_ok, h]

lemma bounds (h : ∀ r, Repeat.ofValue v = .ok r ↔ Repeat.ofValue v' = .ok r) :
    Same .bounds v v' := by
  intro parts parts'
  simp only [take, fill, Except.map_eq_ok, h]

/-- A node stays the same if a field of it does. -/
lemma field {kind : Kind} {name : String} {slot : Slot} {members : List (String × Value)}
    (hkind : Node.kindOfMembers none members = .ok kind)
    (hslot : kind.fields.lookup name = some slot) (h : slot.Same v v') :
    Same .child (.obj ((name, v) :: members)) (.obj ((name, v') :: members)) := by
  have htag : name ≠ Node.tagKey := Node.ne_tagKey (Node.mem_of_lookup hslot)
  have hadd (parts parts' : Parts) : Node.addMember kind parts (name, v) = .ok parts' ↔
      Node.addMember kind parts (name, v') = .ok parts' := by
    rw [Node.addMember, Node.addMember, hslot]
    dsimp only
    split
    · exact Iff.rfl
    · exact h parts parts'
  rw [child_iff]
  intro node
  rw [Node.ofValue_obj_of_kind ((Node.kindOfMembers_cons htag).trans hkind),
    Node.ofValue_obj_of_kind ((Node.kindOfMembers_cons htag).trans hkind)]
  simp only [List.foldlM_cons, Except.bind_eq_ok, hadd]

/-- A list stays the same if a node of it does. -/
lemma item {before after : List Value} (h : Same .child v v') :
    Same .children (.arr (before ++ v :: after)) (.arr (before ++ v' :: after)) := by
  rw [child_iff] at h
  refine children fun nodes => ?_
  simp only [Node.listOfValue]
  induction before generalizing nodes with
  | nil => simp only [List.nil_append, Node.ofValues, Except.bind_eq_ok, h]
  | cons first rest ih => simp only [List.cons_append, Node.ofValues, Except.bind_eq_ok, ih]

lemma equivalence (slot : Slot) : Equivalence slot.Same where
  refl _ _ _ := Iff.rfl
  symm h parts parts' := (h parts parts').symm
  trans h h' parts parts' := (h parts parts').trans (h' parts parts')

end Slot.Same

namespace Respelling

variable {slot : Slot} {v v' : Value}

/-- A change of spelling does not change what a slot is filled with. -/
theorem same (h : Respelling slot v v') : slot.Same v v' := by
  induction h with
  | permuted h => exact Slot.Same.child_iff.2 fun node => Node.ofValue_perm h
  | extended hkind hname =>
    exact Slot.Same.child_iff.2 fun node => Node.ofValue_extended hkind hname
  | renamed hname hname' =>
    exact Slot.Same.child_iff.2 fun node => Node.ofValue_renamed hname hname'
  | listed hkind hfields =>
    exact Slot.Same.child_iff.2 fun node => Node.ofValue_listed hkind hfields
  | baseOmitted hkind habsent =>
    exact Slot.Same.child_iff.2 fun node => Node.ofValue_baseOmitted hkind habsent
  | boundsPermuted h => exact .bounds fun r => Repeat.ofValue_perm h
  | boundsExtended hname => exact .bounds fun r => Repeat.ofValue_extended hname
  | boundsListed hfields => exact .bounds fun r => Repeat.ofValue_listed hfields
  | maxOmitted habsent => exact .bounds fun r => Repeat.ofValue_maxOmitted habsent
  | field hkind hslot _ ih => exact .field hkind hslot ih
  | item _ ih => exact .item ih

end Respelling

/-- One value comes of another one by changes of spelling, any number of them in either
direction. -/
def Respelled (slot : Slot) : Value → Value → Prop := Relation.EqvGen (Respelling slot)

namespace Respelled

variable {slot : Slot} {v v' w : Value}

lemma of_respelling (h : Respelling slot v v') : Respelled slot v v' := Relation.EqvGen.rel _ _ h

lemma trans (h : Respelled slot v v') (h' : Respelled slot v' w) : Respelled slot v w :=
  Relation.EqvGen.trans _ _ _ h h'

/-- What one change of spelling keeps is kept by any number of them, in either direction. -/
lemma keeps (R : Value → Value → Prop) (hR : Equivalence R)
    (hstep : ∀ v v', Respelling slot v v' → R v v') (h : Respelled slot v v') : R v v' :=
  hR.eqvGen_iff.1 (Relation.EqvGen.mono hstep _ _ h)

/-- What stands in a field of a node may be respelled in any way. -/
lemma field {kind : Kind} {name : String} {members : List (String × Value)}
    (hkind : Node.kindOfMembers none members = .ok kind)
    (hslot : kind.fields.lookup name = some slot) (h : Respelled slot v v') :
    Respelled .child (.obj ((name, v) :: members)) (.obj ((name, v') :: members)) := by
  let node (v : Value) : Value := .obj ((name, v) :: members)
  have hnode := (Relation.EqvGen.is_equivalence (Respelling .child)).comap node
  exact h.keeps (fun v v' => Respelled .child (node v) (node v')) hnode fun v v' hv =>
    of_respelling (.field hkind hslot hv)

end Respelled

/-- What has been respelled is the same node, however often and wherever this was done. -/
theorem Respelled.ofValue_eq_ok {v v' : Value} {node : Node} (h : Respelled .child v v') :
    Node.ofValue v = .ok node ↔ Node.ofValue v' = .ok node :=
  Slot.Same.child_iff.1 (h.keeps _ (Slot.Same.equivalence _) fun _ _ => Respelling.same) node

namespace Node

/-! ## Values that can be read as nodes -/

/-- The kind of a node, if it is given, is given by its name. -/
def Named : Value → Prop
  | .obj members => ∀ m ∈ members, m.1 = tagKey → ∃ name, m.2 = .str name
  | .arr (tag :: _) => ∃ name, tag = .str name
  | _ => True

variable {kind : Kind} {members : List (String × Value)} {node : Node}

lemma named_cons {m : String × Value} (h : m.1 ≠ tagKey) :
    Named (.obj (m :: members)) ↔ Named (.obj members) := by
  simp [Named, h]

/-- A change of spelling does not turn a name into a number or the other way round. -/
lemma named_iff_of_respelling {v v' : Value} (h : Respelling .child v v') :
    Named v ↔ Named v' := by
  cases h with
  | permuted h => exact forall_congr' fun m => imp_congr_left h.mem_iff
  | extended _ hname => exact (named_cons fun h => hname (h ▸ List.mem_cons_self)).symm
  | renamed _ _ => simp [Named]
  | @listed kind tag fields _ hfields =>
    have hnames : ∀ m ∈ fields, m.1 ≠ tagKey := fun m hm =>
      ne_tagKey (hfields.subset (List.mem_map_of_mem hm))
    refine ⟨fun h => h _ List.mem_cons_self rfl, fun h => List.forall_mem_cons.2 ⟨fun _ => h, ?_⟩⟩
    exact fun m hm htag => absurd htag (hnames m hm)
  | baseOmitted _ _ => exact named_cons (by decide)
  | @field kind name slot v v' members _ hslot _ =>
    have htag := ne_tagKey (mem_of_lookup hslot)
    rw [named_cons htag, named_cons htag]

lemma named_iff_of_respelled {v v' : Value} (h : Respelled .child v v') : Named v ↔ Named v' :=
  h.keeps (fun v v' => Named v ↔ Named v') ⟨fun _ => Iff.rfl, Iff.symm, Iff.trans⟩
    fun _ _ => named_iff_of_respelling

end Node

end Abnf
